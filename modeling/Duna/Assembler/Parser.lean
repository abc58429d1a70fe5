import Duna.Assembler.Token

/-! The parser of `assembler/parser.rs`; a step runs in `InstParserM` over the line's tokens. -/

namespace Duna.Assembler

abbrev InstParserM := StateT (List Token) (Except Failure)

variable {Inst α : Type}

/-- `Vec::remove(0)`, which panics on an empty vector. -/
def remove0 : List α → Except Failure (α × List α)
  | [] => .error (.panic "removal index (is 0) should be < len (is 0)")
  | a :: rest => .ok (a, rest)

/-- Contains arguments for a memory operation. -/
structure MemArgs where
  firstReg : RiscVRegister
  secondReg : RiscVRegister
  imm : DataWord

inductive ImmOrLabel
  | Imm (imm : DataWord)
  | Label (label : Label)

/-- Responsible for parsing a line with an instruction. -/
structure InstParser (Inst : Type) where
  data : ParserData Inst
  headLoc : Location
  instName : String

namespace InstParser

variable (self : InstParser Inst)

def reportError (err : ParseError) : Except Failure α := .error (.error err)

def checkNoMoreArgs (needed : Nat) : InstParserM Unit := fun iter =>
  match iter with
  | [] => .ok ((), [])
  | tok :: rest =>
    match tok.data with
    | .Comment _ => .ok ((), rest)
    | _ => reportError (.tooManyArgs self.headLoc self.instName needed)

def skipComma : List Token → List Token
  | ⟨.Comma, _⟩ :: rest => rest
  | iter => iter

def consumeArgsLoop (n : Nat) (found : List Token) : (passes : Nat) → List Token →
    Except Failure (List Token × List Token)
  | 0, iter => .ok (found, iter)
  | left + 1, iter =>
    match iter with
    | [] => reportError (.wrongArgc self.headLoc self.instName n found.length)
    | tok :: rest =>
      if tok.data.isArg then
        consumeArgsLoop n (found ++ [tok]) left (if 0 < left then skipComma rest else rest)
      else reportError (.badArg tok.location tok.data)

/-- Attempts to consume exactly `n` arguments, possibly comma-separated. -/
def consumeCommasepArgs (n : Nat) : InstParserM (List Token) := fun iter => do
  let (found, iter) ← self.consumeArgsLoop n [] n iter
  if found.length ≠ n then .error (.panic "assertion failed: found.len() == (n as usize)")
  else
    let ((), iter) ← self.checkNoMoreArgs n iter
    return (found, iter)

def unboundedLoop (toks : List Token) (wasComma : Bool) : List Token →
    Except Failure (List Token × List Token)
  | [] => .ok (toks, [])
  | tok :: rest =>
    match tok.data with
    | .Name _ | .Immediate _ _ => unboundedLoop (toks ++ [tok]) false rest
    | .Comma =>
      if wasComma then reportError (.badArg tok.location tok.data)
      else unboundedLoop toks true rest
    | .Comment _ => .ok (toks, rest)
    | _ => reportError (.badArg tok.location tok.data)

def consumeUnboundedCommasepArgs : InstParserM (List Token) := fun iter => unboundedLoop [] true iter

def tryNextTok (neededArgs foundSoFar : Nat) : InstParserM Token := fun iter =>
  match iter with
  | [] => reportError (.wrongArgc self.headLoc self.instName neededArgs foundSoFar)
  | tok :: rest => .ok (tok, rest)

def tryPeekTok (neededArgs foundSoFar : Nat) : InstParserM Token := fun iter =>
  match iter with
  | [] => reportError (.wrongArgc self.headLoc self.instName neededArgs foundSoFar)
  | tok :: _ => .ok (tok, iter)

def tryParseReg (token : Token) : Except Failure RiscVRegister :=
  match token.data with
  | .Name name =>
    match self.data.regExpansionTable name with
    | some reg => .ok reg
    | none => reportError (.unexpectedType token.location "register name" token.data)
  | _ => reportError (.unexpectedType token.location "register name" token.data)

/-- Parses an immediate of at most `n` bits; the shift panics from 32 on, and `n - 1` below 1. -/
def tryParseImm (n : Nat) (token : Token) : Except Failure DataWord :=
  match token.data with
  | .Immediate val radix => do
    let mask : BitVec 32 ← if n = 32 then pure 0 else do
      let shift ← if val.msb then
          if n = 0 then .error (.panic "attempt to subtract with overflow") else pure (n - 1)
        else pure n
      if shift < 32 then pure ((-1 : BitVec 32) <<< shift)
      else .error (.panic "attempt to shift left with overflow")
    let maskResult := val &&& mask
    if maskResult ≠ 0 ∧ maskResult ≠ mask then
      reportError (.immTooBig token.location n (radix.format val))
    else pure val
  | _ => reportError (.unexpectedType token.location "immediate" token.data)

def tryParseImmOrLabelRef (maxImmLen : Nat) (token : Token) : Except Failure ImmOrLabel :=
  match token.data with
  | .Name name => .ok (.Label name)
  | _ => .Imm <$> tryParseImm maxImmLen token

/-- `self.try_parse_reg(args.remove(0))?`. -/
def popReg (args : List Token) : Except Failure (RiscVRegister × List Token) := do
  let (arg, args) ← remove0 args
  return (← self.tryParseReg arg, args)

def popImm (n : Nat) (args : List Token) : Except Failure (DataWord × List Token) := do
  let (arg, args) ← remove0 args
  return (← tryParseImm n arg, args)

def popImmOrLabel (n : Nat) (args : List Token) : Except Failure (ImmOrLabel × List Token) := do
  let (arg, args) ← remove0 args
  return (← tryParseImmOrLabelRef n arg, args)

/-- Consumes the arguments of a memory operation, `inst reg, imm, reg` or `inst reg, imm(reg)`. -/
def consumeMemArgs : InstParserM MemArgs := do
  let firstTok ← self.tryNextTok 3 0
  let firstReg ← liftM (self.tryParseReg firstTok)
  let maybeComma ← self.tryPeekTok 3 1
  if maybeComma.data = .Comma then modify List.tail
  let immTok ← self.tryNextTok 3 1
  let imm ← liftM (tryParseImm 12 immTok)
  let maybeLparen ← self.tryPeekTok 3 2
  let isLparen ← if maybeLparen.data = .LParen then do modify List.tail; pure true else pure false
  let reg2Tok ← self.tryNextTok 3 2
  let secondReg ← liftM (self.tryParseReg reg2Tok)
  if isLparen then
    let maybeRparen ← self.tryNextTok 3 2
    if maybeRparen.data ≠ .RParen then
      liftM (reportError (.unclosedParen maybeRparen.location maybeRparen.data) : Except Failure Unit)
  self.checkNoMoreArgs 3
  return ⟨firstReg, secondReg, imm⟩

def okWrapConcr (inst : Inst) : List (PartialInst Inst) := [PartialInst.newComplete inst]

def tryExpandFoundInst : ParseType Inst → InstParserM (List (PartialInst Inst))
  | .R instNew => do
    let args ← self.consumeCommasepArgs 3
    let (rd, args) ← liftM (self.popReg args)
    let (rs1, args) ← liftM (self.popReg args)
    let (rs2, _) ← liftM (self.popReg args)
    return okWrapConcr (instNew rd rs1 rs2)
  | .Arith instNew => do
    let args ← self.consumeCommasepArgs 3
    let (rd, args) ← liftM (self.popReg args)
    let (rs1, args) ← liftM (self.popReg args)
    let (imm, _) ← liftM (popImm 12 args)
    return okWrapConcr (instNew rd rs1 imm)
  | .Env instNew => do
    let _args ← self.consumeCommasepArgs 0
    return okWrapConcr (instNew ())
  | .MemL instNew => do
    let args ← self.consumeMemArgs
    return okWrapConcr (instNew args.firstReg args.secondReg args.imm)
  | .MemS instNew => do
    let args ← self.consumeMemArgs
    return okWrapConcr (instNew args.secondReg args.firstReg args.imm)
  | .B instNew => do
    let args ← self.consumeCommasepArgs 3
    let (rs1, args) ← liftM (self.popReg args)
    let (rs2, args) ← liftM (self.popReg args)
    let (lastArg, _) ← liftM (popImmOrLabel 13 args)
    match lastArg with
    | .Imm imm =>
      if imm &&& 1 ≠ 0 then
        liftM (reportError (.generic self.headLoc
          ("branch immediates must be multiples of two, got " ++ toString imm.toInt)) :
            Except Failure (List (PartialInst Inst)))
      else return okWrapConcr (instNew rs1 rs2 imm)
    | .Label tgtLabel => return [PartialInst.newTwoRegNeedsLabel instNew rs1 rs2 tgtLabel]
  | .Jal => do
    let args ← consumeUnboundedCommasepArgs
    let argc := args.length
    match argc with
    | 1 => do
      let (lastArg, _) ← liftM (popImmOrLabel 20 args)
      match lastArg with
      | .Imm imm => return okWrapConcr (self.data.jalPseudoExpand imm)
      | .Label tgtLabel => return [PartialInst.newNoRegNeedsLabel self.data.jalPseudoExpand tgtLabel]
    | 2 => do
      let (rd, args) ← liftM (self.popReg args)
      let (lastArg, _) ← liftM (popImmOrLabel 20 args)
      match lastArg with
      | .Imm imm => return okWrapConcr (self.data.jalNew rd imm)
      | .Label tgtLabel => return [PartialInst.newOneRegNeedsLabel self.data.jalNew rd tgtLabel]
    | _ => liftM (reportError (.wrongDiffArgc self.headLoc self.instName 1 2 (argc % 256)) :
        Except Failure (List (PartialInst Inst)))
  | .Jalr => do
    let args ← consumeUnboundedCommasepArgs
    let argc := args.length
    match argc with
    | 1 => do
      let (rs, _) ← liftM (self.popReg args)
      return okWrapConcr (self.data.jalrPseudoExpand rs)
    | 3 => do
      let (rd, args) ← liftM (self.popReg args)
      let (rs1, args) ← liftM (self.popReg args)
      let (imm, _) ← liftM (popImm 12 args)
      return okWrapConcr (self.data.jalrNew rd rs1 imm)
    | _ => liftM (reportError (.wrongDiffArgc self.headLoc self.instName 1 3 (argc % 256)) :
        Except Failure (List (PartialInst Inst)))
  | .U instNew => do
    let args ← self.consumeCommasepArgs 2
    let (rd, args) ← liftM (self.popReg args)
    let (imm, _) ← liftM (popImm 20 args)
    return okWrapConcr (instNew rd imm)
  | .Li => do
    let args ← self.consumeCommasepArgs 2
    let (rd, args) ← liftM (self.popReg args)
    let (imm, _) ← liftM (popImm 32 args)
    return (self.data.liExpand rd imm).map PartialInst.newComplete
  | .NoArgs instExpand => do
    let _args ← self.consumeCommasepArgs 0
    return okWrapConcr (instExpand ())
  | .RegReg instExpand => do
    let args ← self.consumeCommasepArgs 2
    let (rd, args) ← liftM (self.popReg args)
    let (rs, _) ← liftM (self.popReg args)
    return okWrapConcr (instExpand rd rs)
  | .LikeJ instExpand => do
    let args ← self.consumeCommasepArgs 1
    let (lastArg, _) ← liftM (popImmOrLabel 20 args)
    match lastArg with
    | .Imm imm => return okWrapConcr (instExpand imm)
    | .Label tgtLabel => return [PartialInst.newNoRegNeedsLabel instExpand tgtLabel]
  | .OneReg instExpand => do
    let args ← self.consumeCommasepArgs 1
    let (rs, _) ← liftM (self.popReg args)
    return okWrapConcr (instExpand rs)

def tryExpandInst : InstParserM (List (PartialInst Inst)) :=
  match self.data.instExpansionTable self.instName with
  | some parseType => self.tryExpandFoundInst parseType
  | none => liftM (reportError (.badInstName self.headLoc self.instName) :
      Except Failure (List (PartialInst Inst)))

end InstParser

/-- Responsible for parsing a line. -/
structure LineParser (Inst : Type) where
  data : ParserData Inst
  iter : List Token
  label : Option Label

namespace LineParser

/-- Creates a `LineParser`; a label at the head of the line is taken only when none is inherited. -/
def new (data : ParserData Inst) (tokens : List Token) (maybeLabel : Option Label) :
    LineParser Inst :=
  let labelPassedIn := maybeLabel.isSome
  let thisLabel := match maybeLabel with
    | some l => some l
    | none =>
      match tokens with
      | ⟨.LabelDef labelName, _⟩ :: _ => some labelName
      | _ => none
  ⟨data, if thisLabel.isSome && !labelPassedIn then tokens.drop 1 else tokens, thisLabel⟩

def parse (self : LineParser Inst) : Option Label × Except Failure (List (PartialInst Inst)) :=
  (self.label,
    match self.iter with
    | [] => .ok []
    | headTok :: rest =>
      match headTok.data with
      | .Name name => Prod.fst <$> (InstParser.mk self.data headTok.location name).tryExpandInst rest
      | .LabelDef labelName => .error (.error (.generic headTok.location
          ("Multiple labels on the same line is unimplemented (found label " ++ labelName ++ ")")))
      | .Directive _ => .ok []
      | .Comment _ => .ok []
      | .Comma => .error (.error (.badHead headTok.location ","))
      | .Immediate n style => .error (.error (.badHead headTok.location (style.format n)))
      | .LParen => .error (.error (.badHead headTok.location "("))
      | .RParen => .error (.error (.badHead headTok.location ")")))

end LineParser

structure ParseResult (Inst : Type) where
  insts : List (PartialInst Inst)
  report : List ParseError

/-- The carried label on the first instruction of a line that is not empty. -/
def stickLabel : Option Label → List (PartialInst Inst) → List (PartialInst Inst)
  | some newLabel, headInst :: rest => headInst.withLabel newLabel :: rest
  | _, newInsts => newInsts

/-- `new_insts.remove(0)`, `with_label` and `insert(0, ..)` of a found label. -/
def stickFoundLabel (foundLabel : Option Label) (newInsts : List (PartialInst Inst)) :
    Except Failure (List (PartialInst Inst)) :=
  match foundLabel with
  | some newLabel => do
    let (headInst, rest) ← remove0 newInsts
    return headInst.withLabel newLabel :: rest
  | none => .ok newInsts

/-- The loop over lines of `RiscVParser::parse`; `lastLabel` still waits for an instruction. -/
def parseLines (data : ParserData Inst) : List (List Token) → Option Label →
    List (PartialInst Inst) → List ParseError → Except Failure (ParseResult Inst)
  | [], _, insts, report => .ok ⟨insts, report⟩
  | line :: lines, lastLabel, insts, report =>
    let (foundLabel, parseResult) := (LineParser.new data line lastLabel).parse
    match parseResult with
    | .ok newInsts =>
      if newInsts.isEmpty then parseLines data lines foundLabel insts report
      else
        match stickFoundLabel foundLabel newInsts with
        | .ok newInsts => parseLines data lines none (insts ++ newInsts) report
        | .error failure => .error failure
    | .error (.error newErr) => parseLines data lines lastLabel insts (report ++ [newErr])
    | .error (.panic msg) => .error (.panic msg)

/-- `RiscVParser::parse` over the lexed lines, reporting after the lexer's errors. -/
def RiscVParser.parse (data : ParserData Inst) (lines : List (List Token))
    (reporter : List ParseError) : Except Failure (ParseResult Inst) :=
  parseLines data lines none [] reporter

end Duna.Assembler
