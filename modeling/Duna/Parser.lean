import Duna.Assembler.Token

/-! The older parser of `parser.rs`. -/

namespace Duna.Parser

open Duna.Assembler (Location ImmStyle)

/-- Modelled from its uses: the token kinds of the older lexer; an immediate is an `i32`. -/
inductive TokenType
  | Name (name : String)
  | LabelDef (name : String)
  | SectionDef (name : String)
  | Comment (text : String)
  | Comma
  | Immediate (val : BitVec 32) (style : ImmStyle)
  | LParen
  | RParen

structure Token where
  data : TokenType
  location : Location

def TokenType.isArg : TokenType → Bool
  | .Name _ | .Immediate _ _ => true
  | _ => false

/-- `ParseError`, with the data its contents are formatted from. -/
inductive ParseError
  | new (location : Location) (msg contents : String)
  | badHead (location : Location) (contents : String)
  | badArg (location : Location) (found : TokenType)
  | badReg (location : Location) (regName : String)
  | notEnoughArgs (location : Location) (headName : String)
  | unexpectedToken (location : Location) (found : Token) (headName : String)
  | unexpectedType (location : Location) (expected : String) (found : TokenType)
  | unexpected (location : Location) (contents : String)

/-- How a parse step ends without a result: a `ParseError`, or a panic with Rust's message. -/
inductive Failure
  | error (err : ParseError)
  | panic (msg : String)

/-- The rule an instruction name is parsed by; only `R` and `Arith` are written. -/
inductive ParseType (Inst : Type)
  | R (new : RiscVRegister → RiscVRegister → RiscVRegister → Inst)
  | Arith (new : RiscVRegister → RiscVRegister → DataWord → Inst)
  | Env
  | MemL
  | MemS
  | B
  | Jal
  | Jalr
  | U

structure ParserData (Inst : Type) where
  instExpansionTable : String → Option (ParseType Inst)
  regExpansionTable : String → Option RiscVRegister

abbrev LineParserM := StateT (List Token) (Except Failure)

variable {Inst α ε : Type}

def reportError (err : ParseError) : Except Failure α := .error (.error err)

/-- The `?` on a `Result<_, ParseError>`. -/
def propagate : Except ParseError α → Except Failure α := Except.mapError .error

/-- `Option::unwrap`, which panics on `None`. -/
def unwrap : Option α → Except Failure α
  | some a => .ok a
  | none => .error (.panic "called `Option::unwrap()` on a `None` value")

/-- `debug_assert!`, which panics in a debug build when its condition fails. -/
def debugAssert (cond : Prop) [Decidable cond] (msg : String) : Except Failure Unit :=
  if cond then .ok () else .error (.panic msg)

def index (args : List Token) (k : Nat) : Except Failure Token :=
  (vecIndex args k).mapError .panic

/-- Returns the first error found in `lst`, or none if there are no such errors. -/
def findFirstErr (lst : List (Except ε α)) : Option ε :=
  lst.findSome? fun r =>
    match r with
    | .error e => some e
    | .ok _ => none

def skipComma : List Token → List Token
  | ⟨.Comma, _⟩ :: rest => rest
  | iter => iter

/-- Attempts to consume exactly `n` arguments, possibly comma-separated. -/
def consumeCommasepArgs (headLoc : Location) (headName : String) : Nat → LineParserM (List Token)
  | 0 => fun iter =>
    if iter.head?.isSome then do
      let tok ← unwrap iter.head?
      reportError (.unexpectedToken headLoc tok headName)
    else .ok ([], iter)
  | n + 1 => fun iter =>
    match iter with
    | tok :: rest =>
      if tok.data.isArg then
        let rest := if n + 1 > 1 then skipComma rest else rest
        (consumeCommasepArgs headLoc headName n rest).map fun (args, iter) => (tok :: args, iter)
      else reportError (.badArg tok.location tok.data)
    | [] => reportError (.notEnoughArgs headLoc headName)

def tryParseReg (data : ParserData Inst) (token : Token) : Except ParseError RiscVRegister :=
  match token.data with
  | .Name name =>
    match data.regExpansionTable name with
    | some reg => .ok reg
    | none => .error (.badReg token.location name)
  | _ => .error (.unexpectedType token.location "register name" token.data)

def tryParseImm (token : Token) : Except ParseError DataWord :=
  match token.data with
  | .Immediate val _ => .ok val
  | _ => .error (.unexpectedType token.location "immediate" token.data)

/-- Expands the instruction named by the head of a line. R-types are always
`inst rd, rs1, rs2` with one or no commas in between. -/
def tryExpandInst (data : ParserData Inst) (headLoc : Location) (name : String) :
    LineParserM (List Inst) :=
  match data.instExpansionTable name with
  | some (.R instNew) => do
    let args ← consumeCommasepArgs headLoc name 3
    liftM (debugAssert (args.length = 3) "assertion failed: args.len() == 3")
    let regs := args.map (tryParseReg data)
    match regs with
    | [.ok rd, .ok rs1, .ok rs2] => return [instNew rd rs1 rs2]
    | _ => liftM (do reportError (← unwrap (findFirstErr regs)) : Except Failure (List Inst))
  | some (.Arith instNew) => do
    let args ← consumeCommasepArgs headLoc name 3
    liftM (debugAssert (args.length = 3) "assertion failed: args.len() == 3")
    let rd ← liftM (do propagate (tryParseReg data (← index args 0)))
    let rs1 ← liftM (do propagate (tryParseReg data (← index args 1)))
    let imm ← liftM (do propagate (tryParseImm (← index args 2)))
    return [instNew rd rs1 imm]
  | some _ => liftM (reportError (.unexpected headLoc "unimplemented") : Except Failure (List Inst))
  | none => liftM (reportError (.new headLoc "No instruction found with name" name) :
      Except Failure (List Inst))

structure LineParser (Inst : Type) where
  data : ParserData Inst
  iter : List Token

def LineParser.new (data : ParserData Inst) (tokens : List Token) : LineParser Inst :=
  ⟨data, tokens⟩

def LineParser.parse (self : LineParser Inst) : Except Failure (List Inst) :=
  match self.iter with
  | [] => .ok []
  | headTok :: rest =>
    match headTok.data with
    | .Name name => Prod.fst <$> tryExpandInst self.data headTok.location name rest
    | .LabelDef _ => .ok []
    | .SectionDef _ => .ok []
    | .Comment _ => .ok []
    | .Comma => reportError (.badHead headTok.location ",")
    | .Immediate n style => reportError (.badHead headTok.location (style.format n))
    | .LParen => reportError (.badHead headTok.location "(")
    | .RParen => reportError (.badHead headTok.location ")")

/-- `RiscVParser::parse`: the instructions of every line that parses and the errors of every
other line; a panic in a line stops it. -/
def RiscVParser.parse (data : ParserData Inst) (lines : List (List Token)) :
    Except String (List Inst × List ParseError) :=
  lines.foldlM (fun (insts, errs) line =>
    match (LineParser.new data line).parse with
    | .ok newInsts => .ok (insts ++ newInsts, errs)
    | .error (.error newErr) => .ok (insts, errs ++ [newErr])
    | .error (.panic msg) => .error msg) ([], [])

/-! ### No panics -/

theorem consumeCommasepArgs_length (headLoc : Location) (headName : String) (n : Nat) :
    ∀ {iter args rest}, consumeCommasepArgs headLoc headName n iter = .ok (args, rest) →
      args.length = n := by
  induction n with
  | zero =>
    rintro (_ | ⟨tok, iter⟩) args rest ok <;>
      simp [consumeCommasepArgs, unwrap, reportError] at ok
    simp [← ok.1]
  | succ n ih =>
    rintro (_ | ⟨tok, iter⟩) args rest ok
    · simp [consumeCommasepArgs, reportError] at ok
    · by_cases isArg : tok.data.isArg
      · simp only [consumeCommasepArgs, isArg, if_true, Except.map] at ok
        split at ok
        · cases ok
        · cases ok
          rw [List.length_cons, ih ‹_›]
      · simp [consumeCommasepArgs, isArg, reportError] at ok

theorem consumeCommasepArgs_ne_panic (headLoc : Location) (headName : String) (msg : String) (n : Nat) :
    ∀ iter, consumeCommasepArgs headLoc headName n iter ≠ .error (.panic msg) := by
  induction n with
  | zero => rintro (_ | ⟨tok, iter⟩) <;> simp [consumeCommasepArgs, unwrap, reportError]
  | succ n ih =>
    rintro (_ | ⟨tok, iter⟩)
    · simp [consumeCommasepArgs, reportError]
    · by_cases isArg : tok.data.isArg
      · simp only [consumeCommasepArgs, isArg, if_true, Except.map]
        split
        · rintro ⟨⟩
          exact ih _ ‹_›
        · simp
      · simp [consumeCommasepArgs, isArg, reportError]

theorem findFirstErr_of_not_all_ok (regs : List (Except ε α)) (three : regs.length = 3)
    (notAllOk : ¬∃ rd rs1 rs2, regs = [.ok rd, .ok rs1, .ok rs2]) :
    ∃ e, findFirstErr regs = some e := by
  obtain ⟨r1, r2, r3, rfl⟩ := List.length_eq_three.mp three
  rcases r1 with e | rd
  · exact ⟨e, rfl⟩
  rcases r2 with e | rs1
  · exact ⟨e, rfl⟩
  rcases r3 with e | rs2
  · exact ⟨e, rfl⟩
  exact absurd ⟨rd, rs1, rs2, rfl⟩ notAllOk

theorem tryExpandInst_ne_panic (data : ParserData Inst) (headLoc : Location) (name : String)
    (iter : List Token) (msg : String) : tryExpandInst data headLoc name iter ≠ .error (.panic msg) := by
  have readArgs : ∀ {β} (rule : List Token → LineParserM β),
      (∀ a b c st, rule [a, b, c] st ≠ .error (.panic msg)) →
      (consumeCommasepArgs headLoc name 3 >>= rule) iter ≠ .error (.panic msg) := by
    intro β rule rest
    cases run : consumeCommasepArgs headLoc name 3 iter with
    | error e =>
      simp only [stateT_bind_apply, run, error_bind, ne_eq, Except.error.injEq]
      rintro rfl
      exact consumeCommasepArgs_ne_panic headLoc name msg 3 iter run
    | ok r =>
      obtain ⟨args, st⟩ := r
      obtain ⟨a, b, c, rfl⟩ := List.length_eq_three.mp (consumeCommasepArgs_length _ _ _ run)
      simpa only [stateT_bind_apply, run, ok_bind] using rest a b c st
  unfold tryExpandInst
  cases table : data.instExpansionTable name with
  | none => simp [reportError]
  | some parseType =>
    cases parseType
    case R instNew =>
      refine readArgs _ fun a b c st => ?_
      simp only [debugAssert, stateT_bind_apply, stateT_liftM_apply, List.length_cons,
        List.length_nil, if_true, ok_bind, List.map_cons, List.map_nil]
      cases tryParseReg data a <;> cases tryParseReg data b <;> cases tryParseReg data c <;>
        simp only [findFirstErr, List.findSome?, unwrap, reportError, ok_bind, stateT_pure_apply,
          stateT_liftM_apply, error_bind] <;> nofun
    case Arith instNew =>
      refine readArgs _ fun a b c st => ?_
      have args : index [a, b, c] 0 = .ok a ∧ index [a, b, c] 1 = .ok b ∧
          index [a, b, c] 2 = .ok c := ⟨rfl, rfl, rfl⟩
      simp only [debugAssert, stateT_bind_apply, stateT_liftM_apply, List.length_cons,
        List.length_nil, if_true, ok_bind, args]
      cases tryParseReg data a <;> cases tryParseReg data b <;> cases tryParseImm c <;>
        simp only [propagate, Except.mapError, ok_bind, error_bind, stateT_pure_apply] <;> nofun
    all_goals simp [reportError]

theorem LineParser.parse_ne_panic (lp : LineParser Inst) (msg : String) :
    lp.parse ≠ .error (.panic msg) := by
  rcases lp with ⟨data, _ | ⟨⟨_ | _ | _ | _ | _ | _ | _ | _, loc⟩, rest⟩⟩ <;>
    simp only [LineParser.parse, reportError]
  case mk.cons.mk.Name name =>
    cases run : tryExpandInst data loc name rest with
    | error e =>
      simp only [run, Functor.map, Except.map, ne_eq, Except.error.injEq]
      rintro rfl
      exact tryExpandInst_ne_panic data loc name rest msg run
    | ok r => simp [run, Functor.map, Except.map]
  all_goals simp

/-- The older `LineParser::parse` does not panic on any line: the `debug_assert`s hold, `args[0..2]`
are in bounds, and `find_first_err(regs).unwrap()` finds an error. -/
theorem lineParser_never_panics (data : ParserData Inst) :
    (∀ line msg, (LineParser.new data line).parse ≠ .error (.panic msg)) ∧
    (∀ headLoc headName n iter args rest,
      consumeCommasepArgs headLoc headName n iter = .ok (args, rest) → args.length = n) ∧
    (∀ regs : List (Except ParseError RiscVRegister), regs.length = 3 →
      (¬∃ rd rs1 rs2, regs = [.ok rd, .ok rs1, .ok rs2]) → ∃ e, findFirstErr regs = some e) :=
  ⟨fun line => (LineParser.new data line).parse_ne_panic,
    fun headLoc headName n _ _ _ => consumeCommasepArgs_length headLoc headName n,
    findFirstErr_of_not_all_ok⟩

/-! ### What a line reads -/

/-- `ts` is exactly the arguments `args`, each but the last followed by an optional comma. -/
inductive SepArgs : List Token → List Token → Prop
  | last {a : Token} : a.data.isArg → SepArgs [a] [a]
  | next {a : Token} {args ts : List Token} : a.data.isArg → SepArgs args ts →
      SepArgs (a :: args) (a :: ts)
  | nextComma {a : Token} {args ts : List Token} (loc : Location) : a.data.isArg →
      SepArgs args ts → SepArgs (a :: args) (a :: ⟨.Comma, loc⟩ :: ts)

theorem SepArgs.ne_nil {args ts : List Token} (read : SepArgs args ts) : args ≠ [] := by
  cases read <;> simp

theorem SepArgs.length_pos {args ts : List Token} (read : SepArgs args ts) : 0 < args.length :=
  List.length_pos.mpr read.ne_nil

theorem skipComma_of_isArg {a : Token} (isArg : a.data.isArg) (ts : List Token) :
    skipComma (a :: ts) = a :: ts := by
  rcases a with ⟨_ | _ | _ | _ | _ | _ | _ | _, loc⟩ <;> simp_all [skipComma, TokenType.isArg]

theorem skipComma_of_sepArgs {args ts : List Token} (read : SepArgs args ts) :
    skipComma ts = ts := by
  cases read <;> exact skipComma_of_isArg ‹_› _

theorem sepArgs_cons_skipComma {a : Token} {args ts : List Token} (isArg : a.data.isArg)
    (read : SepArgs args (skipComma ts)) : SepArgs (a :: args) (a :: ts) := by
  rcases ts with _ | ⟨⟨_ | _ | _ | _ | _ | _ | _ | _, loc⟩, ts⟩
  case cons.mk.Comma => exact .nextComma loc isArg read
  all_goals exact .next isArg read

variable (headLoc : Location) (headName : String)

theorem consumeCommasepArgs_cons {n : Nat} {a : Token} (isArg : a.data.isArg)
    (ts : List Token) :
    consumeCommasepArgs headLoc headName (n + 1) (a :: ts) =
      (consumeCommasepArgs headLoc headName n (if 0 < n then skipComma ts else ts)).map
        fun (args, iter) => (a :: args, iter) := by
  simp [consumeCommasepArgs, isArg]

theorem consumeCommasepArgs_sound : ∀ (n : Nat) {ts args st : List Token},
    consumeCommasepArgs headLoc headName n ts = .ok (args, st) →
      st = [] ∧ args.length = n ∧ (args = [] ∧ ts = [] ∨ SepArgs args ts)
  | 0, [], _, _, ok => by cases ok; exact ⟨rfl, rfl, .inl ⟨rfl, rfl⟩⟩
  | 0, _ :: _, _, _, ok => by cases ok
  | _ + 1, [], _, _, ok => by cases ok
  | n + 1, a :: ts, args, st, ok => by
    by_cases isArg : a.data.isArg
    · rw [consumeCommasepArgs_cons headLoc headName isArg] at ok
      cases run : consumeCommasepArgs headLoc headName n (if 0 < n then skipComma ts else ts) with
      | error e => rw [run] at ok; cases ok
      | ok result =>
        obtain ⟨found, rest⟩ := result
        rw [run] at ok
        cases ok
        obtain ⟨rfl, length, shape⟩ := consumeCommasepArgs_sound n run
        refine ⟨rfl, by rw [List.length_cons, length], .inr ?_⟩
        rcases n with _ | n
        · obtain ⟨nil, rfl⟩ := shape.resolve_right fun read => by
            simpa [length] using read.length_pos
          rw [nil]
          exact .last isArg
        · have read := shape.resolve_left fun ⟨nil, _⟩ => by simp [nil] at length
          rw [if_pos n.succ_pos] at read
          exact sepArgs_cons_skipComma isArg read
    · simp [consumeCommasepArgs, isArg, reportError] at ok

theorem consumeCommasepArgs_of_sepArgs {args ts : List Token} (read : SepArgs args ts) :
    consumeCommasepArgs headLoc headName args.length ts = .ok (args, []) := by
  induction read with
  | last isArg => simp [consumeCommasepArgs, isArg]; rfl
  | next isArg read ih =>
    rw [List.length_cons, consumeCommasepArgs_cons headLoc headName isArg, if_pos read.length_pos,
      skipComma_of_sepArgs read, ih]
    rfl
  | nextComma loc isArg read ih =>
    rw [List.length_cons, consumeCommasepArgs_cons headLoc headName isArg, if_pos read.length_pos]
    erw [ih]
    rfl

/-- The older `consume_commasep_args(n)` succeeds exactly on `n` names or immediates, each but
the last followed by at most one comma, and nothing after them. -/
theorem consumeCommasepArgs_whole_line_iff (n : Nat) (ts args st : List Token) :
    consumeCommasepArgs headLoc headName n ts = .ok (args, st) ↔
      st = [] ∧ args.length = n ∧ (args = [] ∧ ts = [] ∨ SepArgs args ts) := by
  refine ⟨consumeCommasepArgs_sound headLoc headName n, ?_⟩
  rintro ⟨rfl, rfl, ⟨rfl, rfl⟩ | read⟩
  · rfl
  · exact consumeCommasepArgs_of_sepArgs headLoc headName read

section RType

variable (data : ParserData Inst) (name : String) (loc : Location) {ts : List Token}
  {instNew : RiscVRegister → RiscVRegister → RiscVRegister → Inst}

theorem parse_name_head (ts : List Token) :
    (LineParser.new data (⟨.Name name, loc⟩ :: ts)).parse =
      Prod.fst <$> tryExpandInst data loc name ts :=
  rfl

theorem tryExpandInst_r_of_args (rule : data.instExpansionTable name = some (.R instNew))
    {a b c : Token} {st : List Token}
    (args : consumeCommasepArgs loc name 3 ts = .ok ([a, b, c], st)) :
    tryExpandInst data loc name ts = (fun insts => (insts, st)) <$> propagate (do
      let rd ← tryParseReg data a
      let rs1 ← tryParseReg data b
      let rs2 ← tryParseReg data c
      pure [instNew rd rs1 rs2]) := by
  simp only [tryExpandInst, rule]
  rw [stateT_bind_of_ok args]
  simp only [debugAssert, stateT_bind_apply, stateT_liftM_apply, List.length_cons, List.length_nil,
    if_true, ok_bind, List.map_cons, List.map_nil]
  cases tryParseReg data a <;> cases tryParseReg data b <;> cases tryParseReg data c <;> rfl

/-- An `R` line: on three arguments, the instruction or the error of the first of `rd`, `rs1`,
`rs2` that is not a register; otherwise the error of `consume_commasep_args`. -/
theorem parse_rType (rule : data.instExpansionTable name = some (.R instNew)) :
    (∀ a b c, SepArgs [a, b, c] ts →
      (LineParser.new data (⟨.Name name, loc⟩ :: ts)).parse = propagate (do
        let rd ← tryParseReg data a
        let rs1 ← tryParseReg data b
        let rs2 ← tryParseReg data c
        pure [instNew rd rs1 rs2])) ∧
    ((¬∃ a b c, SepArgs [a, b, c] ts) →
      ∃ e, consumeCommasepArgs loc name 3 ts = .error e ∧
        (LineParser.new data (⟨.Name name, loc⟩ :: ts)).parse = .error e) := by
  refine ⟨fun a b c read => ?_, fun noArgs => ?_⟩
  · rw [parse_name_head,
      tryExpandInst_r_of_args data name loc rule (consumeCommasepArgs_of_sepArgs loc name read)]
    exact (comp_map _ _ _).symm.trans (id_map _)
  · cases run : consumeCommasepArgs loc name 3 ts with
    | error e =>
      refine ⟨e, rfl, ?_⟩
      simp only [parse_name_head, tryExpandInst, rule, stateT_bind_apply, run]
      rfl
    | ok result =>
      obtain ⟨-, three, shape⟩ := consumeCommasepArgs_sound loc name 3 run
      obtain ⟨a, b, c, found⟩ := List.length_eq_three.mp three
      rw [found] at shape
      exact absurd ⟨a, b, c, shape.resolve_left (by simp)⟩ noArgs

theorem parse_rType_add :
    let data : ParserData (RiscVRegister × RiscVRegister × RiscVRegister) :=
      ⟨fun n => if n = "add" then some (.R fun rd rs1 rs2 => (rd, rs1, rs2)) else none,
        fun n => if n = "x1" then some ⟨1⟩ else if n = "x2" then some ⟨2⟩ else none⟩
    let x3 : Token := ⟨.Name "x3", ⟨0, 12⟩⟩
    data.instExpansionTable "add" = some (.R fun rd rs1 rs2 => (rd, rs1, rs2)) ∧
      (LineParser.new data [⟨.Name "add", ⟨0, 0⟩⟩, ⟨.Name "x1", ⟨0, 4⟩⟩, ⟨.Comma, ⟨0, 6⟩⟩,
        ⟨.Name "x2", ⟨0, 8⟩⟩, x3]).parse = .error (.error (.badReg x3.location "x3")) := by
  intro data x3
  refine ⟨rfl, ?_⟩
  rw [(parse_rType data "add" ⟨0, 0⟩ rfl).1 ⟨.Name "x1", ⟨0, 4⟩⟩ ⟨.Name "x2", ⟨0, 8⟩⟩ x3
    (.nextComma ⟨0, 6⟩ rfl (.next rfl (.last rfl)))]
  rfl

end RType

end Duna.Parser
