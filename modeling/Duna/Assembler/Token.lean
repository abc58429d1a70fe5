import Duna.State.Datatypes

/-! Tokens, parse errors and partial instructions of `assembler/parser.rs`, modelled from their uses. -/

namespace Duna.Assembler

abbrev Label := String

/-- Modelled from its uses: where a token starts. -/
structure Location where
  lineno : Nat
  offs : Nat
deriving DecidableEq

inductive ImmStyle
  | Dec
  | Hex
  | Bin
deriving DecidableEq

/-- Modelled from its uses: `ImmStyle::format`, an immediate written back in its radix. -/
def ImmStyle.format (style : ImmStyle) (val : BitVec 32) : String :=
  match style with
  | .Dec => toString val.toInt
  | .Hex => "0x" ++ String.mk (Nat.toDigits 16 val.toNat)
  | .Bin => "0b" ++ String.mk (Nat.toDigits 2 val.toNat)

/-- Modelled from its uses: the token kinds of the lexer. An immediate is an `i32`. -/
inductive TokenType
  | Name (name : String)
  | LabelDef (name : String)
  | Directive (name : String)
  | Comment (text : String)
  | Comma
  | Immediate (val : BitVec 32) (radix : ImmStyle)
  | LParen
  | RParen
deriving DecidableEq

structure Token where
  data : TokenType
  location : Location
deriving DecidableEq

def TokenType.isArg : TokenType → Bool
  | .Name _ | .Immediate _ _ => true
  | _ => false

/-- Modelled from its uses: the parse errors the parser reports, with the data of each. -/
inductive ParseError
  | tooManyArgs (loc : Location) (instName : String) (needed : Nat)
  | badArg (loc : Location) (found : TokenType)
  | wrongArgc (loc : Location) (instName : String) (needed found : Nat)
  | wrongDiffArgc (loc : Location) (instName : String) (first second found : Nat)
  | unclosedParen (loc : Location) (found : TokenType)
  | unexpectedType (loc : Location) (expected : String) (found : TokenType)
  | immTooBig (loc : Location) (width : Nat) (text : String)
  | generic (loc : Location) (msg : String)
  | badInstName (loc : Location) (name : String)
  | badHead (loc : Location) (text : String)

/-- How a parse step fails: a `ParseError` to report, or a panic with Rust's message. -/
inductive Failure
  | error (err : ParseError)
  | panic (msg : String)

/-- Modelled from its uses: an instruction, or a builder waiting for the label `target`. -/
inductive PartialBody (Inst : Type)
  | complete (inst : Inst)
  | twoRegNeedsLabel (build : RiscVRegister → RiscVRegister → DataWord → Inst)
      (rs1 rs2 : RiscVRegister) (target : Label)
  | oneRegNeedsLabel (build : RiscVRegister → DataWord → Inst) (rd : RiscVRegister)
      (target : Label)
  | noRegNeedsLabel (build : DataWord → Inst) (target : Label)

/-- Modelled from its uses: `PartialInst`, a body and the label defined on it. -/
structure PartialInst (Inst : Type) where
  body : PartialBody Inst
  label : Option Label

namespace PartialInst

variable {Inst : Type}

def newComplete (inst : Inst) : PartialInst Inst := ⟨.complete inst, none⟩

def newTwoRegNeedsLabel (build : RiscVRegister → RiscVRegister → DataWord → Inst)
    (rs1 rs2 : RiscVRegister) (target : Label) : PartialInst Inst :=
  ⟨.twoRegNeedsLabel build rs1 rs2 target, none⟩

def newOneRegNeedsLabel (build : RiscVRegister → DataWord → Inst) (rd : RiscVRegister)
    (target : Label) : PartialInst Inst :=
  ⟨.oneRegNeedsLabel build rd target, none⟩

def newNoRegNeedsLabel (build : DataWord → Inst) (target : Label) : PartialInst Inst :=
  ⟨.noRegNeedsLabel build target, none⟩

def withLabel (self : PartialInst Inst) (label : Label) : PartialInst Inst :=
  { self with label := some label }

@[simp] theorem newComplete_label (inst : Inst) : (newComplete inst).label = none := rfl

@[simp] theorem newTwoRegNeedsLabel_label (build : RiscVRegister → RiscVRegister → DataWord → Inst)
    (rs1 rs2 : RiscVRegister) (target : Label) :
    (newTwoRegNeedsLabel build rs1 rs2 target).label = none := rfl

@[simp] theorem newOneRegNeedsLabel_label (build : RiscVRegister → DataWord → Inst)
    (rd : RiscVRegister) (target : Label) : (newOneRegNeedsLabel build rd target).label = none :=
  rfl

@[simp] theorem newNoRegNeedsLabel_label (build : DataWord → Inst) (target : Label) :
    (newNoRegNeedsLabel build target).label = none := rfl

@[simp] theorem withLabel_label (self : PartialInst Inst) (label : Label) :
    (self.withLabel label).label = some label := rfl

@[simp] theorem withLabel_body (self : PartialInst Inst) (label : Label) :
    (self.withLabel label).body = self.body := rfl

end PartialInst

/-- Describes the arguments needed for a type of instruction. -/
inductive ParseType (Inst : Type)
  | R (new : RiscVRegister → RiscVRegister → RiscVRegister → Inst)
  | Arith (new : RiscVRegister → RiscVRegister → DataWord → Inst)
  | Env (new : Unit → Inst)
  | MemL (new : RiscVRegister → RiscVRegister → DataWord → Inst)
  | MemS (new : RiscVRegister → RiscVRegister → DataWord → Inst)
  | B (new : RiscVRegister → RiscVRegister → DataWord → Inst)
  | Jal
  | Jalr
  | U (new : RiscVRegister → DataWord → Inst)
  | Li
  | RegReg (expand : RiscVRegister → RiscVRegister → Inst)
  | NoArgs (expand : Unit → Inst)
  | OneReg (expand : RiscVRegister → Inst)
  | LikeJ (expand : DataWord → Inst)

/-- The instruction and register tables, and the expansions the `jal`, `jalr` and `li` rules call. -/
structure ParserData (Inst : Type) where
  instExpansionTable : String → Option (ParseType Inst)
  regExpansionTable : String → Option RiscVRegister
  jalPseudoExpand : DataWord → Inst
  jalNew : RiscVRegister → DataWord → Inst
  jalrPseudoExpand : RiscVRegister → Inst
  jalrNew : RiscVRegister → RiscVRegister → DataWord → Inst
  liExpand : RiscVRegister → DataWord → List Inst

end Duna.Assembler
