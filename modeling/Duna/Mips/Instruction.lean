import Duna.State.Program

/-! MIPS instructions (`duna-core/src/architectures/mips/instruction.rs`) and their machine code. -/

namespace Duna

/-- Modelled from the spec: `BitStr32`, `len` bits; `+` puts the left operand in the high bits. -/
@[ext]
structure BitStr32 where
  len : Nat
  value : Nat
  valueLt : value < 2 ^ len

namespace BitStr32

def append (high low : BitStr32) : BitStr32 where
  len := high.len + low.len
  value := high.value * 2 ^ low.len + low.value
  valueLt := by
    have high_lt := high.valueLt
    have low_lt := low.valueLt
    calc high.value * 2 ^ low.len + low.value
        < high.value * 2 ^ low.len + 2 ^ low.len := by omega
      _ = (high.value + 1) * 2 ^ low.len := by rw [Nat.add_mul, Nat.one_mul]
      _ ≤ 2 ^ high.len * 2 ^ low.len := Nat.mul_le_mul_right _ high_lt
      _ = 2 ^ (high.len + low.len) := (Nat.pow_add 2 high.len low.len).symm

instance : Add BitStr32 := ⟨append⟩

/-- `as_u32`. -/
def asU32 (bits : BitStr32) : DataWord := BitVec.ofNat 32 bits.value

theorem toNat_asU32 (bits : BitStr32) (short : bits.len ≤ 32) : bits.asU32.toNat = bits.value :=
  Nat.mod_eq_of_lt (Nat.lt_of_lt_of_le bits.valueLt (Nat.pow_le_pow_right Nat.two_pos short))

@[simp] theorem add_len (high low : BitStr32) : (high + low).len = high.len + low.len := rfl

@[simp] theorem add_value (high low : BitStr32) :
    (high + low).value = high.value * 2 ^ low.len + low.value := rfl

end BitStr32

def MipsRegister.toBitStr (reg : MipsRegister) : BitStr32 := ⟨5, reg.idx.val, reg.idx.isLt⟩

@[simp] theorem MipsRegister.toBitStr_len (reg : MipsRegister) : reg.toBitStr.len = 5 := rfl

@[simp] theorem MipsRegister.toBitStr_value (reg : MipsRegister) : reg.toBitStr.value = reg.idx := rfl

structure RInstFields where
  opcode : BitStr32
  shamt : BitStr32
  funct : BitStr32

/-- The R-format widths of the constant fields: opcode 6, shamt 5 and funct 6 bits. -/
def RInstFields.Widths (fields : RInstFields) : Prop :=
  fields.opcode.len = 6 ∧ fields.shamt.len = 5 ∧ fields.funct.len = 6

inductive InstFields
  | R (rd rs rt : MipsRegister) (fields : RInstFields)
  | I (opcode : BitStr32) (rs rt : MipsRegister) (imm : BitStr32)
  | J (opcode addr : BitStr32)

structure InstData where
  name : String
  fields : InstFields

structure MipsInst (w : Nat) where
  eval : ProgramState MipsRegister w → InstResult MipsRegister w
  data : InstData

inductive Exception
  | Overflow

variable {w : Nat}

namespace MipsInst

def toMachineCode (inst : MipsInst w) : DataWord :=
  match inst.data.fields with
  | .R rd rs rt ⟨opcode, shamt, funct⟩ =>
    (opcode + rs.toBitStr + rt.toBitStr + rd.toBitStr + shamt + funct).asU32
  | .I opcode rs rt imm => (opcode + rs.toBitStr + rt.toBitStr + imm).asU32
  | .J opcode addr => (opcode + addr).asU32

def apply (inst : MipsInst w) (state : ProgramState MipsRegister w) : InstResult MipsRegister w :=
  inst.eval state

instance : ConcreteInst (MipsInst w) MipsRegister w := ⟨toMachineCode, apply⟩

/-- `PartialEq for MipsInst`: instructions are equal when their machine codes are. -/
instance : BEq (MipsInst w) := ⟨fun inst other => inst.toMachineCode == other.toMachineCode⟩

theorem beq_iff (inst other : MipsInst w) :
    (inst == other) = true ↔ inst.toMachineCode = other.toMachineCode :=
  show (inst.toMachineCode == other.toMachineCode) = true ↔ _ from beq_iff_eq

end MipsInst

/-- The bits `lo` to `lo + len - 1` of a machine word. -/
def bitField (code : DataWord) (lo len : Nat) : Nat := code.toNat / 2 ^ lo % 2 ^ len

/-- An R-type builder: its name, constant fields and the value it computes for `rd`. -/
structure RType (w : Nat) where
  name : String
  instFields : RInstFields
  eval : BitVec w → BitVec w → Except Exception (BitVec w)

/-- An I-type builder: its name, opcode and evaluation. -/
structure IType (w : Nat) where
  name : String
  opcode : BitStr32
  eval : UserProgState MipsRegister w → MipsRegister → MipsRegister → BitStr32 →
    InstResult MipsRegister w

/-- A J-type builder: its name, opcode and evaluation. -/
structure JType (w : Nat) where
  name : String
  opcode : BitStr32
  eval : UserProgState MipsRegister w → BitStr32 → InstResult MipsRegister w

def RType.new (builder : RType w) (rd rs rt : MipsRegister) : MipsInst w where
  eval state :=
    let userState := state.userState
    match builder.eval (userState.regfile.read rs) (userState.regfile.read rt) with
    | .ok newRdVal => .UserStateChange (UserDiff.regWritePcP4 userState rd newRdVal)
    | .error .Overflow => .Trap .IntOverflow
  data := ⟨builder.name, .R rd rs rt builder.instFields⟩

def IType.new (builder : IType w) (rs rt : MipsRegister) (imm : BitStr32) : MipsInst w where
  eval state := builder.eval state.userState rs rt imm
  data := ⟨builder.name, .I builder.opcode rs rt imm⟩

def JType.new (builder : JType w) (addr : BitStr32) : MipsInst w where
  eval state := builder.eval state.userState addr
  data := ⟨builder.name, .J builder.opcode addr⟩

section Encoding

theorem RType.toNat_toMachineCode (builder : RType w) (widths : builder.instFields.Widths)
    (rd rs rt : MipsRegister) :
    (builder.new rd rs rt).toMachineCode.toNat =
      builder.instFields.opcode.value * 2 ^ 26 + rs.idx * 2 ^ 21 + rt.idx * 2 ^ 16 +
        rd.idx * 2 ^ 11 + builder.instFields.shamt.value * 2 ^ 6 + builder.instFields.funct.value := by
  obtain ⟨opcodeWidth, shamtWidth, functWidth⟩ := widths
  rw [RType.new, MipsInst.toMachineCode,
    BitStr32.toNat_asU32 _ (by simp [opcodeWidth, shamtWidth, functWidth])]
  simp only [BitStr32.add_value, BitStr32.add_len, MipsRegister.toBitStr_len,
    MipsRegister.toBitStr_value, shamtWidth, functWidth]
  ring

theorem IType.toNat_toMachineCode (builder : IType w) (opcodeWidth : builder.opcode.len = 6)
    (rs rt : MipsRegister) {imm : BitStr32} (immWidth : imm.len = 16) :
    (builder.new rs rt imm).toMachineCode.toNat =
      builder.opcode.value * 2 ^ 26 + rs.idx * 2 ^ 21 + rt.idx * 2 ^ 16 + imm.value := by
  rw [IType.new, MipsInst.toMachineCode, BitStr32.toNat_asU32 _ (by simp [opcodeWidth, immWidth])]
  simp only [BitStr32.add_value, BitStr32.add_len, MipsRegister.toBitStr_len,
    MipsRegister.toBitStr_value, immWidth]
  ring

theorem JType.toNat_toMachineCode (builder : JType w) (opcodeWidth : builder.opcode.len = 6)
    {addr : BitStr32} (addrWidth : addr.len = 26) :
    (builder.new addr).toMachineCode.toNat = builder.opcode.value * 2 ^ 26 + addr.value := by
  rw [JType.new, MipsInst.toMachineCode, BitStr32.toNat_asU32 _ (by simp [opcodeWidth, addrWidth]),
    BitStr32.add_value, addrWidth]

theorem RType.bitFields_new (builder : RType w) (widths : builder.instFields.Widths)
    (rd rs rt : MipsRegister) :
    bitField (builder.new rd rs rt).toMachineCode 26 6 = builder.instFields.opcode.value ∧
      bitField (builder.new rd rs rt).toMachineCode 21 5 = rs.idx ∧
      bitField (builder.new rd rs rt).toMachineCode 16 5 = rt.idx ∧
      bitField (builder.new rd rs rt).toMachineCode 11 5 = rd.idx ∧
      bitField (builder.new rd rs rt).toMachineCode 6 5 = builder.instFields.shamt.value ∧
      bitField (builder.new rd rs rt).toMachineCode 0 6 = builder.instFields.funct.value := by
  have opcodeLt := builder.instFields.opcode.valueLt
  have shamtLt := builder.instFields.shamt.valueLt
  have functLt := builder.instFields.funct.valueLt
  have := rs.idx.isLt; have := rt.idx.isLt; have := rd.idx.isLt
  simp only [bitField, RType.toNat_toMachineCode builder widths]
  obtain ⟨opcodeWidth, shamtWidth, functWidth⟩ := widths
  rw [opcodeWidth] at opcodeLt; rw [shamtWidth] at shamtLt; rw [functWidth] at functLt
  simp only [Nat.reducePow] at *
  omega

theorem IType.bitFields_new (builder : IType w) (opcodeWidth : builder.opcode.len = 6)
    (rs rt : MipsRegister) {imm : BitStr32} (immWidth : imm.len = 16) :
    bitField (builder.new rs rt imm).toMachineCode 26 6 = builder.opcode.value ∧
      bitField (builder.new rs rt imm).toMachineCode 21 5 = rs.idx ∧
      bitField (builder.new rs rt imm).toMachineCode 16 5 = rt.idx ∧
      bitField (builder.new rs rt imm).toMachineCode 0 16 = imm.value := by
  have opcodeLt := builder.opcode.valueLt
  have immLt := imm.valueLt
  have := rs.idx.isLt; have := rt.idx.isLt
  simp only [bitField, IType.toNat_toMachineCode builder opcodeWidth rs rt immWidth]
  rw [opcodeWidth] at opcodeLt; rw [immWidth] at immLt
  simp only [Nat.reducePow] at *
  omega

theorem JType.bitFields_new (builder : JType w) (opcodeWidth : builder.opcode.len = 6)
    {addr : BitStr32} (addrWidth : addr.len = 26) :
    bitField (builder.new addr).toMachineCode 26 6 = builder.opcode.value ∧
      bitField (builder.new addr).toMachineCode 0 26 = addr.value := by
  have opcodeLt := builder.opcode.valueLt
  have addrLt := addr.valueLt
  simp only [bitField, JType.toNat_toMachineCode builder opcodeWidth addrWidth]
  rw [opcodeWidth] at opcodeLt; rw [addrWidth] at addrLt
  simp only [Nat.reducePow] at *
  omega

theorem RType.new_beq_new_iff (builder : RType w) (widths : builder.instFields.Widths)
    (rd rs rt rd' rs' rt' : MipsRegister) :
    (builder.new rd rs rt == builder.new rd' rs' rt') = true ↔ rd = rd' ∧ rs = rs' ∧ rt = rt' := by
  rw [MipsInst.beq_iff]
  constructor
  · intro same
    obtain ⟨-, rsField, rtField, rdField, -⟩ := RType.bitFields_new builder widths rd rs rt
    obtain ⟨-, rsField', rtField', rdField', -⟩ := RType.bitFields_new builder widths rd' rs' rt'
    rw [same] at rsField rtField rdField
    exact ⟨MipsRegister.ext (Fin.ext (rdField.symm.trans rdField')),
      MipsRegister.ext (Fin.ext (rsField.symm.trans rsField')),
      MipsRegister.ext (Fin.ext (rtField.symm.trans rtField'))⟩
  · rintro ⟨rfl, rfl, rfl⟩
    rfl

theorem IType.new_beq_new_iff (builder : IType w) (opcodeWidth : builder.opcode.len = 6)
    (rs rt rs' rt' : MipsRegister) {imm imm' : BitStr32} (immWidth : imm.len = 16)
    (immWidth' : imm'.len = 16) :
    (builder.new rs rt imm == builder.new rs' rt' imm') = true ↔ rs = rs' ∧ rt = rt' ∧ imm = imm' := by
  rw [MipsInst.beq_iff]
  constructor
  · intro same
    obtain ⟨-, rsField, rtField, immField⟩ := IType.bitFields_new builder opcodeWidth rs rt immWidth
    obtain ⟨-, rsField', rtField', immField'⟩ :=
      IType.bitFields_new builder opcodeWidth rs' rt' immWidth'
    rw [same] at rsField rtField immField
    exact ⟨MipsRegister.ext (Fin.ext (rsField.symm.trans rsField')),
      MipsRegister.ext (Fin.ext (rtField.symm.trans rtField')),
      BitStr32.ext (immWidth.trans immWidth'.symm) (immField.symm.trans immField')⟩
  · rintro ⟨rfl, rfl, rfl⟩
    rfl

theorem JType.new_beq_new_iff (builder : JType w) (opcodeWidth : builder.opcode.len = 6)
    {addr addr' : BitStr32} (addrWidth : addr.len = 26) (addrWidth' : addr'.len = 26) :
    (builder.new addr == builder.new addr') = true ↔ addr = addr' := by
  rw [MipsInst.beq_iff]
  constructor
  · intro same
    obtain ⟨-, addrField⟩ := JType.bitFields_new builder opcodeWidth addrWidth
    obtain ⟨-, addrField'⟩ := JType.bitFields_new builder opcodeWidth addrWidth'
    rw [same] at addrField
    exact BitStr32.ext (addrWidth.trans addrWidth'.symm) (addrField.symm.trans addrField')
  · rintro rfl
    rfl

end Encoding

/-- Within one builder, every field is read back from its bit range of the machine code, `==`
holds exactly when the operand fields agree, and `==` instructions evaluate alike. -/
theorem mips_beq_iff_fields :
    (∀ builder : RType w, builder.instFields.Widths → ∀ rd rs rt rd' rs' rt' : MipsRegister,
      (bitField (builder.new rd rs rt).toMachineCode 26 6 = builder.instFields.opcode.value ∧
        bitField (builder.new rd rs rt).toMachineCode 21 5 = rs.idx ∧
        bitField (builder.new rd rs rt).toMachineCode 16 5 = rt.idx ∧
        bitField (builder.new rd rs rt).toMachineCode 11 5 = rd.idx ∧
        bitField (builder.new rd rs rt).toMachineCode 6 5 = builder.instFields.shamt.value ∧
        bitField (builder.new rd rs rt).toMachineCode 0 6 = builder.instFields.funct.value) ∧
      ((builder.new rd rs rt == builder.new rd' rs' rt') = true ↔ rd = rd' ∧ rs = rs' ∧ rt = rt') ∧
      ((builder.new rd rs rt == builder.new rd' rs' rt') = true →
        ∀ state, (builder.new rd rs rt).apply state = (builder.new rd' rs' rt').apply state)) ∧
    (∀ builder : IType w, builder.opcode.len = 6 →
      ∀ (rs rt rs' rt' : MipsRegister) (imm imm' : BitStr32), imm.len = 16 → imm'.len = 16 →
      (bitField (builder.new rs rt imm).toMachineCode 26 6 = builder.opcode.value ∧
        bitField (builder.new rs rt imm).toMachineCode 21 5 = rs.idx ∧
        bitField (builder.new rs rt imm).toMachineCode 16 5 = rt.idx ∧
        bitField (builder.new rs rt imm).toMachineCode 0 16 = imm.value) ∧
      ((builder.new rs rt imm == builder.new rs' rt' imm') = true ↔
        rs = rs' ∧ rt = rt' ∧ imm = imm') ∧
      ((builder.new rs rt imm == builder.new rs' rt' imm') = true →
        ∀ state, (builder.new rs rt imm).apply state = (builder.new rs' rt' imm').apply state)) ∧
    (∀ builder : JType w, builder.opcode.len = 6 → ∀ addr addr' : BitStr32,
      addr.len = 26 → addr'.len = 26 →
      (bitField (builder.new addr).toMachineCode 26 6 = builder.opcode.value ∧
        bitField (builder.new addr).toMachineCode 0 26 = addr.value) ∧
      ((builder.new addr == builder.new addr') = true ↔ addr = addr') ∧
      ((builder.new addr == builder.new addr') = true →
        ∀ state, (builder.new addr).apply state = (builder.new addr').apply state)) := by
  refine ⟨fun builder widths rd rs rt rd' rs' rt' => ⟨RType.bitFields_new builder widths rd rs rt,
      RType.new_beq_new_iff builder widths rd rs rt rd' rs' rt', fun same state => ?_⟩,
    fun builder opcodeWidth rs rt rs' rt' imm imm' immWidth immWidth' =>
      ⟨IType.bitFields_new builder opcodeWidth rs rt immWidth,
        IType.new_beq_new_iff builder opcodeWidth rs rt rs' rt' immWidth immWidth',
        fun same state => ?_⟩,
    fun builder opcodeWidth addr addr' addrWidth addrWidth' =>
      ⟨JType.bitFields_new builder opcodeWidth addrWidth,
        JType.new_beq_new_iff builder opcodeWidth addrWidth addrWidth', fun same state => ?_⟩⟩
  · obtain ⟨rfl, rfl, rfl⟩ := (RType.new_beq_new_iff builder widths rd rs rt rd' rs' rt').mp same
    rfl
  · obtain ⟨rfl, rfl, rfl⟩ :=
      (IType.new_beq_new_iff builder opcodeWidth rs rt rs' rt' immWidth immWidth').mp same
    rfl
  · obtain rfl := (JType.new_beq_new_iff builder opcodeWidth addrWidth addrWidth').mp same
    rfl

def addBuilder : RType 32 where
  name := "add"
  instFields := ⟨⟨6, 0, by decide⟩, ⟨5, 0, by decide⟩, ⟨6, 0x20, by decide⟩⟩
  eval a b := if (a + b).toInt = a.toInt + b.toInt then .ok (a + b) else .error .Overflow

def addiBuilder : IType 32 where
  name := "addi"
  opcode := ⟨6, 8, by decide⟩
  eval userState rs rt imm := .UserStateChange (UserDiff.regWritePcP4 userState rt
    (userState.regfile.read rs + (BitVec.ofNat 16 imm.value).signExtend 32))

def jBuilder : JType 32 where
  name := "j"
  opcode := ⟨6, 2, by decide⟩
  eval userState addr := .UserStateChange (UserDiff.pcUpdateOp userState
    ((plus4 userState.pc &&& 0xF0000000) ||| BitVec.ofNat 32 (addr.value * 4)))

theorem mips_beq_iff_fields_samples :
    (addBuilder.new ⟨8⟩ ⟨9⟩ ⟨10⟩ == addBuilder.new ⟨8⟩ ⟨9⟩ ⟨11⟩) = false ∧
      (∀ state, (addiBuilder.new ⟨9⟩ ⟨8⟩ ⟨16, 4, by decide⟩).apply state =
        (addiBuilder.new ⟨9⟩ ⟨8⟩ ⟨16, 4, by decide⟩).apply state) ∧
      (jBuilder.new ⟨26, 1, by decide⟩ == jBuilder.new ⟨26, 2, by decide⟩) = false := by
  obtain ⟨r, i, j⟩ := @mips_beq_iff_fields 32
  refine ⟨Bool.eq_false_iff.mpr fun same => ?_, ?_, Bool.eq_false_iff.mpr fun same => ?_⟩
  · have := ((r addBuilder ⟨rfl, rfl, rfl⟩ ⟨8⟩ ⟨9⟩ ⟨10⟩ ⟨8⟩ ⟨9⟩ ⟨11⟩).2.1.mp same).2.2
    simp at this
  · exact (i addiBuilder rfl ⟨9⟩ ⟨8⟩ ⟨9⟩ ⟨8⟩ _ _ rfl rfl).2.2
      (((i addiBuilder rfl ⟨9⟩ ⟨8⟩ ⟨9⟩ ⟨8⟩ _ _ rfl rfl).2.1).mpr ⟨rfl, rfl, rfl⟩)
  · have := (j jBuilder rfl _ _ rfl rfl).2.1.mp same
    simp at this

end Duna
