import Duna.State.Program

/-! `RiscVProgram` at 32 bits (`architectures/riscv/program.rs`): the loader and the run loop. -/

namespace Duna

/-- Modelled from the spec: `RiscVInst`, an evaluation procedure and its machine code. -/
structure RiscVInst where
  eval : ProgramState RiscVRegister 32 → InstResult RiscVRegister 32
  machineCode : DataWord

instance : ConcreteInst RiscVInst RiscVRegister 32 := ⟨RiscVInst.machineCode, RiscVInst.eval⟩

/-- Modelled from its uses: `SectionStore`, the bytes of the data and read-only sections. -/
structure SectionStore where
  data : List DataByte
  rodata : List DataByte

structure RiscVProgram where
  insts : List RiscVInst
  state : ProgramState RiscVRegister 32

namespace RiscVProgram

def textStart32 : BitVec 32 := 0x10000000

def stackStart32 : BitVec 32 := 0x7FFFFFF0

def dataStart32 : BitVec 32 := 0x20000000

@[simp] theorem toNat_textStart32 : textStart32.toNat = 0x10000000 := rfl

@[simp] theorem toNat_dataStart32 : dataStart32.toNat = 0x20000000 := rfl

@[simp] theorem toNat_dataStart32_sub_textStart32 : (dataStart32 - textStart32).toNat = 0x10000000 :=
  rfl

def storeInsts (memory : Memory) (nextAddr : BitVec 32) : List RiscVInst → Memory
  | [] => memory
  | inst :: insts =>
    storeInsts (memory.setWord (toWordAddress nextAddr) (ConcreteInst.toMachineCode inst))
      (plus4 nextAddr) insts

/-- The data store loop; the offset is not used, so every byte goes to `DATA_START_32`. -/
def storeData (memory : Memory) : List (Nat × DataByte) → Memory
  | [] => memory
  | (_offs, byte) :: bytes => storeData (memory.setByte dataStart32 byte) bytes

/-- Initializes a new program instance from the provided instructions. -/
def new (insts : List RiscVInst) (sections : SectionStore) : RiscVProgram :=
  let state : ProgramState RiscVRegister 32 := ProgramState.new
  let memory := storeInsts state.userState.memory textStart32 insts
  ⟨insts, { state with
    userState :=
      { pc := textStart32
        regfile := state.userState.regfile.set RiscVRegister.SP stackStart32
        memory := storeData memory (sections.data ++ sections.rodata).enum } }⟩

/-- The run loop fetch: the word index of `pc - TEXT_START_32`, with wrapping subtraction. -/
def fetch (insts : List RiscVInst) (pc : BitVec 32) : Option RiscVInst :=
  insts[toWordAddress (pc - textStart32)]?

/-- Runs the program to completion, returning `a0`; `none` when the fuel runs out first. -/
def run (conv : SyscallConvention RiscVRegister 32) : Nat → RiscVProgram → Option (Except String Int)
  | 0, _ => none
  | fuel + 1, program =>
    match fetch program.insts program.state.userState.pc with
    | none => some (.ok (program.state.userState.regfile.read RiscVRegister.A0).toInt)
    | some inst =>
      match program.state.applyInst conv inst with
      | .error msg => some (.error msg)
      | .ok state => run conv fuel { program with state }

section TextImage

variable {memory : Memory} {nextAddr : BitVec 32} {insts : List RiscVInst}

private theorem toNat_plus4 (nextAddr : BitVec 32) (noWrap : nextAddr.toNat + 4 < 2 ^ 32) :
    (plus4 nextAddr).toNat = nextAddr.toNat + 4 := by
  simp [plus4, BitVec.toNat_add]
  omega

theorem getWord_storeInsts_of_outside (aligned : nextAddr.toNat % 4 = 0)
    (noWrap : nextAddr.toNat + 4 * insts.length < 2 ^ 32) {addr : Nat}
    (outside : addr < nextAddr.toNat / 4 ∨ nextAddr.toNat / 4 + insts.length ≤ addr) :
    (storeInsts memory nextAddr insts).getWord addr = memory.getWord addr := by
  induction insts generalizing memory nextAddr with
  | nil => rfl
  | cons inst insts inductionHypothesis =>
    simp only [List.length_cons] at noWrap outside
    have next := toNat_plus4 nextAddr (by omega)
    simp only [storeInsts]
    rw [inductionHypothesis (by omega) (by omega) (by omega)]
    simp only [Memory.getWord_setWord, toWordAddress]
    rw [if_neg (by omega)]

theorem getWord_storeInsts_of_lt (aligned : nextAddr.toNat % 4 = 0)
    (noWrap : nextAddr.toNat + 4 * insts.length < 2 ^ 32) {k : Nat} (inRange : k < insts.length) :
    (storeInsts memory nextAddr insts).getWord (nextAddr.toNat / 4 + k) =
      ConcreteInst.toMachineCode insts[k] := by
  induction insts generalizing memory nextAddr k with
  | nil => simp at inRange
  | cons inst insts inductionHypothesis =>
    simp only [List.length_cons] at noWrap inRange
    have next := toNat_plus4 nextAddr (by omega)
    simp only [storeInsts]
    cases k with
    | zero =>
      rw [getWord_storeInsts_of_outside (by omega) (by omega) (by omega)]
      simp [toWordAddress]
    | succ k =>
      have shifted := @inductionHypothesis
        (memory.setWord (toWordAddress nextAddr) (ConcreteInst.toMachineCode inst))
        (plus4 nextAddr) (by omega) (by omega) k (by omega)
      rw [next] at shifted
      rw [show nextAddr.toNat / 4 + (k + 1) = (nextAddr.toNat + 4) / 4 + k by omega, shifted]
      rfl

theorem getWord_storeData_of_ne (bytes : List (Nat × DataByte)) {addr : Nat}
    (outside : addr ≠ toWordAddress dataStart32) :
    (storeData memory bytes).getWord addr = memory.getWord addr := by
  induction bytes generalizing memory with
  | nil => rfl
  | cons entry bytes inductionHypothesis =>
    simp only [storeData]
    rw [inductionHypothesis, Memory.getWord_setByte_of_ne _ _ _ outside]

theorem getWord_new_of_lt (sections : SectionStore)
    (fits : 4 * insts.length ≤ (dataStart32 - textStart32).toNat) {k : Nat}
    (inRange : k < insts.length) :
    (new insts sections).state.userState.memory.getWord (textStart32.toNat / 4 + k) =
      ConcreteInst.toMachineCode insts[k] := by
  simp only [toNat_dataStart32_sub_textStart32] at fits
  simp only [new]
  rw [getWord_storeData_of_ne _ (by simp only [toWordAddress, toNat_dataStart32, toNat_textStart32]; omega)]
  exact getWord_storeInsts_of_lt (by decide) (by simp only [toNat_textStart32]; omega) inRange

theorem getByte_storeData_dataStart32 (entry : Nat × DataByte) (bytes : List (Nat × DataByte)) :
    (storeData memory (entry :: bytes)).getByte dataStart32 = ((entry :: bytes).getLast (by simp)).2 := by
  induction bytes generalizing memory entry with
  | nil => exact Memory.getByte_setByte_self _ _ _
  | cons next bytes inductionHypothesis =>
    rw [List.getLast_cons (by simp), ← inductionHypothesis]
    rfl

end TextImage

section Fetch

variable {insts : List RiscVInst} {pc : BitVec 32}

theorem fetch_of_window {k : Nat} (inRange : k < insts.length)
    (above : textStart32.toNat + 4 * k ≤ pc.toNat) (below : pc.toNat < textStart32.toNat + 4 * k + 4) :
    fetch insts pc = some insts[k] := by
  have index : toWordAddress (pc - textStart32) = k := by
    simp only [toNat_textStart32] at above below
    simp only [toWordAddress, BitVec.toNat_sub, toNat_textStart32]
    omega
  simp [fetch, index, inRange]

theorem window_of_fetch {inst : RiscVInst}
    (fits : 4 * insts.length ≤ (dataStart32 - textStart32).toNat) (fetched : fetch insts pc = some inst) :
    ∃ k, ∃ inRange : k < insts.length, textStart32.toNat + 4 * k ≤ pc.toNat ∧
      pc.toNat < textStart32.toNat + 4 * k + 4 ∧ insts[k] = inst := by
  obtain ⟨inRange, same⟩ := List.getElem?_eq_some_iff.mp fetched
  simp only [toNat_dataStart32_sub_textStart32] at fits
  simp only [toWordAddress, BitVec.toNat_sub, toNat_textStart32] at inRange
  refine ⟨_, inRange, ?_, ?_, same⟩ <;>
  · simp only [toWordAddress, BitVec.toNat_sub, toNat_textStart32]
    omega

end Fetch

/-- The text image holds machine code `k` at `TEXT_START_32 + 4k`, untouched by the data stores,
and the loop fetches instruction `k` on that word and nothing outside the image. -/
theorem new_text_image (insts : List RiscVInst) (sections : SectionStore)
    (fits : 4 * insts.length ≤ (dataStart32 - textStart32).toNat) :
    (∀ k (inRange : k < insts.length),
      (new insts sections).state.userState.memory.getWord
        (toWordAddress (textStart32 + BitVec.ofNat 32 (4 * k))) =
        ConcreteInst.toMachineCode insts[k]) ∧
    (∀ (pc : BitVec 32) (k : Nat) (inRange : k < insts.length),
      textStart32.toNat + 4 * k ≤ pc.toNat → pc.toNat < textStart32.toNat + 4 * k + 4 →
        fetch insts pc = some insts[k]) ∧
    (∀ pc : BitVec 32, (∀ k < insts.length,
        ¬ (textStart32.toNat + 4 * k ≤ pc.toNat ∧ pc.toNat < textStart32.toNat + 4 * k + 4)) →
      fetch insts pc = none) ∧
    (∀ (pc : BitVec 32) (inst : RiscVInst), fetch insts pc = some inst →
      (new insts sections).state.userState.memory.getWord (toWordAddress pc) =
        ConcreteInst.toMachineCode inst) := by
  refine ⟨fun k inRange => ?_, fun pc k inRange => fetch_of_window inRange, fun pc outside => ?_,
    fun pc inst fetched => ?_⟩
  · have word : toWordAddress (textStart32 + BitVec.ofNat 32 (4 * k)) = textStart32.toNat / 4 + k := by
      simp only [toNat_dataStart32_sub_textStart32] at fits
      simp only [toWordAddress, BitVec.toNat_add, toNat_textStart32, BitVec.toNat_ofNat]
      omega
    rw [word, getWord_new_of_lt sections fits inRange]
  · cases fetched : fetch insts pc with
    | none => rfl
    | some inst =>
      obtain ⟨k, inRange, above, below, -⟩ := window_of_fetch fits fetched
      exact absurd ⟨above, below⟩ (outside k inRange)
  · obtain ⟨k, inRange, above, below, same⟩ := window_of_fetch fits fetched
    have word : toWordAddress pc = textStart32.toNat / 4 + k := by
      simp only [toNat_textStart32] at above below
      simp only [toWordAddress, toNat_textStart32]
      omega
    rw [word, getWord_new_of_lt sections fits inRange, same]

theorem new_text_image_ecall :
    let insts : List RiscVInst := [⟨fun _ => .Trap .Ecall, 0x00000073⟩]
    let sections : SectionStore := ⟨[], []⟩
    4 * insts.length ≤ (dataStart32 - textStart32).toNat ∧
    (∀ k (inRange : k < insts.length),
      (new insts sections).state.userState.memory.getWord
        (toWordAddress (textStart32 + BitVec.ofNat 32 (4 * k))) =
        ConcreteInst.toMachineCode insts[k]) ∧
    (∀ (pc : BitVec 32) (k : Nat) (inRange : k < insts.length),
      textStart32.toNat + 4 * k ≤ pc.toNat → pc.toNat < textStart32.toNat + 4 * k + 4 →
        fetch insts pc = some insts[k]) ∧
    (∀ pc : BitVec 32, (∀ k < insts.length,
        ¬ (textStart32.toNat + 4 * k ≤ pc.toNat ∧ pc.toNat < textStart32.toNat + 4 * k + 4)) →
      fetch insts pc = none) ∧
    (∀ (pc : BitVec 32) (inst : RiscVInst), fetch insts pc = some inst →
      (new insts sections).state.userState.memory.getWord (toWordAddress pc) =
        ConcreteInst.toMachineCode inst) :=
  ⟨by decide, new_text_image _ _ (by decide)⟩

theorem new_data_bytes_overwrite :
    (new [] ⟨[1, 2], []⟩).state.userState.memory.getByte dataStart32 = 2 ∧
      (new [] ⟨[1, 2], []⟩).state.userState.memory.getByte (dataStart32 + 1) = 0 :=
  ⟨getByte_storeData_dataStart32 (0, 1) [(1, 2)], by decide⟩

end RiscVProgram

end Duna
