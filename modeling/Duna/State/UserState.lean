import Duna.State.Datatypes

/-! `UserProgState` and `UserDiff` of `program_state/program.rs`, and undoing a run of diffs. -/

namespace Duna

/-- `UserProgState`: the state visible to the user, a program counter, register file and
memory. -/
structure UserProgState (R : Type) (w : Nat) where
  pc : BitVec w
  regfile : RegFile R w
  memory : Memory

structure RegDataChange (w : Nat) where
  oldValue : BitVec w
  newValue : BitVec w

structure WordChange where
  oldValue : DataWord
  newValue : DataWord

structure PcDiff (w : Nat) where
  oldPc : BitVec w
  newPc : BitVec w

structure RegDiff (R : Type) (w : Nat) where
  reg : R
  val : RegDataChange w

structure MemDiff where
  addr : Nat
  val : WordChange

/-- `UserDiff`: a write to the pc and possibly a register and a memory word. -/
structure UserDiff (R : Type) (w : Nat) where
  pc : PcDiff w
  reg : Option (RegDiff R w)
  mem : Option MemDiff

variable {R : Type} [DecidableEq R] [IRegister R] {w : Nat}

namespace UserProgState

def new : UserProgState R w := ⟨0, RegFile.new, Memory.new⟩

def applyDiff (state : UserProgState R w) (diff : UserDiff R w) : UserProgState R w where
  pc := diff.pc.newPc
  regfile := match diff.reg with
    | some ⟨reg, ⟨_, newValue⟩⟩ => state.regfile.set reg newValue
    | none => state.regfile
  memory := match diff.mem with
    | some ⟨addr, ⟨_, newValue⟩⟩ => state.memory.setWord addr newValue
    | none => state.memory

def revertDiff (state : UserProgState R w) (diff : UserDiff R w) : UserProgState R w where
  pc := diff.pc.oldPc
  regfile := match diff.reg with
    | some ⟨reg, ⟨oldValue, _⟩⟩ => state.regfile.set reg oldValue
    | none => state.regfile
  memory := match diff.mem with
    | some ⟨addr, ⟨oldValue, _⟩⟩ => state.memory.setWord addr oldValue
    | none => state.memory

end UserProgState

namespace UserDiff

def new (state : UserProgState R w) (newPc : BitVec w) (regChange : Option (RegDiff R w))
    (memChange : Option MemDiff) : UserDiff R w :=
  ⟨⟨state.pc, newPc⟩, regChange, memChange⟩

def newPcP4 (state : UserProgState R w) (regChange : Option (RegDiff R w))
    (memChange : Option MemDiff) : UserDiff R w :=
  new state (plus4 state.pc) regChange memChange

def noop (state : UserProgState R w) : UserDiff R w := newPcP4 state none none

def pcUpdateOp (state : UserProgState R w) (newPc : BitVec w) : UserDiff R w :=
  new state newPc none none

def regWriteOp (state : UserProgState R w) (newPc : BitVec w) (reg : R) (val : BitVec w) :
    UserDiff R w :=
  new state newPc (some ⟨reg, ⟨state.regfile.read reg, val⟩⟩) none

def regWritePcP4 (state : UserProgState R w) (reg : R) (val : BitVec w) : UserDiff R w :=
  regWriteOp state (plus4 state.pc) reg val

/-- Performs a memory write operation. -/
def memWriteOp (state : UserProgState R w) (addr : Nat) (val : DataWord) : UserDiff R w :=
  newPcP4 state none (some ⟨addr, ⟨state.memory.getWord addr, val⟩⟩)

/-- `diff` was made from `state` by one of the public constructors. -/
inductive BuiltFrom (state : UserProgState R w) : UserDiff R w → Prop
  | noop : BuiltFrom state (noop state)
  | pcUpdateOp (newPc : BitVec w) : BuiltFrom state (pcUpdateOp state newPc)
  | regWriteOp (newPc : BitVec w) (reg : R) (val : BitVec w) :
      BuiltFrom state (regWriteOp state newPc reg val)
  | regWritePcP4 (reg : R) (val : BitVec w) : BuiltFrom state (regWritePcP4 state reg val)
  | memWriteOp (addr : Nat) (val : DataWord) : BuiltFrom state (memWriteOp state addr val)

/-- What `revert_diff` needs from a diff: the old pc, register value and memory word. -/
structure RecordsOld (state : UserProgState R w) (diff : UserDiff R w) : Prop where
  pc : diff.pc.oldPc = state.pc
  reg : ∀ change ∈ diff.reg, change.val.oldValue = state.regfile.read change.reg
  mem : ∀ change ∈ diff.mem, change.val.oldValue = state.memory.getWord change.addr

theorem BuiltFrom.recordsOld {state : UserProgState R w} {diff : UserDiff R w}
    (built : BuiltFrom state diff) : RecordsOld state diff := by
  cases built <;> refine ⟨rfl, ?_, ?_⟩ <;>
    simp [UserDiff.noop, newPcP4, UserDiff.new, UserDiff.pcUpdateOp, UserDiff.regWriteOp,
      UserDiff.regWritePcP4, UserDiff.memWriteOp]

end UserDiff

namespace UserProgState

open UserDiff

theorem revertDiff_applyDiff {state : UserProgState R w} {diff : UserDiff R w}
    (recorded : RecordsOld state diff) : (state.applyDiff diff).revertDiff diff = state := by
  obtain ⟨pc, reg, mem⟩ := recorded
  rcases diff with ⟨⟨oldPc, newPc⟩, _ | ⟨r, old, new⟩, _ | ⟨a, oldWord, newWord⟩⟩ <;>
    simp_all [applyDiff, revertDiff]

@[simp] theorem applyDiff_regWritePcP4 (state : UserProgState R w) (reg : R) (val : BitVec w) :
    state.applyDiff (regWritePcP4 state reg val) =
      { state with pc := plus4 state.pc, regfile := state.regfile.set reg val } := rfl

@[simp] theorem applyDiff_noop (state : UserProgState R w) :
    state.applyDiff (UserDiff.noop state) = { state with pc := plus4 state.pc } := rfl

/-- A run: each diff is built from the state the diffs before it produced. -/
inductive Run : UserProgState R w → List (UserDiff R w) → Prop
  | nil (state : UserProgState R w) : Run state []
  | cons {state : UserProgState R w} {diff : UserDiff R w} {diffs : List (UserDiff R w)}
      (built : BuiltFrom state diff) (rest : Run (state.applyDiff diff) diffs) :
      Run state (diff :: diffs)

def applyAll (state : UserProgState R w) (diffs : List (UserDiff R w)) : UserProgState R w :=
  diffs.foldl applyDiff state

/-- Revert `diffs`, the last one first: an undo stack popped down to its bottom. -/
def revertAll (diffs : List (UserDiff R w)) (state : UserProgState R w) : UserProgState R w :=
  diffs.foldr (fun diff state => state.revertDiff diff) state

@[simp] theorem applyAll_nil (state : UserProgState R w) : applyAll state [] = state := rfl

@[simp] theorem applyAll_cons (state : UserProgState R w) (diff : UserDiff R w)
    (diffs : List (UserDiff R w)) :
    applyAll state (diff :: diffs) = applyAll (state.applyDiff diff) diffs := rfl

@[simp] theorem revertAll_cons (diff : UserDiff R w) (diffs : List (UserDiff R w))
    (state : UserProgState R w) :
    revertAll (diff :: diffs) state = (revertAll diffs state).revertDiff diff := rfl

/-- Popping the undo stack of any run down to depth `k` gives the state after `k` diffs. -/
theorem revertAll_applyAll {state : UserProgState R w} {diffs : List (UserDiff R w)}
    (run : Run state diffs) (k : Nat) :
    revertAll (diffs.drop k) (applyAll state diffs) = applyAll state (diffs.take k) := by
  induction run generalizing k with
  | nil state => simp [revertAll, applyAll]
  | @cons state diff diffs built rest inductionHypothesis =>
    cases k with
    | zero =>
      have undone := inductionHypothesis 0
      simp only [List.drop_zero, List.take_zero, applyAll_nil] at undone
      simp [undone, revertDiff_applyDiff built.recordsOld]
    | succ k => simpa using inductionHypothesis k

theorem revertAll_applyAll_write_then_store :
    let start : UserProgState RiscVRegister 32 := new
    let write := regWritePcP4 start RiscVRegister.SP 16
    let store := memWriteOp (start.applyDiff write) 7 0xDEAD
    revertAll [write, store] (applyAll start [write, store]) = start :=
  revertAll_applyAll (.cons (.regWritePcP4 _ _) (.cons (.memWriteOp _ _) (.nil _))) 0

end UserProgState

end Duna
