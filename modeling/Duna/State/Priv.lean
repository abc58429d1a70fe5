import Duna.State.Syscall

/-! The privileged state of `program_state/priv_s.rs`, its diffs and the termination causes. -/

namespace Duna

/-- Modelled from the spec: the page-table interface the privileged layer consumes. -/
class PageTable (P : Type) (PhysMem PtUpdate : outParam Type) where
  applyUpdate : P → PhysMem → PtUpdate → P × PhysMem
  revertUpdate : P → PhysMem → PtUpdate → P × PhysMem

/-- Represents a possible cause for the termination of a program. -/
inductive TermCause
  | Exit (code : BitVec 32)
  | SegFault
  | BusError
deriving DecidableEq

inductive MemFaultCause
  | PageFault
  | SegFault
  | BusError

def TermCause.ofMemFaultCause : MemFaultCause → TermCause
  | .PageFault => .SegFault
  | .SegFault => .SegFault
  | .BusError => .BusError

/-- Contains program state that is visible only to privileged entities. -/
structure PrivState (w : Nat) (P : Type) where
  brk : BitVec w
  heapStart : BitVec w
  pageTable : P
  stdout : List DataByte
  stderr : List DataByte

inductive PrivDiff (w : Nat) (PtUpdate : Type)
  | Terminate (cause : TermCause)
  | FileWrite (fd : BitVec w) (data : List DataByte)
  | PtUpdate (update : PtUpdate)
  | BrkUpdate (old new : BitVec w)

namespace PrivState

variable {w : Nat} {P PhysMem Upd : Type} [PageTable P PhysMem Upd]

def new (heapStart : BitVec w) (pageTable : P) : PrivState w P :=
  ⟨heapStart, heapStart, pageTable, [], []⟩

/-- Applies a diff to the privileged state; an inner `.error cause` terminates the program. -/
def applyDiff (self : PrivState w P) (mem : PhysMem) :
    PrivDiff w Upd → Except String (Except TermCause Unit × PrivState w P × PhysMem)
  | .FileWrite fd data =>
    match fd.toNat with
    | 1 => .ok (.ok (), { self with stdout := self.stdout ++ data }, mem)
    | 2 => .ok (.ok (), { self with stderr := self.stderr ++ data }, mem)
    | _ => .error "not implemented"
  | .Terminate cause => .ok (.error cause, self, mem)
  | .PtUpdate update =>
    let (pageTable, mem) := PageTable.applyUpdate self.pageTable mem update
    .ok (.ok (), { self with pageTable }, mem)
  | .BrkUpdate _ new => .ok (.ok (), { self with brk := new }, mem)

def revertDiff (self : PrivState w P) (mem : PhysMem) :
    PrivDiff w Upd → Except String (PrivState w P × PhysMem)
  | .FileWrite .. => .ok (self, mem)
  | .PtUpdate update =>
    let (pageTable, mem) := PageTable.revertUpdate self.pageTable mem update
    .ok ({ self with pageTable }, mem)
  | .BrkUpdate old _ => .ok ({ self with brk := old }, mem)
  | .Terminate _ => .error "not implemented"

/-- Modelled from the spec: `ProgramState::write_stderr`, appending to the captured stderr. -/
def writeStderr (self : PrivState w P) (msg : String) : PrivState w P :=
  { self with stderr := self.stderr ++ msg.toUTF8.toList.map fun byte => BitVec.ofNat 8 byte.toNat }

theorem revertDiff_applyDiff_fileWrite (self : PrivState 32 P) (mem : PhysMem)
    (data : List DataByte) :
    (do
      let (_, applied, mem) ← self.applyDiff mem (.FileWrite 1 data : PrivDiff 32 Upd)
      applied.revertDiff mem (.FileWrite 1 data : PrivDiff 32 Upd)) =
      .ok ({ self with stdout := self.stdout ++ data }, mem) := rfl

/-! ### Undoing a run of diffs -/

/-- What a diff must remember of the state it is applied to: the break it replaces. -/
def Records (self : PrivState w P) : PrivDiff w Upd → Prop
  | .BrkUpdate old _ => old = self.brk
  | _ => True

/-- Diffs applied in turn, none terminating the program, each recording its state. -/
inductive Applied : PrivState w P → PhysMem → List (PrivDiff w Upd) → PrivState w P → PhysMem → Prop
  | nil (self : PrivState w P) (mem : PhysMem) : Applied self mem [] self mem
  | cons {self next final : PrivState w P} {mem nextMem finalMem : PhysMem}
      {diff : PrivDiff w Upd} {diffs : List (PrivDiff w Upd)} :
      self.applyDiff mem diff = .ok (.ok (), next, nextMem) → Records self diff →
      Applied next nextMem diffs final finalMem → Applied self mem (diff :: diffs) final finalMem

def revertAll (self : PrivState w P) (mem : PhysMem) :
    List (PrivDiff w Upd) → Except String (PrivState w P × PhysMem)
  | [] => .ok (self, mem)
  | diff :: diffs => do
    let (reverted, mem) ← self.revertAll mem diffs
    reverted.revertDiff mem diff

def withOutput (self other : PrivState w P) : PrivState w P :=
  { self with stdout := other.stdout, stderr := other.stderr }

section Lawful

/-! For a page table whose `revert_update` undoes its `apply_update`. -/

variable (lawful : ∀ (pageTable : P) (mem : PhysMem) (update : Upd),
  PageTable.revertUpdate (PageTable.applyUpdate pageTable mem update).1
    (PageTable.applyUpdate pageTable mem update).2 update = (pageTable, mem))

theorem output_prefix_of_applyDiff {self next : PrivState w P} {mem nextMem : PhysMem}
    {diff : PrivDiff w Upd} (applied : self.applyDiff mem diff = .ok (.ok (), next, nextMem)) :
    self.stdout <+: next.stdout ∧ self.stderr <+: next.stderr := by
  cases diff with
  | FileWrite fd data =>
    simp only [applyDiff] at applied
    split at applied <;> cases applied
    · exact ⟨List.prefix_append _ _, List.prefix_refl _⟩
    · exact ⟨List.prefix_refl _, List.prefix_append _ _⟩
  | Terminate cause => cases applied
  | PtUpdate update => cases applied; exact ⟨List.prefix_refl _, List.prefix_refl _⟩
  | BrkUpdate old new => cases applied; exact ⟨List.prefix_refl _, List.prefix_refl _⟩

include lawful in
theorem revertDiff_of_applyDiff {self next out : PrivState w P} {mem nextMem : PhysMem}
    {diff : PrivDiff w Upd} (applied : self.applyDiff mem diff = .ok (.ok (), next, nextMem))
    (records : Records self diff) :
    (next.withOutput out).revertDiff nextMem diff = .ok (self.withOutput out, mem) := by
  cases diff with
  | FileWrite fd data =>
    simp only [applyDiff] at applied
    split at applied <;> cases applied <;> rfl
  | Terminate cause => cases applied
  | PtUpdate update =>
    simp only [applyDiff] at applied
    cases applied
    simp only [revertDiff, withOutput, lawful]
  | BrkUpdate old new =>
    cases applied
    simp only [Records] at records
    simp only [revertDiff, withOutput, records]

include lawful in
/-- Reverting a whole run restores the break, heap start, page table and physical memory,
while stdout and stderr keep all that the run wrote. -/
theorem revertAll_of_applied {self final : PrivState w P} {mem finalMem : PhysMem}
    {diffs : List (PrivDiff w Upd)} (applied : Applied self mem diffs final finalMem) :
    final.revertAll finalMem diffs = .ok (self.withOutput final, mem) ∧
      self.stdout <+: final.stdout ∧ self.stderr <+: final.stderr := by
  induction applied with
  | nil self mem => exact ⟨rfl, List.prefix_refl _, List.prefix_refl _⟩
  | cons step records _ ih =>
    obtain ⟨reverted, stdout, stderr⟩ := ih
    have grown := output_prefix_of_applyDiff step
    refine ⟨?_, grown.1.trans stdout, grown.2.trans stderr⟩
    rw [revertAll, reverted]
    exact revertDiff_of_applyDiff lawful step records

end Lawful

/-- A page table that only counts the updates in force. -/
structure UpdateCount where
  count : Nat

instance : PageTable UpdateCount Unit Unit where
  applyUpdate table mem _ := (⟨table.count + 1⟩, mem)
  revertUpdate table mem _ := (⟨table.count - 1⟩, mem)

theorem revertAll_of_applied_brk_table_write :
    let start : PrivState 32 UpdateCount := new 0x1000 ⟨0⟩
    let diffs : List (PrivDiff 32 Unit) :=
      [.BrkUpdate 0x1000 0x2000, .PtUpdate (), .FileWrite 1 [0x41]]
    let final : PrivState 32 UpdateCount := ⟨0x2000, 0x1000, ⟨1⟩, [0x41], []⟩
    (∀ (pageTable : UpdateCount) (mem : Unit) (update : Unit),
      PageTable.revertUpdate (PageTable.applyUpdate pageTable mem update).1
        (PageTable.applyUpdate pageTable mem update).2 update = (pageTable, mem)) ∧
    Applied start () diffs final () ∧
    (final.revertAll () diffs = .ok (start.withOutput final, ()) ∧
      start.stdout <+: final.stdout ∧ start.stderr <+: final.stderr) := by
  intro start diffs final
  have lawful : ∀ (pageTable : UpdateCount) (mem : Unit) (update : Unit),
      PageTable.revertUpdate (PageTable.applyUpdate pageTable mem update).1
        (PageTable.applyUpdate pageTable mem update).2 update = (pageTable, mem) :=
    fun _ _ _ => rfl
  have applied : Applied start () diffs final () :=
    .cons rfl rfl (.cons rfl trivial (.cons rfl trivial (.nil _ _)))
  exact ⟨lawful, applied, revertAll_of_applied lawful applied⟩

end PrivState

/-- A one-byte write to stdout, applied and reverted, stays at both privileged layers. -/
theorem fileWrite_survives_revert {P PhysMem Upd R : Type} [PageTable P PhysMem Upd]
    [DecidableEq R] [IRegister R] (self : PrivState 32 P) (mem : PhysMem)
    (conv : SyscallConvention R 32) (progState : PrivProgState) (userState : UserProgState R 32) :
    (do
      let (_, applied, mem) ← self.applyDiff mem (.FileWrite 1 [0x41] : PrivDiff 32 Upd)
      applied.revertDiff mem (.FileWrite 1 [0x41] : PrivDiff 32 Upd)) =
      .ok ({ self with stdout := self.stdout ++ [0x41] }, mem) ∧
    (do
      let (applied, _) ← progState.applyDiff conv userState (.FileWrite 1 0x20000000 1)
      applied.revertDiff (.FileWrite 1 0x20000000 1 : PrivStateChange 32)) =
      .ok ⟨progState.stdout ++ [userState.memory.getByte (0x20000000 : BitVec 32)]⟩ :=
  ⟨PrivState.revertDiff_applyDiff_fileWrite self mem [0x41],
    PrivProgState.revertDiff_applyDiff_fileWrite conv progState userState 1 0x20000000 1 (by decide)⟩

/-- Prints any messages related to the exit cause, and returns the exit code. -/
def TermCause.handleExit {w : Nat} {P : Type} (self : TermCause) (privState : PrivState w P) :
    PrivState w P × BitVec 8 :=
  match self with
  | .Exit n => (privState, n.truncate 8 &&& 0b01111111)
  | .SegFault => (privState.writeStderr "Segmentation fault: 11\n", 11 ||| 0b10000000)
  | .BusError => (privState.writeStderr "bus error\n", 10 ||| 0b10000000)

end Duna
