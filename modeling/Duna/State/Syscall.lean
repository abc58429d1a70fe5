import Duna.State.Program

/-! The `write` syscall, from `dispatch_syscall` to stdout. -/

namespace Duna

variable {α β ε : Type}

theorem mapM_ok {f : α → Except ε β} {g : α → β} :
    ∀ {l : List α}, (∀ x ∈ l, f x = .ok (g x)) → l.mapM f = .ok (l.map g)
  | [], _ => rfl
  | x :: l, each => by
    rw [List.mapM_cons, each x (List.mem_cons_self x l),
      mapM_ok fun y member => each y (List.mem_cons_of_mem x member)]
    rfl

theorem mapM_error {f : α → Except ε β} {e : ε} :
    ∀ {l : List α}, (∀ x ∈ l, f x = .error e ∨ ∃ b, f x = .ok b) → (∃ x ∈ l, f x = .error e) →
      l.mapM f = .error e
  | [], _, ⟨x, member, _⟩ => absurd member (List.not_mem_nil x)
  | x :: l, each, ⟨y, member, failed⟩ => by
    rw [List.mapM_cons]
    rcases each x (List.mem_cons_self x l) with head | ⟨b, head⟩
    · rw [head]; rfl
    · have later : y ∈ l := (List.mem_cons.mp member).resolve_left fun same => by
        subst same; rw [failed] at head; cases head
      rw [head, mapM_error (fun z member => each z (List.mem_cons_of_mem x member))
        ⟨y, later, failed⟩]
      rfl

variable {R : Type} [DecidableEq R] [IRegister R] {w : Nat}

namespace PrivProgState

theorem fileWriteBytes_of_fits (memory : Memory) {buf len : BitVec w}
    (fits : buf.toNat + len.toNat ≤ 2 ^ w) :
    fileWriteBytes memory buf len = .ok ((List.range len.toNat).map fun i =>
      memory.getByte (BitVec.ofNat w (buf.toNat + i))) := by
  apply mapM_ok
  intro i member
  rw [checkedAdd_of_lt (by simp at member; omega)]
  rfl

theorem fileWriteBytes_of_overflow (memory : Memory) {buf len : BitVec w}
    (overflow : 2 ^ w < buf.toNat + len.toNat) :
    fileWriteBytes memory buf len = .error "attempt to add with overflow" := by
  have lenBound := len.isLt
  apply mapM_error
  · intro i member
    have inRange : i < 2 ^ w := by simp at member; omega
    by_cases fits : buf.toNat + i < 2 ^ w
    · exact .inr ⟨_, by rw [checkedAdd_of_lt fits]; rfl⟩
    · exact .inl (by rw [checkedAdd_of_le inRange (by omega)]; rfl)
  · refine ⟨2 ^ w - buf.toNat, by simp; omega, ?_⟩
    rw [checkedAdd_of_le (by omega) (by omega)]
    rfl

theorem revertDiff_applyDiff_fileWrite (conv : SyscallConvention R w) (self : PrivProgState)
    (userState : UserProgState R w) (fd buf len : BitVec w) (fits : buf.toNat + len.toNat ≤ 2 ^ w) :
    (do
      let (applied, _) ← self.applyDiff conv userState (.FileWrite fd buf len)
      applied.revertDiff (.FileWrite fd buf len)) =
      .ok ⟨self.stdout ++ (List.range len.toNat).map fun i =>
        userState.memory.getByte (BitVec.ofNat w (buf.toNat + i))⟩ := by
  simp only [applyDiff, fileWriteBytes_of_fits _ fits]
  rfl

end PrivProgState

/-- RISC-V Linux style: number in `a7`, arguments from `a0`, result in `a0`, `write` is 64. -/
def sampleConvention : SyscallConvention RiscVRegister 32 where
  numberToSyscall n := if n = 64 then some .Write else none
  syscallToNumber syscall := if syscall = .Write then 64 else -1
  syscallNumberReg := ⟨17⟩
  syscallArgRegs := [⟨10⟩, ⟨11⟩, ⟨12⟩]
  syscallReturnRegs := [⟨10⟩]
  threeArgs := by decide
  hasReturn := by decide

def writeCall (buf len : BitVec 32) : ProgramState RiscVRegister 32 :=
  { (ProgramState.new : ProgramState RiscVRegister 32) with
    userState := { (UserProgState.new : UserProgState RiscVRegister 32) with
      regfile := (((RegFile.new.set ⟨17⟩ 64).set ⟨10⟩ 1).set ⟨11⟩ buf).set ⟨12⟩ len } }

namespace ProgramState

theorem dispatchSyscall_write (conv : SyscallConvention R w) (state : ProgramState R w)
    (write : conv.numberToSyscall (state.userState.regfile.read conv.syscallNumberReg) = some .Write) :
    state.dispatchSyscall conv = .ok (.FileWrite (state.userState.regfile.read (conv.argReg 0))
      (state.userState.regfile.read (conv.argReg 1)) (state.userState.regfile.read (conv.argReg 2))) := by
  simp [dispatchSyscall, write, syscallWrite]

/-- An `ecall` for `write` appends `len` bytes from `buf` to stdout, returns `len` and advances
the pc; nothing else of the user state changes. The code ignores `fd`. -/
theorem applyDiff_ecall_write (conv : SyscallConvention R w) (state : ProgramState R w)
    (buf len : BitVec w)
    (write : conv.numberToSyscall (state.userState.regfile.read conv.syscallNumberReg) = some .Write)
    (bufArg : state.userState.regfile.read (conv.argReg 1) = buf)
    (lenArg : state.userState.regfile.read (conv.argReg 2) = len)
    (fits : buf.toNat + len.toNat ≤ 2 ^ w) :
    state.applyDiff conv (.Trap .Ecall) = .ok
      { privState := ⟨state.privState.stdout ++ (List.range len.toNat).map fun i =>
          state.userState.memory.getByte (BitVec.ofNat w (buf.toNat + i))⟩
        userState :=
          { pc := state.userState.pc + 4
            regfile := state.userState.regfile.set conv.returnReg len
            memory := state.userState.memory } } := by
  simp only [applyDiff, handleTrap, dispatchSyscall_write conv state write, bufArg, lenArg,
    ok_bind, PrivProgState.applyDiff, PrivProgState.fileWriteBytes_of_fits _ fits]
  rfl

theorem applyDiff_ecall_write_three_bytes :
    (writeCall 0x20000000 3).applyDiff sampleConvention (.Trap .Ecall) = .ok
      { privState := ⟨[] ++ (List.range 3).map fun i =>
          Memory.new.getByte (BitVec.ofNat 32 (0x20000000 + i))⟩
        userState :=
          { pc := 0 + 4
            regfile := (writeCall 0x20000000 3).userState.regfile.set sampleConvention.returnReg 3
            memory := Memory.new } } :=
  applyDiff_ecall_write _ _ 0x20000000 3 rfl rfl rfl (by decide)

/-- An `ecall` for `write` panics on the address sum exactly when the buffer runs past the
top of the `w`-bit address space. -/
theorem applyDiff_ecall_write_overflow_iff (conv : SyscallConvention R w)
    (state : ProgramState R w) (buf len : BitVec w)
    (write : conv.numberToSyscall (state.userState.regfile.read conv.syscallNumberReg) = some .Write)
    (bufArg : state.userState.regfile.read (conv.argReg 1) = buf)
    (lenArg : state.userState.regfile.read (conv.argReg 2) = len) :
    state.applyDiff conv (.Trap .Ecall) = .error "attempt to add with overflow" ↔
      2 ^ w < buf.toNat + len.toNat := by
  by_cases overflow : 2 ^ w < buf.toNat + len.toNat
  · simp only [overflow, iff_true, applyDiff, handleTrap, dispatchSyscall_write conv state write,
      bufArg, lenArg, ok_bind, PrivProgState.applyDiff,
      PrivProgState.fileWriteBytes_of_overflow _ overflow]
    rfl
  · rw [applyDiff_ecall_write conv state buf len write bufArg lenArg (by omega)]
    simp [overflow]

theorem applyDiff_ecall_write_top_of_memory :
    (writeCall 0xFFFFFFFF 2).applyDiff sampleConvention (.Trap .Ecall) =
      .error "attempt to add with overflow" :=
  (applyDiff_ecall_write_overflow_iff sampleConvention (writeCall 0xFFFFFFFF 2) 0xFFFFFFFF 2
    rfl rfl rfl).mpr (by decide)

end ProgramState

end Duna
