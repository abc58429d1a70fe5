import Duna.State.UserState

/-! `ProgramState` of `program_state/program.rs`; a Rust panic is `Except.error` with its message. -/

namespace Duna

/-- Represents the type of trap being raised from user mode. -/
inductive TrapKind
  | Ecall
  | PageFault
  | IntOverflow
deriving DecidableEq

/-- Encodes a change that occurs within the user space of a program. -/
inductive InstResult (R : Type) (w : Nat)
  | Trap (kind : TrapKind)
  | UserStateChange (diff : UserDiff R w)

/-- Encodes a change to the privileged aspects of a program, such as a write to a file. -/
inductive PrivStateChange (w : Nat)
  | Exit
  | NoChange
  | FileWrite (fd buf len : BitVec w)

inductive ProgramDiff (R : Type) (w : Nat)
  | PrivOnly (diff : PrivStateChange w)
  | UserOnly (diff : UserDiff R w)

inductive Syscall
  | Read
  | Write
  | Open
  | Close
deriving DecidableEq

/-- `SyscallConvention`: the number, argument and return registers of the syscall ABI. -/
structure SyscallConvention (R : Type) (w : Nat) where
  numberToSyscall : BitVec w → Option Syscall
  syscallToNumber : Syscall → BitVec w
  syscallNumberReg : R
  syscallArgRegs : List R
  syscallReturnRegs : List R
  threeArgs : 3 ≤ syscallArgRegs.length
  hasReturn : 0 < syscallReturnRegs.length

variable {R : Type} [DecidableEq R] [IRegister R] {w : Nat}

namespace SyscallConvention

def argReg (conv : SyscallConvention R w) (i : Fin 3) : R :=
  conv.syscallArgRegs.get ⟨i, by have := conv.threeArgs; omega⟩

def returnReg (conv : SyscallConvention R w) : R :=
  conv.syscallReturnRegs.get ⟨0, conv.hasReturn⟩

end SyscallConvention

/-- Contains program state that is visible only to privileged entities. -/
structure PrivProgState where
  /-- All bytes that have been printed to stdout. -/
  stdout : List DataByte

structure ProgramState (R : Type) (w : Nat) where
  privState : PrivProgState
  userState : UserProgState R w

/-- `ConcreteInst`: an instruction's machine code and its evaluation procedure. -/
class ConcreteInst (I : Type) (R : outParam Type) (w : outParam Nat) where
  toMachineCode : I → DataWord
  apply : I → ProgramState R w → InstResult R w

namespace PrivProgState

def new : PrivProgState := ⟨[]⟩

/-- The bytes a file write gathers: `len` bytes of memory from byte address `buf` on. -/
def fileWriteBytes (memory : Memory) (buf len : BitVec w) : Except String (List DataByte) :=
  (List.range len.toNat).mapM fun i => return memory.getByte (← checkedAdd buf i)

def applyDiff (conv : SyscallConvention R w) (self : PrivProgState) (userState : UserProgState R w) :
    PrivStateChange w → Except String (PrivProgState × UserDiff R w)
  | .NoChange => .ok (self, UserDiff.noop userState)
  | .FileWrite _ buf len => do
    let bytes ← fileWriteBytes userState.memory buf len
    return (⟨self.stdout ++ bytes⟩, UserDiff.regWritePcP4 userState conv.returnReg len)
  | .Exit => .error "not implemented"

/-- Reverts a privileged state change; a file write is left in place. -/
def revertDiff (self : PrivProgState) : PrivStateChange w → Except String PrivProgState
  | .NoChange => .ok self
  | .FileWrite .. => .ok self
  | .Exit => .error "not implemented"

end PrivProgState

namespace ProgramState

def new : ProgramState R w := ⟨PrivProgState.new, UserProgState.new⟩

def syscallWrite (fd buf len : BitVec w) : PrivStateChange w := .FileWrite fd buf len

def syscallUnknown : Except String (PrivStateChange w) := .error "Unknown syscall"

def dispatchSyscall (conv : SyscallConvention R w) (self : ProgramState R w) :
    Except String (PrivStateChange w) :=
  let rf := self.userState.regfile
  let a0 := rf.read (conv.argReg 0)
  let a1 := rf.read (conv.argReg 1)
  let a2 := rf.read (conv.argReg 2)
  match conv.numberToSyscall (rf.read conv.syscallNumberReg) with
  | some .Write => .ok (syscallWrite a0 a1 a2)
  | _ => syscallUnknown

def handleTrap (conv : SyscallConvention R w) (self : ProgramState R w) :
    TrapKind → Except String (PrivStateChange w)
  | .Ecall => self.dispatchSyscall conv
  | _ => .error "not implemented"

/-- Performs the described operation: the privileged operation is applied first, followed by
the user operation. -/
def applyDiff (conv : SyscallConvention R w) (self : ProgramState R w) :
    InstResult R w → Except String (ProgramState R w)
  | .Trap kind => do
    let privDiff ← self.handleTrap conv kind
    let (privState, userDiff) ← self.privState.applyDiff conv self.userState privDiff
    return ⟨privState, self.userState.applyDiff userDiff⟩
  | .UserStateChange userDiff => .ok { self with userState := self.userState.applyDiff userDiff }

def applyInst [ConcreteInst I R w] (conv : SyscallConvention R w) (self : ProgramState R w)
    (inst : I) : Except String (ProgramState R w) :=
  self.applyDiff conv (ConcreteInst.apply inst self)

def revertDiff (self : ProgramState R w) : ProgramDiff R w → Except String (ProgramState R w)
  | .UserOnly diff => .ok { self with userState := self.userState.revertDiff diff }
  | .PrivOnly diff => do return { self with privState := ← self.privState.revertDiff diff }

end ProgramState

end Duna
