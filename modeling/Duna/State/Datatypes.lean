import Mathlib

/-! Values, memory and register file of `program_state`; `T::RegData` and its kin are `BitVec w`. -/

namespace Duna

section Except

variable {ε α β : Type}

@[simp] theorem ok_bind (a : α) (f : α → Except ε β) : (Except.ok a >>= f) = f a := rfl

@[simp] theorem error_bind (e : ε) (f : α → Except ε β) :
    (Except.error e >>= f : Except ε β) = .error e := rfl

@[simp] theorem except_pure (a : α) : (pure a : Except ε α) = .ok a := rfl

variable {σ : Type}

@[simp] theorem stateT_bind_apply (x : StateT σ (Except ε) α) (f : α → StateT σ (Except ε) β)
    (s : σ) : (x >>= f) s = x s >>= fun p => f p.1 p.2 := rfl

@[simp] theorem stateT_liftM_apply (e : Except ε α) (s : σ) :
    (liftM e : StateT σ (Except ε) α) s = e >>= fun a => .ok (a, s) := rfl

@[simp] theorem stateT_map_apply (f : α → β) (x : StateT σ (Except ε) α) (s : σ) :
    (f <$> x) s = x s >>= fun p => .ok (f p.1, p.2) := rfl

@[simp] theorem stateT_pure_apply (a : α) (s : σ) : (pure a : StateT σ (Except ε) α) s = .ok (a, s) :=
  rfl

section Steps

variable {x : StateT σ (Except ε) α} {f : α → StateT σ (Except ε) β} {s : σ}

theorem stateT_bind_ok {r : β × σ} (ok : (x >>= f) s = .ok r) :
    ∃ a s', x s = .ok (a, s') ∧ f a s' = .ok r := by
  rw [stateT_bind_apply] at ok
  cases run : x s with
  | error e => rw [run] at ok; cases ok
  | ok p => rw [run] at ok; exact ⟨p.1, p.2, rfl, ok⟩

theorem stateT_bind_of_ok {a : α} {s' : σ} (run : x s = .ok (a, s')) : (x >>= f) s = f a s' := by
  rw [stateT_bind_apply, run, ok_bind]

theorem stateT_liftM_ok {e : Except ε α} {a : α} {s' : σ}
    (ok : (liftM e : StateT σ (Except ε) α) s = .ok (a, s')) : e = .ok a ∧ s' = s := by
  rw [stateT_liftM_apply] at ok
  cases e with
  | error => cases ok
  | ok => cases ok; exact ⟨rfl, rfl⟩

theorem stateT_liftM_of_ok {e : Except ε α} {a : α} (ok : e = .ok a) :
    (liftM e : StateT σ (Except ε) α) s = .ok (a, s) := by
  rw [stateT_liftM_apply, ok]; rfl

end Steps

end Except

/-- One byte of memory, `u8`. -/
abbrev DataByte := BitVec 8

/-- A memory word, `DataWord`; 32 bits at every data width. -/
abbrev DataWord := BitVec 32

/-- Modelled from the spec: `ByteAddress::to_word_address`, the index of the four-byte word a
byte address falls in (`<ByteAddr as ByteAddress>::WordAddress` is a natural number here). -/
def toWordAddress (addr : BitVec w) : Nat := addr.toNat / 4

/-- Modelled from the spec: `ByteAddress::plus_4`, one instruction width further on. -/
def plus4 (addr : BitVec w) : BitVec w := addr + 4

/-- `base + T::usize_to_usgn(i)` on `T::Unsigned`: the cast truncates, and Rust's `+` panics
on overflow in a debug build. -/
def checkedAdd (base : BitVec w) (i : Nat) : Except String (BitVec w) :=
  if base.toNat + i % 2 ^ w < 2 ^ w then .ok (base + BitVec.ofNat w i)
  else .error "attempt to add with overflow"

theorem checkedAdd_of_lt {base : BitVec w} {i : Nat} (fits : base.toNat + i < 2 ^ w) :
    checkedAdd base i = .ok (BitVec.ofNat w (base.toNat + i)) := by
  have small : i % 2 ^ w = i := Nat.mod_eq_of_lt (by omega)
  simp only [checkedAdd, small, fits, if_true]
  congr 1
  apply BitVec.eq_of_toNat_eq
  simp [BitVec.toNat_add, small]

theorem checkedAdd_of_le {base : BitVec w} {i : Nat} (small : i < 2 ^ w)
    (overflow : 2 ^ w ≤ base.toNat + i) :
    checkedAdd base i = .error "attempt to add with overflow" := by
  have same : i % 2 ^ w = i := Nat.mod_eq_of_lt small
  simp only [checkedAdd, same]
  rw [if_neg (by omega)]

/-- `v[k]` on a `Vec`, which panics past its end. -/
def vecIndex {α : Type} (v : List α) (k : Nat) : Except String α :=
  match v[k]? with
  | some a => .ok a
  | none => .error ("index out of bounds: the len is " ++ toString v.length ++
      " but the index is " ++ toString k)

theorem vecIndex_of_lt {α : Type} {v : List α} {k : Nat} (inside : k < v.length) :
    vecIndex v k = .ok v[k] := by
  simp [vecIndex, inside]

/-- Modelled from the spec: `Memory`, word-aligned storage of `DataWord`s with byte access
inside a word (byte `k` of a word is its bits `8k` to `8k + 7`); unwritten words read zero. -/
@[ext]
structure Memory where
  words : Nat → DataWord

namespace Memory

def new : Memory := ⟨fun _ => 0⟩

def getWord (memory : Memory) (addr : Nat) : DataWord := memory.words addr

def setWord (memory : Memory) (addr : Nat) (val : DataWord) : Memory :=
  ⟨Function.update memory.words addr val⟩

/-- Where the byte at `addr` sits inside its word. -/
def byteShift (addr : BitVec w) : Nat := 8 * (addr.toNat % 4)

def getByte (memory : Memory) (addr : BitVec w) : DataByte :=
  (memory.getWord (toWordAddress addr)).extractLsb' (byteShift addr) 8

def setByte (memory : Memory) (addr : BitVec w) (val : DataByte) : Memory :=
  let word := memory.getWord (toWordAddress addr)
  memory.setWord (toWordAddress addr)
    ((word &&& ~~~((0xFF : DataWord) <<< byteShift addr)) ||| (val.zeroExtend 32 <<< byteShift addr))

@[simp] theorem getWord_new (addr : Nat) : new.getWord addr = 0 := rfl

@[simp] theorem getWord_setWord (memory : Memory) (addr other : Nat) (val : DataWord) :
    (memory.setWord addr val).getWord other = if other = addr then val else memory.getWord other := by
  by_cases same : other = addr
  · subst other; simp [getWord, setWord]
  · simp [getWord, setWord, same]

@[simp] theorem setWord_setWord_getWord (memory : Memory) (addr : Nat) (val : DataWord) :
    (memory.setWord addr val).setWord addr (memory.getWord addr) = memory := by
  ext1
  simp [setWord, getWord]

private theorem extractLsb'_insertByte (word : DataWord) (val : DataByte) {shift : Nat}
    (inWord : shift ≤ 24) :
    ((word &&& ~~~((0xFF : DataWord) <<< shift)) ||| (val.zeroExtend 32 <<< shift)).extractLsb'
      shift 8 = val := by
  ext i
  have bitInWord : shift + i < 32 := by omega
  have bitInByte : (i : Nat) < 32 := by omega
  have lowByte : ∀ j : Fin 8, (255#32).getLsbD j = true := by decide
  have offset : shift + i - shift = i := by omega
  have notBelow : ¬ (shift + i < shift) := by omega
  simp [BitVec.getLsbD_extractLsb', BitVec.getLsbD_or, BitVec.getLsbD_and, BitVec.getLsbD_not,
    BitVec.getLsbD_shiftLeft, bitInWord, bitInByte, lowByte i, offset, notBelow]

@[simp] theorem getByte_setByte_self (memory : Memory) (addr : BitVec w) (val : DataByte) :
    (memory.setByte addr val).getByte addr = val := by
  simp only [getByte, setByte, getWord_setWord, if_pos rfl]
  exact extractLsb'_insertByte _ _ (by simp only [byteShift]; omega)

theorem getWord_setByte_of_ne (memory : Memory) (addr : BitVec w) (val : DataByte)
    {other : Nat} (outside : other ≠ toWordAddress addr) :
    (memory.setByte addr val).getWord other = memory.getWord other := by
  simp [setByte, outside]

end Memory

/-- Modelled from the spec: the register capability of an architecture family; `zero` is the
hardwired register of the family. -/
class IRegister (R : Type) where
  zero : R

/-- Modelled from the spec: `RegFile`, one `w`-bit value per register; the hardwired register
reads zero and writes to it are absorbed. -/
structure RegFile (R : Type) (w : Nat) where
  store : R → BitVec w

namespace RegFile

variable {R : Type} [DecidableEq R] [IRegister R]

def new : RegFile R w := ⟨fun _ => 0⟩

def read (regfile : RegFile R w) (reg : R) : BitVec w :=
  if reg = IRegister.zero then 0 else regfile.store reg

def set (regfile : RegFile R w) (reg : R) (val : BitVec w) : RegFile R w :=
  if reg = IRegister.zero then regfile else ⟨Function.update regfile.store reg val⟩

@[simp] theorem read_zero (regfile : RegFile R w) : regfile.read IRegister.zero = 0 := by
  simp [read]

@[simp] theorem set_zero (regfile : RegFile R w) (val : BitVec w) :
    regfile.set IRegister.zero val = regfile := by
  simp [set]

@[simp] theorem set_set_read (regfile : RegFile R w) (reg : R) (val : BitVec w) :
    (regfile.set reg val).set reg (regfile.read reg) = regfile := by
  by_cases hardwired : reg = IRegister.zero
  · subst reg; simp
  · simp [set, read, hardwired]

end RegFile

/-- Modelled from the spec: `RiscVRegister`, the 32 integer registers `x0` to `x31` of
RISC-V; `x0` is hardwired to zero. -/
structure RiscVRegister where
  idx : Fin 32
deriving DecidableEq

instance : IRegister RiscVRegister := ⟨⟨0⟩⟩

/-- The stack pointer `sp`, `x2`. -/
def RiscVRegister.SP : RiscVRegister := ⟨2⟩

/-- The first argument and return register `a0`, `x10`. -/
def RiscVRegister.A0 : RiscVRegister := ⟨10⟩

/-- Modelled from the spec: `MipsRegister`, the 32 general registers of MIPS; `$zero` is
hardwired to zero. -/
@[ext]
structure MipsRegister where
  idx : Fin 32
deriving DecidableEq

instance : IRegister MipsRegister := ⟨⟨0⟩⟩

end Duna
