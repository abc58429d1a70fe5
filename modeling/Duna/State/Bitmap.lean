import Duna.State.Datatypes

/-! `program_state/bitmap.rs`: entry `idx` is bit `idx % 64` of word `idx / 64`. -/

namespace Duna

/-- A bitmap with `bitCnt` entries backed by `u64` words; the `usize` sizes never overflow. -/
structure Bitmap where
  bitCnt : Nat
  bits : List (BitVec 64)

namespace Bitmap

/-- `word >> s` on a `u64`, which panics from 64 on. -/
def shr (word : BitVec 64) (s : Nat) : Except String (BitVec 64) :=
  if s < 64 then .ok (word >>> s) else .error "attempt to shift right with overflow"

/-- `word << s` on a `u64`, which panics from 64 on. -/
def shl (word : BitVec 64) (s : Nat) : Except String (BitVec 64) :=
  if s < 64 then .ok (word <<< s) else .error "attempt to shift left with overflow"

/-- Constructs a new bitmap with `bitCnt` entries. -/
def new (bitCnt : Nat) : Bitmap :=
  let roundUp := bitCnt % 64 != 0
  ⟨bitCnt, List.replicate (bitCnt / 64 + if roundUp then 1 else 0) 0⟩

def boundsCheck (self : Bitmap) (idx : Nat) : Except String Unit :=
  if idx ≥ self.bitCnt then
    .error ("Attempted to access index " ++ toString idx ++ " for bitmap of size " ++
      toString self.bitCnt)
  else .ok ()

/-- Reads an entry in the bitmap. Panics if the index is out of bounds. -/
def read (self : Bitmap) (idx : Nat) : Except String Bool := do
  self.boundsCheck idx
  let n ← vecIndex self.bits (idx / 64)
  let bitIdx := idx % 64
  let shifted ← shr n bitIdx
  return (shifted &&& 1) != 0

/-- Flips an entry in the bitmap. Panics if the index is out of bounds. -/
def flip (self : Bitmap) (idx : Nat) : Except String Bitmap := do
  self.boundsCheck idx
  let bitIdx := idx % 64
  let mask ← shl 1 bitIdx
  let k := idx / 64
  let word ← vecIndex self.bits k
  return { self with bits := self.bits.set k (word ^^^ mask) }

/-- A client's calls `flip(i)` for each `i` of `idxs` in turn, up to the first panic. -/
def flipAll (self : Bitmap) (idxs : List Nat) : Except String Bitmap :=
  idxs.foldlM flip self

/-- The entry `j` as the words hold it, a missing word reading as zero. -/
def bit (self : Bitmap) (j : Nat) : Bool :=
  (self.bits.getD (j / 64) 0).getLsbD (j % 64)

def WellSized (self : Bitmap) : Prop :=
  self.bits.length = (self.bitCnt + 63) / 64

/-! ### One call -/

theorem length_new (bitCnt : Nat) : (new bitCnt).bits.length = (bitCnt + 63) / 64 := by
  simp only [new, List.length_replicate, bne_iff_ne, ne_eq]
  split_ifs <;> omega

theorem new_wellSized (bitCnt : Nat) : (new bitCnt).WellSized :=
  length_new bitCnt

@[simp] theorem bit_new (bitCnt j : Nat) : (new bitCnt).bit j = false := by
  have zero : (new bitCnt).bits.getD (j / 64) 0 = 0 := by
    simp only [new, List.getD_eq_getElem?_getD, List.getElem?_replicate]
    split_ifs <;> rfl
  rw [bit, zero]
  simp

theorem wordIndex_lt {self : Bitmap} (sized : self.WellSized) {idx : Nat}
    (inRange : idx < self.bitCnt) : idx / 64 < self.bits.length := by
  unfold WellSized at sized
  omega

theorem boundsCheck_of_lt {self : Bitmap} {idx : Nat} (inRange : idx < self.bitCnt) :
    self.boundsCheck idx = .ok () :=
  if_neg (Nat.not_le.mpr inRange)

theorem and_one_ne_zero (word : BitVec 64) : ((word &&& 1) != 0) = word.getLsbD 0 := by
  rw [← BitVec.testBit_toNat, Nat.testBit_zero, Bool.eq_iff_iff]
  simp [BitVec.toNat_eq, Nat.and_one_is_mod]

theorem shr_and_one (word : BitVec 64) (s : Nat) : ((word >>> s &&& 1) != 0) = word.getLsbD s := by
  rw [and_one_ne_zero, BitVec.getLsbD_ushiftRight, Nat.add_zero]

theorem one_shiftLeft_getLsbD {s j : Nat} (inWord : j < 64) :
    ((1 : BitVec 64) <<< s).getLsbD j = decide (s = j) := by
  rw [Bool.eq_iff_iff]
  simp [BitVec.getLsbD_shiftLeft, inWord]
  omega

theorem read_of_lt {self : Bitmap} (sized : self.WellSized) {idx : Nat}
    (inRange : idx < self.bitCnt) : self.read idx = .ok (self.bit idx) := by
  have stored := wordIndex_lt sized inRange
  simp only [read, boundsCheck_of_lt inRange, vecIndex_of_lt stored, shr,
    if_pos (Nat.mod_lt idx (by decide : 0 < 64)), ok_bind, shr_and_one, bit,
    List.getD_eq_getElem?_getD, List.getElem?_eq_getElem stored, Option.getD_some]
  rfl

def flipped (self : Bitmap) (idx : Nat) : Bitmap :=
  ⟨self.bitCnt,
    self.bits.set (idx / 64) (self.bits.getD (idx / 64) 0 ^^^ (1 : BitVec 64) <<< (idx % 64))⟩

theorem flip_of_lt {self : Bitmap} (sized : self.WellSized) {idx : Nat}
    (inRange : idx < self.bitCnt) : self.flip idx = .ok (self.flipped idx) := by
  have stored := wordIndex_lt sized inRange
  simp only [flip, boundsCheck_of_lt inRange, shl, if_pos (Nat.mod_lt idx (by decide : 0 < 64)),
    vecIndex_of_lt stored, ok_bind, flipped, List.getD_eq_getElem?_getD,
    List.getElem?_eq_getElem stored, Option.getD_some]
  rfl

theorem flipped_wellSized {self : Bitmap} (sized : self.WellSized) (idx : Nat) :
    (self.flipped idx).WellSized := by
  simpa [flipped, WellSized] using sized

theorem bit_flipped {self : Bitmap} (sized : self.WellSized) {idx : Nat}
    (inRange : idx < self.bitCnt) (j : Nat) :
    (self.flipped idx).bit j = (self.bit j ^^ decide (idx = j)) := by
  have stored := wordIndex_lt sized inRange
  by_cases sameWord : idx / 64 = j / 64
  · have sameEntry : idx % 64 = j % 64 ↔ idx = j := by omega
    simp only [bit, flipped, ← sameWord, List.getD_eq_getElem?_getD,
      List.getElem?_set_self stored, Option.getD_some, BitVec.getLsbD_xor,
      one_shiftLeft_getLsbD (Nat.mod_lt j (by decide : 0 < 64)), sameEntry]
  · have distinct : idx ≠ j := fun same => sameWord (congrArg (· / 64) same)
    simp [bit, flipped, List.getD_eq_getElem?_getD, List.getElem?_set_ne sameWord, distinct]

theorem boundsCheck_of_ge {self : Bitmap} {idx : Nat} (outside : self.bitCnt ≤ idx) :
    self.boundsCheck idx = .error ("Attempted to access index " ++ toString idx ++
      " for bitmap of size " ++ toString self.bitCnt) :=
  if_pos outside

theorem read_flip_of_ge {self : Bitmap} {idx : Nat} (outside : self.bitCnt ≤ idx) :
    self.read idx = .error ("Attempted to access index " ++ toString idx ++
        " for bitmap of size " ++ toString self.bitCnt) ∧
      self.flip idx = .error ("Attempted to access index " ++ toString idx ++
        " for bitmap of size " ++ toString self.bitCnt) := by
  simp only [read, flip, boundsCheck_of_ge outside]
  exact ⟨rfl, rfl⟩

end Bitmap

/-! ### What a bitmap is for -/

/-- `n` flags, what a bitmap of `n` entries stands for. -/
abbrev Flags (n : Nat) := Mathlib.Vector Bool n

namespace Flags

variable {n : Nat}

def flip (v : Flags n) (i : Fin n) : Flags n := v.set i (!v.get i)

def clear (n : Nat) : Flags n := Mathlib.Vector.replicate n false

def flipAll (v : Flags n) (idxs : List (Fin n)) : Flags n := idxs.foldl flip v

theorem get_flip (v : Flags n) (i j : Fin n) : (v.flip i).get j = (v.get j ^^ decide (i = j)) := by
  by_cases same : i = j
  · subst same
    simp [flip]
  · simp [flip, Mathlib.Vector.get_set_of_ne same, same]

theorem get_flipAll (v : Flags n) (idxs : List (Fin n)) (j : Fin n) :
    (v.flipAll idxs).get j = (v.get j ^^ decide (idxs.count j % 2 = 1)) := by
  induction idxs generalizing v with
  | nil => simp [flipAll]
  | cons i idxs ih =>
    simp only [flipAll, List.foldl_cons] at ih ⊢
    rw [ih, get_flip, List.count_cons, Bool.xor_assoc]
    congr 1
    by_cases same : i = j
    · rcases Nat.mod_two_eq_zero_or_one (idxs.count j) with parity | parity <;>
        simp [same, parity, Nat.add_mod]
    · simp [same]

end Flags

namespace Bitmap

/-- `bm` stands for the flags `v`: as many entries, words enough, each entry its flag. -/
structure Refines {n : Nat} (bm : Bitmap) (v : Flags n) : Prop where
  size : bm.bitCnt = n
  sized : bm.WellSized
  agree : ∀ j : Fin n, bm.bit j = v.get j

variable {n : Nat}

theorem refines_new (n : Nat) : Refines (new n) (Flags.clear n) :=
  ⟨rfl, new_wellSized n, fun j => by simp [Flags.clear]⟩

theorem Refines.read {bm : Bitmap} {v : Flags n} (refines : Refines bm v) (j : Fin n) :
    bm.read j = .ok (v.get j) := by
  rw [read_of_lt refines.sized (refines.size ▸ j.isLt), refines.agree]

theorem Refines.flip {bm : Bitmap} {v : Flags n} (refines : Refines bm v) (i : Fin n) :
    bm.flip i = .ok (bm.flipped i) ∧ Refines (bm.flipped i) (v.flip i) := by
  have inRange : (i : Nat) < bm.bitCnt := refines.size ▸ i.isLt
  refine ⟨flip_of_lt refines.sized inRange, refines.size, flipped_wellSized refines.sized i,
    fun j => ?_⟩
  rw [bit_flipped refines.sized inRange, refines.agree j, Flags.get_flip]
  simp only [Fin.val_eq_val]

theorem Refines.flipAll {bm : Bitmap} {v : Flags n} (refines : Refines bm v)
    (idxs : List (Fin n)) :
    ∃ bm', bm.flipAll (idxs.map Fin.val) = .ok bm' ∧ Refines bm' (v.flipAll idxs) := by
  induction idxs generalizing bm v with
  | nil => exact ⟨bm, rfl, refines⟩
  | cons i idxs ih =>
    obtain ⟨step, next⟩ := refines.flip i
    obtain ⟨bm', run, final⟩ := ih next
    refine ⟨bm', ?_, final⟩
    simp only [Bitmap.flipAll, List.map_cons, List.foldlM_cons, step, ok_bind] at run ⊢
    exact run

/-- From `Bitmap::new(bit_cnt)`, in-range flips succeed, refine the same flips of the clear flags,
and `read(j)` is the parity of the flips made at `j`. -/
theorem flipAll_new_read (bitCnt : Nat) (flips : List (Fin bitCnt)) :
    ∃ bm, (new bitCnt).flipAll (flips.map Fin.val) = .ok bm ∧
      Refines bm ((Flags.clear bitCnt).flipAll flips) ∧
      ∀ j : Fin bitCnt, bm.read j = .ok (decide (flips.count j % 2 = 1)) := by
  obtain ⟨bm, run, refines⟩ := (refines_new bitCnt).flipAll flips
  refine ⟨bm, run, refines, fun j => ?_⟩
  rw [refines.read, Flags.get_flipAll, Flags.clear, Mathlib.Vector.get_replicate, Bool.false_xor]

/-- The flips of `test_bitmap_several`, with index 142 flipped back. -/
example : ((new 256).flipAll [0, 31, 142, 255, 142] >>= fun bm => bm.read 255) = .ok true := by
  rfl

/-- After in-range flips, `read(idx)` and `flip(idx)` panic exactly when `idx ≥ bit_cnt`, in
`bounds_check`; an index in range has its word and a shift below 64. -/
theorem flipAll_new_panic_iff (bitCnt idx : Nat) (flips : List (Fin bitCnt)) :
    ∃ bm, (new bitCnt).flipAll (flips.map Fin.val) = .ok bm ∧
      ((∃ msg, bm.read idx = .error msg) ↔ bitCnt ≤ idx) ∧
      ((∃ msg, bm.flip idx = .error msg) ↔ bitCnt ≤ idx) ∧
      (∀ msg, bm.read idx = .error msg ∨ bm.flip idx = .error msg →
        bm.boundsCheck idx = .error msg) ∧
      bm.bits.length = (bitCnt + 63) / 64 ∧
      (idx < bitCnt → idx / 64 < bm.bits.length ∧ idx % 64 < 64) := by
  obtain ⟨bm, run, refines⟩ := (refines_new bitCnt).flipAll flips
  have size := refines.size
  refine ⟨bm, run, ?_, ?_, ?_, size ▸ refines.sized, fun inRange =>
    ⟨wordIndex_lt refines.sized (size ▸ inRange), Nat.mod_lt idx (by decide)⟩⟩
  all_goals
    rcases Nat.lt_or_ge idx bitCnt with inRange | outside
    · simp [read_of_lt refines.sized (size ▸ inRange), flip_of_lt refines.sized (size ▸ inRange),
        inRange]
    · have stops := @read_flip_of_ge bm idx (size ▸ outside)
      simp [stops.1, stops.2, boundsCheck_of_ge (size ▸ outside), outside]

end Bitmap

end Duna
