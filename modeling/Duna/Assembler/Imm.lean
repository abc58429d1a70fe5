import Duna.Assembler.Parser

/-! The width check of `try_parse_imm`: the bits from `n` up must be all clear or all set. -/

namespace Duna.Assembler

variable {w : Nat}

theorem negOne_getLsbD (i : Nat) : (-1 : BitVec w).getLsbD i = decide (i < w) := by
  rw [show (-1 : BitVec w) = -1#w from rfl, BitVec.negOne_eq_allOnes, BitVec.getLsbD_allOnes]

theorem and_mask_eq_zero_iff (x : BitVec w) (k : Nat) :
    x &&& ((-1 : BitVec w) <<< k) = 0 ↔ x.toNat < 2 ^ k := by
  constructor
  · intro cleared
    apply Nat.lt_pow_two_of_testBit
    intro i above
    have bit := congrArg (fun y => y.getLsbD i) cleared
    simp only [BitVec.getLsbD_and, BitVec.getLsbD_shiftLeft, negOne_getLsbD,
      BitVec.getLsbD_zero] at bit
    rw [BitVec.testBit_toNat]
    by_cases inside : i < w
    · simpa [inside, Nat.not_lt.mpr above, show i - k < w by omega] using bit
    · exact BitVec.getLsbD_ge x i (by omega)
  · intro small
    ext i
    simp only [BitVec.getLsbD_and, BitVec.getLsbD_shiftLeft, negOne_getLsbD,
      BitVec.getLsbD_zero]
    by_cases above : k ≤ i
    · have high : x.getLsbD i = false := by
        rw [← BitVec.testBit_toNat]
        exact Nat.testBit_lt_two_pow (small.trans_le (Nat.pow_le_pow_right (by decide) above))
      simp [high]
    · simp [Nat.lt_of_not_le above]

theorem and_eq_right_iff (x m : BitVec w) : x &&& m = m ↔ ~~~x &&& m = 0 := by
  constructor <;> intro same <;> ext i <;> have bit := congrArg (fun y => y.getLsbD i) same <;>
    simp only [BitVec.getLsbD_and, BitVec.getLsbD_not, BitVec.getLsbD_zero, i.isLt,
      decide_True, Bool.true_and] at bit ⊢ <;>
    revert bit <;> cases x.getLsbD i <;> cases m.getLsbD i <;> simp

theorem and_mask_eq_mask_iff (x : BitVec w) (k : Nat) :
    x &&& ((-1 : BitVec w) <<< k) = (-1 : BitVec w) <<< k ↔ 2 ^ w - 2 ^ k ≤ x.toNat := by
  rw [and_eq_right_iff, and_mask_eq_zero_iff, BitVec.toNat_not]
  have := x.isLt
  have := Nat.one_le_two_pow (n := k)
  omega

namespace InstParser

theorem tryParseImm_immediate (n : Nat) (val : BitVec 32) (radix : ImmStyle) (loc : Location)
    (positive : 1 ≤ n) (below : n ≤ 31) :
    tryParseImm n ⟨.Immediate val radix, loc⟩ =
      if -2 ^ (n - 1) ≤ val.toInt ∧ val.toInt ≤ 2 ^ n - 1 then .ok val
      else reportError (.immTooBig loc n (radix.format val)) := by
  have halves : 2 ^ (n - 1) * 2 = 2 ^ n := by rw [← Nat.pow_succ]; congr 1; omega
  have bounded : 2 ^ n ≤ 2 ^ 31 := Nat.pow_le_pow_right (by decide) below
  have low : ((2 ^ (n - 1) : Nat) : Int) = 2 ^ (n - 1) := by push_cast; rfl
  have high : ((2 ^ n : Nat) : Int) = 2 ^ n := by push_cast; rfl
  have range := val.isLt
  simp only [tryParseImm, if_neg (show n ≠ 32 by omega), BitVec.msb_eq_decide, ne_eq]
  by_cases negative : 2 ^ 31 ≤ val.toNat
  · rw [BitVec.toInt_eq_toNat_cond, if_neg (show ¬2 * val.toNat < 2 ^ 32 by omega)]
    simp only [negative, decide_True, if_true, pure_bind, if_neg (show n ≠ 0 by omega),
      if_pos (show n - 1 < 32 by omega), and_mask_eq_zero_iff, and_mask_eq_mask_iff]
    split_ifs <;> first | rfl | omega
  · rw [BitVec.toInt_eq_toNat_cond, if_pos (show 2 * val.toNat < 2 ^ 32 by omega)]
    simp only [negative, decide_False, Bool.false_eq_true, if_false, pure_bind,
      if_pos (show n < 32 by omega), and_mask_eq_zero_iff, and_mask_eq_mask_iff]
    split_ifs <;> first | rfl | omega

theorem tryParseImm_thirtyTwo (val : BitVec 32) (radix : ImmStyle) (loc : Location) :
    tryParseImm 32 ⟨.Immediate val radix, loc⟩ = .ok val := by
  simp [tryParseImm]

/-- `try_parse_imm(n, Immediate(val))` for `1 ≤ n ≤ 31` takes exactly the negative values of `n`
signed bits and the non-negative values of `n` unsigned bits; at `n = 32` it takes all. -/
theorem tryParseImm_ok_iff (n : Nat) (val : BitVec 32) (radix : ImmStyle) (loc : Location)
    (positive : 1 ≤ n) (below : n ≤ 31) :
    (tryParseImm n ⟨.Immediate val radix, loc⟩ = .ok val ↔
        -2 ^ (n - 1) ≤ val.toInt ∧ val.toInt ≤ 2 ^ n - 1) ∧
      (¬(-2 ^ (n - 1) ≤ val.toInt ∧ val.toInt ≤ 2 ^ n - 1) →
        tryParseImm n ⟨.Immediate val radix, loc⟩ =
          reportError (.immTooBig loc n (radix.format val))) ∧
      tryParseImm 32 ⟨.Immediate val radix, loc⟩ = .ok val := by
  rw [tryParseImm_immediate n val radix loc positive below]
  refine ⟨?_, fun tooBig => if_neg tooBig, tryParseImm_thirtyTwo val radix loc⟩
  split_ifs with fits <;> simp [fits, reportError]

theorem tryParseImm_ok_iff_hex_f000 :
    tryParseImm 12 ⟨.Immediate 0xF000#32 .Hex, ⟨1, 11⟩⟩ =
      reportError (.immTooBig ⟨1, 11⟩ 12 (ImmStyle.Hex.format 0xF000#32)) :=
  (tryParseImm_ok_iff 12 0xF000#32 .Hex ⟨1, 11⟩ (by decide) (by decide)).2.1 (by decide)

/-- `try_parse_imm` never panics at the widths 1 to 32. -/
theorem tryParseImm_ne_panic (n : Nat) (positive : 1 ≤ n) (below : n ≤ 32) (token : Token)
    (msg : String) : tryParseImm n token ≠ .error (.panic msg) := by
  rcases token with ⟨_ | _ | _ | _ | _ | ⟨val, radix⟩ | _ | _, loc⟩
  case mk.Immediate =>
    rcases Nat.lt_or_ge n 32 with narrow | wide
    · rw [tryParseImm_immediate n val radix loc positive (by omega)]
      split_ifs <;> simp [reportError]
    · rw [show n = 32 by omega, tryParseImm_thirtyTwo]
      simp
  all_goals simp [tryParseImm, reportError]

end InstParser

end Duna.Assembler
