import Mathlib.Algebra.Order.Ring.Nat
import JudgeDesk.Binary64.Decimal

/-!
# Finite numbers

A word, rounded to a floating point number, is finite: its leading bit is at one of sixty-four
places, which is far from the range where numbers turn infinite.

* `isFinite_signed`, `isFinite_neg` — the sign does not matter;
* `scaledBits_lt_infiniteBits` — the bits of a word;
* `isFinite_ofNat`, `isFinite_ofInt` — words are finite;
* `isFinite_of_ofSignificand?` — so are the numbers of a document.
-/

namespace JudgeDesk.Binary64

/-! ### Signs -/

theorem magnitudeBits_signed (negative : Bool) {m : Nat} (h : m < signBit) :
    (signed negative m).magnitudeBits = m := by
  have hword : (if negative then signBit + m else m) < UInt64.size := by
    have hsize : UInt64.size = signBit + signBit := rfl
    rw [hsize]
    split <;> omega
  rw [magnitudeBits, signed, UInt64.toNat_ofNat_of_lt' hword]
  split
  · rw [Nat.add_mod_left, Nat.mod_eq_of_lt h]
  · exact Nat.mod_eq_of_lt h

theorem isFinite_signed (negative : Bool) {m : Nat} (h : m < infiniteBits) :
    (signed negative m).isFinite = true := by
  rw [isFinite, magnitudeBits_signed negative (h.trans (by decide))]
  exact decide_eq_true h

theorem isFinite_neg {x : Binary64} (h : x.isFinite = true) : x.neg.isFinite = true :=
  isFinite_signed _ (of_decide_eq_true h)

/-! ### Words -/

theorem roundDiv_le (num den : Nat) : roundDiv num den ≤ num / den + 1 := by
  unfold roundDiv
  dsimp only
  split_ifs <;> omega

/-- The unit in the last place of a whole number goes with its bit length. -/
theorem scaleOf_one (n : Nat) : n.log2 + 1021 ≤ scaleOf n 1 ∧ scaleOf n 1 ≤ n.log2 + 1022 := by
  have hguess : n.log2 + 1074 - (Nat.log2 1 + 52) = n.log2 + 1022 := by
    rw [show Nat.log2 1 = 0 from by decide]
    omega
  unfold scaleOf
  rw [hguess]
  dsimp only
  split_ifs <;> omega

/-- **The bits of a word are those of a finite number.** -/
theorem scaledBits_lt_infiniteBits {n : Nat} (h : n < UInt64.size) :
    scaledBits n 1 (scaleOf n 1) < infiniteBits := by
  obtain ⟨hlow, hhigh⟩ := scaleOf_one n
  generalize scaleOf n 1 = scale at hlow hhigh ⊢
  have hlog : n.log2 < 64 := by
    rcases Nat.eq_zero_or_pos n with rfl | hpos
    · decide
    · exact (Nat.log2_lt hpos.ne').mpr h
  have hn : n < 2 ^ (n.log2 + 1) := Nat.lt_log2_self
  -- what is left of the word takes up to fifty-four bits, at the unit of its scale
  have hunits : (if scale ≤ 1074 then roundDiv (n * Nat.pow 2 (1074 - scale)) 1
      else roundDiv n (1 * Nat.pow 2 (scale - 1074))) ≤ 2 ^ 54 + 1 := by
    split
    · next hscale =>
      have hshifted : n * 2 ^ (1074 - scale) ≤ 2 ^ 54 := by
        calc n * 2 ^ (1074 - scale) ≤ 2 ^ (n.log2 + 1) * 2 ^ (1074 - scale) :=
              Nat.mul_le_mul_right _ hn.le
          _ = 2 ^ (n.log2 + 1 + (1074 - scale)) := (Nat.pow_add ..).symm
          _ ≤ 2 ^ 54 := Nat.pow_le_pow_right (by decide) (by omega)
      refine (roundDiv_le _ 1).trans ?_
      rw [Nat.div_one]
      exact Nat.add_le_add_right hshifted 1
    · next hscale =>
      have hshifted : n < 2 ^ 54 * 2 ^ (scale - 1074) := by
        calc n < 2 ^ (n.log2 + 1) := hn
          _ ≤ 2 ^ (54 + (scale - 1074)) := Nat.pow_le_pow_right (by decide) (by omega)
          _ = 2 ^ 54 * 2 ^ (scale - 1074) := Nat.pow_add ..
      refine (roundDiv_le n _).trans (Nat.add_le_add_right ?_ 1)
      rw [Nat.one_mul]
      exact (Nat.div_lt_of_lt_mul ((Nat.mul_comm _ _).symm ▸ hshifted)).le
  have hscaled : scale * leadingBit ≤ 1085 * leadingBit := Nat.mul_le_mul_right _ (by omega)
  refine (Nat.min_le_left _ _).trans_lt ?_
  calc _ ≤ 1085 * leadingBit + (2 ^ 54 + 1) := Nat.add_le_add hscaled hunits
    _ < infiniteBits := by decide

theorem isFinite_ofRatio_one (negative : Bool) {n : Nat} (h : n < UInt64.size) :
    (ofRatio negative n 1).isFinite = true := by
  unfold ofRatio
  split
  · exact isFinite_signed negative (by decide)
  · exact isFinite_signed negative (scaledBits_lt_infiniteBits h)

theorem isFinite_ofNat {n : Nat} (h : n < UInt64.size) : (ofNat n).isFinite = true :=
  isFinite_ofRatio_one false h

theorem isFinite_ofInt {i : Int} (h : i.natAbs < UInt64.size) : (ofInt i).isFinite = true :=
  isFinite_ofRatio_one _ h

/-- **A number of a document is finite.** -/
theorem isFinite_of_ofSignificand? {negative : Bool} {significand : Nat} {exponent : Int}
    {x : Binary64} (h : ofSignificand? negative significand exponent = some x) :
    x.isFinite = true := by
  obtain ⟨m, hm, rfl⟩ := Option.map_eq_some_iff.mp h
  have hfinite : m.isFinite = true := (Option.filter_eq_some_iff.mp hm).2
  split
  · exact isFinite_neg hfinite
  · exact hfinite

end JudgeDesk.Binary64
