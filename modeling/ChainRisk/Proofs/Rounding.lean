import ChainRisk.Number.Binary64

namespace ChainRisk.Binary64

variable {num den u v : Nat}

theorem spacing_le {q : Nat} (h : 0 < q) : spacing q ≤ q :=
  Nat.le_trans (Nat.pow_le_pow_right (by decide) (by omega)) (Nat.log2_self_le (Nat.ne_of_gt h))

theorem roundedDiv_le (num den : Nat) : roundedDiv num den ≤ num / den + 1 := by
  simp only [roundedDiv]
  split
  · exact Nat.le_refl _
  · exact Nat.le_succ _

/-- Rounding to a multiple of the spacing at most doubles a quotient, unless it was zero. -/
theorem nearest_le (num den : Nat) : nearest num den ≤ 2 * (num / den) + 1 := by
  have hround := Nat.mul_le_mul_right (spacing (num / den)) (roundedDiv_le num (den * spacing (num / den)))
  rw [← Nat.div_div_eq_div_mul, Nat.add_mul, Nat.one_mul] at hround
  rw [nearest]
  generalize num / den = q at hround ⊢
  have hdiv := Nat.div_mul_le_self q (spacing q)
  rcases Nat.eq_zero_or_pos q with rfl | hq
  · exact hround
  · have hspacing := spacing_le hq
    omega

theorem one_pos : 0 < one := by decide +kernel

theorem exists_mul_eq_finite (h : 2 * (u * v / one) + 1 < bound) (s t : Bool) :
    ∃ w, finite s u * finite t v = finite (s != t) w := by
  have hlt : nearest (u * v) one < bound := Nat.lt_of_le_of_lt (nearest_le _ _) h
  have hmul : finite s u * finite t v = ofRatio (s != t) (u * v) one := by
    simp only [HMul.hMul, Mul.mul, mul]
  exact ⟨nearest (u * v) one, by rw [hmul, ofRatio, ofUnits, if_pos hlt]⟩

end ChainRisk.Binary64
