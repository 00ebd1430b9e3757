import ChainRisk.Time.Moment
import Mathlib.Order.Defs.LinearOrder

namespace ChainRisk

namespace Instant

variable {t u : Instant}

theorem le_iff_units : t ≤ u ↔ t.units ≤ u.units := Iff.rfl

theorem lt_iff_units : t < u ↔ t.units < u.units := Iff.rfl

theorem eq_iff_units : t = u ↔ t.units = u.units := by
  obtain ⟨n⟩ := t
  obtain ⟨k⟩ := u
  simp

instance : LinearOrder Instant where
  le_refl t := Nat.le_refl t.units
  le_trans _ _ _ := Nat.le_trans
  le_antisymm _ _ h h' := eq_iff_units.2 (Nat.le_antisymm h h')
  le_total t u := Nat.le_total t.units u.units
  lt_iff_le_not_ge t u := by simp only [le_iff_units, lt_iff_units]; omega
  toDecidableLE := inferInstance

end Instant

namespace Moment

variable {m n : Moment}

theorem le_iff_units : m ≤ n ↔ m.instant.units < n.instant.units ∨
    m.instant.units = n.instant.units ∧ m.turn ≤ n.turn := by
  rw [← Instant.eq_iff_units]
  rfl

theorem lt_iff_units : m < n ↔ m.instant.units < n.instant.units ∨
    m.instant.units = n.instant.units ∧ m.turn < n.turn := by
  rw [← Instant.eq_iff_units]
  rfl

instance : LinearOrder Moment where
  le_refl _ := le_iff_units.2 (.inr ⟨rfl, Nat.le_refl _⟩)
  le_trans _ _ _ h h' := by simp only [le_iff_units] at *; omega
  le_antisymm m n h h' := by
    obtain ⟨⟨t⟩, i⟩ := m
    obtain ⟨⟨u⟩, j⟩ := n
    simp only [le_iff_units, mk.injEq, Instant.mk.injEq] at *
    omega
  le_total m n := by simp only [le_iff_units]; omega
  lt_iff_le_not_ge m n := by simp only [le_iff_units, lt_iff_units]; omega
  toDecidableLE := inferInstance

theorem instant_le (h : m ≤ n) : m.instant ≤ n.instant := by
  simp only [le_iff_units, Instant.le_iff_units] at *
  omega

end Moment

end ChainRisk
