import ChainRisk.Time.Instant

/-!
Moments of a run. Pieces of work that run side by side take turns, and time stands still while they
do, so a moment is an instant and the number of turns since the clock came to it. Moments are ordered
by their instants, and within one instant by their turns.
-/

namespace ChainRisk

structure Moment where
  instant : Instant
  turn : Nat
  deriving DecidableEq, Repr

namespace Moment

def ofInstant (t : Instant) : Moment := ⟨t, 0⟩

instance : LE Moment :=
  ⟨fun m n => m.instant < n.instant ∨ (m.instant = n.instant ∧ m.turn ≤ n.turn)⟩
instance : LT Moment :=
  ⟨fun m n => m.instant < n.instant ∨ (m.instant = n.instant ∧ m.turn < n.turn)⟩
instance (m n : Moment) : Decidable (m ≤ n) :=
  inferInstanceAs (Decidable (m.instant < n.instant ∨ (m.instant = n.instant ∧ m.turn ≤ n.turn)))
instance (m n : Moment) : Decidable (m < n) :=
  inferInstanceAs (Decidable (m.instant < n.instant ∨ (m.instant = n.instant ∧ m.turn < n.turn)))
instance : Max Moment := maxOfLe

def next (m : Moment) : Moment := { m with turn := m.turn + 1 }

def after (m : Moment) (d : Binary64) : Moment :=
  if m.instant.after d = m.instant then m else ofInstant (m.instant.after d)

/-- The moment at which a deadline passes. It leaves at least the current turn. -/
def deadline (m : Moment) (d : Binary64) : Moment := max m.next (ofInstant (m.instant.after d))

theorem lt_next (m : Moment) : m < m.next := Or.inr ⟨rfl, Nat.lt_succ_self m.turn⟩

theorem le_after_moment (m : Moment) (d : Binary64) : m ≤ m.after d := by
  unfold after
  split
  · exact Or.inr ⟨rfl, Nat.le_refl _⟩
  · next h =>
    have hle : m.instant.units ≤ (m.instant.after d).units := m.instant.le_after d
    have hne : m.instant.units ≠ (m.instant.after d).units := fun hu =>
      h (congrArg Instant.mk hu.symm)
    exact Or.inl (Nat.lt_of_le_of_ne hle hne)

end Moment

end ChainRisk
