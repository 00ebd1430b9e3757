import ChainRisk.Number.Binary64

/-!
Instants of a run, counted from its start, and lengths of time. A sum is rounded like every sum of
floating-point numbers and never falls before its first term.
-/

namespace ChainRisk

structure Instant where
  units : Nat
  deriving DecidableEq, Repr

namespace Instant

def start : Instant := ⟨0⟩

instance : LE Instant := ⟨fun s t => s.units ≤ t.units⟩
instance : LT Instant := ⟨fun s t => s.units < t.units⟩
instance (s t : Instant) : Decidable (s ≤ t) := inferInstanceAs (Decidable (s.units ≤ t.units))
instance (s t : Instant) : Decidable (s < t) := inferInstanceAs (Decidable (s.units < t.units))
instance : Min Instant := minOfLe
instance : Max Instant := maxOfLe

/-- The instant a length of time later. A length that is not positive does not count, and after an
endless one no instant of the format comes. -/
def after (t : Instant) : Binary64 → Instant
  | .finite false u => ⟨max t.units (Binary64.nearest (t.units + u) 1)⟩
  | .infinite false => ⟨max t.units Binary64.bound⟩
  | _ => t

def toBinary64 (t : Instant) : Binary64 := .ofUnits false t.units

theorem le_after (t : Instant) (d : Binary64) : t ≤ t.after d := by
  unfold after
  split
  · exact Nat.le_max_left _ _
  · exact Nat.le_max_left _ _
  · exact Nat.le_refl _

end Instant

end ChainRisk
