namespace ChainRisk.Text

abbrev RangeTable := List (Nat × Nat)

def RangeTable.member (t : RangeTable) (c : Char) : Bool :=
  t.any fun r => decide (r.1 ≤ c.toNat) && decide (c.toNat ≤ r.2)

/-- The code points `first`, `first + step`, … up to `last` move to the code points `shift` away. -/
structure Run where
  first : Nat
  last : Nat
  step : Nat
  shift : Int

def Run.covers (r : Run) (c : Char) : Bool :=
  decide (r.first ≤ c.toNat) && decide (c.toNat ≤ r.last) && (c.toNat - r.first) % r.step == 0

abbrev RunTable := List Run

def RunTable.move (t : RunTable) (c : Char) : Char :=
  match t.find? (·.covers c) with
  | some r => Char.ofNat (c.toNat + r.shift).toNat
  | none => c

theorem RangeTable.member_iff {t : RangeTable} {c : Char} :
    t.member c = true ↔ ∃ r ∈ t, r.1 ≤ c.toNat ∧ c.toNat ≤ r.2 := by
  simp [RangeTable.member]

theorem RangeTable.member_eq_false {t : RangeTable} {c : Char} (h : ∀ r ∈ t, c.toNat < r.1 ∨ r.2 < c.toNat) :
    t.member c = false := by
  rw [Bool.eq_false_iff]
  intro hmember
  obtain ⟨r, hr, hlow, hhigh⟩ := member_iff.1 hmember
  rcases h r hr with h | h <;> omega

end ChainRisk.Text
