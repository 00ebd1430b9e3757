namespace ChainRisk.Text

def occursIn {α : Type} [BEq α] (p : List α) : List α → Bool
  | [] => p.isEmpty
  | x :: xs => p.isPrefixOf (x :: xs) || occursIn p xs

def contains (needle text : String) : Bool := occursIn needle.toList text.toList

theorem occursIn_iff {α : Type} [BEq α] [LawfulBEq α] {p xs : List α} :
    occursIn p xs = true ↔ p <:+: xs := by
  induction xs with
  | nil => simp [occursIn]
  | cons x xs ih =>
    simp only [occursIn, Bool.or_eq_true, List.isPrefixOf_iff_prefix, ih, List.infix_cons_iff]

end ChainRisk.Text
