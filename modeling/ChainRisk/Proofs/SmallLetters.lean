import ChainRisk.Text.Case

namespace ChainRisk.Text

theorem toLower_of_not_capital {c : Char} (h : c.toNat < 65 ∨ 90 < c.toNat) : c.toLower = c := by
  refine dif_neg fun hc => ?_
  have hfrom : 65 ≤ c.toNat := hc.1
  have hto : c.toNat ≤ 90 := hc.2
  omega

theorem forall_of_lt {p : Char → Prop} (h : ∀ k < 128, p (Char.ofNat k)) {c : Char}
    (hc : c.toNat < 128) : p c := by
  have hk := h c.toNat hc
  rwa [Char.ofNat_toNat] at hk

theorem toLower_toLower_of_lt {c : Char} (h : c.toNat < 128) : c.toLower.toLower = c.toLower :=
  forall_of_lt (p := fun c => c.toLower.toLower = c.toLower) (by decide) h

theorem toLower_ofNat {n : Nat} (h : 90 < n) : (Char.ofNat n).toLower = Char.ofNat n := by
  refine toLower_of_not_capital ?_
  by_cases hv : n.isValidChar
  · have hn : (Char.ofNat n).toNat = n := by rw [Char.ofNat, dif_pos hv]; rfl
    omega
  · exact .inl (by simp [Char.ofNat, hv])

theorem toLower_move {c : Char} (h : 128 ≤ c.toNat) : (lowerRuns.move c).toLower = lowerRuns.move c := by
  have hruns : ∀ r ∈ lowerRuns, 128 ≤ r.last → 90 < (r.first : Int) + r.shift := by
    decide +kernel
  unfold RunTable.move
  cases hr : lowerRuns.find? (·.covers c) with
  | none => exact toLower_of_not_capital (.inr (Nat.lt_of_lt_of_le (by decide) h))
  | some r =>
    have hc := List.find?_some hr
    simp only [Run.covers, Bool.and_eq_true, decide_eq_true_eq] at hc
    have hs := hruns r (List.mem_of_find?_eq_some hr) (by omega)
    exact toLower_ofNat (by omega)

theorem lowerChar_of_lt {c : Char} (h : c.toNat < 128) : lowerChar c = [c.toLower] := if_pos h

theorem lowerChar_of_le {c : Char} (h : 128 ≤ c.toNat) : lowerChar c =
    match lowerSpelled.lookup c.toNat with
    | some ns => ns.map Char.ofNat
    | none => [lowerRuns.move c] := if_neg (Nat.not_lt.2 h)

theorem lookup_lowerSpelled {n : Nat} {ns : List Nat} (h : lowerSpelled.lookup n = some ns) :
    ns = [105, 775] := by
  rw [lowerSpelled, List.lookup_cons] at h
  split at h
  · exact (Option.some.inj h).symm
  · cases h

theorem lowerChar_ne_nil (c : Char) : lowerChar c ≠ [] := by
  rcases Nat.lt_or_ge c.toNat 128 with h | h
  · rw [lowerChar_of_lt h]
    exact List.cons_ne_nil _ _
  · rw [lowerChar_of_le h]
    split
    · next ns hns => rw [lookup_lowerSpelled hns]; exact List.cons_ne_nil _ _
    · exact List.cons_ne_nil _ _

theorem toLower_of_mem_lowerChar {c x : Char} (hx : x ∈ lowerChar c) : x.toLower = x := by
  rcases Nat.lt_or_ge c.toNat 128 with h | h
  · rw [lowerChar_of_lt h, List.mem_singleton] at hx
    rw [hx, toLower_toLower_of_lt h]
  · rw [lowerChar_of_le h] at hx
    split at hx
    · next ns hns =>
      rw [lookup_lowerSpelled hns] at hx
      simp only [List.map_cons, List.map_nil, List.mem_cons, List.not_mem_nil, or_false] at hx
      rcases hx with rfl | rfl <;> decide
    · rw [List.mem_singleton] at hx
      rw [hx, toLower_move h]

theorem toLower_of_mem_lowerFrom {before cs : List Char} {x : Char} (hx : x ∈ lowerFrom before cs) :
    x.toLower = x := by
  induction cs generalizing before with
  | nil => cases hx
  | cons c cs ih =>
    rw [lowerFrom, List.mem_append] at hx
    rcases hx with hx | hx
    · split at hx
      · rw [List.mem_singleton] at hx
        subst hx
        split <;> decide
      · exact toLower_of_mem_lowerChar hx
    · exact ih hx

theorem toLower_of_mem_lower {s : String} {x : Char} (hx : x ∈ (lower s).toList) : x.toLower = x := by
  rw [lower, String.toList_ofList] at hx
  exact toLower_of_mem_lowerFrom hx

theorem lowerFrom_of_ascii {cs : List Char} (h : ∀ c ∈ cs, c.toNat < 128) (before : List Char) :
    lowerFrom before cs = cs.map Char.toLower := by
  induction cs generalizing before with
  | nil => rfl
  | cons c cs ih =>
    have hc := h c (by simp)
    have hsigma : c ≠ 'Σ' := by
      rintro rfl
      exact absurd hc (by decide)
    rw [lowerFrom, if_neg hsigma, lowerChar_of_lt hc, ih (fun x hx => h x (by simp [hx]))]
    rfl

theorem lower_eq_empty_iff {s : String} : lower s = "" ↔ s = "" := by
  rw [lower, String.ofList_eq_empty_iff]
  constructor
  · intro h
    cases hs : s.toList with
    | nil => exact String.toList_eq_nil_iff.1 hs
    | cons c cs =>
      rw [hs, lowerFrom, List.append_eq_nil_iff] at h
      exfalso
      revert h
      split
      · simp
      · exact fun h => lowerChar_ne_nil c h.1
  · rintro rfl
    rfl

end ChainRisk.Text
