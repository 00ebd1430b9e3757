import ChainRisk.Address.Search
import ChainRisk.Proofs.AddressText
import Mathlib.Data.Nat.Find

namespace ChainRisk

namespace Address

variable {cs ds rest : List Char} {i j k : Nat}

def Shaped (cs : List Char) : Prop := ∃ ds, cs = '0' :: 'x' :: ds ∧ ds.length = 40 ∧ ∀ c ∈ ds, Hex.IsDigit c

def BeginsAt (cs : List Char) (i : Nat) : Prop := Shaped ((cs.drop i).take 42)

def BeginsFirstAt (cs : List Char) (i : Nat) : Prop := BeginsAt cs i ∧ ∀ j < i, ¬ BeginsAt cs j

theorem Shaped.length_eq (h : Shaped cs) : cs.length = 42 := by
  obtain ⟨ds, rfl, hlength, -⟩ := h
  simp [hlength]

theorem BeginsAt.add_le_length (h : BeginsAt cs i) : i + 42 ≤ cs.length := by
  have hlength := Shaped.length_eq h
  rw [List.length_take, List.length_drop] at hlength
  omega

theorem leads_iff : leads cs = true ↔ Shaped (cs.take 42) := by
  unfold leads
  split
  · next r =>
    simp only [Shaped, Bool.and_eq_true, beq_iff_eq, List.all_eq_true, Hex.isDigit_iff, List.take_succ_cons,
      List.cons.injEq, true_and]
    constructor
    · rintro ⟨hlength, hdigits⟩
      exact ⟨_, rfl, hlength, hdigits⟩
    · rintro ⟨ds, rfl, h⟩
      exact h
  · next hmark =>
    refine iff_of_false Bool.false_ne_true ?_
    rintro ⟨ds, h, -⟩
    rcases cs with _ | ⟨c, _ | ⟨d, r⟩⟩
    · cases h
    · cases h
    · rw [List.take_succ_cons, List.take_succ_cons, List.cons.injEq, List.cons.injEq] at h
      exact hmark r (by rw [h.1, h.2.1])

theorem beginsAt_iff : BeginsAt cs i ↔ leads (cs.drop i) = true := leads_iff.symm

theorem beginsAt_zero : BeginsAt cs 0 ↔ leads cs = true := beginsAt_iff

theorem not_beginsAt_nil : ¬ BeginsAt [] i := fun h => Nat.not_succ_le_zero _ h.add_le_length

theorem search?_eq_none_iff : search? cs = none ↔ ∀ i, ¬ BeginsAt cs i := by
  induction cs with
  | nil => exact iff_of_true rfl fun i => not_beginsAt_nil
  | cons c r ih =>
    rw [search?]
    split
    · next h => exact iff_of_false (by simp) fun hnone => hnone 0 (beginsAt_zero.2 h)
    · next h =>
      rw [ih]
      constructor
      · intro hnone i
        cases i with
        | zero => exact fun hzero => h (beginsAt_zero.1 hzero)
        | succ i => exact hnone i
      · exact fun hnone i => hnone (i + 1)

theorem search?_of_beginsFirstAt (h : BeginsFirstAt cs i) : search? cs = some ((cs.drop i).take 42) := by
  induction cs generalizing i with
  | nil => exact absurd h.1 not_beginsAt_nil
  | cons c r ih =>
    obtain ⟨hbegins, hfirst⟩ := h
    rw [search?]
    cases i with
    | zero => rw [if_pos (beginsAt_zero.1 hbegins), List.drop_zero]
    | succ i =>
      have hzero : ¬ leads (c :: r) = true := fun h => hfirst 0 (Nat.succ_pos i) (beginsAt_zero.2 h)
      have hrest : BeginsFirstAt r i :=
        ⟨hbegins, fun j hj => hfirst (j + 1) (Nat.succ_lt_succ hj)⟩
      rw [if_neg hzero, ih hrest, List.drop_succ_cons]

theorem exists_beginsFirstAt (h : ∃ i, BeginsAt cs i) : ∃ i, BeginsFirstAt cs i := by
  classical
  exact ⟨Nat.find h, Nat.find_spec h, fun j hj => Nat.find_min h hj⟩

theorem search?_eq_some_iff {found : List Char} :
    search? cs = some found ↔ ∃ i, BeginsFirstAt cs i ∧ found = (cs.drop i).take 42 := by
  constructor
  · intro h
    have hsome : ∃ i, BeginsAt cs i := by
      by_contra hnone
      rw [not_exists, ← search?_eq_none_iff, h] at hnone
      cases hnone
    obtain ⟨i, hi⟩ := exists_beginsFirstAt hsome
    rw [search?_of_beginsFirstAt hi] at h
    exact ⟨i, hi, (Option.some.inj h).symm⟩
  · rintro ⟨i, hi, rfl⟩
    exact search?_of_beginsFirstAt hi

theorem take_drop_of_le (hjk : j + 42 ≤ k) (hk : k ≤ cs.length) :
    ((cs.take k ++ rest).drop j).take 42 = (cs.drop j).take 42 := by
  have hlength : (cs.take k).length = k := List.length_take_of_le hk
  rw [List.drop_append_of_le_length (by omega), List.take_append_of_le_length (by rw [List.length_drop]; omega),
    List.drop_take, List.take_take, Nat.min_eq_left (by omega)]

theorem BeginsFirstAt.cut (h : BeginsFirstAt cs i) (rest : List Char) :
    BeginsFirstAt (cs.take (i + 42) ++ rest) i := by
  have hle := h.1.add_le_length
  have hsame (j : Nat) (hj : j ≤ i) : BeginsAt (cs.take (i + 42) ++ rest) j ↔ BeginsAt cs j := by
    rw [BeginsAt, BeginsAt, take_drop_of_le (Nat.add_le_add_right hj 42) hle]
  exact ⟨(hsame i le_rfl).2 h.1, fun j hj hbegins => h.2 j hj ((hsame j (Nat.le_of_lt hj)).1 hbegins)⟩

theorem search?_cut (h : BeginsFirstAt cs i) (rest : List Char) :
    search? (cs.take (i + 42) ++ rest) = search? cs := by
  rw [search?_of_beginsFirstAt (h.cut rest), search?_of_beginsFirstAt h,
    take_drop_of_le le_rfl h.1.add_le_length]

theorem search?_append {found : List Char} (h : search? cs = some found) (rest : List Char) :
    search? (cs ++ rest) = some found := by
  obtain ⟨i, hi, -⟩ := search?_eq_some_iff.1 h
  rw [← h, ← search?_cut hi (cs.drop (i + 42) ++ rest), ← List.append_assoc, List.take_append_drop]

theorem search?_of_shaped (h : Shaped cs) : search? cs = some cs := by
  have hlength := h.length_eq
  have hbegins : BeginsFirstAt cs 0 := by
    refine ⟨?_, fun j hj => absurd hj (Nat.not_lt_zero j)⟩
    rwa [BeginsAt, List.drop_zero, List.take_of_length_le (Nat.le_of_eq hlength)]
  rw [search?_of_beginsFirstAt hbegins, List.drop_zero, List.take_of_length_le (Nat.le_of_eq hlength)]

theorem search?_append_left {before : List Char} (h : ∀ i < before.length, ¬ BeginsAt (before ++ cs) i) :
    search? (before ++ cs) = search? cs := by
  induction before with
  | nil => rfl
  | cons c before ih =>
    have hzero : ¬ leads (c :: (before ++ cs)) = true := fun hc => h 0 (Nat.succ_pos _) (beginsAt_zero.2 hc)
    rw [List.cons_append, search?, if_neg hzero]
    exact ih fun i hi => h (i + 1) (Nat.succ_lt_succ hi)

theorem find?_eq_some_iff {s found : String} :
    find? (some s) = some found ↔ search? s.toList = some found.toList := by
  rw [find?, Option.bind_some, Option.map_eq_some_iff]
  constructor
  · rintro ⟨cs, hcs, rfl⟩
    rwa [String.toList_ofList]
  · exact fun h => ⟨_, h, String.ofList_toList⟩

theorem find?_congr {s t : String} (h : search? s.toList = search? t.toList) :
    find? (some s) = find? (some t) := by
  rw [find?, find?, Option.bind_some, Option.bind_some, h]

theorem find?_leftmost :
    (∀ s found : String, find? (some s) = some found ↔
      ∃ i, BeginsFirstAt s.toList i ∧ found.toList = (s.toList.drop i).take 42) ∧
    (∀ s : String, find? (some s) = none ↔ ∀ i, ¬ BeginsAt s.toList i) ∧
    (∀ s : String, isMentioned (some s) = false ↔ ∀ i, ¬ BeginsAt s.toList i) ∧
    (∀ text found, find? text = some found → find? (some found) = some found) ∧
    (∀ s found rest : String, find? (some s) = some found → find? (some (s ++ rest)) = some found) ∧
    (∀ (s : String) (i : Nat) (rest : String), BeginsFirstAt s.toList i →
      find? (some (String.ofList (s.toList.take (i + 42)) ++ rest)) = find? (some s)) ∧
    ∀ before s : String, (∀ i < before.length, ¬ BeginsAt (before ++ s).toList i) →
      find? (some (before ++ s)) = find? (some s) := by
  have hnone (s : String) : find? (some s) = none ↔ ∀ i, ¬ BeginsAt s.toList i := by
    rw [find?, Option.bind_some, Option.map_eq_none_iff, search?_eq_none_iff]
  refine ⟨fun s found => ?_, hnone, fun s => ?_, fun text found h => ?_, fun s found rest h => ?_,
    fun s i rest h => ?_, fun before s h => ?_⟩
  · rw [find?_eq_some_iff, search?_eq_some_iff]
  · rw [isMentioned, Option.isSome_eq_false_iff, Option.isNone_iff_eq_none, hnone]
  · cases text with
    | none => cases h
    | some s =>
      obtain ⟨i, hi, hfound⟩ := search?_eq_some_iff.1 (find?_eq_some_iff.1 h)
      have hshaped : Shaped found.toList := hfound ▸ hi.1
      exact find?_eq_some_iff.2 (search?_of_shaped hshaped)
  · rw [find?_eq_some_iff, String.toList_append]
    exact search?_append (find?_eq_some_iff.1 h) rest.toList
  · refine find?_congr ?_
    rw [String.toList_append, String.toList_ofList, search?_cut h]
  · refine find?_congr ?_
    rw [String.toList_append] at h ⊢
    exact search?_append_left h

def brokenText : String := "0x" ++ zeroText

theorem find?_leftmost_brokenText :
    find? (some brokenText) = some zeroText ∧ find? (some zeroText) = some zeroText ∧
    find? (some (brokenText ++ "0x")) = some zeroText ∧
    ∃ i, BeginsFirstAt brokenText.toList i ∧
      find? (some (String.ofList (brokenText.toList.take (i + 42)) ++ "0x")) = find? (some brokenText) := by
  obtain ⟨hsome, -, -, hagain, hafter, hcut, hbefore⟩ := find?_leftmost
  have hzero : find? (some zeroText) = some zeroText := by decide +kernel
  have hmark : ∀ i < "0x".length, ¬ BeginsAt brokenText.toList i := by
    simp only [beginsAt_iff]
    decide +kernel
  have hbroken : find? (some brokenText) = some zeroText := (hbefore "0x" zeroText hmark).trans hzero
  obtain ⟨i, hi, -⟩ := (hsome _ _).1 hbroken
  exact ⟨hbroken, hagain _ _ hbroken, hafter _ _ "0x" hbroken, i, hi, hcut _ _ "0x" hi⟩

end Address

end ChainRisk
