import Mathlib.Data.Char
import ChainRisk.Json.Reading
import ChainRisk.Json.Writing

namespace ChainRisk

namespace Hex

theorem value?_digitChar {n : Nat} (h : n < 16) : value? n.digitChar = some n := by
  revert n
  decide

theorem toDigits_step {n : Nat} (h : 16 ≤ n) :
    Nat.toDigits 16 n = Nat.toDigits 16 (n / 16) ++ [(n % 16).digitChar] :=
  Nat.toDigits_of_base_le (by decide) h

theorem padded_four {n : Nat} (h : n < 65536) : padded 4 n =
    [(n / 4096).digitChar, (n / 256 % 16).digitChar, (n / 16 % 16).digitChar, (n % 16).digitChar] := by
  have hzero : Nat.digitChar 0 = '0' := rfl
  unfold padded
  by_cases h1 : n < 16
  · rw [Nat.toDigits_of_lt_base h1, Nat.mod_eq_of_lt h1, Nat.div_eq_of_lt h1,
      Nat.div_eq_of_lt (by omega : n < 256), Nat.div_eq_of_lt (by omega : n < 4096)]
    rfl
  · rw [toDigits_step (Nat.le_of_not_lt h1)]
    by_cases h2 : n < 256
    · rw [Nat.toDigits_of_lt_base (by omega), Nat.div_eq_of_lt h2, Nat.div_eq_of_lt (by omega : n < 4096),
        Nat.mod_eq_of_lt (by omega : n / 16 < 16)]
      rfl
    · rw [toDigits_step (by omega), Nat.div_div_eq_div_mul]
      by_cases h3 : n < 4096
      · rw [Nat.toDigits_of_lt_base (by omega), Nat.div_eq_of_lt h3, Nat.mod_eq_of_lt (by omega : n / 256 < 16)]
        rfl
      · rw [toDigits_step (by omega), Nat.div_div_eq_div_mul, Nat.toDigits_of_lt_base (by omega)]
        rfl

end Hex

namespace Json

open Text

variable {c : Char} {pending : Option Nat} {acc : List Char}

theorem unit?_padded {n : Nat} (h : n < 65536) : unit? (n / 4096).digitChar (n / 256 % 16).digitChar
    (n / 16 % 16).digitChar (n % 16).digitChar = some n := by
  unfold unit?
  rw [Hex.value?_digitChar (by omega), Hex.value?_digitChar (by omega), Hex.value?_digitChar (by omega),
    Hex.value?_digitChar (by omega)]
  change some _ = some n
  congr 1
  omega

theorem readText_unit {n : Nat} (h : n < 65536) (pending : Option Nat) (acc r : List Char) :
    readText pending acc (unitEscape n ++ r) =
      readText (pushUnit pending acc n).1 (pushUnit pending acc n).2 r := by
  rw [unitEscape, Hex.padded_four h]
  simp only [List.cons_append, List.nil_append]
  rw [readText, unit?_padded h]

theorem readText_plain (hquote : c ≠ '"') (hslash : c ≠ '\\') (pending : Option Nat) (acc r : List Char) :
    readText pending acc (c :: r) = readText none (c :: flushed pending acc) r := by
  rw [readText]
  · exact hquote
  · rintro _ _ _ _ _ rfl
    exact absurd rfl hslash
  · rintro _ _ rfl
    exact absurd rfl hslash

theorem readText_escaped {x : Char} (hu : c ≠ 'u') (hc : plainEscape? c = some x) (pending : Option Nat)
    (acc r : List Char) :
    readText pending acc ('\\' :: c :: r) = readText none (x :: flushed pending acc) r := by
  rw [readText, hc]
  intro _ _ _ _ _ h
  exact absurd h hu

def takenUp (state : Option Nat × List Char) (c : Char) : Option Nat × List Char :=
  match loneUnit? c with
  | some unit => pushUnit state.1 state.2 unit
  | none => (none, c :: flushed state.1 state.2)

theorem loneUnit?_of_lt (h : c.toNat < 0xd800 + standInDistance) : loneUnit? c = none :=
  if_neg fun hlone => Nat.not_lt.2 hlone.1 h

theorem lt_of_loneUnit? {unit : Nat} (h : loneUnit? c = some unit) : unit < 65536 := by
  rw [loneUnit?, Option.ite_none_right_eq_some] at h
  obtain ⟨⟨-, hhigh⟩, hunit⟩ := h
  have hvalue : c.toNat - standInDistance = unit := Option.some.inj hunit
  omega

theorem takenUp_of_lt (h : c.toNat < 65536) (state : Option Nat × List Char) :
    takenUp state c = (none, c :: flushed state.1 state.2) := by
  rw [takenUp, loneUnit?_of_lt (Nat.lt_trans h (by decide))]

theorem isLeadUnit_iff (n : Nat) : isLeadUnit n = true ↔ 0xd800 ≤ n ∧ n < 0xdc00 := by
  simp [isLeadUnit]

theorem isTrailUnit_iff (n : Nat) : isTrailUnit n = true ↔ 0xdc00 ≤ n ∧ n < 0xe000 := by
  simp [isTrailUnit]

theorem pushUnit_toNat (c : Char) (pending : Option Nat) (acc : List Char) :
    pushUnit pending acc c.toNat = (none, c :: flushed pending acc) := by
  have hvalid : c.toNat < 0xd800 ∨ (0xdfff < c.toNat ∧ c.toNat < 0x110000) := c.valid
  have hlead : ¬ isLeadUnit c.toNat = true := by rw [isLeadUnit_iff]; omega
  have htrail : ¬ isTrailUnit c.toNat = true := by rw [isTrailUnit_iff]; omega
  unfold pushUnit
  rw [if_neg hlead, if_neg htrail, Char.ofNat_toNat]

theorem toNat_lt (c : Char) : c.toNat < 0x110000 := by
  have hvalid : c.toNat < 0xd800 ∨ (0xdfff < c.toNat ∧ c.toNat < 0x110000) := c.valid
  omega

theorem paired_units (h : 65536 ≤ c.toNat) : paired (leadUnit c) (trailUnit c) = c := by
  have hvalue : 65536 + 1024 * (leadUnit c - 0xd800) + (trailUnit c - 0xdc00) = c.toNat := by
    unfold leadUnit trailUnit
    omega
  rw [paired, hvalue, Char.ofNat_toNat]

theorem pushUnit_leadUnit (c : Char) (pending : Option Nat) (acc : List Char) :
    pushUnit pending acc (leadUnit c) = (some (leadUnit c), flushed pending acc) := by
  have hlt := toNat_lt c
  have hlead : isLeadUnit (leadUnit c) = true := by rw [isLeadUnit_iff, leadUnit]; omega
  unfold pushUnit
  rw [if_pos hlead]

theorem pushUnit_trailUnit (c : Char) (lead : Nat) (acc : List Char) :
    pushUnit (some lead) acc (trailUnit c) = (none, paired lead (trailUnit c) :: acc) := by
  have hlead : ¬ isLeadUnit (trailUnit c) = true := by rw [isLeadUnit_iff, trailUnit]; omega
  have htrail : isTrailUnit (trailUnit c) = true := by rw [isTrailUnit_iff, trailUnit]; omega
  unfold pushUnit
  rw [if_neg hlead, if_pos htrail]

def shortlyEscaped : List Char := ['"', '\\', '\n', '\r', '\t', '\x08', '\x0c']

theorem readText_writtenChar_of_short (hc : c ∈ shortlyEscaped) (pending : Option Nat) (acc r : List Char) :
    readText pending acc (writtenChar c ++ r) =
      readText (takenUp (pending, acc) c).1 (takenUp (pending, acc) c).2 r := by
  simp only [shortlyEscaped, List.mem_cons, List.not_mem_nil, or_false] at hc
  rcases hc with rfl | rfl | rfl | rfl | rfl | rfl | rfl
  all_goals
    rw [takenUp_of_lt (by decide)]
    exact readText_escaped (by decide) rfl pending acc r

theorem readText_writtenChar (c : Char) (pending : Option Nat) (acc r : List Char) :
    readText pending acc (writtenChar c ++ r) =
      readText (takenUp (pending, acc) c).1 (takenUp (pending, acc) c).2 r := by
  by_cases hshort : c ∈ shortlyEscaped
  · exact readText_writtenChar_of_short hshort pending acc r
  · simp only [shortlyEscaped, List.mem_cons, List.not_mem_nil, or_false, not_or] at hshort
    obtain ⟨hquote, hslash, hn, hr, ht, hb, hf⟩ := hshort
    rw [writtenChar, if_neg (by simp [hquote, hslash]), if_neg hn, if_neg hr, if_neg ht, if_neg hb, if_neg hf]
    by_cases hplain : 32 ≤ c.toNat ∧ c.toNat < 127
    · rw [if_pos hplain, takenUp_of_lt (by omega)]
      exact readText_plain hquote hslash pending acc r
    · rw [if_neg hplain]
      by_cases hlow : c.toNat < 65536
      · rw [if_pos hlow, readText_unit hlow, pushUnit_toNat, takenUp_of_lt hlow]
      · rw [if_neg hlow]
        cases hlone : loneUnit? c with
        | some unit =>
          rw [takenUp, hlone]
          exact readText_unit (lt_of_loneUnit? hlone) pending acc r
        | none =>
          have hlt := toNat_lt c
          have hlead : leadUnit c < 65536 := by unfold leadUnit; omega
          have htrail : trailUnit c < 65536 := by unfold trailUnit; omega
          rw [takenUp, hlone]
          simp only [List.append_assoc]
          rw [readText_unit hlead, pushUnit_leadUnit, readText_unit htrail, pushUnit_trailUnit,
            paired_units (Nat.le_of_not_lt hlow)]

def rejoined (s : String) : String :=
  let state := s.toList.foldl takenUp (none, [])
  String.ofList (flushed state.1 state.2).reverse

theorem readText_flatMap (cs : List Char) (pending : Option Nat) (acc r : List Char) :
    readText pending acc (cs.flatMap writtenChar ++ '"' :: r) =
      some (String.ofList (flushed (cs.foldl takenUp (pending, acc)).1
        (cs.foldl takenUp (pending, acc)).2).reverse, r) := by
  induction cs generalizing pending acc with
  | nil => rfl
  | cons c cs ih =>
    rw [List.flatMap_cons, List.append_assoc, readText_writtenChar, ih, List.foldl_cons]

theorem readText_written (s : String) (r : List Char) :
    readText none [] (s.toList.flatMap writtenChar ++ '"' :: r) = some (rejoined s, r) :=
  readText_flatMap s.toList none [] r

/-- No character of the text stands for half of a pair. -/
def Whole (s : String) : Prop := ∀ c ∈ s.toList, loneUnit? c = none

theorem rejoined_of_whole {s : String} (h : Whole s) : rejoined s = s := by
  have hfold : ∀ (cs acc : List Char), (∀ c ∈ cs, loneUnit? c = none) →
      cs.foldl takenUp (none, acc) = (none, cs.reverse ++ acc) := by
    intro cs
    induction cs with
    | nil => exact fun acc _ => rfl
    | cons c cs ih =>
      intro acc hcs
      have hc : takenUp (none, acc) c = (none, c :: acc) := by
        rw [takenUp, hcs c List.mem_cons_self]
        rfl
      rw [List.foldl_cons, hc, ih _ fun c hc => hcs c (List.mem_cons_of_mem _ hc), List.reverse_cons,
        List.append_assoc]
      rfl
  unfold rejoined
  simp only
  rw [hfold _ _ h]
  simp only [flushed, List.append_nil, List.reverse_reverse, String.ofList_toList]

end Json

end ChainRisk
