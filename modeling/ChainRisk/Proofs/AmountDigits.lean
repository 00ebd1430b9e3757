import Mathlib.Algebra.Field.Rat
import Mathlib.Tactic.FieldSimp
import Mathlib.Tactic.Ring
import ChainRisk.Amount
import ChainRisk.Proofs.AmountText

namespace ChainRisk.Amount

open Numeral (Digits)

def pointValue (cs : List Char) : ℚ :=
  let whole := cs.takeWhile (· != '.')
  let fraction := (cs.dropWhile (· != '.')).drop 1
  Nat.ofDigitChars 10 whole 0 + Nat.ofDigitChars 10 fraction 0 / 10 ^ fraction.length

structure IsNumeral (n : Nat) (cs : List Char) : Prop where
  nonempty : cs ≠ []
  digits : Digits cs
  value : Nat.ofDigitChars 10 cs 0 = n
  front : cs.head? = some '0' → cs = ['0']

structure IsFraction (places : Nat) (cs : List Char) : Prop where
  nonempty : cs ≠ []
  digits : Digits cs
  length_le : cs.length ≤ max 1 places
  back : cs.getLast? = some '0' → cs = ['0']

/-- The text of `n` units, of which a whole token has `10 ^ places`. -/
def Renders (n places : Nat) (text : String) : Prop :=
  (∃ whole fraction, text = String.ofList (whole ++ '.' :: fraction) ∧ IsNumeral (n / 10 ^ places) whole ∧
    IsFraction places fraction) ∧
  pointValue text.toList * 10 ^ places = n

variable {n places zeros : Nat} {cs whole fraction : List Char}

theorem ofDigitChars_lt (h : Digits cs) : Nat.ofDigitChars 10 cs 0 < 10 ^ cs.length := by
  induction cs with
  | nil => decide
  | cons c cs ih =>
    have hc : c.toNat - '0'.toNat ≤ 9 := forall_of_isDigit (p := fun c => c.toNat - '0'.toNat ≤ 9) (by decide)
      (h c List.mem_cons_self)
    have hcs := ih fun c hc => h c (List.mem_cons_of_mem _ hc)
    have hhead := Nat.mul_le_mul_left (10 ^ cs.length) hc
    rw [Nat.ofDigitChars_cons, Nat.ofDigitChars_eq_ofDigitChars_zero, Nat.mul_zero, Nat.zero_add,
      List.length_cons, Nat.pow_succ]
    omega

theorem digits_digits (n : Nat) : Digits (digits n) := fun _ => Numeral.isDigit_of_mem_digits

theorem isNumeral_digits (n : Nat) : IsNumeral n (digits n) where
  nonempty := Nat.toDigits_ne_nil
  digits := digits_digits n
  value := Nat.ofDigitChars_ten_toDigits
  front h := by
    obtain ⟨r, hr⟩ := List.head?_eq_some_iff.1 h
    rw [hr]
    -- without the zero in front the number would have fewer digits
    by_cases hnil : r = []
    · rw [hnil]
    · have hdigits : Digits r := fun c hc => digits_digits n c (hr ▸ List.mem_cons_of_mem _ hc)
      have hvalue : Nat.ofDigitChars 10 r 0 = n := by
        have hn : Nat.ofDigitChars 10 (digits n) 0 = n := Nat.ofDigitChars_ten_toDigits
        rwa [hr, Nat.ofDigitChars_cons] at hn
      have hlt := ofDigitChars_lt hdigits
      rw [hvalue, ← Nat.length_toDigits_le_iff (by decide) (List.length_pos_iff.2 hnil)] at hlt
      have hlength : (digits n).length = r.length + 1 := by rw [hr, List.length_cons]
      have hshort : (digits n).length ≤ r.length := hlt
      omega

theorem exists_withoutZeros (cs : List Char) : ∃ k, cs = withoutZeros cs ++ List.replicate k '0' := by
  have hzeros : (cs.reverse.takeWhile (· == '0')).reverse =
      List.replicate (cs.reverse.takeWhile (· == '0')).length '0' := by
    rw [List.eq_replicate_iff]
    refine ⟨List.length_reverse, fun c hc => ?_⟩
    simpa using List.mem_takeWhile_imp (List.mem_reverse.1 hc)
  refine ⟨(cs.reverse.takeWhile (· == '0')).length, ?_⟩
  calc cs = (cs.reverse.takeWhile (· == '0') ++ cs.reverse.dropWhile (· == '0')).reverse := by
        rw [List.takeWhile_append_dropWhile, List.reverse_reverse]
    _ = withoutZeros cs ++ (cs.reverse.takeWhile (· == '0')).reverse := List.reverse_append
    _ = withoutZeros cs ++ List.replicate (cs.reverse.takeWhile (· == '0')).length '0' := by rw [← hzeros]

theorem getLast?_withoutZeros (cs : List Char) : (withoutZeros cs).getLast? ≠ some '0' := by
  rw [withoutZeros, List.getLast?_reverse]
  intro h
  have hhead := List.head?_dropWhile_not (· == '0') cs.reverse
  rw [h] at hhead
  cases hhead

theorem digits_withoutZeros (h : Digits cs) : Digits (withoutZeros cs) := by
  obtain ⟨k, hk⟩ := exists_withoutZeros cs
  intro c hc
  exact h c (hk ▸ List.mem_append_left _ hc)

theorem isFraction_fractionDigits (h : Digits cs) :
    IsFraction (zeros + cs.length) (fractionDigits zeros cs) := by
  obtain ⟨k, hk⟩ := exists_withoutZeros cs
  unfold fractionDigits
  simp only
  split
  · exact ⟨by simp, by simp [Digits], by simp, fun _ => rfl⟩
  · next hkept =>
    refine ⟨by simp [hkept], fun c hc => ?_, ?_, fun hlast => ?_⟩
    · rcases List.mem_append.1 hc with hc | hc
      · rw [List.eq_of_mem_replicate hc]
        decide
      · exact digits_withoutZeros h c hc
    · have hlength := congrArg List.length hk
      rw [List.length_append, List.length_replicate] at hlength
      rw [List.length_append, List.length_replicate]
      omega
    · rw [List.getLast?_append, Option.or_eq_some_iff] at hlast
      rcases hlast with hlast | ⟨hnone, -⟩
      · exact absurd hlast (getLast?_withoutZeros cs)
      · exact absurd (List.getLast?_eq_none_iff.1 hnone) hkept

theorem fractionDigits_value (zeros : Nat) (cs : List Char) :
    Nat.ofDigitChars 10 (fractionDigits zeros cs) 0 * 10 ^ (zeros + cs.length) =
      Nat.ofDigitChars 10 cs 0 * 10 ^ (fractionDigits zeros cs).length := by
  obtain ⟨k, hk⟩ := exists_withoutZeros cs
  have hvalue : Nat.ofDigitChars 10 cs 0 = 10 ^ k * Nat.ofDigitChars 10 (withoutZeros cs) 0 := by
    rw [← Nat.ofDigitChars_replicate_zero, ← Nat.ofDigitChars_append, ← hk]
  unfold fractionDigits
  simp only
  split
  · next hnone =>
    rw [hvalue, hnone]
    simp [Nat.ofDigitChars_cons]
  · have hlength : cs.length = (withoutZeros cs).length + k := by
      rw [← List.length_replicate (n := k) (a := '0'), ← List.length_append, ← hk]
    rw [Nat.ofDigitChars_append, Nat.ofDigitChars_replicate_zero, Nat.mul_zero, hvalue, hlength,
      List.length_append, List.length_replicate]
    ring

theorem exists_parts (n places : Nat) : ∃ whole zeros rest, zeros + rest.length = places ∧
    pointed n places = whole ++ '.' :: fractionDigits zeros rest ∧ Digits rest ∧
    IsNumeral (n / 10 ^ places) whole ∧
    Nat.ofDigitChars 10 whole 0 * 10 ^ places + Nat.ofDigitChars 10 rest 0 = n := by
  have hnumeral := isNumeral_digits n
  unfold pointed
  simp only
  split
  · next hle =>
    have hpos : 0 < places := Nat.lt_of_lt_of_le Nat.length_toDigits_pos hle
    have hlt : n < 10 ^ places := (Nat.length_toDigits_le_iff (by decide) hpos).1 hle
    refine ⟨['0'], places - (digits n).length, digits n, by omega, rfl, hnumeral.digits, ?_, ?_⟩
    · rw [Nat.div_eq_of_lt hlt]
      exact ⟨by decide, by simp [Digits], rfl, fun _ => rfl⟩
    · rw [hnumeral.value]
      exact (congrArg (· + n) (Nat.zero_mul _)).trans (Nat.zero_add n)
  · next hle =>
    have hsplit := List.take_append_drop ((digits n).length - places) (digits n)
    generalize hwhole : (digits n).take ((digits n).length - places) = whole at hsplit ⊢
    generalize hrest : (digits n).drop ((digits n).length - places) = rest at hsplit ⊢
    have hplaces : rest.length = places := by
      rw [← hrest, List.length_drop]
      omega
    have hdigits : Digits whole ∧ Digits rest :=
      ⟨fun c hc => hnumeral.digits c (hsplit ▸ List.mem_append_left _ hc),
        fun c hc => hnumeral.digits c (hsplit ▸ List.mem_append_right _ hc)⟩
    have hne : whole ≠ [] := by
      rw [← List.length_pos_iff, ← hwhole, List.length_take]
      omega
    have hvalue : Nat.ofDigitChars 10 whole 0 * 10 ^ places + Nat.ofDigitChars 10 rest 0 = n := by
      calc Nat.ofDigitChars 10 whole 0 * 10 ^ places + Nat.ofDigitChars 10 rest 0
          = Nat.ofDigitChars 10 rest (Nat.ofDigitChars 10 whole 0) := by
            rw [@Nat.ofDigitChars_eq_ofDigitChars_zero rest (Nat.ofDigitChars 10 whole 0), hplaces,
              Nat.mul_comm]
        _ = Nat.ofDigitChars 10 (whole ++ rest) 0 := (Nat.ofDigitChars_append 0).symm
        _ = n := by rw [hsplit, hnumeral.value]
    refine ⟨whole, 0, rest, by omega, rfl, hdigits.2, ⟨hne, hdigits.1, ?_, fun hfront => ?_⟩, hvalue⟩
    · have hlt := ofDigitChars_lt hdigits.2
      rw [hplaces] at hlt
      rw [← hvalue, Nat.add_comm, Nat.add_mul_div_right _ _ (Nat.pow_pos (by decide)), Nat.div_eq_of_lt hlt,
        Nat.zero_add]
    · obtain ⟨r, hr⟩ := List.head?_eq_some_iff.1 hfront
      have hone : digits n = ['0'] := hnumeral.front (by rw [← hsplit, hr]; rfl)
      rw [hr, hone] at hsplit
      rw [hr, (List.append_eq_nil_iff.1 (List.cons.inj hsplit).2).1]

theorem ne_point_of_isDigit {c : Char} (h : c.isDigit = true) : (c != '.') = true :=
  forall_of_isDigit (p := fun c => (c != '.') = true) (by decide) h

theorem pointValue_point (h : Digits whole) (fraction : List Char) : pointValue (whole ++ '.' :: fraction) =
    Nat.ofDigitChars 10 whole 0 + Nat.ofDigitChars 10 fraction 0 / 10 ^ fraction.length := by
  have hwhole : ∀ c ∈ whole, (c != '.') = true := fun c hc => ne_point_of_isDigit (h c hc)
  have htake : (whole ++ '.' :: fraction).takeWhile (· != '.') = whole := by
    rw [List.takeWhile_append_of_pos hwhole]
    simp
  have hdrop : (whole ++ '.' :: fraction).dropWhile (· != '.') = '.' :: fraction := by
    rw [List.dropWhile_append_of_pos hwhole]
    simp
  simp only [pointValue, htake, hdrop, List.drop_succ_cons, List.drop_zero]

theorem renders_pointed (n places : Nat) : Renders n places (String.ofList (pointed n places)) := by
  obtain ⟨whole, zeros, rest, hplaces, hpointed, hdigits, hnumeral, hvalue⟩ := exists_parts n places
  rw [hpointed]
  refine ⟨⟨whole, _, rfl, hnumeral, hplaces ▸ isFraction_fractionDigits hdigits⟩, ?_⟩
  have hfraction := congrArg (Nat.cast (R := ℚ)) (fractionDigits_value zeros rest)
  rw [hplaces] at hfraction
  push_cast at hfraction
  rw [String.toList_ofList, pointValue_point hnumeral.digits, add_mul, div_mul_eq_mul_div, hfraction,
    mul_div_cancel_right₀ _ (pow_ne_zero _ (by norm_num))]
  exact_mod_cast hvalue

theorem ne_unlimitedText_of_renders {text : String} (h : Renders n places text) : text ≠ unlimitedText := by
  obtain ⟨⟨whole, fraction, rfl, hnumeral, -⟩, -⟩ := h
  obtain ⟨c, r, rfl⟩ := List.exists_cons_of_ne_nil hnumeral.nonempty
  intro heq
  have hlist := congrArg String.toList heq
  rw [String.toList_ofList, show unlimitedText.toList = 'U' :: "nlimited".toList by decide +kernel] at hlist
  have hc := hnumeral.digits c List.mem_cons_self
  rw [(List.cons.inj hlist).1] at hc
  cases hc

theorem eq_of_renders {m : Nat} {text : String} (h : Renders n places text) (h' : Renders m places text) :
    n = m := by
  have heq : (n : ℚ) = m := h.2.symm.trans h'.2
  exact_mod_cast heq

theorem Fits.checkLength {room length : Nat} (h : Fits room length) : checkLength room length = .ok () := by
  rw [Amount.checkLength, if_neg (Nat.not_lt.2 h.1), if_neg (Nat.not_lt.2 h.2)]

def sentinels : List Int := [2 ^ 256 - 1, 2 ^ 128 - 1, 2 ^ 96 - 1, 2 ^ 64 - 1]

theorem isUnlimited_iff (n : Int) : isUnlimited n = true ↔ n ∈ sentinels := by
  simp [isUnlimited, unlimited, sentinels]

theorem nonneg_of_mem_sentinels {n : Int} (h : n ∈ sentinels) : 0 ≤ n := by
  have hall : ∀ m ∈ sentinels, (0 : Int) ≤ m := by decide
  exact hall n h

section

variable {room : Nat} {given : Json} {n : Int} (h : given.toInt = .ok n)

include h

theorem text_of_mem_sentinels (hn : n ∈ sentinels) (decimals : Json) :
    text room given decimals = .ok unlimitedText := by
  rw [text, h]
  change (if isUnlimited n then _ else _) = _
  rw [if_pos ((isUnlimited_iff n).2 hn)]
  rfl

theorem text_of_not_mem_sentinels (hn : n ∉ sentinels) (decimals : Json) :
    text room given decimals = units room given decimals := by
  rw [text, h]
  change (if isUnlimited n then _ else _) = _
  rw [if_neg (mt (isUnlimited_iff n).1 hn)]

theorem text_of_neg (hn : n < 0) (decimals : Json) :
    text room given decimals = .error (.negativeAmount given.shown) := by
  rw [text_of_not_mem_sentinels h (fun hmem => Int.not_lt.2 (nonneg_of_mem_sentinels hmem) hn), units, h]
  change (if n < 0 then _ else _) = _
  rw [if_pos hn]

theorem text_of_nonneg (hn : n ∉ sentinels) (hpos : 0 ≤ n) (places : Nat) : text room given (.int places) =
    (checkLength room (places + 1)).map fun _ => String.ofList (pointed n.toNat places) := by
  rw [text_of_not_mem_sentinels h hn, units, h]
  change (if n < 0 then _ else _) = _
  rw [if_neg (Int.not_lt.2 hpos)]
  change (checkLength room (places + 1)).bind _ = _
  cases checkLength room (places + 1) <;> rfl

theorem text_eq_ok {places : Nat} {t : String} (ht : text room given (.int places) = .ok t) :
    (n ∈ sentinels ∧ t = unlimitedText) ∨ (n ∉ sentinels ∧ 0 ≤ n ∧ Renders n.toNat places t) := by
  by_cases hn : n ∈ sentinels
  · rw [text_of_mem_sentinels h hn] at ht
    cases ht
    exact .inl ⟨hn, rfl⟩
  · by_cases hpos : 0 ≤ n
    · rw [text_of_nonneg h hn hpos] at ht
      cases hlength : checkLength room (places + 1) with
      | error e =>
        rw [hlength] at ht
        cases ht
      | ok u =>
        rw [hlength] at ht
        cases ht
        exact .inr ⟨hn, hpos, renders_pointed _ _⟩
    · rw [text_of_neg h (Int.not_le.1 hpos)] at ht
      cases ht

theorem text_exact (room places : Nat) :
    (n < 0 → text room given (.int places) = .error (.negativeAmount given.shown)) ∧
    (text room given (.int places) = .ok unlimitedText ↔ n ∈ sentinels) ∧
    (0 ≤ n → n ∉ sentinels →
      (Fits room (places + 1) → ∃ t, text room given (.int places) = .ok t ∧ Renders n.toNat places t) ∧
      (longestText < places + 1 → text room given (.int places) = .error (.mismatch .tooLarge))) ∧
    ∀ given' n' t, given'.toInt = .ok n' → text room given (.int places) = .ok t →
      text room given' (.int places) = .ok t → n = n' ∨ (n ∈ sentinels ∧ n' ∈ sentinels) := by
  refine ⟨fun hn => text_of_neg h hn _, ⟨fun ht => ?_, fun hn => text_of_mem_sentinels h hn _⟩,
    fun hpos hn => ⟨fun hfits => ?_, fun hlongest => ?_⟩, ?_⟩
  · rcases text_eq_ok h ht with ⟨hn, -⟩ | ⟨-, -, hrenders⟩
    · exact hn
    · exact absurd rfl (ne_unlimitedText_of_renders hrenders)
  · rw [text_of_nonneg h hn hpos, hfits.checkLength]
    exact ⟨_, rfl, renders_pointed _ _⟩
  · rw [text_of_nonneg h hn hpos, checkLength, if_pos hlongest]
    rfl
  · intro given' n' t h' ht ht'
    rcases text_eq_ok h ht with ⟨hn, rfl⟩ | ⟨-, hpos, hrenders⟩
    · rcases text_eq_ok h' ht' with ⟨hn', -⟩ | ⟨-, -, hrenders'⟩
      · exact .inr ⟨hn, hn'⟩
      · exact absurd rfl (ne_unlimitedText_of_renders hrenders')
    · rcases text_eq_ok h' ht' with ⟨-, rfl⟩ | ⟨-, hpos', hrenders'⟩
      · exact absurd rfl (ne_unlimitedText_of_renders hrenders)
      · have heq := eq_of_renders hrenders hrenders'
        exact .inl (by omega)

end

theorem text_exact_dust :
    (Json.str " 1_050 ").toInt = .ok 1050 ∧ (0 : Int) ≤ 1050 ∧ (1050 : Int) ∉ sentinels ∧ Fits 7 (6 + 1) ∧
    ∃ t, text 7 (.str " 1_050 ") (.int 6) = .ok t ∧ Renders 1050 6 t := by
  have hgiven : (Json.str " 1_050 ").toInt = .ok 1050 := rfl
  have hn : (1050 : Int) ∉ sentinels := by decide
  have hfits : Fits 7 (6 + 1) := ⟨by decide, by decide⟩
  exact ⟨hgiven, by decide, hn, hfits, ((text_exact hgiven 7 6).2.2.1 (by decide) hn).1 hfits⟩

/-- Zero is written with one digit behind the point, but for that a text of all places is made first. -/
theorem text_zero_of_endless_places :
    (0 : Int) ∉ sentinels ∧ ∀ room, ¬ ∃ t, text room (.int 0) (.int (2 ^ 63 : Nat)) = .ok t := by
  have hn : (0 : Int) ∉ sentinels := by decide
  refine ⟨hn, ?_⟩
  rintro room ⟨t, ht⟩
  rw [text_of_nonneg (n := 0) rfl hn (by decide), checkLength, if_pos (by decide)] at ht
  cases ht

end ChainRisk.Amount
