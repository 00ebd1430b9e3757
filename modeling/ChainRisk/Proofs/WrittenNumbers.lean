import ChainRisk.Json.Reading
import ChainRisk.Json.Writing
import ChainRisk.Proofs.AmountText

namespace ChainRisk

namespace Numeral

inductive IsPoint : List Char → Prop
  | none : IsPoint []
  | some {ds : List Char} (h : Digits ds) : IsPoint ('.' :: ds)

inductive IsExponent : List Char → Prop
  | none : IsExponent []
  | some {s : Char} {ds : List Char} (hs : s = '-' ∨ s = '+') (hne : ds ≠ []) (h : Digits ds) :
    IsExponent ('e' :: s :: ds)

inductive IsDecimal : List Char → Prop
  | mk {whole point tail : List Char} (hne : whole ≠ []) (hwhole : Digits whole) (hpoint : IsPoint point)
    (htail : IsExponent tail) : IsDecimal (whole ++ (point ++ tail))

def signOf (negative : Bool) : List Char := if negative then ['-'] else []

variable {c : Char} {cs ds rest : List Char}

theorem isAsciiDigit_of_isDigit (h : c.isDigit = true) : isAsciiDigit c = true :=
  forall_of_isDigit (p := fun c => isAsciiDigit c = true) (by decide) h

theorem all_isAsciiDigit (h : Digits ds) : ds.all isAsciiDigit = true :=
  List.all_eq_true.2 fun c hc => isAsciiDigit_of_isDigit (h c hc)

theorem digits_toDigits (n : Nat) : Digits (Nat.toDigits 10 n) := fun _ => isDigit_of_mem_digits

theorem digits_replicate (n : Nat) : Digits (List.replicate n '0') := by
  intro c hc
  rw [List.eq_of_mem_replicate hc]
  rfl

theorem digits_append (h : Digits cs) (h' : Digits ds) : Digits (cs ++ ds) :=
  fun c hc => (List.mem_append.1 hc).elim (h c) (h' c)

theorem span_append {p : Char → Bool} (h : ∀ c ∈ cs, p c = true) (hrest : ∀ c ∈ rest.head?, p c = false) :
    (cs ++ rest).takeWhile p = cs ∧ (cs ++ rest).dropWhile p = rest := by
  rw [List.takeWhile_append_of_pos h, List.dropWhile_append_of_pos h]
  cases rest with
  | nil => simp
  | cons c r =>
    have hc : p c = false := hrest c rfl
    simp [hc]

theorem span_digits (h : Digits ds) (hrest : ∀ c ∈ rest.head?, isAsciiDigit c = false) :
    (ds ++ rest).takeWhile isAsciiDigit = ds ∧ (ds ++ rest).dropWhile isAsciiDigit = rest :=
  span_append (fun c hc => isAsciiDigit_of_isDigit (h c hc)) hrest

theorem exists_exponent (h : IsExponent cs) : ∃ e, exponent? cs = some e := by
  cases h with
  | none => exact ⟨0, rfl⟩
  | some hs hne hds =>
    unfold exponent?
    rcases hs with rfl | rfl
    · simp only [sign, true_or, if_true]
      rw [if_pos ⟨hne, all_isAsciiDigit hds⟩]
      exact ⟨_, rfl⟩
    · simp only [sign, true_or, if_true]
      rw [if_pos ⟨hne, all_isAsciiDigit hds⟩]
      exact ⟨_, rfl⟩

theorem IsExponent.head (h : IsExponent cs) : ∀ c ∈ cs.head?, isAsciiDigit c = false := by
  cases h with
  | none => nofun
  | some hs hne hds =>
    rintro c ⟨⟩
    rfl

theorem exists_magnitude (negative : Bool) (h : IsDecimal cs) : ∃ x, magnitude? negative cs = some x := by
  obtain ⟨hne, hwhole, hpoint, htail⟩ := h
  rename_i whole point tail
  obtain ⟨e, he⟩ := exists_exponent htail
  cases hpoint with
  | none =>
    obtain ⟨htake, hdrop⟩ := span_digits hwhole htail.head
    unfold magnitude?
    simp only [List.nil_append, htake, hdrop]
    -- what follows the digits does not start with a point
    cases htail with
    | none => simp only [hne, false_and, if_false, he, Option.map_some, Option.some.injEq, exists_eq']
    | some =>
      simp only [hne, false_and, if_false]
      exact ⟨_, congrArg (Option.map _) he⟩
  | some hds =>
    rename_i fraction
    obtain ⟨htake, hdrop⟩ := @span_digits whole ('.' :: (fraction ++ tail)) hwhole (by rintro c ⟨⟩; rfl)
    obtain ⟨htake', hdrop'⟩ := span_digits hds htail.head
    unfold magnitude?
    simp only [List.cons_append, htake, hdrop, htake', hdrop', hne, false_and, if_false, he, Option.map_some,
      Option.some.injEq, exists_eq']

theorem IsDecimal.start (h : IsDecimal cs) : ∃ c r, cs = c :: r ∧ c.isDigit = true := by
  obtain ⟨hne, hwhole, -, -⟩ := h
  obtain ⟨c, r, rfl⟩ := List.exists_cons_of_ne_nil hne
  exact ⟨c, _, rfl, hwhole c List.mem_cons_self⟩

theorem IsDecimal.sign_eq (h : IsDecimal cs) : sign cs = (false, cs) := by
  obtain ⟨c, r, rfl, hc⟩ := h.start
  exact sign_of_isDigit hc

theorem sign_signed (s : Bool) (h : IsDecimal cs) : sign (signOf s ++ cs) = (s, cs) := by
  cases s with
  | false => exact h.sign_eq
  | true => rfl

theorem isDecimal_digits (n : Nat) : IsDecimal (Nat.toDigits 10 n) := by
  rw [← List.append_nil (Nat.toDigits 10 n)]
  exact @IsDecimal.mk _ [] [] Nat.toDigits_ne_nil (digits_toDigits n) .none .none

theorem toList_ofInt (n : Int) :
    (ofInt n).toList = signOf (decide (n < 0)) ++ Nat.toDigits 10 n.natAbs := by
  by_cases h : n < 0
  · simp [ofInt, ofNat, signOf, h]
  · simp [ofInt, ofNat, signOf, h]

end Numeral

namespace Binary64

open Numeral

variable {ds : List Char}

theorem isDecimal_zero : IsDecimal ['0', '.', '0'] :=
  @IsDecimal.mk ['0'] ['.', '0'] [] (by simp) (by simp [Digits]) (.some (by simp [Digits])) .none

theorem isDecimal_pointed (hne : ds ≠ []) (h : Digits ds) (places : Int) : IsDecimal (pointed ds places) := by
  unfold pointed
  split
  · have hfraction : Digits (List.replicate (-places).toNat '0' ++ ds) := digits_append (digits_replicate _) h
    rw [← List.append_nil ('.' :: _)]
    exact @IsDecimal.mk ['0'] _ [] (by simp) (by simp [Digits]) (.some hfraction) .none
  · split
    · have hwhole : Digits (ds.rightpad places.toNat '0') := digits_append h (digits_replicate _)
      refine @IsDecimal.mk _ ['.', '0'] [] ?_ hwhole (.some (by simp [Digits])) .none
      simp [List.rightpad, hne]
    · have hsplit : Digits (ds.take places.toNat ++ ds.drop places.toNat) := by rwa [List.take_append_drop]
      have hwhole : ds.take places.toNat ≠ [] := by
        rw [ne_eq, List.take_eq_nil_iff]
        exact not_or.2 ⟨by omega, hne⟩
      rw [← List.append_nil ('.' :: _)]
      exact .mk hwhole (fun c hc => hsplit c (List.mem_append_left _ hc))
        (.some fun c hc => hsplit c (List.mem_append_right _ hc)) .none

theorem isExponent (e : Int) (width : Nat) :
    IsExponent ('e' :: (if e < 0 then '-' else '+') :: (Nat.toDigits 10 e.natAbs).leftpad width '0') := by
  refine .some ?_ ?_ (digits_append (digits_replicate _) (digits_toDigits _))
  · split
    · exact .inl rfl
    · exact .inr rfl
  · simp [List.leftpad, Nat.toDigits_ne_nil]

theorem isDecimal_write (l : Layout) (d : Decimal) : IsDecimal (l.write d) := by
  have hdigits : Digits (Nat.toDigits 10 d.digits) := digits_toDigits _
  obtain ⟨c, r, hcr⟩ := List.exists_cons_of_ne_nil (@Nat.toDigits_ne_nil d.digits 10)
  unfold Layout.write
  simp only
  split
  · exact isDecimal_pointed Nat.toDigits_ne_nil hdigits _
  · rw [hcr] at hdigits ⊢
    have hlead : Digits [c] := by simpa [Digits] using hdigits c List.mem_cons_self
    cases r with
    | nil => exact @IsDecimal.mk [c] [] _ (by simp) hlead .none (isExponent _ _)
    | cons c' r =>
      have hrest : Digits (c' :: r) := fun x hx => hdigits x (List.mem_cons_of_mem _ hx)
      exact @IsDecimal.mk [c] ('.' :: c' :: r) _ (by simp) hlead (.some hrest) (isExponent _ _)

theorem exists_mark_of_write (l : Layout) (d : Decimal) : ∃ c ∈ l.write d, isAsciiDigit c = false := by
  unfold Layout.write
  simp only
  split
  · refine ⟨'.', ?_, rfl⟩
    unfold pointed
    split
    · simp
    · split <;> simp
  · exact ⟨'e', by simp, rfl⟩

theorem exists_decimal (s : Bool) (u : Nat) : ∃ cs, IsDecimal cs ∧ (∃ c ∈ cs, isAsciiDigit c = false) ∧
    (finite s u).text.toList = signOf s ++ cs := by
  refine ⟨_, ?_, ?_, String.toList_ofList⟩
  · split
    · exact isDecimal_zero
    · exact isDecimal_write _ _
  · split
    · exact ⟨'.', by simp, rfl⟩
    · exact exists_mark_of_write _ _

end Binary64

namespace Json

open Numeral

variable {c : Char} {cs : List Char}

theorem isNumberChar_of_isDigit (h : c.isDigit = true) : isNumberChar c = true := by
  rw [isNumberChar, isAsciiDigit_of_isDigit h]
  rfl

theorem isNumberChar_of_isDecimal (h : IsDecimal cs) : ∀ c ∈ cs, isNumberChar c = true := by
  obtain ⟨-, hwhole, hpoint, htail⟩ := h
  intro c hc
  rcases List.mem_append.1 hc with hc | hc
  · exact isNumberChar_of_isDigit (hwhole c hc)
  rcases List.mem_append.1 hc with hc | hc
  · cases hpoint with
    | none => cases hc
    | some hds =>
      rcases List.mem_cons.1 hc with rfl | hc
      · rfl
      · exact isNumberChar_of_isDigit (hds c hc)
  · cases htail with
    | none => cases hc
    | some hs _ hds =>
      rcases List.mem_cons.1 hc with rfl | hc
      · rfl
      rcases List.mem_cons.1 hc with rfl | hc
      · rcases hs with rfl | rfl <;> rfl
      · exact isNumberChar_of_isDigit (hds c hc)

theorem isNumberChar_of_signed (s : Bool) (h : IsDecimal cs) : ∀ c ∈ signOf s ++ cs, isNumberChar c = true := by
  intro c hc
  rcases List.mem_append.1 hc with hc | hc
  · cases s with
    | false => cases hc
    | true =>
      rw [List.mem_singleton.1 hc]
      rfl
  · exact isNumberChar_of_isDecimal h c hc

theorem number?_ofInt (n : Int) : number? (ofInt n).toList = some (.int n) := by
  have hall : (Nat.toDigits 10 n.natAbs).all isAsciiDigit = true := all_isAsciiDigit (digits_toDigits _)
  rw [toList_ofInt, number?, sign_signed _ (isDecimal_digits _)]
  simp only
  rw [if_pos ⟨Nat.toDigits_ne_nil, hall⟩, value, value_of_isDigit (digits_toDigits _),
    Nat.ofDigitChars_ten_toDigits]
  congr 2
  by_cases h : n < 0
  · rw [if_pos (decide_eq_true h)]
    omega
  · rw [if_neg (by simp [h])]
    omega

theorem exists_number_signed (s : Bool) (h : IsDecimal cs) :
    ∃ v, number? (signOf s ++ cs) = some v := by
  rw [number?, sign_signed s h]
  simp only
  split
  · exact ⟨_, rfl⟩
  · obtain ⟨x, hx⟩ := exists_magnitude s h
    exact ⟨.real x, by rw [hx, Option.map_some]⟩

end Json

end ChainRisk
