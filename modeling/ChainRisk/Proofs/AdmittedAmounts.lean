import ChainRisk.Proofs.ReportLines

namespace ChainRisk

namespace Numeral

open Text (digitValue? isDecimal)

variable {c : Char} {d : Nat} {s : String}

def decimalValue (s : String) : Nat := s.toList.foldl (fun n c => 10 * n + (digitValue? c).getD 0) 0

theorem exists_zero_of_digitValue? (h : digitValue? c = some d) :
    ∃ z ∈ Text.decimalZeros, c.toNat = z + d ∧ d < 10 := by
  obtain ⟨z, hz, rfl⟩ := Option.map_eq_some_iff.1 h
  have hblock := List.find?_some hz
  simp only [Bool.and_eq_true, decide_eq_true_eq] at hblock
  exact ⟨z, List.mem_of_find?_eq_some hz, by omega, by omega⟩

theorem folded_of_digitValue? (h : digitValue? c = some d) : folded c = Hex.digit d := by
  obtain ⟨z, hz, hc, hd⟩ := exists_zero_of_digitValue? h
  by_cases hascii : c.toNat < 127
  · have hfirst : ∀ z ∈ Text.decimalZeros, z < 127 → z = 48 := by decide +kernel
    rw [folded, if_pos hascii, Hex.digit, if_pos hd, ← hfirst z hz (by omega), ← hc, Char.ofNat_toNat]
  · have hapart : ∀ z ∈ Text.decimalZeros, ∀ r ∈ Text.blanks, z + 10 ≤ r.1 ∨ r.2 < z := by decide +kernel
    have hblank : Text.isBlank c = false :=
      Text.RangeTable.member_eq_false fun r hr => by have := hapart z hz r hr; omega
    rw [folded, if_neg hascii, hblank, if_neg Bool.false_ne_true, h]

theorem folded_of_marked (h : Text.isDigit c = true) (h' : isDecimal c = false) : folded c = '?' := by
  have hmarked : Text.markedDigits.member c = true := by
    rwa [Text.isDigit, h', Bool.false_or] at h
  obtain ⟨r, hr, hlow, hhigh⟩ := Text.RangeTable.member_iff.1 hmarked
  have hapart : ∀ r ∈ Text.markedDigits, 127 ≤ r.1 ∧ ∀ b ∈ Text.blanks, r.2 < b.1 ∨ b.2 < r.1 := by
    decide +kernel
  have hblank : Text.isBlank c = false :=
    Text.RangeTable.member_eq_false fun b hb => by have := (hapart r hr).2 b hb; omega
  have hnone : digitValue? c = none := by simpa [isDecimal] using h'
  rw [folded, if_neg (by have := (hapart r hr).1; omega), hblank, if_neg Bool.false_ne_true, hnone]

theorem isDigit_digit : ∀ d < 10, (Hex.digit d).isDigit = true := by decide

theorem digits_folded (h : ∀ c ∈ s.toList, isDecimal c = true) : Digits (s.toList.map folded) := by
  intro c hc
  obtain ⟨x, hx, rfl⟩ := List.mem_map.1 hc
  obtain ⟨d, hd⟩ := Option.isSome_iff_exists.1 (h x hx)
  rw [folded_of_digitValue? hd]
  exact isDigit_digit d (Text.digitValue?_lt hd)

theorem ofDigitChars_folded (h : ∀ c ∈ s.toList, isDecimal c = true) :
    Nat.ofDigitChars 10 (s.toList.map folded) 0 = decimalValue s := by
  rw [← value_of_isDigit (digits_folded h), List.foldl_map, decimalValue]
  refine List.foldl_ext _ _ _ fun n c hc => ?_
  obtain ⟨d, hd⟩ := Option.isSome_iff_exists.1 (h c hc)
  rw [folded_of_digitValue? hd, Hex.value?_digit (by have := Text.digitValue?_lt hd; omega), hd]

theorem integer_of_isDecimal (hne : s.toList ≠ []) (h : ∀ c ∈ s.toList, isDecimal c = true) :
    integer 10 s = if digitLimit < s.toList.length then .error (.tooLong s.toList.length)
      else .ok (decimalValue s : Nat) := by
  rw [integer_of_folded rfl (by simpa using hne) (digits_folded h), List.length_map, ofDigitChars_folded h]

theorem mem_dropWhile_of_not {p : Char → Bool} {cs : List Char} (h : c ∈ cs) (hp : p c = false) :
    c ∈ cs.dropWhile p := by
  rw [← List.takeWhile_append_dropWhile (p := p) (l := cs)] at h
  rcases List.mem_append.1 h with h | h
  · rw [List.mem_takeWhile_imp h] at hp
    cases hp
  · exact h

theorem mem_sign {cs : List Char} (h : c ∈ cs) (hminus : c ≠ '-') (hplus : c ≠ '+') : c ∈ (sign cs).2 := by
  unfold sign
  split
  · exact (List.mem_cons.1 h).resolve_left hminus
  · exact (List.mem_cons.1 h).resolve_left hplus
  · exact h

theorem unmarked_ten (cs : List Char) : unmarked 10 cs = cs := by
  unfold unmarked
  split
  · exact if_neg (by simp)
  · rfl

theorem exists_refusal_of_folded (h : '?' ∈ s.toList.map folded) : ∃ r, integer 10 s = .error r := by
  -- the mark ends the run of digits and is no blank, so that something is left behind the run
  unfold integer
  simp only [unmarked_ten]
  generalize hcs : sign ((s.toList.map folded).dropWhile isSpace) = signed
  have hmem : '?' ∈ signed.2 := hcs ▸ mem_sign (mem_dropWhile_of_not h (by decide)) (by decide) (by decide)
  have hrest := mem_dropWhile_of_not (p := fun c => inBase 10 c || c == '_') hmem (by decide)
  split
  · exact ⟨_, rfl⟩
  split
  · exact ⟨_, rfl⟩
  split
  · next hall => exact absurd (List.all_eq_true.1 hall _ hrest) (by decide)
  · exact ⟨_, rfl⟩

end Numeral

namespace Amount

theorem text_congr {room : Nat} {given decimals decimals' : Json} (h : places decimals = places decimals') :
    text room given decimals = text room given decimals' := by
  rw [text, text, units, units, h]

end Amount

namespace Allowance

variable {room : Nat} {a : Allowance} {amount : String}

/-- A positive number in decimal digits, not too many of them. -/
structure Admitted (amount : String) : Prop where
  nonempty : amount.toList ≠ []
  decimal : ∀ c ∈ amount.toList, Text.isDecimal c = true
  length_le : amount.toList.length ≤ Numeral.digitLimit
  value_ne : Numeral.decimalValue amount ≠ 0

theorem isDigits_iff : Text.isDigits amount = true ↔
    amount.toList ≠ [] ∧ ∀ c ∈ amount.toList, Text.isDigit c = true := by
  simp [Text.isDigits]

theorem isDigits_of_isDecimal (hne : amount.toList ≠ []) (h : ∀ c ∈ amount.toList, Text.isDecimal c = true) :
    Text.isDigits amount = true :=
  isDigits_iff.2 ⟨hne, fun c hc => by rw [Text.isDigit, h c hc, Bool.true_or]⟩

theorem checkAmount_of_isDecimal (hne : amount.toList ≠ []) (h : ∀ c ∈ amount.toList, Text.isDecimal c = true) :
    checkAmount amount = if Numeral.digitLimit < amount.toList.length then
        .error (.numeral (.tooLong amount.toList.length))
      else if Numeral.decimalValue amount = 0 then .error (.notPositive amount) else .ok () := by
  rw [checkAmount, if_pos (isDigits_of_isDecimal hne h), Numeral.integer_of_isDecimal hne h]
  by_cases hlong : Numeral.digitLimit < amount.toList.length
  · rw [if_pos hlong, if_pos hlong]
  · rw [if_neg hlong, if_neg hlong]
    simp only [Int.natCast_eq_zero]

theorem checkAmount_of_marked (h : Text.isDigits amount = true)
    (hmarked : ∃ c ∈ amount.toList, Text.isDecimal c = false) : ∃ r, checkAmount amount = .error (.numeral r) := by
  obtain ⟨c, hc, hnot⟩ := hmarked
  have hfolded : '?' ∈ amount.toList.map Numeral.folded :=
    List.mem_map.2 ⟨c, hc, Numeral.folded_of_marked ((isDigits_iff.1 h).2 c hc) hnot⟩
  obtain ⟨r, hr⟩ := Numeral.exists_refusal_of_folded hfolded
  exact ⟨r, by rw [checkAmount, if_pos h, hr]⟩

theorem checkAmount_eq_ok_iff : checkAmount amount = .ok () ↔ Admitted amount := by
  constructor
  · intro h
    have hdigits : Text.isDigits amount = true := by
      by_contra hnot
      rw [checkAmount, if_neg hnot] at h
      cases h
    have hdecimal : ∀ c ∈ amount.toList, Text.isDecimal c = true := by
      by_contra hnot
      simp only [not_forall, Bool.not_eq_true, exists_prop] at hnot
      obtain ⟨r, hr⟩ := checkAmount_of_marked hdigits hnot
      rw [hr] at h
      cases h
    have hne := (isDigits_iff.1 hdigits).1
    rw [checkAmount_of_isDecimal hne hdecimal] at h
    by_cases hlong : Numeral.digitLimit < amount.toList.length
    · rw [if_pos hlong] at h
      cases h
    · rw [if_neg hlong] at h
      by_cases hzero : Numeral.decimalValue amount = 0
      · rw [if_pos hzero] at h
        cases h
      · exact ⟨hne, hdecimal, Nat.le_of_not_lt hlong, hzero⟩
  · rintro ⟨hne, hdecimal, hlength, hvalue⟩
    rw [checkAmount_of_isDecimal hne hdecimal, if_neg (Nat.not_lt.2 hlength), if_neg hvalue]

theorem checkAmount_refused (h : checkAmount amount ≠ .ok ()) :
    checkAmount amount = .error (.notPositive amount) ∨ ∃ r, checkAmount amount = .error (.numeral r) := by
  revert h
  unfold checkAmount
  split
  · split
    · next n hn =>
      split
      · exact fun _ => .inl rfl
      · exact fun h => absurd rfl h
    · exact fun _ => .inr ⟨_, rfl⟩
  · exact fun _ => .inl rfl

theorem toInt_of_admitted (h : Admitted amount) :
    (Json.str amount).toInt = .ok (Numeral.decimalValue amount : Nat) := by
  rw [Json.toInt, Numeral.integer_of_isDecimal h.nonempty h.decimal, if_neg (Nat.not_lt.2 h.length_le)]
  rfl

def Made (a : Allowance) : Prop := ∃ token spender amount symbol name decimals info,
  make token spender amount symbol name decimals info = .ok a

def placesNumber (a : Allowance) : Nat :=
  match a.decimals with
  | .int d => d.toNat
  | _ => TokenMetadata.defaultDecimals.toNat

def Roomy (room : Nat) (a : Allowance) : Prop :=
  (a.decimals = .null ∨ ∃ d : Int, a.decimals = .int d) ∧ Amount.Fits room (a.placesNumber + 1)

structure Rendered (room : Nat) (a : Allowance) : Prop where
  positive : 0 < Numeral.decimalValue a.amount
  value : (Json.str a.amount).toInt = .ok (Numeral.decimalValue a.amount : Nat)
  unlimited : (Json.str a.amount).toInt.map Amount.isUnlimited =
    .ok (decide ((Numeral.decimalValue a.amount : Int) ∈ Amount.sentinels))
  text : ∃ t, a.amountText room = .ok t ∧ if (Numeral.decimalValue a.amount : Int) ∈ Amount.sentinels then
    t = Amount.unlimitedText else Amount.Renders (Numeral.decimalValue a.amount) a.placesNumber t

theorem make_eq_ok_iff {token spender symbol name decimals : Json} {info : Spender} :
    make token spender amount symbol name decimals info = .ok a ↔
      Admitted amount ∧ a = ⟨token, spender, amount, symbol, name, decimals, info⟩ := by
  rw [make, Attempt.map_eq_ok_iff, ← checkAmount_eq_ok_iff]
  constructor
  · rintro ⟨_, hcheck, rfl⟩
    exact ⟨hcheck, rfl⟩
  · rintro ⟨hcheck, rfl⟩
    exact ⟨(), hcheck, rfl⟩

theorem Made.admitted (h : a.Made) : Admitted a.amount := by
  obtain ⟨token, spender, amount, symbol, name, decimals, info, hmake⟩ := h
  obtain ⟨hadmitted, rfl⟩ := make_eq_ok_iff.1 hmake
  exact hadmitted

theorem amountText_of_roomy (h : a.Roomy room) :
    a.amountText room = Amount.text room (.str a.amount) (.int a.placesNumber) := by
  rcases h.1 with h | ⟨d, h⟩
  · rw [amountText, places, placesNumber, h]
    rfl
  · rw [amountText, places, placesNumber, h]
    exact Amount.text_congr rfl

theorem rendered_of_made (h : a.Made) (hroom : a.Roomy room) : a.Rendered room := by
  have hvalue := toInt_of_admitted h.admitted
  refine ⟨Nat.pos_of_ne_zero h.admitted.value_ne, hvalue, ?_, ?_⟩
  · rw [hvalue]
    exact congrArg Except.ok (by rw [Bool.eq_iff_iff, Amount.isUnlimited_iff, decide_eq_true_iff])
  · rw [amountText_of_roomy hroom]
    by_cases hsentinel : (Numeral.decimalValue a.amount : Int) ∈ Amount.sentinels
    · exact ⟨_, Amount.text_of_mem_sentinels hvalue hsentinel _, by rw [if_pos hsentinel]⟩
    · rw [Amount.text_of_nonneg hvalue hsentinel (Int.natCast_nonneg _), hroom.2.checkLength]
      exact ⟨_, rfl, by rw [if_neg hsentinel]; exact Amount.renders_pointed _ _⟩

theorem exists_text_of_amountText {r : AllowanceReport}
    (h : ∀ a ∈ r.allowances, ∃ t, a.amountText room = .ok t) :
    ∃ t amounts, r.text room = .ok t ∧ r.allowances.mapM (amountText room) = .ok amounts ∧
      (amounts.map (amountLead ++ ·)).Sublist (Text.lines t) := by
  obtain ⟨amounts, hamounts⟩ := Attempt.exists_mapM_iff.2 h
  by_cases hne : r.allowances = []
  · rw [hne] at hamounts
    cases hamounts
    exact ⟨_, [], by rw [AllowanceReport.text, hne]; rfl, by rw [hne]; rfl, List.nil_sublist _⟩
  · refine ⟨r.written amounts, amounts, ?_, hamounts, ?_⟩
    · rw [AllowanceReport.text_eq hne, hamounts]
      rfl
    · exact (AllowanceReport.shows_of_mapM hamounts).1.sublist.trans List.filter_sublist

theorem admitted_rendered :
    (∀ token spender amount symbol name decimals info,
      ((∃ a, make token spender amount symbol name decimals info = .ok a) ↔ Admitted amount) ∧
      (¬ Admitted amount → make token spender amount symbol name decimals info = .error (.notPositive amount) ∨
        ∃ r, make token spender amount symbol name decimals info = .error (.numeral r)) ∧
      (Text.isDigits amount = true → (∃ c ∈ amount.toList, Text.isDecimal c = false) →
        ∃ r, make token spender amount symbol name decimals info = .error (.numeral r))) ∧
    ∀ (room : Nat) (r : AllowanceReport), (∀ a ∈ r.allowances, a.Made ∧ a.Roomy room) →
      (∀ a ∈ r.allowances, a.Rendered room) ∧
      ∃ t amounts, r.text room = .ok t ∧ r.allowances.mapM (amountText room) = .ok amounts ∧
        (amounts.map (amountLead ++ ·)).Sublist (Text.lines t) := by
  refine ⟨fun token spender amount symbol name decimals info => ⟨?_, fun h => ?_, fun h hmarked => ?_⟩,
    fun room r h => ?_⟩
  · constructor
    · rintro ⟨a, ha⟩
      exact (make_eq_ok_iff.1 ha).1
    · exact fun h => ⟨_, make_eq_ok_iff.2 ⟨h, rfl⟩⟩
  · rw [make]
    rcases checkAmount_refused (mt checkAmount_eq_ok_iff.1 h) with h | ⟨r, h⟩
    · exact .inl (by rw [h]; rfl)
    · exact .inr ⟨r, by rw [h]; rfl⟩
  · obtain ⟨r, hr⟩ := checkAmount_of_marked h hmarked
    exact ⟨r, by rw [make, hr]; rfl⟩
  · have hrendered := fun a ha => rendered_of_made (h a ha).1 (h a ha).2
    exact ⟨hrendered, exists_text_of_amountText fun a ha => (hrendered a ha).text.imp fun _ ht => ht.1⟩

def arabicGrant : Allowance where
  token := .str "0xc000000000000000000000000000000000000000"
  spender := .str AllowanceReport.unlisted
  amount := "\u0662\u0665"
  symbol := .null
  name := .null
  decimals := .null
  info := .unknown (.str AllowanceReport.unlisted)

theorem admitted_rendered_arabicGrant :
    (¬ Admitted "0" ∧ ∃ e, make .null .null "0" .null .null .null arabicGrant.info = .error e) ∧
    (Text.isDigits "1\u00b2" = true ∧ (∃ c ∈ "1\u00b2".toList, Text.isDecimal c = false) ∧
      ∃ r, make .null .null "1\u00b2" .null .null .null arabicGrant.info = .error (.numeral r)) ∧
    (arabicGrant.Made ∧ arabicGrant.Roomy 19) ∧ Numeral.decimalValue arabicGrant.amount = 25 ∧
    arabicGrant.Rendered 19 ∧ ∃ t, AllowanceReport.text 19 ⟨.null, [arabicGrant], .int 1, .int 1⟩ = .ok t := by
  obtain ⟨hmake, hrender⟩ := admitted_rendered
  have hzero : ¬ Admitted "0" := fun h => h.value_ne (by decide +kernel)
  have hdigits : Text.isDigits "1\u00b2" = true := by decide +kernel
  have hmarked : ∃ c ∈ "1\u00b2".toList, Text.isDecimal c = false :=
    ⟨'\u00b2', by decide +kernel, by decide +kernel⟩
  have hadmitted : Admitted arabicGrant.amount :=
    ⟨by decide +kernel, List.all_eq_true.1 (by decide +kernel), by decide +kernel, by decide +kernel⟩
  have hmade : arabicGrant.Made ∧ arabicGrant.Roomy 19 :=
    ⟨⟨_, _, _, _, _, _, _, make_eq_ok_iff.2 ⟨hadmitted, rfl⟩⟩, .inl rfl, by decide, by decide⟩
  obtain ⟨hrendered, t, amounts, ht, -⟩ := hrender 19 ⟨.null, [arabicGrant], .int 1, .int 1⟩ fun a ha => by
    rw [List.mem_singleton.1 ha]
    exact hmade
  have hrefused : ∃ e, make .null .null "0" .null .null .null arabicGrant.info = .error e := by
    rcases (hmake _ _ _ _ _ _ _).2.1 hzero with he | ⟨r, he⟩
    · exact ⟨_, he⟩
    · exact ⟨_, he⟩
  exact ⟨⟨hzero, hrefused⟩, ⟨hdigits, hmarked, (hmake _ _ _ _ _ _ _).2.2 hdigits hmarked⟩, hmade, by decide +kernel,
    hrendered _ List.mem_cons_self, t, ht⟩

end Allowance

end ChainRisk
