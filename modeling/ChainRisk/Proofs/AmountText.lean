import Mathlib.Algebra.Group.Int.Defs
import Mathlib.Algebra.Group.Nat.Defs
import Mathlib.Data.List.TakeWhile
import ChainRisk.Allowance
import ChainRisk.Proofs.SmallLetters

namespace ChainRisk

theorem forall_of_isDigit {p : Char → Prop}
    (h : ∀ k < 128, (Char.ofNat k).isDigit = true → p (Char.ofNat k)) {c : Char}
    (hc : c.isDigit = true) : p c := by
  have hlt : c.toNat < 128 := by
    simp only [Char.isDigit, Bool.and_eq_true, decide_eq_true_eq] at hc
    have hle : c.toNat ≤ 57 := hc.2
    omega
  exact Text.forall_of_lt (p := fun c => c.isDigit = true → p c) h hlt hc

namespace Numeral

def Digits (cs : List Char) : Prop := ∀ c ∈ cs, c.isDigit = true

variable {c : Char}

theorem folded_of_isDigit (h : c.isDigit = true) : folded c = c :=
  forall_of_isDigit (p := fun c => folded c = c) (by decide) h

theorem isSpace_of_isDigit (h : c.isDigit = true) : isSpace c = false :=
  forall_of_isDigit (p := fun c => isSpace c = false) (by decide) h

theorem inBase_of_isDigit (h : c.isDigit = true) : (inBase 10 c || c == '_') = true :=
  forall_of_isDigit (p := fun c => (inBase 10 c || c == '_') = true) (by decide) h

theorem ne_line_of_isDigit (h : c.isDigit = true) : (c != '_') = true :=
  forall_of_isDigit (p := fun c => (c != '_') = true) (by decide) h

theorem value?_of_isDigit (h : c.isDigit = true) : Hex.value? c = some (c.toNat - '0'.toNat) :=
  forall_of_isDigit (p := fun c => Hex.value? c = some (c.toNat - '0'.toNat)) (by decide) h

theorem isDigit_text (h : c.isDigit = true) : Text.isDigit c = true :=
  forall_of_isDigit (p := fun c => Text.isDigit c = true) (by decide) h

theorem sign_of_isDigit {cs : List Char} (h : c.isDigit = true) : sign (c :: cs) = (false, c :: cs) := by
  unfold sign
  split
  · next heq => cases heq; cases h
  · next heq => cases heq; cases h
  · rfl

theorem value_of_isDigit {cs : List Char} (h : ∀ c ∈ cs, c.isDigit = true) (n : Nat) :
    cs.foldl (fun n c => 10 * n + (Hex.value? c).getD 0) n = Nat.ofDigitChars 10 cs n := by
  induction cs generalizing n with
  | nil => simp
  | cons c cs ih =>
    rw [List.foldl_cons, Nat.ofDigitChars_cons, value?_of_isDigit (h c (by simp)), Option.getD_some,
      ih (fun c hc => h c (by simp [hc]))]

theorem wellSpaced_of_isDigit {cs : List Char} (h : ∀ c ∈ cs, c.isDigit = true) (after : Bool)
    (hne : cs ≠ [] ∨ after = true) : wellSpaced after cs = true := by
  induction cs generalizing after with
  | nil => simpa [wellSpaced] using hne
  | cons c cs ih =>
    have hc : c ≠ '_' := by simpa using ne_line_of_isDigit (h c (by simp))
    rw [wellSpaced, if_neg hc]
    exact ih (fun c hc => h c (by simp [hc])) true (.inr rfl)

theorem integer_of_folded {s : String} {ds : List Char} (hfold : s.toList.map folded = ds) (hne : ds ≠ [])
    (h : Digits ds) : integer 10 s =
      if digitLimit < ds.length then .error (.tooLong ds.length) else .ok (Nat.ofDigitChars 10 ds 0 : Nat) := by
  obtain ⟨c, r, rfl⟩ := List.exists_cons_of_ne_nil hne
  have hblank : (c :: r).dropWhile isSpace = c :: r := by
    rw [List.dropWhile_cons_of_neg (by simp [isSpace_of_isDigit (h c (by simp))])]
  have hmark : unmarked 10 (c :: r) = c :: r := by
    unfold unmarked
    split <;> simp_all
  have hrun : (c :: r).takeWhile (fun c => inBase 10 c || c == '_') = c :: r :=
    List.takeWhile_eq_self_iff.2 fun x hx => inBase_of_isDigit (h x hx)
  have hrest : (c :: r).dropWhile (fun c => inBase 10 c || c == '_') = [] :=
    List.dropWhile_eq_nil_iff.2 fun x hx => inBase_of_isDigit (h x hx)
  have hdigits : (c :: r).filter (· != '_') = c :: r :=
    List.filter_eq_self.2 fun x hx => ne_line_of_isDigit (h x hx)
  have hspaced : wellSpaced false (c :: r) = true := wellSpaced_of_isDigit h false (.inl hne)
  unfold integer
  simp only [hfold, hblank, sign_of_isDigit (h c (by simp)), hmark, hrun, hrest, hdigits, hspaced, Bool.not_true,
    List.all_nil, if_true, true_and]
  rw [if_neg Bool.false_ne_true, if_neg Bool.false_ne_true, value, value_of_isDigit h]

theorem integer_of_isDigit {cs : List Char} (hne : cs ≠ []) (h : ∀ c ∈ cs, c.isDigit = true)
    (hlen : cs.length ≤ digitLimit) :
    integer 10 (String.ofList cs) = .ok (Nat.ofDigitChars 10 cs 0 : Nat) := by
  have hfold : (String.ofList cs).toList.map folded = cs := by
    rw [String.toList_ofList]
    exact (List.map_congr_left fun x hx => folded_of_isDigit (h x hx)).trans (List.map_id _)
  rw [integer_of_folded hfold hne h, if_neg (Nat.not_lt.2 hlen)]

theorem isDigit_of_mem_digits {c : Char} {n : Nat} (h : c ∈ Nat.toDigits 10 n) : c.isDigit = true :=
  Nat.isDigit_of_mem_toDigits (by decide) (by decide) h

theorem integer_ofNat {n : Nat} (h : n < 10 ^ digitLimit) : integer 10 (ofNat n) = .ok (n : Int) := by
  have hlen : (Nat.toDigits 10 n).length ≤ digitLimit :=
    (Nat.length_toDigits_le_iff (by decide) (by decide)).2 h
  rw [ofNat, integer_of_isDigit Nat.toDigits_ne_nil (fun _ => isDigit_of_mem_digits) hlen,
    Nat.ofDigitChars_ten_toDigits]

theorem isDigits_ofNat (n : Nat) : Text.isDigits (ofNat n) = true := by
  rw [Text.isDigits, ofNat, String.toList_ofList, Bool.and_eq_true, List.all_eq_true]
  exact ⟨by simp, fun c hc => isDigit_text (isDigit_of_mem_digits hc)⟩

end Numeral

namespace Allowance

theorem make_ofInt {n : Int} (hpos : 0 < n) (hn : n < 10 ^ Numeral.digitLimit)
    (token spender symbol name decimals : Json) (info : Spender) :
    make token spender (Numeral.ofInt n) symbol name decimals info =
      .ok ⟨token, spender, Numeral.ofInt n, symbol, name, decimals, info⟩ := by
  obtain ⟨k, rfl⟩ := Int.eq_ofNat_of_zero_le (Int.le_of_lt hpos)
  have hk : k < 10 ^ Numeral.digitLimit := by
    generalize Numeral.digitLimit = l at hn ⊢
    exact_mod_cast hn
  have hne : (k : Int) ≠ 0 := by omega
  rw [show Numeral.ofInt (k : Int) = Numeral.ofNat k from if_neg (by omega), make, checkAmount,
    if_pos (Numeral.isDigits_ofNat k), Numeral.integer_ofNat hk]
  simp only [if_neg hne]
  rfl

end Allowance

end ChainRisk
