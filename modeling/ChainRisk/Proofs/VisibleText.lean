import ChainRisk.Proofs.Lines
import ChainRisk.Proofs.WrittenNumbers
import ChainRisk.Proofs.WrittenText
import ChainRisk.Text.Quoted

namespace ChainRisk

namespace Text

def Visible (cs : List Char) : Prop := ∀ c ∈ cs, isPrintable c = true

variable {c mark : Char} {cs ds : List Char} {s : String}

theorem isPrintable_of_ascii (h : 32 ≤ c.toNat) (h' : c.toNat < 127) : isPrintable c = true := by
  have hranges : ∀ r ∈ unprintable, r.2 < 32 ∨ 127 ≤ r.1 := by decide +kernel
  rw [isPrintable, Bool.not_eq_true']
  exact RangeTable.member_eq_false fun r hr => by have := hranges r hr; omega

theorem Visible.append (h : Visible cs) (h' : Visible ds) : Visible (cs ++ ds) :=
  fun c hc => (List.mem_append.1 hc).elim (h c) (h' c)

theorem Visible.cons (hc : isPrintable c = true) (h : Visible cs) : Visible (c :: cs) :=
  List.forall_mem_cons.2 ⟨hc, h⟩

def isPlain (c : Char) : Bool := decide (32 ≤ c.toNat) && decide (c.toNat < 127)

theorem visible_of_plain (h : cs.all isPlain = true) : Visible cs := by
  intro c hc
  have hplain := List.all_eq_true.1 h c hc
  simp only [isPlain, Bool.and_eq_true, decide_eq_true_eq] at hplain
  exact isPrintable_of_ascii hplain.1 hplain.2

theorem unbroken_of_visible (h : Visible s.toList) : Unbroken s :=
  fun hbreak => absurd (h _ hbreak) (by decide +kernel)

theorem visible_toDigits (n : Nat) : Visible (Nat.toDigits 16 n) := by
  have hdigit : ∀ d < 16, [d.digitChar].all isPlain = true := by decide
  induction n using Nat.strong_induction_on with
  | _ n ih =>
    by_cases hn : n < 16
    · rw [Nat.toDigits_of_lt_base hn]
      exact visible_of_plain (hdigit n hn)
    · rw [Hex.toDigits_step (Nat.le_of_not_lt hn)]
      exact (ih (n / 16) (by omega)).append (visible_of_plain (hdigit _ (Nat.mod_lt n (by decide))))

theorem visible_padded (width n : Nat) : Visible (Hex.padded width n) := by
  refine .append (fun c hc => ?_) (visible_toDigits n)
  rw [List.eq_of_mem_replicate hc]
  exact isPrintable_of_ascii (by decide) (by decide)

theorem visible_slashed (hc : isPrintable c = true) (h : Visible cs) : Visible ('\\' :: c :: cs) :=
  .cons (isPrintable_of_ascii (by decide) (by decide)) (.cons hc h)

theorem visible_escaped (hmark : isPrintable mark = true) (c : Char) : Visible (escaped mark c) := by
  have hletter : ∀ x ∈ ['\\', 'n', 'r', 't', 'x', 'u', 'U'], isPrintable x = true :=
    visible_of_plain (by decide)
  unfold escaped
  split
  · next hc =>
    rcases hc with rfl | rfl
    · exact visible_slashed hmark nofun
    · exact visible_slashed (hletter _ (by decide)) nofun
  split
  · exact visible_slashed (hletter _ (by decide)) nofun
  split
  · exact visible_slashed (hletter _ (by decide)) nofun
  split
  · exact visible_slashed (hletter _ (by decide)) nofun
  split
  · next hc => exact .cons hc nofun
  split
  · exact visible_slashed (hletter _ (by decide)) (visible_padded _ _)
  split
  · exact visible_slashed (hletter _ (by decide)) (visible_padded _ _)
  split
  · exact visible_slashed (hletter _ (by decide)) (visible_padded _ _)
  · exact visible_slashed (hletter _ (by decide)) (visible_padded _ _)

theorem isPrintable_quoteMark (cs : List Char) : isPrintable (quoteMark cs) = true := by
  unfold quoteMark
  split <;> exact isPrintable_of_ascii (by decide) (by decide)

theorem visible_quoted (s : String) : Visible (quoted s).toList := by
  have hmark := isPrintable_quoteMark s.toList
  rw [quoted, String.toList_ofList]
  refine .cons hmark (.append (fun c hc => ?_) (.cons hmark nofun))
  obtain ⟨x, -, hx⟩ := List.mem_flatMap.1 hc
  exact visible_escaped hmark x c hx

end Text

open Text

variable {c : Char} {cs : List Char}

theorem Json.isPrintable_of_isNumberChar (h : Json.isNumberChar c = true) : isPrintable c = true := by
  simp only [isNumberChar, Numeral.isAsciiDigit, Bool.or_eq_true, Bool.and_eq_true, decide_eq_true_eq,
    beq_iff_eq] at h
  rcases h with ((((⟨hlow, hhigh⟩ | rfl) | rfl) | rfl) | rfl) | rfl
  · have hfrom : 48 ≤ c.toNat := hlow
    have hto : c.toNat ≤ 57 := hhigh
    exact isPrintable_of_ascii (by omega) (by omega)
  all_goals exact isPrintable_of_ascii (by decide) (by decide)

theorem Numeral.visible_ofInt (n : Int) : Visible (ofInt n).toList := by
  rw [toList_ofInt]
  exact fun c hc => Json.isPrintable_of_isNumberChar (Json.isNumberChar_of_signed _ (isDecimal_digits _) c hc)

theorem Binary64.visible_text (x : Binary64) : Visible x.text.toList := by
  cases x with
  | finite s u =>
    obtain ⟨cs, hdecimal, -, htext⟩ := exists_decimal s u
    rw [htext]
    exact fun c hc => Json.isPrintable_of_isNumberChar (Json.isNumberChar_of_signed s hdecimal c hc)
  | infinite s => cases s <;> exact visible_of_plain (by decide)
  | nan => exact visible_of_plain (by decide)

end ChainRisk
