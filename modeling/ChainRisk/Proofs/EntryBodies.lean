import Mathlib.Data.List.TakeWhile
import ChainRisk.Detector.EntryBody

namespace ChainRisk.Detector

variable {word name : String} {c : Char} {cs w r body : List Char}

def Blanks (w : List Char) : Prop := ∀ c ∈ w, Text.isBlank c = true

theorem blanks_space : Blanks [' '] := List.forall_mem_singleton.2 (by decide)

theorem after?_eq_some_iff : after? word cs = some r ↔ cs = word.toList ++ r := by
  unfold after?
  split
  · next h =>
    obtain ⟨t, rfl⟩ := List.isPrefixOf_iff_prefix.1 h
    rw [← String.length_toList, List.drop_left, Option.some.injEq, List.append_cancel_left_eq]
  · next h =>
    refine iff_of_false nofun ?_
    rintro rfl
    exact h (List.isPrefixOf_iff_prefix.2 (List.prefix_append _ _))

theorem skipBlanks_eq_cons_iff (hc : Text.isBlank c = false) :
    skipBlanks cs = c :: r ↔ ∃ w, Blanks w ∧ cs = w ++ c :: r := by
  constructor
  · intro h
    refine ⟨cs.takeWhile Text.isBlank, fun x hx => List.mem_takeWhile_imp hx, ?_⟩
    rw [← h, skipBlanks, List.takeWhile_append_dropWhile]
  · rintro ⟨w, hw, rfl⟩
    rw [skipBlanks, List.dropWhile_append_of_pos hw, List.dropWhile_cons_of_neg (by simp [hc])]

theorem after?_skipBlanks_eq_some_iff (h : word.toList.head?.any (!Text.isBlank ·) = true) :
    after? word (skipBlanks cs) = some r ↔ ∃ w, Blanks w ∧ cs = w ++ (word.toList ++ r) := by
  rw [after?_eq_some_iff]
  cases hword : word.toList with
  | nil =>
    rw [hword] at h
    cases h
  | cons c t =>
    rw [hword] at h
    exact skipBlanks_eq_cons_iff (by simpa using h)

theorem head?_any_isBlank_iff (hw : Blanks w) (h : cs.head?.any (!Text.isBlank ·) = true) :
    (w ++ cs).head?.any Text.isBlank = true ↔ w ≠ [] := by
  cases w with
  | nil =>
    cases cs with
    | nil => cases h
    | cons c cs => simpa using h
  | cons c w => simpa using hw c List.mem_cons_self

def IsHeader (name : String) (h : List Char) : Prop :=
  ∃ v w x y z, Blanks v ∧ Blanks w ∧ Blanks x ∧ Blanks y ∧ y ≠ [] ∧ Blanks z ∧
    h = name.toList ++ v ++ "(".toList ++ w ++ ")".toList ++ x ++ "external".toList ++ y ++
      "payable".toList ++ z ++ "\x7b".toList

theorem afterHeader?_eq_some_iff :
    afterHeader? name cs = some r ↔ ∃ h, IsHeader name h ∧ cs = h ++ r := by
  have hopen {cs r} := @after?_skipBlanks_eq_some_iff "(" cs r (by decide)
  have hclose {cs r} := @after?_skipBlanks_eq_some_iff ")" cs r (by decide)
  have hexternal {cs r} := @after?_skipBlanks_eq_some_iff "external" cs r (by decide)
  have hpayable {cs r} := @after?_skipBlanks_eq_some_iff "payable" cs r (by decide)
  have hbrace {cs r} := @after?_skipBlanks_eq_some_iff "\x7b" cs r (by decide)
  -- each step reads one word, so the two sides list the same gaps one after another
  simp only [afterHeader?, Option.bind_eq_bind, Option.bind_eq_some_iff, Option.ite_none_right_eq_some,
    @after?_eq_some_iff name, hopen, hclose, hexternal, hpayable, hbrace]
  constructor
  · rintro ⟨_, rfl, _, ⟨v, hv, rfl⟩, _, ⟨w, hw, rfl⟩, _, ⟨x, hx, rfl⟩, hhead, _, ⟨y, hy, rfl⟩, z, hz, rfl⟩
    have hne : y ≠ [] := (head?_any_isBlank_iff hy rfl).1 hhead
    exact ⟨_, ⟨v, w, x, y, z, hv, hw, hx, hy, hne, hz, rfl⟩, by simp only [List.append_assoc]⟩
  · rintro ⟨h, ⟨v, w, x, y, z, hv, hw, hx, hy, hne, hz, hh⟩, hcs⟩
    have hhead (t : List Char) : (y ++ ("payable".toList ++ t)).head?.any Text.isBlank = true :=
      (head?_any_isBlank_iff hy rfl).2 hne
    rw [hcs, hh]
    simp only [List.append_assoc]
    exact ⟨_, rfl, _, ⟨v, hv, rfl⟩, _, ⟨w, hw, rfl⟩, _, ⟨x, hx, rfl⟩, hhead _, _, ⟨y, hy, rfl⟩, z, hz, rfl⟩

theorem body?_append (h : '\x7d' ∉ body) (t : List Char) : body? (body ++ '\x7d' :: t) = some body := by
  have hall : ∀ c ∈ body, (c != '\x7d') = true := fun c hc => bne_iff_ne.2 (ne_of_mem_of_not_mem hc h)
  rw [body?, if_pos (List.mem_append_right _ List.mem_cons_self), List.takeWhile_append_of_pos hall,
    List.takeWhile_cons_of_neg (by decide), List.append_nil]

theorem body?_eq_some_iff : body? cs = some body ↔ '\x7d' ∉ body ∧ ∃ t, cs = body ++ '\x7d' :: t := by
  constructor
  · intro h
    by_cases hmem : '\x7d' ∈ cs
    · obtain ⟨b, t, rfl, hb⟩ := List.eq_append_cons_of_mem hmem
      rw [body?_append hb] at h
      cases h
      exact ⟨hb, t, rfl⟩
    · rw [body?, if_neg hmem] at h
      cases h
  · rintro ⟨hbody, t, rfl⟩
    exact body?_append hbody t

theorem search_iff {find : List Char → Bool} {P : List Char → Prop} (hnil : find [] = true ↔ P [])
    (hcons : ∀ c cs, find (c :: cs) = true ↔ P (c :: cs) ∨ find cs = true) :
    find cs = true ↔ ∃ t, t <:+ cs ∧ P t := by
  induction cs with
  | nil => simp only [hnil, List.suffix_nil, exists_eq_left]
  | cons c cs ih => simp only [hcons, ih, List.suffix_cons_iff, or_and_right, exists_or, exists_eq_left]

def OwnerEquals (body rest : List Char) : Prop :=
  ∃ before w, Blanks w ∧ body = before ++ "owner".toList ++ w ++ '=' :: rest

theorem any_after?_owner_iff :
    (after? "owner" cs).any (fun t => (skipBlanks t).head? == some '=') = true ↔
      ∃ w rest, Blanks w ∧ cs = "owner".toList ++ (w ++ '=' :: rest) := by
  have hequals : Text.isBlank '=' = false := by decide
  simp only [Option.any_eq_true, after?_eq_some_iff, beq_iff_eq, List.head?_eq_some_iff,
    skipBlanks_eq_cons_iff hequals]
  constructor
  · rintro ⟨_, rfl, rest, w, hw, rfl⟩
    exact ⟨w, rest, hw, rfl⟩
  · rintro ⟨w, rest, hw, rfl⟩
    exact ⟨_, rfl, rest, w, hw, rfl⟩

theorem assignsOwner_iff : assignsOwner body = true ↔ ∃ rest, OwnerEquals body rest := by
  rw [search_iff (P := fun t => ∃ w rest, Blanks w ∧ t = "owner".toList ++ (w ++ '=' :: rest))]
  · constructor
    · rintro ⟨_, ⟨before, rfl⟩, w, rest, hw, rfl⟩
      exact ⟨rest, before, w, hw, by simp only [List.append_assoc]⟩
    · rintro ⟨rest, before, w, hw, rfl⟩
      exact ⟨_, ⟨before, by simp only [List.append_assoc]⟩, w, rest, hw, rfl⟩
  · rw [← any_after?_owner_iff]
    rfl
  · intro c cs
    rw [← any_after?_owner_iff, assignsOwner, Bool.or_eq_true]

/-- The text holds the header of an entry point of that name and then, up to the next closing brace, its
body. -/
def HasBody (name : String) (cs body : List Char) : Prop :=
  ∃ before h after, IsHeader name h ∧ '\x7d' ∉ body ∧ cs = before ++ h ++ body ++ '\x7d' :: after

theorem entryAssigns_iff : entryAssigns name cs = true ↔
    ∃ h body after rest, IsHeader name h ∧ '\x7d' ∉ body ∧ OwnerEquals body rest ∧
      cs = h ++ (body ++ '\x7d' :: after) := by
  simp only [entryAssigns, Option.any_eq_true, Option.bind_eq_some_iff, afterHeader?_eq_some_iff,
    body?_eq_some_iff, assignsOwner_iff]
  constructor
  · rintro ⟨body, ⟨_, ⟨h, hh, rfl⟩, hbody, after, rfl⟩, rest, hrest⟩
    exact ⟨h, body, after, rest, hh, hbody, hrest, rfl⟩
  · rintro ⟨h, body, after, rest, hh, hbody, hrest, rfl⟩
    exact ⟨body, ⟨_, ⟨h, hh, rfl⟩, hbody, after, rfl⟩, rest, hrest⟩

theorem findsEntry_iff :
    findsEntry name cs = true ↔ ∃ body rest, HasBody name cs body ∧ OwnerEquals body rest := by
  rw [search_iff (P := fun t => entryAssigns name t = true)]
  · simp only [entryAssigns_iff]
    constructor
    · rintro ⟨_, ⟨before, rfl⟩, h, body, after, rest, hh, hbody, hrest, rfl⟩
      exact ⟨body, rest, ⟨before, h, after, hh, hbody, by simp only [List.append_assoc]⟩, hrest⟩
    · rintro ⟨body, rest, ⟨before, h, after, hh, hbody, rfl⟩, hrest⟩
      exact ⟨_, ⟨before, by simp only [List.append_assoc]⟩, h, body, after, rest, hh, hbody, hrest, rfl⟩
  · refine iff_of_false nofun ?_
    rw [entryAssigns_iff]
    rintro ⟨h, body, after, rest, -, -, -, heq⟩
    simp at heq
  · intro c cs
    rw [findsEntry, Bool.or_eq_true]

end ChainRisk.Detector
