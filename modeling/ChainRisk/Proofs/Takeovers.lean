import Mathlib.Data.List.Infix
import ChainRisk.Detector.Basic
import ChainRisk.Proofs.EntryBodies

namespace ChainRisk.Detector

variable {cs body rest : List Char} {code : Bytes} {s : String}

structure Worded (cs : List Char) : Prop where
  entry : "receive()".toList <:+: cs ∨ "fallback()".toList <:+: cs
  change : "owner =".toList <:+: cs
  sender : "msg.sender".toList <:+: cs

theorem Worded.ne_nil (h : Worded cs) : cs ≠ [] := by
  rintro rfl
  exact absurd (List.infix_nil.1 h.sender) (by decide)

theorem holdsAny_str (words : List String) (s : String) :
    holdsAny words (.str s) = .ok (words.any (Text.contains · s)) := by
  have hpure : words.mapM (Json.holds · (.str s)) = pure (words.map (Text.contains · s)) := List.mapM_pure
  rw [holdsAny, hpure]
  exact congrArg Except.ok List.any_map

theorem exists_takeoverWords (s : String) :
    ∃ held, takeoverWords (.str s) = .ok held ∧ (held = true ↔ Worded s.toList) := by
  rw [takeoverWords, holdsAny_str, holdsAny_str]
  refine ⟨_, rfl, ?_⟩
  have hshort : "owner =".toList <:+: "_owner =".toList := ⟨['_'], [], rfl⟩
  simp only [Bool.and_eq_true, List.any_cons, List.any_nil, Bool.or_false, Bool.or_eq_true, Text.contains,
    Text.occursIn_iff]
  constructor
  · rintro ⟨⟨hentry, hchange⟩, hsender⟩
    exact ⟨hentry, hchange.elim id hshort.trans, hsender⟩
  · rintro ⟨hentry, hchange, hsender⟩
    exact ⟨⟨hentry, .inl hchange⟩, hsender⟩

def IsPayableBody (cs body : List Char) : Prop := ∃ name ∈ ["receive", "fallback"], HasBody name cs body

def HasTakeover (cs : List Char) : Prop := ∃ body rest, IsPayableBody cs body ∧ OwnerEquals body rest

theorem hasTakeover_iff : HasTakeover cs ↔ (findsEntry "receive" cs || findsEntry "fallback" cs) = true := by
  simp only [Bool.or_eq_true, findsEntry_iff, HasTakeover, IsPayableBody, List.mem_cons, List.not_mem_nil,
    or_false, exists_eq_left, or_and_right, exists_or]

theorem exists_finds (code : Bytes) (s : String) : ∃ found, dangerousReceive.finds code (.str s) = .ok found ∧
    (found = true ↔ Worded s.toList ∧ HasTakeover s.toList) := by
  change ∃ found, findsTakeover (.str s) = .ok found ∧ _
  obtain ⟨held, hheld, hworded⟩ := exists_takeoverWords s
  rw [findsTakeover]
  cases hsome : (Json.str s).isSome with
  | false =>
    have hempty : s = "" := by simpa [Json.isSome] using hsome
    exact ⟨false, rfl, iff_of_false Bool.false_ne_true fun h => h.1.ne_nil (String.toList_eq_nil_iff.2 hempty)⟩
  | true =>
    rw [hheld, hasTakeover_iff, ← hworded]
    cases held with
    | false => exact ⟨false, rfl, iff_of_false Bool.false_ne_true fun h => Bool.false_ne_true h.1⟩
    | true => exact ⟨_, rfl, by rw [eq_self, true_and]⟩

theorem finds_eq_true_iff :
    dangerousReceive.finds code (.str s) = .ok true ↔ Worded s.toList ∧ HasTakeover s.toList := by
  obtain ⟨found, hfound, hiff⟩ := exists_finds code s
  rw [hfound, Except.ok.injEq, hiff]

theorem Blanks.brace_notMem {w : List Char} (h : Blanks w) : '\x7d' ∉ w := by
  intro hmem
  exact absurd (h _ hmem) (by decide)

theorem hasTakeover_iff_split : HasTakeover cs ↔ ∃ name ∈ ["receive", "fallback"], ∃ A H B W C D,
    IsHeader name H ∧ '\x7d' ∉ B ∧ Blanks W ∧ '\x7d' ∉ C ∧
      cs = A ++ H ++ B ++ "owner".toList ++ W ++ ['='] ++ C ++ ['\x7d'] ++ D := by
  constructor
  · rintro ⟨_, C, ⟨name, hname, A, H, D, hH, hbody, rfl⟩, B, W, hW, rfl⟩
    simp only [List.mem_append, List.mem_cons, not_or] at hbody
    obtain ⟨⟨⟨hB, -⟩, -⟩, -, hC⟩ := hbody
    exact ⟨name, hname, A, H, B, W, C, D, hH, hB, hW, hC, by simp⟩
  · rintro ⟨name, hname, A, H, B, W, C, D, hH, hB, hW, hC, rfl⟩
    have howner : '\x7d' ∉ "owner".toList := by decide
    -- neither the word, the blanks nor the sign close the body
    have hbody : '\x7d' ∉ B ++ "owner".toList ++ W ++ '=' :: C := by
      simp only [List.mem_append, List.mem_cons, not_or]
      exact ⟨⟨⟨hB, howner⟩, hW.brace_notMem⟩, by decide, hC⟩
    exact ⟨_, C, ⟨name, hname, A, H, D, hH, hbody, by simp⟩, B, W, hW, rfl⟩

theorem takeover_found_iff_splits (code : Bytes) (s : String) :
    ∃ found, dangerousReceive.finds code (.str s) = .ok found ∧ (found = true ↔
      s ≠ "" ∧ ("receive()".toList <:+: s.toList ∨ "fallback()".toList <:+: s.toList) ∧
      "owner =".toList <:+: s.toList ∧ "msg.sender".toList <:+: s.toList ∧
      ∃ name ∈ ["receive", "fallback"], ∃ A H B W C D,
        IsHeader name H ∧ '\x7d' ∉ B ∧ Blanks W ∧ '\x7d' ∉ C ∧
          s.toList = A ++ H ++ B ++ "owner".toList ++ W ++ ['='] ++ C ++ ['\x7d'] ++ D) := by
  obtain ⟨found, hfound, hiff⟩ := exists_finds code s
  refine ⟨found, hfound, hiff.trans ?_⟩
  rw [← hasTakeover_iff_split]
  constructor
  · rintro ⟨hworded, htakeover⟩
    have hne : s ≠ "" := fun h => hworded.ne_nil (String.toList_eq_nil_iff.2 h)
    exact ⟨hne, hworded.entry, hworded.change, hworded.sender, htakeover⟩
  · rintro ⟨-, hentry, hchange, hsender, htakeover⟩
    exact ⟨⟨hentry, hchange, hsender⟩, htakeover⟩

theorem takeover_words_decide (code : Bytes) (hsender : "msg.sender".toList <:+: s.toList) :
    (HasTakeover s.toList → ∃ found, dangerousReceive.finds code (.str s) = .ok found ∧ (found = true ↔
      ("receive()".toList <:+: s.toList ∨ "fallback()".toList <:+: s.toList) ∧
        "owner =".toList <:+: s.toList)) ∧
    ∀ name ∈ ["receive", "fallback"], ∀ A H B C D, IsHeader name H → (name ++ "()").toList <+: H →
      '\x7d' ∉ B → '\x7d' ∉ C → s.toList = A ++ H ++ B ++ "owner =".toList ++ C ++ ['\x7d'] ++ D →
        dangerousReceive.finds code (.str s) = .ok true := by
  constructor
  · intro htakeover
    obtain ⟨found, hfound, hiff⟩ := exists_finds code s
    refine ⟨found, hfound, hiff.trans ⟨fun h => ⟨h.1.entry, h.1.change⟩, fun h => ?_⟩⟩
    exact ⟨⟨h.1, h.2, hsender⟩, htakeover⟩
  · intro name hname A H B C D hH hplain hB hC hs
    have hentry : (name ++ "()").toList <:+: s.toList := by
      rw [hs]
      exact hplain.isInfix.trans ⟨A, B ++ "owner =".toList ++ C ++ ['\x7d'] ++ D, by simp⟩
    have hchange : "owner =".toList <:+: s.toList := ⟨A ++ H ++ B, C ++ ['\x7d'] ++ D, by simp [hs]⟩
    have htakeover : HasTakeover s.toList :=
      hasTakeover_iff_split.2 ⟨name, hname, A, H, B, [' '], C, D, hH, hB, blanks_space, hC, by simp [hs]⟩
    refine finds_eq_true_iff.2 ⟨⟨?_, hchange, hsender⟩, htakeover⟩
    rcases List.mem_pair.1 hname with rfl | rfl
    · exact .inl hentry
    · exact .inr hentry

def plainReceive : String := "receive() external payable \x7b owner = msg.sender; \x7d"

theorem takeover_words_decide_plainReceive :
    "msg.sender".toList <:+: plainReceive.toList ∧ HasTakeover plainReceive.toList ∧
    dangerousReceive.finds [] (.str plainReceive) = .ok true := by
  have hsender : "msg.sender".toList <:+: plainReceive.toList := by decide
  have htakeover : HasTakeover plainReceive.toList := hasTakeover_iff.2 (by decide +kernel)
  obtain ⟨found, hfound, hiff⟩ := (takeover_words_decide [] hsender).1 htakeover
  refine ⟨hsender, htakeover, ?_⟩
  rw [hfound, hiff.2 (by decide)]

def spacedReceive : String := "receive () external payable \x7b owner = msg.sender; \x7d"

def tightReceive : String := "receive() external payable \x7bowner=msg.sender;\x7d"

theorem takeover_unworded_unfound :
    ("msg.sender".toList <:+: spacedReceive.toList ∧ HasTakeover spacedReceive.toList ∧
      dangerousReceive.finds [] (.str spacedReceive) = .ok false) ∧
    "msg.sender".toList <:+: tightReceive.toList ∧ HasTakeover tightReceive.toList ∧
      dangerousReceive.finds [] (.str tightReceive) = .ok false :=
  ⟨⟨by decide, hasTakeover_iff.2 (by decide +kernel), rfl⟩, by decide, hasTakeover_iff.2 (by decide +kernel), rfl⟩

def SetsOwner (body : List Char) : Prop := ∃ rest, OwnerEquals body rest ∧ rest.head? ≠ some '='

def ComparesOwner (body : List Char) : Prop := ∃ rest, OwnerEquals body rest ∧ rest.head? = some '='

theorem setsOwner_or_comparesOwner_iff :
    SetsOwner body ∨ ComparesOwner body ↔ ∃ rest, OwnerEquals body rest := by
  rw [SetsOwner, ComparesOwner, ← exists_or]
  refine exists_congr fun rest => ?_
  rw [← and_or_left, and_iff_left (Decidable.em _).symm]

theorem hasTakeover_iff_sets_or_compares : HasTakeover cs ↔
    (∃ body, IsPayableBody cs body ∧ SetsOwner body) ∨ ∃ body, IsPayableBody cs body ∧ ComparesOwner body := by
  simp only [← exists_or, ← and_or_left, setsOwner_or_comparesOwner_iff, HasTakeover, exists_and_left]

def sequels (cs : List Char) : List (List Char) :=
  cs.tails.filterMap fun t => (after? "owner" t).bind fun u => after? "=" (skipBlanks u)

theorem exists_mem_sequels (hbody : IsPayableBody cs body) (hrest : OwnerEquals body rest) :
    ∃ after, rest ++ '\x7d' :: after ∈ sequels cs := by
  obtain ⟨name, -, A, H, after, -, -, rfl⟩ := hbody
  obtain ⟨B, w, hw, rfl⟩ := hrest
  have hequals {cs r} := @after?_skipBlanks_eq_some_iff "=" cs r (by decide)
  simp only [sequels, List.mem_filterMap, List.mem_tails, Option.bind_eq_some_iff, hequals,
    after?_eq_some_iff]
  have hsuffix : "owner".toList ++ (w ++ '=' :: (rest ++ '\x7d' :: after)) <:+
      A ++ H ++ (B ++ "owner".toList ++ w ++ '=' :: rest) ++ '\x7d' :: after :=
    ⟨A ++ H ++ B, by simp only [List.append_assoc, List.cons_append]⟩
  exact ⟨after, _, hsuffix, _, rfl, w, hw, rfl⟩

theorem head?_append_brace (rest after : List Char) :
    (rest ++ '\x7d' :: after).head? = some '=' ↔ rest.head? = some '=' := by
  cases rest with
  | nil => exact iff_of_false (fun h => absurd (Option.some.inj h) (by decide)) nofun
  | cons c rest => rfl

theorem not_comparesOwner_of_sequels (h : ∀ t ∈ sequels cs, t.head? ≠ some '=') (hbody : IsPayableBody cs body) :
    ¬ ComparesOwner body := by
  rintro ⟨rest, hrest, hhead⟩
  obtain ⟨after, hmem⟩ := exists_mem_sequels hbody hrest
  exact h _ hmem ((head?_append_brace rest after).2 hhead)

theorem not_setsOwner_of_sequels (h : ∀ t ∈ sequels cs, t.head? = some '=') (hbody : IsPayableBody cs body) :
    ¬ SetsOwner body := by
  rintro ⟨rest, hrest, hhead⟩
  obtain ⟨after, hmem⟩ := exists_mem_sequels hbody hrest
  exact hhead ((head?_append_brace rest after).1 (h _ hmem))

theorem takeover_sets_or_compares (code : Bytes) (s : String) :
    let found := dangerousReceive.finds code (.str s)
    let sets := ∃ body, IsPayableBody s.toList body ∧ SetsOwner body
    let compares := ∃ body, IsPayableBody s.toList body ∧ ComparesOwner body
    (found = .ok true ↔ Worded s.toList ∧ (sets ∨ compares)) ∧ (found = .ok true → ¬ compares → sets) := by
  intro found sets compares
  have hiff : found = .ok true ↔ Worded s.toList ∧ (sets ∨ compares) := by
    rw [← hasTakeover_iff_sets_or_compares]
    exact finds_eq_true_iff
  exact ⟨hiff, fun hfound hcompares => (hiff.1 hfound).2.resolve_right hcompares⟩

theorem takeover_sets_or_compares_plainReceive :
    dangerousReceive.finds [] (.str plainReceive) = .ok true ∧
    (¬ ∃ body, IsPayableBody plainReceive.toList body ∧ ComparesOwner body) ∧
    ∃ body, IsPayableBody plainReceive.toList body ∧ SetsOwner body := by
  have hfound : dangerousReceive.finds [] (.str plainReceive) = .ok true := rfl
  have hcompares : ¬ ∃ body, IsPayableBody plainReceive.toList body ∧ ComparesOwner body :=
    fun ⟨_, hbody, h⟩ => not_comparesOwner_of_sequels (by decide +kernel) hbody h
  exact ⟨hfound, hcompares, (takeover_sets_or_compares [] plainReceive).2 hfound hcompares⟩

def guardedReceive : String := "receive() external payable \x7b require(owner == msg.sender); \x7d"

theorem guardedReceive_found :
    dangerousReceive.finds [] (.str guardedReceive) = .ok true ∧
    ¬ ∃ body, IsPayableBody guardedReceive.toList body ∧ SetsOwner body :=
  ⟨rfl, fun ⟨_, hbody, h⟩ => not_setsOwner_of_sequels (by decide +kernel) hbody h⟩

end ChainRisk.Detector
