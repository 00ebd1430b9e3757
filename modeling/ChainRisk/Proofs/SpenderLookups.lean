import ChainRisk.Proofs.DegradedCount
import Mathlib.Data.Finset.Card
import Mathlib.Data.List.Induction

namespace ChainRisk

def IsLast {α : Type} (p : α → Prop) (a : α) (l : List α) : Prop :=
  p a ∧ ∃ before after, l = before ++ a :: after ∧ ∀ b ∈ after, ¬ p b

section Last

variable {α β : Type} {p : α → Prop} {a b : α} {l : List α}

theorem getLast?_filter_eq_some_iff [DecidablePred p] : (l.filter p).getLast? = some a ↔ IsLast p a l := by
  rw [List.getLast?_filter, List.find?_eq_some_iff_append, IsLast, decide_eq_true_iff]
  refine and_congr_right fun _ => ?_
  constructor
  · rintro ⟨after, before, h, hafter⟩
    refine ⟨before.reverse, after.reverse, ?_, fun b hb => by simpa using hafter b (List.mem_reverse.1 hb)⟩
    rw [← List.reverse_reverse l, h]
    simp
  · rintro ⟨before, after, rfl, hafter⟩
    exact ⟨after.reverse, before.reverse, by simp, fun b hb => by simpa using hafter b (List.mem_reverse.1 hb)⟩

theorem IsLast.mem (h : IsLast p a l) : a ∈ l := by
  obtain ⟨-, before, after, rfl, -⟩ := h
  simp

theorem isLast_map_iff {q : β → Prop} {f : α → β} {b : β} :
    IsLast q b (l.map f) ↔ ∃ a, f a = b ∧ IsLast (fun a => q (f a)) a l := by
  constructor
  · rintro ⟨hb, before, after, hsplit, hafter⟩
    obtain ⟨l₁, l₂, rfl, rfl, h₂⟩ := List.map_eq_append_iff.1 hsplit
    obtain ⟨a, l₃, rfl, rfl, rfl⟩ := List.map_eq_cons_iff.1 h₂
    exact ⟨a, rfl, hb, l₁, l₃, rfl, fun c hc => hafter (f c) (List.mem_map_of_mem hc)⟩
  · rintro ⟨a, rfl, ha, before, after, rfl, hafter⟩
    refine ⟨ha, before.map f, after.map f, by simp, fun b hb => ?_⟩
    obtain ⟨c, hc, rfl⟩ := List.mem_map.1 hb
    exact hafter c hc

theorem length_eraseDups [DecidableEq α] (l : List α) : l.eraseDups.length = l.toFinset.card := by
  rw [← List.toFinset_card_of_nodup (nodup_eraseDups l)]
  congr 1
  ext a
  simp

theorem eraseDups_concat [BEq α] [LawfulBEq α] (l : List α) (a : α) :
    (l ++ [a]).eraseDups = if a ∈ l then l.eraseDups else l.eraseDups ++ [a] := by
  rw [List.eraseDups_append]
  split
  · next h => simp [List.removeAll, h]
  · next h => simp [List.removeAll, h, List.eraseDups_cons]

end Last

namespace Keyed

variable {α : Type} {l : List (String × α)} {e : String × α}

theorem ofList_concat (l : List (String × α)) (e : String × α) : ofList (l ++ [e]) = put e.1 e.2 (ofList l) := by
  simp [ofList]

theorem keys_ofList (l : List (String × α)) : keys (ofList l) = (l.map (·.1)).eraseDups := by
  induction l using List.reverseRecOn with
  | nil => rfl
  | append_singleton l e ih =>
    rw [ofList_concat, keys_put, ih, List.map_append, List.map_singleton, eraseDups_concat]
    simp only [List.mem_eraseDups]

theorem get?_ofList (l : List (String × α)) (key : String) :
    get? key (ofList l) = (l.filter (·.1 = key)).getLast?.map (·.2) := by
  induction l using List.reverseRecOn with
  | nil => rfl
  | append_singleton l e ih =>
    rw [ofList_concat, get?_put, ih, List.filter_append]
    by_cases h : key = e.1
    · simp [h]
    · simp [h, Ne.symm h]

theorem get?_of_mem {l : Keyed α} (h : (keys l).Nodup) (he : e ∈ l) : get? e.1 l = some e.2 := by
  induction l with
  | nil => cases he
  | cons f l ih =>
    obtain ⟨k, v⟩ := f
    obtain ⟨hk, hnodup⟩ := List.nodup_cons.1 h
    rw [get?_cons]
    rcases List.mem_cons.1 he with rfl | he
    · exact if_pos rfl
    · rw [if_neg, ih hnodup he]
      exact fun heq => hk (List.mem_map.2 ⟨e, he, heq⟩)

end Keyed

structure SpenderDetails.Tells (address : String) (d : SpenderDetails) (s : Spender) : Prop where
  address : s.address = .str address
  name : d.name = some s.name
  protocol : d.protocol = some s.protocol
  risk : s.risk = d.risk.getD (.str "Unknown")

def SpenderDetails.told (address : String) (d : SpenderDetails) : Spender :=
  ⟨.str address, d.name.getD .null, d.protocol.getD .null, d.risk.getD (.str Spender.unknownRisk)⟩

theorem SpenderDetails.Tells.eq_told {address : String} {d : SpenderDetails} {s : Spender}
    (h : d.Tells address s) : s = d.told address := by
  obtain ⟨address', name, protocol, risk⟩ := s
  obtain ⟨haddress, hname, hprotocol, hrisk⟩ := h
  rw [told, hname, hprotocol, ← haddress, show Json.str Spender.unknownRisk = .str "Unknown" from rfl, ← hrisk]
  rfl

theorem SpenderDetails.spender_eq_ok_iff {address : String} {d : SpenderDetails} {s : Spender} :
    d.spender address = .ok s ↔ d.Tells address s := by
  constructor
  · intro h
    unfold spender at h
    split at h
    · next name protocol hname hprotocol =>
      cases h
      exact ⟨rfl, hname, hprotocol, rfl⟩
    · cases h
  · intro h
    rw [h.eq_told, spender, told, h.name, h.protocol]
    rfl

namespace SpenderTable

def Names (entries : List (String × SpenderDetails)) (a : String) : Prop :=
  ∃ e ∈ entries, Text.lower e.1 = Text.lower a

variable {entries : List (String × SpenderDetails)} {t : SpenderTable} {a : String}

theorem enter_eq_ok_iff {k k' : Keyed Spender} {e : String × SpenderDetails} :
    enter k e = .ok k' ↔ (∃ s, e.2.Tells e.1 s) ∧ k' = Keyed.put (Text.lower e.1) (e.2.told e.1) k := by
  rw [enter, Attempt.map_eq_ok_iff]
  constructor
  · rintro ⟨s, hs, rfl⟩
    have htells := SpenderDetails.spender_eq_ok_iff.1 hs
    exact ⟨⟨s, htells⟩, by rw [htells.eq_told]⟩
  · rintro ⟨⟨s, hs⟩, rfl⟩
    exact ⟨s, SpenderDetails.spender_eq_ok_iff.2 hs, by rw [hs.eq_told]⟩

theorem foldlM_enter {k k' : Keyed Spender} : entries.foldlM enter k = .ok k' ↔
    (∀ e ∈ entries, ∃ s, e.2.Tells e.1 s) ∧
      k' = entries.foldl (fun k e => Keyed.put (Text.lower e.1) (e.2.told e.1) k) k := by
  induction entries generalizing k with
  | nil =>
    rw [List.foldlM_nil]
    exact ⟨fun h => ⟨nofun, (Except.ok.inj h).symm⟩, fun h => congrArg Except.ok h.2.symm⟩
  | cons e entries ih =>
    rw [List.foldlM_cons, List.foldl_cons, List.forall_mem_cons]
    constructor
    · intro h
      obtain ⟨k₁, hfirst, hrest⟩ := Attempt.bind_eq_ok_iff.1 h
      obtain ⟨htells, rfl⟩ := enter_eq_ok_iff.1 hfirst
      obtain ⟨hlater, hk⟩ := ih.1 hrest
      exact ⟨⟨htells, hlater⟩, hk⟩
    · rintro ⟨⟨htells, hlater⟩, hk⟩
      exact Attempt.bind_eq_ok_iff.2 ⟨_, enter_eq_ok_iff.2 ⟨htells, rfl⟩, ih.2 ⟨hlater, hk⟩⟩

theorem ofEntries_eq_ok_iff : ofEntries entries = .ok t ↔
    (∀ e ∈ entries, ∃ s, e.2.Tells e.1 s) ∧ t = ofList (entries.map fun e => e.2.told e.1) := by
  have hlist : ofList (entries.map fun e => e.2.told e.1) =
      ⟨entries.foldl (fun k e => Keyed.put (Text.lower e.1) (e.2.told e.1) k) []⟩ := by
    rw [ofList, Keyed.ofList, List.map_map, List.foldl_map]
    rfl
  rw [ofEntries, Attempt.map_eq_ok_iff, hlist]
  constructor
  · rintro ⟨k, hk, rfl⟩
    obtain ⟨htells, rfl⟩ := foldlM_enter.1 hk
    exact ⟨htells, rfl⟩
  · rintro ⟨htells, rfl⟩
    exact ⟨_, foldlM_enter.2 ⟨htells, rfl⟩, rfl⟩

theorem exists_ofEntries_iff : (∃ t, ofEntries entries = .ok t) ↔ ∀ e ∈ entries, ∃ s, e.2.Tells e.1 s := by
  simp only [ofEntries_eq_ok_iff, exists_and_left, exists_eq, and_true]

theorem entries_of_ofEntries (h : ofEntries entries = .ok t) :
    t.entries = Keyed.ofList (entries.map fun e => (Text.lower e.1, e.2.told e.1)) := by
  rw [(ofEntries_eq_ok_iff.1 h).2, ofList, List.map_map]
  rfl

theorem get?_eq_some_iff (h : ofEntries entries = .ok t) {s : Spender} : t.get? a = some s ↔
    ∃ e, IsLast (fun e => Text.lower e.1 = Text.lower a) e entries ∧ e.2.Tells e.1 s := by
  have htold {e : String × SpenderDetails} (he : e ∈ entries) : e.2.Tells e.1 (e.2.told e.1) := by
    obtain ⟨s, hs⟩ := (ofEntries_eq_ok_iff.1 h).1 e he
    exact hs.eq_told ▸ hs
  rw [get?, entries_of_ofEntries h, Keyed.get?_ofList, Option.map_eq_some_iff]
  constructor
  · rintro ⟨x, hx, rfl⟩
    obtain ⟨e, rfl, he⟩ := isLast_map_iff.1 (getLast?_filter_eq_some_iff.1 hx)
    exact ⟨e, he, htold he.mem⟩
  · rintro ⟨e, he, htells⟩
    refine ⟨(Text.lower e.1, e.2.told e.1), getLast?_filter_eq_some_iff.2 ?_, htells.eq_told.symm⟩
    exact isLast_map_iff.2 ⟨e, rfl, he⟩

theorem keys_of_ofEntries (h : ofEntries entries = .ok t) :
    t.keys = (entries.map fun e => Text.lower e.1).eraseDups := by
  rw [keys, entries_of_ofEntries h, Keyed.keys_ofList, List.map_map]
  rfl

theorem get?_eq_none_iff (h : ofEntries entries = .ok t) : t.get? a = none ↔ ¬ Names entries a := by
  rw [get?, Keyed.get?_eq_none_iff]
  change ¬ Text.lower a ∈ t.keys ↔ _
  rw [keys_of_ofEntries h, List.mem_eraseDups, List.mem_map]
  rfl

theorem addresses_classified (spenders : List Spender) : (ofList spenders).addresses.map (ofList spenders).classify =
    (ofList spenders).entries.map (·.2) := by
  obtain ⟨hnodup, hmem⟩ := Keyed.ofList_spec (spenders.map fun s => (Text.lower s.addressText, s))
  rw [addresses, List.map_map]
  refine List.map_congr_left fun e he => ?_
  have hkey : Text.lower e.2.addressText = e.1 := by
    obtain ⟨s, -, rfl⟩ := List.mem_map.1 (hmem e he)
    rfl
  rw [Function.comp_apply, classify, get?, hkey, ofList, Keyed.get?_of_mem hnodup he]
  rfl

/-- All ways of looking an address up go by the entries that a table was made from. -/
structure Agrees (entries : List (String × SpenderDetails)) (t : SpenderTable) : Prop where
  contains : ∀ a, t.contains (.str a) = true ↔ Names entries a
  get : ∀ a, (∃ s, t.get a = .ok s) ↔ Names entries a
  get? : ∀ a, t.get? a ≠ none ↔ Names entries a
  known : ∀ a, Names entries a → ∃ e s, IsLast (fun e => Text.lower e.1 = Text.lower a) e entries ∧
    e.2.Tells e.1 s ∧ t.get a = .ok s ∧ t.get? a = some s ∧ t.classify a = s
  unknown : ∀ a, ¬ Names entries a →
    t.classify a = ⟨.str a, .str "Unknown Protocol", .str "Unknown", .str "Unknown"⟩
  size : t.size = (entries.map fun e => Text.lower e.1).toFinset.card
  keys : t.keys = (entries.map fun e => Text.lower e.1).eraseDups
  aligned : t.addresses.map Text.lower = t.keys
  own : t.addresses.map t.classify = t.entries.map (·.2)

theorem agrees_of_ofEntries (h : ofEntries entries = .ok t) : Agrees entries t := by
  have hnone (a : String) : t.get? a = none ↔ ¬ Names entries a := get?_eq_none_iff h
  have hsome (a : String) : (∃ s, t.get? a = some s) ↔ Names entries a := by
    rw [← Option.ne_none_iff_exists', ne_eq, hnone, not_not]
  have hget {a : String} {s : Spender} (hs : t.get? a = some s) : t.get a = .ok s := by rw [SpenderTable.get, hs]
  have htable := (ofEntries_eq_ok_iff.1 h).2
  refine ⟨fun a => ?_, fun a => ?_, fun a => ?_, fun a ha => ?_, fun a ha => ?_, ?_, keys_of_ofEntries h, ?_, ?_⟩
  · rw [← hsome]
    exact Option.isSome_iff_exists
  · rw [← hsome]
    constructor
    · rintro ⟨s, hs⟩
      unfold SpenderTable.get at hs
      split at hs
      · next s' hs' => exact ⟨s', hs'⟩
      · cases hs
    · rintro ⟨s, hs⟩
      exact ⟨s, hget hs⟩
  · rw [← hsome, Option.ne_none_iff_exists']
  · obtain ⟨s, hs⟩ := (hsome a).2 ha
    obtain ⟨e, hlast, htells⟩ := (get?_eq_some_iff h).1 hs
    exact ⟨e, s, hlast, htells, hget hs, hs, by rw [classify, hs, Option.getD_some]⟩
  · rw [classify, (hnone a).2 ha]
    rfl
  · have hlength : t.size = t.keys.length := (List.length_map _).symm
    rw [hlength, keys_of_ofEntries h, length_eraseDups]
  · rw [htable]
    exact addresses_map_lower _
  · rw [htable]
    exact addresses_classified _

theorem ofEntries_coherent (entries : List (String × SpenderDetails)) :
    ((∃ t, ofEntries entries = .ok t) ↔ ∀ e ∈ entries, ∃ s, e.2.Tells e.1 s) ∧
    ∀ t, ofEntries entries = .ok t → Agrees entries t ∧
      ∀ (world : Script) (survey : Survey) (json : Json) (owner : Address) (m : Moment) (d : Desk) report,
        survey.spenders = t → Address.require json = .ok owner →
        (Work.allowances world survey json ⟨m, none⟩ d).1.result = .ok report →
        ∀ x ∈ report.allowances, ∃ token a s, Address.ofText? token = some a ∧ x.token = .str token ∧
          x.spender = .str s ∧ x.info = t.classify s ∧
          (world.LogsFail d.view owner a → s ∈ t.addresses) := by
  refine ⟨exists_ofEntries_iff, fun t h => ⟨agrees_of_ofEntries h, ?_⟩⟩
  intro world survey json owner m d report hspenders howner hreport x hx
  have htable := hspenders.trans (ofEntries_eq_ok_iff.1 h).2
  obtain ⟨owner', payload, howner', -, hsurveyed⟩ := Work.surveyed_of_allowances htable hreport
  cases howner.symm.trans howner'
  obtain ⟨token, -, a, ha, s, hs, htoken, hspender, hinfo⟩ := hsurveyed.classified x hx
  rw [hspenders] at hs hinfo
  refine ⟨token, a, s, ha, htoken, hspender, hinfo, fun hlogs => ?_⟩
  rwa [Script.spendersOf, Script.logsFail_iff.1 hlogs] at hs

example : (ofEntries [("0xAb", ⟨some (.str "A"), some (.str "P"), none⟩),
    ("0xaB", ⟨some (.str "B"), some (.str "P"), none⟩)]).map (·.classify "0xAB") =
      .ok (.ofTexts "0xaB" "B" "P" "Unknown") := rfl

def knownEntries : List (String × SpenderDetails) :=
  [(Address.zeroText, ⟨some (.str ""), some (.str ""), some (.str "")⟩),
    ("0xbad", ⟨some (.str ""), some (.str ""), some (.str "")⟩)]

theorem ofEntries_coherent_unloggedWorld :
    ofEntries knownEntries = .ok Work.cappedSurvey.spenders ∧ Work.cappedSurvey.spenders.size = 2 ∧
    ∃ report, (Work.allowances Work.unloggedWorld Work.cappedSurvey (.str Address.zeroText)
        ⟨.ofInstant .start, none⟩ .idle).1.result = .ok report ∧ report.allowances.length = 1 ∧
      ∀ x ∈ report.allowances, ∃ s ∈ Work.cappedSurvey.spenders.addresses, x.spender = .str s ∧
        x.info = Work.cappedSurvey.spenders.classify s := by
  have htable : ofEntries knownEntries = .ok Work.cappedSurvey.spenders := rfl
  have howner : Address.require (.str Address.zeroText) = .ok .zero := rfl
  have hrun : (Work.allowances Work.unloggedWorld Work.cappedSurvey (.str Address.zeroText)
      ⟨.ofInstant .start, none⟩ .idle).1.result.toOption.map (·.allowances.length) = some 1 := by
    delta Work.allowances Work.surveyed Work.transferHistory Work.ofToken Work.discovered Work.spenders
      Work.allowance
    simp only [Work.address_text]
    decide +kernel
  obtain ⟨report, hreport, hlength⟩ := Option.map_eq_some_iff.1 hrun
  have hreport := Attempt.eq_ok_of_toOption hreport
  obtain ⟨hagrees, hinfos⟩ := (ofEntries_coherent knownEntries).2 _ htable
  refine ⟨htable, ?_, report, hreport, hlength, fun x hx => ?_⟩
  · rw [hagrees.size]
    decide +kernel
  · obtain ⟨token, a, s, -, -, hspender, hinfo, hfallback⟩ :=
      hinfos Work.unloggedWorld Work.cappedSurvey _ .zero _ _ report rfl howner hreport x hx
    refine ⟨s, hfallback fun fromBlock logs hlogs => ?_, hspender, hinfo⟩
    have hreply := hlogs.2
    change (Entry.pick _ [_] _).reply = _ at hreply
    rw [Entry.pick_singleton] at hreply
    cases hreply

end SpenderTable

end ChainRisk
