import ChainRisk.Proofs.ScoreOrder
import ChainRisk.Proofs.Takeovers

namespace ChainRisk.Detector

variable {name marker word : String} {cs ds body : List Char} {code code' : Bytes} {s s' : String}

theorem Worded.mono (h : Worded cs) (hcs : cs <:+: ds) : Worded ds where
  entry := h.entry.imp (·.trans hcs) (·.trans hcs)
  change := h.change.trans hcs
  sender := h.sender.trans hcs

theorem HasBody.mono (h : HasBody name cs body) (hcs : cs <:+: ds) : HasBody name ds body := by
  obtain ⟨before, header, after, hheader, hbody, rfl⟩ := h
  obtain ⟨u, v, rfl⟩ := hcs
  exact ⟨u ++ before, header, after ++ v, hheader, hbody, by simp⟩

theorem HasTakeover.mono (h : HasTakeover cs) (hcs : cs <:+: ds) : HasTakeover ds := by
  obtain ⟨body, rest, ⟨name, hname, hbody⟩, hrest⟩ := h
  exact ⟨body, rest, ⟨name, hname, hbody.mono hcs⟩, hrest⟩

structure Steady (d : Detector) (P : Bytes → List Char → Prop) : Prop where
  decides : ∀ code s, ∃ found, d.finds code (.str s) = .ok found ∧ (found = true ↔ P code s.toList)
  grows : ∀ {code code' : Bytes} {cs ds : List Char}, code <:+: code' → cs <:+: ds → P code cs → P code' ds

theorem steady_dangerousReceive : Steady dangerousReceive fun _ cs => Worded cs ∧ HasTakeover cs where
  decides := exists_finds
  grows _ hcs h := ⟨h.1.mono hcs, h.2.mono hcs⟩

structure Marked (marker word : String) (code : Bytes) (cs : List Char) : Prop where
  given : cs ≠ []
  marker : marker.toList <:+: Hex.ofBytes code
  word : word.toList <:+: cs

theorem exists_findsMarked (marker word : String) (code : Bytes) (s : String) :
    ∃ found, findsMarked marker word code (.str s) = .ok found ∧
      (found = true ↔ Marked marker word code s.toList) := by
  have hsome : (Json.str s).isSome = true ↔ s.toList ≠ [] := by simp [Json.isSome]
  rw [findsMarked, holdsMarker]
  split
  · next h =>
    rw [Bool.and_eq_true, hsome, Text.occursIn_iff] at h
    refine ⟨_, rfl, ?_⟩
    rw [Text.contains, Text.occursIn_iff]
    exact ⟨fun hword => ⟨h.1, h.2, hword⟩, Marked.word⟩
  · next h =>
    rw [Bool.and_eq_true, hsome, Text.occursIn_iff] at h
    exact ⟨false, rfl, iff_of_false Bool.false_ne_true fun hmarked => h ⟨hmarked.given, hmarked.marker⟩⟩

theorem Marked.mono (h : Marked marker word code cs) (hcode : code <:+: code') (hcs : cs <:+: ds) :
    Marked marker word code' ds where
  given := by
    rintro rfl
    exact h.given (List.infix_nil.1 hcs)
  marker := h.marker.trans (hcode.flatMap Hex.ofByte)
  word := h.word.trans hcs

theorem steady_of_marked {d : Detector} (h : d.finds = findsMarked marker word) :
    Steady d (Marked marker word) where
  decides code s := by
    rw [h]
    exact exists_findsMarked marker word code s
  grows hcode hcs hmarked := hmarked.mono hcode hcs

theorem exists_steady_of_mem_standard : ∀ d ∈ standard, ∃ P, Steady d P := by
  intro d hd
  simp only [standard, List.mem_cons, List.not_mem_nil, or_false] at hd
  rcases hd with rfl | rfl | rfl
  · exact ⟨_, steady_of_marked rfl⟩
  · exact ⟨_, steady_of_marked rfl⟩
  · exact ⟨_, steady_dangerousReceive⟩

theorem exists_sublist_scan {detectors : List Detector} (h : ∀ d ∈ detectors, ∃ P, Steady d P)
    (hcode : code <:+: code') (hs : s.toList <:+: s'.toList) :
    ∃ fs gs, scan code (.str s) detectors = .ok fs ∧ scan code' (.str s') detectors = .ok gs ∧
      fs.Sublist gs := by
  induction detectors with
  | nil => exact ⟨[], [], rfl, rfl, .slnil⟩
  | cons d detectors ih =>
    obtain ⟨fs, gs, hfs, hgs, hsublist⟩ := ih fun d hd => h d (List.mem_cons_of_mem _ hd)
    obtain ⟨P, hsteady⟩ := h d List.mem_cons_self
    obtain ⟨found, hfound, hiff⟩ := hsteady.decides code s
    obtain ⟨found', hfound', hiff'⟩ := hsteady.decides code' s'
    have hgrows : found = true → found' = true := fun hf => hiff'.2 (hsteady.grows hcode hs (hiff.1 hf))
    rw [scan, scan, hfound, hfound', hfs, hgs]
    refine ⟨_, _, rfl, rfl, ?_⟩
    cases found with
    | true =>
      rw [hgrows rfl]
      exact hsublist.cons_cons _
    | false =>
      cases found' with
      | true => exact hsublist.cons _
      | false => exact hsublist

theorem padding_hides_nothing (code p q : Bytes) (s u v : String) :
    ∃ fs gs, scan code (.str s) standard = .ok fs ∧ scan (p ++ code ++ q) (.str (u ++ s ++ v)) standard = .ok gs ∧
      fs.Sublist gs ∧ (fs.map (·.type)).Sublist (gs.map (·.type)) ∧
      ∀ verified proxy, Score.compute verified proxy gs ≤ Score.compute verified proxy fs := by
  have hcode : code <:+: p ++ code ++ q := ⟨p, q, rfl⟩
  have hs : s.toList <:+: (u ++ s ++ v).toList := by
    rw [String.toList_append, String.toList_append]
    exact ⟨u.toList, v.toList, rfl⟩
  obtain ⟨fs, gs, hfs, hgs, hsublist⟩ := exists_sublist_scan exists_steady_of_mem_standard hcode hs
  exact ⟨fs, gs, hfs, hgs, hsublist, hsublist.map _, fun verified proxy =>
    Score.compute_le_of_sublist verified proxy hsublist⟩

end ChainRisk.Detector
