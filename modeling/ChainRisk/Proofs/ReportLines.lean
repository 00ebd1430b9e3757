import Mathlib.Data.List.Flatten
import ChainRisk.Proofs.AmountDigits
import ChainRisk.Proofs.Candidates
import ChainRisk.Proofs.Lines

namespace ChainRisk

open Text (Leads Unbroken firstLine laterLines linesLed)

section

variable {α β : Type} {l : List α} {f : α → β} {e : α → List β}

theorem map_sublist_flatMap (h : ∀ a ∈ l, [f a].Sublist (e a)) : (l.map f).Sublist (l.flatMap e) := by
  rw [List.map_eq_flatMap]
  exact List.Sublist.flatMap_right l h

theorem append_eq_append_iff_of_sublist {as bs cs ds : List β} (h : cs.Sublist as) (h' : ds.Sublist bs) :
    as ++ bs = cs ++ ds ↔ as = cs ∧ bs = ds := by
  constructor
  · intro heq
    have hlength := congrArg List.length heq
    rw [List.length_append, List.length_append] at hlength
    have hle := h.length_le
    have hle' := h'.length_le
    exact ⟨(h.eq_of_length (by omega)).symm, (h'.eq_of_length (by omega)).symm⟩
  · rintro ⟨rfl, rfl⟩
    rfl

theorem flatMap_eq_map_iff (h : ∀ a ∈ l, [f a].Sublist (e a)) :
    l.flatMap e = l.map f ↔ ∀ a ∈ l, e a = [f a] := by
  induction l with
  | nil => simp
  | cons a l ih =>
    have hrest := fun b hb => h b (List.mem_cons_of_mem a hb)
    rw [List.flatMap_cons, List.map_cons, ← List.singleton_append,
      append_eq_append_iff_of_sublist (h a List.mem_cons_self) (map_sublist_flatMap hrest), ih hrest,
      List.forall_mem_cons]

end

def Among {β : Type} (x : β) (loose l : List β) : Prop :=
  ∃ before after, loose = before ++ after ∧ l = before ++ x :: after

theorem Among.sublist {β : Type} {x : β} {loose l : List β} (h : Among x loose l) : [x].Sublist l := by
  obtain ⟨before, after, -, rfl⟩ := h
  exact List.singleton_sublist.2 (by simp)

theorem Among.eq_singleton_iff {β : Type} {x : β} {loose l : List β} (h : Among x loose l) :
    l = [x] ↔ loose = [] := by
  obtain ⟨before, after, rfl, rfl⟩ := h
  simp [List.append_eq_singleton_iff]

theorem Numeral.Digits.break_notMem {cs : List Char} (h : Digits cs) : '\n' ∉ cs :=
  fun hmem => absurd (h _ hmem) (by decide)

theorem Numeral.unbroken_ofNat (n : Nat) : Unbroken (ofNat n) := by
  rw [Unbroken, ofNat, String.toList_ofList]
  exact Digits.break_notMem fun _ => isDigit_of_mem_digits

theorem Amount.unbroken_of_renders {n places : Nat} {t : String} (h : Renders n places t) : Unbroken t := by
  obtain ⟨⟨whole, fraction, rfl, hwhole, hfraction⟩, -⟩ := h
  rw [Unbroken, String.toList_ofList, List.mem_append, List.mem_cons, not_or, not_or]
  exact ⟨hwhole.digits.break_notMem, by decide, hfraction.digits.break_notMem⟩

theorem Amount.unbroken_of_text {room : Nat} {given decimals : Json} {t : String}
    (h : text room given decimals = .ok t) : Unbroken t := by
  obtain ⟨n, hn, h⟩ := Attempt.bind_eq_ok_iff.1 h
  by_cases hunlimited : isUnlimited n = true
  · rw [if_pos hunlimited] at h
    cases h
    decide +kernel
  · rw [if_neg hunlimited] at h
    obtain ⟨m, hm, h⟩ := Attempt.bind_eq_ok_iff.1 h
    by_cases hneg : m < 0
    · rw [if_pos hneg] at h
      cases h
    · rw [if_neg hneg] at h
      obtain ⟨k, -, h⟩ := Attempt.bind_eq_ok_iff.1 h
      obtain ⟨-, -, h⟩ := Attempt.bind_eq_ok_iff.1 h
      cases h
      exact unbroken_of_renders (renders_pointed _ _)

namespace Allowance

variable {a : Allowance} {amount lead label : String}

def spenderLead : String := "- Spender: "

def protocolLead : String := "- Protocol: "

def amountLead : String := "- Amount: "

def riskLead : String := "- Risk Level: "

def leads : List String := [spenderLead, protocolLead, amountLead, riskLead]

def title (a : Allowance) : String :=
  (a.symbol.orElse (.str "Token")).shown ++ " (" ++ (a.name.orElse (.str "Unknown")).shown ++ "):"

def spenderText (a : Allowance) : String := (if a.info.isKnown then a.info.name else a.spender).shown

def protocolText (a : Allowance) : String :=
  if a.info.isKnown then a.info.protocol.shown else Spender.unknownProtocol

def entry (a : Allowance) (amount : String) : List String :=
  [a.title, spenderLead ++ a.spenderText, protocolLead ++ a.protocolText, amountLead ++ amount] ++
    (if a.info.isKnown then [riskLead ++ a.info.risk.shown] else []) ++ [""]

def spenderLine (a : Allowance) : String := spenderLead ++ firstLine a.spenderText

def looseLines (a : Allowance) : List String :=
  Text.lines a.title ++ laterLines a.spenderText ++ laterLines a.protocolText ++
    (if a.info.isKnown then laterLines a.info.risk.shown else [])

theorem spenderLead_mem_leads : spenderLead ∈ leads := List.mem_cons_self

theorem amountLead_mem_leads : amountLead ∈ leads := by simp [leads]

theorem reportLines_eq (room : Nat) (a : Allowance) : a.reportLines room = (a.amountText room).map a.entry := by
  unfold reportLines
  cases a.amountText room <;> rfl

theorem mapM_reportLines (room : Nat) (l : List Allowance) : l.mapM (reportLines room) =
    (l.mapM (amountText room)).map fun amounts => (l.zip amounts).map fun p => p.1.entry p.2 := by
  induction l with
  | nil => rfl
  | cons a l ih =>
    rw [List.mapM_cons, List.mapM_cons, ih, reportLines_eq]
    cases a.amountText room with
    | error e => rfl
    | ok amount => cases l.mapM (amountText room) <;> rfl

theorem linesLed_label (hlead : lead ∈ leads) (hlabel : label ∈ leads) (s : String) : linesLed lead (label ++ s) =
    (if label = lead then [label ++ firstLine s] else []) ++
      (laterLines s).filter fun line => Leads lead line := by
  have hunbroken : ∀ x ∈ leads, Unbroken x := by decide +kernel
  have hapart : ∀ x ∈ leads, ∀ y ∈ leads, y ≠ x → ¬ Leads x y := by decide +kernel
  by_cases heq : label = lead
  · rw [if_pos heq, heq, Text.linesLed_labelled_self (hunbroken lead hlead)]
    rfl
  · have hnot := Text.not_leads_append (hapart lead hlead label hlabel heq)
      (hapart label hlabel lead hlead (Ne.symm heq))
    rw [if_neg heq, Text.linesLed_labelled (hunbroken label hlabel) hnot]
    rfl

theorem linesLed_entry (hlead : lead ∈ leads) (h : Unbroken amount) : (a.entry amount).flatMap (linesLed lead) =
    (Text.lines a.title).filter (fun line => Leads lead line) ++
    ((if spenderLead = lead then [a.spenderLine] else []) ++
      (laterLines a.spenderText).filter fun line => Leads lead line) ++
    ((if protocolLead = lead then [protocolLead ++ firstLine a.protocolText] else []) ++
      (laterLines a.protocolText).filter fun line => Leads lead line) ++
    (if amountLead = lead then [amountLead ++ amount] else []) ++
    (if a.info.isKnown then (if riskLead = lead then [riskLead ++ firstLine a.info.risk.shown] else []) ++
      (laterLines a.info.risk.shown).filter fun line => Leads lead line else []) := by
  have hmem : spenderLead ∈ leads ∧ protocolLead ∈ leads ∧ amountLead ∈ leads ∧ riskLead ∈ leads := by
    decide +kernel
  have hblank : ∀ x ∈ leads, linesLed x "" = [] := by decide +kernel
  have hamount : firstLine amount = amount ∧ laterLines amount = [] := by
    rw [firstLine, laterLines, Text.lines_of_unbroken h]
    exact ⟨rfl, rfl⟩
  have htitle : linesLed lead a.title = (Text.lines a.title).filter fun line => Leads lead line := rfl
  cases hknown : a.info.isKnown <;>
    simp [entry, hknown, linesLed_label hlead, hmem, hblank lead hlead, hamount, htitle, spenderLine]

theorem among_amount (h : Unbroken amount) :
    Among (amountLead ++ amount) (a.looseLines.filter fun line => Leads amountLead line)
      ((a.entry amount).flatMap (linesLed amountLead)) := by
  have hne : spenderLead ≠ amountLead ∧ protocolLead ≠ amountLead ∧ riskLead ≠ amountLead := by decide +kernel
  -- only the loose lines of a risk come after the amount
  refine ⟨_, _, List.filter_append _ _, ?_⟩
  rw [linesLed_entry amountLead_mem_leads h]
  cases a.info.isKnown <;> simp [hne]

theorem among_spender (h : Unbroken amount) :
    Among a.spenderLine (a.looseLines.filter fun line => Leads spenderLead line)
      ((a.entry amount).flatMap (linesLed spenderLead)) := by
  have hne : protocolLead ≠ spenderLead ∧ amountLead ≠ spenderLead ∧ riskLead ≠ spenderLead := by decide +kernel
  -- only the lines of the title come before the spender
  rw [looseLines, List.append_assoc, List.append_assoc]
  refine ⟨_, _, List.filter_append _ _, ?_⟩
  rw [linesLed_entry spenderLead_mem_leads h]
  cases a.info.isKnown <;> simp [hne]

end Allowance

namespace AllowanceReport

open Allowance (amountLead spenderLead)

variable {room : Nat} {r : AllowanceReport} {amounts : List String} {lead : String}

def header (r : AllowanceReport) : String :=
  "Found " ++ Numeral.ofNat r.allowances.length ++ " token allowances for " ++ (r.address.shown ++ ":")

def looseLines (r : AllowanceReport) : List String :=
  laterLines (r.address.shown ++ ":") ++ r.allowances.flatMap Allowance.looseLines

def written (r : AllowanceReport) (amounts : List String) : String :=
  "\n".intercalate (r.header :: "" :: (r.allowances.zip amounts).flatMap fun p => p.1.entry p.2) ++ "\n"

/-- Of the lines that begin alike these are some, and they are all exactly when no loose line begins so. -/
structure Shows (lead : String) (own loose : List String) (t : String) : Prop where
  sublist : own.Sublist (linesLed lead t)
  eq_iff : linesLed lead t = own ↔ ∀ line ∈ loose, ¬ Leads lead line

theorem text_eq (hne : r.allowances ≠ []) :
    r.text room = (r.allowances.mapM (Allowance.amountText room)).map r.written := by
  have hempty : r.allowances.isEmpty = false := by simpa using hne
  rw [text, hempty, if_neg Bool.false_ne_true, Allowance.mapM_reportLines]
  cases r.allowances.mapM (Allowance.amountText room) with
  | error e => rfl
  | ok amounts =>
    change Except.ok _ = Except.ok _
    simp only [written, header, List.flatMap_def, List.cons_append, List.nil_append, String.append_assoc]

theorem unbroken_label (n : Nat) : Unbroken ("Found " ++ Numeral.ofNat n ++ " token allowances for ") := by
  have hwords : Unbroken "Found " ∧ Unbroken " token allowances for " := by decide +kernel
  have hnumber := Numeral.unbroken_ofNat n
  simp only [Unbroken, String.toList_append, List.mem_append] at hwords hnumber ⊢
  rintro ((h | h) | h)
  · exact hwords.1 h
  · exact hnumber h
  · exact hwords.2 h

theorem linesLed_header (hlead : lead ∈ Allowance.leads) :
    linesLed lead r.header = (laterLines (r.address.shown ++ ":")).filter fun line => Leads lead line := by
  have hapart : ∀ x ∈ Allowance.leads, ¬ Leads x "Found " ∧ ¬ Leads "Found " x := by decide +kernel
  refine Text.linesLed_labelled (unbroken_label _) (fun t => ?_) _
  rw [String.append_assoc, String.append_assoc]
  exact Text.not_leads_append (hapart lead hlead).1 (hapart lead hlead).2 _

theorem linesLed_written (hlead : lead ∈ Allowance.leads) : linesLed lead (r.written amounts) =
    (laterLines (r.address.shown ++ ":")).filter (fun line => Leads lead line) ++
      (r.allowances.zip amounts).flatMap fun p => (p.1.entry p.2).flatMap (linesLed lead) := by
  have hblank : ∀ x ∈ Allowance.leads, linesLed x "" = [] := by decide +kernel
  have hcut : ∀ ls : List String, ls ≠ [] →
      linesLed lead ("\n".intercalate ls ++ "\n") = ls.flatMap (linesLed lead) := by
    intro ls hls
    have hlines := Text.lines_append_break ("\n".intercalate ls) ""
    rw [String.append_empty, Text.lines_joined hls] at hlines
    rw [linesLed, hlines, List.filter_append, List.filter_flatMap]
    change _ ++ linesLed lead "" = _
    rw [hblank lead hlead, List.append_nil]
    rfl
  rw [written, hcut _ (List.cons_ne_nil _ _), List.flatMap_cons, List.flatMap_cons, linesLed_header hlead,
    hblank lead hlead, List.nil_append, List.flatMap_assoc]

theorem shows_written {line : Allowance × String → String} (hlead : lead ∈ Allowance.leads)
    (hlength : amounts.length = r.allowances.length)
    (h : ∀ p ∈ r.allowances.zip amounts, Among (line p) (p.1.looseLines.filter fun line => Leads lead line)
      ((p.1.entry p.2).flatMap (linesLed lead))) :
    Shows lead ((r.allowances.zip amounts).map line) r.looseLines (r.written amounts) := by
  have hsub := fun p hp => (h p hp).sublist
  have hall := map_sublist_flatMap hsub
  have hfst : (r.allowances.zip amounts).map Prod.fst = r.allowances := List.map_fst_zip hlength.ge
  have hloose : (∀ line ∈ r.allowances.flatMap Allowance.looseLines, ¬ Leads lead line) ↔
      ∀ p ∈ r.allowances.zip amounts, p.1.looseLines.filter (fun line => Leads lead line) = [] := by
    have hnone : (∀ line ∈ r.allowances.flatMap Allowance.looseLines, ¬ Leads lead line) ↔
        (r.allowances.flatMap Allowance.looseLines).filter (fun line => Leads lead line) = [] := by
      simp [List.filter_eq_nil_iff]
    conv_lhs => rw [hnone, ← hfst, List.flatMap_map, List.filter_flatMap, List.flatMap_eq_nil_iff]
  constructor
  · rw [linesLed_written hlead]
    exact hall.trans (List.sublist_append_right _ _)
  · rw [linesLed_written hlead, looseLines, List.forall_mem_append, hloose, ← List.nil_append (List.map _ _),
      append_eq_append_iff_of_sublist (List.nil_sublist _) hall, flatMap_eq_map_iff hsub]
    refine and_congr (by simp) (forall₂_congr fun p hp => (h p hp).eq_singleton_iff)

theorem shows_of_mapM (hamounts : r.allowances.mapM (Allowance.amountText room) = .ok amounts) :
    Shows amountLead (amounts.map (amountLead ++ ·)) r.looseLines (r.written amounts) ∧
    Shows spenderLead (r.allowances.map Allowance.spenderLine) r.looseLines (r.written amounts) := by
  obtain ⟨hlength, hzip⟩ := Attempt.zip_of_mapM hamounts
  have hunbroken := fun p hp => Amount.unbroken_of_text (hzip p hp)
  have hlines : amounts.map (amountLead ++ ·) = (r.allowances.zip amounts).map fun p => amountLead ++ p.2 := by
    conv_lhs => rw [← List.map_snd_zip hlength.le, List.map_map]
    rfl
  have hspenders : r.allowances.map Allowance.spenderLine =
      (r.allowances.zip amounts).map fun p => p.1.spenderLine := by
    conv_lhs => rw [← List.map_fst_zip hlength.ge, List.map_map]
    rfl
  constructor
  · rw [hlines]
    exact shows_written Allowance.amountLead_mem_leads hlength fun p hp => Allowance.among_amount (hunbroken p hp)
  · rw [hspenders]
    exact shows_written Allowance.spenderLead_mem_leads hlength fun p hp => Allowance.among_spender (hunbroken p hp)

theorem text_shows_lines (room : Nat) (hne : r.allowances ≠ []) :
    match r.allowances.mapM (Allowance.amountText room) with
    | .error e => r.text room = .error e
    | .ok amounts => ∃ t, r.text room = .ok t ∧
        Shows amountLead (amounts.map (amountLead ++ ·)) r.looseLines t ∧
        Shows spenderLead (r.allowances.map Allowance.spenderLine) r.looseLines t := by
  rw [text_eq hne]
  cases hamounts : r.allowances.mapM (Allowance.amountText room) with
  | error e => rfl
  | ok amounts => exact ⟨r.written amounts, rfl, shows_of_mapM hamounts⟩

def unlisted : String := "0x5e00000000000000000000000000000000000000"

def coinGrant (symbol : String) : Allowance where
  token := .str "0xc000000000000000000000000000000000000000"
  spender := .str unlisted
  amount := "2500000"
  symbol := .str symbol
  name := .str "Coin"
  decimals := .int 6
  info := .unknown (.str unlisted)

def coinReport (symbol : String) : AllowanceReport where
  address := .str "0x0000000000000000000000000000000000000000"
  allowances := [coinGrant symbol]
  timestamp := .int 1
  chainId := .int 1

theorem text_shows_lines_coinReport : (coinReport "C").allowances ≠ [] ∧
    ∃ t, (coinReport "C").text Amount.longestText = .ok t ∧ linesLed amountLead t = ["- Amount: 2.5"] ∧
      linesLed spenderLead t = [spenderLead ++ unlisted] := by
  have hne : (coinReport "C").allowances ≠ [] := List.cons_ne_nil _ _
  obtain ⟨t, ht, hamount, hspender⟩ := text_shows_lines Amount.longestText hne
  refine ⟨hne, t, ht, ?_, ?_⟩
  · rw [hamount.eq_iff.2 (by decide +kernel)]
    decide +kernel
  · rw [hspender.eq_iff.2 (by decide +kernel)]
    decide +kernel

theorem text_forged : (coinReport "C\n- Amount: 0.0\nC").allowances.length = 1 ∧
    ∃ t, (coinReport "C\n- Amount: 0.0\nC").text Amount.longestText = .ok t ∧
      linesLed amountLead t = ["- Amount: 0.0", "- Amount: 2.5"] := by
  have hamounts : (coinReport "C\n- Amount: 0.0\nC").allowances.mapM
      (Allowance.amountText Amount.longestText) = .ok ["2.5"] := rfl
  refine ⟨rfl, (coinReport "C\n- Amount: 0.0\nC").written ["2.5"], ?_, ?_⟩
  · rw [text_eq (List.cons_ne_nil _ _), hamounts]
    rfl
  · rw [linesLed_written Allowance.amountLead_mem_leads]
    decide +kernel

end AllowanceReport

end ChainRisk
