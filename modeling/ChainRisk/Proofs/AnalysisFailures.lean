import ChainRisk.Proofs.Failing

namespace ChainRisk

open Attempt Failure

variable {world : Script} {α : Type} {P : Failure → Prop} {a : Address}

namespace Envelope

theorem fails_optionalField (name : String) (v : Json) : Fails Ordinary (optionalField name v) := by
  cases v with
  | obj fields => exact fails_ok _
  | _ => exact fails_error (ordinary_mismatch _)

theorem fails_verification (payload : Json) : Fails Ordinary (verification payload) := by
  unfold verification
  split
  · apply fails_bind (fails_optionalField _ _)
    intro source
    apply fails_bind (fails_optionalField _ _)
    intro name
    exact fails_ok _
  · exact fails_ok _

theorem fails_tokenOf (item : Json) : Fails Ordinary (tokenOf item) := by
  apply fails_bind (fails_optionalField _ _)
  intro v
  split
  · exact fails_ok _
  · split
    · exact fails_ok _
    · exact fails_error (ordinary_mismatch _)

theorem fails_tokens (payload : Json) : Fails Ordinary (tokens payload) := by
  unfold tokens
  split
  · exact fails_map (fails_mapM fun item _ => fails_tokenOf item)
  · exact fails_ok _

end Envelope

namespace Detector

theorem fails_holds (word : String) (v : Json) : Fails Ordinary (v.holds word) := by
  cases v with
  | str s => exact fails_ok _
  | arr items => exact fails_ok _
  | obj fields => exact fails_ok _
  | _ => exact fails_error (ordinary_mismatch _)

theorem fails_findsMarked (marker word : String) (code : Bytes) (source : Json) :
    Fails Ordinary (findsMarked marker word code source) := by
  unfold findsMarked
  split
  · exact fails_holds word source
  · exact fails_ok _

theorem fails_holdsAny (words : List String) (source : Json) : Fails Ordinary (holdsAny words source) :=
  fails_map (fails_mapM fun word _ => fails_holds word source)

theorem fails_takeoverWords (source : Json) : Fails Ordinary (takeoverWords source) := by
  apply fails_bind (fails_holdsAny _ source)
  intro entry
  apply fails_bind (fails_holdsAny _ source)
  intro change
  apply fails_bind (fails_holds _ source)
  intro sender
  exact fails_ok _

theorem fails_findsTakeover (source : Json) : Fails Ordinary (findsTakeover source) := by
  unfold findsTakeover
  split
  · exact fails_ok _
  · apply fails_bind (fails_takeoverWords source)
    intro found
    split
    · exact fails_ok _
    · cases source with
      | str s => exact fails_ok _
      | _ => exact fails_error (ordinary_mismatch _)

theorem fails_scan {ds : List Detector} {code : Bytes} {source : Json}
    (h : ∀ d ∈ ds, Fails P (d.finds code source)) : Fails P (scan code source ds) := by
  induction ds with
  | nil => exact fails_ok _
  | cons d ds ih =>
    apply fails_bind (h d List.mem_cons_self)
    intro found
    apply fails_bind (ih fun d hd => h d (List.mem_cons_of_mem _ hd))
    intro rest
    exact fails_ok _

theorem fails_scan_standard (code : Bytes) (source : Json) : Fails Ordinary (scan code source standard) := by
  apply fails_scan
  intro d hd
  simp only [standard, List.mem_cons, List.not_mem_nil, or_false] at hd
  rcases hd with rfl | rfl | rfl
  · exact fails_findsMarked _ _ code source
  · exact fails_findsMarked _ _ code source
  · exact fails_findsTakeover source

end Detector

namespace Work

open Activity

theorem fails_code : Activity.Fails Ordinary (code world (.str a.text)) := by
  apply fails_bind (fails_address (Address.ofText?_text a))
  intro a
  apply fails_bind ((fails_rpc _ _).mono fun _ => Unanswered.ordinary (c := 'e') rfl (by decide))
  intro answer
  exact fails_pure _

theorem fails_slotNumber (v : Json) : Attempt.Fails Ordinary (slotNumber v) := by
  cases v with
  | str slot =>
    change Attempt.Fails _ ((Numeral.integer 16 slot).mapError .numeral)
    cases Numeral.integer 16 slot with
    | ok n => exact fails_ok _
    | error r => exact fails_error (ordinary_numeral r)
  | _ => exact fails_error (ordinary_mismatch _)

theorem fails_storage (slot : Json) : Activity.Fails Ordinary (storage world (.str a.text) slot) := by
  apply fails_bind (fails_address (Address.ofText?_text a))
  intro a
  apply fails_bind (fails_ofAttempt (fails_slotNumber slot))
  intro n
  apply fails_bind ((fails_rpc _ _).mono fun _ => Unanswered.ordinary (c := 'e') rfl (by decide))
  intro answer
  exact fails_pure _

theorem fails_delegation (slots : List ProxySlot) :
    Activity.Fails Ordinary (delegation world (.str a.text) slots) := by
  induction slots with
  | nil => exact fails_pure _
  | cons slot rest ih =>
    apply fails_bind (fails_storage slot.position)
    intro w
    change Activity.Fails _ (if _ then _ else _)
    split
    · exact ih
    · exact fails_pure _

theorem fails_verifiedSource : Activity.Fails Ordinary (verifiedSource world (.str a.text)) := by
  apply fails_bind (fails_address (Address.ofText?_text a))
  intro a
  apply fails_bind (fails_explorer _)
  intro payload
  exact fails_ofAttempt (Envelope.fails_verification payload)

theorem fails_orStandIn (standIn : α) (r : Attempt α) : Activity.Fails P (orStandIn standIn r) := by
  cases r with
  | ok a => exact fails_pure a
  | error e => exact fails_bind (fails_update _) fun _ => fails_pure _

theorem fails_deployedFacts {detectors : List Detector}
    (h : ∀ code source, Attempt.Fails Ordinary (Detector.scan code source detectors))
    (slots : List ProxySlot) (code : Bytes) :
    Activity.Fails Ordinary (deployedFacts world detectors slots a code) := by
  apply fails_bind_of_gives (gives_both fails_verifiedSource (gives_both (fails_delegation slots) gives_any))
  rintro ⟨verification, rest⟩ ⟨hverification, hrest⟩
  apply fails_bind (fails_ofAttempt hverification)
  intro verification
  cases rest with
  | error e => exact hrest.elim
  | ok found =>
    have hproxy : Holds (fun r => Attempt.Fails Ordinary r.1) (.ok found) := hrest.1
    apply fails_bind_of_gives (gives_pure hproxy)
    rintro ⟨proxy, deployed⟩ hproxy
    apply fails_bind (fails_ofAttempt hproxy)
    intro proxy
    apply fails_bind (fails_orStandIn _ _)
    intro deployed
    apply fails_bind (fails_ofAttempt (h _ _))
    intro findings
    exact fails_pure _

theorem fails_transferHistory : Activity.Fails Ordinary (transferHistory world (.str a.text)) := by
  apply fails_bind (fails_address (Address.ofText?_text a))
  intro a
  apply fails_bind (fails_explorer _)
  intro payload
  exact fails_ofAttempt (Envelope.fails_tokens payload)

theorem fails_lookBack (latest : Json) (range : Int) : Attempt.Fails Ordinary (Survey.lookBack latest range) := by
  -- the range becomes a variable first: its rounding is not to be computed
  delta Survey.lookBack
  generalize Binary64.ofInt range = r
  cases latest with
  | bool b => exact fails_ok _
  | int n => exact fails_ok _
  | real x =>
    cases r with
    | infinite t => exact fails_error (ordinary_mismatch _)
    | finite t u => exact fails_ok _
    | nan => exact fails_ok _
  | _ => exact fails_error (ordinary_mismatch _)

theorem fails_firstBlock (survey : Survey) : Activity.Fails Ordinary (firstBlock world survey) := by
  change Activity.Fails _ (if _ then _ else _)
  split
  · exact fails_pure _
  · apply fails_bind_of_gives (gives_attempt (fails_rpc _ _))
    intro r hr
    cases r with
    | ok latest => exact fails_ofAttempt (fails_lookBack latest _)
    | error e =>
      change Activity.Fails _ (if _ then _ else _)
      split
      · exact fails_pure _
      · exact fails_fail (Unanswered.ordinary (c := 'e') rfl (by decide) (hr e rfl))

theorem fails_timestamp : Activity.Fails Ordinary (timestamp world) :=
  fails_bind (fails_bind fails_now fun _ => fails_pure _) fun _ => fails_ofAttempt (Json.fails_toInt _)

end Work

inductive Failure.OfTokens (ts : List String) : Failure → Prop
  | ordinary {e : Failure} (h : e.Ordinary) : OfTokens ts e
  | malformed {t : String} (ht : t ∈ ts) (h : Address.ofText? t = none) :
      OfTokens ts (.invalidAddress (.str t))

theorem Failure.OfTokens.mono {ts ts' : List String} {e : Failure} (h : OfTokens ts e) (hts : ts ⊆ ts') :
    OfTokens ts' e := by
  cases h with
  | ordinary h => exact .ordinary h
  | malformed ht h => exact .malformed (hts ht) h

theorem Allowance.fails_make (token spender : Json) (amount : String) (symbol name decimals : Json)
    (info : Spender) : Fails Ordinary (make token spender amount symbol name decimals info) := by
  apply fails_map
  unfold checkAmount
  split
  · split
    · split
      · exact fails_error (.internal rfl nofun)
      · exact fails_ok _
    · exact fails_error (ordinary_numeral _)
  · exact fails_error (.internal rfl nofun)

namespace Work

open Activity

variable {survey : Survey} {owner : Address} {fromBlock : Json}

theorem fails_token_address (t : String) : Activity.Fails (OfTokens [t]) (address (.str t)) := by
  cases ht : Address.ofText? t with
  | some a => exact fails_address ht
  | none =>
    rw [address, Address.require, ht]
    exact fails_fail (.malformed (List.mem_singleton_self t) ht)

theorem fails_mapM_spenderOf (logs : List Log) : Attempt.Fails Ordinary (logs.mapM spenderOf) := by
  apply fails_mapM
  intro log _
  cases log with
  | none => exact fails_error (ordinary_mismatch _)
  | some topics => exact fails_ok _

theorem fails_spendersOf (logs : Option (List Log)) : Attempt.Fails Ordinary (spendersOf logs) := by
  cases logs with
  | none => exact fails_error (ordinary_mismatch _)
  | some logs => exact fails_map (fails_mapM_spenderOf logs)

theorem fails_spenders (t : String) : Activity.Fails
    (fun e => e.isIn .network ∨ OfTokens [t] e) (spenders world (.str t) (.str owner.text) fromBlock) := by
  apply fails_bind ((fails_token_address t).mono fun _ => .inr)
  intro a
  apply fails_bind (fails_address (Address.ofText?_text owner))
  intro o
  apply fails_bind ((fails_rpc _ _).mono fun e he => .inl (by cases he <;> rfl))
  intro logs
  exact fails_ofAttempt ((fails_spendersOf logs).mono fun _ he => .inr (.ordinary he))

theorem fails_discovered (t : String) :
    Activity.Fails (OfTokens [t]) (discovered world survey t owner.text fromBlock) := by
  apply fails_bind_of_gives (gives_attempt (fails_spenders t))
  intro r hr
  cases r with
  | ok found => exact fails_pure _
  | error e =>
    change Activity.Fails _ (if _ then _ else _)
    split
    · exact fails_bind (fails_update _) fun _ => fails_pure _
    · next hnet => exact fails_fail ((hr e rfl).resolve_left hnet)

theorem fails_granted (t : String) (m : TokenMetadata) (answers : List (String × Attempt Int)) :
    Activity.Fails Ordinary (granted survey t m answers) := by
  induction answers with
  | nil => exact fails_pure _
  | cons answer rest ih =>
    obtain ⟨spender, answer⟩ := answer
    apply fails_bind (fails_orStandIn _ _)
    intro amount
    change Activity.Fails _ (if _ then _ else _)
    split
    · exact fails_bind (fails_pure _) fun found => fails_bind ih fun later => fails_pure _
    · apply fails_bind (fails_ofAttempt (fails_map (Allowance.fails_make _ _ _ _ _ _ _)))
      intro found
      exact fails_bind ih fun later => fails_pure _

theorem fails_ofToken (t : String) :
    Activity.Fails (OfTokens [t]) (ofToken world survey owner.text fromBlock t) := by
  apply fails_bind_of_gives (gives_both gives_any (fails_discovered t))
  rintro ⟨m, found⟩ ⟨-, hfound⟩
  apply fails_bind (fails_orStandIn _ _)
  intro m
  apply fails_bind (fails_ofAttempt hfound)
  intro found
  apply fails_bind (fails_each _)
  intro amounts
  exact (fails_granted t m _).mono fun _ => .ordinary

theorem fails_pause (d : Binary64) : Activity.Fails P (pause d) := by
  unfold pause
  split
  · exact fails_wait d
  · exact fails_pure _

theorem fails_ofBatches {process : String → Work (List Allowance)} {i : Nat} {bs : List (List String)}
    (h : ∀ t ∈ bs.flatten, Activity.Fails P (process t)) : Activity.Fails P (ofBatches survey process i bs) := by
  have hall {batch : List String} (hb : ∀ t ∈ batch, Activity.Fails P (process t)) :
      Activity.Fails P (all (batch.map process)) := by
    apply fails_all
    intro x hx
    obtain ⟨t, ht, rfl⟩ := List.mem_map.1 hx
    exact hb t ht
  induction bs generalizing i with
  | nil => exact fails_pure _
  | cons batch rest ih =>
    rw [List.flatten_cons] at h
    have hbatch := hall fun t ht => h t (List.mem_append_left _ ht)
    cases rest with
    | nil => exact fails_bind hbatch fun _ => fails_pure _
    | cons next rest =>
      apply fails_bind hbatch
      intro found
      apply fails_bind (fails_pause _)
      intro _
      apply fails_bind (ih fun t ht => h t (List.mem_append_right _ ht))
      intro later
      exact fails_pure _

theorem prompt_clock : Prompt (clock world) := prompt_bind prompt_now fun _ => prompt_pure _

theorem course_recorded (x : Work α) (w : Window) (d : Desk) :
    course (recorded world x w d).1 = course (x w d).1 := by
  have htail (start : Binary64) (r : Attempt α) : Immediate (do
      let stop ← clock world
      update (Desk.recordRun (milliseconds start stop) r.toOption.isSome)
      ofAttempt r) r := by
    refine ⟨prompt_bind prompt_clock fun _ => prompt_bind (prompt_update _) fun _ => prompt_ofAttempt r, ?_⟩
    intro w d
    cases r <;> rfl
  refine (course_bind_of_prompt prompt_clock rfl).trans ?_
  exact course_bind_immediate (x := attempt x) (k := id) rfl (htail _)

theorem surveyed_error {w : Window} {d : Desk} {e : Failure}
    (h : (surveyed world survey owner w d).1.result = .error e) :
    e.Ordinary ∨ ∃ tokens, (transferHistory world (.str owner.text) w d).1.result = .ok tokens ∧
      OfTokens (survey.chosen tokens) e := by
  cases hr : (transferHistory world (.str owner.text) w d).1.result with
  | error e' =>
    rw [surveyed, bind_of_error hr] at h
    cases h
    exact .inl (fails_transferHistory.run w d _ hr)
  | ok tokens =>
    refine .inr ⟨tokens, rfl, ?_⟩
    rw [surveyed, result_bind_of_ok hr] at h
    refine Gives.run (R := Attempt.Fails (OfTokens (survey.chosen tokens))) ?_ _ _ e h
    apply fails_bind ((fails_firstBlock survey).mono fun _ => .ordinary)
    intro fromBlock
    apply fails_bind (fails_ofBatches fun t ht => (fails_ofToken t).mono fun e he => he.mono ?_)
    · intro found
      apply fails_bind (fails_timestamp.mono fun _ => .ordinary)
      intro stamp
      apply fails_bind fails_inspect
      intro d
      exact fails_pure _
    · intro t' ht'
      rw [flatten_batches] at ht
      exact List.mem_singleton.1 ht' ▸ ht

theorem course_allowances (survey : Survey) (owner : Address) (w : Window) (d : Desk) :
    course (allowances world survey (.str owner.text) w d).1 = course (surveyed world survey owner w d).1 := by
  rw [allowances, address_text]
  exact (course_bind_of_prompt (prompt_pure owner) rfl).trans (course_recorded _ w d)

theorem allowances_error {w : Window} {d : Desk} {e : Failure}
    (h : (allowances world survey (.str owner.text) w d).1.result = .error e) :
    e.Ordinary ∨ ∃ tokens, (transferHistory world (.str owner.text) w d).1.result = .ok tokens ∧
      OfTokens (survey.chosen tokens) e :=
  surveyed_error ((result_of_course (course_allowances survey owner w d)).symm.trans h)

section

variable {t : String} (ht : Address.ofText? t = none)

include ht

theorem barren_discovered : Barren (discovered world survey t owner.text fromBlock) := by
  have hspenders : Gives (· = .error (.invalidAddress (.str t)))
      (spenders world (.str t) (.str owner.text) fromBlock) := by
    rw [spenders, address, Address.require, ht]
    exact gives_fail_bind rfl
  apply returns_bind_of_gives (gives_attempt hspenders)
  rintro _ rfl
  exact barren_fail _

theorem barren_ofToken : Barren (ofToken world survey owner.text fromBlock t) := by
  apply returns_bind_of_gives (gives_both gives_any (barren_discovered ht))
  rintro ⟨m, found⟩ ⟨-, hfound⟩
  apply returns_bind
  intro m
  exact barren_bind (barren_ofAttempt hfound)

end

theorem barren_ofBatches {process : String → Work (List Allowance)} {t : String} (hx : Barren (process t))
    {i : Nat} {bs : List (List String)} (ht : t ∈ bs.flatten) : Barren (ofBatches survey process i bs) := by
  -- on the batches: the one that holds the token ends the run, and those before it only lead up to it
  induction bs generalizing i with
  | nil => cases ht
  | cons batch rest ih =>
    rw [List.flatten_cons, List.mem_append] at ht
    cases rest with
    | nil =>
      have hbatch := ht.resolve_right List.not_mem_nil
      exact barren_bind (barren_all hx (List.mem_map_of_mem hbatch))
    | cons next rest =>
      rcases ht with hbatch | hrest
      · exact barren_bind (barren_all hx (List.mem_map_of_mem hbatch))
      · apply returns_bind
        intro found
        apply returns_bind
        intro _
        exact barren_bind (ih hrest)

theorem allowances_ne_ok {w : Window} {d : Desk} {tokens : List String}
    (htokens : (transferHistory world (.str owner.text) w d).1.result = .ok tokens) {t : String}
    (ht : t ∈ survey.chosen tokens) (hbad : Address.ofText? t = none) (report : AllowanceReport) :
    (allowances world survey (.str owner.text) w d).1.result ≠ .ok report := by
  rw [result_of_course (course_allowances survey owner w d), surveyed, result_bind_of_ok htokens]
  refine Gives.run (R := Returns fun _ => False) ?_ _ _ report
  apply returns_bind
  intro fromBlock
  apply barren_bind
  apply barren_ofBatches (barren_ofToken hbad)
  rwa [flatten_batches]

variable (world) in
theorem course_assess (detectors : List Detector) (slots : List ProxySlot) (a : Address) (w : Window)
    (d : Desk) : course (assess world detectors slots (.str a.text) w d).1 =
      ((contractFacts world detectors slots a w d).1.result.bind fun facts => .ok (Assessment.ofFacts facts),
        (contractFacts world detectors slots a w d).1.ends,
        (contractFacts world detectors slots a w d).1.pause) := by
  rw [assess, address_text]
  refine (course_bind_of_prompt (prompt_pure a) rfl).trans ?_
  exact course_bind_immediate (course_recorded _ w d) fun facts => immediate_pure _

theorem course_assess_of_empty (detectors : List Detector) (slots : List ProxySlot) {w : Window} {d : Desk}
    (h : (code world (.str a.text) w d).1.result = .ok []) :
    course (assess world detectors slots (.str a.text) w d).1 = (.error (.notAContract a),
      (code world (.str a.text) w d).1.ends, (code world (.str a.text) w d).1.pause) := by
  have hfacts : course (contractFacts world detectors slots a w d).1 = (.error (.notAContract a),
      (code world (.str a.text) w d).1.ends, (code world (.str a.text) w d).1.pause) := by
    rw [contractFacts, bind_of_ok h]
    cases (code world (.str a.text) w d).1.pause <;> rfl
  rw [course_assess, result_of_course hfacts, ends_of_course hfacts, pause_of_course hfacts]
  rfl

theorem contractFacts_error {slots : List ProxySlot} {w : Window} {d : Desk} {e : Failure}
    (h : (contractFacts world Detector.standard slots a w d).1.result = .error e) :
    e.Ordinary ∨ (e = .notAContract a ∧ (code world (.str a.text) w d).1.result = .ok []) := by
  cases hr : (code world (.str a.text) w d).1.result with
  | error e' =>
    rw [contractFacts, bind_of_error hr] at h
    cases h
    exact .inl (fails_code.run w d _ hr)
  | ok bytes =>
    rw [contractFacts, result_bind_of_ok hr] at h
    cases bytes with
    | nil =>
      cases h
      exact .inr ⟨rfl, rfl⟩
    | cons b bytes => exact .inl ((fails_deployedFacts Detector.fails_scan_standard slots _).run _ _ e h)

theorem assess_error {slots : List ProxySlot} {w : Window} {d : Desk} {e : Failure}
    (h : (assess world Detector.standard slots (.str a.text) w d).1.result = .error e) :
    e.Ordinary ∨ (e = .notAContract a ∧ (code world (.str a.text) w d).1.result = .ok []) := by
  have hresult := result_of_course (course_assess world Detector.standard slots a w d)
  rcases bind_eq_error_iff.1 (hresult.symm.trans h) with hr | ⟨facts, -, hr⟩
  · exact contractFacts_error hr
  · cases hr

end Work

namespace AllowanceReport

theorem fails_places (v : Json) : Fails Ordinary (Amount.places v) := by
  cases v with
  | int n => exact fails_ok _
  | bool b => exact fails_ok _
  | real x =>
    change Fails _ (if _ then _ else _)
    split
    · exact fails_ok _
    · exact fails_error (ordinary_mismatch _)
  | _ => exact fails_error (ordinary_mismatch _)

theorem fails_checkLength (room n : Nat) : Fails Ordinary (Amount.checkLength room n) := by
  unfold Amount.checkLength
  split
  · exact fails_error (ordinary_mismatch _)
  · split
    · exact fails_error (ordinary_mismatch _)
    · exact fails_ok _

theorem fails_amountText (room : Nat) (amount : Allowance) : Fails Ordinary (amount.amountText room) := by
  apply fails_bind (Json.fails_toInt _)
  intro n
  split
  · exact fails_ok _
  · apply fails_bind (Json.fails_toInt _)
    intro n
    split
    · exact fails_error (.internal rfl nofun)
    · apply fails_bind (fails_places _)
      intro k
      apply fails_bind (fails_checkLength _ _)
      intro _
      exact fails_ok _

theorem fails_text (room : Nat) (r : AllowanceReport) : Fails Ordinary (r.text room) := by
  unfold text
  split
  · exact fails_ok _
  · refine fails_bind (fails_mapM fun amount _ => ?_) fun entries => fails_ok _
    exact fails_bind (fails_amountText room amount) fun amount => fails_ok _

end AllowanceReport

end ChainRisk
