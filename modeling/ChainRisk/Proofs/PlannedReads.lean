import ChainRisk.Proofs.Failing
import ChainRisk.Proofs.Ledger
import ChainRisk.Proofs.Steps
import ChainRisk.Proofs.TokenIsolation
import Mathlib.Data.List.Nodup

namespace ChainRisk

theorem Subject.ofParameters_ne_subject {params : Keyed Json} {q : Query} : ofParameters params ≠ q.subject := by
  cases q <;> nofun

namespace Script

variable (world : Script) (v : View) (known : SpenderTable) (owner : Address) (fromBlock : Json)

def plannedOf (t : String) : List Query :=
  match Address.ofText? t with
  | some a => Work.tokenQueries owner a fromBlock (world.spendersOf v known owner a)
  | none => []

def plan (survey : Survey) (tokens : List String) : List Call :=
  v.network.looksUp (historyQuery owner) ::
    ((if 0 < survey.scanRange then [Query.blockNumber] else []) ++
      tokens.flatMap (world.plannedOf v survey.spenders owner fromBlock)).map v.network.asks

variable {world} {v} {known} {owner} {fromBlock} {t : String} {q : Query}

theorem queriesOf_of_sound (h : world.Sound v owner t) :
    Work.queriesOf world v known owner fromBlock t = world.plannedOf v known owner fromBlock t := by
  obtain ⟨a, ht, hlogs⟩ := h
  rw [Work.queriesOf_of_ofText? ht, plannedOf, ht, tokenSpenders_eq_ok hlogs]
  rfl

theorem token?_of_mem_tokenQueries {a : Address} {found : List String}
    (h : q ∈ Work.tokenQueries owner a fromBlock found) : q.subject.token? = some a := by
  simp only [Work.tokenQueries, Work.metadataQueries, List.mem_append, List.mem_cons, List.not_mem_nil,
    or_false, List.mem_map] at h
  rcases h with (rfl | rfl | rfl) | rfl | ⟨s, -, rfl⟩ <;> rfl

theorem token?_of_mem_queriesOf (h : q ∈ Work.queriesOf world v known owner fromBlock t) :
    ∃ a, Address.ofText? t = some a ∧ q.subject.token? = some a := by
  unfold Work.queriesOf at h
  split at h
  · next a ht => exact ⟨a, ht, token?_of_mem_tokenQueries h⟩
  · cases h

theorem token?_of_mem_plannedOf (h : q ∈ world.plannedOf v known owner fromBlock t) :
    ∃ a, Address.ofText? t = some a ∧ q.subject.token? = some a := by
  unfold plannedOf at h
  split at h
  · next a ht => exact ⟨a, ht, token?_of_mem_tokenQueries h⟩
  · cases h

theorem apart_spendersOf (hk : Address.Apart known.addresses) (a : Address) :
    Address.Apart (world.spendersOf v known owner a) := by
  unfold spendersOf
  split
  · exact Address.apart_map_text (nodup_eraseDups _)
  · exact hk

theorem nodup_tokenQueries {a : Address} {found : List String} (h : Address.Apart found) :
    ((Work.tokenQueries owner a fromBlock found).map Query.subject).Nodup := by
  have hfound : (found.filterMap Address.ofText?).Nodup := by
    rw [List.Nodup, List.pairwise_filterMap]
    refine h.imp fun {s t} hne b hb c hc => ?_
    rintro rfl
    exact hne b hb hc
  have hallowances : ((found.filterMap Address.ofText?).map fun b => Subject.allowance a b).Nodup :=
    hfound.map fun b c hbc => (Subject.allowance.inj hbc).2
  simpa [Work.tokenQueries, Work.metadataQueries, Query.subject, Function.comp_def] using hallowances

theorem nodup_plannedOf (hk : Address.Apart known.addresses) (t : String) :
    ((world.plannedOf v known owner fromBlock t).map Query.subject).Nodup := by
  unfold plannedOf
  split
  · exact nodup_tokenQueries (apart_spendersOf hk _)
  · exact List.nodup_nil

theorem nodup_flatMap_plannedOf {tokens : List String} (hk : Address.Apart known.addresses)
    (hapart : Address.Apart tokens) :
    ((tokens.flatMap (world.plannedOf v known owner fromBlock)).map Query.subject).Nodup := by
  rw [List.map_flatMap, List.nodup_flatMap]
  refine ⟨fun t _ => nodup_plannedOf hk t, hapart.imp fun {t t'} hne x hx hx' => ?_⟩
  obtain ⟨q, hq, rfl⟩ := List.mem_map.1 hx
  obtain ⟨q', hq', hsame⟩ := List.mem_map.1 hx'
  obtain ⟨a, ha, htoken⟩ := token?_of_mem_plannedOf hq
  obtain ⟨b, hb, htoken'⟩ := token?_of_mem_plannedOf hq'
  rw [hsame, htoken] at htoken'
  cases htoken'
  exact hne a ha hb

theorem exists_token_of_mem_plan {survey : Survey} {tokens : List String} {c : Call} {x : Subject} {a : Address}
    (hc : c ∈ world.plan v owner fromBlock survey tokens) (hx : c.subject? = some x) (ha : x.token? = some a) :
    ∃ t ∈ tokens, Address.ofText? t = some a := by
  rw [plan, List.mem_cons] at hc
  rcases hc with rfl | hc
  · rw [Network.subject?_looksUp] at hx
    cases hx
    cases ha
  · obtain ⟨q, hq, hsubject⟩ := Network.subject?_of_mem_asks hc
    rw [hx, Option.some.injEq] at hsubject
    rw [hsubject] at ha
    rcases List.mem_append.1 hq with hq | hq
    · split at hq
      · rw [List.mem_singleton.1 hq] at ha
        cases ha
      · cases hq
    · obtain ⟨t, ht, hq⟩ := List.mem_flatMap.1 hq
      obtain ⟨b, hb, htoken⟩ := token?_of_mem_plannedOf hq
      rw [ha] at htoken
      cases htoken
      exact ⟨t, ht, hb⟩

theorem nodup_plan {survey : Survey} {tokens : List String} (hk : Address.Apart survey.spenders.addresses)
    (hapart : Address.Apart tokens) :
    ((world.plan v owner fromBlock survey tokens).map Call.subject?).Nodup := by
  have htokens : ((tokens.flatMap (world.plannedOf v survey.spenders owner fromBlock)).map Query.subject).Nodup :=
    nodup_flatMap_plannedOf hk hapart
  have hothers {q : Query} (hq : q ∈ tokens.flatMap (world.plannedOf v survey.spenders owner fromBlock)) :
      ∃ a, q.subject.token? = some a := by
    obtain ⟨t, -, hq⟩ := List.mem_flatMap.1 hq
    obtain ⟨a, -, htoken⟩ := token?_of_mem_plannedOf hq
    exact ⟨a, htoken⟩
  have hqueries : (((if 0 < survey.scanRange then [Query.blockNumber] else []) ++
      tokens.flatMap (world.plannedOf v survey.spenders owner fromBlock)).map Query.subject).Nodup := by
    rw [List.map_append, List.nodup_append]
    refine ⟨by split <;> simp, htokens, fun x hx y hy hxy => ?_⟩
    obtain ⟨q, hq, rfl⟩ := List.mem_map.1 hy
    obtain ⟨a, htoken⟩ := hothers hq
    split at hx
    · rw [← hxy, List.mem_singleton.1 hx] at htoken
      cases htoken
    · cases hx
  have hcalls (qs : List Query) : (qs.map v.network.asks).map Call.subject? = (qs.map Query.subject).map some := by
    rw [List.map_map, List.map_map]
    rfl
  rw [plan, List.map_cons, hcalls, Network.subject?_looksUp, List.nodup_cons]
  refine ⟨fun hmem => ?_, hqueries.map fun _ _ h => Option.some.inj h⟩
  obtain ⟨x, hx, heq⟩ := List.mem_map.1 hmem
  obtain ⟨q, -, rfl⟩ := List.mem_map.1 hx
  exact Subject.ofParameters_ne_subject (Option.some.inj heq).symm

end Script

def Ledger.Fresh (ts : List String) (v : View) (l : Ledger) : Prop :=
  ∀ t ∈ ts, ∀ a, Address.ofText? t = some a → View.SameOn (· = .logs a) v l.view

namespace Work

open Activity

variable {world : Script} {survey : Survey} {l : Ledger} {v : View} {owner : Address} {fromBlock : Json}

theorem fresh_after {t : String} {ts : List String} (h : l.Fresh (t :: ts) v)
    (hapart : Address.Apart (t :: ts)) (known : SpenderTable) :
    (l.after ((queriesOf world v known owner fromBlock t).map l.network.asks)).Fresh ts v := by
  intro t' ht' a ha
  refine (h t' (List.mem_cons_of_mem _ ht') a ha).trans (Ledger.sameOn_after ?_)
  rintro c hc x hx rfl
  obtain ⟨q, hq, hsubject⟩ := Network.subject?_of_mem_asks hc
  obtain ⟨b, hb, htoken⟩ := Script.token?_of_mem_queriesOf hq
  rw [← Option.some.inj (hx.symm.trans hsubject)] at htoken
  cases htoken
  exact (List.pairwise_cons.1 hapart).1 t' ht' a hb ha

theorem ledger_of_goes {tokens : List String} {given : List (List Allowance)} {d d' : Desk}
    (h : Goes (ofToken world survey owner.text fromBlock) tokens d given d') (hapart : Address.Apart tokens)
    (hl : d.ledger.Fresh tokens v) :
    (∀ t ∈ tokens, world.Sound v owner t) ∧ d'.ledger =
      d.ledger.after ((tokens.flatMap (queriesOf world v survey.spenders owner fromBlock)).map
        d.ledger.network.asks) := by
  induction h with
  | nil d => exact ⟨nofun, rfl⟩
  | @cons t ts d d' entries given m h hs ih =>
    have htoken : Books (ofToken world survey owner.text fromBlock t) d.ledger fun r u =>
        (∀ found, r = .ok found → world.Sound v owner t) ∧
          u = d.ledger.after ((queriesOf world v survey.spenders owner fromBlock t).map d.ledger.network.asks) :=
      books_ofToken (hl t List.mem_cons_self) fun r hr => ⟨hr, rfl⟩
    obtain ⟨hsound, hledger⟩ := htoken.run m rfl
    obtain ⟨hlater, hend⟩ := ih (List.pairwise_cons.1 hapart).2 (hledger ▸ fresh_after hl hapart _)
    refine ⟨List.forall_mem_cons.2 ⟨hsound entries h, hlater⟩, ?_⟩
    rw [hend, hledger, Ledger.after_after, Ledger.after_network, ← List.map_append]
    rfl

theorem books_ofBatches {i : Nat} {bs : List (List String)} (hapart : Address.Apart bs.flatten)
    (hl : l.Fresh bs.flatten v) :
    Books (ofBatches survey (ofToken world survey owner.text fromBlock) i bs) l fun r u =>
      ∀ found, r = .ok found → (∀ t ∈ bs.flatten, world.Sound v owner t) ∧
        u = l.after ((bs.flatten.flatMap (queriesOf world v survey.spenders owner fromBlock)).map
          l.network.asks) := by
  refine yields_of_run fun m d hd found h => ?_
  subst hd
  obtain ⟨given, -, hgoes⟩ := goes_of_ofBatches h
  exact ledger_of_goes hgoes hapart hl

theorem books_transferHistory {Q : Attempt (List String) → Ledger → Prop}
    (h : Q (world.historyAnswer l.view owner) (l.after [l.network.looksUp (Script.historyQuery owner)])) :
    Books (transferHistory world (.str owner.text)) l Q := by
  refine books_of_yields (yields_transferHistory (Q := fun r _ => r = world.historyAnswer l.view owner) rfl) ?_
  apply yields_bind
  apply yields_address (Address.ofText?_text owner)
  apply yields_bind
  refine books_explorer fun r => ?_
  cases r with
  | ok payload => exact yields_ofAttempt fun hr => hr ▸ h
  | error e => exact fun hr => hr ▸ h

theorem books_firstBlock {Q : Attempt Json → Ledger → Prop} (hv : View.SameOn (· = .blockNumber) v l.view)
    (h : Q (world.startBlock v survey)
      (l.after ((if 0 < survey.scanRange then [Query.blockNumber] else []).map l.network.asks))) :
    Books (firstBlock world survey) l Q := by
  refine books_of_yields (yields_firstBlock (Q := fun r _ => r = world.startBlock v survey) hv fun _ _ => rfl) ?_
  change Activity.Yields _ (if survey.scanRange ≤ 0 then _ else _) _ _
  by_cases hrange : survey.scanRange ≤ 0
  · rw [if_neg (by omega)] at h
    rw [if_pos hrange]
    exact yields_pure fun hr => hr ▸ h
  · rw [if_pos (by omega)] at h
    rw [if_neg hrange]
    apply yields_bind
    apply yields_attempt
    refine books_rpc fun r => ?_
    cases r with
    | ok latest => exact yields_ofAttempt fun hr => hr ▸ h
    | error e =>
      change Activity.Yields _ (if e.isIn .network then _ else _) _ _
      split
      · exact yields_pure fun hr => hr ▸ h
      · exact yields_fail fun hr => hr ▸ h

theorem books_surveyed (hapart : ∀ tokens, world.historyAnswer l.view owner = .ok tokens →
    Address.Apart (survey.chosen tokens)) :
    Books (surveyed world survey owner) l fun r u => ∀ report, r = .ok report →
      ∃ tokens fromBlock, world.historyAnswer l.view owner = .ok tokens ∧
        world.startBlock l.view survey = .ok fromBlock ∧
        (∀ t ∈ survey.chosen tokens, world.Sound l.view owner t) ∧
        u = l.after (l.network.looksUp (Script.historyQuery owner) ::
          ((if 0 < survey.scanRange then [Query.blockNumber] else []) ++ (survey.chosen tokens).flatMap
            (queriesOf world l.view survey.spenders owner fromBlock)).map l.network.asks) := by
  have hlookup : View.SameOn (fun x => x ≠ .ofParameters (Script.historyQuery owner)) l.view
      (l.after [l.network.looksUp (Script.historyQuery owner)]).view := by
    refine Ledger.sameOn_after fun c hc x hx hne => hne ?_
    rw [List.mem_singleton.1 hc, Network.subject?_looksUp] at hx
    exact (Option.some.inj hx).symm
  apply yields_bind
  apply books_transferHistory
  cases htokens : world.historyAnswer l.view owner with
  | error e => exact nofun
  | ok tokens =>
    apply yields_bind
    apply books_firstBlock (hlookup.mono (by rintro x rfl hx; cases hx))
    cases hb : world.startBlock l.view survey with
    | error e => exact nofun
    | ok fromBlock =>
      have hflat := flatten_batches survey.batchSize survey.batchSize_pos (survey.chosen tokens)
      apply yields_bind
      refine yields_mono (books_ofBatches (v := l.view) (by rw [hflat]; exact hapart tokens htokens) ?_) ?_
      · intro t _ a _
        refine (hlookup.mono (by rintro x rfl hx; cases hx)).trans (Ledger.sameOn_after ?_)
        rintro c hc x hx rfl
        obtain ⟨q, hq, hsubject⟩ := Network.subject?_of_mem_asks hc
        split at hq
        · rw [List.mem_singleton.1 hq] at hsubject
          cases hx.symm.trans hsubject
        · cases hq
      · rw [hflat]
        intro j u hj
        cases j with
        | error e => exact nofun
        | ok found =>
          obtain ⟨hsound, rfl⟩ := hj found rfl
          refine yields_reported fun r _ report _ => ⟨tokens, fromBlock, rfl, rfl, hsound, ?_⟩
          simp only [Ledger.after_after, Ledger.after_network, List.map_append, List.cons_append,
            List.nil_append]

end Work

structure Survey.StartsAt (world : Script) (v : View) (survey : Survey) (fromBlock : Json) : Prop where
  whole : survey.scanRange ≤ 0 → fromBlock = .int 0
  told : 0 < survey.scanRange → ∀ latest, world.Answers v.timeout .blockNumber (v.reads .blockNumber) latest →
    Survey.lookBack latest survey.scanRange = .ok fromBlock
  back : 0 < survey.scanRange → ∀ n, world.Answers v.timeout .blockNumber (v.reads .blockNumber) (.int n) →
    fromBlock = .int (max 0 (n - survey.scanRange))
  unread : 0 < survey.scanRange →
    (∀ latest, ¬ world.Answers v.timeout .blockNumber (v.reads .blockNumber) latest) → fromBlock = .int 0

theorem Survey.startsAt_of_startBlock {world : Script} {v : View} {survey : Survey} {fromBlock : Json}
    (h : world.startBlock v survey = .ok fromBlock) : survey.StartsAt world v fromBlock := by
  rw [Script.startBlock] at h
  have htold (hrange : 0 < survey.scanRange) (latest : Json)
      (hlatest : world.Answers v.timeout .blockNumber (v.reads .blockNumber) latest) :
      Survey.lookBack latest survey.scanRange = .ok fromBlock := by
    rw [if_neg (by omega), Script.seen_eq_some_iff.2 hlatest] at h
    exact h
  refine ⟨fun hrange => ?_, htold, fun hrange n hn => ?_, fun hrange hnone => ?_⟩
  · rw [if_pos hrange] at h
    exact (Except.ok.inj h).symm
  · exact (Except.ok.inj (htold hrange _ hn)).symm
  · have hunseen : world.seen v .blockNumber = none :=
      Option.eq_none_iff_forall_ne_some.2 fun latest hlatest => hnone latest (Script.seen_eq_some_iff.1 hlatest)
    rw [if_neg (by omega), hunseen] at h
    exact (Except.ok.inj h).symm

namespace Work

open Activity

def Grows (d d' : Desk) : Prop := d.trace <:+ d'.trace

instance : IsPreorder Desk Grows where
  refl d := List.suffix_refl d.trace
  trans _ _ _ h h' := h.trans h'

theorem steps_grows : Desk.Steps Grows where
  read t c d _ := List.suffix_cons (t, c) d.trace
  inSession t d := by
    unfold Desk.inSession
    split
    · exact List.suffix_cons (t, _) d.trace
    · exact List.suffix_refl d.trace
  countRequest d := List.suffix_refl d.trace
  countFailure d := List.suffix_refl d.trace
  countDegraded d := List.suffix_refl d.trace
  recordRun _ _ d := List.suffix_refl d.trace

theorem books_allowances (world : Script) (survey : Survey) {json : Json} {owner : Address}
    (howner : Address.require json = .ok owner) (l : Ledger) :
    Books (allowances world survey json) l fun r u => ∀ report, r = .ok report → ∃ payload fromBlock,
      world.Tells (Script.historyQuery owner) (l.view.reads (.ofParameters (Script.historyQuery owner))) payload ∧
      world.startBlock l.view survey = .ok fromBlock ∧
      (∀ t ∈ survey.chosen (Envelope.candidates payload), world.Sound l.view owner t) ∧
      u = l.after (world.plan l.view owner fromBlock survey (survey.chosen (Envelope.candidates payload))) := by
  rw [allowances, address, howner]
  apply yields_bind
  apply yields_pure
  apply yields_recorded fun _ _ _ => rfl
  refine yields_mono (books_surveyed fun tokens h => ?_) fun r u hr report hreport => ?_
  · obtain ⟨payload, -, rfl⟩ := Script.exists_payload_of_historyAnswer h
    exact Survey.apart_chosen survey payload
  · obtain ⟨tokens, fromBlock, htokens, hb, hsound, hu⟩ := hr report hreport
    obtain ⟨payload, htells, rfl⟩ := Script.exists_payload_of_historyAnswer htokens
    have hqueries : (survey.chosen (Envelope.candidates payload)).flatMap
        (queriesOf world l.view survey.spenders owner fromBlock) =
          (survey.chosen (Envelope.candidates payload)).flatMap
            (world.plannedOf l.view survey.spenders owner fromBlock) :=
      List.flatMap_congr fun t ht => Script.queriesOf_of_sound (hsound t ht)
    rw [hqueries] at hu
    exact ⟨payload, fromBlock, htells, hb, hsound, hu⟩

theorem allowances_planned (world : Script) (survey : Survey) (spenders : List Spender)
    (hs : survey.spenders = .ofList spenders) (json : Json) (m : Moment) (d : Desk) {report : AllowanceReport}
    (h : (allowances world survey json ⟨m, none⟩ d).1.result = .ok report) :
    ∃ owner payload fromBlock new, Address.require json = .ok owner ∧
      world.Tells (Script.historyQuery owner) (d.view.reads (.ofParameters (Script.historyQuery owner))) payload ∧
      survey.StartsAt world d.view fromBlock ∧
      (∀ t ∈ survey.chosen (Envelope.candidates payload), ∃ a, Address.ofText? t = some a) ∧
      (allowances world survey json ⟨m, none⟩ d).2.trace = new ++ d.trace ∧
      (Trace.issued new).Perm
        (world.plan d.view owner fromBlock survey (survey.chosen (Envelope.candidates payload))) ∧
      ((Trace.issued new).map Call.subject?).Nodup ∧
      (∀ t ∈ Envelope.candidates payload, t ∉ survey.chosen (Envelope.candidates payload) →
        ∀ a, Address.ofText? t = some a → ∀ c ∈ Trace.issued new, ∀ x, c.subject? = some x → x.token? ≠ some a) ∧
      (allowances world survey json ⟨m, none⟩ d).2.client.total =
        d.client.total + (Trace.issued new).length := by
  cases howner : Address.require json with
  | error e =>
    rw [allowances, address, howner] at h
    cases h
  | ok owner =>
    have hbooks := (books_allowances world survey howner d.ledger).run m rfl report h
    rw [Ledger.view_ledger] at hbooks
    obtain ⟨payload, fromBlock, htells, hstart, hsound, hledger⟩ := hbooks
    obtain ⟨new, hnew⟩ := respects_allowances steps_grows survey json ⟨m, none⟩ d
    have hissued : Trace.issued new =
        (world.plan d.view owner fromBlock survey (survey.chosen (Envelope.candidates payload))).reverse := by
      have heq := congrArg Ledger.issued hledger
      change Trace.issued (allowances world survey json ⟨m, none⟩ d).2.trace = _ ++ d.trace.issued at heq
      rw [← hnew, Trace.issued_append] at heq
      exact List.append_cancel_right heq
    have hperm := hissued ▸ List.reverse_perm _
    have hk : Address.Apart survey.spenders.addresses := hs ▸ SpenderTable.apart_addresses spenders
    refine ⟨owner, payload, fromBlock, new, rfl, htells, Survey.startsAt_of_startBlock hstart,
      fun t ht => ?_, hnew.symm, hperm, ?_, fun t ht hout a ha c hc x hx htoken => ?_, ?_⟩
    · obtain ⟨a, ha, -⟩ := hsound t ht
      exact ⟨a, ha⟩
    · exact (hperm.map Call.subject?).nodup_iff.2 (Script.nodup_plan hk (Survey.apart_chosen survey payload))
    · obtain ⟨t', ht', ha'⟩ := Script.exists_token_of_mem_plan (hperm.subset hc) hx htoken
      have hmem := (Survey.chosen_sublist survey _).subset ht'
      have hsame : t = t' := (Address.eq_smallText ha (Envelope.small_of_mem_candidates ht)).trans
        (Address.eq_smallText ha' (Envelope.small_of_mem_candidates hmem)).symm
      exact hout (hsame ▸ ht')
    · have htotal := congrArg Ledger.total hledger
      rw [hissued, List.length_reverse]
      exact htotal

def unloggedWorld : Script :=
  { historyWorld oneText with logs := fun _ => [⟨.fault ⟨.connection, "reset"⟩, .zero⟩] }

def cappedSurvey : Survey :=
  ⟨.ofList [.ofTexts Address.zeroText "" "" "", .ofTexts "0xbad" "" "" ""], 3, fun _ => .zero, some 1, 100,
    by decide⟩

theorem run_unloggedWorld :
    let run := allowances unloggedWorld cappedSurvey (.str Address.zeroText) ⟨.ofInstant .start, none⟩ .idle
    Except.isOk run.1.result = true ∧ run.2.client.total = 7 ∧ run.2.client.failed = 4 := by
  delta allowances surveyed transferHistory ofToken discovered spenders allowance
  simp only [address_text]
  decide +kernel

theorem allowances_planned_unloggedWorld :
    let run := allowances unloggedWorld cappedSurvey (.str Address.zeroText) ⟨.ofInstant .start, none⟩ .idle
    Except.isOk run.1.result = true ∧ run.2.client.total = 7 ∧
    ∃ new, run.2.trace = new ++ Desk.idle.trace ∧ (Trace.issued new).length = 7 ∧ (Trace.issued new).Perm
      (unloggedWorld.plan Desk.idle.view .zero (.int 18499900) cappedSurvey [Address.zeroText]) := by
  dsimp only
  obtain ⟨hreturns, htotal, -⟩ := run_unloggedWorld
  obtain ⟨report, hreport⟩ := Attempt.isOk_eq_true_iff.1 hreturns
  obtain ⟨owner, payload, fromBlock, new, howner, htells, hstart, -, hnew, hperm, -, -, hcount⟩ :=
    allowances_planned unloggedWorld cappedSurvey _ rfl (.str Address.zeroText) (.ofInstant .start) .idle hreport
  have hchosen : cappedSurvey.chosen (Envelope.candidates (historyPayload oneText)) = [Address.zeroText] := by
    decide +kernel
  have hzero : Address.require (.str Address.zeroText) = .ok .zero := rfl
  rw [hzero, Except.ok.injEq] at howner
  subst howner
  have hpayload := Reply.value.inj (htells.1.symm.trans (tells_historyWorld oneText _).1)
  have hrange : 0 < cappedSurvey.scanRange := Int.natCast_pos.2 (by decide : 0 < 100)
  have hblock : unloggedWorld.Answers Desk.idle.view.timeout .blockNumber (Desk.idle.view.reads .blockNumber)
      (.int Script.standingBlock) := ⟨by decide +kernel, rfl⟩
  rw [hpayload, hchosen, hstart.back hrange _ hblock] at hperm
  rw [htotal] at hcount
  have hlength : (Trace.issued new).length = 7 := (hcount.trans (Nat.zero_add _)).symm
  exact ⟨hreturns, htotal, new, hnew, hlength, hperm⟩

end Work

end ChainRisk
