import ChainRisk.Proofs.DegradedFields
import ChainRisk.Proofs.PlannedReads

namespace ChainRisk

namespace Script

/-- Worlds that answer the same reads alike, be it sooner or later, and fail the others, be it in another
way. -/
structure Alike (limit : Duration) (world world' : Script) : Prop where
  node : ∀ (q : Query) n x, world.Answers limit q n x ↔ world'.Answers limit q n x
  explorer : ∀ params n payload, world.Tells params n payload ↔ world'.Tells params n payload

namespace Alike

variable {world world' : Script} {v : View}

theorem seen_eq (h : Alike v.timeout world world') (q : Query) : world.seen v q = world'.seen v q := by
  ext x
  rw [seen_eq_some_iff, seen_eq_some_iff]
  exact h.node q _ x

theorem degradedFields_eq (h : Alike v.timeout world world') (known : SpenderTable) (owner : Address)
    (tokens : List Address) :
    world.degradedFields v known owner tokens = world'.degradedFields v known owner tokens := by
  simp only [degradedFields, metadataFails_iff (t := ""), logsFail_iff, allowanceFails_iff, tokenMetadata?,
    tokenLogs, amount?, spendersOf, h.seen_eq]

end Alike

end Script

namespace Work

open Activity

variable {world : Script} {survey : Survey} {l : Tally} {v : View} {owner : Address}

structure Surveyed (world : Script) (v : View) (known : SpenderTable) (owner : Address) (tokens : List String)
    (entries : List Allowance) (n n' : Nat) : Prop where
  addresses : ∀ t ∈ tokens, ∃ a, Address.ofText? t = some a
  degraded : n' = n + world.degradedFields v known owner (tokens.filterMap Address.ofText?)
  classified : ∀ x ∈ entries, ∃ t ∈ tokens, ∃ a, Address.ofText? t = some a ∧
    Classified known t (world.spendersOf v known owner a) x

theorem surveyed_of_goes {fromBlock : Json} {tokens : List String} {given : List (List Allowance)} {d d' : Desk}
    (hk : Address.Apart survey.spenders.addresses)
    (h : Goes (ofToken world survey owner.text fromBlock) tokens d given d')
    (hapart : Address.Apart tokens) (hv : View.Ready tokens v d.view) :
    Surveyed world v survey.spenders owner tokens given.flatten d.statistics.degraded d'.statistics.degraded := by
  induction h with
  | nil d => exact ⟨nofun, rfl, nofun⟩
  | @cons t ts d d' entries given m h hs ih =>
    obtain ⟨a, hthrough⟩ := (tallies_ofToken hk fun a ha => hv t List.mem_cons_self a ha).run m rfl entries h
    obtain ⟨hne, hapart⟩ := List.pairwise_cons.1 hapart
    obtain ⟨haddresses, hdegraded, hclassified⟩ := ih hapart fun t' ht' b hb => by
      refine (hv t' (List.mem_cons_of_mem _ ht') b hb).trans (hthrough.others.mono ?_)
      rintro x hx hxa
      cases hx.symm.trans hxa
      exact hne t' ht' a hthrough.address hb
    refine ⟨?_, ?_, fun x hx => ?_⟩
    · rw [List.forall_mem_cons]
      exact ⟨⟨a, hthrough.address⟩, haddresses⟩
    · have hfirst := hthrough.degraded
      rw [List.filterMap_cons_some hthrough.address, Script.degradedFields_cons, hdegraded]
      simp only [Desk.tally] at hfirst
      omega
    · rw [List.flatten_cons] at hx
      rcases List.mem_append.1 hx with hx | hx
      · exact ⟨t, List.mem_cons_self, a, hthrough.address, hthrough.entries x hx⟩
      · obtain ⟨t', ht', hclass⟩ := hclassified x hx
        exact ⟨t', List.mem_cons_of_mem _ ht', hclass⟩

theorem tallies_surveyed (hk : Address.Apart survey.spenders.addresses)
    (hapart : ∀ tokens, world.historyAnswer l.view owner = .ok tokens → Address.Apart (survey.chosen tokens)) :
    Tallies (surveyed world survey owner) l fun r u => ∀ report, r = .ok report →
      ∃ tokens, world.historyAnswer l.view owner = .ok tokens ∧
        Surveyed world l.view survey.spenders owner (survey.chosen tokens) report.allowances l.degraded
          u.degraded := by
  have htouched : View.SameOn (fun x => x ≠ .ofParameters (Script.historyQuery owner)) l.view
      (l.view.touch (.ofParameters (Script.historyQuery owner))) := (View.SameOn.refl _).touch fun hx => hx rfl
  have hreads := Desk.readSteps_sameDegraded
  apply yields_bind
  apply tallies_of_reads (respects_transferHistory hreads _)
  apply yields_transferHistory
  cases htokens : world.historyAnswer l.view owner with
  | error e => exact nofun
  | ok tokens =>
    apply yields_bind
    apply tallies_of_reads (respects_firstBlock hreads survey)
    refine yields_firstBlock (v := l.view) (htouched.mono (by rintro x rfl hx; cases hx)) fun u hu => ?_
    cases world.startBlock l.view survey with
    | error e => exact nofun
    | ok fromBlock =>
      have hflat := flatten_batches survey.batchSize survey.batchSize_pos (survey.chosen tokens)
      have hready : View.Ready (survey.chosen tokens) l.view u := by
        refine fun t _ a _ => (htouched.mono ?_).trans (hu.mono ?_)
        · rintro x hx rfl
          cases hx
        · rintro x hx rfl
          cases hx
      apply yields_bind
      refine yields_of_run fun m d hd => ?_
      cases hr : (ofBatches survey (ofToken world survey owner.text fromBlock) 0
          (batches survey.batchSize survey.batchSize_pos (survey.chosen tokens)) ⟨m, none⟩ d).1.result with
      | error e => exact nofun
      | ok found =>
        obtain ⟨given, rfl, hgoes⟩ := goes_of_ofBatches hr
        rw [hflat] at hgoes
        have hview : d.view = u := congrArg Tally.view hd
        have hdegraded : d.statistics.degraded = l.degraded := congrArg Tally.degraded hd
        have hsurveyed := surveyed_of_goes hk hgoes (hapart tokens htokens) (hview ▸ hready)
        refine yields_reported fun r hr report hreport => ⟨tokens, rfl, ?_⟩
        rw [hr report hreport, ← hdegraded]
        exact hsurveyed

theorem tallies_allowances (hk : Address.Apart survey.spenders.addresses) {json : Json}
    (howner : Address.require json = .ok owner) :
    Tallies (allowances world survey json) l fun r u => ∀ report, r = .ok report → ∃ payload,
      world.Tells (Script.historyQuery owner) (l.view.reads (.ofParameters (Script.historyQuery owner))) payload ∧
      Surveyed world l.view survey.spenders owner (survey.chosen (Envelope.candidates payload)) report.allowances
        l.degraded u.degraded := by
  rw [allowances, address, howner]
  apply yields_bind
  apply yields_pure
  apply yields_recorded fun _ _ _ => rfl
  refine yields_mono (tallies_surveyed hk fun tokens h => ?_) fun r u hr report hreport => ?_
  · obtain ⟨payload, -, rfl⟩ := Script.exists_payload_of_historyAnswer h
    exact Survey.apart_chosen survey payload
  · obtain ⟨tokens, htokens, hsurveyed⟩ := hr report hreport
    obtain ⟨payload, htells, rfl⟩ := Script.exists_payload_of_historyAnswer htokens
    exact ⟨payload, htells, hsurveyed⟩

theorem surveyed_of_allowances {spenders : List Spender} (hs : survey.spenders = .ofList spenders) {json : Json}
    {m : Moment} {d : Desk} {report : AllowanceReport}
    (h : (allowances world survey json ⟨m, none⟩ d).1.result = .ok report) :
    ∃ owner payload, Address.require json = .ok owner ∧
      world.Tells (Script.historyQuery owner) (d.view.reads (.ofParameters (Script.historyQuery owner))) payload ∧
      Surveyed world d.view survey.spenders owner (survey.chosen (Envelope.candidates payload)) report.allowances
        d.statistics.degraded (allowances world survey json ⟨m, none⟩ d).2.statistics.degraded := by
  cases howner : Address.require json with
  | error e =>
    rw [allowances, address, howner] at h
    cases h
  | ok owner =>
    have hk : Address.Apart survey.spenders.addresses := hs ▸ SpenderTable.apart_addresses spenders
    obtain ⟨payload, htells, hsurveyed⟩ := (tallies_allowances (l := d.tally) hk howner).run m rfl report h
    exact ⟨owner, payload, rfl, htells, hsurveyed⟩

theorem allowances_count_degraded (world : Script) (survey : Survey) (spenders : List Spender)
    (hs : survey.spenders = .ofList spenders) (json : Json) (m : Moment) (d : Desk) {report : AllowanceReport}
    (h : (allowances world survey json ⟨m, none⟩ d).1.result = .ok report) :
    ∃ owner payload, Address.require json = .ok owner ∧
      world.Tells (Script.historyQuery owner) (d.view.reads (.ofParameters (Script.historyQuery owner))) payload ∧
      (∀ t ∈ survey.chosen (Envelope.candidates payload), ∃ a, Address.ofText? t = some a) ∧
      let lost := world.degradedFields d.view survey.spenders owner
        ((survey.chosen (Envelope.candidates payload)).filterMap Address.ofText?)
      (allowances world survey json ⟨m, none⟩ d).2.statistics.degraded = d.statistics.degraded + lost ∧
      ∀ world' survey' m' d' report', world.Alike d.view.timeout world' → survey'.spenders = survey.spenders →
        survey'.cap = survey.cap → d'.view = d.view →
        (allowances world' survey' json ⟨m', none⟩ d').1.result = .ok report' →
        (allowances world' survey' json ⟨m', none⟩ d').2.statistics.degraded = d'.statistics.degraded + lost := by
  obtain ⟨owner, payload, howner, htells, hsurveyed⟩ := surveyed_of_allowances hs h
  refine ⟨owner, payload, howner, htells, hsurveyed.addresses, hsurveyed.degraded, ?_⟩
  intro world' survey' m' d' report' halike hspenders hcap hview h'
  obtain ⟨owner', payload', howner', htells', hsurveyed'⟩ := surveyed_of_allowances (hspenders.trans hs) h'
  cases howner.symm.trans howner'
  rw [hview] at htells' hsurveyed'
  cases htells.1.symm.trans ((halike.explorer _ _ _).2 htells').1
  have hchosen (tokens : List String) : survey'.chosen tokens = survey.chosen tokens := by
    rw [Survey.chosen, Survey.chosen, hcap]
  rw [hsurveyed'.degraded, hspenders, hchosen, halike.degradedFields_eq]

theorem allowances_count_degraded_unloggedWorld :
    let run := allowances unloggedWorld cappedSurvey (.str Address.zeroText) ⟨.ofInstant .start, none⟩ .idle
    Except.isOk run.1.result = true ∧ run.2.statistics.degraded = 3 ∧
      unloggedWorld.degradedFields Desk.idle.view cappedSurvey.spenders .zero [.zero] = 3 := by
  dsimp only
  obtain ⟨hreturns, -, -⟩ := run_unloggedWorld
  obtain ⟨report, hreport⟩ := Attempt.isOk_eq_true_iff.1 hreturns
  obtain ⟨owner, payload, howner, htells, -, hdegraded, -⟩ :=
    allowances_count_degraded unloggedWorld cappedSurvey _ rfl (.str Address.zeroText) (.ofInstant .start) .idle
      hreport
  have hzero : Address.require (.str Address.zeroText) = .ok .zero := rfl
  rw [hzero, Except.ok.injEq] at howner
  subst howner
  have hpayload := Reply.value.inj (htells.1.symm.trans (tells_historyWorld oneText _).1)
  have hchosen : (cappedSurvey.chosen (Envelope.candidates (historyPayload oneText))).filterMap Address.ofText? =
      [.zero] := by decide +kernel
  have hlost : unloggedWorld.degradedFields Desk.idle.view cappedSurvey.spenders .zero [.zero] = 3 := by
    decide +kernel
  rw [hpayload, hchosen, hlost] at hdegraded
  exact ⟨hreturns, hdegraded, hlost⟩

end Work

end ChainRisk
