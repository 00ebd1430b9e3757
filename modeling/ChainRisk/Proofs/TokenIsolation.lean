import ChainRisk.Proofs.ExactReport

namespace ChainRisk

def Allowance.isOf (t : String) (x : Allowance) : Bool := x.token.str? == some t

def Script.retold (world : Script) (explorer : Option String → String → List (Entry Json)) : Script :=
  { world with explorer := explorer }

namespace Script

variable {world : Script} {v : View} {known : SpenderTable} {owner : Address} {t t' : String}

theorem token_of_mem_grantsOf {a : Address} {found : List String} {x : Allowance}
    (h : x ∈ world.grantsOf v known owner t a found) : x.token = .str t := by
  rw [grantsOf, List.mem_filterMap] at h
  obtain ⟨s, -, hs⟩ := h
  rw [grantOf] at hs
  split at hs
  · cases hs
    rfl
  · cases hs

theorem isOf_of_mem_listed {x : Allowance} (h : x ∈ world.listed v known owner t') :
    x.isOf t = (t' == t) := by
  rw [listed] at h
  split at h
  · rw [Allowance.isOf, token_of_mem_grantsOf h]
    rfl
  · cases h

theorem filter_flatMap_listed {tokens : List String} (hnodup : tokens.Nodup) (ht : t ∈ tokens) :
    (tokens.flatMap (world.listed v known owner)).filter (Allowance.isOf t) =
      world.listed v known owner t := by
  have hsame : (world.listed v known owner t).filter (Allowance.isOf t) = world.listed v known owner t :=
    List.filter_eq_self.2 fun x hx => by rw [isOf_of_mem_listed hx, beq_self_eq_true]
  have hother {t' : String} (hne : t' ≠ t) :
      (world.listed v known owner t').filter (Allowance.isOf t) = [] :=
    List.filter_eq_nil_iff.2 fun x hx => by rw [isOf_of_mem_listed hx]; simpa using hne
  induction tokens with
  | nil => cases ht
  | cons t' tokens ih =>
    obtain ⟨hnot, hnodup⟩ := List.nodup_cons.1 hnodup
    rw [List.flatMap_cons, List.filter_append]
    rcases List.mem_cons.1 ht with rfl | ht
    · rw [hsame, List.filter_flatMap, List.flatMap_eq_nil_iff.2, List.append_nil]
      rintro t' ht'
      exact hother (by rintro rfl; exact hnot ht')
    · rw [hother (by rintro rfl; exact hnot ht), ih hnodup ht, List.nil_append]

variable {explorer : Option String → String → List (Entry Json)}

theorem seen_retold (q : Query) : (world.retold explorer).seen v q = world.seen v q := by
  cases q <;> rfl

theorem sound_retold : (world.retold explorer).Sound v owner t ↔ world.Sound v owner t := by
  simp only [Sound, tokenLogs, seen_retold]

theorem listed_retold : (world.retold explorer).listed v known owner t = world.listed v known owner t := by
  simp only [listed, grantsOf, spendersOf, tokenLogs, tokenMetadata, tokenMetadata?, amountOf, seen_retold]

end Script

namespace Work

theorem allowances_isolate_tokens (world : Script) (survey : Survey) (spenders : List Spender)
    (hs : survey.spenders = .ofList spenders) (hw : world.ShortAmounts) {json payload : Json}
    {owner : Address} (howner : Address.require json = .ok owner) (m : Moment) (d : Desk)
    (hp : world.Tells (Script.historyQuery owner)
      (d.view.reads (.ofParameters (Script.historyQuery owner))) payload)
    (hl : Envelope.Lists payload) :
    let run := (allowances world survey json ⟨m, none⟩ d).1
    let tokens := survey.chosen (Envelope.candidates payload)
    ((∃ report, run.result = .ok report) ↔ (∃ b, world.startBlock d.view survey = .ok b) ∧
      (∀ t ∈ tokens, world.Sound d.view owner t) ∧
      ∃ stamp, world.stampAt run.ends.instant = .ok stamp) ∧
    ∀ report, run.result = .ok report → ∀ t ∈ tokens, t ∈ survey.chosen [t] →
      ∀ explorer alone m' report', (world.retold explorer).Tells (Script.historyQuery owner)
        (d.view.reads (.ofParameters (Script.historyQuery owner))) alone →
      Envelope.Lists alone → Envelope.candidates alone = [t] →
      (allowances (world.retold explorer) survey json ⟨m', none⟩ d).1.result = .ok report' →
      report'.allowances = report.allowances.filter (Allowance.isOf t) := by
  intro run tokens
  have hsettled := allowances_chosen world survey spenders hs hw howner m d hp hl
  constructor
  · constructor
    · rintro ⟨report, hr⟩
      obtain ⟨hb, hsound, stamp, hstamp, -⟩ := (settled_eq_ok_iff hsettled).1 hr
      exact ⟨hb, hsound, stamp, hstamp⟩
    · rintro ⟨hb, hsound, stamp, hstamp⟩
      exact ⟨_, (settled_eq_ok_iff hsettled).2 ⟨hb, hsound, stamp, hstamp, rfl⟩⟩
  · intro report hr t ht hleft explorer alone m' report' hp' hl' hcand hr'
    have hsettled' := allowances_chosen (world.retold explorer) survey spenders hs hw howner m' d hp' hl'
    have halone : survey.chosen [t] = [t] :=
      (Survey.chosen_sublist survey [t]).eq_of_length_le (List.length_pos_of_mem hleft)
    rw [hcand, halone] at hsettled'
    obtain ⟨-, -, -, -, rfl⟩ := (settled_eq_ok_iff hsettled).1 hr
    obtain ⟨-, -, -, -, rfl⟩ := (settled_eq_ok_iff hsettled').1 hr'
    simp only [List.flatMap_singleton, Script.listed_retold]
    exact (Script.filter_flatMap_listed (Survey.nodup_chosen survey payload) ht).symm

def historyPayload (other : String) : Json :=
  .obj [("status", .str "1"), ("result", .arr [.obj [("contractAddress", .str Address.zeroText)],
    .obj [("contractAddress", .str other)]])]

def historyWorld (other : String) : Script :=
  grantedWorld.retold fun action _ => if action = some "tokentx" then [.atOnce (historyPayload other)] else []

theorem tells_historyWorld (other : String) (n : Nat) :
    (historyWorld other).Tells (Script.historyQuery .zero) n (historyPayload other) := by
  refine ⟨?_, ⟨_, rfl⟩, fun h => h.1 rfl⟩
  change (Entry.pick _ [_] n).reply = _
  rw [Entry.pick_singleton]
  rfl

theorem lists_historyPayload (other : String) : Envelope.Lists (historyPayload other) := by
  intro items hitems item hitem
  cases hitems
  simp only [List.mem_cons, List.not_mem_nil, or_false] at hitem
  rcases hitem with rfl | rfl
  · exact ⟨_, rfl, fun v hv _ => ⟨Address.zeroText, by cases hv; rfl⟩⟩
  · exact ⟨_, rfl, fun v hv _ => ⟨other, by cases hv; rfl⟩⟩

def oneText : String := "0x0000000000000000000000000000000000000001"

theorem retold_historyWorld (other : String) : (historyWorld other).retold grantedWorld.explorer = grantedWorld := rfl

theorem ends_historyWorld :
    (allowances (historyWorld oneText) plainSurvey (.str Address.zeroText) ⟨.ofInstant .start, none⟩
      .idle).1.ends.instant = .start := by
  delta allowances surveyed transferHistory ofToken discovered spenders allowance
  simp only [address_text]
  decide +kernel

theorem candidates_pair : Envelope.candidates (historyPayload oneText) = [Address.zeroText, oneText] := by
  decide +kernel

theorem sound_historyWorld {other t : String} {a : Address} (ht : Address.ofText? t = some a) :
    (historyWorld other).Sound Desk.idle.view .zero t :=
  Script.sound_retold.2 (sound_grantedWorld _ ht)

theorem allowances_pairWorld :
    Envelope.candidates (historyPayload oneText) = [Address.zeroText, oneText] ∧
    ∃ report report' : AllowanceReport,
      (allowances (historyWorld oneText) plainSurvey (.str Address.zeroText) ⟨.ofInstant .start, none⟩
        .idle).1.result = .ok report ∧
      (allowances grantedWorld plainSurvey (.str Address.zeroText) ⟨.ofInstant .start, none⟩ .idle).1.result =
        .ok report' ∧
      report'.allowances = report.allowances.filter (Allowance.isOf Address.zeroText) := by
  have howner : Address.require (.str Address.zeroText) = .ok .zero := rfl
  have hone : Address.ofText? oneText = some ⟨List.replicate 19 0 ++ [1], rfl⟩ := rfl
  have halone : Envelope.candidates grantedPayload = [Address.zeroText] := by decide +kernel
  have hchosen (tokens : List String) : plainSurvey.chosen tokens = tokens := rfl
  have hsound : ∀ t ∈ plainSurvey.chosen (Envelope.candidates (historyPayload oneText)),
      (historyWorld oneText).Sound Desk.idle.view .zero t := by
    rw [hchosen, candidates_pair, List.forall_mem_cons, List.forall_mem_singleton]
    exact ⟨sound_historyWorld Address.ofText?_zeroText, sound_historyWorld hone⟩
  have hsound' : ∀ t ∈ plainSurvey.chosen (Envelope.candidates grantedPayload),
      grantedWorld.Sound Desk.idle.view .zero t := by
    rw [hchosen, halone, List.forall_mem_singleton]
    exact sound_grantedWorld _ Address.ofText?_zeroText
  obtain ⟨hreturns, hisolate⟩ := allowances_isolate_tokens (historyWorld oneText) plainSurvey [lender] rfl
    shortAmounts_grantedWorld howner (.ofInstant .start) .idle (tells_historyWorld _ _)
    (lists_historyPayload _)
  obtain ⟨hreturns', -⟩ := allowances_isolate_tokens grantedWorld plainSurvey [lender] rfl
    shortAmounts_grantedWorld howner (.ofInstant .start) .idle tells_grantedWorld lists_grantedPayload
  obtain ⟨report, hr⟩ :=
    hreturns.2 ⟨⟨_, rfl⟩, hsound, Script.exists_stampAt (shows_start rfl ends_historyWorld)⟩
  obtain ⟨report', hr'⟩ :=
    hreturns'.2 ⟨⟨_, rfl⟩, hsound', Script.exists_stampAt (shows_start rfl ends_grantedWorld)⟩
  have hmem : Address.zeroText ∈ plainSurvey.chosen (Envelope.candidates (historyPayload oneText)) := by
    rw [hchosen, candidates_pair]
    exact List.mem_cons_self
  have hretold := hr'
  rw [← retold_historyWorld oneText] at hretold
  exact ⟨candidates_pair, report, report', hr, hr', hisolate report hr Address.zeroText hmem List.mem_cons_self
    grantedWorld.explorer grantedPayload (.ofInstant .start) report' tells_grantedWorld lists_grantedPayload
    halone hretold⟩

theorem allowances_strayWorld :
    Address.require (.str Address.zeroText) = .ok .zero ∧
    (historyWorld "0xbad").Tells (Script.historyQuery .zero) 0 (historyPayload "0xbad") ∧
    Envelope.Lists (historyPayload "0xbad") ∧
    Envelope.candidates (historyPayload "0xbad") = [Address.zeroText, "0xbad"] ∧
    (historyWorld "0xbad").Sound Desk.idle.view .zero Address.zeroText ∧
    (allowances (historyWorld "0xbad") plainSurvey (.str Address.zeroText) ⟨.ofInstant .start, none⟩
      .idle).1.result = .error (.invalidAddress (.str "0xbad")) := by
  have howner : Address.require (.str Address.zeroText) = .ok .zero := rfl
  have hcand : Envelope.candidates (historyPayload "0xbad") = [Address.zeroText, "0xbad"] := by
    decide +kernel
  have hsound : (historyWorld "0xbad").Sound Desk.idle.view .zero Address.zeroText :=
    sound_historyWorld Address.ofText?_zeroText
  have hbad : (historyWorld "0xbad").tokenResult Desk.idle.view plainSurvey.spenders .zero "0xbad" =
      .error (.invalidAddress (.str "0xbad")) := rfl
  obtain ⟨j, hj, hr⟩ := allowances_chosen (historyWorld "0xbad") plainSurvey [lender] rfl
    shortAmounts_grantedWorld howner (.ofInstant .start) .idle (tells_historyWorld _ _)
    (lists_historyPayload _)
  rw [hcand] at hj
  change Activity.Joins [_, _] j at hj
  rw [Script.tokenResult_of_sound hsound, hbad] at hj
  refine ⟨howner, tells_historyWorld _ _, lists_historyPayload _, hcand, hsound, hr.trans ?_⟩
  cases j with
  | ok found =>
    have hmem : Except.error (Failure.invalidAddress (.str "0xbad")) ∈ found.map Except.ok := by
      rw [← hj.eq_map]
      simp
    simp at hmem
  | error e =>
    have hmem := hj.mem
    simp only [List.mem_cons, List.not_mem_nil, or_false, reduceCtorEq, false_or, Except.error.injEq] at hmem
    rw [hmem]
    rfl

end Work

end ChainRisk
