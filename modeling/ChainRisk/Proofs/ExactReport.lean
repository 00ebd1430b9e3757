import ChainRisk.Proofs.Failing
import ChainRisk.Proofs.Rounding
import ChainRisk.Proofs.SurveyRun

namespace ChainRisk

namespace Script

section

variable (world : Script) (v : View) (known : SpenderTable) (owner : Address)

/-- The text of a token denotes an address, and logs that are answered for it all have topics. -/
def Sound (t : String) : Prop :=
  ∃ a, Address.ofText? t = some a ∧ ∀ logs, world.tokenLogs v owner a = some logs →
    ∃ topics : List (List Bytes), logs = some (topics.map some)

def spendersOf (a : Address) : List String :=
  match world.tokenLogs v owner a with
  | some logs => (((logs.getD []).filterMap fun log => (log.getD [])[2]?).map Address.ofWord).eraseDups.map
      Address.text
  | none => known.addresses

def listed (t : String) : List Allowance :=
  match Address.ofText? t with
  | some a => world.grantsOf v known owner t a (world.spendersOf v known owner a)
  | none => []

end

variable {world : Script} {v : View} {known : SpenderTable} {owner a : Address} {t : String}

theorem mapM_spenderOf (topics : List (List Bytes)) :
    (topics.map some).mapM Work.spenderOf = .ok (topics.map fun ts => ts[2]?.map Address.ofWord) := by
  rw [mapM_eq_ok (g := fun log => (log.getD [])[2]?.map Address.ofWord)]
  · rw [List.map_map]
    rfl
  · intro log hlog
    obtain ⟨ts, -, rfl⟩ := List.mem_map.1 hlog
    rfl

theorem exists_topics_of_mapM {logs : List Log} {found : List (Option Address)}
    (h : logs.mapM Work.spenderOf = .ok found) : ∃ topics : List (List Bytes), logs = topics.map some := by
  induction logs generalizing found with
  | nil => exact ⟨[], rfl⟩
  | cons log logs ih =>
    obtain ⟨spender, rest, hlog, hrest, -⟩ := Attempt.mapM_cons_eq_ok_iff.1 h
    obtain ⟨topics, rfl⟩ := ih hrest
    cases log with
    | none => cases hlog
    | some ts => exact ⟨ts :: topics, rfl⟩

theorem tokenSpenders_eq_ok (h : ∀ logs, world.tokenLogs v owner a = some logs →
    ∃ topics : List (List Bytes), logs = some (topics.map some)) :
    world.tokenSpenders v known owner a = .ok (world.spendersOf v known owner a) := by
  rw [tokenSpenders, spendersOf]
  cases hl : world.tokenLogs v owner a with
  | none => rfl
  | some logs =>
    obtain ⟨topics, rfl⟩ := h logs hl
    simp only [Work.spendersOf, mapM_spenderOf, Except.map, Option.getD_some, List.filterMap_map,
      List.map_filterMap, Function.comp_def, id]

theorem sound_of_tokenSpenders {spenders : List String} (ht : Address.ofText? t = some a)
    (h : world.tokenSpenders v known owner a = .ok spenders) : world.Sound v owner t := by
  refine ⟨a, ht, fun logs hl => ?_⟩
  rw [tokenSpenders, hl] at h
  obtain ⟨as, has, -⟩ := Attempt.map_eq_ok_iff.1 h
  cases logs with
  | none => cases has
  | some logs =>
    obtain ⟨found, hm, -⟩ := Attempt.map_eq_ok_iff.1 has
    obtain ⟨topics, rfl⟩ := exists_topics_of_mapM hm
    exact ⟨topics, rfl⟩

theorem sound_of_tokenResult {found : List Allowance} (h : world.tokenResult v known owner t = .ok found) :
    world.Sound v owner t := by
  obtain ⟨a, ha, h⟩ := Attempt.bind_eq_ok_iff.1 h
  obtain ⟨spenders, hspenders, -⟩ := Attempt.bind_eq_ok_iff.1 h
  obtain ⟨s, hs, ht⟩ := Address.ofText?_of_require ha
  cases hs
  exact sound_of_tokenSpenders ht hspenders

theorem tokenResult_of_sound (h : world.Sound v owner t) :
    world.tokenResult v known owner t = .ok (world.listed v known owner t) := by
  obtain ⟨a, ht, hlogs⟩ := h
  rw [tokenResult_of_ofText? ht, tokenSpenders_eq_ok hlogs, listed, ht]
  rfl

theorem startBlock_eq_ok {survey : Survey} (h : 0 < survey.scanRange → ∀ x,
    world.Answers v.timeout .blockNumber (v.reads .blockNumber) x → ∃ n, x = .int n) :
    ∃ b, world.startBlock v survey = .ok b := by
  rw [startBlock]
  by_cases hrange : survey.scanRange ≤ 0
  · rw [if_pos hrange]
    exact ⟨_, rfl⟩
  · rw [if_neg hrange]
    cases hx : world.seen v .blockNumber with
    | none => exact ⟨_, rfl⟩
    | some x =>
      obtain ⟨n, rfl⟩ := h (by omega) x (seen_eq_some_iff.1 hx)
      exact ⟨_, rfl⟩

theorem historyAnswer_eq_ok_iff {tokens : List String} : world.historyAnswer v a = .ok tokens ↔ ∃ payload,
    world.Tells (historyQuery a) (v.reads (.ofParameters (historyQuery a))) payload ∧
      Envelope.tokens payload = .ok tokens := by
  rw [historyAnswer, Attempt.bind_eq_ok_iff]
  simp only [explorerAnswer_eq_ok_iff]

theorem exists_payload_of_historyAnswer {tokens : List String} (h : world.historyAnswer v a = .ok tokens) :
    ∃ payload, world.Tells (historyQuery a) (v.reads (.ofParameters (historyQuery a))) payload ∧
      tokens = Envelope.candidates payload := by
  obtain ⟨payload, htells, htokens⟩ := historyAnswer_eq_ok_iff.1 h
  exact ⟨payload, htells, Envelope.eq_candidates_of_tokens htokens⟩

theorem historyAnswer_eq_ok {payload : Json} (h : world.Tells (historyQuery owner)
    (v.reads (.ofParameters (historyQuery owner))) payload) (hl : Envelope.Lists payload) :
    world.historyAnswer v owner = .ok (Envelope.candidates payload) := by
  rw [historyAnswer, explorerAnswer_eq_ok_iff.2 h]
  exact Envelope.tokens_eq_candidates hl

theorem cast_thousand : ((1000 : Nat) : Binary64) = .finite false (1000 * Binary64.one) := by
  decide +kernel

/-- The clock tells a time of which 64 bits hold the nanoseconds. -/
def Shows (world : Script) (t : Instant) : Prop :=
  ∃ negative units, world.timeOfDay t = .finite negative units ∧ 10 ^ 9 * units ≤ 2 ^ 63 * Binary64.one

theorem exists_stampAt {t : Instant} (h : world.Shows t) : ∃ stamp, world.stampAt t = .ok stamp := by
  obtain ⟨negative, units, ht, hunits⟩ := h
  have hbound : 2 ^ 63 * Binary64.one + 1 < Binary64.bound := by decide +kernel
  have hproduct : units * (1000 * Binary64.one) / Binary64.one = units * 1000 := by
    rw [← Nat.mul_assoc, Nat.mul_div_cancel _ Binary64.one_pos]
  obtain ⟨stamp, hstamp⟩ := Binary64.exists_mul_eq_finite (u := units) (v := 1000 * Binary64.one)
    (by rw [hproduct]; omega) negative false
  rw [stampAt, ht, cast_thousand, hstamp]
  exact ⟨_, rfl⟩

end Script

namespace Work

theorem allowances_chosen (world : Script) (survey : Survey) (spenders : List Spender)
    (hs : survey.spenders = .ofList spenders) (hw : world.ShortAmounts) {json payload : Json}
    {owner : Address} (howner : Address.require json = .ok owner) (m : Moment) (d : Desk)
    (hp : world.Tells (Script.historyQuery owner)
      (d.view.reads (.ofParameters (Script.historyQuery owner))) payload)
    (hl : Envelope.Lists payload) :
    Settled world survey d.view owner (survey.chosen (Envelope.candidates payload))
      (allowances world survey json ⟨m, none⟩ d).1.result
      (allowances world survey json ⟨m, none⟩ d).1.ends := by
  have hk : Address.Apart survey.spenders.addresses := by
    rw [hs]
    exact SpenderTable.apart_addresses spenders
  exact allowances_settled hw hk howner m d (Script.historyAnswer_eq_ok hp hl)
    (Survey.apart_chosen survey payload)

variable {world : Script} {survey : Survey} {v : View} {owner : Address} {tokens : List String}
  {r : Attempt AllowanceReport} {m : Moment}

theorem settled_of_sound (h : Settled world survey v owner tokens r m)
    (hb : ∃ b, world.startBlock v survey = .ok b) (hsound : ∀ t ∈ tokens, world.Sound v owner t) :
    r = (world.stampAt m.instant).map fun stamp => ⟨.str owner.text,
      tokens.flatMap (world.listed v survey.spenders owner), .int stamp, v.network.chainId⟩ := by
  have hresults : tokens.map (world.tokenResult v survey.spenders owner) =
      (tokens.map (world.listed v survey.spenders owner)).map .ok := by
    rw [List.map_map]
    exact List.map_congr_left fun t ht => Script.tokenResult_of_sound (hsound t ht)
  obtain ⟨b, hb⟩ := hb
  rw [Settled, hb, hresults] at h
  obtain ⟨j, hj, hr⟩ := h
  rw [hr, hj.eq_ok]
  rfl

theorem sound_of_settled (h : Settled world survey v owner tokens r m) {report : AllowanceReport}
    (hr : r = .ok report) :
    (∃ b, world.startBlock v survey = .ok b) ∧ ∀ t ∈ tokens, world.Sound v owner t := by
  rw [Settled] at h
  cases hb : world.startBlock v survey with
  | error e =>
    rw [hb] at h
    cases hr.symm.trans h
  | ok b =>
    rw [hb] at h
    obtain ⟨j, hj, hj'⟩ := h
    refine ⟨⟨b, rfl⟩, fun t ht => ?_⟩
    obtain ⟨found, rfl, -⟩ := Attempt.bind_eq_ok_iff.1 (hj'.symm.trans hr)
    have hmem := List.mem_map_of_mem (f := world.tokenResult v survey.spenders owner) ht
    rw [hj.eq_map, List.mem_map] at hmem
    obtain ⟨l, -, hl⟩ := hmem
    exact Script.sound_of_tokenResult hl.symm

theorem settled_eq_ok_iff (h : Settled world survey v owner tokens r m) {report : AllowanceReport} :
    r = .ok report ↔ (∃ b, world.startBlock v survey = .ok b) ∧ (∀ t ∈ tokens, world.Sound v owner t) ∧
      ∃ stamp, world.stampAt m.instant = .ok stamp ∧ report = ⟨.str owner.text,
        tokens.flatMap (world.listed v survey.spenders owner), .int stamp, v.network.chainId⟩ := by
  constructor
  · intro hr
    obtain ⟨hb, hsound⟩ := sound_of_settled h hr
    rw [settled_of_sound h hb hsound] at hr
    obtain ⟨stamp, hstamp, rfl⟩ := Attempt.map_eq_ok_iff.1 hr
    exact ⟨hb, hsound, stamp, hstamp, rfl⟩
  · rintro ⟨hb, hsound, stamp, hstamp, rfl⟩
    rw [settled_of_sound h hb hsound, hstamp]
    rfl

/-- No pause and no size of a batch has a part in the allowances; only the clock is read after the pauses. -/
theorem allowances_exact (world : Script) (survey : Survey) (spenders : List Spender)
    (hs : survey.spenders = .ofList spenders) (hcap : ∀ n, survey.cap = some n → 1 ≤ n)
    (hw : world.ShortAmounts) {json payload : Json} {owner : Address}
    (howner : Address.require json = .ok owner) (m : Moment) (d : Desk)
    (hp : world.Tells (Script.historyQuery owner)
      (d.view.reads (.ofParameters (Script.historyQuery owner))) payload)
    (hl : Envelope.Lists payload)
    (hb : 0 < survey.scanRange → ∀ x,
      world.Answers d.view.timeout .blockNumber (d.view.reads .blockNumber) x → ∃ n, x = .int n)
    (ht : ∀ t ∈ survey.looksAt payload, world.Sound d.view owner t)
    (hclock : world.Shows (allowances world survey json ⟨m, none⟩ d).1.ends.instant) :
    let run := (allowances world survey json ⟨m, none⟩ d).1
    ∃ stamp, world.stampAt run.ends.instant = .ok stamp ∧ run.result = .ok ⟨.str owner.text,
      (survey.looksAt payload).flatMap (world.listed d.view survey.spenders owner), .int stamp,
      d.client.network.chainId⟩ := by
  intro run
  have hsettled := allowances_chosen world survey spenders hs hw howner m d hp hl
  rw [Survey.chosen_candidates payload hcap] at hsettled
  obtain ⟨stamp, hstamp⟩ := Script.exists_stampAt hclock
  exact ⟨stamp, hstamp,
    (settled_eq_ok_iff hsettled).2 ⟨Script.startBlock_eq_ok hb, ht, stamp, hstamp, rfl⟩⟩

def lender : Spender := .ofTexts Address.zeroText "Vault" "Lending" "LOW"

def plainSurvey : Survey := ⟨.ofList [lender], 5, fun _ => .zero, none, 0, by decide⟩

def grantedPayload : Json :=
  .obj [("status", .str "1"), ("result", .arr [.obj [("contractAddress", .str Address.zeroText)]])]

def grantedWorld : Script :=
  { Script.quiet with
    logs := fun _ => [⟨.fault ⟨.value, "execution reverted"⟩, .zero⟩]
    allowance := fun _ _ => [.atOnce (.int 1)]
    explorer := fun action _ => if action = some "tokentx" then [.atOnce grantedPayload] else [] }

theorem shortAmounts_grantedWorld : grantedWorld.ShortAmounts := by
  intro t s e he x hx n hn
  rw [List.mem_singleton.1 he] at hx
  cases hx
  cases hn
  have h : 1 < 10 ^ Numeral.digitLimit := Nat.one_lt_pow (by decide) (by decide)
  generalize Numeral.digitLimit = l at h ⊢
  exact_mod_cast h

theorem sound_grantedWorld (v : View) {t : String} {a : Address} (ht : Address.ofText? t = some a) :
    grantedWorld.Sound v .zero t := by
  refine ⟨a, ht, fun logs hlogs => ?_⟩
  have hreply := (Script.seen_eq_some_iff.1 hlogs).2
  change (Entry.pick _ [_] _).reply = _ at hreply
  rw [Entry.pick_singleton] at hreply
  cases hreply

theorem tells_grantedWorld : grantedWorld.Tells (Script.historyQuery .zero)
    (Desk.idle.view.reads (.ofParameters (Script.historyQuery .zero))) grantedPayload :=
  ⟨rfl, ⟨_, rfl⟩, fun h => h.1 rfl⟩

theorem lists_grantedPayload : Envelope.Lists grantedPayload := by
  intro items hitems item hitem
  cases hitems
  rw [List.mem_singleton.1 hitem]
  exact ⟨_, rfl, fun v hv _ => ⟨Address.zeroText, by cases hv; rfl⟩⟩

theorem ends_grantedWorld :
    (allowances grantedWorld plainSurvey (.str Address.zeroText) ⟨.ofInstant .start, none⟩
      .idle).1.ends.instant = .start := by
  -- the owner's text is read back by a law: its capitals come from a digest
  delta allowances surveyed transferHistory ofToken discovered spenders allowance
  simp only [address_text]
  decide +kernel

theorem shows_start {world : Script} {t : Instant} (h : world.epoch = .zero) (ht : t = .start) :
    world.Shows t := by
  refine ⟨false, 0, ?_, Nat.zero_le _⟩
  rw [Script.timeOfDay, h, ht]
  decide +kernel

theorem allowances_grantedWorld :
    plainSurvey.looksAt grantedPayload = [Address.zeroText] ∧
    ∃ stamp, (allowances grantedWorld plainSurvey (.str Address.zeroText) ⟨.ofInstant .start, none⟩
      .idle).1.result = .ok ⟨.str Address.zero.text, (plainSurvey.looksAt grantedPayload).flatMap
        (grantedWorld.listed Desk.idle.view plainSurvey.spenders .zero), .int stamp, .int 1⟩ := by
  have howner : Address.require (.str Address.zeroText) = .ok .zero := rfl
  have hlooks : plainSurvey.looksAt grantedPayload = [Address.zeroText] := by decide +kernel
  have hsound : ∀ t ∈ plainSurvey.looksAt grantedPayload, grantedWorld.Sound Desk.idle.view .zero t := by
    intro t ht
    rw [hlooks, List.mem_singleton] at ht
    rw [ht]
    exact sound_grantedWorld _ Address.ofText?_zeroText
  obtain ⟨stamp, -, hresult⟩ := allowances_exact grantedWorld plainSurvey [lender] rfl (by nofun)
    shortAmounts_grantedWorld howner (.ofInstant .start) .idle tells_grantedWorld lists_grantedPayload (by nofun)
    hsound (shows_start rfl ends_grantedWorld)
  exact ⟨hlooks, stamp, hresult⟩

end Work

end ChainRisk
