import ChainRisk.Proofs.Passage
import ChainRisk.Proofs.TokenReads

namespace ChainRisk

namespace Script

variable (world : Script) (v : View) (owner : Address)

def historyQuery : Keyed Json := Work.accountQuery "tokentx" owner [("sort", .str "desc")]

def historyAnswer : Attempt (List String) :=
  (world.explorerAnswer v.timeout (historyQuery owner)
    (v.reads (.ofParameters (historyQuery owner)))).bind Envelope.tokens

def startBlock (survey : Survey) : Attempt Json :=
  if survey.scanRange ≤ 0 then .ok (.int 0)
  else
    match world.seen v .blockNumber with
    | some latest => Survey.lookBack latest survey.scanRange
    | none => .ok (.int 0)

def stampAt (t : Instant) : Attempt Int := (Json.real (world.timeOfDay t * (1000 : Nat))).toInt

end Script

def View.Ready (ts : List String) (v u : View) : Prop :=
  ∀ t ∈ ts, ∀ a, Address.ofText? t = some a → View.SameOn (·.token? = some a) v u

namespace Work

open Activity

variable {world : Script} {survey : Survey} {v u : View} {owner : Address}

theorem yields_transferHistory {Q : Attempt (List String) → View → Prop}
    (h : Q (world.historyAnswer v owner) (v.touch (.ofParameters (Script.historyQuery owner)))) :
    Yields (transferHistory world (.str owner.text)) v Q := by
  apply yields_bind
  apply yields_address (Address.ofText?_text owner)
  apply yields_bind
  apply yields_explorer
  exact after_of_bind (fun _ _ hq => yields_ofAttempt hq) h

theorem yields_firstBlock {Q : Attempt Json → View → Prop} (hu : View.SameOn (· = .blockNumber) v u)
    (h : ∀ u', View.SameOn (· ≠ .blockNumber) u u' → Q (world.startBlock v survey) u') :
    Yields (firstBlock world survey) u Q := by
  rw [Script.startBlock] at h
  change Activity.Yields _ (if survey.scanRange ≤ 0 then _ else _) _ _
  by_cases hrange : survey.scanRange ≤ 0
  · rw [if_pos hrange] at h ⊢
    exact yields_pure (h u (.refl u))
  · rw [if_neg hrange] at h ⊢
    apply yields_bind
    apply yields_attempt
    refine yields_seen hu ?_
    intro r hr hnet
    have hq := h _ ((View.SameOn.refl u).touch (x := .blockNumber) fun hx => hx rfl)
    rw [← hr] at hq
    cases r with
    | ok latest => exact yields_ofAttempt hq
    | error e =>
      change Activity.Yields _ (if e.isIn .network = true then _ else _) _ _
      rw [if_pos (hnet e rfl)]
      exact yields_pure hq

theorem yieldsEach_ofToken (hw : world.ShortAmounts) (hk : Address.Apart survey.spenders.addresses)
    {fromBlock : Json} {batch later : List String} {Q : List (Attempt (List Allowance)) → View → Prop}
    (hapart : Address.Apart (batch ++ later)) (hu : View.Ready (batch ++ later) v u)
    (h : ∀ u', View.SameOn (·.token? = none) u u' → View.Ready later v u' →
      Q (batch.map (world.tokenResult v survey.spenders owner)) u') :
    YieldsEach Desk.view (batch.map (ofToken world survey owner.text fromBlock)) u Q := by
  -- the work on a token touches no token that denotes another address
  induction batch generalizing u Q with
  | nil => exact h u (.refl u) hu
  | cons t batch ih =>
    obtain ⟨hne, hapart⟩ := List.pairwise_cons.1 hapart
    apply yields_ofToken hw hk (fun a ht => hu t (by simp) a ht)
    intro u₁ hu₁
    have hready : View.Ready (batch ++ later) v u₁ := by
      intro t' ht' a ha
      refine (hu t' (List.mem_cons_of_mem _ ht') a ha).trans (hu₁.mono ?_)
      rintro x hx b hb hxb
      cases hx.symm.trans hxb
      exact hne t' ht' a hb ha
    refine ih hapart hready fun u₂ hu₂ hlater => h u₂ ?_ hlater
    refine (hu₁.mono ?_).trans hu₂
    rintro x hx a - hxa
    cases hx.symm.trans hxa

theorem yields_pause {d : Binary64} {Q : Attempt Unit → View → Prop} (h : Q (.ok ()) v) :
    Yields (pause d) v Q := by
  unfold pause
  split
  · exact yields_wait h
  · exact yields_pure h

theorem yields_ofBatches (hw : world.ShortAmounts) (hk : Address.Apart survey.spenders.addresses)
    {fromBlock : Json} {i : Nat} {bs : List (List String)} {Q : Attempt (List Allowance) → View → Prop}
    (hapart : Address.Apart bs.flatten) (hu : View.Ready bs.flatten v u)
    (h : ∀ j u', Joins (bs.flatten.map (world.tokenResult v survey.spenders owner)) j →
      View.SameOn (·.token? = none) u u' → Q (j.map List.flatten) u') :
    Yields (ofBatches survey (ofToken world survey owner.text fromBlock) i bs) u Q := by
  -- on the batches: a failed one ends the run, whatever the later ones would come to
  induction bs generalizing i u Q with
  | nil => exact yields_pure (h (.ok []) u (.values []) (.refl u))
  | cons batch rest ih =>
    rw [List.flatten_cons] at hapart hu
    have hrest : Address.Apart rest.flatten := (List.pairwise_append.1 hapart).2.1
    cases rest with
    | nil =>
      apply yields_bind
      apply yields_all
      apply yieldsEach_ofToken hw hk hapart hu
      intro u₁ hu₁ _ j hj
      have hq := h j u₁ (by simpa using hj) hu₁
      cases j with
      | error e => exact hq
      | ok found => exact yields_pure hq
    | cons next rest =>
      apply yields_bind
      apply yields_all
      apply yieldsEach_ofToken hw hk hapart hu
      intro u₁ hu₁ hready j hj
      cases j with
      | error e =>
        refine h (.error e) u₁ ?_ hu₁
        rw [List.flatten_cons, List.map_append]
        exact hj.append_error _
      | ok found =>
        apply yields_bind
        apply yields_pause
        refine yields_bind (ih hrest hready fun j' u₂ hj' hu₂ => ?_)
        have hq := h (j'.map (found ++ ·)) u₂
          (by rw [List.flatten_cons, List.map_append]; exact hj.append hj') (hu₁.trans hu₂)
        cases j' with
        | error e => exact hq
        | ok later => exact yields_pure (by simpa [Except.map] using hq)

theorem pause_state (x : Binary64) (w : Window) (d : Desk) : (pause x w d).2 = d := by
  unfold pause
  split <;> rfl

theorem goes_of_ofBatches {process : String → Work (List Allowance)} {i : Nat} {bs : List (List String)}
    {m : Moment} {d : Desk} {found : List Allowance}
    (h : (ofBatches survey process i bs ⟨m, none⟩ d).1.result = .ok found) :
    ∃ given, found = given.flatten ∧
      Goes process bs.flatten d given (ofBatches survey process i bs ⟨m, none⟩ d).2 := by
  induction bs generalizing i m d found with
  | nil =>
    cases h
    exact ⟨[], rfl, .nil d⟩
  | cons batch rest ih =>
    cases rest with
    | nil =>
      obtain ⟨given, n, hgiven, hfound, hstate⟩ := exists_of_bind_eq_ok h
      cases hfound
      refine ⟨given, rfl, ?_⟩
      rw [List.flatten_cons, List.flatten_nil, List.append_nil]
      exact hstate.symm ▸ goes_of_all hgiven
    | cons next rest =>
      obtain ⟨given, n, hgiven, hafter, hstate⟩ := exists_of_bind_eq_ok h
      obtain ⟨-, n', -, hpaused, hstate'⟩ := exists_of_bind_eq_ok hafter
      obtain ⟨later, n'', hlater, hfound, hstate''⟩ := exists_of_bind_eq_ok hpaused
      rw [pause_state] at hstate' hlater hstate''
      cases hfound
      obtain ⟨givenLater, rfl, hgoes⟩ := ih hlater
      refine ⟨given ++ givenLater, List.flatten_append.symm, ?_⟩
      rw [List.flatten_cons]
      refine (goes_of_all hgiven).append ?_
      exact (hstate.trans (hstate'.trans hstate'')).symm ▸ hgoes

theorem recorded_run {α : Type} (world : Script) (x : Work α) (w : Window) (d : Desk) :
    let run := x w d
    (recorded world x w d).1.result = run.1.result ∧ (recorded world x w d).1.ends = run.1.ends ∧
    (w.reaches run.1.ends = true → (recorded world x w d).2 = run.2.recordRun
      (milliseconds (world.timeOfDay w.start.instant) (world.timeOfDay run.1.ends.instant))
      (Except.isOk run.1.result)) := by
  rcases hx : x w d with ⟨⟨r, ends, pause, settles⟩, d'⟩
  cases r with
  | ok a =>
    simp only [recorded, clock, attempt, now, update, ofAttempt, Bind.bind, Activity.bind, Activity.pure, hx,
      true_and]
    exact fun h => if_pos h
  | error e =>
    simp only [recorded, clock, attempt, now, update, ofAttempt, Bind.bind, Activity.bind, Activity.pure,
      Activity.fail, hx, true_and]
    exact fun h => if_pos h

def reported (world : Script) (owner : Address) (found : List Allowance) : Work AllowanceReport := do
  let stamp ← timestamp world
  let d ← inspect
  Activity.pure ⟨.str owner.text, found, .int stamp, d.client.network.chainId⟩

theorem yields_reported {ν : Type} {π : Desk → ν} {u : ν} {found : List Allowance}
    {Q : Attempt AllowanceReport → ν → Prop}
    (h : ∀ r, (∀ report, r = .ok report → report.allowances = found) → Q r u) :
    Activity.Yields π (reported world owner found) u Q := by
  apply yields_bind
  apply yields_bind
  refine yields_clock fun seconds => ?_
  apply yields_ofAttempt
  cases (Json.real (seconds * (1000 : Nat))).toInt with
  | error e => exact h _ nofun
  | ok stamp =>
    refine yields_bind (yields_inspect fun d _ => yields_pure (h _ ?_))
    rintro _ ⟨⟩
    rfl

theorem ends_reported {found : List Allowance} {Q : Attempt AllowanceReport → Moment → View → Prop}
    (h : ∀ m, Q ((world.stampAt m.instant).map fun stamp =>
      ⟨.str owner.text, found, .int stamp, v.network.chainId⟩) m v) :
    Ends Desk.view (reported world owner found) v Q := by
  rintro m d rfl
  have hm := h m
  rw [Script.stampAt] at hm
  cases hs : (Json.real (world.timeOfDay m.instant * (1000 : Nat))).toInt <;> rw [hs] at hm <;>
    simp only [reported, timestamp, clock, now, inspect, ofAttempt, Bind.bind, Activity.bind,
      Activity.pure, Activity.fail, hs] <;> exact hm

def Settled (world : Script) (survey : Survey) (v : View) (owner : Address) (tokens : List String)
    (r : Attempt AllowanceReport) (m : Moment) : Prop :=
  match world.startBlock v survey with
  | .error e => r = .error e
  | .ok _ => ∃ j, Joins (tokens.map (world.tokenResult v survey.spenders owner)) j ∧
    r = j.bind fun found => (world.stampAt m.instant).map fun stamp =>
      ⟨.str owner.text, found.flatten, .int stamp, v.network.chainId⟩

theorem ends_surveyed (hw : world.ShortAmounts) (hk : Address.Apart survey.spenders.addresses)
    {tokens : List String} (htokens : world.historyAnswer v owner = .ok tokens)
    (hapart : Address.Apart (survey.chosen tokens)) :
    Ends Desk.view (surveyed world survey owner) v fun r m _ =>
      Settled world survey v owner (survey.chosen tokens) r m := by
  have htouched : View.SameOn (fun x => x ≠ .ofParameters (Script.historyQuery owner)) v
      (v.touch (.ofParameters (Script.historyQuery owner))) := (View.SameOn.refl v).touch fun hx => hx rfl
  apply ends_bind
  apply yields_transferHistory
  rw [htokens]
  apply ends_bind
  apply yields_firstBlock (htouched.mono (by rintro x rfl hx; cases hx))
  intro u₁ hu₁
  unfold Settled
  cases hb : world.startBlock v survey with
  | error e => exact fun m => rfl
  | ok fromBlock =>
    have hready : View.Ready (survey.chosen tokens) v u₁ := by
      refine fun t _ a _ => (htouched.mono ?_).trans (hu₁.mono ?_)
      · rintro x hx rfl
        cases hx
      · rintro x hx rfl
        cases hx
    have hflat := flatten_batches survey.batchSize survey.batchSize_pos (survey.chosen tokens)
    apply ends_bind
    apply yields_ofBatches hw hk (by rwa [hflat]) (by rwa [hflat])
    intro j u₂ hj hu₂
    rw [hflat] at hj
    cases j with
    | error e => exact fun m => ⟨.error e, hj, rfl⟩
    | ok found =>
      refine ends_reported fun m => ⟨.ok found, hj, ?_⟩
      rw [show u₂.network = v.network from (hu₂.network.trans hu₁.network).trans htouched.network]
      rfl

theorem allowances_settled (hw : world.ShortAmounts) (hk : Address.Apart survey.spenders.addresses)
    {json : Json} (howner : Address.require json = .ok owner) (m : Moment) (d : Desk)
    {tokens : List String} (htokens : world.historyAnswer d.view owner = .ok tokens)
    (hapart : Address.Apart (survey.chosen tokens)) :
    Settled world survey d.view owner (survey.chosen tokens)
      (allowances world survey json ⟨m, none⟩ d).1.result
      (allowances world survey json ⟨m, none⟩ d).1.ends := by
  have hrun : allowances world survey json ⟨m, none⟩ d =
      Activity.bind (address json) (fun a => recorded world (surveyed world survey a)) ⟨m, none⟩ d := rfl
  have houtcome : (allowances world survey json ⟨m, none⟩ d).1.result =
        (recorded world (surveyed world survey owner) ⟨m, none⟩ d).1.result ∧
      (allowances world survey json ⟨m, none⟩ d).1.ends =
        (recorded world (surveyed world survey owner) ⟨m, none⟩ d).1.ends := by
    rw [hrun, address, howner]
    constructor <;> simp only [Activity.bind, ofAttempt, Activity.pure]
  obtain ⟨hresult, hends, -⟩ := recorded_run world (surveyed world survey owner) ⟨m, none⟩ d
  rw [houtcome.1, houtcome.2, hresult, hends]
  exact ends_surveyed hw hk htokens hapart m d rfl

end Work

end ChainRisk
