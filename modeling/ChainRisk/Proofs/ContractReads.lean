import ChainRisk.Proofs.Answers

namespace ChainRisk

namespace Script

variable (world : Script) (v : View) (a : Address)

def codeAnswer : Attempt Bytes :=
  (world.answer v.timeout "eth_getCode" (.code a) (v.reads (.code a))).map (·.getD [])

def sourceQuery : Keyed Json :=
  [("module", .str "contract"), ("action", .str "getsourcecode"), ("address", .str a.text)]

theorem explorerEntry_sourceQuery (n : Nat) : world.explorerEntry (sourceQuery a) n =
    .pick standingPayload (world.explorer (some "getsourcecode") (Text.lower a.text)) n := by
  simp [explorerEntry, sourceQuery, Subject.ofParameters, Keyed.get?, List.lookup_cons, Json.str?, Json.shown]

def payloadAnswer : Attempt Json :=
  world.explorerAnswer v.timeout (sourceQuery a) (v.reads (.ofParameters (sourceQuery a)))

def sourceAnswer : Attempt Verification := (world.payloadAnswer v a).bind Envelope.verification

def readsOf (n : Int) (slots : List ProxySlot) : Nat :=
  slots.countP fun s => (Work.slotNumber s.position).toOption == some n

def wordAfter (earlier : List ProxySlot) (slot : ProxySlot) : Attempt Bytes :=
  (Work.slotNumber slot.position).bind fun n =>
    (world.answer v.timeout "eth_getStorageAt" (.storage a n)
      (v.reads (.storage a n) + readsOf n earlier)).map Work.word

def firstQuery : Keyed Json :=
  Work.accountQuery "txlist" a [("startblock", .int 0), ("endblock", .int 99999999), ("page", .int 1),
    ("offset", .int 1), ("sort", .str "asc")]

theorem ofParameters_firstQuery_ne :
    Subject.ofParameters (firstQuery a) ≠ .ofParameters (sourceQuery a) := by
  simp [Subject.ofParameters, firstQuery, sourceQuery, Work.accountQuery, Keyed.get?, List.lookup_cons, Json.str?]

def dateAnswer : Option Calendar.Timestamp :=
  (world.explorerAnswer v.timeout (firstQuery a) (v.reads (.ofParameters (firstQuery a)))).toOption.bind
    Envelope.firstTime?

def probe (earlier : List ProxySlot) : List ProxySlot → Attempt (Option Delegation)
  | [] => .ok none
  | slot :: rest =>
    (world.wordAfter v a earlier slot).bind fun w =>
      if w = Work.zeroWord then probe (earlier ++ [slot]) rest
      else .ok (some ⟨Address.ofWord w, slot.name⟩)

def deployedVerdict (detectors : List Detector) (slots : List ProxySlot)
    (deployed : Option Calendar.Timestamp) (code : Bytes) : Attempt ContractFacts := do
  let verification ← world.sourceAnswer v a
  let proxy ← world.probe v a [] slots
  let findings ← Detector.scan code verification.source detectors
  pure {
    address := .str a.text
    verified := .bool verification.verified
    proxy := .bool proxy.isSome
    contractName := verification.contractName
    implementation := .ofOption (fun d => .str d.implementation.text) proxy
    deployed := deployed
    findings := findings }

def verdict (detectors : List Detector) (slots : List ProxySlot)
    (deployed : Option Calendar.Timestamp) : Attempt ContractFacts :=
  (world.codeAnswer v a).bind fun code =>
    if code.isEmpty then .error (.notAContract a)
    else world.deployedVerdict v a detectors slots deployed code

end Script

namespace Work

open Activity

variable {α : Type} {world : Script} {v : View} {a : Address}

theorem yields_code {Q : Attempt Bytes → View → Prop}
    (h : Q (world.codeAnswer v a) (v.touch (.code a))) : Yields (code world (.str a.text)) v Q := by
  apply yields_bind
  apply yields_address (Address.ofText?_text a)
  apply yields_bind
  apply yields_rpc
  exact after_of_map (fun _ hq => yields_pure hq) h

theorem yields_verifiedSource {Q : Attempt Verification → View → Prop}
    (h : Q (world.sourceAnswer v a) (v.touch (.ofParameters (Script.sourceQuery a)))) :
    Yields (verifiedSource world (.str a.text)) v Q := by
  apply yields_bind
  apply yields_address (Address.ofText?_text a)
  apply yields_bind
  apply yields_explorer
  exact after_of_bind (fun _ _ hq => yields_ofAttempt hq) h

theorem code_result (m : Moment) (d : Desk) :
    (code world (.str a.text) ⟨m, none⟩ d).1.result = world.codeAnswer d.view a :=
  (yields_code (Q := fun r _ => r = world.codeAnswer d.view a) rfl).run m rfl

theorem verifiedSource_result (m : Moment) (d : Desk) :
    (verifiedSource world (.str a.text) ⟨m, none⟩ d).1.result = world.sourceAnswer d.view a :=
  (yields_verifiedSource (Q := fun r _ => r = world.sourceAnswer d.view a) rfl).run m rfl

theorem yields_firstTransaction {Q : Attempt (Option Calendar.Timestamp) → View → Prop}
    (h : Q (.ok (world.dateAnswer v a)) (v.touch (.ofParameters (Script.firstQuery a)))) :
    Yields (firstTransaction world (.str a.text)) v Q := by
  apply yields_bind
  apply yields_address (Address.ofText?_text a)
  apply yields_bind
  apply yields_attempt
  apply yields_explorer
  -- whatever the explorer says, there is an answer, if only none
  exact yields_pure h

end Work

def View.Probed (a : Address) (earlier : List ProxySlot) (v u : View) : Prop :=
  u.timeout = v.timeout ∧
    ∀ n, u.reads (.storage a n) = v.reads (.storage a n) + Script.readsOf n earlier

namespace Work

open Activity

variable {world : Script} {v u : View} {a : Address}

theorem probed_touch {earlier : List ProxySlot} {slot : ProxySlot} {n : Int}
    (hu : View.Probed a earlier v u) (hn : slotNumber slot.position = .ok n) :
    View.Probed a (earlier ++ [slot]) v (u.touch (.storage a n)) := by
  refine ⟨hu.1, fun k => ?_⟩
  have hk := hu.2 k
  by_cases hkn : k = n
  · subst hkn
    simp [View.touch, Script.readsOf, hn, Except.toOption, hk]
    omega
  · have hnk : ¬ n = k := fun e => hkn e.symm
    simp [View.touch, Script.readsOf, hn, Except.toOption, hk, hkn, hnk]

theorem yields_storage {earlier : List ProxySlot} {slot : ProxySlot} {Q : Attempt Bytes → View → Prop}
    (hu : View.Probed a earlier v u)
    (h : ∀ u', View.SameOn (fun x => ∀ n, x ≠ .storage a n) u u' →
      (∀ w, world.wordAfter v a earlier slot = .ok w → View.Probed a (earlier ++ [slot]) v u') →
        Q (world.wordAfter v a earlier slot) u') :
    Yields (storage world (.str a.text) slot.position) u Q := by
  apply yields_bind
  refine yields_address (Address.ofText?_text a) ?_
  cases hn : slotNumber slot.position with
  | error e =>
    have hw : world.wordAfter v a earlier slot = .error e := by rw [Script.wordAfter, hn]; rfl
    apply yields_bind
    apply yields_ofAttempt
    rw [hw] at h
    exact h u (.refl u) fun w hw => by cases hw
  | ok n =>
    apply yields_bind
    apply yields_ofAttempt
    apply yields_bind
    apply yields_rpc
    have hw : world.wordAfter v a earlier slot =
        (world.answer u.timeout "eth_getStorageAt" (.storage a n)
          (u.reads (.storage a n))).map word := by
      rw [Script.wordAfter, hn, hu.1, hu.2]; rfl
    have hothers := (View.SameOn.refl (p := fun x => ∀ n, x ≠ .storage a n) u).touch (x := .storage a n)
      fun hx => hx n rfl
    have hq := h (u.touch (.storage a n)) hothers fun _ _ => probed_touch hu hn
    rw [hw] at hq
    exact after_of_map (fun _ hq => yields_pure hq) hq

theorem yields_delegation {slots earlier : List ProxySlot} {Q : Attempt (Option Delegation) → View → Prop}
    (hu : View.Probed a earlier v u)
    (h : ∀ u', View.SameOn (fun x => ∀ n, x ≠ .storage a n) u u' → Q (world.probe v a earlier slots) u') :
    Yields (delegation world (.str a.text) slots) u Q := by
  -- `u` goes on, and stays the first view up to the reads of the slots so far
  induction slots generalizing earlier u with
  | nil => exact yields_pure (h u (.refl u))
  | cons slot rest ih =>
    apply yields_bind
    apply yields_storage hu
    intro u' hothers hu'
    refine after_of_bind (fun w hw hq => ?_) (h u' hothers)
    change Activity.Yields _ (if w = zeroWord then _ else _) _ _
    by_cases hz : w = zeroWord
    · rw [if_pos hz]
      refine ih (hu' w hw) fun u'' hothers' => ?_
      have hq := h u'' (hothers.trans hothers')
      rw [Script.probe, hw, Except.bind, if_pos hz] at hq
      exact hq
    · rw [if_neg hz] at hq ⊢
      exact yields_pure hq

theorem yields_deployedFacts {detectors : List Detector} {slots : List ProxySlot} {code : Bytes}
    {Q : Attempt ContractFacts → View → Prop} (hu : View.Probed a [] v u)
    (hs : world.sourceAnswer u a = world.sourceAnswer v a) (hd : world.dateAnswer u a = world.dateAnswer v a)
    (h : ∀ u', Q (world.deployedVerdict v a detectors slots (world.dateAnswer v a) code) u') :
    Yields (deployedFacts world detectors slots a code) u Q := by
  have hp : View.Probed a [] v (u.touch (.ofParameters (Script.sourceQuery a))) :=
    ⟨hu.1, fun n => (View.touch_reads_of_ne u (by intro hx; cases hx)).trans (hu.2 n)⟩
  apply yields_bind
  apply yields_both
  apply yields_verifiedSource
  apply yields_both
  apply yields_delegation hp
  intro u₁ hu₁
  apply yields_firstTransaction
  have hdate : world.dateAnswer u₁ a = world.dateAnswer v a := by
    rw [← hd]
    have hread := hu₁.reads (.ofParameters (Script.firstQuery a)) nofun
    rw [View.touch_reads_of_ne u (Script.ofParameters_firstQuery_ne a)] at hread
    rw [Script.dateAnswer, Script.dateAnswer, hu₁.timeout, hread, View.touch_timeout]
  rw [hs, hdate]
  apply yields_bind
  apply yields_ofAttempt
  refine after_of_bind (fun verification _ hq => ?_) (h _)
  apply yields_bind
  apply yields_pure
  apply yields_bind
  apply yields_ofAttempt
  refine after_of_bind (fun proxy _ hq => ?_) hq
  apply yields_bind
  apply yields_orStandIn
  apply yields_bind
  apply yields_ofAttempt
  exact after_of_bind (fun findings _ hq => yields_pure hq) hq

theorem yields_contractFacts {detectors : List Detector} {slots : List ProxySlot}
    {Q : Attempt ContractFacts → View → Prop}
    (h : ∀ u, Q (world.verdict v a detectors slots (world.dateAnswer v a)) u) :
    Yields (contractFacts world detectors slots a) v Q := by
  apply yields_bind
  apply yields_code
  refine after_of_bind (fun code hc hq => ?_) (h _)
  change Activity.Yields _ (if code.isEmpty then _ else _) _ _
  by_cases he : code.isEmpty = true
  · rw [if_pos he] at hq ⊢
    exact yields_fail hq
  · rw [if_neg he]
    have hprobed : View.Probed a [] v (v.touch (.code a)) :=
      ⟨rfl, fun n => View.touch_reads_of_ne v (by intro hx; cases hx)⟩
    have hsource : world.sourceAnswer (v.touch (.code a)) a = world.sourceAnswer v a := by
      simp only [Script.sourceAnswer, Script.payloadAnswer, View.touch_timeout,
        View.touch_reads_of_ne v (show Subject.ofParameters (Script.sourceQuery a) ≠ .code a by intro hx; cases hx)]
    have hdate : world.dateAnswer (v.touch (.code a)) a = world.dateAnswer v a := by
      simp only [Script.dateAnswer, View.touch_timeout,
        View.touch_reads_of_ne v (show Subject.ofParameters (Script.firstQuery a) ≠ .code a by intro hx; cases hx)]
    apply yields_deployedFacts hprobed hsource hdate
    intro u
    have hq := h u
    rw [Script.verdict, hc, Except.bind, if_neg he] at hq
    exact hq

theorem assess_dated (world : Script) (detectors : List Detector) (slots : List ProxySlot)
    {contract : Json} (h : Address.require contract = .ok a) (m : Moment) (d : Desk) :
    (assess world detectors slots contract ⟨m, none⟩ d).1.result =
      (world.verdict d.view a detectors slots (world.dateAnswer d.view a)).map Assessment.ofFacts := by
  have hy : Yields (assess world detectors slots contract) d.view fun r _ =>
      r = (world.verdict d.view a detectors slots (world.dateAnswer d.view a)).map Assessment.ofFacts := by
    apply yields_bind
    rw [address, h]
    apply yields_pure
    apply yields_bind
    apply yields_recorded fun _ _ _ => rfl
    apply yields_contractFacts
    intro u
    exact after_of_map (fun _ hq => yields_pure hq) rfl
  exact hy.run m rfl

theorem assess_result (world : Script) (detectors : List Detector) (slots : List ProxySlot)
    {contract : Json} (h : Address.require contract = .ok a) (m : Moment) (d : Desk) :
    ∃ t, (assess world detectors slots contract ⟨m, none⟩ d).1.result =
      (world.verdict d.view a detectors slots t).map Assessment.ofFacts :=
  ⟨_, assess_dated world detectors slots h m d⟩

end Work

end ChainRisk
