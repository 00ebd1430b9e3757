import ChainRisk.Proofs.Agreement
import ChainRisk.Proofs.DegradedFields
import ChainRisk.Proofs.Failing

namespace ChainRisk

namespace Script

/-- The time of the first transaction of an address cannot be made out: the explorer does not answer with
data, or the first of the entries in its answer tells no time in the range of the calendar. -/
inductive DateFails (world : Script) (v : View) (a : Address) : Prop
  | untold (h : ∀ payload, ¬ world.Tells (firstQuery a) (v.reads (.ofParameters (firstQuery a))) payload)
  | unreadable (payload first : Json) (rest : List Json)
      (h : world.Tells (firstQuery a) (v.reads (.ofParameters (firstQuery a))) payload)
      (hitems : Envelope.items? payload = some (first :: rest))
      (hstamp : ∀ stamp seconds, first.field? "timeStamp" = some stamp → stamp.toInt = .ok seconds →
        (Calendar.Timestamp.ofSeconds seconds).inRange = false)

variable {world : Script} {v : View} {a : Address}

theorem dateAnswer_of_dateFails (h : world.DateFails v a) : world.dateAnswer v a = none := by
  rw [dateAnswer]
  cases h with
  | untold h =>
    cases hanswer : world.explorerAnswer v.timeout (firstQuery a) (v.reads (.ofParameters (firstQuery a))) with
    | error e => rfl
    | ok payload => exact (h payload (explorerAnswer_eq_ok_iff.1 hanswer)).elim
  | unreadable payload first rest h hitems hstamp =>
    rw [explorerAnswer_eq_ok_iff.2 h]
    have htime : Envelope.firstTime? payload = (first.field? "timeStamp").bind fun stamp =>
        stamp.toInt.toOption.bind fun seconds =>
          if (Calendar.Timestamp.ofSeconds seconds).inRange then some (.ofSeconds seconds) else none := by
      rw [Envelope.firstTime?, hitems]
      rfl
    change Envelope.firstTime? payload = none
    simp only [htime, Option.bind_eq_none_iff]
    intro stamp hfield seconds hseconds
    rw [hstamp stamp seconds hfield (Attempt.eq_ok_of_toOption hseconds)]
    rfl

theorem deployed_of_verdict {detectors : List Detector} {slots : List ProxySlot}
    {deployed : Option Calendar.Timestamp} {facts : ContractFacts}
    (h : world.verdict v a detectors slots deployed = .ok facts) : facts.deployed = deployed := by
  obtain ⟨code, -, h⟩ := Attempt.bind_eq_ok_iff.1 h
  split at h
  · cases h
  · obtain ⟨verification, -, h⟩ := Attempt.bind_eq_ok_iff.1 h
    obtain ⟨proxy, -, h⟩ := Attempt.bind_eq_ok_iff.1 h
    obtain ⟨findings, -, h⟩ := Attempt.bind_eq_ok_iff.1 h
    cases h
    rfl

end Script

namespace Work

open Activity Attempt

variable {world : Script} {a : Address}

theorem respects_deployedFacts_degraded (detectors : List Detector) (slots : List ProxySlot) (code : Bytes) :
    Respects Desk.SameDegraded (deployedFacts world detectors slots a code) := by
  have hreads := Desk.readSteps_sameDegraded
  have hdate : Activity.Fails (fun _ => False) (firstTransaction world (.str a.text)) := fails_firstTransaction
  refine respects_bind_of_gives (respects_both (respects_verifiedSource hreads _)
    (respects_both (respects_delegation hreads _ slots) (respects_firstTransaction hreads _)))
    (gives_both gives_any (gives_both gives_any hdate)) ?_
  rintro ⟨verification, rest⟩ ⟨-, hrest⟩
  refine respects_bind (respects_ofAttempt _) fun verification => ?_
  cases rest with
  | error e => exact hrest.elim
  | ok found =>
    obtain ⟨proxy, deployed⟩ := found
    have hdeployed : Attempt.Fails (fun _ => False) deployed := hrest.2
    refine respects_bind_of_gives (respects_pure _) (gives_pure (R := Holds (· = (proxy, deployed))) rfl) ?_
    rintro _ rfl
    refine respects_bind (respects_ofAttempt _) fun proxy => ?_
    -- a date that was not told never comes here as a failure, and is not counted
    cases deployed with
    | error e => exact (hdeployed e rfl).elim
    | ok date =>
      refine respects_bind (respects_pure _) fun date => ?_
      exact respects_bind (respects_ofAttempt _) fun findings => respects_pure _

theorem respects_assess_degraded (detectors : List Detector) (slots : List ProxySlot) (contract : Json) :
    Respects Desk.SameDegraded (assess world detectors slots contract) := by
  refine respects_bind (respects_address contract) fun a => ?_
  refine respects_bind (respects_recorded (fun _ _ _ => rfl) ?_) fun facts => respects_pure _
  refine respects_bind (respects_code Desk.readSteps_sameDegraded _) fun code => ?_
  change Respects Desk.SameDegraded (if _ then _ else _)
  split
  · exact respects_fail _
  · exact respects_deployedFacts_degraded detectors slots code

theorem assess_degraded (world : Script) (detectors : List Detector) (slots : List ProxySlot) (contract : Json)
    (w : Window) (d : Desk) :
    (assess world detectors slots contract w d).2.statistics.degraded = d.statistics.degraded :=
  respects_assess_degraded detectors slots contract w d

theorem assess_leaves_date_uncounted (world : Script) (detectors : List Detector) (slots : List ProxySlot)
    (contract : Json) (m : Moment) (d : Desk) {assessment : Assessment}
    (h : (assess world detectors slots contract ⟨m, none⟩ d).1.result = .ok assessment) :
    ∃ a, Address.require contract = .ok a ∧
      let degraded := (assess world detectors slots contract ⟨m, none⟩ d).2.statistics.degraded
      degraded = d.statistics.degraded ∧ assessment.deployed = world.dateAnswer d.view a ∧
      (world.DateFails d.view a → assessment.deployed = none) ∧
      (((world.DateFails d.view a → degraded = d.statistics.degraded + 1) ∧
        (¬ world.DateFails d.view a → degraded = d.statistics.degraded)) ↔ ¬ world.DateFails d.view a) := by
  have hsame := assess_degraded world detectors slots contract ⟨m, none⟩ d
  cases hcontract : Address.require contract with
  | error e =>
    rw [assess, address, hcontract] at h
    cases h
  | ok a =>
    rw [assess_dated world detectors slots hcontract] at h
    obtain ⟨facts, hfacts, rfl⟩ := Attempt.map_eq_ok_iff.1 h
    have hdeployed := Script.deployed_of_verdict hfacts
    refine ⟨a, rfl, hsame, hdeployed, fun hfails => ?_, fun hcounts hfails => ?_, fun hholds => ?_⟩
    · exact hdeployed.trans (Script.dateAnswer_of_dateFails hfails)
    · exact Nat.succ_ne_self _ ((hcounts.1 hfails).symm.trans hsame)
    · exact ⟨fun hfails => (hholds hfails).elim, fun _ => hsame⟩

theorem dateFails_hinderedWorld (v : View) : hinderedWorld.DateFails v .zero := by
  refine .untold fun payload hpayload => ?_
  have hentry (n : Nat) : hinderedWorld.explorerEntry (Script.firstQuery .zero) n =
      ⟨.fault ⟨.runtime, "reset"⟩, .ofInt 5⟩ := Entry.pick_singleton _ _ n
  have hreply := hpayload.1
  rw [hentry] at hreply
  cases hreply

theorem returns_hinderedWorld : Except.isOk (assess hinderedWorld Detector.standard ProxySlot.standard
    (.str Address.zeroText) ⟨.ofInstant .start, none⟩ .idle).1.result = true := by
  have ha : Address.require (.str Address.zeroText) = .ok .zero := rfl
  rw [assess_dated hinderedWorld Detector.standard ProxySlot.standard ha]
  decide +kernel

theorem assess_leaves_date_uncounted_hinderedWorld :
    let run := assess hinderedWorld Detector.standard ProxySlot.standard (.str Address.zeroText)
      ⟨.ofInstant .start, none⟩ .idle
    ∃ assessment, run.1.result = .ok assessment ∧ run.2.statistics.degraded = 0 ∧ assessment.deployed = none := by
  obtain ⟨assessment, hassessment⟩ := Attempt.isOk_eq_true_iff.1 returns_hinderedWorld
  obtain ⟨a, ha, hsame, -, hdeployed, -⟩ := assess_leaves_date_uncounted _ _ _ _ _ _ hassessment
  cases ha.symm.trans (show Address.require (.str Address.zeroText) = .ok .zero from rfl)
  exact ⟨assessment, hassessment, hsame, hdeployed (dateFails_hinderedWorld _)⟩

theorem assess_hinderedWorld_uncounted :
    let run := assess hinderedWorld Detector.standard ProxySlot.standard (.str Address.zeroText)
      ⟨.ofInstant .start, none⟩ .idle
    Except.isOk run.1.result = true ∧ hinderedWorld.DateFails Desk.idle.view .zero ∧
      run.2.statistics.degraded ≠ Desk.idle.statistics.degraded + 1 := by
  refine ⟨returns_hinderedWorld, dateFails_hinderedWorld _, ?_⟩
  rw [assess_degraded]
  exact (Nat.succ_ne_self _).symm

end Work

end ChainRisk
