import ChainRisk.Proofs.Agreement
import ChainRisk.Proofs.Failing
import ChainRisk.Proofs.Rounding
import ChainRisk.Proofs.RunMeans
import ChainRisk.Proofs.Steps
import ChainRisk.Proofs.SurveyRun
import Mathlib.Algebra.Field.Rat
import Mathlib.Tactic.NormNum

namespace ChainRisk

namespace Binary64

def toRat : Binary64 → ℚ
  | finite negative units => signed negative units / one
  | _ => 0

def ofWhole (n : Nat) : Binary64 := finite false (n * one)

theorem toRat_ofWhole (n : Nat) : (ofWhole n).toRat = n := by
  have hone : (one : ℚ) ≠ 0 := Nat.cast_ne_zero.2 one_pos.ne'
  rw [ofWhole, toRat, signed, if_neg Bool.false_ne_true, Int.cast_natCast, Nat.cast_mul]
  exact mul_div_cancel_right₀ _ hone

end Binary64

namespace Work

open Activity RunStatistics

variable {α β : Type} {world : Script} {x : Work α}

/-- Work that is put down as one run when it is over, with the time that it took. -/
def PutDown (world : Script) (x : Work α) : Prop := ∀ w d, w.reaches (x w d).1.ends = true →
  (x w d).2.statistics.runsOnly = d.statistics.runsOnly.record
    (milliseconds (world.timeOfDay w.start.instant) (world.timeOfDay (x w d).1.ends.instant))
    (Except.isOk (x w d).1.result)

theorem putDown_recorded (hx : Respects (Desk.Keeps runsOnly) x) : PutDown world (recorded world x) := by
  intro w d
  obtain ⟨hresult, hends, hstate⟩ := recorded_run world x w d
  rw [hresult, hends]
  intro h
  have hkept : (x w d).2.statistics.runsOnly = d.statistics.runsOnly := hx w d
  rw [hstate h, ← hkept]
  exact runsOnly_record _ _ _

theorem putDown_pure_bind {a : α} {f : α → Work β} (h : PutDown world (f a)) :
    PutDown world (Activity.pure a >>= f) := fun w d => h w d

theorem putDown_map (h : PutDown world x) (g : α → β) :
    PutDown world (x >>= fun a => Activity.pure (g a)) := by
  intro w d
  have hx := h w d
  cases hr : (x w d).1.result with
  | ok a =>
    rw [hr] at hx
    rw [bind_of_ok hr]
    exact hx
  | error e =>
    rw [hr] at hx
    rw [bind_of_error hr]
    exact hx

theorem analysisSteps_keeps_runsOnly : Desk.AnalysisSteps (Desk.Keeps runsOnly) :=
  ⟨Desk.readSteps_keeps runsOnly, fun _ => rfl⟩

theorem putDown_assess (detectors : List Detector) (slots : List ProxySlot) {contract : Json} {a : Address}
    (h : Address.require contract = .ok a) : PutDown world (assess world detectors slots contract) := by
  rw [assess, address, h]
  apply putDown_pure_bind
  apply putDown_map
  apply putDown_recorded
  exact respects_contractFacts analysisSteps_keeps_runsOnly detectors slots a

theorem putDown_allowances (survey : Survey) {owner : Json} {a : Address} (h : Address.require owner = .ok a) :
    PutDown world (allowances world survey owner) := by
  rw [allowances, address, h]
  apply putDown_pure_bind
  apply putDown_recorded
  exact respects_surveyed analysisSteps_keeps_runsOnly survey a

end Work

structure Inquiry where
  address : Json
  window : Window
  ends : Moment
  returned : Bool

namespace Inquiry

def counts (q : Inquiry) : Bool := Except.isOk (Address.require q.address)

def isOver (q : Inquiry) : Bool := q.window.reaches q.ends

def elapsed (world : Script) (q : Inquiry) : Binary64 :=
  Work.milliseconds (world.timeOfDay q.window.start.instant) (world.timeOfDay q.ends.instant)

def make {α : Type} (address : Json) (x : Work α) (w : Window) (d : Desk) : Inquiry × Desk :=
  let (o, d) := x w d
  (⟨address, w, o.ends, Except.isOk o.result⟩, d)

end Inquiry

inductive Analyzer
  | contracts (detectors : List Detector) (slots : List ProxySlot)
  | allowances (survey : Survey)

namespace Analyzer

open RunStatistics

variable (world : Script)

def ask : Analyzer → Json → Window → Desk → Inquiry × Desk
  | contracts detectors slots, address => Inquiry.make address (Work.assess world detectors slots address)
  | allowances survey, address => Inquiry.make address (Work.allowances world survey address)

def inquiries (a : Analyzer) : List (Window × Json) → Desk → List Inquiry × Desk
  | [], d => ([], d)
  | (w, address) :: rest, d =>
    let (q, d) := a.ask world address w d
    let (later, d) := inquiries a rest d
    (q :: later, d)

variable {world} {a : Analyzer} {json : Json} {w : Window} {d : Desk} {asked : List (Window × Json)}

theorem inquiries_cons : a.inquiries world ((w, json) :: asked) d =
    ((a.ask world json w d).1 :: (a.inquiries world asked (a.ask world json w d).2).1,
      (a.inquiries world asked (a.ask world json w d).2).2) := rfl

theorem address_ask : (a.ask world json w d).1.address = json := by
  cases a <;> rfl

theorem counts_ask : (a.ask world json w d).1.counts = Except.isOk (Address.require json) := by
  rw [Inquiry.counts, address_ask]

theorem ask_of_error {e : Failure} (h : Address.require json = .error e) :
    (a.ask world json w d).1.returned = false ∧ (a.ask world json w d).2 = d := by
  have haddress : Work.address json = Activity.fail e := by
    rw [Work.address, h]
    rfl
  cases a with
  | contracts detectors slots =>
    rw [ask, Work.assess, haddress]
    exact ⟨rfl, rfl⟩
  | allowances survey =>
    rw [ask, Work.allowances, haddress]
    exact ⟨rfl, rfl⟩

theorem ask_put_down {address : Address} (h : Address.require json = .ok address)
    (hover : (a.ask world json w d).1.isOver = true) :
    (a.ask world json w d).2.statistics.runsOnly = d.statistics.runsOnly.record
      ((a.ask world json w d).1.elapsed world) (a.ask world json w d).1.returned := by
  cases a with
  | contracts detectors slots => exact Work.putDown_assess detectors slots h w d hover
  | allowances survey => exact Work.putDown_allowances survey h w d hover

theorem addresses_inquiries : (a.inquiries world asked d).1.map (·.address) = asked.map (·.2) := by
  induction asked generalizing d with
  | nil => rfl
  | cons q asked ih =>
    rw [inquiries_cons, List.map_cons, List.map_cons, address_ask, ih]

theorem counts_of_returned : ∀ q ∈ (a.inquiries world asked d).1, q.returned = true → q.counts = true := by
  induction asked generalizing d with
  | nil => exact nofun
  | cons q asked ih =>
    obtain ⟨w, json⟩ := q
    rw [inquiries_cons]
    refine List.forall_mem_cons.2 ⟨fun hreturned => ?_, ih⟩
    rw [counts_ask]
    cases h : Address.require json with
    | ok address => rfl
    | error e =>
      rw [(ask_of_error h).1] at hreturned
      cases hreturned

theorem inquiries_put_down (h : ∀ q ∈ (a.inquiries world asked d).1, q.isOver = true) :
    (a.inquiries world asked d).2.statistics.runsOnly = recordAll (Inquiry.elapsed world) Inquiry.returned
      d.statistics.runsOnly ((a.inquiries world asked d).1.filter Inquiry.counts) := by
  -- on what is asked: what the first inquiry leaves behind is where the others begin
  induction asked generalizing d with
  | nil => rfl
  | cons q asked ih =>
    obtain ⟨w, json⟩ := q
    rw [inquiries_cons] at h ⊢
    obtain ⟨hover, hrest⟩ := List.forall_mem_cons.1 h
    cases hjson : Address.require json with
    | ok address =>
      have hcounts : (a.ask world json w d).1.counts = true := by
        rw [counts_ask, hjson]
        rfl
      rw [List.filter_cons_of_pos hcounts, recordAll_cons, ← ask_put_down hjson hover]
      exact ih hrest
    | error e =>
      have hcounts : ¬ (a.ask world json w d).1.counts = true := by
        rw [counts_ask, hjson]
        exact Bool.false_ne_true
      rw [List.filter_cons_of_neg hcounts]
      refine (ih hrest).trans ?_
      rw [(ask_of_error hjson).2]

theorem statistics_exact (world : Script) (a : Analyzer) (asked : List (Window × Json)) (d : Desk)
    (hd : d.statistics = .fresh .zero) (hover : ∀ q ∈ (a.inquiries world asked d).1, q.isOver = true) :
    let inquiries := (a.inquiries world asked d).1
    let runs := inquiries.filter Inquiry.counts
    let s := (a.inquiries world asked d).2.statistics
    s.total = s.successful + s.failed ∧
    s.total = asked.countP (fun q => Except.isOk (Address.require q.2)) ∧
    s.successful = inquiries.countP Inquiry.returned ∧
    s.average = (recordAll (Inquiry.elapsed world) Inquiry.returned (.fresh .zero) runs).average ∧
    ∀ (value : Binary64 → ℚ) (order : List Inquiry), order.Perm runs →
      (recordAll (fun q => value (q.elapsed world)) Inquiry.returned (.fresh 0) order).average =
        (runs.map fun q => value (q.elapsed world)).sum / runs.length := by
  intro inquiries runs s
  have hs : s.runsOnly = recordAll (Inquiry.elapsed world) Inquiry.returned (.fresh .zero) runs := by
    refine (inquiries_put_down hover).trans ?_
    rw [hd]
    rfl
  have hbalanced : s.runsOnly.Balanced := hs ▸ (balanced_fresh Binary64.zero).recordAll runs
  have htotal : s.runsOnly.total = runs.length := by rw [hs, recordAll_total, fresh, Nat.zero_add]
  have hsuccessful : s.runsOnly.successful = runs.countP Inquiry.returned := by
    rw [hs, recordAll_successful, fresh, Nat.zero_add]
  have haverage : s.runsOnly.average =
      (recordAll (Inquiry.elapsed world) Inquiry.returned (.fresh .zero) runs).average := by rw [hs]
  refine ⟨hbalanced, ?_, ?_, haverage, fun value order horder => average_of_perm horder⟩
  · have hcount : (inquiries.map (·.address)).countP (fun v => Except.isOk (Address.require v)) =
        inquiries.countP Inquiry.counts := List.countP_map
    rw [addresses_inquiries, List.countP_map] at hcount
    exact htotal.trans (List.countP_eq_length_filter.symm.trans hcount.symm)
  · refine hsuccessful.trans (List.countP_filter.trans (List.countP_congr fun q hq => ?_))
    rw [Bool.and_eq_true]
    exact and_iff_left_of_imp (counts_of_returned q hq)

def emptiedWorld : Script :=
  { Work.hinderedWorld with
    code := fun _ => [⟨.value (some [0x60, 0x80]), .ofInt 3⟩, ⟨.value none, .ofInt 1⟩] }

def threeQuestions : List (Window × Json) := [
  (⟨.ofInstant .start, none⟩, .str Address.zeroText),
  (⟨.ofInstant (Instant.start.after (.ofInt 8)), none⟩, .str "0xbad"),
  (⟨.ofInstant (Instant.start.after (.ofInt 8)), some (.ofInstant (Instant.start.after (.ofInt 10)))⟩,
    .str Address.zeroText)]

theorem run_emptiedWorld :
    let run := (contracts Detector.standard []).inquiries emptiedWorld threeQuestions .idle
    (∀ q ∈ run.1, q.isOver = true) ∧ run.1.countP Inquiry.returned = 1 ∧
      (run.1.filter Inquiry.counts).map (Inquiry.elapsed emptiedWorld) = [.ofWhole 8000, .ofWhole 1000] := by
  dsimp only
  rw [threeQuestions, inquiries_cons, inquiries_cons, inquiries_cons, ask, ask]
  delta Work.assess Work.contractFacts Work.deployedFacts Work.code Work.verifiedSource Work.firstTransaction
  simp only [Work.address_text]
  decide +kernel

theorem statistics_exact_emptiedWorld :
    let run := (contracts Detector.standard []).inquiries emptiedWorld threeQuestions .idle
    Desk.idle.statistics = .fresh .zero ∧ (∀ q ∈ run.1, q.isOver = true) ∧
      run.2.statistics.total = 2 ∧ run.2.statistics.successful = 1 ∧
      (recordAll (fun q => (q.elapsed emptiedWorld).toRat) Inquiry.returned (.fresh 0)
        (run.1.filter Inquiry.counts).reverse).average = 4500 := by
  dsimp only
  obtain ⟨hover, hreturned, helapsed⟩ := run_emptiedWorld
  obtain ⟨-, htotal, hsuccessful, -, haverage⟩ :=
    statistics_exact emptiedWorld (contracts Detector.standard []) threeQuestions .idle rfl hover
  have htwo : threeQuestions.countP (fun q => Except.isOk (Address.require q.2)) = 2 := rfl
  have hmean (runs : List Inquiry) (h : runs.map (Inquiry.elapsed emptiedWorld) = [.ofWhole 8000, .ofWhole 1000]) :
      (runs.map fun q => (q.elapsed emptiedWorld).toRat).sum / runs.length = 4500 := by
    rw [← Function.comp_def, ← List.map_map, ← List.length_map (Inquiry.elapsed emptiedWorld), h]
    simp only [List.map_cons, List.map_nil, Binary64.toRat_ofWhole, List.sum_cons, List.sum_nil, List.length_cons,
      List.length_nil]
    norm_num
  refine ⟨rfl, hover, htotal.trans htwo, hsuccessful.trans hreturned, ?_⟩
  exact (haverage Binary64.toRat _ (List.reverse_perm _)).trans (hmean _ helapsed)

end Analyzer

end ChainRisk
