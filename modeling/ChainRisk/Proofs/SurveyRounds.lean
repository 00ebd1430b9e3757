import ChainRisk.Proofs.Blame
import ChainRisk.Proofs.Rounds

namespace ChainRisk

def Script.batchesOf (world : Script) (survey : Survey) (v : View) (json : Json) : List (List String) :=
  match (Address.require json).bind (world.historyAnswer v) with
  | .ok tokens => batches survey.batchSize survey.batchSize_pos (survey.chosen tokens)
  | .error _ => []

namespace Diary

structure Surveyed (world : Script) (pauses : Pauses) (bs : List (List String)) (t s u : Instant) (ok : Bool)
    (early : List Span) (rounds : List Round) (D D' : Diary) : Prop where
  start : t ≤ s
  stop : s ≤ u
  before : ∀ r ∈ early, r.subject.token? = none ∧ r.Within early t s
  served : RoundsOf pauses 0 bs s u ok rounds
  spans : ∃ new, D'.desk.spans world = new ++ (early ++ D.desk.spans world) ∧
    ∀ r, r ∈ new ↔ ∃ p ∈ rounds, r ∈ p.spans
  done : ∀ c, c ∈ D'.done ↔ c ∈ D.done ∨ ∃ p ∈ rounds, c ∈ p.done

namespace Surveyed

variable {world : Script} {pauses : Pauses} {bs : List (List String)} {t t' s u : Instant} {ok : Bool}
  {early : List Span} {rounds : List Round} {D D' D'' : Diary}

theorem broken_off (pauses : Pauses) (bs : List (List String)) (hle : t ≤ u)
    (hspent : Desk.Spent world (·.token? = none) t u D.desk D'.desk) (hdone : D'.done = D.done) :
    ∃ early, Surveyed world pauses bs t u u true early [] D D' := by
  obtain ⟨early, hearly, hwithin⟩ := hspent.reads
  exact ⟨early, hle, le_refl u, hwithin, .none 0 bs u u, ⟨[], hearly, fun r => by simp⟩,
    fun c => by simp [hdone]⟩

theorem after_reads (hle : t ≤ t') (hspent : Desk.Spent world (·.token? = none) t t' D.desk D'.desk)
    (hdone : D'.done = D.done) (h : Surveyed world pauses bs t' s u ok early rounds D' D'') :
    ∃ early', Surveyed world pauses bs t s u ok early' rounds D D'' := by
  obtain ⟨first, hfirst, hwithin⟩ := hspent.reads
  obtain ⟨new, hnew, hmem⟩ := h.spans
  refine ⟨early ++ first, le_trans hle h.start, h.stop, fun r hr => ?_, h.served,
    ⟨new, by rw [hnew, hfirst, List.append_assoc], hmem⟩, fun c => by rw [h.done, hdone]⟩
  rcases List.mem_append.1 hr with hr | hr
  · obtain ⟨hsubject, hw⟩ := h.before r hr
    exact ⟨hsubject, hw.mono (fun s hs => List.mem_append_left _ hs) hle (le_refl s)⟩
  · obtain ⟨hsubject, hw⟩ := hwithin r hr
    exact ⟨hsubject, hw.mono (fun s hs => List.mem_append_right _ hs) (le_refl t) h.start⟩

end Surveyed

end Diary

namespace Work

open Activity

variable {α β : Type} {world : Script} {pauses : Pauses} {bs : List (List String)} {m : Moment} {D : Diary}

def Surveys (world : Script) (pauses : Pauses) (bs : List (List String)) (m : Moment) (D : Diary)
    (run : Outcome α × Diary) : Prop :=
  ∃ s ok early rounds, Diary.Surveyed world pauses bs m.instant s run.1.ends.instant ok early rounds D run.2 ∧
    (Except.isOk run.1.result = true →
      ok = true ∧ run.2.consulted = (List.range (bs.length - 1)).reverse ++ D.consulted)

theorem Surveys.congr {run : Outcome α × Diary} {run' : Outcome β × Diary} (h : Surveys world pauses bs m D run)
    (hends : run'.1.ends = run.1.ends) (hspans : run'.2.desk.spans world = run.2.desk.spans world)
    (hdone : run'.2.done = run.2.done) (hconsulted : run'.2.consulted = run.2.consulted)
    (hok : Except.isOk run'.1.result = true → Except.isOk run.1.result = true) :
    Surveys world pauses bs m D run' := by
  obtain ⟨s, ok, early, rounds, hsurveyed, hreturns⟩ := h
  refine ⟨s, ok, early, rounds, ⟨hsurveyed.start, ?_, hsurveyed.before, ?_, ?_, ?_⟩, fun h => ?_⟩
  · rw [hends]
    exact hsurveyed.stop
  · rw [hends]
    exact hsurveyed.served
  · rw [hspans]
    exact hsurveyed.spans
  · rw [hdone]
    exact hsurveyed.done
  · rw [hconsulted]
    exact hreturns (hok h)

theorem surveys_after_kept {x : Work α} {f : α → Activity Diary β} (hx : Takes world (·.token? = none) x)
    (hf : ∀ a, (x ⟨m, none⟩ D.desk).1.result = .ok a →
      let first := kept x ⟨m, none⟩ D
      Surveys world pauses bs first.1.ends first.2 (f a ⟨first.1.ends, none⟩ first.2)) :
    Surveys world pauses bs m D ((kept x >>= f) ⟨m, none⟩ D) := by
  obtain ⟨hle, hspent⟩ : m.instant ≤ (kept x ⟨m, none⟩ D).1.ends.instant ∧ Desk.Spent world (·.token? = none)
      m.instant (kept x ⟨m, none⟩ D).1.ends.instant D.desk (kept x ⟨m, none⟩ D).2.desk := hx m D.desk
  cases hr : (x ⟨m, none⟩ D.desk).1.result with
  | error e =>
    have hfirst : (kept x ⟨m, none⟩ D).1.result = .error e := hr
    obtain ⟨early, hsurveyed⟩ := Diary.Surveyed.broken_off pauses bs hle hspent rfl
    rw [bind_of_error hfirst]
    exact ⟨_, true, early, [], hsurveyed, fun h => absurd h Bool.false_ne_true⟩
  | ok a =>
    have hfirst : (kept x ⟨m, none⟩ D).1.result = .ok a := hr
    obtain ⟨s, ok, early, rounds, hsurveyed, hok⟩ := hf a hr
    obtain ⟨early', hsurveyed'⟩ := hsurveyed.after_reads hle hspent rfl
    rw [bind_of_ok hfirst]
    exact ⟨s, ok, early', rounds, hsurveyed', hok⟩

theorem surveys_inRounds {process : String → Work (List Allowance)}
    (hprocess : ∀ t, Takes world (Subject.IsOf t) (process t)) (pauses : Pauses) (bs : List (List String))
    (m : Moment) (D : Diary) :
    Surveys world pauses bs m D
      (inRounds (fun t => noting t (process t)) (consulting pauses) 0 bs ⟨m, none⟩ D) := by
  obtain ⟨rounds, hle, hleft, hrounds, hconsulted⟩ := inRounds_run hprocess pauses 0 bs m D
  rw [← List.range_eq_range'] at hconsulted
  exact ⟨m.instant, _, [], rounds, ⟨le_refl _, hle, fun r hr => (List.not_mem_nil hr).elim, hrounds, hleft.spans,
    hleft.done⟩, fun h => ⟨h, hconsulted h⟩⟩

theorem reported_run (world : Script) (owner : Address) (found : List Allowance) (m : Moment) (D : Diary) :
    (kept (reported world owner found) ⟨m, none⟩ D).1.ends = m ∧
      (kept (reported world owner found) ⟨m, none⟩ D).2 = D := by
  simp only [kept, zoom, reported, timestamp, clock, Bind.bind, Activity.bind, now, Activity.pure, inspect]
  cases (Json.real (world.timeOfDay m.instant * (1000 : Nat))).toInt <;> exact ⟨rfl, rfl⟩

theorem surveys_reported {x : Activity Diary (List Allowance)} {owner : Address}
    (h : Surveys world pauses bs m D (x ⟨m, none⟩ D)) :
    Surveys world pauses bs m D ((x >>= fun found => kept (reported world owner found)) ⟨m, none⟩ D) := by
  cases hr : (x ⟨m, none⟩ D).1.result with
  | error e =>
    rw [bind_of_error hr]
    exact h.congr rfl rfl rfl rfl fun h => absurd h Bool.false_ne_true
  | ok found =>
    obtain ⟨hends, hstate⟩ := reported_run world owner found (x ⟨m, none⟩ D).1.ends (x ⟨m, none⟩ D).2
    rw [bind_of_ok hr]
    refine h.congr hends ?_ ?_ ?_ fun _ => ?_
    · exact congrArg (·.desk.spans world) hstate
    · exact congrArg (·.done) hstate
    · exact congrArg (·.consulted) hstate
    · rw [hr]
      rfl

theorem notedSurvey_run (world : Script) (survey : Survey) (owner : Address) (m : Moment) (D : Diary) :
    Surveys world survey.pauses (world.batchesOf survey D.desk.view (.str owner.text)) m D
      (notedSurvey world survey owner ⟨m, none⟩ D) := by
  refine surveys_after_kept (takes_transferHistory world _) fun tokens htokens => ?_
  have hbs : world.batchesOf survey D.desk.view (.str owner.text) =
      batches survey.batchSize survey.batchSize_pos (survey.chosen tokens) := by
    rw [transferHistory_result] at htokens
    simp only [Script.batchesOf, Address.require_text, Except.bind, htokens]
  rw [hbs]
  refine surveys_after_kept (takes_firstBlock world survey) fun fromBlock _ => ?_
  apply surveys_reported
  exact surveys_inRounds (fun t => takes_ofToken world survey owner.text t fromBlock) survey.pauses _ _ _

theorem concluded_run {α : Type} (world : Script) (start : Binary64) (r : Attempt α) (m : Moment) (D : Diary) :
    let run := kept (concluded world start r) ⟨m, none⟩ D
    run.1.result = r ∧ run.1.ends = m ∧ run.2.desk.spans world = D.desk.spans world ∧ run.2.done = D.done ∧
      run.2.consulted = D.consulted := by
  simp only [kept, zoom, concluded, clock, Bind.bind, Activity.bind, now, Activity.pure, update, ofAttempt]
  cases r <;> exact ⟨rfl, rfl, rfl, trivial, trivial⟩

theorem surveys_concluded {x : Activity Diary α} {start : Binary64}
    (h : Surveys world pauses bs m D (x ⟨m, none⟩ D)) :
    Surveys world pauses bs m D ((attempt x >>= fun r => kept (concluded world start r)) ⟨m, none⟩ D) := by
  have hr : (attempt x ⟨m, none⟩ D).1.result = .ok (x ⟨m, none⟩ D).1.result := rfl
  obtain ⟨hresult, hends, hspans, hdone, hconsulted⟩ :=
    concluded_run world start (x ⟨m, none⟩ D).1.result (x ⟨m, none⟩ D).1.ends (x ⟨m, none⟩ D).2
  rw [bind_of_ok hr]
  refine h.congr hends hspans hdone hconsulted fun h => ?_
  rw [← hresult]
  exact h

theorem notedAllowances_run (world : Script) (survey : Survey) (json : Json) (m : Moment) (D : Diary) :
    Surveys world survey.pauses (world.batchesOf survey D.desk.view json) m D
      (notedAllowances world survey json ⟨m, none⟩ D) := by
  cases ha : Address.require json with
  | error e =>
    have haddress : address json = fail e := by rw [address, ha]; rfl
    rw [notedAllowances, haddress]
    refine surveys_after_kept (takes_fail e) fun a hfail => ?_
    cases hfail
  | ok a =>
    have haddress : address json = Activity.pure a := by rw [address, ha]; rfl
    have hbs : world.batchesOf survey D.desk.view json = world.batchesOf survey D.desk.view (.str a.text) := by
      simp only [Script.batchesOf, ha, Address.require_text]
    rw [notedAllowances, haddress, hbs]
    refine surveys_after_kept (takes_pure a) fun a' ha' => ?_
    cases ha'
    refine surveys_after_kept (takes_bind takes_now fun t => takes_pure _) fun start _ => ?_
    apply surveys_concluded
    exact notedSurvey_run world survey a m D

end Work

end ChainRisk
