import ChainRisk.Proofs.Handling
import ChainRisk.Proofs.Steps
import ChainRisk.Proofs.SurveyRun

namespace ChainRisk

namespace Activity

variable {σ α β : Type} {P : σ → Prop} {x : Activity σ α} {f : α → Activity σ β} {s : σ} {g : σ → σ}
  {m : Moment} {limit : Duration} {alarm : Option Instant}

def Leaves (P : σ → Prop) (x : Activity σ α) (s : σ) : Prop :=
  ∀ w : Window, w.reaches w.start = true → P (x w s).2

theorem leaves_update (h : P (g s)) : Leaves P (update g) s := by
  intro w hw
  change P (if w.reaches w.start then g s else s)
  rwa [if_pos hw]

theorem leaves_attempt (h : Leaves P x s) : Leaves P (attempt x) s := fun w hw => h w hw

theorem leaves_bind (hx : Leaves P x s) (hf : ∀ a, Respects (Carries P) (f a)) : Leaves P (x >>= f) s := by
  intro w hw
  cases hr : (x w s).1.result with
  | ok a =>
    rw [state_bind_of_ok hr]
    exact hf a _ _ (hx w hw)
  | error e =>
    rw [bind_of_error hr]
    exact hx w hw

theorem leaves_bind_of_prompt (hx : Prompt x) (h : ∀ w : Window, w.reaches w.start = true →
    ∃ a, (x w s).1.result = .ok a ∧ Leaves P (f a) (x w s).2) : Leaves P (x >>= f) s := by
  intro w hw
  obtain ⟨a, ha, hf⟩ := h w hw
  rw [state_bind_of_ok ha, (hx w s).1]
  exact hf w hw

theorem leaves_bind_pure {a : α} (h : Leaves P (f a) s) : Leaves P (Activity.pure a >>= f) s :=
  fun w hw => h w hw

theorem leaves_bind_inspect {f : σ → Activity σ β} (h : Leaves P (f s) s) : Leaves P (inspect >>= f) s :=
  fun w hw => h w hw

theorem leaves_bind_now {f : Instant → Activity σ β} (h : ∀ t, Leaves P (f t) s) :
    Leaves P (now >>= f) s := fun w hw => h w.start.instant w hw

theorem leaves_bind_update {f : Unit → Activity σ β} (h : Leaves P (f ()) (g s)) :
    Leaves P (update g >>= f) s := by
  intro w hw
  have hstate : (update g w s).2 = g s := if_pos hw
  rw [state_bind_of_ok (a := ()) rfl, hstate]
  exact h w hw

theorem lt_deadline (h : ∀ t, alarm = some t → m.instant < t) : m < deadline limit alarm m := by
  unfold deadline
  split
  · exact .inl (h _ rfl)
  · exact m.lt_deadline _

theorem leaves_within (h : Leaves P x s) {w : Window} (hw : w.reaches w.start = true)
    (halarm : ∀ t, alarm = some t → w.start.instant < t) : P (within limit alarm x w s).2 := by
  rw [within]
  split
  · exact h w hw
  · exact h { w with limit := some _ } (decide_eq_true (lt_deadline halarm))

theorem leaves_of_run (h : ∀ w : Window, w.reaches w.start = true → P (x w s).2) : Leaves P x s := h

theorem Leaves.run (h : Leaves P x s) {w : Window} (hw : w.reaches w.start = true) : P (x w s).2 := h w hw

-- From here on the rules are all that is known of `Leaves`, so that a goal is met by its rule.
attribute [irreducible] Leaves

end Activity

theorem Trace.lt_of_nextAnswer? {world : Script} {t u : Instant} {trace : Trace}
    (h : trace.nextAnswer? world t = some u) : t < u := by
  have hmem := List.mem_filter.1 (List.min?_mem h)
  exact of_decide_eq_true hmem.2

namespace Work

open Activity

variable {world : Script} {α : Type} {y : Subject} {d : Desk}

theorem leaves_record {c : Call} (h : c.subject? = some y) : Leaves (Desk.Read y) (record c) d := by
  apply leaves_bind_now
  intro t
  apply leaves_update
  change 0 < Trace.reads ((t, c) :: d.trace) y
  rw [Trace.reads, List.countP_cons_of_pos (by simp [h])]
  exact Nat.succ_pos _

theorem leaves_rpc (operation : String) (q : Query) :
    Leaves (Desk.Read q.subject) (rpc world operation q) d := by
  apply leaves_bind_inspect
  apply leaves_bind_update
  exact leaves_bind (leaves_record rfl) fun _ => respects_awaited (Desk.steps_read _).reads operation _ _

theorem prompt_record (c : Call) : Prompt (record c) := prompt_bind prompt_now fun _ => prompt_update _

theorem prompt_openSession : Prompt openSession := by
  apply prompt_bind prompt_inspect
  intro d
  change Prompt (if _ then _ else _)
  split
  · exact prompt_bind (prompt_record _) fun _ => prompt_update _
  · exact prompt_pure _

theorem openSession_result (w : Window) (d : Desk) : (openSession w d).1.result = .ok () := by
  change (Activity.bind _ _ w d).1.result = _
  simp only [Activity.bind, Activity.inspect, Activity.pure]
  split
  · rfl
  · rfl

theorem leaves_explorer (params : Keyed Json) :
    Leaves (Desk.Read (.ofParameters params)) (explorer world params) d := by
  have hsteps := Desk.steps_read (.ofParameters params)
  -- the session may have to be opened first, which is a call but no read
  apply leaves_bind_of_prompt prompt_openSession
  intro w _
  refine ⟨(), openSession_result w d, ?_⟩
  apply leaves_bind_inspect
  apply leaves_bind_update
  refine leaves_bind (leaves_record ?_) fun _ => ?_
  · exact congrArg some (Subject.ofParameters_withKey params _)
  · exact respects_bind (respects_wait _) fun _ => respects_explorerReplied hsteps.reads _ _ _

theorem leaves_code (a : Address) : Leaves (Desk.Read (.code a)) (code world (.str a.text)) d := by
  rw [code, address_text]
  apply leaves_bind_pure
  exact leaves_bind (leaves_rpc _ (.code a)) fun _ => respects_pure _

theorem leaves_transferHistory (a : Address) :
    Leaves (Desk.Read (.ofParameters (Script.historyQuery a))) (transferHistory world (.str a.text)) d := by
  rw [transferHistory, address_text]
  apply leaves_bind_pure
  exact leaves_bind (leaves_explorer _) fun _ => respects_ofAttempt _

theorem leaves_recorded {x : Work α} (h : Leaves (Desk.Read y) x d) :
    Leaves (Desk.Read y) (recorded world x) d := by
  apply leaves_bind_of_prompt prompt_clock
  intro w _
  refine ⟨_, rfl, leaves_bind (leaves_attempt h) fun result => ?_⟩
  refine respects_bind respects_clock fun stop => ?_
  exact respects_bind (respects_update ((Desk.steps_read y).recordRun _ _)) fun _ => respects_ofAttempt _

theorem leaves_assess (detectors : List Detector) (slots : List ProxySlot) (a : Address) :
    Leaves (Desk.Read (.code a)) (assess world detectors slots (.str a.text)) d := by
  rw [assess, address_text]
  apply leaves_bind_pure
  refine leaves_bind (leaves_recorded (leaves_bind (leaves_code a) fun code => ?_)) fun _ => respects_pure _
  change Respects _ (if _ then _ else _)
  split
  · exact respects_fail _
  · exact respects_deployedFacts (Desk.steps_read _).analysis detectors slots a code

theorem leaves_allowances (survey : Survey) (a : Address) :
    Leaves (Desk.Read (.ofParameters (Script.historyQuery a))) (allowances world survey (.str a.text)) d := by
  have hsteps := Desk.steps_read (.ofParameters (Script.historyQuery a))
  rw [allowances, address_text]
  apply leaves_bind_pure
  exact leaves_recorded (leaves_bind (leaves_transferHistory a) (respects_listed hsteps.analysis survey a))

end Work

namespace Pool

open Activity

variable {n : Network} {p : Pool} {y : Subject} {α : Type}

theorem lt_of_get? (hp : p.Sound) {name : String} {i : Nat} (h : Keyed.get? name p.current = some i) :
    i < p.made.length := by
  exact hp _ (Keyed.mem_of_get? h)

theorem exists_made_of_get (hp : p.Sound) {w : Window} (hw : w.reaches w.start = true) {i : Nat}
    (h : (get n w p).1.result = .ok i) : ∃ c, (get n w p).2.made[i]? = some c := by
  rw [get_result] at h
  rw [get, getBy_state]
  cases hk : Keyed.get? n.name p.current with
  | some j =>
    rw [hk] at h
    cases h
    exact ⟨_, List.getElem?_eq_getElem (lt_of_get? hp hk)⟩
  | none =>
    rw [hk] at h
    obtain ⟨made, hmade, rfl⟩ := Attempt.map_eq_ok_iff.1 h
    rw [show ClientFactory.standard.make n p.timeout = .ok made from hmade]
    simp only [if_pos hw]
    exact ⟨made.1, List.getElem?_concat_length⟩

theorem leaves_work {x : Work α} {i : Nat} {c : Client} (hc : p.made[i]? = some c)
    (hx : Leaves (Desk.Read y) x (p.desk c)) : Leaves (Read y) (work i x) p := by
  apply leaves_of_run
  intro w hw
  rw [work, hc]
  exact hx.run hw

theorem exists_get_eq_ok {made : Client × Call} (h : Client.connect n p.timeout false = .ok made) :
    ∃ i, ∀ w, (get n w p).1.result = .ok i := by
  simp only [get_result, h]
  cases Keyed.get? n.name p.current with
  | some i => exact ⟨i, fun _ => rfl⟩
  | none => exact ⟨_, fun _ => rfl⟩

theorem leaves_bind_get {f : Nat → Activity Pool α} {P : Pool → Prop} (hp : p.Sound) {made : Client × Call}
    (hmade : Client.connect n p.timeout false = .ok made)
    (h : ∀ i q c, q.made[i]? = some c → Leaves P (f i) q) : Leaves P (get n >>= f) p := by
  obtain ⟨i, hi⟩ := exists_get_eq_ok hmade
  apply leaves_bind_of_prompt (prompt_get n)
  intro w hw
  obtain ⟨c, hc⟩ := exists_made_of_get hp hw (hi w)
  exact ⟨i, hi w, h i _ c hc⟩

theorem leaves_alone {networks : NetworkTable} {timeout : Duration} {x : Activity Pool α} {trace : Trace}
    (h : Leaves (Read y) x (empty networks timeout trace)) :
    Leaves (fun t => 0 < Trace.reads t y) (alone networks timeout x) trace := by
  have hclosed : Leaves (Read y) (attempt x >>= fun result => close >>= fun _ => ofAttempt result)
      (empty networks timeout trace) := by
    refine leaves_bind (leaves_attempt h) fun result => ?_
    exact respects_bind respects_read_close fun _ => respects_ofAttempt _
  exact leaves_of_run fun w hw => hclosed.run hw

end Pool

def Question.firstRead (q : Question) (a : Address) : Subject :=
  match q with
  | .contract => .code a
  | .allowances _ _ => .ofParameters (Script.historyQuery a)

namespace Request

open Activity

variable {world : Script} {settings : Settings} {r : Request} {n : Network} {p : Pool} {a : Address}

theorem leaves_timed {α : Type} {P : Pool → Prop} {x : Activity Pool α} (h : Leaves P x p) :
    Leaves P (timed world settings x) p := by
  apply leaves_of_run
  intro w hw
  exact leaves_within h hw fun t ht => Trace.lt_of_nextAnswer? ht

theorem survey_eq_ok (h : 0 < settings.batchSize) (spenders : Option SpenderTable) (pauses : Option Pauses) :
    ∃ s, survey settings spenders pauses = .ok s := ⟨_, dif_pos h⟩

theorem leaves_concerning (hn : r.network = some n) (hp : p.Sound) {made : Client × Call}
    (hmade : Client.connect n p.timeout false = .ok made) (hsize : 0 < settings.batchSize) (a : Address) :
    Leaves (Pool.Read (r.question.firstRead a)) (concerning world settings r a) p := by
  rw [concerning, chosenNetwork, hn]
  apply leaves_bind_pure
  cases r.question with
  | contract =>
    apply Pool.leaves_bind_get hp hmade
    intro i q c hc
    exact leaves_bind (leaves_timed (Pool.leaves_work hc (Work.leaves_assess _ _ a))) fun _ => respects_pure _
  | allowances spenders pauses =>
    obtain ⟨s, hs⟩ := survey_eq_ok hsize spenders pauses
    apply Pool.leaves_bind_get hp hmade
    intro i q c hc
    rw [hs]
    apply leaves_bind_pure
    refine leaves_bind (leaves_timed (Pool.leaves_work hc (Work.leaves_allowances s a))) fun report => ?_
    exact respects_bind (respects_ofAttempt _) fun _ => respects_pure _

theorem leaves_answer (hnamed : named? r.text = some a) (hn : r.network = some n) (hp : p.Sound)
    {made : Client × Call} (hmade : Client.connect n p.timeout false = .ok made)
    (hsize : 0 < settings.batchSize) :
    Leaves (Pool.Read (r.question.firstRead a)) (answer world settings r) p := by
  obtain ⟨found, hfound, ha⟩ := Option.bind_eq_some_iff.1 hnamed
  rw [answer, hfound]
  simp only [Address.require_of_ofText? ha]
  refine leaves_bind (leaves_attempt (leaves_concerning hn hp hmade hsize a)) fun result => ?_
  split
  · exact respects_pure _
  · exact respects_pure _

end Request

end ChainRisk
