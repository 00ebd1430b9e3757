import ChainRisk.Proofs.Clients
import ChainRisk.Proofs.AnalysisFailures

namespace ChainRisk

open Attempt Failure

theorem Failure.head?_noEndpointText (network : String) : (noEndpointText network).toList.head? = some 'R' :=
  head?_append (by decide +kernel) network

namespace NetworkTable

theorem fails_withEndpoint (n : Network) : Fails Ordinary (withEndpoint n) := by
  unfold withEndpoint
  split
  · exact fails_ok _
  · exact fails_error (ordinary_of_head rfl (head?_noEndpointText n.name) (by decide))

theorem fails_ofText (t : NetworkTable) (text : Option String) : Fails Ordinary (t.ofText text) := by
  unfold ofText
  split
  · exact fails_withEndpoint _
  · exact fails_withEndpoint _

end NetworkTable

theorem Duration.fails_wholeSeconds (d : Duration) : Fails Ordinary d.wholeSeconds := by
  cases d with
  | whole n => exact fails_ok _
  | fractional x =>
    change Fails _ (if _ then _ else _)
    split
    · exact fails_ok _
    · cases x with
      | finite t u => exact fails_ok _
      | infinite t => exact fails_error (ordinary_mismatch _)
      | nan => exact fails_error (.internal rfl nofun)

theorem Client.fails_connect (n : Network) (timeout : Duration) (lent : Bool) :
    Fails Ordinary (connect n timeout lent) := by
  unfold connect
  split
  · exact fails_error (ordinary_of_head rfl (head?_noEndpointText n.name) (by decide))
  · exact fails_bind timeout.fails_wholeSeconds fun _ => fails_ok _

namespace Pool

open Activity

theorem fails_get (n : Network) : Activity.Fails Ordinary (get n) := by
  apply fails_bind fails_inspect
  intro p
  split
  · exact fails_pure _
  · apply fails_bind (fails_ofAttempt (Client.fails_connect n p.timeout false))
    intro made
    apply fails_bind fails_now
    intro t
    exact fails_bind (fails_update _) fun _ => fails_pure _

theorem work_of_none {α : Type} {i : Nat} {p : Pool} (h : p.made[i]? = none) (x : Work α) (w : Window) :
    course (work i x w p).1 = (.error (.mismatch .missingField), w.start, .never) := by
  rw [work, h]
  rfl

end Pool

namespace Request

open Activity

variable {world : Script} {settings : Settings} {r : Request}

theorem fails_survey (spenders : Option SpenderTable) (pauses : Option Pauses) :
    Attempt.Fails Ordinary (survey settings spenders pauses) := by
  unfold survey Survey.make
  split
  · exact fails_ok _
  · exact fails_error (.internal rfl nofun)

def named? (text : Option String) : Option Address := (Address.find? text).bind Address.ofText?

theorem prompt_chosenNetwork (r : Request) : Prompt (chosenNetwork r) := by
  unfold chosenNetwork
  split
  · exact prompt_pure _
  · exact prompt_bind prompt_inspect fun _ => prompt_ofAttempt _

theorem fails_chosenNetwork (r : Request) : Activity.Fails Ordinary (chosenNetwork r) := by
  unfold chosenNetwork
  split
  · exact fails_pure _
  · exact fails_bind fails_inspect fun p => fails_ofAttempt (p.networks.fails_ofText r.text)

theorem chosenNetwork_state (r : Request) (w : Window) (p : Pool) : (chosenNetwork r w p).2 = p := by
  have hrespects : Respects Eq (chosenNetwork r) := by
    unfold chosenNetwork
    split
    · exact respects_pure _
    · exact respects_bind respects_inspect fun p => respects_ofAttempt _
  exact (hrespects w p).symm

def atClient {α : Type} (r : Request) (x : Network → Nat → Activity Pool α) : Activity Pool α := do
  let network ← chosenNetwork r
  let i ← Pool.get network
  x network i

theorem atClient_cases (r : Request) (w : Window) (p : Pool) :
    (∃ e, e.Ordinary ∧ ∀ (α : Type) (x : Network → Nat → Activity Pool α),
      course (r.atClient x w p).1 = (.error e, w.start, .never)) ∨
    ∃ n i, ∀ (α : Type) (x : Network → Nat → Activity Pool α),
      course (r.atClient x w p).1 = course (x n i w (Pool.get n w p).2).1 := by
  -- neither the choice of a network nor the making of its client takes time
  obtain ⟨hends, hpause⟩ := prompt_chosenNetwork r w p
  cases hn : (chosenNetwork r w p).1.result with
  | error e =>
    refine .inl ⟨e, (fails_chosenNetwork r).run w p e hn, fun α x => ?_⟩
    rw [atClient, bind_of_error hn, course, hends, hpause]
  | ok n =>
    obtain ⟨hends, hpause⟩ := Pool.prompt_get n w p
    have hstep (α : Type) (x : Network → Nat → Activity Pool α) :
        course (r.atClient x w p).1 = course ((Pool.get n >>= x n) w p).1 := by
      rw [atClient, course_bind_of_prompt (prompt_chosenNetwork r) hn, chosenNetwork_state]
    cases hi : (Pool.get n w p).1.result with
    | error e =>
      refine .inl ⟨e, (Pool.fails_get n).run w p e hi, fun α x => ?_⟩
      rw [hstep, bind_of_error hi, course, hends, hpause]
    | ok i =>
      refine .inr ⟨n, i, fun α x => ?_⟩
      rw [hstep, course_bind_of_prompt (Pool.prompt_get n) hi]

section

variable (world : Script) (settings : Settings)

def asked (question : Question) (address : Address) (network : Network) (i : Nat) : Activity Pool Answer := do
  match question with
  | .contract => do
    let a ← Pool.work i (Work.assess world Detector.standard ProxySlot.standard (.str address.text))
    Activity.pure (.assessed a address network.name)
  | .allowances spenders pauses => do
    let s ← ofAttempt (survey settings spenders pauses)
    let report ← Pool.work i (Work.allowances world s (.str address.text))
    let text ← ofAttempt (report.text world.room)
    Activity.pure (.listed report text address)

def analysis (r : Request) (address : Address) : Activity Pool Answer :=
  r.atClient (asked world settings r.question address)

def codeRead (r : Request) (address : Address) : Activity Pool Bytes :=
  r.atClient fun _ i => Pool.work i (Work.code world (.str address.text))

end

theorem curbed_timed {α : Type} (x : Activity Pool α) (m : Moment) (p : Pool) :
    Curbed settings.analysisTimeout m (timed world settings x ⟨m, none⟩ p).1 (x ⟨m, none⟩ p).1 :=
  curbed_within _ _ x m p

theorem curbed_concerning (r : Request) (a : Address) (m : Moment) (p : Pool) :
    Curbed settings.analysisTimeout m (concerning world settings r a ⟨m, none⟩ p).1
      (analysis world settings r a ⟨m, none⟩ p).1 := by
  apply curbed_bind (prompt_chosenNetwork r)
  intro n p
  cases r.question with
  | contract =>
    apply curbed_bind (Pool.prompt_get n)
    intro i p
    exact curbed_bind_immediate (fun a => immediate_pure _) (curbed_timed _ m p)
  | allowances spenders pauses =>
    apply curbed_bind (Pool.prompt_get n)
    intro i p
    apply curbed_bind (prompt_ofAttempt _)
    intro s p
    refine curbed_bind_immediate (fun report => immediate_bind_ofAttempt fun text => immediate_pure _) ?_
    exact curbed_timed _ m p

theorem returns_asked (q : Question) (a : Address) (n : Network) (i : Nat) :
    Gives (Returns fun answer => answer.success = true) (asked world settings q a n i) := by
  cases q with
  | contract => exact returns_bind fun assessment => returns_pure rfl
  | allowances spenders pauses =>
    apply returns_bind
    intro s
    apply returns_bind
    intro report
    apply returns_bind
    intro text
    exact returns_pure rfl

theorem success_of_analysis {r : Request} {a : Address} {w : Window} {p : Pool} {answer : Answer}
    (h : (analysis world settings r a w p).1.result = .ok answer) : answer.success = true := by
  refine Gives.run (R := Returns fun answer => answer.success = true) ?_ w p answer h
  apply returns_bind
  intro n
  apply returns_bind
  intro i
  exact returns_asked r.question a n i

theorem course_work_assess_of_empty {i : Nat} {a : Address} {w : Window} {p : Pool}
    (h : (Pool.work i (Work.code world (.str a.text)) w p).1.result = .ok []) :
    course (Pool.work i (Work.assess world Detector.standard ProxySlot.standard (.str a.text)) w p).1 =
      (.error (.notAContract a), (Pool.work i (Work.code world (.str a.text)) w p).1.ends,
        (Pool.work i (Work.code world (.str a.text)) w p).1.pause) := by
  cases hc : p.made[i]? with
  | none => cases h.symm.trans (result_of_course (Pool.work_of_none hc _ w))
  | some c =>
    rw [Pool.work_result hc] at h
    rw [Pool.work_result hc, Pool.work_result hc]
    exact Work.course_assess_of_empty _ _ h

theorem error_of_work_assess {i : Nat} {a : Address} {w : Window} {p : Pool} {e : Failure}
    (h : (Pool.work i (Work.assess world Detector.standard ProxySlot.standard (.str a.text)) w p).1.result =
      .error e) :
    e.Ordinary ∨
      (e = .notAContract a ∧ (Pool.work i (Work.code world (.str a.text)) w p).1.result = .ok []) := by
  cases hc : p.made[i]? with
  | none =>
    cases h.symm.trans (result_of_course (Pool.work_of_none hc _ w))
    exact .inl (ordinary_mismatch _)
  | some c =>
    rw [Pool.work_result hc] at h
    rw [Pool.work_result hc]
    exact Work.assess_error h

variable (settings) in
theorem course_analysis_of_empty {r : Request} (hq : r.question = .contract) {a : Address} {w : Window}
    {p : Pool} (h : (codeRead world r a w p).1.result = .ok []) :
    course (analysis world settings r a w p).1 = (.error (.notAContract a),
      (codeRead world r a w p).1.ends, (codeRead world r a w p).1.pause) := by
  rw [analysis, hq]
  rcases atClient_cases r w p with ⟨e, -, hcourse⟩ | ⟨n, i, hcourse⟩
  · cases h.symm.trans (result_of_course (hcourse _ _))
  · have hcode := hcourse _ fun _ i => Pool.work i (Work.code world (.str a.text))
    rw [hcourse, codeRead, ends_of_course hcode, pause_of_course hcode]
    exact course_bind_immediate (course_work_assess_of_empty ((result_of_course hcode).symm.trans h))
      fun assessment => immediate_pure _

theorem error_of_analysis_contract {r : Request} (hq : r.question = .contract) {a : Address} {w : Window}
    {p : Pool} {e : Failure} (h : (analysis world settings r a w p).1.result = .error e) :
    e.Ordinary ∨ (e = .notAContract a ∧ (codeRead world r a w p).1.result = .ok []) := by
  rw [analysis, hq] at h
  rcases atClient_cases r w p with ⟨e', he', hcourse⟩ | ⟨n, i, hcourse⟩
  · cases h.symm.trans (result_of_course (hcourse _ _))
    exact .inl he'
  · have hasked := (result_of_course (hcourse _ (asked world settings .contract a))).symm.trans h
    have hbind := (result_of_course (course_bind_immediate rfl fun _ => immediate_pure _)).symm.trans hasked
    rcases bind_eq_error_iff.1 hbind with hr | ⟨_, -, hr⟩
    · rw [codeRead, result_of_course (hcourse _ fun _ i => Pool.work i (Work.code world (.str a.text)))]
      exact error_of_work_assess hr
    · cases hr

theorem asked_allowances_result {spenders : Option SpenderTable} {pauses : Option Pauses} {s : Survey}
    (hs : survey settings spenders pauses = .ok s) (a : Address) (n : Network) (i : Nat) (w : Window)
    (p : Pool) : (asked world settings (.allowances spenders pauses) a n i w p).1.result =
      (Pool.work i (Work.allowances world s (.str a.text)) w p).1.result.bind fun report =>
        (report.text world.room).bind fun text => .ok (.listed report text a) := by
  rw [asked, hs]
  refine (result_of_course (course_bind_of_prompt (prompt_pure s) rfl)).trans ?_
  exact result_of_course (course_bind_immediate rfl fun report =>
    immediate_bind_ofAttempt fun text => immediate_pure _)

variable (world settings) in
theorem analysis_allowances_result {r : Request} {spenders : Option SpenderTable} {pauses : Option Pauses}
    (hq : r.question = .allowances spenders pauses) (a : Address) (w : Window) (p : Pool) :
    (∃ e, e.Ordinary ∧ (analysis world settings r a w p).1.result = .error e) ∨
    ∃ s d, survey settings spenders pauses = .ok s ∧ d.trace.reads = p.trace.reads ∧
      (analysis world settings r a w p).1.result =
        (Work.allowances world s (.str a.text) w d).1.result.bind fun report =>
          (report.text world.room).bind fun text => .ok (.listed report text a) := by
  rw [analysis, hq]
  rcases atClient_cases r w p with ⟨e, he, hcourse⟩ | ⟨n, i, hcourse⟩
  · exact .inl ⟨e, he, result_of_course (hcourse _ _)⟩
  · rw [result_of_course (hcourse _ (asked world settings _ a))]
    cases hs : survey settings spenders pauses with
    | error e =>
      rw [asked, hs]
      exact .inl ⟨e, fails_survey spenders pauses e hs, rfl⟩
    | ok s =>
      rw [asked_allowances_result hs]
      cases hc : (Pool.get n w p).2.made[i]? with
      | none =>
        rw [result_of_course (Pool.work_of_none hc _ w)]
        exact .inl ⟨_, ordinary_mismatch _, rfl⟩
      | some c =>
        rw [Pool.work_result hc]
        exact .inr ⟨s, _, rfl, Pool.reads_get n w p, rfl⟩

theorem error_of_analysis_allowances {r : Request} {spenders : Option SpenderTable} {pauses : Option Pauses}
    (hq : r.question = .allowances spenders pauses) {a : Address} {w : Window} {p : Pool} {e : Failure}
    (h : (analysis world settings r a w p).1.result = .error e) : e.Ordinary ∨
      ∃ s d tokens, survey settings spenders pauses = .ok s ∧ d.trace.reads = p.trace.reads ∧
        (Work.transferHistory world (.str a.text) w d).1.result = .ok tokens ∧
        OfTokens (s.chosen tokens) e := by
  rcases analysis_allowances_result world settings hq a w p with
    ⟨e', he', hr⟩ | ⟨s, d, hs, hd, hr⟩
  · cases h.symm.trans hr
    exact .inl he'
  · rcases bind_eq_error_iff.1 (hr.symm.trans h) with hwork | ⟨report, -, htext⟩
    · refine (Work.allowances_error hwork).imp_right ?_
      rintro ⟨tokens, htokens, he⟩
      exact ⟨s, d, tokens, hs, hd, htokens, he⟩
    · exact .inl (Attempt.fails_bind (AllowanceReport.fails_text world.room report) (fun text => fails_ok _) _ htext)

def told (limit : Duration) (a : Address) : Attempt Answer → Answer
  | .ok answer => answer
  | .error e => .ofFailure limit a e

theorem answer_of_named {a : Address} (h : named? r.text = some a) (w : Window) (p : Pool) :
    (answer world settings r w p).1.result =
      .ok (told settings.analysisTimeout a (concerning world settings r a w p).1.result) := by
  obtain ⟨found, hfound, ha⟩ := Option.bind_eq_some_iff.1 h
  rw [answer, hfound]
  simp only [Address.require_of_ofText? ha]
  generalize concerning world settings r a = x
  refine (result_bind_of_ok (x := attempt x) rfl).trans ?_
  cases (x w p).1.result <;> rfl

variable (world settings) in
theorem answer_of_unnamed (h : named? r.text = none) :
    ∃ reason, answer world settings r = Activity.pure (.badInput reason) := by
  rw [answer]
  cases hfound : Address.find? r.text with
  | none => exact ⟨_, rfl⟩
  | some found =>
    have hnone : Address.ofText? found = none := by
      rw [named?, hfound] at h
      exact h
    have hrequire : Address.require (.str found) = .error (.invalidAddress (.str found)) := by
      rw [Address.require, hnone]
    simp only [hrequire]
    exact ⟨_, rfl⟩

section

variable {R : Pool → Pool → Prop} [IsPreorder Pool R]

theorem respects_timed {α : Type} {x : Activity Pool α} (hx : Respects R x) :
    Respects R (timed world settings x) :=
  respects_bind respects_now fun _ => respects_bind respects_inspect fun _ => respects_within hx _ _

theorem respects_chosenNetwork (r : Request) : Respects R (chosenNetwork r) := by
  unfold chosenNetwork
  split
  · exact respects_pure _
  · exact respects_bind respects_inspect fun p => respects_ofAttempt _

theorem respects_answer (hget : ∀ n, Respects R (Pool.get n))
    (hassess : ∀ i a, Respects R (Pool.work i (Work.assess world Detector.standard ProxySlot.standard a)))
    (hallowances : ∀ i s a, Respects R (Pool.work i (Work.allowances world s a))) (r : Request) :
    Respects R (answer world settings r) := by
  unfold answer
  split
  · exact respects_pure _
  · split
    · exact respects_pure _
    · refine respects_bind (respects_attempt ?_) fun result => ?_
      · refine respects_bind (respects_chosenNetwork r) fun n => ?_
        split
        · refine respects_bind (hget n) fun i => ?_
          exact respects_bind (respects_timed (hassess i _)) fun _ => respects_pure _
        · refine respects_bind (hget n) fun i => ?_
          refine respects_bind (respects_ofAttempt _) fun s => ?_
          refine respects_bind (respects_timed (hallowances i s _)) fun report => ?_
          exact respects_bind (respects_ofAttempt _) fun _ => respects_pure _
      · split
        · exact respects_pure _
        · exact respects_pure _

end

theorem respects_sound_answer (r : Request) :
    Respects (Carries Pool.Sound) (answer world settings r) :=
  respects_answer (Pool.respects_get fun _ n c t _ _ _ _ => Pool.sound_insert n c t _)
    (fun i _ => Pool.respects_sound_work i _) (fun i _ _ => Pool.respects_sound_work i _) r

def reply (world : Script) (settings : Settings) (shared : Option Pool) (r : Request) (m : Moment)
    (trace : Trace) : Attempt Answer :=
  match shared with
  | some p => (answer world settings r ⟨m, none⟩ p).1.result
  | none => (answerAlone world settings r ⟨m, none⟩ trace).1.result

def poolOf (settings : Settings) (shared : Option Pool) (trace : Trace) : Pool :=
  shared.getD (.empty settings.networks settings.requestTimeout trace)

theorem reply_eq (shared : Option Pool) (r : Request) (m : Moment) (trace : Trace) :
    reply world settings shared r m trace =
      (answer world settings r ⟨m, none⟩ (poolOf settings shared trace)).1.result := by
  cases shared with
  | some p => rfl
  | none => exact Pool.alone_result (respects_sound_answer r _ _ (Pool.sound_empty _ _ _))

end Request

end ChainRisk
