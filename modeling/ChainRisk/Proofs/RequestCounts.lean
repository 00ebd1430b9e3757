import ChainRisk.Proofs.ReadRuns

namespace ChainRisk

def Attempt.struck {α : Type} : Attempt α → Nat
  | .ok _ => 0
  | .error e => if e.isIn .network then 1 else 0

def Attempt.failures {α : Type} : Attempt α → List Failure
  | .ok _ => []
  | .error e => [e]

theorem Attempt.struck_eq {α : Type} (r : Attempt α) : struck r = (failures r).countP (·.isIn .network) := by
  cases r with
  | ok a => rfl
  | error e => cases h : e.isIn .network <;> simp [struck, failures, h]

namespace Desk

variable {α : Type} (r : Attempt α) (d : Desk)

theorem counted_total : (d.counted r).client.total = d.client.total :=
  same_counted (·.client.total) (fun _ => rfl) r d

theorem counted_failed : (d.counted r).client.failed = d.client.failed + Attempt.struck r := by
  cases r with
  | ok a => rfl
  | error e =>
    change (if e.isIn .network then d.countFailure else d).client.failed = _ + if e.isIn .network then 1 else 0
    split <;> rfl

end Desk

theorem Script.isIn_network_explorerFault (operation : String) (limit : Duration) (f : Fault) :
    (explorerFault operation limit f).isIn .network =
      decide (¬ (f.kind = .connection ∨ f.kind = .runtime)) := by
  obtain ⟨kind, message⟩ := f
  cases kind <;> rfl

inductive ClientRead
  | node (operation : String) (query : Query)
  | explorer (params : Keyed Json)

namespace ClientRead

open Activity

abbrev Value : ClientRead → Type
  | node _ q => q.Answer
  | explorer _ => Json

def subject : ClientRead → Subject
  | node _ q => q.subject
  | explorer params => .ofParameters params

variable (world : Script)

def run : (r : ClientRead) → Work r.Value
  | node operation q => Work.rpc world operation q
  | explorer params => Work.explorer world params

def answer (limit : Duration) : (r : ClientRead) → Nat → Attempt r.Value
  | node operation q, n => world.answer limit operation q n
  | explorer params, n => world.explorerAnswer limit params n

/-- The explorer breaks off otherwise than by a timeout, an error of the client or a bad value. -/
def Stray (n : Nat) : ClientRead → Prop
  | node _ _ => False
  | explorer params => ∃ f, (world.explorerEntry params n).reply = .fault f ∧
      (f.kind = .connection ∨ f.kind = .runtime)

variable {world} {r : ClientRead} {n : Nat} {limit : Duration}

theorem stray_iff {params : Keyed Json} {f : Fault} (h : (world.explorerEntry params n).reply = .fault f) :
    (explorer params).Stray world n ↔ f.kind = .connection ∨ f.kind = .runtime := by
  constructor
  · rintro ⟨f', hf, hkind⟩
    rw [h] at hf
    cases hf
    exact hkind
  · intro hkind
    exact ⟨f, h, hkind⟩

theorem not_stray_of_value {params : Keyed Json} {payload : Json}
    (h : (world.explorerEntry params n).reply = .value payload) : ¬ (explorer params).Stray world n := by
  rintro ⟨f, hf, -⟩
  rw [h] at hf
  cases hf

theorem isIn_network_iff {e : Failure} (h : r.answer world limit n = .error e) :
    e.isIn .network = true ↔ ¬ r.Stray world n := by
  cases r with
  | node operation q => simp only [Script.isIn_network_of_answer h, Stray, not_false_eq_true]
  | explorer params =>
    change world.explorerAnswer limit params n = .error e at h
    unfold Script.explorerAnswer at h
    cases hr : (world.explorerEntry params n).reply with
    | value payload =>
      rw [hr] at h
      simp only [Work.isIn_network_of_accepted h, not_stray_of_value hr, not_false_eq_true]
    | fault f =>
      rw [hr] at h
      cases h
      rw [stray_iff hr, Script.isIn_network_explorerFault, decide_eq_true_iff]

theorem transport_of_stray {e : Failure} (h : r.answer world limit n = .error e) (hs : r.Stray world n) :
    ∃ kind message, e = .transport kind message := by
  cases r with
  | node operation q => exact hs.elim
  | explorer params =>
    obtain ⟨⟨kind, message⟩, hr, hkind⟩ := hs
    change world.explorerAnswer limit params n = .error e at h
    unfold Script.explorerAnswer at h
    rw [hr] at h
    cases h
    rcases hkind with rfl | rfl
    · exact ⟨_, _, rfl⟩
    · exact ⟨_, _, rfl⟩

theorem run_counted (world : Script) (r : ClientRead) (w : Window) (d : Desk) :
    let run := r.run world w d
    run.1.result = r.answer world d.client.timeout (d.trace.reads r.subject) ∧
    w.start ≤ run.1.ends ∧
    (w.reaches run.1.ends = true → run.2.client.total = d.client.total + 1 ∧
      run.2.client.failed = d.client.failed + Attempt.struck run.1.result) := by
  cases r with
  | node operation q =>
    obtain ⟨hr, -, hd⟩ := Work.rpc_run world operation q w d
    refine ⟨hr, ?_, fun h => ?_⟩
    · exact Work.start_le_rpc world operation q w d
    · change (Work.rpc world operation q w d).2.client.total = _ ∧ _
      rw [hd h, Desk.counted_total]
      exact ⟨rfl, (congrArg (·.client.failed) (hd h)).trans (Desk.counted_failed _ _)⟩
  | explorer params =>
    obtain ⟨hr, hends, hd⟩ := Work.explorer_run world params w d
    obtain ⟨-, -, htotal, hfailed⟩ := d.inSession_client w.start.instant
    refine ⟨hr, ?_, fun h => ?_⟩
    · change w.start ≤ (Work.explorer world params w d).1.ends
      rw [hends]
      exact w.start.le_after_moment _
    · change (Work.explorer world params w d).2.client.total = _ ∧
        (Work.explorer world params w d).2.client.failed = _
      rw [hd h, Desk.counted_total, Desk.counted_failed]
      exact ⟨congrArg (· + 1) htotal, congrArg (· + _) hfailed⟩

def inTurn (world : Script) : List ClientRead → Work (List Failure)
  | [] => Activity.pure []
  | r :: rs => do
    let result ← attempt (r.run world)
    let later ← inTurn world rs
    Activity.pure (Attempt.failures result ++ later)

theorem inTurn_cons {rs : List ClientRead} {w : Window} {d : Desk} {later : List Failure}
    (h : (inTurn world rs ⟨(r.run world w d).1.ends, w.limit⟩ (r.run world w d).2).1.result = .ok later) :
    (inTurn world (r :: rs) w d).1.result = .ok (Attempt.failures (r.run world w d).1.result ++ later) ∧
    (inTurn world (r :: rs) w d).1.ends =
      (inTurn world rs ⟨(r.run world w d).1.ends, w.limit⟩ (r.run world w d).2).1.ends ∧
    (inTurn world (r :: rs) w d).2 =
      (inTurn world rs ⟨(r.run world w d).1.ends, w.limit⟩ (r.run world w d).2).2 := by
  have hfirst : (attempt (r.run world) w d).1.result = .ok (r.run world w d).1.result := rfl
  have hsecond : (inTurn world rs ⟨(attempt (r.run world) w d).1.ends, w.limit⟩
      (attempt (r.run world) w d).2).1.result = .ok later := h
  rw [inTurn, bind_of_ok hfirst, bind_of_ok hsecond]
  exact ⟨rfl, rfl, rfl⟩

theorem inTurn_counted (world : Script) (rs : List ClientRead) (w : Window) (d : Desk) :
    let run := inTurn world rs w d
    ∃ failures, run.1.result = .ok failures ∧ w.start ≤ run.1.ends ∧
      (∀ e ∈ failures, e.isIn .network = false → ∃ kind message, e = .transport kind message) ∧
      (w.reaches run.1.ends = true → run.2.client.total = d.client.total + rs.length ∧
        run.2.client.failed = d.client.failed + failures.countP (·.isIn .network)) := by
  -- on the reads: what the first one leaves behind is where the others begin
  induction rs generalizing w d with
  | nil => exact ⟨[], rfl, le_refl w.start, fun e he => (List.not_mem_nil he).elim, fun _ => ⟨rfl, rfl⟩⟩
  | cons r rs ih =>
    obtain ⟨hanswer, hle, hcounts⟩ := run_counted world r w d
    obtain ⟨later, hlater, hle', hkinds, hcounts'⟩ := ih ⟨(r.run world w d).1.ends, w.limit⟩ (r.run world w d).2
    obtain ⟨hresult, hends, hstate⟩ := inTurn_cons hlater
    refine ⟨Attempt.failures (r.run world w d).1.result ++ later, hresult, ?_, ?_, ?_⟩
    · rw [hends]
      exact le_trans hle hle'
    · intro e he hnot
      rcases List.mem_append.1 he with he | he
      · cases hr : (r.run world w d).1.result with
        | ok a =>
          rw [hr] at he
          cases he
        | error e' =>
          rw [hr, Attempt.failures, List.mem_singleton] at he
          subst he
          rw [hr] at hanswer
          have hstray := mt (isIn_network_iff hanswer.symm).2 (by simp [hnot])
          exact transport_of_stray hanswer.symm (Classical.not_not.1 hstray)
      · exact hkinds e he hnot
    · rw [hends, hstate]
      intro h
      obtain ⟨htotal, hfailed⟩ := hcounts (Window.reaches_of_le hle' h)
      obtain ⟨htotal', hfailed'⟩ := hcounts' h
      rw [htotal', hfailed', htotal, hfailed, List.length_cons, List.countP_append, Attempt.struck_eq]
      omega

theorem exists_answer_of_stray (limit : Duration) (h : r.Stray world n) : ∃ e, r.answer world limit n = .error e := by
  cases r with
  | node operation q => exact h.elim
  | explorer params =>
    obtain ⟨f, hr, -⟩ := h
    change ∃ e, world.explorerAnswer limit params n = .error e
    unfold Script.explorerAnswer
    rw [hr]
    exact ⟨_, rfl⟩

theorem reads_counted (world : Script) :
    (∀ (r : ClientRead) (w : Window) (d : Desk),
      let run := r.run world w d
      let stray := r.Stray world (d.trace.reads r.subject)
      w.reaches run.1.ends = true → run.2.client.total = d.client.total + 1 ∧
        (¬ stray → (∀ a, run.1.result = .ok a → run.2.client.failed = d.client.failed) ∧
          ∀ e, run.1.result = .error e →
            e.isIn .network = true ∧ run.2.client.failed = d.client.failed + 1) ∧
        (stray → ∃ kind message, run.1.result = .error (.transport kind message) ∧
          run.2.client.failed = d.client.failed)) ∧
    ∀ (rs : List ClientRead) (w : Window) (d : Desk),
      let run := inTurn world rs w d
      w.reaches run.1.ends = true → run.2.client.total = d.client.total + rs.length ∧
        ∃ failures, run.1.result = .ok failures ∧
          (run.2.client.failed = d.client.failed + failures.length ↔ ∀ e ∈ failures, e.isIn .network = true) ∧
          ∀ e ∈ failures, e.isIn .network = true ∨ ∃ kind message, e = .transport kind message := by
  constructor
  · intro r w d run stray h
    obtain ⟨hanswer, -, hcounts⟩ := run_counted world r w d
    obtain ⟨htotal, hfailed⟩ := hcounts h
    refine ⟨htotal, fun hstray => ⟨fun a ha => ?_, fun e he => ?_⟩, fun hstray => ?_⟩
    · rw [hfailed, show (r.run world w d).1.result = .ok a from ha]
      rfl
    · have hin := (isIn_network_iff (hanswer.symm.trans he)).2 hstray
      refine ⟨hin, ?_⟩
      rw [hfailed, show (r.run world w d).1.result = .error e from he, Attempt.struck, if_pos hin]
    · obtain ⟨e, he⟩ := exists_answer_of_stray d.client.timeout hstray
      obtain ⟨kind, message, rfl⟩ := transport_of_stray he hstray
      refine ⟨kind, message, hanswer.trans he, ?_⟩
      rw [hfailed, show (r.run world w d).1.result = _ from hanswer.trans he]
      rfl
  · intro rs w d run h
    obtain ⟨failures, hresult, -, hkinds, hcounts⟩ := inTurn_counted world rs w d
    obtain ⟨htotal, hfailed⟩ := hcounts h
    refine ⟨htotal, failures, hresult, ?_, fun e he => ?_⟩
    · rw [hfailed, Nat.add_left_cancel_iff, List.countP_eq_length]
    · cases hin : e.isIn .network with
      | true => exact .inl rfl
      | false => exact .inr (hkinds e he hin)

def resetWorld : Script :=
  { Script.quiet with explorer := fun _ _ => [⟨.fault ⟨.connection, "reset"⟩, .zero⟩] }

def historyRead : ClientRead := .explorer (Work.accountQuery "tokentx" .zero [("sort", .str "desc")])

theorem reads_counted_resetWorld :
    let block := ClientRead.node "eth_blockNumber" .blockNumber
    let run := block.run resetWorld ⟨.ofInstant .start, none⟩ .idle
    let both := inTurn resetWorld [block, historyRead] ⟨.ofInstant .start, none⟩ .idle
    Window.reaches ⟨.ofInstant .start, none⟩ run.1.ends = true ∧ run.2.client.total = 1 ∧
    Window.reaches ⟨.ofInstant .start, none⟩ both.1.ends = true ∧ both.2.client.total = 2 :=
  ⟨rfl, ((reads_counted resetWorld).1 (.node "eth_blockNumber" .blockNumber) ⟨.ofInstant .start, none⟩ .idle
    rfl).1, rfl, ((reads_counted resetWorld).2 [.node "eth_blockNumber" .blockNumber, historyRead]
    ⟨.ofInstant .start, none⟩ .idle rfl).1⟩

theorem reset_uncounted :
    let run := historyRead.run resetWorld ⟨.ofInstant .start, none⟩ .idle
    run.1.result = .error (.transport .connection "reset") ∧
    (Failure.transport .connection "reset").isIn .network = false ∧
    run.2.client.total = 1 ∧ run.2.client.failed = 0 := by
  intro run
  obtain ⟨hanswer, -, hcounts⟩ :=
    run_counted resetWorld historyRead ⟨.ofInstant .start, none⟩ .idle
  have hresult : run.1.result = .error (.transport .connection "reset") := hanswer
  obtain ⟨htotal, hfailed⟩ := hcounts rfl
  refine ⟨hresult, rfl, htotal, ?_⟩
  rw [show historyRead.run resetWorld ⟨.ofInstant .start, none⟩ .idle = run from rfl, hresult] at hfailed
  exact hfailed

end ClientRead

end ChainRisk
