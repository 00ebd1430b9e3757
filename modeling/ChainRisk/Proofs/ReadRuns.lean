import ChainRisk.Proofs.Answers
import ChainRisk.Proofs.Passage
import ChainRisk.Proofs.TimeOrder

namespace ChainRisk

def Duration.spent (limit : Duration) (d : Binary64) : Binary64 :=
  if limit.outlastedBy d then limit.seconds else d

namespace Window

theorem reaches_of_le {w : Window} {m n : Moment} (hle : m ≤ n) (h : w.reaches n = true) :
    w.reaches m = true := by
  unfold reaches at *
  split at h
  · exact decide_eq_true (lt_of_le_of_lt hle (of_decide_eq_true h))
  · rfl

theorem reaches_mk (w : Window) (m n : Moment) : Window.reaches ⟨m, w.limit⟩ n = w.reaches n := rfl

end Window

namespace Desk

def counted {α : Type} (r : Attempt α) (d : Desk) : Desk :=
  match r with
  | .ok _ => d
  | .error e => if e.isIn .network then d.countFailure else d

theorem same_counted {α β : Type} (f : Desk → β) (hf : ∀ d, f d.countFailure = f d) (r : Attempt α) (d : Desk) :
    f (d.counted r) = f d := by
  unfold counted
  split
  · rfl
  · split
    · exact hf d
    · rfl

def inSession (t : Instant) (d : Desk) : Desk :=
  if d.client.session = .absent then (d.call t (.openSession d.client.timeout)).setSession .own else d

theorem inSession_client (t : Instant) (d : Desk) : (d.inSession t).client.network = d.client.network ∧
    (d.inSession t).client.timeout = d.client.timeout ∧ (d.inSession t).client.total = d.client.total ∧
    (d.inSession t).client.failed = d.client.failed := by
  unfold inSession
  split <;> exact ⟨rfl, rfl, rfl, rfl⟩

theorem reads_inSession (t : Instant) (d : Desk) : (d.inSession t).trace.reads = d.trace.reads := by
  unfold inSession
  split
  · exact congrArg View.reads (view_call_of_none (c := .openSession d.client.timeout) rfl t d)
  · rfl

def outOfSession (t : Instant) (d : Desk) : Desk :=
  (if d.client.session = .own then d.call t .closeSession else d).setSession .absent

theorem reads_outOfSession (t : Instant) (d : Desk) : (d.outOfSession t).trace.reads = d.trace.reads := by
  unfold outOfSession
  split
  · exact congrArg View.reads (view_call_of_none (c := .closeSession) rfl t d)
  · rfl

end Desk

namespace Work

open Activity

variable (world : Script)

theorem rpc_run (operation : String) (q : Query) (w : Window) (d : Desk) :
    let n := d.trace.reads q.subject
    let run := rpc world operation q w d
    run.1.result = world.answer d.client.timeout operation q n ∧
    run.1.ends = (w.start.after (d.client.timeout.spent (world.entry q n).delay)).next ∧
    (w.reaches run.1.ends = true → run.2 =
      (d.countRequest.call w.start.instant (.rpc d.client.url q)).counted run.1.result) := by
  have hstart (x : Binary64) : w.reaches (w.start.after x).next = true → w.reaches w.start = true :=
    Window.reaches_of_le (le_trans (w.start.le_after_moment x) (le_of_lt (w.start.after x).lt_next))
  simp only [rpc, Bind.bind, Activity.bind, inspect, Activity.pure, update, record, now, Script.answer,
    Duration.spent]
  split
  · simp only [Activity.bind, wait, takeUp, failCounted, update, fail, Bind.bind, Activity.pure]
    refine ⟨trivial, trivial, fun h => ?_⟩
    simp only [Window.reaches_mk, h, hstart _ h, if_true]
    rfl
  · cases (world.entry q (d.trace.reads q.subject)).reply with
    | value x =>
      simp only [Activity.bind, wait, takeUp, Activity.pure, replied]
      refine ⟨trivial, trivial, fun h => ?_⟩
      simp only [hstart _ h, if_true]
      rfl
    | fault f =>
      simp only [Activity.bind, wait, takeUp, failCounted, update, fail, Bind.bind, Activity.pure, replied]
      refine ⟨trivial, trivial, fun h => ?_⟩
      simp only [Window.reaches_mk, h, hstart _ h, if_true]
      cases f.kind <;> rfl

theorem start_le_rpc (operation : String) (q : Query) (w : Window) (d : Desk) :
    w.start ≤ (rpc world operation q w d).1.ends := by
  rw [(rpc_run world operation q w d).2.1]
  exact le_trans (w.start.le_after_moment _) (le_of_lt (Moment.lt_next _))

theorem openSession_run (w : Window) (d : Desk) : (openSession w d).1.result = .ok () ∧
    (openSession w d).1.ends = w.start ∧
    (openSession w d).2 = if w.reaches w.start then d.inSession w.start.instant else d := by
  simp only [openSession, Bind.bind, Activity.bind, inspect, Activity.pure, Desk.inSession]
  split
  · simp only [Activity.bind, record, now, update, Activity.pure, Bind.bind]
    refine ⟨trivial, trivial, ?_⟩
    simp only [Window.reaches_mk]
    split
    · next h => simp only [h, if_true]
    · next h => simp only [h, Bool.false_eq_true, if_false]
  · exact ⟨rfl, rfl, (ite_self d).symm⟩

theorem closeSession_run (w : Window) (d : Desk) : (closeSession w d).1.result = .ok () ∧
    (closeSession w d).1.ends = w.start ∧
    (closeSession w d).2 = if w.reaches w.start then d.outOfSession w.start.instant else d := by
  simp only [closeSession, Bind.bind, Activity.bind, inspect, Activity.pure, Desk.outOfSession]
  split
  · simp only [Activity.bind, record, now, update, Activity.pure, Bind.bind]
    refine ⟨trivial, trivial, ?_⟩
    simp only [Window.reaches_mk]
    split
    · next h => simp only [h, if_true]
    · next h => simp only [h, Bool.false_eq_true, if_false]
  · exact ⟨rfl, rfl, rfl⟩

theorem failCounted_run {α : Type} (e : Failure) (w : Window) (d : Desk) :
    (failCounted e w d : Outcome α × Desk).1.result = .error e ∧
    (failCounted e w d : Outcome α × Desk).1.ends = w.start ∧
    (w.reaches w.start = true → (failCounted e w d : Outcome α × Desk).2 = d.countFailure) :=
  ⟨rfl, rfl, fun h => if_pos h⟩

def explorerReply (operation : String) (limit : Duration) : Reply Json → Attempt Json
  | .value payload => accepted operation payload
  | .fault f => .error (Script.explorerFault operation limit f)

theorem isIn_network_of_accepted {operation : String} {payload : Json} {e : Failure}
    (h : accepted operation payload = .error e) : e.isIn .network = true := by
  cases payload with
  | obj fields =>
    rw [accepted] at h
    dsimp only at h
    split at h
    · cases h
      rfl
    · cases h
  | _ =>
    cases h
    rfl

theorem explorerReplied_run (operation : String) (limit : Duration) (reply : Reply Json) (w : Window)
    (d : Desk) :
    let run := explorerReplied operation limit reply w d
    run.1.result = explorerReply operation limit reply ∧ run.1.ends = w.start ∧
    (w.reaches w.start = true → run.2 = d.counted run.1.result) := by
  cases reply with
  | value payload =>
    rw [explorerReplied, explorerReply]
    cases ha : accepted operation payload with
    | ok v => exact ⟨rfl, rfl, fun _ => rfl⟩
    | error e =>
      refine ⟨rfl, rfl, fun h => ?_⟩
      rw [(failCounted_run e w d).1, Desk.counted, isIn_network_of_accepted ha]
      exact if_pos h
  | fault f =>
    obtain ⟨kind, message⟩ := f
    cases kind with
    | timeout => exact failCounted_run _ w d
    | client => exact failCounted_run _ w d
    | value => exact failCounted_run _ w d
    | connection => exact ⟨rfl, rfl, fun _ => rfl⟩
    | runtime => exact ⟨rfl, rfl, fun _ => rfl⟩

def queried (world : Script) (params : Keyed Json) : Work Json := do
  let d ← inspect
  let query := withKey params d.client.network.explorerKey
  let entry := world.explorerEntry query (d.trace.reads (.ofParameters query))
  update Desk.countRequest
  record (.explorer d.client.network.explorerUrl query)
  wait entry.delay
  explorerReplied (explorerOperation params) d.client.timeout entry.reply

theorem explorer_eq (params : Keyed Json) :
    explorer world params = openSession >>= fun _ => queried world params := rfl

theorem queried_run (params : Keyed Json) (w : Window) (d : Desk) :
    let n := d.trace.reads (.ofParameters params)
    let run := queried world params w d
    run.1.result = world.explorerAnswer d.client.timeout params n ∧
    run.1.ends = w.start.after (world.explorerEntry params n).delay ∧
    (w.reaches run.1.ends = true → run.2 = (d.countRequest.call w.start.instant
      (.explorer d.client.network.explorerUrl (withKey params d.client.network.explorerKey))).counted
        run.1.result) := by
  simp only [queried, Bind.bind, Activity.bind, inspect, Activity.pure, update, record, now, wait,
    Script.explorerEntry_withKey, Subject.ofParameters_withKey]
  refine ⟨(explorerReplied_run ..).1, (explorerReplied_run ..).2.1, fun h => ?_⟩
  rw [(explorerReplied_run ..).2.1] at h
  have hstart : w.reaches w.start = true := Window.reaches_of_le (w.start.le_after_moment _) h
  rw [(explorerReplied_run ..).2.2 h]
  simp only [hstart, if_true]

theorem explorer_run (params : Keyed Json) (w : Window) (d : Desk) :
    let n := d.trace.reads (.ofParameters params)
    let run := explorer world params w d
    run.1.result = world.explorerAnswer d.client.timeout params n ∧
    run.1.ends = w.start.after (world.explorerEntry params n).delay ∧
    (w.reaches run.1.ends = true → run.2 = ((d.inSession w.start.instant).countRequest.call w.start.instant
      (.explorer d.client.network.explorerUrl (withKey params d.client.network.explorerKey))).counted
        run.1.result) := by
  obtain ⟨hresult, hends, hstate⟩ := openSession_run w d
  have hclient : (openSession w d).2.client.network = d.client.network ∧
      (openSession w d).2.client.timeout = d.client.timeout ∧
      (openSession w d).2.trace.reads = d.trace.reads := by
    rw [hstate]
    split
    · exact ⟨(d.inSession_client _).1, (d.inSession_client _).2.1, d.reads_inSession _⟩
    · exact ⟨rfl, rfl, rfl⟩
  obtain ⟨hanswer, hover, hleft⟩ :=
    queried_run world params ⟨w.start, w.limit⟩ (openSession w d).2
  rw [hclient.2.1, hclient.2.2] at hanswer
  rw [hclient.2.2] at hover
  rw [hclient.1] at hleft
  rw [explorer_eq, bind_of_ok hresult, hends]
  refine ⟨hanswer, hover, fun h => ?_⟩
  have hstart : w.reaches w.start = true := by
    rw [hover] at h
    exact Window.reaches_of_le (w.start.le_after_moment _) h
  refine (hleft h).trans ?_
  rw [hstate, if_pos hstart]

end Work

end ChainRisk
