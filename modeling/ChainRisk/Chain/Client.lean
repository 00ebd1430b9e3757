import ChainRisk.Chain.Script
import ChainRisk.Network
import ChainRisk.Statistics
import ChainRisk.Time.Activity

namespace ChainRisk

inductive Session
  | absent
  | own
  | lent
  deriving DecidableEq

structure Client where
  network : Network
  timeout : Duration
  session : Session
  total : Nat
  failed : Nat

abbrev Trace := List (Instant × Call)

def Trace.reads (t : Trace) (x : Subject) : Nat := t.countP fun e => e.2.subject? == some x

/-- The instants at which the node answers, also when nobody waits for the answer any more. -/
def Trace.answers (world : Script) : Trace → List Instant
  | [] => []
  | (t, .rpc _ q) :: earlier =>
    t.after (world.entry q (Trace.reads earlier q.subject)).delay :: Trace.answers world earlier
  | _ :: earlier => Trace.answers world earlier

def Trace.nextAnswer? (world : Script) (t : Instant) (trace : Trace) : Option Instant :=
  ((trace.answers world).filter fun s => decide (t < s)).min?

structure Desk where
  client : Client
  trace : Trace
  statistics : RunStatistics Binary64

abbrev Work := Activity Desk

namespace Client

def connect (n : Network) (timeout : Duration) (lent : Bool) : Attempt (Client × Call) :=
  match n.endpoint? with
  | none => .error (.noEndpoint n.name)
  | some url => do
    let whole ← timeout.wholeSeconds
    pure (⟨n, timeout, if lent then .lent else .absent, 0, 0⟩, .connect url whole)

theorem eq_of_connect {n : Network} {timeout : Duration} {lent : Bool} {c : Client} {call : Call}
    (h : connect n timeout lent = .ok (c, call)) :
    c = ⟨n, timeout, if lent then .lent else .absent, 0, 0⟩ ∧ ∃ url whole, call = .connect url whole := by
  unfold connect at h
  split at h
  · cases h
  · next url _ =>
    cases hw : timeout.wholeSeconds with
    | error e =>
      rw [hw] at h
      cases h
    | ok whole =>
      rw [hw] at h
      cases h
      exact ⟨rfl, url, whole, rfl⟩

def url (c : Client) : String := c.network.endpoint?.getD ""

def statistics (c : Client) : Json :=
  .obj [("network", .str c.network.name), ("chain_id", c.network.chainId),
    ("total_requests", .int c.total), ("failed_requests", .int c.failed)]

end Client

namespace Desk

def call (t : Instant) (c : Call) (d : Desk) : Desk := { d with trace := (t, c) :: d.trace }

def countRequest (d : Desk) : Desk := { d with client := { d.client with total := d.client.total + 1 } }

def countFailure (d : Desk) : Desk :=
  { d with client := { d.client with failed := d.client.failed + 1 } }

def countDegraded (d : Desk) : Desk := { d with statistics := d.statistics.countDegraded }

def recordRun (elapsed : Binary64) (success : Bool) (d : Desk) : Desk :=
  { d with statistics := d.statistics.record elapsed success }

def setSession (s : Session) (d : Desk) : Desk := { d with client := { d.client with session := s } }

end Desk

namespace Work

open Activity

def record (c : Call) : Work Unit := do
  let t ← now
  update (Desk.call t c)

def openSession : Work Unit := do
  let d ← inspect
  if d.client.session = .absent then
    record (.openSession d.client.timeout)
    update (Desk.setSession .own)

def closeSession : Work Unit := do
  let d ← inspect
  if d.client.session = .own then record .closeSession
  update (Desk.setSession .absent)

def failCounted {α : Type} (e : Failure) : Work α := do
  update Desk.countFailure
  fail e

def replied {α : Type} (operation : String) (timeout : Duration) : Reply α → Work α
  | .value a => Activity.pure a
  | .fault f =>
    failCounted (if f.kind = .timeout then .readTimedOut operation timeout
      else .readFailed operation f.message)

/-- A read of the node. An answer that takes longer than the timeout does not count. There is a worker for
every read, so that no read waits until another one is over; time spent in a queue is part of the delay. -/
def rpc (world : Script) (operation : String) (q : Query) : Work q.Answer := do
  let d ← inspect
  let timeout := d.client.timeout
  let entry := world.entry q (d.trace.reads q.subject)
  update Desk.countRequest
  record (.rpc d.client.url q)
  if timeout.outlastedBy entry.delay then
    wait timeout.seconds
    takeUp
    failCounted (.readTimedOut operation timeout)
  else
    wait entry.delay
    takeUp
    replied operation timeout entry.reply

def withKey (params : Keyed Json) (key : String) : Keyed Json := Keyed.put "apikey" (.str key) params

def explorerOperation (params : Keyed Json) : String :=
  let part := fun name => ((Keyed.get? name params).getD .null).shown
  "explorer " ++ part "module" ++ "." ++ part "action"

def isRefusal (status message : String) : Bool :=
  status != "1" && "NOTOK".toList.isPrefixOf (Text.upper message).toList

def accepted (operation : String) (payload : Json) : Attempt Json :=
  match payload with
  | .obj _ =>
    let part := fun name => ((payload.field? name).getD (.str "")).shown
    if isRefusal (part "status") (part "message") then .error (.refused (part "message") (part "result"))
    else .ok payload
  | _ => .error (.unexpectedPayload operation)

def explorerReplied (operation : String) (timeout : Duration) : Reply Json → Work Json
  | .value payload =>
    match accepted operation payload with
    | .ok v => Activity.pure v
    | .error e => failCounted e
  | .fault f =>
    match f.kind with
    | .timeout => failCounted (.readTimedOut operation timeout)
    | .client => failCounted (.readFailed operation f.message)
    | .value => failCounted (.readFailed operation f.message)
    | .connection => fail (.transport f.kind f.message)
    | .runtime => fail (.transport f.kind f.message)

/-- A query to the explorer. The session ends a query that lasts too long by itself: that is an outcome of
the script, a fault of the kind `timeout`, and not a limit that is kept here. -/
def explorer (world : Script) (params : Keyed Json) : Work Json := do
  openSession
  let d ← inspect
  let query := withKey params d.client.network.explorerKey
  let operation := explorerOperation params
  let entry := world.explorerEntry query (d.trace.reads (.ofParameters query))
  update Desk.countRequest
  record (.explorer d.client.network.explorerUrl query)
  wait entry.delay
  explorerReplied operation d.client.timeout entry.reply

end Work

end ChainRisk
