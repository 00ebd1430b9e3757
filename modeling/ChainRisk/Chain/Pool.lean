import ChainRisk.Chain.Client

namespace ChainRisk

structure ClientFactory where
  make : Network → Duration → Attempt (Client × Call)
  network_of_make : ∀ {n timeout c call}, make n timeout = .ok (c, call) → c.network = n

def ClientFactory.standard : ClientFactory where
  make n timeout := Client.connect n timeout false
  network_of_make h := by rw [(Client.eq_of_connect h).1]

structure Pool where
  networks : NetworkTable
  timeout : Duration
  made : List Client
  current : Keyed Nat
  trace : Trace

namespace Pool

def empty (networks : NetworkTable) (timeout : Duration) (trace : Trace) : Pool :=
  ⟨networks, timeout, [], [], trace⟩

def insert (network : Network) (c : Client) (t : Instant) (call : Call) (p : Pool) : Pool :=
  { p with
    made := p.made ++ [c]
    current := Keyed.put network.name p.made.length p.current
    trace := (t, call) :: p.trace }

/-- The client of a network, made by a factory of the caller's when there is none. -/
def getBy (factory : ClientFactory) (network : Network) : Activity Pool Nat := do
  let p ← Activity.inspect
  match Keyed.get? network.name p.current with
  | some i => Activity.pure i
  | none => do
    let (c, call) ← Activity.ofAttempt (factory.make network p.timeout)
    let t ← Activity.now
    Activity.update (insert network c t call)
    Activity.pure p.made.length

def get (network : Network) : Activity Pool Nat := getBy .standard network

def desk (p : Pool) (c : Client) : Desk := ⟨c, p.trace, .fresh .zero⟩

def withDesk (i : Nat) (d : Desk) (p : Pool) : Pool :=
  { p with made := p.made.set i d.client, trace := d.trace }

def work {α : Type} (i : Nat) (x : Work α) : Activity Pool α := fun w p =>
  match p.made[i]? with
  | some c =>
    let (o, d) := x w (p.desk c)
    (o, p.withDesk i d)
  | none => Activity.fail (.mismatch .missingField) w p

def closeEach : List Nat → Activity Pool Unit
  | [] => Activity.pure ()
  | i :: rest => do
    work i Work.closeSession
    closeEach rest

def close : Activity Pool Unit := do
  let p ← Activity.inspect
  closeEach (p.current.map (·.2))
  Activity.update fun p => { p with current := [] }

def alone {α : Type} (networks : NetworkTable) (timeout : Duration) (x : Activity Pool α) :
    Activity Trace α :=
  Activity.zoom (Pool.empty networks timeout) (fun p _ => p.trace) do
    let result ← Activity.attempt x
    close
    Activity.ofAttempt result

end Pool

end ChainRisk
