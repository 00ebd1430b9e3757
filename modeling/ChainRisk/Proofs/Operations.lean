import ChainRisk.Proofs.Steps

namespace ChainRisk

namespace Activity

variable {σ S : Type} (run : S → Activity σ Unit)

def after : List (Moment × S) → σ → σ
  | [], s => s
  | (m, e) :: rest, s => after rest (run e ⟨m, none⟩ s).2

theorem after_append (first second : List (Moment × S)) (s : σ) :
    after run (first ++ second) s = after run second (after run first s) := by
  induction first generalizing s with
  | nil => rfl
  | cons e first ih => exact ih _

variable {run} {W : S → Prop} {P : σ → Prop}

theorem carries_after (hrun : ∀ m e s, W e → P s → P (run e ⟨m, none⟩ s).2) {schedule : List (Moment × S)}
    (hschedule : ∀ e ∈ schedule, W e.2) {s : σ} (h : P s) : P (after run schedule s) := by
  induction schedule generalizing s with
  | nil => exact h
  | cons e schedule ih =>
    obtain ⟨m, e⟩ := e
    obtain ⟨he, hrest⟩ := List.forall_mem_cons.1 hschedule
    exact ih hrest (hrun m e s he h)

end Activity

inductive ClientOperation
  | openSession
  | query (params : Keyed Json)
  | blockNumber
  | code (a : Json)
  | storage (a slot : Json)
  | metadata (token : Json)
  | allowance (token owner spender : Json)
  | spenders (token owner fromBlock : Json)
  | verifiedSource (a : Json)
  | firstTransaction (a : Json)
  | transferHistory (owner : Json)
  | assess (detectors : List Detector) (slots : List ProxySlot) (contract : Json)
  | allowances (survey : Survey) (owner : Json)

namespace ClientOperation

abbrev Value : ClientOperation → Type
  | openSession => Unit
  | query _ => Json
  | blockNumber => Json
  | code _ => Bytes
  | storage _ _ => Bytes
  | metadata _ => TokenMetadata
  | allowance _ _ _ => Int
  | spenders _ _ _ => List Address
  | verifiedSource _ => Verification
  | firstTransaction _ => Option Calendar.Timestamp
  | transferHistory _ => List String
  | assess _ _ _ => Assessment
  | allowances _ _ => AllowanceReport

def run (world : Script) : (op : ClientOperation) → Work op.Value
  | openSession => Work.openSession
  | query params => Work.explorer world params
  | blockNumber => Work.blockNumber world
  | code a => Work.code world a
  | storage a slot => Work.storage world a slot
  | metadata token => Work.metadata world token
  | allowance token owner spender => Work.allowance world token owner spender
  | spenders token owner fromBlock => Work.spenders world token owner fromBlock
  | verifiedSource a => Work.verifiedSource world a
  | firstTransaction a => Work.firstTransaction world a
  | transferHistory owner => Work.transferHistory world owner
  | assess detectors slots contract => Work.assess world detectors slots contract
  | allowances survey owner => Work.allowances world survey owner

def tried (world : Script) (op : ClientOperation) : Work Unit := do
  let _ ← Activity.attempt (op.run world)
  Activity.pure ()

end ClientOperation

inductive ClientUse
  | operation (op : ClientOperation)
  | atOnce (ops : List ClientOperation)
  | inTurn (u v : ClientUse)
  | together (u v : ClientUse)
  | within (limit : Duration) (alarm : Option Instant) (u : ClientUse)

def ClientUse.run (world : Script) : ClientUse → Work Unit
  | operation op => op.tried world
  | atOnce ops => do
    let _ ← Activity.each (ops.map fun op => op.tried world)
    Activity.pure ()
  | inTurn u v => do
    u.run world
    v.run world
  | together u v => do
    let _ ← Activity.both (u.run world) (v.run world)
    Activity.pure ()
  | within limit alarm u => do
    let _ ← Activity.attempt (Activity.within limit alarm (u.run world))
    Activity.pure ()

open Activity

variable {R : Desk → Desk → Prop} [IsPreorder Desk R] {world : Script}

theorem ClientOperation.respects_run (h : Desk.Steps R) (op : ClientOperation) : Respects R (op.run world) := by
  cases op with
  | openSession => exact Work.respects_openSession h.reads
  | query params => exact Work.respects_explorer h.reads params
  | blockNumber => exact Work.respects_rpc h.reads _ _
  | code a => exact Work.respects_code h.reads a
  | storage a slot => exact Work.respects_storage h.reads a slot
  | metadata token => exact Work.respects_metadata h.reads token
  | allowance token owner spender => exact Work.respects_allowance h.reads token owner spender
  | spenders token owner fromBlock => exact Work.respects_spenders h.reads token owner fromBlock
  | verifiedSource a => exact Work.respects_verifiedSource h.reads a
  | firstTransaction a => exact Work.respects_firstTransaction h.reads a
  | transferHistory owner => exact Work.respects_transferHistory h.reads owner
  | assess detectors slots contract => exact Work.respects_assess h detectors slots contract
  | allowances survey owner => exact Work.respects_allowances h survey owner

theorem ClientOperation.respects_tried (h : Desk.Steps R) (op : ClientOperation) : Respects R (op.tried world) :=
  respects_bind (respects_attempt (op.respects_run h)) fun _ => respects_pure _

theorem ClientUse.respects_run (h : Desk.Steps R) (u : ClientUse) : Respects R (u.run world) := by
  induction u with
  | operation op => exact op.respects_tried h
  | atOnce ops =>
    refine respects_bind (respects_each ?_) fun _ => respects_pure _
    intro x hx
    obtain ⟨op, -, rfl⟩ := List.mem_map.1 hx
    exact op.respects_tried h
  | inTurn u v ihu ihv => exact respects_bind ihu fun _ => ihv
  | together u v ihu ihv => exact respects_bind (respects_both ihu ihv) fun _ => respects_pure _
  | within limit alarm u ih =>
    exact respects_bind (respects_attempt (respects_within ih limit alarm)) fun _ => respects_pure _

end ChainRisk
