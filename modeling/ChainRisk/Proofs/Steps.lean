import ChainRisk.Proofs.Clients
import ChainRisk.Proofs.ReadRuns
import ChainRisk.Request

namespace ChainRisk

/-- A relation that lies between the states before and after each single step of a client at work. The
end of a session is no such step. -/
structure Desk.Steps (R : Desk → Desk → Prop) : Prop where
  read : ∀ t c d, c.subject?.isSome = true → R d (d.call t c)
  inSession : ∀ t d, R d (d.inSession t)
  countRequest : ∀ d, R d d.countRequest
  countFailure : ∀ d, R d d.countFailure
  countDegraded : ∀ d, R d d.countDegraded
  recordRun : ∀ elapsed success d, R d (d.recordRun elapsed success)

structure Desk.ReadSteps (R : Desk → Desk → Prop) : Prop where
  read : ∀ t c d, c.subject?.isSome = true → R d (d.call t c)
  inSession : ∀ t d, R d (d.inSession t)
  countRequest : ∀ d, R d d.countRequest
  countFailure : ∀ d, R d d.countFailure

structure Desk.AnalysisSteps (R : Desk → Desk → Prop) : Prop where
  reads : Desk.ReadSteps R
  countDegraded : ∀ d, R d d.countDegraded

theorem Desk.Steps.reads {R : Desk → Desk → Prop} (h : Desk.Steps R) : Desk.ReadSteps R :=
  ⟨h.read, h.inSession, h.countRequest, h.countFailure⟩

theorem Desk.Steps.analysis {R : Desk → Desk → Prop} (h : Desk.Steps R) : Desk.AnalysisSteps R :=
  ⟨h.reads, h.countDegraded⟩

def Desk.Keeps {β : Type} (f : RunStatistics Binary64 → β) (d d' : Desk) : Prop :=
  f d'.statistics = f d.statistics

instance {β : Type} (f : RunStatistics Binary64 → β) : IsPreorder Desk (Desk.Keeps f) where
  refl _ := rfl
  trans _ _ _ h h' := Eq.trans h' h

theorem Desk.readSteps_keeps {β : Type} (f : RunStatistics Binary64 → β) : Desk.ReadSteps (Keeps f) where
  read _ _ _ _ := rfl
  inSession t d := by
    unfold Desk.inSession
    split <;> rfl
  countRequest _ := rfl
  countFailure _ := rfl

namespace Work

open Activity

variable {R : Desk → Desk → Prop} [IsPreorder Desk R] {world : Script} {α : Type}

theorem respects_address (v : Json) : Respects R (address v) := respects_ofAttempt _

theorem respects_closeSession (hclose : ∀ t d, R d (d.outOfSession t)) : Respects R closeSession := by
  intro w d
  rw [(closeSession_run w d).2.2]
  split
  · exact hclose _ d
  · exact refl d

theorem respects_clock : Respects R (clock world) := respects_bind respects_now fun _ => respects_pure _

theorem respects_pause (d : Binary64) : Respects R (pause d) := by
  unfold pause
  split
  · exact respects_wait d
  · exact respects_pure _

theorem respects_ofBatches (survey : Survey) {process : String → Work (List Allowance)}
    (hprocess : ∀ t, Respects R (process t)) (i : Nat) (bs : List (List String)) :
    Respects R (ofBatches survey process i bs) := by
  have hbatch (batch : List String) : Respects R (all (batch.map process)) := by
    apply respects_all
    intro x hx
    obtain ⟨t, -, rfl⟩ := List.mem_map.1 hx
    exact hprocess t
  -- on the batches, of which the last one is followed by no pause
  induction bs generalizing i with
  | nil => exact respects_pure _
  | cons batch rest ih =>
    cases rest with
    | nil => exact respects_bind (hbatch batch) fun found => respects_pure _
    | cons next rest =>
      refine respects_bind (hbatch batch) fun found => ?_
      refine respects_bind (respects_pause _) fun _ => ?_
      exact respects_bind (ih (i + 1)) fun later => respects_pure _

theorem respects_recorded (hrun : ∀ elapsed success d, R d (d.recordRun elapsed success)) {x : Work α}
    (hx : Respects R x) : Respects R (recorded world x) := by
  refine respects_bind respects_clock fun start => ?_
  refine respects_bind (respects_attempt hx) fun result => ?_
  refine respects_bind respects_clock fun stop => ?_
  exact respects_bind (respects_update (hrun _ _)) fun _ => respects_ofAttempt _

section Reads

variable (h : Desk.ReadSteps R)

include h

theorem respects_record {c : Call} (hc : c.subject?.isSome = true) : Respects R (record c) :=
  respects_bind respects_now fun t => respects_update fun d => h.read t c d hc

theorem respects_failCounted (e : Failure) : Respects R (failCounted e : Work α) :=
  respects_bind (respects_update h.countFailure) fun _ => respects_fail e

theorem respects_openSession : Respects R openSession := by
  intro w d
  rw [(openSession_run w d).2.2]
  split
  · exact h.inSession _ d
  · exact refl d

theorem respects_replied (operation : String) (timeout : Duration) (reply : Reply α) :
    Respects R (replied operation timeout reply) := by
  cases reply with
  | value a => exact respects_pure a
  | fault f => exact respects_failCounted h _

theorem respects_awaited (operation : String) (timeout : Duration) (entry : Entry α) : Respects R
    (if timeout.outlastedBy entry.delay then
      wait timeout.seconds >>= fun _ => takeUp >>= fun _ => failCounted (.readTimedOut operation timeout)
    else wait entry.delay >>= fun _ => takeUp >>= fun _ => replied operation timeout entry.reply) := by
  split
  · refine respects_bind (respects_wait _) fun _ => ?_
    exact respects_bind respects_takeUp fun _ => respects_failCounted h _
  · refine respects_bind (respects_wait _) fun _ => ?_
    exact respects_bind respects_takeUp fun _ => respects_replied h _ _ _

theorem respects_rpc (operation : String) (q : Query) : Respects R (rpc world operation q) := by
  refine respects_bind respects_inspect fun d => ?_
  refine respects_bind (respects_update h.countRequest) fun _ => ?_
  exact respects_bind (respects_record h rfl) fun _ => respects_awaited h operation _ _

theorem respects_explorerReplied (operation : String) (timeout : Duration) (reply : Reply Json) :
    Respects R (explorerReplied operation timeout reply) := by
  cases reply with
  | value payload =>
    rw [explorerReplied]
    split
    · exact respects_pure _
    · exact respects_failCounted h _
  | fault f =>
    rw [explorerReplied]
    split
    · exact respects_failCounted h _
    · exact respects_failCounted h _
    · exact respects_failCounted h _
    · exact respects_fail _
    · exact respects_fail _

theorem respects_explorer (params : Keyed Json) : Respects R (explorer world params) := by
  refine respects_bind (respects_openSession h) fun _ => ?_
  refine respects_bind respects_inspect fun d => ?_
  refine respects_bind (respects_update h.countRequest) fun _ => ?_
  refine respects_bind (respects_record h rfl) fun _ => ?_
  exact respects_bind (respects_wait _) fun _ => respects_explorerReplied h _ _ _

theorem respects_code (a : Json) : Respects R (code world a) := by
  refine respects_bind (respects_address a) fun a => ?_
  exact respects_bind (respects_rpc h _ _) fun answer => respects_pure _

theorem respects_storage (a slot : Json) : Respects R (storage world a slot) := by
  refine respects_bind (respects_address a) fun a => ?_
  refine respects_bind (respects_ofAttempt _) fun n => ?_
  exact respects_bind (respects_rpc h _ _) fun answer => respects_pure _

theorem respects_delegation (a : Json) (slots : List ProxySlot) : Respects R (delegation world a slots) := by
  induction slots with
  | nil => exact respects_pure _
  | cons slot rest ih =>
    refine respects_bind (respects_storage h a slot.position) fun w => ?_
    change Respects R (if _ then _ else _)
    split
    · exact ih
    · exact respects_pure _

theorem respects_verifiedSource (a : Json) : Respects R (verifiedSource world a) := by
  refine respects_bind (respects_address a) fun a => ?_
  exact respects_bind (respects_explorer h _) fun payload => respects_ofAttempt _

theorem respects_firstTransaction (a : Json) : Respects R (firstTransaction world a) := by
  refine respects_bind (respects_address a) fun a => ?_
  exact respects_bind (respects_attempt (respects_explorer h _)) fun payload => respects_pure _

theorem respects_metadata (token : Json) : Respects R (metadata world token) := by
  refine respects_bind (respects_address token) fun a => ?_
  refine respects_bind (respects_all ?_) fun fields => ?_
  · intro x hx
    simp only [List.mem_cons, List.not_mem_nil, or_false] at hx
    rcases hx with rfl | rfl | rfl <;> exact respects_rpc h _ _
  · split
    · exact respects_bind (respects_ofAttempt _) fun n => respects_pure _
    · exact respects_fail _

theorem respects_allowance (token owner spender : Json) :
    Respects R (allowance world token owner spender) := by
  refine respects_bind (respects_address token) fun t => ?_
  refine respects_bind (respects_address owner) fun o => ?_
  refine respects_bind (respects_address spender) fun s => ?_
  exact respects_bind (respects_rpc h _ _) fun answer => respects_ofAttempt _

theorem respects_spenders (token owner fromBlock : Json) :
    Respects R (spenders world token owner fromBlock) := by
  refine respects_bind (respects_address token) fun t => ?_
  refine respects_bind (respects_address owner) fun o => ?_
  exact respects_bind (respects_rpc h _ _) fun logs => respects_ofAttempt _

theorem respects_transferHistory (owner : Json) : Respects R (transferHistory world owner) := by
  refine respects_bind (respects_address owner) fun a => ?_
  exact respects_bind (respects_explorer h _) fun payload => respects_ofAttempt _

theorem respects_firstBlock (survey : Survey) : Respects R (firstBlock world survey) := by
  change Respects R (if _ then _ else _)
  split
  · exact respects_pure _
  · refine respects_bind (respects_attempt (respects_rpc h _ _)) fun r => ?_
    cases r with
    | ok latest => exact respects_ofAttempt _
    | error e =>
      change Respects R (if _ then _ else _)
      split
      · exact respects_pure _
      · exact respects_fail e

end Reads

section Steps

variable (h : Desk.AnalysisSteps R)

include h

theorem respects_orStandIn (standIn : α) (r : Attempt α) : Respects R (orStandIn standIn r) := by
  cases r with
  | ok a => exact respects_pure a
  | error e => exact respects_bind (respects_update h.countDegraded) fun _ => respects_pure _

theorem respects_deployedFacts (detectors : List Detector) (slots : List ProxySlot) (a : Address)
    (code : Bytes) : Respects R (deployedFacts world detectors slots a code) := by
  refine respects_bind (respects_both (respects_verifiedSource h.reads _)
    (respects_both (respects_delegation h.reads _ slots) (respects_firstTransaction h.reads _))) ?_
  rintro ⟨verification, rest⟩
  refine respects_bind (respects_ofAttempt _) fun verification => ?_
  refine respects_bind (respects_ofAttempt _) ?_
  rintro ⟨proxy, deployed⟩
  refine respects_bind (respects_ofAttempt _) fun proxy => ?_
  refine respects_bind (respects_orStandIn h _ _) fun deployed => ?_
  exact respects_bind (respects_ofAttempt _) fun findings => respects_pure _

theorem respects_contractFacts (detectors : List Detector) (slots : List ProxySlot) (a : Address) :
    Respects R (contractFacts world detectors slots a) := by
  refine respects_bind (respects_code h.reads _) fun code => ?_
  change Respects R (if _ then _ else _)
  split
  · exact respects_fail _
  · exact respects_deployedFacts h detectors slots a code

variable (survey : Survey)

theorem respects_discovered (token owner : String) (fromBlock : Json) :
    Respects R (discovered world survey token owner fromBlock) := by
  refine respects_bind (respects_attempt (respects_spenders h.reads _ _ fromBlock)) fun r => ?_
  cases r with
  | ok found => exact respects_pure _
  | error e =>
    change Respects R (if _ then _ else _)
    split
    · exact respects_bind (respects_update h.countDegraded) fun _ => respects_pure _
    · exact respects_fail e

theorem respects_granted (token : String) (m : TokenMetadata) (answers : List (String × Attempt Int)) :
    Respects R (granted survey token m answers) := by
  induction answers with
  | nil => exact respects_pure _
  | cons answer rest ih =>
    obtain ⟨spender, answer⟩ := answer
    refine respects_bind (respects_orStandIn h _ _) fun amount => ?_
    change Respects R (if _ then _ else _)
    split
    · exact respects_bind (respects_pure _) fun found => respects_bind ih fun later => respects_pure _
    · exact respects_bind (respects_ofAttempt _) fun found => respects_bind ih fun later => respects_pure _

theorem respects_ofToken (owner : String) (fromBlock : Json) (token : String) :
    Respects R (ofToken world survey owner fromBlock token) := by
  refine respects_bind (respects_both (respects_metadata h.reads _)
    (respects_discovered h survey token owner fromBlock)) ?_
  rintro ⟨m, found⟩
  refine respects_bind (respects_orStandIn h _ _) fun m => ?_
  refine respects_bind (respects_ofAttempt _) fun found => ?_
  refine respects_bind (respects_each ?_) fun amounts => respects_granted h survey token m _
  intro x hx
  obtain ⟨s, -, rfl⟩ := List.mem_map.1 hx
  exact respects_allowance h.reads _ _ _

theorem respects_listed (owner : Address) (tokens : List String) : Respects R
    (firstBlock world survey >>= fun fromBlock => ofBatches survey (ofToken world survey owner.text fromBlock) 0
      (batches survey.batchSize survey.batchSize_pos (survey.chosen tokens)) >>= fun found =>
        timestamp world >>= fun stamp => inspect >>= fun d => Activity.pure
          (⟨.str owner.text, found, .int stamp, d.client.network.chainId⟩ : AllowanceReport)) := by
  refine respects_bind (respects_firstBlock h.reads survey) fun fromBlock => ?_
  refine respects_bind (respects_ofBatches survey (respects_ofToken h survey _ _) _ _) fun found => ?_
  refine respects_bind (respects_bind respects_clock fun _ => respects_ofAttempt _) fun stamp => ?_
  exact respects_bind respects_inspect fun d => respects_pure _

theorem respects_surveyed (owner : Address) : Respects R (surveyed world survey owner) :=
  respects_bind (respects_transferHistory h.reads _) fun tokens => respects_listed h survey owner tokens

end Steps

theorem respects_assess (h : Desk.Steps R) (detectors : List Detector) (slots : List ProxySlot) (contract : Json) :
    Respects R (assess world detectors slots contract) := by
  refine respects_bind (respects_address contract) fun a => ?_
  refine respects_bind (respects_recorded h.recordRun ?_) fun facts => respects_pure _
  exact respects_contractFacts h.analysis detectors slots a

theorem respects_allowances (h : Desk.Steps R) (survey : Survey) (owner : Json) :
    Respects R (allowances world survey owner) := by
  refine respects_bind (respects_address owner) fun a => ?_
  exact respects_recorded h.recordRun (respects_surveyed h.analysis survey a)

end Work

theorem Trace.reads_le_cons (e : Instant × Call) (t : Trace) (x : Subject) :
    t.reads x ≤ Trace.reads (e :: t) x := by
  rw [reads, reads, List.countP_cons]
  exact Nat.le_add_right ..

def Desk.Read (x : Subject) (d : Desk) : Prop := 0 < d.trace.reads x

def Pool.Read (x : Subject) (p : Pool) : Prop := 0 < p.trace.reads x

theorem Desk.steps_read (x : Subject) : Steps (Activity.Carries (Read x)) where
  read t c d _ hd := Nat.lt_of_lt_of_le hd (Trace.reads_le_cons (t, c) d.trace x)
  inSession t d hd := by rwa [Read, Desk.reads_inSession]
  countRequest _ := id
  countFailure _ := id
  countDegraded _ := id
  recordRun _ _ _ := id

theorem Desk.carries_read_outOfSession (x : Subject) (t : Instant) (d : Desk) :
    Activity.Carries (Read x) d (d.outOfSession t) := by
  intro hd
  rwa [Read, Desk.reads_outOfSession]

namespace Pool

open Activity

variable {α : Type} {x : Work α} {y : Subject}

theorem respects_read_work (hx : Respects (Carries (Desk.Read y)) x) (i : Nat) :
    Respects (Carries (Read y)) (work i x) := by
  intro w p hp
  rw [work]
  split
  · next c _ => exact hx w (p.desk c) hp
  · exact hp

theorem respects_read_close : Respects (Carries (Read y)) close := by
  have heach (is : List Nat) : Respects (Carries (Read y)) (closeEach is) := by
    induction is with
    | nil => exact respects_pure _
    | cons i is ih =>
      have hone := respects_read_work (Work.respects_closeSession (Desk.carries_read_outOfSession y)) i
      exact respects_bind hone fun _ => ih
  exact respects_bind respects_inspect fun p =>
    respects_bind (heach _) fun _ => respects_update fun p hp => hp

end Pool

end ChainRisk
