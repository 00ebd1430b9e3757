import ChainRisk.Amount
import ChainRisk.Analysis
import ChainRisk.Proofs.AddressText
import ChainRisk.Proofs.Untimed

/-!
What reads are answered with. A client is looked at through its network, its timeout and the numbers
of reads so far; which answer a read gets depends on nothing else.
-/

namespace ChainRisk

structure View where
  network : Network
  timeout : Duration
  reads : Subject → Nat

def Desk.view (d : Desk) : View := ⟨d.client.network, d.client.timeout, d.trace.reads⟩

def View.touch (x : Subject) (v : View) : View :=
  { v with reads := fun y => v.reads y + if y = x then 1 else 0 }

def Desk.opened (n : Network) (limit : Duration) : Desk := ⟨⟨n, limit, .absent, 0, 0⟩, [], .fresh .zero⟩

def Desk.idle : Desk := .opened ⟨"ethereum", .int 1, none, "", "", false⟩ (.whole 30)

namespace View

@[simp] theorem touch_network (x : Subject) (v : View) : (v.touch x).network = v.network := rfl

@[simp] theorem touch_timeout (x : Subject) (v : View) : (v.touch x).timeout = v.timeout := rfl

theorem touch_reads_of_ne {x y : Subject} (v : View) (h : y ≠ x) : (v.touch x).reads y = v.reads y := by
  simp [touch, h]

end View

/-- Nothing but reads of subjects outside `p` lies between two views. -/
structure View.SameOn (p : Subject → Prop) (v u : View) : Prop where
  timeout : u.timeout = v.timeout
  network : u.network = v.network
  reads : ∀ x, p x → u.reads x = v.reads x

namespace View.SameOn

variable {p q : Subject → Prop} {v u w : View}

theorem refl (v : View) : SameOn p v v := ⟨rfl, rfl, fun _ _ => rfl⟩

theorem trans (h : SameOn p v u) (h' : SameOn p u w) : SameOn p v w :=
  ⟨h'.timeout.trans h.timeout, h'.network.trans h.network, fun x hx => (h'.reads x hx).trans (h.reads x hx)⟩

theorem mono (h : SameOn p v u) (hq : ∀ x, q x → p x) : SameOn q v u :=
  ⟨h.timeout, h.network, fun x hx => h.reads x (hq x hx)⟩

theorem touch (h : SameOn p v u) {x : Subject} (hx : ¬ p x) : SameOn p v (u.touch x) :=
  ⟨h.timeout, h.network, fun y hy =>
    (touch_reads_of_ne u (fun e : y = x => hx (e ▸ hy))).trans (h.reads y hy)⟩

end View.SameOn

namespace Desk

theorem view_call_of_subject {c : Call} {x : Subject} (h : c.subject? = some x) (t : Instant) (d : Desk) :
    (d.call t c).view = d.view.touch x := by
  refine View.mk.injEq .. ▸ ⟨rfl, rfl, ?_⟩
  funext y
  by_cases hy : y = x
  · subst hy; simp [call, Trace.reads, view, h]
  · have hxy : ¬ x = y := fun e => hy e.symm
    simp [call, Trace.reads, view, h, hy, hxy]

theorem view_call_of_none {c : Call} (h : c.subject? = none) (t : Instant) (d : Desk) :
    (d.call t c).view = d.view := by
  refine View.mk.injEq .. ▸ ⟨rfl, rfl, ?_⟩
  funext y
  simp [call, Trace.reads, h]

end Desk

theorem Entry.pick_singleton {α : Type} (standing : α) (e : Entry α) (n : Nat) :
    Entry.pick standing [e] n = e := by
  cases n <;> simp [pick]

theorem Entry.pick_mem {α : Type} (standing : α) (entries : List (Entry α)) (n : Nat) :
    Entry.pick standing entries n ∈ entries ∨ Entry.pick standing entries n = .atOnce standing := by
  rw [pick]
  cases hn : entries[n]? with
  | some e => exact .inl (List.mem_of_getElem? hn)
  | none =>
    cases hl : entries.getLast? with
    | some e => exact .inl (List.mem_of_getLast? hl)
    | none => exact .inr rfl

namespace Envelope

def statusText (payload : Json) : String := ((payload.field? "status").getD (.str "")).shown

def messageText (payload : Json) : String := ((payload.field? "message").getD (.str "")).shown

def Refuses (payload : Json) : Prop :=
  statusText payload ≠ "1" ∧ "NOTOK".toList <+: (Text.upper (messageText payload)).toList

theorem isRefusal_iff {payload : Json} :
    Work.isRefusal (statusText payload) (messageText payload) = true ↔ Refuses payload := by
  simp only [Work.isRefusal, Refuses, Bool.and_eq_true, bne_iff_ne, ne_eq, List.isPrefixOf_iff_prefix]

end Envelope

namespace Script

def quiet : Script where
  epoch := .zero
  room := Amount.longestText
  code _ := []
  storage _ _ := []
  blockNumber := []
  logs _ := []
  tokenField _ _ := []
  allowance _ _ := []
  explorer _ _ := []

def answer (world : Script) (limit : Duration) (operation : String) (q : Query) (n : Nat) :
    Attempt q.Answer :=
  if limit.outlastedBy (world.entry q n).delay then .error (.readTimedOut operation limit)
  else
    match (world.entry q n).reply with
    | .value x => .ok x
    | .fault f =>
      .error (if f.kind = .timeout then .readTimedOut operation limit
        else .readFailed operation f.message)

def explorerFault (operation : String) (limit : Duration) (f : Fault) : Failure :=
  match f.kind with
  | .timeout => .readTimedOut operation limit
  | .client => .readFailed operation f.message
  | .value => .readFailed operation f.message
  | .connection => .transport f.kind f.message
  | .runtime => .transport f.kind f.message

def explorerAnswer (world : Script) (limit : Duration) (params : Keyed Json) (n : Nat) : Attempt Json :=
  match (world.explorerEntry params n).reply with
  | .value payload => Work.accepted (Work.explorerOperation params) payload
  | .fault f => .error (explorerFault (Work.explorerOperation params) limit f)

def Answers (world : Script) (limit : Duration) (q : Query) (n : Nat) (x : q.Answer) : Prop :=
  limit.outlastedBy (world.entry q n).delay = false ∧ (world.entry q n).reply = .value x

def Tells (world : Script) (params : Keyed Json) (n : Nat) (payload : Json) : Prop :=
  (world.explorerEntry params n).reply = .value payload ∧ (∃ fields, payload = .obj fields) ∧
    ¬ Envelope.Refuses payload

variable {world : Script} {limit : Duration}

theorem answer_eq_ok_iff (operation : String) {q : Query} {n : Nat} {x : q.Answer} :
    world.answer limit operation q n = .ok x ↔ world.Answers limit q n x := by
  unfold answer Answers
  cases limit.outlastedBy (world.entry q n).delay with
  | true => simp
  | false => cases (world.entry q n).reply <;> simp

theorem accepted_eq_ok_iff {operation : String} {payload x : Json} :
    Work.accepted operation payload = .ok x ↔
      x = payload ∧ (∃ fields, payload = .obj fields) ∧ ¬ Envelope.Refuses payload := by
  cases payload with
  | obj fields =>
    rw [← Envelope.isRefusal_iff]
    change (if Work.isRefusal (Envelope.statusText (.obj fields)) (Envelope.messageText (.obj fields))
      then _ else _) = _ ↔ _
    split
    · next h => simp [h]
    · next h => simp [h, eq_comm]
  | _ => simp [Work.accepted]

theorem explorerAnswer_eq_ok_iff {params : Keyed Json} {n : Nat} {payload : Json} :
    world.explorerAnswer limit params n = .ok payload ↔ world.Tells params n payload := by
  unfold explorerAnswer Tells
  cases (world.explorerEntry params n).reply with
  | fault f => simp
  | value x =>
    simp only [accepted_eq_ok_iff, Reply.value.injEq]
    constructor
    · rintro ⟨rfl, h⟩
      exact ⟨rfl, h⟩
    · rintro ⟨rfl, h⟩
      exact ⟨rfl, h⟩

theorem isIn_network_of_answer {operation : String} {q : Query} {n : Nat} {e : Failure}
    (h : world.answer limit operation q n = .error e) : e.isIn .network = true := by
  unfold answer at h
  split at h
  · cases h; rfl
  · split at h
    · cases h
    · cases h; split <;> rfl

end Script

theorem Subject.ofParameters_withKey (params : Keyed Json) (key : String) :
    ofParameters (Work.withKey params key) = ofParameters params := by
  simp only [ofParameters, Work.withKey, Keyed.get?_put, String.reduceEq, if_false]

theorem Script.explorerEntry_withKey (world : Script) (params : Keyed Json) (key : String) (n : Nat) :
    world.explorerEntry (Work.withKey params key) n = world.explorerEntry params n := by
  rw [explorerEntry, explorerEntry, Subject.ofParameters_withKey]

namespace Work

open Activity

variable {α : Type} {v : View}

abbrev Yields (x : Work α) (v : View) (Q : Attempt α → View → Prop) : Prop :=
  Activity.Yields Desk.view x v Q

section

variable {ν : Type} {π : Desk → ν} {u : ν}

theorem yields_address {s : String} {a : Address} {Q : Attempt Address → ν → Prop}
    (hs : Address.ofText? s = some a) (h : Q (.ok a) u) : Activity.Yields π (address (.str s)) u Q := by
  rw [address, Address.require_of_ofText? hs]
  exact yields_pure h

theorem yields_badAddress {s : String} {f : Address → Work α} {Q : Attempt α → ν → Prop}
    (hs : Address.ofText? s = none) (h : Q (.error (.invalidAddress (.str s))) u) :
    Activity.Yields π (address (.str s) >>= f) u Q := by
  rw [address, Address.require, hs]
  exact yields_bind (yields_fail h)

theorem yields_clock {world : Script} {Q : Attempt Binary64 → ν → Prop} (h : ∀ t, Q (.ok t) u) :
    Activity.Yields π (clock world) u Q :=
  yields_bind (yields_now fun _ => yields_pure (h _))

theorem yields_recorded {world : Script} {x : Work α} {Q : Attempt α → ν → Prop}
    (hπ : ∀ elapsed success d, π (d.recordRun elapsed success) = π d) (h : Activity.Yields π x u Q) :
    Activity.Yields π (recorded world x) u Q := by
  apply yields_bind
  apply yields_clock
  intro _
  apply yields_bind
  apply yields_attempt
  apply yields_mono h
  intro r u hr
  apply yields_bind
  apply yields_clock
  intro _
  apply yields_bind
  refine yields_update (fun d hd => (hπ _ _ d).trans hd) ?_
  exact yields_ofAttempt hr

end

theorem yields_record_of_subject {c : Call} {x : Subject} {Q : Attempt Unit → View → Prop}
    (hc : c.subject? = some x) (h : Q (.ok ()) (v.touch x)) : Yields (record c) v Q := by
  apply yields_bind
  apply yields_now
  intro t
  refine yields_update (fun d hd => ?_) h
  rw [Desk.view_call_of_subject hc, hd]

theorem yields_record_of_none {c : Call} {Q : Attempt Unit → View → Prop} (hc : c.subject? = none)
    (h : Q (.ok ()) v) : Yields (record c) v Q := by
  apply yields_bind
  apply yields_now
  intro t
  refine yields_update (fun d hd => ?_) h
  rw [Desk.view_call_of_none hc, hd]

theorem yields_openSession {Q : Attempt Unit → View → Prop} (h : Q (.ok ()) v) :
    Yields openSession v Q := by
  apply yields_bind
  apply yields_inspect
  intro d _
  change Activity.Yields _ (if _ then _ else _) _ _
  split
  · apply yields_bind
    apply yields_record_of_none rfl
    exact yields_update (fun _ hd => hd) h
  · exact yields_pure h

theorem yields_failCounted {e : Failure} {Q : Attempt α → View → Prop} (h : Q (.error e) v) :
    Yields (failCounted e) v Q :=
  yields_bind (yields_update (fun _ hd => hd) (yields_fail h))

theorem yields_rpc {world : Script} {operation : String} {q : Query}
    {Q : Attempt q.Answer → View → Prop}
    (h : Q (world.answer v.timeout operation q (v.reads q.subject)) (v.touch q.subject)) :
    Yields (rpc world operation q) v Q := by
  apply yields_bind
  apply yields_inspect
  rintro d rfl
  apply yields_bind
  refine yields_update (fun _ hd => hd) ?_
  apply yields_bind
  apply yields_record_of_subject rfl
  unfold Script.answer at h
  change Activity.Yields _ (if d.client.timeout.outlastedBy
    (world.entry q (d.trace.reads q.subject)).delay then _ else _) _ _
  split
  · next hlate =>
    have hlate : d.view.timeout.outlastedBy (world.entry q (d.view.reads q.subject)).delay = true := hlate
    rw [if_pos hlate] at h
    apply yields_bind
    apply yields_wait
    apply yields_bind
    apply yields_takeUp
    exact yields_failCounted h
  · next hlate =>
    have hlate : ¬ d.view.timeout.outlastedBy (world.entry q (d.view.reads q.subject)).delay = true := hlate
    rw [if_neg hlate] at h
    apply yields_bind
    apply yields_wait
    apply yields_bind
    apply yields_takeUp
    change Activity.Yields _ (replied _ _ (world.entry q (d.view.reads q.subject)).reply) _ _
    cases hr : (world.entry q (d.view.reads q.subject)).reply with
    | value x => rw [hr] at h; exact yields_pure h
    | fault f => rw [hr] at h; exact yields_failCounted h

theorem yields_explorer {world : Script} {params : Keyed Json} {Q : Attempt Json → View → Prop}
    (h : Q (world.explorerAnswer v.timeout params (v.reads (.ofParameters params)))
      (v.touch (.ofParameters params))) :
    Yields (explorer world params) v Q := by
  apply yields_bind
  apply yields_openSession
  apply yields_bind
  apply yields_inspect
  rintro d rfl
  apply yields_bind
  refine yields_update (fun _ hd => hd) ?_
  apply yields_bind
  refine yields_record_of_subject
    (congrArg some (Subject.ofParameters_withKey params d.client.network.explorerKey)) ?_
  apply yields_bind
  apply yields_wait
  rw [Script.explorerEntry_withKey, Subject.ofParameters_withKey]
  unfold Script.explorerAnswer at h
  change Activity.Yields _ (explorerReplied _ _
    (world.explorerEntry params (d.view.reads (.ofParameters params))).reply) _ _
  cases hr : (world.explorerEntry params (d.view.reads (.ofParameters params))).reply with
  | value payload =>
    rw [hr] at h
    change Q (accepted (explorerOperation params) payload) _ at h
    rw [explorerReplied]
    cases ha : accepted (explorerOperation params) payload with
    | ok x => rw [ha] at h; exact yields_pure h
    | error e => rw [ha] at h; exact yields_failCounted h
  | fault f =>
    rw [hr] at h
    obtain ⟨kind, message⟩ := f
    cases kind with
    | timeout => exact yields_failCounted h
    | client => exact yields_failCounted h
    | value => exact yields_failCounted h
    | connection => exact yields_fail h
    | runtime => exact yields_fail h

theorem yields_orStandIn {standIn : α} {r : Attempt α} {Q : Attempt α → View → Prop}
    (h : Q (.ok (r.toOption.getD standIn)) v) : Yields (orStandIn standIn r) v Q := by
  cases r with
  | ok x => exact yields_pure h
  | error e =>
    apply yields_bind
    refine yields_update (fun _ hd => hd) ?_
    exact yields_pure h

end Work

end ChainRisk
