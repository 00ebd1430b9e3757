import ChainRisk.Proofs.Handling
import ChainRisk.Proofs.PoolTenure

namespace ChainRisk

namespace Call

def opens : Call → Bool
  | openSession _ => true
  | _ => false

def closes : Call → Bool
  | closeSession => true
  | _ => false

/-- Whether a session is open after a call, when one was open before it or not. A second session cannot be
opened, nor one closed that is not open. -/
def turn (held : Bool) (c : Call) : Option Bool :=
  if c.opens then if held then none else some true
  else if c.closes then if held then some false else none
  else some held

@[simp] theorem turn_connect (url : String) (whole : Int) (held : Bool) :
    (connect url whole).turn held = some held := rfl

@[simp] theorem turn_openSession (total : Duration) : (openSession total).turn false = some true := rfl

@[simp] theorem turn_closeSession : closeSession.turn true = some false := rfl

theorem add_of_turn {c : Call} {held held' : Bool} (h : c.turn held = some held') :
    (if c.opens then 1 else 0) + held.toNat = (if c.closes then 1 else 0) + held'.toNat := by
  cases c with
  | openSession total =>
    cases held with
    | false =>
      cases h
      rfl
    | true => cases h
  | closeSession =>
    cases held with
    | false => cases h
    | true =>
      cases h
      rfl
  | _ =>
    cases h
    rfl

theorem turn_of_read {c : Call} (h : c.subject?.isSome = true) (held : Bool) :
    c.turn held = some held ∧ c.opens = false ∧ c.closes = false := by
  cases c with
  | explorer url params => exact ⟨rfl, rfl, rfl⟩
  | rpc url q => exact ⟨rfl, rfl, rfl⟩
  | _ => cases h

end Call

namespace Trace

variable {new : Trace} {held held' : Bool}

@[simp] def sessions (held : Bool) : Trace → Option Bool
  | [] => some held
  | e :: earlier => (sessions held earlier).bind e.2.turn

def opened (t : Trace) : Nat := t.countP (·.2.opens)

def closed (t : Trace) : Nat := t.countP (·.2.closes)

theorem sessions_append (h : new.sessions held = some held') (later : Trace) :
    (later ++ new).sessions held = later.sessions held' := by
  induction later with
  | nil => exact h
  | cons e later ih =>
    rw [List.cons_append, sessions, sessions, ih]

theorem opened_add (h : new.sessions held = some held') :
    new.opened + held.toNat = new.closed + held'.toNat := by
  induction new generalizing held' with
  | nil =>
    cases h
    rfl
  | cons e new ih =>
    obtain ⟨before, hbefore, hturn⟩ := Option.bind_eq_some_iff.1 h
    have hcount := ih hbefore
    have hone := Call.add_of_turn hturn
    simp only [opened, closed, List.countP_cons] at hcount ⊢
    omega

theorem closed_append (later new : Trace) : (later ++ new).closed = later.closed + new.closed :=
  List.countP_append

end Trace

namespace Desk

def held (d : Desk) : Bool := decide (d.client.session = .own)

def Uses (d d' : Desk) : Prop := ∃ new : Trace, d'.trace = new ++ d.trace ∧
  new.sessions d.held = some d'.held ∧ new.closed = 0 ∧ (d.client.session = .lent → d'.client.session = .lent)

instance : IsPreorder Desk Uses where
  refl d := ⟨[], rfl, rfl, rfl, id⟩
  trans d d' d'' := by
    rintro ⟨new, htrace, hsessions, hclosed, hlent⟩ ⟨later, htrace', hsessions', hclosed', hlent'⟩
    refine ⟨later ++ new, ?_, ?_, ?_, hlent' ∘ hlent⟩
    · rw [htrace', htrace, List.append_assoc]
    · rw [Trace.sessions_append hsessions, hsessions']
    · rw [Trace.closed_append, hclosed, hclosed']

theorem uses_of_idle {d d' : Desk} (htrace : d'.trace = d.trace) (hsession : d'.client.session = d.client.session) :
    Uses d d' := by
  refine ⟨[], htrace, ?_, rfl, hsession.trans⟩
  rw [held, held, hsession]
  rfl

theorem steps_uses : Steps Uses where
  read t c d hc := by
    obtain ⟨hturn, -, hcloses⟩ := Call.turn_of_read hc d.held
    refine ⟨[(t, c)], rfl, hturn, ?_, id⟩
    simp [Trace.closed, hcloses]
  inSession t d := by
    unfold inSession
    split
    · next habsent =>
      refine ⟨[(t, .openSession d.client.timeout)], rfl, ?_, rfl, fun hlent => ?_⟩
      · rw [held, habsent]
        rfl
      · cases habsent.symm.trans hlent
    · exact refl d
  countRequest _ := uses_of_idle rfl rfl
  countFailure _ := uses_of_idle rfl rfl
  countDegraded _ := uses_of_idle rfl rfl
  recordRun _ _ _ := uses_of_idle rfl rfl

theorem closeSession_sessions (m : Moment) (d : Desk) :
    (Work.closeSession ⟨m, none⟩ d).2.client.session = .absent ∧
      (Work.closeSession ⟨m, none⟩ d).2.trace =
        (if d.client.session = .own then [(m.instant, .closeSession)] else []) ++ d.trace := by
  have hstate : (Work.closeSession ⟨m, none⟩ d).2 = d.outOfSession m.instant :=
    (Work.closeSession_run ⟨m, none⟩ d).2.2
  rw [hstate, client_outOfSession, trace_outOfSession]
  refine ⟨rfl, ?_⟩
  split <;> rfl

end Desk

inductive ClientStep
  | use (u : ClientUse)
  | close

namespace ClientStep

def ends : ClientStep → Bool
  | use _ => false
  | close => true

def run (world : Script) : ClientStep → Work Unit
  | use u => u.run world
  | close => Work.closeSession

end ClientStep

namespace Desk

abbrev after (world : Script) (steps : List (Moment × ClientStep)) (d : Desk) : Desk :=
  Activity.after (ClientStep.run world) steps d

/-- What a client's calls, from one desk to another, say of its sessions. A second session is never opened
beside an open one. Each session is closed once or is still open, and nothing but a closing closes one. A
session that was lent stays as it is until the first closing. -/
structure Account (steps : List (Moment × ClientStep)) (d d' : Desk) (new : Trace) : Prop where
  trace : d'.trace = new ++ d.trace
  sessions : new.sessions d.held = some d'.held
  balance : new.opened + d.held.toNat = new.closed + d'.held.toNat
  closed : new.closed ≤ steps.countP (·.2.ends)
  lent : (∀ e ∈ steps, e.2.ends = false) → d.client.session = .lent →
    d'.client.session = .lent ∧ new.opened = 0 ∧ new.closed = 0

theorem held_of_lent {d : Desk} (h : d.client.session = .lent) : d.held = false := by
  rw [held, h]
  rfl

theorem account {steps : List (Moment × ClientStep)} {d d' : Desk} {new : Trace}
    (htrace : d'.trace = new ++ d.trace) (hsessions : new.sessions d.held = some d'.held)
    (hclosed : new.closed ≤ steps.countP (·.2.ends))
    (hlent : (∀ e ∈ steps, e.2.ends = false) → d.client.session = .lent → d'.client.session = .lent) :
    Account steps d d' new := by
  have hbalance := Trace.opened_add hsessions
  refine ⟨htrace, hsessions, hbalance, hclosed, fun hends h => ⟨hlent hends h, ?_⟩⟩
  have hcount : steps.countP (·.2.ends) = 0 := by simpa [List.countP_eq_zero] using hends
  rw [held_of_lent h, held_of_lent (hlent hends h)] at hbalance
  omega

theorem Account.cons {m : Moment} {s : ClientStep} {steps : List (Moment × ClientStep)} {d d' d'' : Desk}
    {new later : Trace} (h : Account [(m, s)] d d' new) (h' : Account steps d' d'' later) :
    Account ((m, s) :: steps) d d'' (later ++ new) := by
  apply account
  · rw [h'.trace, h.trace, List.append_assoc]
  · rw [Trace.sessions_append h.sessions, h'.sessions]
  · have hone := h.closed
    have hrest := h'.closed
    rw [Trace.closed_append, List.countP_cons]
    rw [List.countP_singleton] at hone
    omega
  · intro hends hlent
    obtain ⟨hs, hrest⟩ := List.forall_mem_cons.1 hends
    exact (h'.lent hrest (h.lent (List.forall_mem_singleton.2 hs) hlent).1).1

theorem account_run (world : Script) (m : Moment) (s : ClientStep) (d : Desk) :
    ∃ new, Account [(m, s)] d (s.run world ⟨m, none⟩ d).2 new := by
  cases s with
  | use u =>
    obtain ⟨new, htrace, hsessions, hclosed, hlent⟩ := u.respects_run steps_uses ⟨m, none⟩ d
    exact ⟨new, account htrace hsessions (Nat.le_of_eq hclosed) fun _ => hlent⟩
  | close =>
    obtain ⟨hsession, htrace⟩ := d.closeSession_sessions m
    have hheld : (Work.closeSession ⟨m, none⟩ d).2.held = false := by
      rw [held, hsession]
      rfl
    refine ⟨_, account htrace ?_ ?_ fun hends => ?_⟩
    · rw [ClientStep.run, hheld]
      by_cases hown : d.client.session = .own
      · simp [held, hown]
      · simp [held, hown]
    · split
      · exact Nat.le_refl 1
      · exact Nat.zero_le 1
    · cases List.forall_mem_singleton.1 hends

theorem account_after (world : Script) (steps : List (Moment × ClientStep)) (d : Desk) :
    ∃ new, Account steps d (d.after world steps) new := by
  induction steps generalizing d with
  | nil => exact ⟨[], account rfl rfl (Nat.le_refl 0) fun _ => id⟩
  | cons e steps ih =>
    obtain ⟨m, s⟩ := e
    obtain ⟨new, h⟩ := account_run world m s d
    obtain ⟨later, h'⟩ := ih (s.run world ⟨m, none⟩ d).2
    exact ⟨later ++ new, h.cons h'⟩

end Desk

namespace Pool

open Activity

variable {α : Type} {x : Work α}

def held (p : Pool) : Bool := p.made.any fun c => decide (c.session = .own)

def Uses (p p' : Pool) : Prop := ∃ new : Trace, p'.trace = new ++ p.trace ∧ new.closed = 0 ∧
  p.made.length ≤ p'.made.length ∧ (p'.made.length ≤ 1 → new.sessions p.held = some p'.held)

instance : IsPreorder Pool Uses where
  refl p := ⟨[], rfl, rfl, Nat.le_refl _, fun _ => rfl⟩
  trans p p' p'' := by
    rintro ⟨new, htrace, hclosed, hle, hsessions⟩ ⟨later, htrace', hclosed', hle', hsessions'⟩
    refine ⟨later ++ new, ?_, ?_, Nat.le_trans hle hle', fun hone => ?_⟩
    · rw [htrace', htrace, List.append_assoc]
    · rw [Trace.closed_append, hclosed, hclosed']
    · rw [Trace.sessions_append (hsessions (Nat.le_trans hle' hone)), hsessions' hone]

theorem respects_uses_get (n : Network) : Respects Uses (get n) := by
  apply respects_get
  intro p n c t url timeout _ hc
  refine ⟨[(t, .connect url timeout)], rfl, rfl, ?_, fun hone => ?_⟩
  · rw [insert, List.length_append]
    exact Nat.le_add_right ..
  · rw [insert, List.length_append, List.length_singleton] at hone
    have hnone : p.made = [] := List.eq_nil_of_length_eq_zero (by omega)
    have hsession : c.session = .absent := by rw [(Client.eq_of_connect hc).1]; rfl
    simp [held, insert, hnone, hsession]

theorem respects_uses_work (hx : Respects Desk.Uses x) (i : Nat) : Respects Uses (work i x) := by
  intro w p
  rw [work_state]
  split
  · next c hc =>
    obtain ⟨new, htrace, hsessions, hclosed, -⟩ := hx w (p.desk c)
    have hlength : (p.withDesk i (x w (p.desk c)).2).made.length = p.made.length := List.length_set ..
    refine ⟨new, htrace, hclosed, Nat.le_of_eq hlength.symm, fun hone => ?_⟩
    -- the client at work is the only one
    rw [hlength] at hone
    have hi := (List.getElem?_eq_some_iff.1 hc).1
    have hzero : i = 0 := by omega
    subst hzero
    obtain ⟨c', hmade⟩ := List.length_eq_one_iff.1 (Nat.le_antisymm hone hi)
    have heq : c' = c := by simpa [hmade] using hc
    have hbefore : p.held = (p.desk c).held := by
      rw [held, hmade, heq]
      exact Bool.or_false _
    have hafter : (p.withDesk 0 (x w (p.desk c)).2).held = (x w (p.desk c)).2.held := by
      simp [held, withDesk, hmade, Desk.held]
    rw [hbefore, hafter, hsessions]
  · exact refl p

theorem respects_tenure_get (n : Network) : Respects (Carries (Tenure 0)) (get n) :=
  fun w _ => tenure_getBy .standard n w

theorem sessions_closings (t : Instant) {cs : List Client} (h : cs.length ≤ 1) :
    (closings t cs).sessions (cs.any fun c => decide (c.session = .own)) = some false := by
  cases cs with
  | nil => rfl
  | cons c cs =>
    have hnil : cs = [] := List.eq_nil_of_length_eq_zero (by simpa using h)
    by_cases hown : c.session = .own
    · simp [closings, hnil, hown]
    · simp [closings, hnil, hown]

theorem sessions_alone {x : Activity Pool α} (hx : Respects Uses x) (htenure : Respects (Carries (Tenure 0)) x)
    (networks : NetworkTable) (timeout : Duration) (m : Moment) (trace : Trace)
    (hone : (x ⟨m, none⟩ (empty networks timeout trace)).2.made.length ≤ 1) :
    ∃ new : Trace, (alone networks timeout x ⟨m, none⟩ trace).2 = new ++ trace ∧
      new.sessions false = some false := by
  let p := (x ⟨m, none⟩ (empty networks timeout trace)).2
  let stop : Moment := (x ⟨m, none⟩ (empty networks timeout trace)).1.ends
  have hempty : Tenure 0 (empty networks timeout trace) :=
    tenure_of_current (p := empty networks timeout trace) rfl
  have hlast : Tenure 0 p := htenure ⟨m, none⟩ _ hempty
  obtain ⟨-, hstate⟩ := close_run hlast stop
  obtain ⟨new, htrace, -, -, hsessions⟩ := hx ⟨m, none⟩ (empty networks timeout trace)
  refine ⟨closings stop.instant p.made ++ new, ?_, ?_⟩
  · rw [alone_state hlast.sound, hstate, List.append_assoc]
    exact congrArg _ htrace
  · have hused : new.sessions false = some p.held := hsessions hone
    rw [Trace.sessions_append hused]
    exact sessions_closings stop.instant hone

def NotLonger (p p' : Pool) : Prop := p'.made.length ≤ p.made.length

instance : IsPreorder Pool NotLonger where
  refl _ := Nat.le_refl _
  trans _ _ _ h h' := Nat.le_trans h' h

theorem respects_notLonger_work (i : Nat) (x : Work α) : Respects NotLonger (work i x) :=
  fun w p => Nat.le_of_eq (length_made_work i x w p)

def Makes (k : Nat) (x : Activity Pool α) : Prop := ∀ w p, (x w p).2.made.length ≤ p.made.length + k

section

variable {β : Type} {x : Activity Pool α} {f : α → Activity Pool β} {j k : Nat}

theorem makes_of_respects (h : Respects NotLonger x) (k : Nat) : Makes k x :=
  fun w p => Nat.le_trans (h w p) (Nat.le_add_right ..)

theorem makes_get (n : Network) : Makes 1 (get n) := by
  intro w p
  rw [get]
  rcases getBy_cases .standard n w p with hp | ⟨c, call, -, -, hp⟩
  · rw [hp]
    exact Nat.le_succ _
  · rw [hp]
    exact Nat.le_of_eq (List.length_append ..)

theorem makes_attempt (h : Makes k x) : Makes k (attempt x) := fun w p => h w p

theorem makes_bind (hx : Makes j x) (hf : ∀ a, Makes k (f a)) : Makes (j + k) (x >>= f) := by
  intro w p
  have hlength := hx w p
  cases hr : (x w p).1.result with
  | ok a =>
    have hrest := hf a { w with start := (x w p).1.ends } (x w p).2
    rw [state_bind_of_ok hr]
    omega
  | error e =>
    have hstate : ((x >>= f) w p).2 = (x w p).2 := by rw [bind_of_error hr]
    rw [hstate]
    omega

end

end Pool

namespace Request

open Activity Pool

variable (world : Script) (settings : Settings) (r : Request)

theorem respects_uses_answer : Respects Pool.Uses (answer world settings r) :=
  respects_answer respects_uses_get (fun i _ => respects_uses_work (Work.respects_assess Desk.steps_uses _ _ _) i)
    (fun i s _ => respects_uses_work (Work.respects_allowances Desk.steps_uses s _) i) r

theorem respects_tenure_answer : Respects (Carries (Tenure 0)) (answer world settings r) :=
  respects_answer respects_tenure_get
    (fun i _ => respects_tenure_work (Work.respects_assess Desk.steps_sameNetwork _ _ _) i)
    (fun i s _ => respects_tenure_work (Work.respects_allowances Desk.steps_sameNetwork s _) i) r

theorem makes_answer : Makes 1 (answer world settings r) := by
  unfold answer
  split
  · exact makes_of_respects (respects_pure _) 1
  · split
    · exact makes_of_respects (respects_pure _) 1
    · refine makes_bind (j := 1) (k := 0) (makes_attempt ?_) fun result => makes_of_respects ?_ 0
      · refine makes_bind (j := 0) (k := 1) (makes_of_respects (respects_chosenNetwork r) 0) fun n => ?_
        split
        · refine makes_bind (j := 1) (k := 0) (makes_get n) fun i => makes_of_respects ?_ 0
          exact respects_bind (respects_timed (respects_notLonger_work i _)) fun _ => respects_pure _
        · refine makes_bind (j := 1) (k := 0) (makes_get n) fun i => makes_of_respects ?_ 0
          refine respects_bind (respects_ofAttempt _) fun s => ?_
          refine respects_bind (respects_timed (respects_notLonger_work i _)) fun report => ?_
          exact respects_bind (respects_ofAttempt _) fun _ => respects_pure _
      · split
        · exact respects_pure _
        · exact respects_pure _

theorem answerAlone_sessions (m : Moment) (trace : Trace) : ∃ new : Trace,
    (answerAlone world settings r ⟨m, none⟩ trace).2 = new ++ trace ∧ new.sessions false = some false :=
  sessions_alone (respects_uses_answer world settings r) (respects_tenure_answer world settings r) _ _ m trace
    (makes_answer world settings r ⟨m, none⟩ _)

end Request

theorem sessions_closed_once (world : Script) :
    (∀ steps d, ∃ new, Desk.Account steps d (d.after world steps) new) ∧
    (∀ m d, (Work.closeSession ⟨m, none⟩ d).2.client.session = .absent ∧
      (Work.closeSession ⟨m, none⟩ d).2.trace =
        (if d.client.session = .own then [(m.instant, .closeSession)] else []) ++ d.trace) ∧
    (∀ settings r m trace, ∃ new : Trace,
      (Request.answerAlone world settings r ⟨m, none⟩ trace).2 = new ++ trace ∧
        new.sessions false = some false ∧ new.opened = new.closed) ∧
    ∀ settings r w p, ∃ new : Trace,
      (Request.answer world settings r w p).2.trace = new ++ p.trace ∧ new.closed = 0 := by
  refine ⟨Desk.account_after world, fun m d => d.closeSession_sessions m, ?_, ?_⟩
  · intro settings r m trace
    obtain ⟨new, htrace, hsessions⟩ := Request.answerAlone_sessions world settings r m trace
    exact ⟨new, htrace, hsessions, Trace.opened_add hsessions⟩
  · intro settings r w p
    obtain ⟨new, htrace, hclosed, -⟩ := Request.respects_uses_answer world settings r w p
    exact ⟨new, htrace, hclosed⟩

def reuse : List (Moment × ClientStep) :=
  let m := Moment.ofInstant .start
  let queries := ClientUse.atOnce [.query [], .query []]
  [(m, .use queries), (m, .close), (m, .use queries), (m, .close)]

def lentDesk : Desk := ⟨⟨(Settings.plain (.whole 30)).networks.main, .whole 30, .lent, 0, 0⟩, [], .fresh .zero⟩

theorem sessions_closed_once_reuse : ∃ new,
    Desk.Account reuse lentDesk (lentDesk.after .quiet reuse) new ∧ new.opened = 1 ∧ new.closed = 1 := by
  obtain ⟨new, h⟩ := (sessions_closed_once .quiet).1 reuse lentDesk
  have hnew : new = (lentDesk.after .quiet reuse).trace := by
    rw [h.trace]
    exact (List.append_nil new).symm
  refine ⟨new, h, ?_, ?_⟩
  · rw [hnew]
    decide +kernel
  · rw [hnew]
    decide +kernel

end ChainRisk
