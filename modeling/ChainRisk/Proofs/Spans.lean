import ChainRisk.Proofs.ReadRuns
import ChainRisk.Proofs.TokenReads

namespace ChainRisk

theorem Moment.instant_after (m : Moment) (d : Binary64) : (m.after d).instant = m.instant.after d := by
  unfold after
  split
  · next h => exact h.symm
  · rfl

structure Span where
  subject : Subject
  starts : Instant
  ends : Instant
  answered : Bool

/-- Another field of the same token was asked for at the same time and failed first. -/
def Span.LeftBehind (all : List Span) (r : Span) : Prop :=
  ∃ a f g, r.subject = .tokenField a f ∧ ∃ s ∈ all, s.subject = .tokenField a g ∧ s.answered = false ∧
    s.starts = r.starts ∧ s.ends < r.ends

/-- The read starts between two instants, and is over at the second unless it is left behind. -/
structure Span.Within (all : List Span) (t u : Instant) (r : Span) : Prop where
  after : t ≤ r.starts
  before : r.starts ≤ u
  ended : r.ends ≤ u ∨ r.LeftBehind all

namespace Span

variable {all all' : List Span} {t t' u u' : Instant} {r : Span}

theorem LeftBehind.mono (h : r.LeftBehind all) (hsub : ∀ s ∈ all, s ∈ all') : r.LeftBehind all' := by
  obtain ⟨a, f, g, hr, s, hs, hrest⟩ := h
  exact ⟨a, f, g, hr, s, hsub s hs, hrest⟩

theorem Within.mono (h : r.Within all t u) (hsub : ∀ s ∈ all, s ∈ all') (ht : t' ≤ t) (hu : u ≤ u') :
    r.Within all' t' u' :=
  ⟨le_trans ht h.after, le_trans h.before hu, h.ended.imp (fun h => le_trans h hu) fun h => h.mono hsub⟩

end Span

def Trace.spans (world : Script) (limit : Duration) : Trace → List Span
  | [] => []
  | (t, .rpc _ q) :: earlier =>
    let e := world.entry q (Trace.reads earlier q.subject)
    ⟨q.subject, t, t.after (limit.spent e.delay), (e.told? limit).isSome⟩ :: Trace.spans world limit earlier
  | (t, .explorer _ params) :: earlier =>
    let e := world.explorerEntry params (Trace.reads earlier (.ofParameters params))
    ⟨.ofParameters params, t, t.after e.delay, e.reply matches .value _⟩ :: Trace.spans world limit earlier
  | _ :: earlier => Trace.spans world limit earlier

namespace Desk

variable {world : Script}

def spans (world : Script) (d : Desk) : List Span := d.trace.spans world d.client.timeout

theorem counted_timeout {α : Type} (r : Attempt α) (d : Desk) :
    (d.counted r).client.timeout = d.client.timeout := same_counted (·.client.timeout) (fun _ => rfl) r d

theorem spans_counted {α : Type} (r : Attempt α) (d : Desk) : (d.counted r).spans world = d.spans world :=
  same_counted (spans world) (fun _ => rfl) r d

theorem spans_inSession (world : Script) (t : Instant) (d : Desk) : (d.inSession t).spans world = d.spans world := by
  unfold inSession
  split <;> rfl

end Desk

structure Desk.Spent (world : Script) (p : Subject → Prop) (t u : Instant) (d d' : Desk) : Prop where
  timeout : d'.client.timeout = d.client.timeout
  reads : ∃ new, d'.spans world = new ++ d.spans world ∧ ∀ r ∈ new, p r.subject ∧ r.Within new t u

namespace Desk.Spent

variable {world : Script} {p : Subject → Prop} {t t' u u' : Instant} {d d' d'' : Desk}

theorem stay (htimeout : d'.client.timeout = d.client.timeout) (hspans : d'.spans world = d.spans world) :
    Spent world p t u d d' :=
  ⟨htimeout, [], hspans, fun _ hr => (List.not_mem_nil hr).elim⟩

theorem one {r : Span} (htimeout : d'.client.timeout = d.client.timeout)
    (hspans : d'.spans world = r :: d.spans world) (hp : p r.subject) (hstarts : r.starts = t)
    (hends : r.ends = u) (hle : t ≤ u) : Spent world p t u d d' := by
  refine ⟨htimeout, [r], hspans, fun s hs => ?_⟩
  rw [List.mem_singleton.1 hs]
  exact ⟨hp, le_of_eq hstarts.symm, le_of_eq_of_le hstarts hle, .inl (le_of_eq hends)⟩

theorem join (h : Spent world p t u d d') (h' : Spent world p t u d' d'') : Spent world p t u d d'' := by
  obtain ⟨new, hnew, hwithin⟩ := h.reads
  obtain ⟨new', hnew', hwithin'⟩ := h'.reads
  refine ⟨h'.timeout.trans h.timeout, new' ++ new, by rw [hnew', hnew, List.append_assoc], fun r hr => ?_⟩
  rcases List.mem_append.1 hr with hr | hr
  · obtain ⟨hp, hw⟩ := hwithin' r hr
    exact ⟨hp, hw.mono (fun s hs => List.mem_append_left _ hs) (le_refl t) (le_refl u)⟩
  · obtain ⟨hp, hw⟩ := hwithin r hr
    exact ⟨hp, hw.mono (fun s hs => List.mem_append_right _ hs) (le_refl t) (le_refl u)⟩

theorem widen (h : Spent world p t u d d') (ht : t' ≤ t) (hu : u ≤ u') : Spent world p t' u' d d' := by
  obtain ⟨new, hnew, hwithin⟩ := h.reads
  refine ⟨h.timeout, new, hnew, fun r hr => ?_⟩
  obtain ⟨hp, hw⟩ := hwithin r hr
  exact ⟨hp, hw.mono (fun s hs => hs) ht hu⟩

end Desk.Spent

namespace Work

open Activity

variable {α β : Type} {world : Script} {p : Subject → Prop} {x : Work α} {y : Work β} {f : α → Work β}

def Takes (world : Script) (p : Subject → Prop) (x : Work α) : Prop :=
  ∀ m d, m.instant ≤ (x ⟨m, none⟩ d).1.ends.instant ∧
    Desk.Spent world p m.instant (x ⟨m, none⟩ d).1.ends.instant d (x ⟨m, none⟩ d).2

theorem takes_pure (a : α) : Takes world p (Activity.pure a) := fun m _ => ⟨le_refl m.instant, .stay rfl rfl⟩

theorem takes_fail (e : Failure) : Takes world p (fail e : Work α) := fun m _ => ⟨le_refl m.instant, .stay rfl rfl⟩

theorem takes_ofAttempt (r : Attempt α) : Takes world p (ofAttempt r) := by
  cases r with
  | ok a => exact takes_pure a
  | error e => exact takes_fail e

theorem takes_now : Takes world p (now : Work Instant) := fun m _ => ⟨le_refl m.instant, .stay rfl rfl⟩

theorem takes_update {g : Desk → Desk} (htimeout : ∀ d, (g d).client.timeout = d.client.timeout)
    (hspans : ∀ d, (g d).spans world = d.spans world) : Takes world p (update g) :=
  fun m d => ⟨le_refl m.instant, .stay (htimeout d) (hspans d)⟩

theorem takes_bind (hx : Takes world p x) (hf : ∀ a, Takes world p (f a)) : Takes world p (x >>= f) := by
  intro m d
  obtain ⟨hle, hspent⟩ := hx m d
  cases hr : (x ⟨m, none⟩ d).1.result with
  | ok a =>
    obtain ⟨hle', hspent'⟩ := hf a (x ⟨m, none⟩ d).1.ends (x ⟨m, none⟩ d).2
    rw [bind_of_ok hr]
    exact ⟨le_trans hle hle', (hspent.widen (le_refl _) hle').join (hspent'.widen hle (le_refl _))⟩
  | error e =>
    rw [bind_of_error hr]
    exact ⟨hle, hspent⟩

theorem takes_attempt (hx : Takes world p x) : Takes world p (attempt x) := hx

theorem takes_address {v : Json} {f : Address → Work β}
    (hf : ∀ a, Address.require v = .ok a → Takes world p (f a)) : Takes world p (address v >>= f) := by
  rw [address]
  cases hv : Address.require v with
  | ok a => exact hf a hv
  | error e => exact takes_fail e

theorem takes_both (hx : Takes world p x) (hy : Takes world p y) : Takes world p (both x y) := by
  intro m d
  obtain ⟨hle, hspent⟩ := hx m.next d
  obtain ⟨hle', hspent'⟩ := hy m.next (x ⟨m.next, none⟩ d).2
  have hx_le := Moment.instant_le (le_max_left (x ⟨m.next, none⟩ d).1.ends
    (y ⟨m.next, none⟩ (x ⟨m.next, none⟩ d).2).1.ends)
  have hy_le := Moment.instant_le (le_max_right (x ⟨m.next, none⟩ d).1.ends
    (y ⟨m.next, none⟩ (x ⟨m.next, none⟩ d).2).1.ends)
  exact ⟨le_trans hle hx_le, (hspent.widen (le_refl _) hx_le).join (hspent'.widen (le_refl _) hy_le)⟩

end Work

namespace Activity

variable {σ α : Type}

theorem le_latest (m : Moment) (os : List (Outcome α)) : m ≤ latest m os ∧ ∀ o ∈ os, o.ends ≤ latest m os := by
  induction os generalizing m with
  | nil => exact ⟨le_refl m, fun o ho => (List.not_mem_nil ho).elim⟩
  | cons o os ih =>
    obtain ⟨hstart, hends⟩ := ih (max m o.ends)
    refine ⟨le_trans (le_max_left m o.ends) hstart, fun o' ho' => ?_⟩
    rcases List.mem_cons.1 ho' with rfl | ho'
    · exact le_trans (le_max_right m o'.ends) hstart
    · exact hends o' ho'

theorem instant_le_latest (m : Moment) (os : List (Outcome α)) : m.instant ≤ (latest m os).next.instant ∧
    ∀ o ∈ os, o.ends.instant ≤ (latest m os).next.instant := by
  obtain ⟨hstart, hends⟩ := le_latest m os
  have hstart' := Moment.instant_le hstart
  have hends' := fun o ho => Moment.instant_le (hends o ho)
  exact ⟨hstart', hends'⟩

theorem exists_of_firstBreak {os : List (Outcome α)} {b : Break} (h : firstBreak os = some b) :
    ∃ o ∈ os, o.result = .error b.failure ∧ o.ends = b.ends := by
  induction os generalizing b with
  | nil => cases h
  | cons o os ih =>
    have htail {c : Break} (hc : firstBreak os = some c) :
        ∃ o' ∈ o :: os, o'.result = .error c.failure ∧ o'.ends = c.ends := by
      obtain ⟨o', ho', h'⟩ := ih hc
      exact ⟨o', List.mem_cons_of_mem _ ho', h'⟩
    cases ho : o.result with
    | ok a =>
      rw [firstBreak, Outcome.break?, ho] at h
      exact htail h
    | error e =>
      have hhead : ∃ o' ∈ o :: os, o'.result = .error e ∧ o'.ends = o.ends := ⟨o, List.mem_cons_self, ho, rfl⟩
      rw [firstBreak, Outcome.break?, ho] at h
      cases hc : firstBreak os with
      | none =>
        simp only [hc, Option.some.injEq] at h
        subst h
        exact hhead
      | some c =>
        simp only [hc, Option.some.injEq] at h
        split at h
        · subst h
          exact htail hc
        · subst h
          exact hhead

theorem all_run (xs : List (Activity σ α)) (m : Moment) (s : σ) :
    (all xs ⟨m, none⟩ s).2 = (branches xs ⟨m.next, none⟩ s).2 ∧
    ((∃ as, (branches xs ⟨m.next, none⟩ s).1.map (·.result) = as.map .ok ∧
      (all xs ⟨m, none⟩ s).1.result = .ok as ∧
      (all xs ⟨m, none⟩ s).1.ends = (latest m (branches xs ⟨m.next, none⟩ s).1).next) ∨
    ∃ o ∈ (branches xs ⟨m.next, none⟩ s).1, ∃ e, o.result = .error e ∧
      (all xs ⟨m, none⟩ s).1.result = .error e ∧ (all xs ⟨m, none⟩ s).1.ends = o.ends.next) := by
  rw [all, show Window.unlimited (Window.inner ⟨m, none⟩) = ⟨m.next, none⟩ from rfl,
    show Window.inner ⟨m, none⟩ = ⟨m.next, none⟩ from rfl]
  rcases hos : branches xs ⟨m.next, none⟩ s with ⟨os, s'⟩
  simp only
  cases hb : firstBreak os with
  | some b =>
    obtain ⟨o, ho, hr, hends⟩ := exists_of_firstBreak hb
    refine ⟨rfl, .inr ⟨o, ho, b.failure, hr, rfl, ?_⟩⟩
    rw [hends]
    rfl
  | none =>
    obtain ⟨as, has, hm⟩ := firstBreak_eq_none hb
    exact ⟨rfl, .inl ⟨as, has, hm, rfl⟩⟩

end Activity

namespace Work

open Activity

variable {α : Type} {world : Script} {p : Subject → Prop}

theorem takes_branches {xs : List (Work α)} (h : ∀ x ∈ xs, Takes world p x) (m : Moment) (d : Desk)
    {u : Instant} (hu : ∀ o ∈ (branches xs ⟨m, none⟩ d).1, o.ends.instant ≤ u) :
    Desk.Spent world p m.instant u d (branches xs ⟨m, none⟩ d).2 := by
  induction xs generalizing d with
  | nil => exact .stay rfl rfl
  | cons x xs ih =>
    obtain ⟨-, hspent⟩ := h x List.mem_cons_self m d
    have hfirst := hu (x ⟨m, none⟩ d).1 List.mem_cons_self
    have hrest := ih (fun y hy => h y (List.mem_cons_of_mem _ hy)) (x ⟨m, none⟩ d).2
      fun o ho => hu o (List.mem_cons_of_mem _ ho)
    exact (hspent.widen (le_refl _) hfirst).join hrest

theorem takes_each {xs : List (Work α)} (h : ∀ x ∈ xs, Takes world p x) : Takes world p (each xs) := by
  intro m d
  obtain ⟨hle, hends⟩ := instant_le_latest m (branches xs ⟨m.next, none⟩ d).1
  exact ⟨hle, takes_branches h m.next d hends⟩

def spanAt (world : Script) (d : Desk) (q : Query) (t : Instant) : Span :=
  let e := world.entry q (d.trace.reads q.subject)
  ⟨q.subject, t, t.after (d.client.timeout.spent e.delay), (e.told? d.client.timeout).isSome⟩

theorem rpc_spans (world : Script) (operation : String) (q : Query) (m : Moment) (d : Desk) :
    let run := rpc world operation q ⟨m, none⟩ d
    let r := spanAt world d q m.instant
    run.1.ends.instant = r.ends ∧ Except.isOk run.1.result = r.answered ∧
      run.2.client.timeout = d.client.timeout ∧ run.2.spans world = r :: d.spans world := by
  intro run r
  obtain ⟨hresult, hends, hstate⟩ := rpc_run world operation q ⟨m, none⟩ d
  have hd : run.2 = _ := hstate rfl
  refine ⟨?_, ?_, ?_, ?_⟩
  · change (rpc world operation q ⟨m, none⟩ d).1.ends.instant = _
    rw [hends]
    exact Moment.instant_after m _
  · change Except.isOk (rpc world operation q ⟨m, none⟩ d).1.result = _
    rw [hresult]
    have htold : (world.answer d.client.timeout operation q (d.trace.reads q.subject)).toOption =
        (world.entry q (d.trace.reads q.subject)).told? d.client.timeout :=
      Script.answer_toOption (v := d.view) operation q
    simp only [r, spanAt, ← htold]
    cases world.answer d.client.timeout operation q (d.trace.reads q.subject) <;> rfl
  · rw [hd, Desk.counted_timeout]
    rfl
  · rw [hd, Desk.spans_counted]
    rfl

theorem takes_rpc {operation : String} {q : Query} (hq : p q.subject) : Takes world p (rpc world operation q) := by
  intro m d
  obtain ⟨hends, -, htimeout, hspans⟩ := rpc_spans world operation q m d
  have hle : m.instant ≤ (spanAt world d q m.instant).ends := Instant.le_after _ _
  rw [hends]
  exact ⟨hle, .one htimeout hspans hq rfl rfl hle⟩

theorem explorer_spans (world : Script) (params : Keyed Json) (m : Moment) (d : Desk) :
    let run := explorer world params ⟨m, none⟩ d
    let e := world.explorerEntry params (d.trace.reads (.ofParameters params))
    run.1.ends.instant = m.instant.after e.delay ∧ run.2.client.timeout = d.client.timeout ∧
      run.2.spans world =
        ⟨.ofParameters params, m.instant, m.instant.after e.delay, e.reply matches .value _⟩ :: d.spans world := by
  intro run e
  obtain ⟨-, hends, hstate⟩ := explorer_run world params ⟨m, none⟩ d
  have hd : run.2 = _ := hstate rfl
  refine ⟨?_, ?_, ?_⟩
  · change (explorer world params ⟨m, none⟩ d).1.ends.instant = _
    rw [hends]
    exact Moment.instant_after m _
  · rw [hd, Desk.counted_timeout]
    exact (d.inSession_client m.instant).2.1
  · rw [hd, Desk.spans_counted]
    change Trace.spans world (d.inSession m.instant).client.timeout
      ((m.instant, .explorer _ (withKey params _)) :: (d.inSession m.instant).trace) = _
    rw [Trace.spans, Subject.ofParameters_withKey, Script.explorerEntry_withKey, Desk.reads_inSession,
      (d.inSession_client m.instant).2.1]
    have hbefore := Desk.spans_inSession world m.instant d
    rw [Desk.spans, (d.inSession_client m.instant).2.1] at hbefore
    rw [hbefore]

theorem takes_explorer {params : Keyed Json} (hp : p (.ofParameters params)) :
    Takes world p (explorer world params) := by
  intro m d
  obtain ⟨hends, htimeout, hspans⟩ := explorer_spans world params m d
  have hle := m.instant.le_after (world.explorerEntry params (d.trace.reads (.ofParameters params))).delay
  rw [hends]
  exact ⟨hle, .one htimeout hspans hp rfl rfl hle⟩

end Work

end ChainRisk
