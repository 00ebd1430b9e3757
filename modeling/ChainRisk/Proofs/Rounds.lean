import ChainRisk.Proofs.Diary
import ChainRisk.Proofs.TokenSpans

namespace ChainRisk

def Instant.rested (t : Instant) (p : Binary64) : Instant := if Binary64.zero.lt p then t.after p else t

theorem Instant.le_rested (t : Instant) (p : Binary64) : t ≤ t.rested p := by
  unfold rested
  split
  · exact t.le_after p
  · exact le_refl t

structure Round where
  number : Nat
  starts : Instant
  done : List Completion
  spans : List Span

namespace Round

structure Serves (p : Round) (batch : List String) : Prop where
  tokens : p.done.map (·.token) = batch
  reads : ∀ r ∈ p.spans, ∃ c ∈ p.done, r.subject.IsOf c.token ∧ r.Within p.spans p.starts c.ends

def add (c : Completion) (new : List Span) (p : Round) : Round :=
  { p with done := c :: p.done, spans := p.spans ++ new }

theorem Serves.add {p : Round} {batch : List String} {c : Completion} {new : List Span} (hp : p.Serves batch)
    (h : ∀ r ∈ new, r.subject.IsOf c.token ∧ r.Within new p.starts c.ends) :
    (p.add c new).Serves (c.token :: batch) := by
  refine ⟨congrArg (c.token :: ·) hp.tokens, fun r hr => ?_⟩
  rcases List.mem_append.1 hr with hr | hr
  · obtain ⟨c', hc', hsubject, hwithin⟩ := hp.reads r hr
    exact ⟨c', List.mem_cons_of_mem _ hc', hsubject,
      hwithin.mono (fun s hs => List.mem_append_left _ hs) (le_refl _) (le_refl _)⟩
  · obtain ⟨hsubject, hwithin⟩ := h r hr
    exact ⟨c, List.mem_cons_self, hsubject,
      hwithin.mono (fun s hs => List.mem_append_right _ hs) (le_refl _) (le_refl _)⟩

/-- Everything of a round is done well, and the pause after it is over, before another begins. -/
structure Before (pauses : Pauses) (p q : Round) : Prop where
  number : p.number < q.number
  ok : ∀ c ∈ p.done, c.ok = true
  rest : ∃ e, (∀ c ∈ p.done, c.ends ≤ e) ∧ e.rested (pauses p.number) ≤ q.starts

end Round

structure RoundsOf (pauses : Pauses) (i : Nat) (bs : List (List String)) (t u : Instant) (ok : Bool)
    (rounds : List Round) : Prop where
  serves : ∀ p ∈ rounds, t ≤ p.starts ∧ p.starts ≤ u ∧
    ∃ j batch, p.number = i + j ∧ bs[j]? = some batch ∧ p.Serves batch
  ordered : rounds.Pairwise (Round.Before pauses)
  complete : ∀ q ∈ rounds, ∀ j, i ≤ j → j < q.number → ∃ p ∈ rounds, p.number = j
  finished : ok = true → ∀ p ∈ rounds, ∀ c ∈ p.done, c.ok = true ∧ c.ends ≤ u
  broken : ok = false → ∃ p ∈ rounds, (∃ c ∈ p.done, c.ok = false ∧ c.ends = u) ∧
    ∀ q ∈ rounds, q ≠ p → ∀ c ∈ q.done, c.ends ≤ u

namespace RoundsOf

variable {pauses : Pauses} {i : Nat} {bs : List (List String)} {batch : List String} {t u e : Instant}
  {ok : Bool} {p : Round} {rounds : List Round}

theorem none (i : Nat) (bs : List (List String)) (t u : Instant) : RoundsOf pauses i bs t u true [] where
  serves _ hp := (List.not_mem_nil hp).elim
  ordered := List.Pairwise.nil
  complete _ hq := (List.not_mem_nil hq).elim
  finished _ _ hp := (List.not_mem_nil hp).elim
  broken h := absurd h.symm Bool.false_ne_true

theorem failed (hp : p.Serves batch) (hnumber : p.number = i) (hstarts : p.starts = t) (hle : t ≤ u)
    (hc : ∃ c ∈ p.done, c.ok = false ∧ c.ends = u) : RoundsOf pauses i (batch :: bs) t u false [p] where
  serves q hq := by
    rw [List.mem_singleton.1 hq]
    exact ⟨le_of_eq hstarts.symm, le_of_eq_of_le hstarts hle, 0, batch, hnumber, rfl, hp⟩
  ordered := List.pairwise_singleton _ p
  complete q hq j hj hlt := by
    rw [List.mem_singleton.1 hq, hnumber] at hlt
    omega
  finished h := absurd h Bool.false_ne_true
  broken _ := ⟨p, List.mem_singleton_self p, hc, fun q hq hne => (hne (List.mem_singleton.1 hq)).elim⟩

theorem last (hp : p.Serves batch) (hnumber : p.number = i) (hstarts : p.starts = t) (hle : t ≤ u)
    (hover : ∀ c ∈ p.done, c.ok = true ∧ c.ends ≤ u) : RoundsOf pauses i [batch] t u true [p] where
  serves q hq := by
    rw [List.mem_singleton.1 hq]
    exact ⟨le_of_eq hstarts.symm, le_of_eq_of_le hstarts hle, 0, batch, hnumber, rfl, hp⟩
  ordered := List.pairwise_singleton _ p
  complete q hq j hj hlt := by
    rw [List.mem_singleton.1 hq, hnumber] at hlt
    omega
  finished _ q hq := by
    rw [List.mem_singleton.1 hq]
    exact hover
  broken h := absurd h.symm Bool.false_ne_true

theorem next (hp : p.Serves batch) (hnumber : p.number = i) (hstarts : p.starts = t) (hle : t ≤ e)
    (hover : ∀ c ∈ p.done, c.ok = true ∧ c.ends ≤ e) (hu : e.rested (pauses i) ≤ u)
    (h : RoundsOf pauses (i + 1) bs (e.rested (pauses i)) u ok rounds) :
    RoundsOf pauses i (batch :: bs) t u ok (p :: rounds) := by
  have hrest := e.le_rested (pauses i)
  have hlast : ∀ c ∈ p.done, c.ends ≤ u := fun c hc => le_trans (hover c hc).2 (le_trans hrest hu)
  have hbefore : ∀ q ∈ rounds, p.Before pauses q := by
    intro q hq
    obtain ⟨hstart, -, j, -, hj, -⟩ := h.serves q hq
    refine ⟨by omega, fun c hc => (hover c hc).1, e, fun c hc => (hover c hc).2, ?_⟩
    rw [hnumber]
    exact hstart
  refine ⟨fun q hq => ?_, List.pairwise_cons.2 ⟨hbefore, h.ordered⟩, fun q hq j hij hlt => ?_,
    fun ht q hq => ?_, fun hf => ?_⟩
  · rcases List.mem_cons.1 hq with rfl | hq
    · exact ⟨le_of_eq hstarts.symm, le_of_eq_of_le hstarts (le_trans hle (le_trans hrest hu)), 0, batch, hnumber,
        rfl, hp⟩
    · obtain ⟨hstart, hend, j, b, hj, hb, hs⟩ := h.serves q hq
      exact ⟨le_trans (le_trans hle hrest) hstart, hend, j + 1, b, by omega, hb, hs⟩
  · rcases List.mem_cons.1 hq with rfl | hq
    · omega
    · rcases Nat.eq_or_lt_of_le hij with rfl | hij
      · exact ⟨p, List.mem_cons_self, hnumber⟩
      · obtain ⟨p', hp', hj⟩ := h.complete q hq j hij hlt
        exact ⟨p', List.mem_cons_of_mem _ hp', hj⟩
  · rcases List.mem_cons.1 hq with rfl | hq
    · exact fun c hc => ⟨(hover c hc).1, hlast c hc⟩
    · exact h.finished ht q hq
  · obtain ⟨q, hq, hc, hothers⟩ := h.broken hf
    refine ⟨q, List.mem_cons_of_mem _ hq, hc, fun q' hq' hne => ?_⟩
    rcases List.mem_cons.1 hq' with rfl | hq'
    · exact hlast
    · exact hothers q' hq' hne

theorem eq_or_before {q : Round} (h : RoundsOf pauses i bs t u ok rounds) (hp : p ∈ rounds) (hq : q ∈ rounds) :
    p = q ∨ p.Before pauses q ∨ q.Before pauses p := by
  have hordered := h.ordered
  clear h
  induction rounds with
  | nil => cases hp
  | cons r rounds ih =>
    obtain ⟨hfirst, hrest⟩ := List.pairwise_cons.1 hordered
    rcases List.mem_cons.1 hp with hpr | hpr <;> rcases List.mem_cons.1 hq with hqr | hqr
    · exact .inl (hpr.trans hqr.symm)
    · exact .inr (.inl (hpr ▸ hfirst q hqr))
    · exact .inr (.inr (hqr ▸ hfirst p hpr))
    · exact ih hpr hqr hrest

theorem before_of_lt {q : Round} (h : RoundsOf pauses i bs t u ok rounds) (hp : p ∈ rounds) (hq : q ∈ rounds)
    (hlt : p.number < q.number) : p.Before pauses q := by
  rcases h.eq_or_before hp hq with rfl | hbefore | hafter
  · exact absurd hlt (Nat.lt_irrefl _)
  · exact hbefore
  · exact absurd hafter.number (Nat.lt_asymm hlt)

theorem eq_of_number {q : Round} (h : RoundsOf pauses i bs t u ok rounds) (hp : p ∈ rounds) (hq : q ∈ rounds)
    (heq : p.number = q.number) : p = q := by
  rcases h.eq_or_before hp hq with rfl | hbefore | hafter
  · rfl
  · exact absurd heq (Nat.ne_of_lt hbefore.number)
  · exact absurd heq.symm (Nat.ne_of_lt hafter.number)

end RoundsOf

structure Diary.Left (world : Script) (rounds : List Round) (D D' : Diary) : Prop where
  timeout : D'.desk.client.timeout = D.desk.client.timeout
  spans : ∃ new, D'.desk.spans world = new ++ D.desk.spans world ∧
    ∀ r, r ∈ new ↔ ∃ p ∈ rounds, r ∈ p.spans
  done : ∀ c, c ∈ D'.done ↔ c ∈ D.done ∨ ∃ p ∈ rounds, c ∈ p.done

namespace Diary.Left

variable {world : Script} {p : Round} {rounds : List Round} {D D' D'' : Diary}

theorem none (D : Diary) : Left world [] D D where
  timeout := rfl
  spans := ⟨[], rfl, fun r => by simp⟩
  done c := by simp

theorem empty (number : Nat) (t : Instant) (D : Diary) : Left world [⟨number, t, [], []⟩] D D where
  timeout := rfl
  spans := ⟨[], rfl, fun r => by simp⟩
  done c := by simp

theorem add {c : Completion} {new : List Span}
    (htimeout : D'.desk.client.timeout = D.desk.client.timeout)
    (hnew : D'.desk.spans world = new ++ D.desk.spans world) (hdone : D'.done = c :: D.done)
    (h : Left world [p] D' D'') : Left world [p.add c new] D D'' := by
  obtain ⟨new', hnew', hmem'⟩ := h.spans
  refine ⟨h.timeout.trans htimeout, ⟨new' ++ new, by rw [hnew', hnew, List.append_assoc], fun r => ?_⟩,
    fun c' => ?_⟩
  · simp only [List.mem_append, hmem', List.mem_singleton, exists_eq_left, Round.add]
  · simp only [h.done, hdone, List.mem_cons, List.not_mem_nil, or_false, exists_eq_left, Round.add]
    rw [or_assoc, or_left_comm]

theorem next (h : Left world [p] D D') (h' : Left world rounds D' D'') : Left world (p :: rounds) D D'' := by
  obtain ⟨new, hnew, hmem⟩ := h.spans
  obtain ⟨new', hnew', hmem'⟩ := h'.spans
  refine ⟨h'.timeout.trans h.timeout, ⟨new' ++ new, by rw [hnew', hnew, List.append_assoc], fun r => ?_⟩,
    fun c => ?_⟩
  · simp only [List.mem_append, hmem, hmem', List.mem_cons, List.not_mem_nil, or_false, exists_eq_left,
      exists_eq_or_imp]
    exact or_comm
  · simp only [h'.done, h.done, List.mem_cons, List.not_mem_nil, or_false, exists_eq_left, exists_eq_or_imp]
    exact or_assoc

theorem congr {E : Diary} (h : Left world rounds D D') (hdesk : D.desk = E.desk) (hdone : D.done = E.done) :
    Left world rounds E D' := by
  obtain ⟨htimeout, hspans, hmem⟩ := h
  rw [hdesk] at htimeout hspans
  rw [hdone] at hmem
  exact ⟨htimeout, hspans, hmem⟩

end Diary.Left

namespace Work

open Activity

variable {α : Type} {world : Script} {pauses : Pauses} {x : Work α} {t : String}

theorem noting_run (hx : Takes world (Subject.IsOf t) x) (m : Moment) (D : Diary) :
    let run := noting t x ⟨m, none⟩ D
    m.instant ≤ run.1.ends.instant ∧
    Desk.Spent world (Subject.IsOf t) m.instant run.1.ends.instant D.desk run.2.desk ∧
    run.2.done = ⟨t, run.1.ends.instant, Except.isOk run.1.result⟩ :: D.done ∧
    run.2.consulted = D.consulted := by
  intro run
  obtain ⟨hcourse, hdesk⟩ := mirrors_noting t x ⟨m, none⟩ D
  obtain ⟨hle, hspent⟩ := hx m D.desk
  have hends : run.1.ends = (x ⟨m, none⟩ D.desk).1.ends := ends_of_course hcourse
  have hnoted : run.2.done = ⟨t, (x ⟨m, none⟩ D.desk).1.ends.instant,
      Except.isOk (x ⟨m, none⟩ D.desk).1.result⟩ :: D.done ∧ run.2.consulted = D.consulted := by
    simp only [run, noting, Bind.bind, Activity.bind, attempt, kept, zoom, now, Activity.pure, update]
    rcases x ⟨m, none⟩ D.desk with ⟨⟨r, ends, pause, settles⟩, d⟩
    cases r <;> exact ⟨rfl, rfl⟩
  rw [hends, show run.1.result = _ from result_of_course hcourse, show run.2.desk = _ from hdesk]
  exact ⟨hle, hspent, hnoted⟩

theorem branches_noting {process : String → Work α} (hprocess : ∀ t, Takes world (Subject.IsOf t) (process t))
    (number : Nat) (ts : List String) (m : Moment) (D : Diary) :
    let run := branches (ts.map fun t => noting t (process t)) ⟨m, none⟩ D
    ∃ p : Round, p.number = number ∧ p.starts = m.instant ∧ p.Serves ts ∧ Diary.Left world [p] D run.2 ∧
      run.2.consulted = D.consulted ∧
      (∀ c ∈ p.done, m.instant ≤ c.ends ∧ ∃ o ∈ run.1, o.ends.instant = c.ends ∧ Except.isOk o.result = c.ok) ∧
      ∀ o ∈ run.1, ∃ c ∈ p.done, c.ends = o.ends.instant ∧ c.ok = Except.isOk o.result := by
  -- on the tokens: the round of the others, with the completion and the reads of the first one added
  induction ts generalizing D with
  | nil =>
    refine ⟨⟨number, m.instant, [], []⟩, rfl, rfl, ⟨rfl, fun r hr => (List.not_mem_nil hr).elim⟩,
      .empty number m.instant D, rfl, fun c hc => (List.not_mem_nil hc).elim,
      fun o ho => (List.not_mem_nil ho).elim⟩
  | cons t ts ih =>
    obtain ⟨hle, hspent, hdone, hconsulted⟩ := noting_run (hprocess t) m D
    obtain ⟨new, hnew, hwithin⟩ := hspent.reads
    obtain ⟨p, hnumber, hstarts, hserves, hleft, hconsulted', hends, houtcomes⟩ :=
      ih (noting t (process t) ⟨m, none⟩ D).2
    rw [← hstarts] at hwithin
    let first := (noting t (process t) ⟨m, none⟩ D).1
    let done : Completion := ⟨t, first.ends.instant, Except.isOk first.result⟩
    have hserved : (p.add done new).Serves (t :: ts) := hserves.add hwithin
    refine ⟨p.add done new, hnumber, hstarts, hserved, hleft.add hspent.timeout hnew hdone,
      hconsulted'.trans hconsulted, fun c hc => ?_, fun o ho => ?_⟩
    · rcases List.mem_cons.1 hc with rfl | hc
      · exact ⟨hle, _, List.mem_cons_self, rfl, rfl⟩
      · obtain ⟨hle', o, ho, ho'⟩ := hends c hc
        exact ⟨hle', o, List.mem_cons_of_mem _ ho, ho'⟩
    · rcases List.mem_cons.1 ho with rfl | ho
      · exact ⟨_, List.mem_cons_self, rfl, rfl⟩
      · obtain ⟨c, hc, hc'⟩ := houtcomes o ho
        exact ⟨c, List.mem_cons_of_mem _ hc, hc'⟩

theorem batch_run {process : String → Work α} (hprocess : ∀ t, Takes world (Subject.IsOf t) (process t))
    (number : Nat) (ts : List String) (m : Moment) (D : Diary) :
    let run := all (ts.map fun t => noting t (process t)) ⟨m, none⟩ D
    ∃ p : Round, p.number = number ∧ p.starts = m.instant ∧ p.Serves ts ∧ Diary.Left world [p] D run.2 ∧
      run.2.consulted = D.consulted ∧ m.instant ≤ run.1.ends.instant ∧
      ((∃ found, run.1.result = .ok found) → ∀ c ∈ p.done, c.ok = true ∧ c.ends ≤ run.1.ends.instant) ∧
      ((∃ e, run.1.result = .error e) → ∃ c ∈ p.done, c.ok = false ∧ c.ends = run.1.ends.instant) := by
  intro run
  obtain ⟨p, hnumber, hstarts, hserves, hleft, hconsulted, hends, houtcomes⟩ :=
    branches_noting hprocess number ts m.next D
  obtain ⟨hstate, hover⟩ := all_run (ts.map fun t => noting t (process t)) m D
  have hleft' : Diary.Left world [p] D run.2 := by
    rw [show run.2 = _ from hstate]
    exact hleft
  have hconsulted' : run.2.consulted = D.consulted := by
    rw [show run.2 = _ from hstate]
    exact hconsulted
  refine ⟨p, hnumber, hstarts, hserves, hleft', hconsulted', ?_⟩
  rcases hover with ⟨found, hfound, hresult, hlast⟩ | ⟨o, ho, e, hfailed, hresult, hlast⟩
  · obtain ⟨hstart, hlatest⟩ :=
      instant_le_latest m (branches (ts.map fun t => noting t (process t)) ⟨m.next, none⟩ D).1
    rw [show run.1.ends = _ from hlast, show run.1.result = _ from hresult]
    refine ⟨hstart, fun _ c hc => ?_, ?_⟩
    · obtain ⟨-, o, ho, hoends, hook⟩ := hends c hc
      have hmem : o.result ∈ found.map Except.ok := hfound ▸ List.mem_map_of_mem ho
      obtain ⟨a, -, ha⟩ := List.mem_map.1 hmem
      refine ⟨?_, ?_⟩
      · rw [← hook, ← ha]
        rfl
      · rw [← hoends]
        exact hlatest o ho
    · rintro ⟨e, he⟩
      cases he
  · obtain ⟨c, hc, hcends, hcok⟩ := houtcomes o ho
    rw [show run.1.ends = _ from hlast, show run.1.result = _ from hresult]
    refine ⟨?_, ?_, fun _ => ⟨c, hc, ?_, hcends⟩⟩
    · rw [← show c.ends = o.ends.next.instant from hcends]
      exact (hends c hc).1
    · rintro ⟨found, hfound⟩
      cases hfound
    · rw [hcok, hfailed]
      rfl

theorem consulting_run (pauses : Pauses) (i : Nat) (m : Moment) (D : Diary) :
    let run := consulting pauses i ⟨m, none⟩ D
    run.1.result = .ok () ∧ run.1.ends.instant = m.instant.rested (pauses i) ∧
      run.2 = { D with consulted := i :: D.consulted } := by
  simp only [consulting, Bind.bind, Activity.bind, update, Activity.pure, kept, zoom, pause, Instant.rested]
  split
  · exact ⟨rfl, Moment.instant_after m _, rfl⟩
  · exact ⟨rfl, rfl, rfl⟩

theorem bind_pure_run {σ β : Type} (x : Activity σ α) (f : α → β) (w : Window) (s : σ) :
    let run := (x >>= fun a => Activity.pure (f a)) w s
    run.1.ends = (x w s).1.ends ∧ run.2 = (x w s).2 ∧ Except.isOk run.1.result = Except.isOk (x w s).1.result := by
  intro run
  cases hr : (x w s).1.result with
  | ok a =>
    rw [show run = _ from bind_of_ok hr]
    exact ⟨rfl, rfl, rfl⟩
  | error e =>
    rw [show run = _ from bind_of_error hr]
    exact ⟨rfl, rfl, rfl⟩

section

variable {σ : Type} {process : String → Activity σ (List Allowance)} (rest : Nat → Activity σ Unit) (i : Nat)
  {w : Window} {s : σ} {batch : List String}

theorem inRounds_of_error (more : List (List String)) {e : Failure}
    (h : (all (batch.map process) w s).1.result = .error e) :
    (inRounds process rest i (batch :: more) w s).1.result = .error e ∧
    (inRounds process rest i (batch :: more) w s).1.ends = (all (batch.map process) w s).1.ends ∧
    (inRounds process rest i (batch :: more) w s).2 = (all (batch.map process) w s).2 := by
  cases more with
  | nil =>
    rw [inRounds, bind_of_error h]
    exact ⟨rfl, rfl, rfl⟩
  | cons next more =>
    rw [inRounds, bind_of_error h]
    exact ⟨rfl, rfl, rfl⟩

theorem inRounds_of_last {found : List (List Allowance)} (h : (all (batch.map process) w s).1.result = .ok found) :
    (inRounds process rest i [batch] w s).1.result = .ok found.flatten ∧
    (inRounds process rest i [batch] w s).1.ends = (all (batch.map process) w s).1.ends ∧
    (inRounds process rest i [batch] w s).2 = (all (batch.map process) w s).2 := by
  rw [inRounds, bind_of_ok h]
  exact ⟨rfl, rfl, rfl⟩

theorem inRounds_of_next (next : List String) (more : List (List String)) {found : List (List Allowance)}
    {m m' : Moment} {s' s'' : σ}
    (h : (all (batch.map process) w s).1.result = .ok found) (hm : (all (batch.map process) w s).1.ends = m)
    (hs : (all (batch.map process) w s).2 = s') (hrest : (rest i ⟨m, w.limit⟩ s').1.result = .ok ())
    (hm' : (rest i ⟨m, w.limit⟩ s').1.ends = m') (hs' : (rest i ⟨m, w.limit⟩ s').2 = s'') :
    let run := inRounds process rest i (batch :: next :: more) w s
    let later := inRounds process rest (i + 1) (next :: more) ⟨m', w.limit⟩ s''
    run.1.ends = later.1.ends ∧ run.2 = later.2 ∧ Except.isOk run.1.result = Except.isOk later.1.result := by
  subst hm hs hm' hs'
  intro run later
  have hrun : run = _ := bind_of_ok h
  rw [hrun, bind_of_ok hrest]
  exact bind_pure_run (inRounds process rest (i + 1) (next :: more)) (found.flatten ++ ·) _ _

end

variable {process : String → Work (List Allowance)}

theorem inRounds_run (hprocess : ∀ t, Takes world (Subject.IsOf t) (process t)) (pauses : Pauses) (i : Nat)
    (bs : List (List String)) (m : Moment) (D : Diary) :
    let run := inRounds (fun t => noting t (process t)) (consulting pauses) i bs ⟨m, none⟩ D
    ∃ rounds, m.instant ≤ run.1.ends.instant ∧ Diary.Left world rounds D run.2 ∧
      RoundsOf pauses i bs m.instant run.1.ends.instant (Except.isOk run.1.result) rounds ∧
      (Except.isOk run.1.result = true →
        run.2.consulted = (List.range' i (bs.length - 1)).reverse ++ D.consulted) := by
  -- on the batches: a round that fails is the last one, the others start where the pause after it is over
  induction bs generalizing i m D with
  | nil => exact ⟨[], le_refl _, .none D, .none i [] m.instant _, fun _ => rfl⟩
  | cons batch rest ih =>
    intro run
    obtain ⟨p, hnumber, hstarts, hserves, hleft, hconsulted, hle, hwell, hill⟩ :=
      batch_run hprocess i batch m D
    generalize hall : all (batch.map fun t => noting t (process t)) ⟨m, none⟩ D = first
      at hleft hconsulted hle hwell hill
    cases hresult : first.1.result with
    | error e =>
      have hr := (congrArg (·.1.result) hall).trans hresult
      obtain ⟨hrun, hends, hstate⟩ := inRounds_of_error (consulting pauses) i rest hr
      have hbroken := hill ⟨e, hresult⟩
      rw [hall] at hends hstate
      rw [show run.1.result = _ from hrun, show run.1.ends = _ from hends, show run.2 = _ from hstate]
      exact ⟨[p], hle, hleft, .failed hserves hnumber hstarts hle hbroken, fun h => absurd h Bool.false_ne_true⟩
    | ok found =>
      have hr := (congrArg (·.1.result) hall).trans hresult
      have hdone := hwell ⟨found, hresult⟩
      cases rest with
      | nil =>
        obtain ⟨hrun, hends, hstate⟩ := inRounds_of_last (consulting pauses) i hr
        rw [hall] at hends hstate
        rw [show run.1.result = _ from hrun, show run.1.ends = _ from hends, show run.2 = _ from hstate]
        exact ⟨[p], hle, hleft, .last hserves hnumber hstarts hle hdone,
          fun _ => hconsulted⟩
      | cons next more =>
        obtain ⟨hrest, hrested, hasked⟩ := consulting_run pauses i first.1.ends first.2
        generalize hm : (consulting pauses i ⟨first.1.ends, none⟩ first.2).1.ends = m' at hrested
        generalize hD : (consulting pauses i ⟨first.1.ends, none⟩ first.2).2 = D' at hasked
        obtain ⟨hends, hstate, hok⟩ := inRounds_of_next (consulting pauses) i next more hr
          (congrArg (·.1.ends) hall) (congrArg (·.2) hall) hrest hm hD
        obtain ⟨rounds, hle', hleft', hrounds, hconsulted'⟩ := ih (i + 1) m' D'
        rw [show run.1.ends = _ from hends, show run.2 = _ from hstate, show Except.isOk run.1.result = _ from hok]
        rw [hrested] at hle' hrounds
        refine ⟨p :: rounds, le_trans hle (le_trans (first.1.ends.instant.le_rested _) hle'), ?_, ?_, fun h => ?_⟩
        · exact hleft.next (hleft'.congr (by rw [hasked]) (by rw [hasked]))
        · exact .next hserves hnumber hstarts hle hdone hle' hrounds
        · change _ = (List.range' i (more.length + 1)).reverse ++ D.consulted
          rw [hconsulted' h, hasked, List.range'_succ, List.reverse_cons, List.append_assoc, hconsulted]
          rfl

end Work

end ChainRisk
