import ChainRisk.Proofs.Passage

namespace ChainRisk

namespace Moment

variable {m n : Moment} {d : Binary64}

theorem lt_ofInstant_iff {t : Instant} : m < ofInstant t ↔ m.instant < t := by
  constructor
  · rintro (h | ⟨-, h⟩)
    · exact h
    · exact absurd h (Nat.not_lt_zero _)
  · exact Or.inl

theorem deadline_of_lt (h : m.instant < m.instant.after d) :
    m.deadline d = ofInstant (m.instant.after d) := by
  have hle : m.next ≤ ofInstant (m.instant.after d) := Or.inl h
  exact if_pos hle

theorem deadline_of_not_lt (h : ¬ m.instant < m.instant.after d) : m.deadline d = m.next := by
  have heq : m.instant.after d = m.instant := by
    have hle := m.instant.le_after d
    exact congrArg Instant.mk (Nat.le_antisymm (Nat.not_lt.1 h) hle)
  have hle : ¬ m.next ≤ ofInstant (m.instant.after d) := by
    rw [heq]
    rintro (hlt | ⟨-, hturn⟩)
    · exact Nat.lt_irrefl _ hlt
    · exact Nat.not_succ_le_zero _ hturn
  exact if_neg hle

theorem lt_deadline (m : Moment) (d : Binary64) : m < m.deadline d := by
  by_cases h : m.instant < m.instant.after d
  · rw [deadline_of_lt h]
    exact lt_ofInstant_iff.2 h
  · rw [deadline_of_not_lt h]
    exact m.lt_next

end Moment

/-- What started at `m` is over before its time is. A limit that does not move the clock leaves the
current turn, and spares work that is taking up an answer. -/
def Outcome.InTime {α : Type} (limit : Duration) (m : Moment) (o : Outcome α) : Prop :=
  if m.instant < m.instant.after limit.seconds then o.ends.instant < m.instant.after limit.seconds
  else o.ends < m.next ∨ o.pause = .answered

instance {α : Type} (limit : Duration) (m : Moment) (o : Outcome α) : Decidable (o.InTime limit m) := by
  unfold Outcome.InTime
  infer_instance

namespace Activity

variable {σ α β : Type} {x y : Activity σ α} {f g : α → Activity σ β} {w : Window} {s : σ} {m : Moment}
  {limit : Duration}

theorem inTime_iff (limit : Duration) (m : Moment) (o : Outcome α) : o.InTime limit m ↔
    o.ends < m.deadline limit.seconds ∨
      ((m.deadline limit.seconds).instant = m.instant ∧ o.pause = .answered) := by
  unfold Outcome.InTime
  split
  · next h =>
    rw [Moment.deadline_of_lt h, Moment.lt_ofInstant_iff]
    refine ⟨.inl, fun hor => hor.resolve_right ?_⟩
    rintro ⟨heq, -⟩
    change m.instant.after limit.seconds = m.instant at heq
    rw [heq] at h
    exact Nat.lt_irrefl _ h
  · next h =>
    rw [Moment.deadline_of_not_lt h]
    change _ ↔ _ ∨ (m.instant = m.instant ∧ _)
    rw [and_iff_right rfl]

theorem deadline_of_ne_nan (h : limit ≠ .fractional .nan) (alarm : Option Instant) (m : Moment) :
    deadline limit alarm m = m.deadline limit.seconds := by
  unfold deadline
  split
  · exact absurd rfl h
  · rfl

/-- A limit keeps the result of work in time and leaves nothing but its passing of other work. Of a limit
that is no number only this is known, that it does one or the other. -/
def Curbed (limit : Duration) (m : Moment) (cut free : Outcome α) : Prop :=
  (cut.result = free.result ∧ (limit ≠ .fractional .nan → free.InTime limit m)) ∨
    (cut.result = .error .deadlinePassed ∧ (limit ≠ .fractional .nan → ¬ free.InTime limit m))

theorem curbed_within (limit : Duration) (alarm : Option Instant) (x : Activity σ α) (m : Moment) (s : σ) :
    Curbed limit m (within limit alarm x ⟨m, none⟩ s).1 (x ⟨m, none⟩ s).1 := by
  rw [within]
  split
  · next h => exact .inl ⟨rfl, fun hnum => (inTime_iff ..).2 (deadline_of_ne_nan hnum alarm m ▸ h)⟩
  · next h =>
    exact .inr ⟨rfl, fun hnum hin => h (deadline_of_ne_nan hnum alarm m ▸ (inTime_iff ..).1 hin)⟩

theorem Curbed.result {cut free : Outcome α} (h : Curbed limit m cut free) (hnum : limit ≠ .fractional .nan) :
    cut.result = if free.InTime limit m then free.result else .error .deadlinePassed := by
  rcases h with ⟨hr, hin⟩ | ⟨hr, hin⟩
  · rw [if_pos (hin hnum), hr]
  · rw [if_neg (hin hnum), hr]

def Prompt (x : Activity σ α) : Prop := ∀ w s, (x w s).1.ends = w.start ∧ (x w s).1.pause = .never

theorem prompt_pure (a : α) : Prompt (Activity.pure a : Activity σ α) := fun _ _ => ⟨rfl, rfl⟩

theorem prompt_fail (e : Failure) : Prompt (fail e : Activity σ α) := fun _ _ => ⟨rfl, rfl⟩

theorem prompt_ofAttempt (r : Attempt α) : Prompt (ofAttempt r : Activity σ α) := by
  cases r with
  | ok a => exact prompt_pure a
  | error e => exact prompt_fail e

theorem prompt_inspect : Prompt (inspect : Activity σ σ) := fun _ _ => ⟨rfl, rfl⟩

theorem prompt_now : Prompt (now : Activity σ Instant) := fun _ _ => ⟨rfl, rfl⟩

theorem prompt_update (g : σ → σ) : Prompt (update g) := fun _ _ => ⟨rfl, rfl⟩

theorem prompt_bind (hx : Prompt x) (hf : ∀ a, Prompt (f a)) : Prompt (x >>= f) := by
  intro w s
  obtain ⟨hends, hpause⟩ := hx w s
  cases hr : (x w s).1.result with
  | ok a =>
    rw [bind_of_ok hr, hends, hpause]
    exact hf a _ _
  | error e =>
    rw [bind_of_error hr]
    exact ⟨hends, hpause⟩

def course (o : Outcome α) : Attempt α × Moment × Pause := (o.result, o.ends, o.pause)

section

variable {o : Outcome α} {r : Attempt α} {ends : Moment} {pause : Pause}

theorem result_of_course (h : course o = (r, ends, pause)) : o.result = r := congrArg Prod.fst h

theorem ends_of_course (h : course o = (r, ends, pause)) : o.ends = ends :=
  congrArg (fun c : Attempt α × Moment × Pause => c.2.1) h

theorem pause_of_course (h : course o = (r, ends, pause)) : o.pause = pause :=
  congrArg (fun c : Attempt α × Moment × Pause => c.2.2) h

end

theorem course_bind_of_prompt (hx : Prompt x) {a : α} (h : (x w s).1.result = .ok a) :
    course ((x >>= f) w s).1 = course (f a w (x w s).2).1 := by
  obtain ⟨hends, hpause⟩ := hx w s
  rw [bind_of_ok h, hends, hpause]
  rfl

theorem inTime_congr {o : Outcome α} {p : Outcome β} (hends : o.ends = p.ends) (hpause : o.pause = p.pause) :
    o.InTime limit m ↔ p.InTime limit m := by
  rw [inTime_iff, inTime_iff, hends, hpause]

theorem inTime_of_ends {o : Outcome α} (h : o.ends = m) (limit : Duration) : o.InTime limit m := by
  rw [inTime_iff, h]
  exact .inl (m.lt_deadline _)

theorem curbed_congr {cut cut' free free' : Outcome α} (hcut : course cut = course cut')
    (hfree : course free = course free') : Curbed limit m cut free ↔ Curbed limit m cut' free' := by
  unfold Curbed
  rw [result_of_course hcut, result_of_course hfree, inTime_congr (ends_of_course hfree) (pause_of_course hfree)]

theorem curbed_bind (hx : Prompt x) (h : ∀ a s',
    Curbed limit m (f a ⟨m, none⟩ s').1 (g a ⟨m, none⟩ s').1) :
    Curbed limit m ((x >>= f) ⟨m, none⟩ s).1 ((x >>= g) ⟨m, none⟩ s).1 := by
  cases hr : (x ⟨m, none⟩ s).1.result with
  | ok a =>
    rw [curbed_congr (course_bind_of_prompt hx hr) (course_bind_of_prompt hx hr)]
    exact h a _
  | error e =>
    have hends : ((x >>= g) ⟨m, none⟩ s).1.ends = m := by
      rw [bind_of_error hr]
      exact (hx _ _).1
    refine .inl ⟨?_, fun _ => inTime_of_ends hends limit⟩
    rw [bind_of_error hr, bind_of_error hr]

def Immediate (x : Activity σ α) (r : Attempt α) : Prop := Prompt x ∧ ∀ w s, (x w s).1.result = r

theorem immediate_pure (a : α) : Immediate (Activity.pure a : Activity σ α) (.ok a) :=
  ⟨prompt_pure a, fun _ _ => rfl⟩

theorem immediate_bind_ofAttempt {r : Attempt α} {k : α → Attempt β} (hf : ∀ a, Immediate (f a) (k a)) :
    Immediate (ofAttempt r >>= f) (r.bind k) := by
  refine ⟨prompt_bind (prompt_ofAttempt r) fun a => (hf a).1, fun w s => ?_⟩
  cases r with
  | ok a => exact (hf a).2 w s
  | error e => rfl

theorem course_bind_immediate {k : α → Attempt β} {r : Attempt α} {ends : Moment} {pause : Pause}
    (h : course (x w s).1 = (r, ends, pause)) (hf : ∀ a, Immediate (f a) (k a)) :
    course ((x >>= f) w s).1 = (r.bind k, ends, pause) := by
  simp only [course, Prod.mk.injEq] at h
  obtain ⟨rfl, rfl, rfl⟩ := h
  cases hr : (x w s).1.result with
  | ok a =>
    obtain ⟨hends, hpause⟩ := (hf a).1 { w with start := (x w s).1.ends } (x w s).2
    rw [bind_of_ok hr, course, hends, hpause, (hf a).2]
    cases (x w s).1.pause <;> rfl
  | error e =>
    rw [bind_of_error hr]
    rfl

theorem curbed_bind_immediate {k : α → Attempt β} (hf : ∀ a, Immediate (f a) (k a))
    (h : Curbed limit m (x ⟨m, none⟩ s).1 (y ⟨m, none⟩ s).1) :
    Curbed limit m ((x >>= f) ⟨m, none⟩ s).1 ((y >>= f) ⟨m, none⟩ s).1 := by
  have hcut := course_bind_immediate (x := x) (w := ⟨m, none⟩) (s := s) rfl hf
  have hfree := course_bind_immediate (x := y) (w := ⟨m, none⟩) (s := s) rfl hf
  unfold Curbed at h ⊢
  rw [result_of_course hcut, result_of_course hfree, inTime_congr (ends_of_course hfree) (pause_of_course hfree)]
  rcases h with ⟨hr, hin⟩ | ⟨hr, hin⟩
  · exact .inl ⟨by rw [hr], hin⟩
  · exact .inr ⟨by rw [hr]; rfl, hin⟩

end Activity

end ChainRisk
