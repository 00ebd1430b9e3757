import ChainRisk.Time.Activity

/-!
What work without a limit comes to, whatever moment it starts at and however long it waits. States are
looked at through a view that may leave parts out, such as the clock.
-/

namespace ChainRisk

namespace Attempt

variable {α β : Type} {x : Attempt α} {b : β}

theorem bind_eq_ok_iff {f : α → Attempt β} : x.bind f = .ok b ↔ ∃ a, x = .ok a ∧ f a = .ok b := by
  cases x with
  | ok a => simp [Except.bind]
  | error e => simp [Except.bind]

theorem map_eq_ok_iff {f : α → β} : x.map f = .ok b ↔ ∃ a, x = .ok a ∧ f a = b := by
  cases x with
  | ok a => simp [Except.map]
  | error e => simp [Except.map]

theorem isOk_eq_true_iff : Except.isOk x = true ↔ ∃ a, x = .ok a := by
  cases x with
  | ok a => exact iff_of_true rfl ⟨a, rfl⟩
  | error e => exact iff_of_false Bool.false_ne_true (by simp)

theorem isOk_eq_false_iff : Except.isOk x = false ↔ ∃ e, x = .error e := by
  cases x with
  | ok a => exact iff_of_false Bool.false_ne_true.symm (by simp)
  | error e => exact iff_of_true rfl ⟨e, rfl⟩

variable {f : α → Attempt β} {l : List α} {bs : List β}

theorem mapM_cons_eq_ok_iff {a : α} :
    (a :: l).mapM f = .ok bs ↔ ∃ b bs', f a = .ok b ∧ l.mapM f = .ok bs' ∧ bs = b :: bs' := by
  rw [List.mapM_cons]
  cases f a with
  | error e => simp [bind, Except.bind]
  | ok b => cases l.mapM f <;> simp [bind, Except.bind, pure, Except.pure, eq_comm]

theorem exists_mapM_iff : (∃ bs, l.mapM f = .ok bs) ↔ ∀ a ∈ l, ∃ b, f a = .ok b := by
  induction l with
  | nil => exact iff_of_true ⟨[], rfl⟩ nofun
  | cons a l ih =>
    simp only [mapM_cons_eq_ok_iff, List.forall_mem_cons, ← ih]
    constructor
    · rintro ⟨-, b, bs, hb, hbs, rfl⟩
      exact ⟨⟨b, hb⟩, bs, hbs⟩
    · rintro ⟨⟨b, hb⟩, bs, hbs⟩
      exact ⟨b :: bs, b, bs, hb, hbs, rfl⟩

theorem zip_of_mapM (h : l.mapM f = .ok bs) : bs.length = l.length ∧ ∀ p ∈ l.zip bs, f p.1 = .ok p.2 := by
  induction l generalizing bs with
  | nil =>
    cases h
    exact ⟨rfl, nofun⟩
  | cons a l ih =>
    obtain ⟨b, bs, hb, hbs, rfl⟩ := mapM_cons_eq_ok_iff.1 h
    obtain ⟨hlength, hzip⟩ := ih hbs
    rw [List.length_cons, List.length_cons, hlength, List.zip_cons_cons, List.forall_mem_cons]
    exact ⟨rfl, hb, hzip⟩

end Attempt

namespace Activity

variable {σ ν α β : Type} {π : σ → ν} {v : ν}

/-- From every state with the view `v`, the result and the view at the end satisfy `Q`. -/
def Yields (π : σ → ν) (x : Activity σ α) (v : ν) (Q : Attempt α → ν → Prop) : Prop :=
  ∀ m s, π s = v → Q (x ⟨m, none⟩ s).1.result (π (x ⟨m, none⟩ s).2)

def After (π : σ → ν) (f : α → Activity σ β) (Q : Attempt β → ν → Prop) : Attempt α → ν → Prop
  | .ok a, u => Yields π (f a) u Q
  | .error e, u => Q (.error e) u

theorem Yields.run {x : Activity σ α} {Q : Attempt α → ν → Prop} (h : Yields π x v Q) (m : Moment)
    {s : σ} (hs : π s = v) : Q (x ⟨m, none⟩ s).1.result (π (x ⟨m, none⟩ s).2) := h m s hs

theorem yields_of_run {x : Activity σ α} {Q : Attempt α → ν → Prop}
    (h : ∀ m s, π s = v → Q (x ⟨m, none⟩ s).1.result (π (x ⟨m, none⟩ s).2)) : Yields π x v Q := h

theorem yields_refine {μ : Type} {ρ : σ → μ} {u : μ} {f : μ → ν} {x : Activity σ α}
    {P : Attempt α → ν → Prop} {Q : Attempt α → μ → Prop} (hf : ∀ s, f (ρ s) = π s) (hx : Yields π x (f u) P)
    (h : Yields ρ x u fun r u' => P r (f u') → Q r u') : Yields ρ x u Q := by
  intro m s hs
  refine h m s hs ?_
  rw [hf]
  exact hx m s (by rw [← hf, hs])

theorem yields_mono {x : Activity σ α} {P Q : Attempt α → ν → Prop} (h : Yields π x v P)
    (hPQ : ∀ r u, P r u → Q r u) : Yields π x v Q :=
  fun m s hs => hPQ _ _ (h m s hs)

theorem yields_pure {a : α} {Q : Attempt α → ν → Prop} (h : Q (.ok a) v) :
    Yields π (Activity.pure a) v Q := by
  rintro m s rfl
  exact h

theorem yields_fail {e : Failure} {Q : Attempt α → ν → Prop} (h : Q (.error e) v) :
    Yields π (fail e) v Q := by
  rintro m s rfl
  exact h

theorem yields_ofAttempt {r : Attempt α} {Q : Attempt α → ν → Prop} (h : Q r v) :
    Yields π (ofAttempt r) v Q := by
  cases r with
  | ok a => exact yields_pure h
  | error e => exact yields_fail h

theorem yields_bind {x : Activity σ α} {f : α → Activity σ β} {Q : Attempt β → ν → Prop}
    (h : Yields π x v (After π f Q)) : Yields π (x >>= f) v Q := by
  intro m s hs
  have hx := h m s hs
  change Q (Activity.bind x f ⟨m, none⟩ s).1.result (π (Activity.bind x f ⟨m, none⟩ s).2)
  rw [Activity.bind]
  rcases hxs : x ⟨m, none⟩ s with ⟨⟨r, ends, pause, settles⟩, s'⟩
  rw [hxs] at hx
  cases r with
  | ok a => exact hx ends s' rfl
  | error e => exact hx

theorem after_of_bind {f : α → Activity σ β} {g : α → Attempt β} {r : Attempt α}
    {Q : Attempt β → ν → Prop} (hf : ∀ a, r = .ok a → Q (g a) v → Yields π (f a) v Q)
    (h : Q (r.bind g) v) : After π f Q r v := by
  cases r with
  | ok a => exact hf a rfl h
  | error e => exact h

theorem after_of_map {f : α → Activity σ β} {g : α → β} {r : Attempt α} {Q : Attempt β → ν → Prop}
    (hf : ∀ a, Q (.ok (g a)) v → Yields π (f a) v Q) (h : Q (r.map g) v) : After π f Q r v := by
  cases r with
  | ok a => exact hf a h
  | error e => exact h

theorem yields_inspect {Q : Attempt σ → ν → Prop} (h : ∀ s, π s = v → Q (.ok s) v) :
    Yields π inspect v Q := by
  rintro m s rfl
  exact h s rfl

theorem yields_now {Q : Attempt Instant → ν → Prop} (h : ∀ t, Q (.ok t) v) : Yields π now v Q := by
  rintro m s rfl
  exact h m.instant

theorem yields_update {f : σ → σ} {u : ν} {Q : Attempt Unit → ν → Prop}
    (hf : ∀ s, π s = v → π (f s) = u) (h : Q (.ok ()) u) : Yields π (update f) v Q := by
  intro m s hs
  rw [← hf s hs] at h
  exact h

theorem yields_wait {d : Binary64} {Q : Attempt Unit → ν → Prop} (h : Q (.ok ()) v) :
    Yields π (wait d) v Q := by
  rintro m s rfl
  exact h

theorem yields_takeUp {Q : Attempt Unit → ν → Prop} (h : Q (.ok ()) v) : Yields π takeUp v Q := by
  rintro m s rfl
  exact h

theorem yields_attempt {x : Activity σ α} {Q : Attempt (Attempt α) → ν → Prop}
    (h : Yields π x v fun r u => Q (.ok r) u) : Yields π (attempt x) v Q :=
  fun m s hs => h m s hs

theorem yields_both {x : Activity σ α} {y : Activity σ β} {Q : Attempt (Attempt α × Attempt β) → ν → Prop}
    (h : Yields π x v fun r u => Yields π y u fun r' u' => Q (.ok (r, r')) u') :
    Yields π (both x y) v Q :=
  fun m s hs => h m.next s hs m.next _ rfl

def YieldsEach (π : σ → ν) : List (Activity σ α) → ν → (List (Attempt α) → ν → Prop) → Prop
  | [], v, Q => Q [] v
  | x :: xs, v, Q => Yields π x v fun r u => YieldsEach π xs u fun rs u' => Q (r :: rs) u'

theorem branches_of_yieldsEach {xs : List (Activity σ α)} {v : ν} {Q : List (Attempt α) → ν → Prop}
    (h : YieldsEach π xs v Q) (m : Moment) {s : σ} (hs : π s = v) :
    Q ((branches xs ⟨m, none⟩ s).1.map (·.result)) (π (branches xs ⟨m, none⟩ s).2) := by
  induction xs generalizing v s Q with
  | nil => subst hs; exact h
  | cons x xs ih => exact ih (h m s hs) rfl

theorem yields_each {xs : List (Activity σ α)} {Q : Attempt (List (Attempt α)) → ν → Prop}
    (h : YieldsEach π xs v fun rs u => Q (.ok rs) u) : Yields π (each xs) v Q :=
  fun m _ hs => branches_of_yieldsEach h m.next hs

inductive Joins : List (Attempt α) → Attempt (List α) → Prop
  | values (as : List α) : Joins (as.map .ok) (.ok as)
  | failure {rs : List (Attempt α)} {e : Failure} (h : .error e ∈ rs) : Joins rs (.error e)

theorem Joins.eq_map {rs : List (Attempt α)} {as : List α} (h : Joins rs (.ok as)) : rs = as.map .ok := by
  cases h
  rfl

theorem Joins.mem {rs : List (Attempt α)} {e : Failure} (h : Joins rs (.error e)) : .error e ∈ rs := by
  cases h
  assumption

theorem Joins.eq_ok {as : List α} {r : Attempt (List α)} (h : Joins (as.map .ok) r) : r = .ok as := by
  cases r with
  | ok bs =>
    have heq := h.eq_map
    rw [List.map_inj_right fun _ _ => Except.ok.inj] at heq
    rw [heq]
  | error e =>
    obtain ⟨a, -, ha⟩ := List.mem_map.1 h.mem
    cases ha

theorem Joins.append {rs rs' : List (Attempt α)} {as : List α} {r : Attempt (List α)}
    (h : Joins rs (.ok as)) (h' : Joins rs' r) : Joins (rs ++ rs') (r.map (as ++ ·)) := by
  rw [h.eq_map]
  cases r with
  | ok bs =>
    rw [h'.eq_map, ← List.map_append]
    exact .values (as ++ bs)
  | error e => exact .failure (List.mem_append_right _ h'.mem)

theorem Joins.append_error {rs : List (Attempt α)} {e : Failure} (h : Joins rs (.error e))
    (rs' : List (Attempt α)) : Joins (rs ++ rs') (.error e) :=
  .failure (List.mem_append_left _ h.mem)

theorem firstBreak_eq_none {os : List (Outcome α)} (h : firstBreak os = none) :
    ∃ as, os.map (·.result) = as.map .ok ∧ os.mapM (·.result) = .ok as := by
  induction os with
  | nil => exact ⟨[], rfl, rfl⟩
  | cons o os ih =>
    cases ho : o.result with
    | error e => simp only [firstBreak, Outcome.break?, ho] at h; split at h <;> simp_all
    | ok a =>
      obtain ⟨as, has, hm⟩ := ih (by simpa only [firstBreak, Outcome.break?, ho] using h)
      refine ⟨a :: as, by rw [List.map_cons, ho, has, List.map_cons], ?_⟩
      rw [List.mapM_cons, ho, hm]
      rfl

theorem firstBreak_mem {os : List (Outcome α)} {b : Break} (h : firstBreak os = some b) :
    .error b.failure ∈ os.map (·.result) := by
  induction os generalizing b with
  | nil => simp [firstBreak] at h
  | cons o os ih =>
    cases ho : o.result with
    | ok a =>
      rw [firstBreak, Outcome.break?, ho] at h
      exact List.mem_cons_of_mem _ (ih h)
    | error e =>
      rw [firstBreak, Outcome.break?, ho] at h
      cases hc : firstBreak os with
      | none =>
        simp only [hc, Option.some.injEq] at h
        subst h
        simp [ho]
      | some c =>
        simp only [hc, Option.some.injEq] at h
        split at h
        · subst h; exact List.mem_cons_of_mem _ (ih hc)
        · subst h; simp [ho]

theorem yields_all {xs : List (Activity σ α)} {Q : Attempt (List α) → ν → Prop}
    (h : YieldsEach π xs v fun rs u => ∀ r, Joins rs r → Q r u) : Yields π (all xs) v Q := by
  intro m s hs
  have hq := branches_of_yieldsEach h m.next hs
  rw [all, show Window.unlimited (Window.inner ⟨m, none⟩) = ⟨m.next, none⟩ from rfl,
    show Window.inner ⟨m, none⟩ = ⟨m.next, none⟩ from rfl]
  rcases hos : branches xs ⟨m.next, none⟩ s with ⟨os, t⟩
  rw [hos] at hq
  simp only
  -- which failure comes first depends on the clock, and `Joins` leaves it open
  cases hb : firstBreak os with
  | some b => exact hq _ (.failure (firstBreak_mem hb))
  | none =>
    obtain ⟨as, has, hm⟩ := firstBreak_eq_none hb
    change Q (os.mapM (·.result)) (π t)
    rw [hm]
    exact hq _ (has ▸ .values as)

inductive Goes {τ : Type} (f : τ → Activity σ α) : List τ → σ → List α → σ → Prop
  | nil (s : σ) : Goes f [] s [] s
  | cons {t : τ} {ts : List τ} {s s' : σ} {a : α} {as : List α} (m : Moment)
      (h : (f t ⟨m, none⟩ s).1.result = .ok a) (hs : Goes f ts (f t ⟨m, none⟩ s).2 as s') :
      Goes f (t :: ts) s (a :: as) s'

section

variable {τ : Type} {f : τ → Activity σ α} {ts ts' : List τ} {s s' s'' : σ} {as as' : List α}

theorem Goes.append (h : Goes f ts s as s') (h' : Goes f ts' s' as' s'') :
    Goes f (ts ++ ts') s (as ++ as') s'' := by
  induction h with
  | nil s => exact h'
  | cons m h hs ih => exact .cons m h (ih h')

theorem goes_of_branches {m : Moment}
    (h : (branches (ts.map f) ⟨m, none⟩ s).1.map (·.result) = as.map .ok) :
    Goes f ts s as (branches (ts.map f) ⟨m, none⟩ s).2 := by
  induction ts generalizing s as with
  | nil =>
    cases as with
    | nil => exact .nil s
    | cons a as => cases h
  | cons t ts ih =>
    cases as with
    | nil => cases h
    | cons a as =>
      have h' := List.cons.inj h
      exact .cons m h'.1 (ih h'.2)

theorem goes_of_all {m : Moment} (h : (all (ts.map f) ⟨m, none⟩ s).1.result = .ok as) :
    Goes f ts s as (all (ts.map f) ⟨m, none⟩ s).2 := by
  have hgoes : (branches (ts.map f) ⟨m.next, none⟩ s).1.map (·.result) = as.map .ok →
      Goes f ts s as (branches (ts.map f) ⟨m.next, none⟩ s).2 := goes_of_branches
  rw [all, show Window.unlimited (Window.inner ⟨m, none⟩) = ⟨m.next, none⟩ from rfl,
    show Window.inner ⟨m, none⟩ = ⟨m.next, none⟩ from rfl] at h ⊢
  rcases hos : branches (ts.map f) ⟨m.next, none⟩ s with ⟨os, s'⟩
  rw [hos] at hgoes h
  simp only at h ⊢
  cases hb : firstBreak os with
  | some b =>
    rw [hb] at h
    cases h
  | none =>
    obtain ⟨bs, hbs, hm⟩ := firstBreak_eq_none hb
    rw [hb] at h
    cases hm.symm.trans h
    exact hgoes hbs

end

def Ends (π : σ → ν) (x : Activity σ α) (v : ν) (Q : Attempt α → Moment → ν → Prop) : Prop :=
  ∀ m s, π s = v → Q (x ⟨m, none⟩ s).1.result (x ⟨m, none⟩ s).1.ends (π (x ⟨m, none⟩ s).2)

theorem ends_bind {x : Activity σ α} {f : α → Activity σ β} {Q : Attempt β → Moment → ν → Prop}
    (h : Yields π x v fun r u =>
      match r with
      | .ok a => Ends π (f a) u Q
      | .error e => ∀ m, Q (.error e) m u) : Ends π (x >>= f) v Q := by
  intro m s hs
  have hx := h m s hs
  change Q (Activity.bind x f ⟨m, none⟩ s).1.result (Activity.bind x f ⟨m, none⟩ s).1.ends
    (π (Activity.bind x f ⟨m, none⟩ s).2)
  rw [Activity.bind]
  rcases hxs : x ⟨m, none⟩ s with ⟨⟨r, ends, pause, settles⟩, s'⟩
  rw [hxs] at hx
  cases r with
  | ok a => exact hx ends s' rfl
  | error e => exact hx ends

-- From here on the rules are all that is known of `Yields`, so that a goal is met by its rule.
attribute [irreducible] Yields

end Activity

end ChainRisk
