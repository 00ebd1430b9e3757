import ChainRisk.Time.Activity
import Mathlib.Order.Defs.Unbundled

namespace ChainRisk.Activity

variable {σ α β : Type} {x : Activity σ α} {f : α → Activity σ β} {w : Window} {s : σ}

theorem bind_of_ok {a : α} (h : (x w s).1.result = .ok a) : (x >>= f) w s =
    (⟨(f a { w with start := (x w s).1.ends } (x w s).2).1.result,
      (f a { w with start := (x w s).1.ends } (x w s).2).1.ends,
      (x w s).1.pause.andThen (f a { w with start := (x w s).1.ends } (x w s).2).1.pause,
      max (x w s).1.settles (f a { w with start := (x w s).1.ends } (x w s).2).1.settles⟩,
      (f a { w with start := (x w s).1.ends } (x w s).2).2) := by
  change Activity.bind x f w s = _
  rw [Activity.bind]
  rcases hx : x w s with ⟨⟨r, ends, pause, settles⟩, s'⟩
  rw [hx] at h
  subst h
  rfl

theorem bind_of_error {e : Failure} (h : (x w s).1.result = .error e) : (x >>= f) w s =
    (⟨.error e, (x w s).1.ends, (x w s).1.pause, (x w s).1.settles⟩, (x w s).2) := by
  change Activity.bind x f w s = _
  rw [Activity.bind]
  rcases hx : x w s with ⟨⟨r, ends, pause, settles⟩, s'⟩
  rw [hx] at h
  subst h
  rfl

theorem result_bind_of_ok {a : α} (h : (x w s).1.result = .ok a) : ((x >>= f) w s).1.result =
    (f a { w with start := (x w s).1.ends } (x w s).2).1.result := by
  rw [bind_of_ok h]

theorem state_bind_of_ok {a : α} (h : (x w s).1.result = .ok a) : ((x >>= f) w s).2 =
    (f a { w with start := (x w s).1.ends } (x w s).2).2 := by
  rw [bind_of_ok h]

theorem exists_of_bind_eq_ok {m : Moment} {b : β} (h : ((x >>= f) ⟨m, none⟩ s).1.result = .ok b) :
    ∃ a n, (x ⟨m, none⟩ s).1.result = .ok a ∧ (f a ⟨n, none⟩ (x ⟨m, none⟩ s).2).1.result = .ok b ∧
      ((x >>= f) ⟨m, none⟩ s).2 = (f a ⟨n, none⟩ (x ⟨m, none⟩ s).2).2 := by
  cases hr : (x ⟨m, none⟩ s).1.result with
  | ok a =>
    rw [result_bind_of_ok hr] at h
    exact ⟨a, _, rfl, h, state_bind_of_ok hr⟩
  | error e =>
    rw [bind_of_error hr] at h
    cases h

variable {R : σ → σ → Prop}

def Respects (R : σ → σ → Prop) (x : Activity σ α) : Prop := ∀ w s, R s (x w s).2

theorem respects_attempt (hx : Respects R x) : Respects R (attempt x) := fun w s => hx w s

theorem respects_within (hx : Respects R x) (limit : Duration) (alarm : Option Instant) :
    Respects R (within limit alarm x) := by
  intro w s
  rw [within]
  split
  · exact hx w s
  · exact hx _ s

def Carries (P : σ → Prop) (s t : σ) : Prop := P s → P t

instance (P : σ → Prop) : IsPreorder σ (Carries P) where
  refl _ := id
  trans _ _ _ h h' := h' ∘ h

variable [IsPreorder σ R]

theorem respects_pure (a : α) : Respects R (Activity.pure a) := fun _ s => refl s

theorem respects_fail (e : Failure) : Respects R (fail e : Activity σ α) := fun _ s => refl s

theorem respects_ofAttempt (r : Attempt α) : Respects R (ofAttempt r) := by
  cases r with
  | ok a => exact respects_pure a
  | error e => exact respects_fail e

theorem respects_inspect : Respects R (inspect : Activity σ σ) := fun _ s => refl s

theorem respects_now : Respects R (now : Activity σ Instant) := fun _ s => refl s

theorem respects_wait (d : Binary64) : Respects R (wait d) := fun _ s => refl s

theorem respects_takeUp : Respects R takeUp := fun _ s => refl s

theorem respects_update {g : σ → σ} (h : ∀ s, R s (g s)) : Respects R (update g) := by
  intro w s
  change R s (if w.reaches w.start then g s else s)
  split
  · exact h s
  · exact refl s

theorem respects_bind (hx : Respects R x) (hf : ∀ a, Respects R (f a)) : Respects R (x >>= f) := by
  intro w s
  cases hr : (x w s).1.result with
  | ok a =>
    rw [bind_of_ok hr]
    exact IsTrans.trans _ _ _ (hx w s) (hf a _ _)
  | error e =>
    rw [bind_of_error hr]
    exact hx w s

theorem respects_both {y : Activity σ β} (hx : Respects R x) (hy : Respects R y) :
    Respects R (both x y) := fun w s => IsTrans.trans _ _ _ (hx w.inner s) (hy w.inner _)

theorem respects_branches {xs : List (Activity σ α)} (h : ∀ x ∈ xs, Respects R x) (w : Window) (s : σ) :
    R s (branches xs w s).2 := by
  induction xs generalizing s with
  | nil => exact refl s
  | cons x xs ih =>
    exact IsTrans.trans _ _ _ (h x List.mem_cons_self w s)
      (ih (fun y hy => h y (List.mem_cons_of_mem _ hy)) _)

theorem respects_each {xs : List (Activity σ α)} (h : ∀ x ∈ xs, Respects R x) : Respects R (each xs) :=
  fun w s => respects_branches h w.inner s

theorem respects_all {xs : List (Activity σ α)} (h : ∀ x ∈ xs, Respects R x) : Respects R (all xs) := by
  intro w s
  have hfree := respects_branches h w.inner.unlimited s
  have hcut := respects_branches h w.inner s
  rw [all]
  rcases hf : branches xs w.inner.unlimited s with ⟨free, t⟩
  rw [hf] at hfree
  simp only
  split
  · exact hfree
  · exact hcut

end ChainRisk.Activity
