import ChainRisk.Proofs.AddressText
import ChainRisk.Proofs.Deadline
import ChainRisk.Proofs.Untimed
import ChainRisk.Request

/-!
How work fails: what holds of every failure that it can end with, whatever the world. An ordinary failure
blames no address, misses no contract and is no passing of a deadline.
-/

namespace ChainRisk

namespace Attempt

variable {α β : Type} {P Q : Failure → Prop} {x : Attempt α} {f : α → Attempt β}

def Fails (P : Failure → Prop) (x : Attempt α) : Prop := ∀ e, x = .error e → P e

def Holds (Q : α → Prop) : Attempt α → Prop
  | .ok a => Q a
  | .error _ => False

def Returns (Q : α → Prop) (x : Attempt α) : Prop := ∀ a, x = .ok a → Q a

theorem fails_ok (a : α) : Fails P (.ok a) := fun _ h => by cases h

theorem fails_error {e : Failure} (h : P e) : Fails P (.error e : Attempt α) := by
  rintro _ ⟨⟩
  exact h

theorem eq_ok_of_toOption {a : α} (h : x.toOption = some a) : x = .ok a := by
  cases x with
  | ok b =>
    cases h
    rfl
  | error e => cases h

theorem bind_eq_error_iff {e : Failure} :
    x.bind f = .error e ↔ x = .error e ∨ ∃ a, x = .ok a ∧ f a = .error e := by
  cases x with
  | ok a => simp [Except.bind]
  | error e => simp [Except.bind]

theorem Fails.mono (h : Fails P x) (hPQ : ∀ e, P e → Q e) : Fails Q x := fun e he => hPQ e (h e he)

theorem fails_bind (hx : Fails P x) (hf : ∀ a, Fails P (f a)) : Fails P (x.bind f) := by
  cases x with
  | ok a => exact hf a
  | error e => exact fails_error (hx e rfl)

theorem fails_map {g : α → β} (hx : Fails P x) : Fails P (x.map g) := by
  cases x with
  | ok a => exact fails_ok _
  | error e => exact fails_error (hx e rfl)

theorem fails_mapM {l : List α} (h : ∀ a ∈ l, Fails P (f a)) : Fails P (l.mapM f) := by
  induction l with
  | nil => exact fails_ok _
  | cons a l ih =>
    rw [List.mapM_cons]
    apply fails_bind (h a List.mem_cons_self)
    intro b
    apply fails_bind (ih fun a ha => h a (List.mem_cons_of_mem _ ha))
    intro bs
    exact fails_ok _

end Attempt

namespace Activity

open Attempt

variable {σ α β : Type} {P Q : Failure → Prop} {x : Activity σ α} {y : Activity σ β}
  {f : α → Activity σ β}

def Gives (R : Attempt α → Prop) (x : Activity σ α) : Prop := ∀ w s, R (x w s).1.result

abbrev Fails (P : Failure → Prop) (x : Activity σ α) : Prop := Gives (Attempt.Fails P) x

theorem Gives.run {R : Attempt α → Prop} (h : Gives R x) (w : Window) (s : σ) : R (x w s).1.result := h w s

theorem Fails.mono (h : Fails P x) (hPQ : ∀ e, P e → Q e) : Fails Q x := fun w s => (h w s).mono hPQ

theorem fails_pure (a : α) : Fails P (Activity.pure a : Activity σ α) := fun _ _ => fails_ok a

theorem fails_fail {e : Failure} (h : P e) : Fails P (fail e : Activity σ α) := fun _ _ => fails_error h

theorem fails_ofAttempt {r : Attempt α} (h : Attempt.Fails P r) : Fails P (ofAttempt r : Activity σ α) := by
  cases r with
  | ok a => exact fails_pure a
  | error e => exact fails_fail (h e rfl)

theorem fails_inspect : Fails P (inspect : Activity σ σ) := fun _ s => fails_ok s

theorem fails_now : Fails P (now : Activity σ Instant) := fun _ _ => fails_ok _

theorem fails_update (g : σ → σ) : Fails P (update g) := fun _ _ => fails_ok ()

theorem fails_wait (d : Binary64) : Fails P (wait d : Activity σ Unit) := fun _ _ => fails_ok ()

theorem fails_takeUp : Fails P (takeUp : Activity σ Unit) := fun _ _ => fails_ok ()

theorem fails_each (xs : List (Activity σ α)) : Fails P (each xs) := fun _ _ => fails_ok _

theorem fails_bind (hx : Fails P x) (hf : ∀ a, Fails P (f a)) : Fails P (x >>= f) := by
  intro w s
  cases hr : (x w s).1.result with
  | ok a =>
    rw [bind_of_ok hr]
    exact hf a _ _
  | error e =>
    rw [bind_of_error hr]
    exact fails_error (hx w s e hr)

theorem fails_bind_of_gives {R : α → Prop} (hx : Gives (Holds R) x) (hf : ∀ a, R a → Fails P (f a)) :
    Fails P (x >>= f) := by
  intro w s
  have hr := hx w s
  cases ha : (x w s).1.result with
  | ok a =>
    rw [ha] at hr
    rw [bind_of_ok ha]
    exact hf a hr _ _
  | error e =>
    rw [ha] at hr
    exact hr.elim

theorem gives_pure {R : Attempt α → Prop} {a : α} (h : R (.ok a)) :
    Gives R (Activity.pure a : Activity σ α) := fun _ _ => h

theorem gives_any : Gives (fun _ => True) x := fun _ _ => trivial

theorem returns_bind {R : β → Prop} (hf : ∀ a, Gives (Returns R) (f a)) : Gives (Returns R) (x >>= f) := by
  intro w s
  cases hr : (x w s).1.result with
  | ok a =>
    rw [bind_of_ok hr]
    exact hf a _ _
  | error e =>
    rw [bind_of_error hr]
    rintro _ ⟨⟩

theorem returns_bind_of_gives {R : α → Prop} {S : β → Prop} (hx : Gives (Holds R) x)
    (hf : ∀ a, R a → Gives (Returns S) (f a)) : Gives (Returns S) (x >>= f) := by
  intro w s
  have hr := hx w s
  cases ha : (x w s).1.result with
  | ok a =>
    rw [ha] at hr
    rw [bind_of_ok ha]
    exact hf a hr _ _
  | error e =>
    rw [ha] at hr
    exact hr.elim

theorem respects_bind_of_gives {R : σ → σ → Prop} [IsPreorder σ R] {S : α → Prop} (hx : Respects R x)
    (hgives : Gives (Holds S) x) (hf : ∀ a, S a → Respects R (f a)) : Respects R (x >>= f) := by
  intro w s
  have hr := hgives w s
  cases ha : (x w s).1.result with
  | ok a =>
    rw [ha] at hr
    rw [bind_of_ok ha]
    exact IsTrans.trans _ _ _ (hx w s) (hf a hr _ _)
  | error e =>
    rw [ha] at hr
    exact hr.elim

abbrev Barren (x : Activity σ α) : Prop := Gives (Returns fun _ => False) x

theorem barren_bind (hx : Barren x) : Barren (x >>= f) := by
  intro w s
  cases hr : (x w s).1.result with
  | ok a => exact (hx w s a hr).elim
  | error e =>
    rw [bind_of_error hr]
    rintro _ ⟨⟩

theorem barren_fail (e : Failure) : Barren (fail e : Activity σ α) := fun _ _ _ h => by cases h

theorem barren_ofAttempt {r : Attempt α} (h : Returns (fun _ => False) r) :
    Barren (ofAttempt r : Activity σ α) := by
  intro w s a ha
  cases r with
  | ok b => exact h b rfl
  | error e => cases ha

theorem gives_fail_bind {R : Attempt β → Prop} {e : Failure} (h : R (.error e)) :
    Gives R ((fail e : Activity σ α) >>= f) := fun _ _ => h

theorem barren_branches {xs : List (Activity σ α)} (hx : Barren x) (hmem : x ∈ xs) (w : Window) (s : σ) :
    ∃ o ∈ (branches xs w s).1, ∀ a, o.result ≠ .ok a := by
  induction xs generalizing s with
  | nil => cases hmem
  | cons y xs ih =>
    rcases List.mem_cons.1 hmem with rfl | hmem
    · exact ⟨_, List.mem_cons_self, fun a ha => hx w s a ha⟩
    · obtain ⟨o, ho, hne⟩ := ih hmem (y w s).2
      exact ⟨o, List.mem_cons_of_mem _ ho, hne⟩

theorem barren_all {xs : List (Activity σ α)} (hx : Barren x) (hmem : x ∈ xs) : Barren (all xs) := by
  intro w s
  obtain ⟨o, ho, hne⟩ := barren_branches hx hmem w.inner s
  rw [all]
  rcases hf : branches xs w.inner.unlimited s with ⟨free, t⟩
  simp only
  split
  · rintro _ ⟨⟩
  · intro as has
    obtain ⟨a, ha⟩ := exists_mapM_iff.1 ⟨as, has⟩ o ho
    exact hne a ha

theorem returns_pure {R : α → Prop} {a : α} (h : R a) :
    Gives (Returns R) (Activity.pure a : Activity σ α) := by
  rintro w s _ ⟨⟩
  exact h

theorem gives_attempt {R : Attempt α → Prop} (hx : Gives R x) : Gives (Holds R) (attempt x) :=
  fun w s => hx w s

theorem gives_both {R : Attempt α → Prop} {R' : Attempt β → Prop} (hx : Gives R x) (hy : Gives R' y) :
    Gives (Holds fun r => R r.1 ∧ R' r.2) (both x y) :=
  fun w s => ⟨hx w.inner s, hy w.inner _⟩

theorem fails_branches {xs : List (Activity σ α)} (h : ∀ x ∈ xs, Fails P x) (w : Window) (s : σ) :
    ∀ o ∈ (branches xs w s).1, Attempt.Fails P o.result := by
  induction xs generalizing s with
  | nil =>
    intro o ho
    cases ho
  | cons x xs ih =>
    intro o ho
    rcases List.mem_cons.1 ho with rfl | ho
    · exact h x List.mem_cons_self w s
    · exact ih (fun y hy => h y (List.mem_cons_of_mem _ hy)) _ o ho

theorem fails_all {xs : List (Activity σ α)} (h : ∀ x ∈ xs, Fails P x) : Fails P (all xs) := by
  intro w s
  have hfree := fails_branches h w.inner.unlimited s
  have hcut := fails_branches h w.inner s
  rw [all]
  rcases hf : branches xs w.inner.unlimited s with ⟨free, t⟩
  rw [hf] at hfree
  simp only
  split
  · next b hb =>
    apply fails_error
    obtain ⟨o, ho, he⟩ := List.mem_map.1 (firstBreak_mem (Option.eq_some_of_filter_eq_some hb))
    exact hfree o ho _ he
  · exact fails_mapM hcut

-- From here on the rules are all that is known of `Gives`, so that a goal is met by its rule.
attribute [irreducible] Gives

end Activity

/-- A failure that is told in general terms, or in words of its own that do not begin as those of the
deadline do. -/
inductive Failure.Ordinary : Failure → Prop
  | internal {e : Failure} (h : e.family? = none) (hd : e ≠ .deadlinePassed) : Ordinary e
  | told {e : Failure} (h : e.isIn .network || e.isIn .configuration)
      (hm : e.message.toList.head? ≠ some 't') : Ordinary e

namespace Failure

theorem ordinary_mismatch (k : Mismatch) : (mismatch k).Ordinary := .internal rfl nofun

theorem ordinary_numeral (r : Numeral.Refusal) : (numeral r).Ordinary := .internal rfl nofun

theorem ordinary_of_head {e : Failure} {c : Char} (h : e.isIn .network || e.isIn .configuration)
    (hc : e.message.toList.head? = some c) (ht : c ≠ 't') : e.Ordinary := by
  apply Ordinary.told h
  rw [hc]
  intro hm
  cases hm
  exact ht rfl

theorem head?_append {s : String} {c : Char} (h : s.toList.head? = some c) (t : String) :
    (s ++ t).toList.head? = some c := by
  rw [String.toList_append, List.head?_append, h]
  rfl

inductive Unanswered (operation : String) : Failure → Prop
  | late (limit : Duration) : Unanswered operation (.readTimedOut operation limit)
  | failed (reason : String) : Unanswered operation (.readFailed operation reason)

theorem Unanswered.ordinary {operation : String} {c : Char} (hc : operation.toList.head? = some c)
    (ht : c ≠ 't') {e : Failure} (h : Unanswered operation e) : e.Ordinary := by
  cases h with
  | late limit => exact ordinary_of_head rfl (head?_append (head?_append (head?_append hc _) _) _) ht
  | failed reason => exact ordinary_of_head rfl (head?_append (head?_append hc _) _) ht

end Failure

open Attempt Failure

variable {world : Script} {α : Type} {P : Failure → Prop} {a : Address}

theorem Json.fails_toInt (v : Json) : Fails Ordinary v.toInt := by
  cases v with
  | bool b => exact fails_ok _
  | int n => exact fails_ok _
  | real x =>
    cases x with
    | finite t u => exact fails_ok _
    | infinite t => exact fails_error (ordinary_mismatch _)
    | nan => exact fails_error (.internal rfl nofun)
  | str s =>
    change Fails _ ((Numeral.integer 10 s).mapError .numeral)
    cases Numeral.integer 10 s with
    | ok n => exact fails_ok _
    | error r => exact fails_error (ordinary_numeral r)
  | null => exact fails_error (ordinary_mismatch _)
  | arr items => exact fails_error (ordinary_mismatch _)
  | obj fields => exact fails_error (ordinary_mismatch _)

namespace Work

open Activity

theorem address_text (a : Address) : address (.str a.text) = Activity.pure a := by
  rw [address, Address.require_text]
  rfl

theorem fails_address {s : String} {a : Address} (h : Address.ofText? s = some a) :
    Activity.Fails P (address (.str s)) := by
  rw [address, Address.require_of_ofText? h]
  exact fails_pure a

theorem fails_record (c : Call) : Activity.Fails P (record c) :=
  fails_bind fails_now fun _ => fails_update _

theorem fails_failCounted {e : Failure} (h : P e) : Activity.Fails P (failCounted e : Work α) :=
  fails_bind (fails_update _) fun _ => fails_fail h

theorem fails_rpc (operation : String) (q : Query) :
    Activity.Fails (Unanswered operation) (rpc world operation q) := by
  apply fails_bind fails_inspect
  intro d
  apply fails_bind (fails_update _)
  intro _
  apply fails_bind (fails_record _)
  intro _
  change Activity.Fails _ (if _ then _ else _)
  split
  · apply fails_bind (fails_wait _)
    intro _
    apply fails_bind fails_takeUp
    intro _
    exact fails_failCounted (.late _)
  · apply fails_bind (fails_wait _)
    intro _
    apply fails_bind fails_takeUp
    intro _
    cases (world.entry q (d.trace.reads q.subject)).reply with
    | value a => exact fails_pure a
    | fault f =>
      apply fails_failCounted
      split
      · exact .late _
      · exact .failed _

theorem head?_explorerOperation (params : Keyed Json) :
    (explorerOperation params).toList.head? = some 'e' :=
  head?_append (head?_append (head?_append (by decide +kernel) _) _) _

theorem fails_accepted (params : Keyed Json) (payload : Json) :
    Attempt.Fails Ordinary (accepted (explorerOperation params) payload) := by
  have hunexpected : (Failure.unexpectedPayload (explorerOperation params)).Ordinary :=
    ordinary_of_head rfl (head?_append (head?_explorerOperation params) _) (by decide)
  cases payload with
  | obj fields =>
    change Attempt.Fails _ (if _ then _ else _)
    split
    · have hhead : ("Explorer API error - " : String).toList.head? = some 'E' := by decide +kernel
      exact fails_error (ordinary_of_head rfl (head?_append hhead _) (by decide))
    · exact fails_ok _
  | _ => exact fails_error hunexpected

theorem fails_explorerReplied (params : Keyed Json) (timeout : Duration) (reply : Reply Json) :
    Activity.Fails Ordinary (explorerReplied (explorerOperation params) timeout reply) := by
  have hhead := head?_explorerOperation params
  cases reply with
  | value payload =>
    have haccepted := fails_accepted params payload
    rw [explorerReplied]
    cases ha : accepted (explorerOperation params) payload with
    | ok v => exact fails_pure v
    | error e => exact fails_failCounted (haccepted e ha)
  | fault f =>
    obtain ⟨kind, message⟩ := f
    cases kind with
    | timeout => exact fails_failCounted (Unanswered.ordinary hhead (by decide) (.late timeout))
    | client => exact fails_failCounted (Unanswered.ordinary hhead (by decide) (.failed message))
    | value => exact fails_failCounted (Unanswered.ordinary hhead (by decide) (.failed message))
    | connection => exact fails_fail (.internal rfl nofun)
    | runtime => exact fails_fail (.internal rfl nofun)

theorem fails_openSession : Activity.Fails P openSession := by
  apply fails_bind fails_inspect
  intro d
  change Activity.Fails _ (if _ then _ else _)
  split
  · exact fails_bind (fails_record _) fun _ => fails_update _
  · exact fails_pure _

theorem fails_firstTransaction : Activity.Fails P (firstTransaction world (.str a.text)) :=
  fails_bind (fails_address (Address.ofText?_text a)) fun _ =>
    fails_bind_of_gives (gives_attempt gives_any) fun _ _ => fails_pure _

theorem fails_explorer (params : Keyed Json) : Activity.Fails Ordinary (explorer world params) := by
  apply fails_bind fails_openSession
  intro _
  apply fails_bind fails_inspect
  intro d
  apply fails_bind (fails_update _)
  intro _
  apply fails_bind (fails_record _)
  intro _
  apply fails_bind (fails_wait _)
  intro _
  exact fails_explorerReplied ..

end Work

end ChainRisk
