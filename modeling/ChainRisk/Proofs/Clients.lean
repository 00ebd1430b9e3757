import ChainRisk.Chain.Pool
import ChainRisk.Proofs.Candidates
import ChainRisk.Proofs.Deadline
import ChainRisk.Proofs.Untimed

namespace ChainRisk

theorem Work.closeSession_result (w : Window) (d : Desk) : (closeSession w d).1.result = .ok () := by
  change (Activity.bind _ _ w d).1.result = _
  simp only [Activity.bind, Activity.inspect, Activity.pure]
  split
  · rfl
  · rfl

namespace Pool

open Activity

variable {p : Pool} {n : Network} {α : Type} {x : Activity Pool α}

def Sound (p : Pool) : Prop := ∀ e ∈ p.current, e.2 < p.made.length

theorem sound_empty (networks : NetworkTable) (timeout : Duration) (trace : Trace) :
    (empty networks timeout trace).Sound := fun _ he => by cases he

theorem sound_insert (n : Network) (c : Client) (t : Instant) (call : Call) (h : p.Sound) :
    (insert n c t call p).Sound := by
  intro e he
  rw [insert, List.length_append, List.length_singleton]
  rcases Keyed.mem_put he with rfl | he
  · exact Nat.lt_succ_self _
  · exact Nat.lt_succ_of_lt (h e he)

theorem getBy_result (f : ClientFactory) (n : Network) (w : Window) (p : Pool) : (getBy f n w p).1.result =
    match Keyed.get? n.name p.current with
    | some i => .ok i
    | none => (f.make n p.timeout).map fun _ => p.made.length := by
  change (Activity.bind _ _ w p).1.result = _
  simp only [Activity.bind, inspect, Activity.pure]
  cases Keyed.get? n.name p.current with
  | some i => rfl
  | none =>
    cases hc : f.make n p.timeout with
    | ok made => rfl
    | error e => rfl

theorem get_result (n : Network) (w : Window) (p : Pool) : (get n w p).1.result =
    match Keyed.get? n.name p.current with
    | some i => .ok i
    | none => (Client.connect n p.timeout false).map fun _ => p.made.length :=
  getBy_result .standard n w p

theorem prompt_get (n : Network) : Prompt (get n) := by
  apply prompt_bind prompt_inspect
  intro p
  split
  · exact prompt_pure _
  · apply prompt_bind (prompt_ofAttempt _)
    intro made
    apply prompt_bind prompt_now
    intro t
    exact prompt_bind (prompt_update _) fun _ => prompt_pure _

theorem getBy_state (f : ClientFactory) (n : Network) (w : Window) (p : Pool) : (getBy f n w p).2 =
    match Keyed.get? n.name p.current, f.make n p.timeout with
    | none, .ok (c, call) => if w.reaches w.start then insert n c w.start.instant call p else p
    | _, _ => p := by
  change (Activity.bind _ _ w p).2 = _
  simp only [Activity.bind, inspect, Activity.pure]
  cases Keyed.get? n.name p.current with
  | some i => rfl
  | none =>
    cases hc : f.make n p.timeout with
    | error e => rfl
    | ok made => rfl

theorem getBy_of_error {f : ClientFactory} {w : Window} {e : Failure}
    (h : (getBy f n w p).1.result = .error e) : f.make n p.timeout = .error e ∧ (getBy f n w p).2 = p := by
  rw [getBy_result] at h
  rw [getBy_state]
  cases hget : Keyed.get? n.name p.current with
  | some i =>
    rw [hget] at h
    cases h
  | none =>
    rw [hget] at h
    cases hmake : f.make n p.timeout with
    | ok made =>
      rw [hmake] at h
      cases h
    | error e' =>
      rw [hmake] at h
      cases h
      exact ⟨rfl, rfl⟩

theorem getBy_cases (f : ClientFactory) (n : Network) (w : Window) (p : Pool) : (getBy f n w p).2 = p ∨
    ∃ c call, Keyed.get? n.name p.current = none ∧ f.make n p.timeout = .ok (c, call) ∧
      (getBy f n w p).2 = insert n c w.start.instant call p := by
  rw [getBy_state]
  split
  · next c call hnone hmake =>
    split
    · exact .inr ⟨c, call, hnone, hmake, rfl⟩
    · exact .inl rfl
  · exact .inl rfl

theorem respects_get {R : Pool → Pool → Prop} [IsPreorder Pool R]
    (h : ∀ p n c t url timeout, Keyed.get? n.name p.current = none →
      Client.connect n p.timeout false = .ok (c, .connect url timeout) →
        R p (insert n c t (.connect url timeout) p)) (n : Network) : Respects R (get n) := by
  intro w p
  rw [get]
  rcases getBy_cases .standard n w p with hp | ⟨c, call, hnone, hmake, hp⟩
  · rw [hp]
    exact refl p
  · obtain ⟨-, url, whole, rfl⟩ := Client.eq_of_connect hmake
    rw [hp]
    exact h p n c _ url whole hnone hmake

theorem reads_get (n : Network) (w : Window) (p : Pool) : (get n w p).2.trace.reads = p.trace.reads := by
  rw [get]
  rcases getBy_cases .standard n w p with hp | ⟨c, call, -, hmake, hp⟩
  · rw [hp]
  · obtain ⟨-, url, whole, rfl⟩ := Client.eq_of_connect hmake
    rw [hp]
    rfl

theorem respects_sound_work (i : Nat) (x : Work α) : Respects (Carries Sound) (work i x) := by
  intro w p h
  rw [work]
  split
  · intro e he
    change e.2 < (p.made.set i _).length
    rw [List.length_set]
    exact h e he
  · exact h

theorem length_made_work (i : Nat) (x : Work α) (w : Window) (p : Pool) :
    (work i x w p).2.made.length = p.made.length := by
  rw [work]
  split
  · exact List.length_set ..
  · rfl

theorem work_result {i : Nat} {c : Client} (hc : p.made[i]? = some c) (x : Work α) (w : Window) :
    (work i x w p).1 = (x w (p.desk c)).1 := by
  rw [work, hc]

theorem closeEach_result {is : List Nat} (h : ∀ i ∈ is, i < p.made.length) (w : Window) :
    (closeEach is w p).1.result = .ok () := by
  induction is generalizing w p with
  | nil => rfl
  | cons i is ih =>
    have hi := h i List.mem_cons_self
    have hok : (work i Work.closeSession w p).1.result = .ok () := by
      rw [work_result (List.getElem?_eq_getElem hi)]
      exact Work.closeSession_result _ _
    change ((work i Work.closeSession >>= fun _ => closeEach is) w p).1.result = _
    rw [bind_of_ok hok]
    apply ih
    intro j hj
    rw [length_made_work]
    exact h j (List.mem_cons_of_mem _ hj)

theorem close_result (h : p.Sound) (w : Window) : (close w p).1.result = .ok () := by
  have hnumbers : ∀ i ∈ p.current.map (·.2), i < p.made.length := by
    intro i hi
    obtain ⟨e, he, rfl⟩ := List.mem_map.1 hi
    exact h e he
  refine (result_bind_of_ok (x := Activity.inspect) rfl).trans ?_
  refine (result_bind_of_ok (closeEach_result hnumbers _)).trans ?_
  rfl

section

variable {networks : NetworkTable} {timeout : Duration} {w : Window} {trace : Trace}
  (h : (x w (empty networks timeout trace)).2.Sound)

include h

theorem alone_result :
    (alone networks timeout x w trace).1.result = (x w (empty networks timeout trace)).1.result := by
  change ((attempt x >>= fun result => close >>= fun _ => ofAttempt result) w
    (empty networks timeout trace)).1.result = _
  refine (result_bind_of_ok (x := attempt x) rfl).trans ?_
  refine (result_bind_of_ok (close_result h _)).trans ?_
  cases (x w (empty networks timeout trace)).1.result <;> rfl

theorem alone_state : (alone networks timeout x w trace).2 =
    (close { w with start := (x w (empty networks timeout trace)).1.ends }
      (x w (empty networks timeout trace)).2).2.trace := by
  change ((attempt x >>= fun result => close >>= fun _ => ofAttempt result) w
    (empty networks timeout trace)).2.trace = _
  refine congrArg Pool.trace ((state_bind_of_ok (x := attempt x) rfl).trans ?_)
  refine (state_bind_of_ok (close_result h _)).trans ?_
  cases (x w (empty networks timeout trace)).1.result <;> rfl

end

end Pool

end ChainRisk
