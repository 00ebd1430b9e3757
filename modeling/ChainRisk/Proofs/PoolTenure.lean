import ChainRisk.Proofs.Operations
import ChainRisk.Proofs.UsableSettings
import Mathlib.Data.List.Nodup

namespace ChainRisk

def Client.released (c : Client) : Client := { c with session := .absent }

theorem Desk.client_outOfSession (t : Instant) (d : Desk) : (d.outOfSession t).client = d.client.released := by
  unfold outOfSession
  split <;> rfl

theorem Desk.trace_outOfSession (t : Instant) (d : Desk) : (d.outOfSession t).trace =
    if d.client.session = .own then (t, .closeSession) :: d.trace else d.trace := by
  unfold outOfSession
  split <;> rfl

def Desk.SameNetwork (d d' : Desk) : Prop := d'.client.network = d.client.network

instance : IsPreorder Desk Desk.SameNetwork where
  refl _ := rfl
  trans _ _ _ h h' := h'.trans h

theorem Desk.steps_sameNetwork : Steps SameNetwork where
  read _ _ _ _ := rfl
  inSession t d := (d.inSession_client t).1
  countRequest _ := rfl
  countFailure _ := rfl
  countDegraded _ := rfl
  recordRun _ _ _ := rfl

namespace Pool

open Activity

variable {α : Type} {x : Work α} {p : Pool} {base i : Nat} {n : Network}

def tenants (base : Nat) (p : Pool) : List Network := (p.made.map (·.network)).drop base

/-- Since the clients below `base` were closed, each client that was made is that of its network's name. -/
structure Tenure (base : Nat) (p : Pool) : Prop where
  le : base ≤ p.made.length
  current : p.current = (p.tenants base).mapIdx fun k n => (n.name, base + k)
  names : ((p.tenants base).map (·.name)).Nodup

theorem getElem?_tenants (hi : base ≤ i) (p : Pool) :
    (p.tenants base)[i - base]? = p.made[i]?.map (·.network) := by
  rw [tenants, List.getElem?_drop, Nat.add_sub_cancel' hi, List.getElem?_map]

theorem tenants_length (p : Pool) : p.tenants p.made.length = [] := by
  rw [tenants, List.drop_eq_nil_iff]
  exact Nat.le_of_eq (List.length_map ..)

theorem tenants_insert (h : base ≤ p.made.length) (n : Network) {c : Client} (t : Instant) (call : Call) :
    (p.insert n c t call).tenants base = p.tenants base ++ [c.network] := by
  rw [tenants, Pool.insert, List.map_append, List.drop_append_of_le_length (by simpa using h)]
  rfl

theorem tenure_of_current (h : p.current = []) : Tenure p.made.length p := by
  refine ⟨Nat.le_refl _, ?_, ?_⟩
  · rw [h, tenants_length]
    rfl
  · rw [tenants_length]
    exact List.nodup_nil

namespace Tenure

theorem keys (h : Tenure base p) : Keyed.keys p.current = (p.tenants base).map (·.name) := by
  rw [Keyed.keys, h.current]
  apply List.ext_getElem?
  intro k
  simp only [List.getElem?_map, List.getElem?_mapIdx, Option.map_map]
  rfl

theorem numbers (h : Tenure base p) : p.current.map (·.2) = List.range' base (p.made.length - base) := by
  have hlength : (p.tenants base).length = p.made.length - base := by
    rw [tenants, List.length_drop, List.length_map]
  rw [h.current, ← hlength]
  apply List.ext_getElem?
  intro k
  by_cases hk : k < (p.tenants base).length
  · simp [hk]
  · simp [hk]

theorem sound (h : Tenure base p) : p.Sound := by
  intro e he
  have hmem : e.2 ∈ p.current.map (·.2) := List.mem_map_of_mem he
  rw [h.numbers, List.mem_range'_1] at hmem
  have := h.le
  omega

theorem mem_current_iff (h : Tenure base p) {name : String} :
    (name, i) ∈ p.current ↔ base ≤ i ∧ ∃ c, p.made[i]? = some c ∧ c.network.name = name := by
  rw [h.current, List.mem_iff_getElem?]
  simp only [List.getElem?_mapIdx, tenants, List.getElem?_drop, List.getElem?_map, Option.map_map]
  constructor
  · rintro ⟨k, hk⟩
    obtain ⟨c, hc, heq⟩ := Option.map_eq_some_iff.1 hk
    cases heq
    exact ⟨Nat.le_add_right base k, c, hc, rfl⟩
  · rintro ⟨hle, c, hc, rfl⟩
    refine ⟨i - base, ?_⟩
    rw [Nat.add_sub_cancel' hle, hc]
    rfl

theorem eq_of_name (h : Tenure base p) {j : Nat} {c c' : Client} (hi : base ≤ i) (hj : base ≤ j)
    (hc : p.made[i]? = some c) (hc' : p.made[j]? = some c') (hname : c.network.name = c'.network.name) :
    i = j := by
  have hnames {k : Nat} {c : Client} (hk : base ≤ k) (hc : p.made[k]? = some c) :
      ((p.tenants base).map (·.name))[k - base]? = some c.network.name := by
    rw [List.getElem?_map, getElem?_tenants hk, hc]
    rfl
  have hlt := (List.getElem?_eq_some_iff.1 (hnames hi hc)).1
  have heq := (List.getElem?_inj hlt h.names).1 ((hnames hi hc).trans (hname ▸ (hnames hj hc').symm))
  omega

theorem get?_of_name (h : Tenure base p) {c : Client} (hi : base ≤ i) (hc : p.made[i]? = some c)
    (hname : c.network.name = n.name) : Keyed.get? n.name p.current = some i := by
  have hmem : (n.name, i) ∈ p.current := h.mem_current_iff.2 ⟨hi, c, hc, hname⟩
  cases hget : Keyed.get? n.name p.current with
  | none => exact absurd (List.mem_map_of_mem hmem) (Keyed.get?_eq_none_iff.1 hget)
  | some j =>
    obtain ⟨hj, c', hc', hname'⟩ := h.mem_current_iff.1 (Keyed.mem_of_get? hget)
    rw [h.eq_of_name hj hi hc' hc (hname'.trans hname.symm)]

theorem congr {q : Pool} (h : Tenure base p) (hmade : q.made.map (·.network) = p.made.map (·.network))
    (hcurrent : q.current = p.current) : Tenure base q := by
  have htenants : q.tenants base = p.tenants base := by rw [tenants, tenants, hmade]
  have hlength : q.made.length = p.made.length := by
    rw [← List.length_map (f := (·.network)), hmade, List.length_map]
  exact ⟨hlength ▸ h.le, by rw [hcurrent, htenants, h.current], htenants ▸ h.names⟩

theorem insert (h : Tenure base p) {c : Client} (hc : c.network = n) (hnone : Keyed.get? n.name p.current = none)
    (t : Instant) (call : Call) : Tenure base (p.insert n c t call) := by
  have htenants : (p.insert n c t call).tenants base = p.tenants base ++ [n] := by rw [tenants_insert h.le, hc]
  have hlength : (p.tenants base).length = p.made.length - base := by
    rw [tenants, List.length_drop, List.length_map]
  have hle := h.le
  refine ⟨?_, ?_, ?_⟩
  · rw [Pool.insert, List.length_append]
    omega
  · rw [htenants, List.mapIdx_concat, hlength, Nat.add_sub_cancel' hle, ← h.current]
    exact Keyed.put_of_get?_eq_none hnone _
  · rw [Keyed.get?_eq_none_iff, h.keys] at hnone
    rw [htenants, List.map_append, List.nodup_append]
    refine ⟨h.names, List.nodup_singleton _, fun name hname name' hname' heq => hnone ?_⟩
    have hsame : name' = n.name := List.mem_singleton.1 hname'
    rwa [heq, hsame] at hname

end Tenure

theorem work_state (i : Nat) (x : Work α) (w : Window) (p : Pool) : (work i x w p).2 =
    match p.made[i]? with
    | some c => p.withDesk i (x w (p.desk c)).2
    | none => p := by
  rw [work]
  cases p.made[i]? <;> rfl

theorem networks_work (hx : Respects Desk.SameNetwork x) (i : Nat) (w : Window) (p : Pool) :
    (work i x w p).2.made.map (·.network) = p.made.map (·.network) := by
  rw [work_state]
  split
  · next c hc =>
    have hnetwork : (x w (p.desk c)).2.client.network = c.network := hx w (p.desk c)
    have hget : (p.made.map (·.network))[i]? = some c.network := by
      rw [List.getElem?_map, hc]
      rfl
    obtain ⟨hi, heq⟩ := List.getElem?_eq_some_iff.1 hget
    rw [withDesk, List.map_set, hnetwork, ← heq]
    exact List.set_getElem_self hi
  · rfl

theorem current_work (i : Nat) (x : Work α) (w : Window) (p : Pool) : (work i x w p).2.current = p.current := by
  rw [work_state]
  split <;> rfl

theorem respects_tenure_work (hx : Respects Desk.SameNetwork x) (i : Nat) :
    Respects (Carries (Tenure base)) (work i x) :=
  fun w p h => h.congr (networks_work hx i w p) (current_work i x w p)

theorem tenure_getBy (f : ClientFactory) (n : Network) (w : Window) (h : Tenure base p) :
    Tenure base (getBy f n w p).2 := by
  rcases getBy_cases f n w p with hp | ⟨c, call, hnone, hmake, hp⟩
  · rw [hp]
    exact h
  · rw [hp]
    exact h.insert (f.network_of_make hmake) hnone _ call

def closings (t : Instant) (cs : List Client) : Trace :=
  List.replicate (cs.countP fun c => decide (c.session = .own)) (t, .closeSession)

theorem closings_cons (t : Instant) (c : Client) (cs : List Client) (trace : Trace) :
    closings t (c :: cs) ++ trace = closings t cs ++ (closings t [c] ++ trace) := by
  by_cases hown : c.session = .own
  · simp [closings, hown, List.replicate_succ']
  · simp [closings, hown]

theorem close_one {c : Client} {earlier later : List Client} (h : p.made = earlier ++ c :: later) (m : Moment) :
    (work earlier.length Work.closeSession ⟨m, none⟩ p).1.result = .ok () ∧
      (work earlier.length Work.closeSession ⟨m, none⟩ p).1.ends = m ∧
      (work earlier.length Work.closeSession ⟨m, none⟩ p).2 =
        { p with made := earlier ++ c.released :: later, trace := closings m.instant [c] ++ p.trace } := by
  have hc : p.made[earlier.length]? = some c := by simp [h]
  obtain ⟨hresult, hends, hstate⟩ := Work.closeSession_run ⟨m, none⟩ (p.desk c)
  refine ⟨by rw [work_result hc, hresult], by rw [work_result hc, hends], ?_⟩
  have hset (c' : Client) : p.made.set earlier.length c' = earlier ++ c' :: later := by simp [h]
  have htrace : ((p.desk c).outOfSession m.instant).trace = closings m.instant [c] ++ p.trace := by
    rw [Desk.trace_outOfSession]
    by_cases hown : c.session = .own
    · simp [closings, desk, hown]
    · simp [closings, desk, hown]
  rw [work_state, hc]
  simp only [hstate, Window.reaches, if_true, withDesk, hset, htrace, Desk.client_outOfSession]
  rfl

theorem closeEach_range' (m : Moment) {earlier later : List Client} (h : p.made = earlier ++ later) :
    (closeEach (List.range' earlier.length later.length) ⟨m, none⟩ p).1.result = .ok () ∧
      (closeEach (List.range' earlier.length later.length) ⟨m, none⟩ p).2 = { p with
        made := earlier ++ later.map Client.released
        trace := closings m.instant later ++ p.trace } := by
  -- on the clients that are still open: one that is closed joins those before it
  induction later generalizing earlier p with
  | nil =>
    refine ⟨rfl, ?_⟩
    rw [List.map_nil, ← h]
    rfl
  | cons c later ih =>
    obtain ⟨hresult, hends, hstate⟩ := close_one h m
    have hlength : earlier.length + 1 = (earlier ++ [c.released]).length := by simp
    have hmade : (work earlier.length Work.closeSession ⟨m, none⟩ p).2.made =
        (earlier ++ [c.released]) ++ later := by simp [hstate]
    have hstep : closeEach (List.range' earlier.length (c :: later).length) =
        work earlier.length Work.closeSession >>= fun _ =>
          closeEach (List.range' (earlier ++ [c.released]).length later.length) := by
      rw [List.length_cons, List.range'_succ, hlength]
      rfl
    obtain ⟨hrest, hleft⟩ := ih hmade
    rw [hstep, bind_of_ok hresult, hends]
    refine ⟨hrest, hleft.trans ?_⟩
    rw [hstate, closings_cons m.instant c later]
    simp

theorem close_run (h : Tenure base p) (m : Moment) : (close ⟨m, none⟩ p).1.result = .ok () ∧
    (close ⟨m, none⟩ p).2 = { p with
      made := p.made.take base ++ (p.made.drop base).map Client.released
      current := []
      trace := closings m.instant (p.made.drop base) ++ p.trace } := by
  have hrange : p.current.map (·.2) = List.range' (p.made.take base).length (p.made.drop base).length := by
    rw [h.numbers, List.length_drop, List.length_take, Nat.min_eq_left h.le]
  obtain ⟨hresult, hstate⟩ := closeEach_range' m (List.take_append_drop base p.made).symm
  rw [← hrange] at hresult hstate
  refine ⟨close_result h.sound _, (state_bind_of_ok (x := inspect) rfl).trans ?_⟩
  refine (state_bind_of_ok hresult).trans ?_
  rw [hstate]
  rfl

inductive Step
  | get (f : ClientFactory) (n : Network)
  | use (i : Nat) (u : ClientUse)
  | close

namespace Step

def run (world : Script) : Step → Activity Pool Unit
  | get f n => do
    let _ ← attempt (Pool.getBy f n)
    Activity.pure ()
  | use i u => Pool.work i (u.run world)
  | close => Pool.close

def Within (networks : NetworkTable) : Step → Prop
  | get _ n => n ∈ networks.toList
  | use _ _ => True
  | close => False

end Step

abbrev after (world : Script) (steps : List (Moment × Step)) (p : Pool) : Pool :=
  Activity.after (Step.run world) steps p

def given (world : Script) : List (Moment × Step) → Pool → List (Network × Attempt Nat)
  | [], _ => []
  | (m, .get f n) :: rest, p =>
    (n, (getBy f n ⟨m, none⟩ p).1.result) :: given world rest (Step.run world (.get f n) ⟨m, none⟩ p).2
  | (m, s) :: rest, p => given world rest (s.run world ⟨m, none⟩ p).2

def Bound (i : Nat) (n : Network) (p : Pool) : Prop := p.made[i]?.map (·.network) = some n

theorem bound_iff : Bound i n p ↔ ∃ c, p.made[i]? = some c ∧ c.network = n := Option.map_eq_some_iff

theorem respects_bound_getBy (f : ClientFactory) (n' : Network) : Respects (Carries (Bound i n)) (getBy f n') := by
  intro w p h
  obtain ⟨c, hc, hn⟩ := bound_iff.1 h
  rcases getBy_cases f n' w p with hp | ⟨c', call, -, -, hp⟩
  · rwa [hp]
  · rw [hp]
    exact bound_iff.2 ⟨c, List.getElem?_append_left (List.getElem?_eq_some_iff.1 hc).1 ▸ hc, hn⟩

theorem respects_bound_work (hx : Respects Desk.SameNetwork x) (j : Nat) :
    Respects (Carries (Bound i n)) (work j x) := by
  intro w p h
  rw [Bound, ← List.getElem?_map] at h ⊢
  rwa [networks_work hx]

structure Serves (networks : NetworkTable) (base : Nat) (p : Pool) : Prop extends Tenure base p where
  listed : ∀ n ∈ p.tenants base, n ∈ networks.toList

namespace Serves

variable {networks : NetworkTable} {c : Client}

theorem of_current (networks : NetworkTable) (h : p.current = []) : Serves networks p.made.length p := by
  refine ⟨tenure_of_current h, fun n hn => ?_⟩
  rw [tenants_length] at hn
  cases hn

theorem eq_of_name (h : Serves networks base p) (hnames : (networks.toList.map (·.name)).Nodup)
    (hn : n ∈ networks.toList) (hi : base ≤ i) (hc : p.made[i]? = some c) (hname : c.network.name = n.name) :
    c.network = n := by
  have hmem : c.network ∈ p.tenants base := by
    apply List.mem_of_getElem? (i := i - base)
    rw [getElem?_tenants hi, hc]
    rfl
  exact List.inj_on_of_nodup_map hnames (h.listed _ hmem) hn hname

theorem after_getBy (h : Serves networks base p) (f : ClientFactory) (hn : n ∈ networks.toList) (w : Window) :
    Serves networks base (getBy f n w p).2 := by
  refine ⟨tenure_getBy f n w h.toTenure, ?_⟩
  rcases getBy_cases f n w p with hp | ⟨c, call, -, hmake, hp⟩
  · rw [hp]
    exact h.listed
  · rw [hp, tenants_insert h.le, f.network_of_make hmake]
    intro n' hn'
    rcases List.mem_append.1 hn' with hn' | hn'
    · exact h.listed n' hn'
    · rwa [List.mem_singleton.1 hn']

theorem after_work (h : Serves networks base p) (hx : Respects Desk.SameNetwork x) (i : Nat) (w : Window) :
    Serves networks base (work i x w p).2 := by
  refine ⟨respects_tenure_work hx i w p h.toTenure, ?_⟩
  rw [tenants, networks_work hx]
  exact h.listed

theorem bound_of_result (h : Serves networks base p) (hnames : (networks.toList.map (·.name)).Nodup)
    {f : ClientFactory} (hn : n ∈ networks.toList) {m : Moment} (hi : (getBy f n ⟨m, none⟩ p).1.result = .ok i) :
    base ≤ i ∧ Bound i n (getBy f n ⟨m, none⟩ p).2 := by
  rw [getBy_result] at hi
  rw [getBy_state]
  cases hget : Keyed.get? n.name p.current with
  | some j =>
    rw [hget] at hi
    cases hi
    obtain ⟨hle, c, hc, hname⟩ := h.mem_current_iff.1 (Keyed.mem_of_get? hget)
    exact ⟨hle, bound_iff.2 ⟨c, hc, h.eq_of_name hnames hn hle hc hname⟩⟩
  | none =>
    rw [hget] at hi
    cases hmake : f.make n p.timeout with
    | error e =>
      rw [hmake] at hi
      cases hi
    | ok made =>
      rw [hmake] at hi
      cases hi
      refine ⟨h.le, bound_iff.2 ⟨made.1, ?_, f.network_of_make hmake⟩⟩
      exact List.getElem?_concat_length

theorem get?_eq_none (h : Serves networks base p) (hnew : ∀ c ∈ p.made.drop base, c.network.name ≠ n.name) :
    Keyed.get? n.name p.current = none := by
  rw [Keyed.get?_eq_none_iff, h.keys]
  intro hmem
  obtain ⟨n', hn', hname⟩ := List.mem_map.1 hmem
  rw [tenants, ← List.map_drop] at hn'
  obtain ⟨c, hc, rfl⟩ := List.mem_map.1 hn'
  exact hnew c hc hname

end Serves

section

variable {world : Script} {networks : NetworkTable}

theorem serves_run (m : Moment) (s : Step) (p : Pool) (hs : s.Within networks) (h : Serves networks base p) :
    Serves networks base (s.run world ⟨m, none⟩ p).2 := by
  cases s with
  | get f n => exact h.after_getBy f hs _
  | use i u => exact h.after_work (u.respects_run Desk.steps_sameNetwork) i _
  | close => exact hs.elim

theorem bound_run (m : Moment) (s : Step) (p : Pool) (hs : s.Within networks) (h : Bound i n p) :
    Bound i n (s.run world ⟨m, none⟩ p).2 := by
  cases s with
  | get f n' => exact respects_bound_getBy f n' _ p h
  | use j u => exact respects_bound_work (u.respects_run Desk.steps_sameNetwork) j _ p h
  | close => exact hs.elim

theorem exists_tenure_run (m : Moment) (s : Step) (p : Pool) (h : ∃ base, Tenure base p) :
    ∃ base, Tenure base (s.run world ⟨m, none⟩ p).2 := by
  obtain ⟨base, h⟩ := h
  cases s with
  | get f n => exact ⟨base, tenure_getBy f n _ h⟩
  | use i u => exact ⟨base, respects_tenure_work (u.respects_run Desk.steps_sameNetwork) i _ p h⟩
  | close =>
    refine ⟨_, tenure_of_current ?_⟩
    exact congrArg (·.current) (close_run h m).2

theorem bound_of_given {steps : List (Moment × Step)} (hsteps : ∀ e ∈ steps, e.2.Within networks)
    (h : Serves networks base p) (hnames : (networks.toList.map (·.name)).Nodup)
    (hgiven : (n, .ok i) ∈ given world steps p) : base ≤ i ∧ Bound i n (after world steps p) := by
  -- on the steps: what one of them gives stays bound, whatever follows
  induction steps generalizing p with
  | nil => cases hgiven
  | cons e steps ih =>
    obtain ⟨m, s⟩ := e
    obtain ⟨hs, hrest⟩ := List.forall_mem_cons.1 hsteps
    have hnext : Serves networks base (s.run world ⟨m, none⟩ p).2 := serves_run m s p hs h
    cases s with
    | get f n' =>
      rcases List.mem_cons.1 hgiven with heq | hgiven
      · obtain ⟨rfl, hi⟩ := Prod.mk.inj heq
        obtain ⟨hle, hbound⟩ := h.bound_of_result hnames hs hi.symm
        exact ⟨hle, carries_after bound_run hrest hbound⟩
      · exact ih hrest hnext hgiven
    | use j u => exact ih hrest hnext hgiven
    | close => exact hs.elim

end

def Vacant (steps : List (Moment × Step)) : Prop := steps = [] ∨ ∃ earlier m, steps = earlier ++ [(m, .close)]

theorem current_after_of_vacant {steps : List (Moment × Step)} (h : Vacant steps) (world : Script)
    (networks : NetworkTable) (timeout : Duration) (trace : Trace) :
    (after world steps (empty networks timeout trace)).current = [] := by
  rcases h with rfl | ⟨earlier, m, rfl⟩
  · rfl
  · have hempty : ∃ base, Tenure base (empty networks timeout trace) := ⟨_, tenure_of_current rfl⟩
    obtain ⟨base, h⟩ := carries_after (W := fun _ => True) (fun m s p _ => exists_tenure_run m s p)
      (fun _ _ => trivial) hempty
    rw [after, after_append]
    exact congrArg (·.current) (close_run h m).2

theorem one_client_of_name (world : Script) {networks : NetworkTable}
    (hnames : (networks.toList.map (·.name)).Nodup) (timeout : Duration) (trace : Trace)
    {before since : List (Moment × Step)} (hbefore : Vacant before)
    (hsince : ∀ e ∈ since, e.2.Within networks) :
    let opened := after world before (empty networks timeout trace)
    let base := opened.made.length
    let p := after world since opened
    ((p.made.drop base).map (·.network.name)).Nodup ∧
    (∀ n i, (n, .ok i) ∈ given world since opened → base ≤ i ∧ Bound i n p) ∧
    (∀ n i n' i', (n, .ok i) ∈ given world since opened → (n', .ok i') ∈ given world since opened →
      (n.name = n'.name ↔ i = i')) ∧
    (∀ f n m i c, base ≤ i → p.made[i]? = some c → c.network.name = n.name →
      (getBy f n ⟨m, none⟩ p).1.result = .ok i ∧ (getBy f n ⟨m, none⟩ p).2 = p) ∧
    (∀ f n m, (∀ c ∈ p.made.drop base, c.network.name ≠ n.name) →
      (getBy f n ⟨m, none⟩ p).1.result = (f.make n p.timeout).map fun _ => p.made.length) ∧
    (∀ f n m e, (getBy f n ⟨m, none⟩ p).1.result = .error e →
      f.make n p.timeout = .error e ∧ (getBy f n ⟨m, none⟩ p).2 = p) ∧
    ∀ m, p.current.map (·.2) = List.range' base (p.made.length - base) ∧
      (close ⟨m, none⟩ p).1.result = .ok () ∧
      (close ⟨m, none⟩ p).2 = { p with
        made := p.made.take base ++ (p.made.drop base).map Client.released
        current := []
        trace := closings m.instant (p.made.drop base) ++ p.trace } ∧
      ∀ f n m', (getBy f n ⟨m', none⟩ (close ⟨m, none⟩ p).2).1.result =
        (f.make n p.timeout).map fun _ => p.made.length := by
  intro opened base p
  have hopened : Serves networks base opened :=
    .of_current networks (current_after_of_vacant hbefore world networks timeout trace)
  have h : Serves networks base p := carries_after serves_run hsince hopened
  have hgiven {n : Network} {i : Nat} (hi : (n, .ok i) ∈ given world since opened) : base ≤ i ∧ Bound i n p :=
    bound_of_given hsince hopened hnames hi
  refine ⟨?_, fun n i => hgiven, ?_, ?_, ?_, ?_, ?_⟩
  · have hnodup := h.names
    rwa [tenants, ← List.map_drop, List.map_map] at hnodup
  · intro n i n' i' hi hi'
    obtain ⟨hle, c, hc, rfl⟩ := (hgiven hi).imp_right bound_iff.1
    obtain ⟨hle', c', hc', rfl⟩ := (hgiven hi').imp_right bound_iff.1
    constructor
    · exact h.toTenure.eq_of_name hle hle' hc hc'
    · rintro rfl
      rw [Option.some.inj (hc.symm.trans hc')]
  · intro f n m i c hi hc hname
    rw [getBy_result, getBy_state, h.get?_of_name hi hc hname]
    exact ⟨rfl, rfl⟩
  · intro f n m hnew
    rw [getBy_result, h.get?_eq_none hnew]
  · exact fun f n m e => getBy_of_error
  · intro m
    obtain ⟨hresult, hstate⟩ := close_run h.toTenure m
    refine ⟨h.numbers, hresult, hstate, fun f n m' => ?_⟩
    have hlength : (p.made.take base ++ (p.made.drop base).map Client.released).length = p.made.length := by
      rw [List.length_append, List.length_map, ← List.length_append, List.take_append_drop]
    rw [getBy_result, hstate]
    simp only [hlength]
    rfl

theorem nodup_networks (s : Settings) : (s.networks.toList.map (·.name)).Nodup := by
  change [Network.mainName, Network.testName].Nodup
  decide +kernel

def plainTenure : List (Moment × Step) :=
  let n := (Settings.plain (.whole 30)).networks
  let m := Moment.ofInstant .start
  [(m, .get .standard n.main), (m, .use 0 (.operation .openSession)), (m, .use 1 (.operation .openSession)),
    (m, .get .standard n.test), (m, .get .standard n.main)]

theorem one_client_of_name_plainTenure :
    let n := (Settings.plain (.whole 30)).networks
    let m := Moment.ofInstant .start
    let before := plainTenure ++ [(m, .close)]
    let opened := after .quiet before (empty n (.whole 30) [])
    let p := after .quiet plainTenure opened
    Vacant before ∧ (∀ e ∈ plainTenure, e.2.Within n) ∧
    (given .quiet plainTenure opened).map (·.2.toOption) = [some 1, none, some 1] ∧
    p.made.map (·.session) = [.own, .own] ∧ p.current.map (·.2) = [1] ∧
    (close ⟨m, none⟩ p).2.made.map (·.session) = [.own, .absent] ∧
    (close ⟨m, none⟩ p).2.trace = (m.instant, .closeSession) :: p.trace := by
  intro n m before opened p
  have hvacant : Vacant before := .inr ⟨plainTenure, m, rfl⟩
  have hwithin : ∀ e ∈ plainTenure, e.2.Within n := by
    intro e he
    simp only [plainTenure, List.mem_cons, List.not_mem_nil, or_false] at he
    rcases he with rfl | rfl | rfl | rfl | rfl
    · exact List.mem_cons_self
    · trivial
    · trivial
    · exact List.mem_cons_of_mem _ List.mem_cons_self
    · exact List.mem_cons_self
  have hbase : opened.made.length = 1 := by decide +kernel
  have hmade : p.made.map (·.session) = [.own, .own] := by decide +kernel
  obtain ⟨-, -, -, -, -, -, hclose⟩ := one_client_of_name .quiet (nodup_networks (.plain (.whole 30)))
    (.whole 30) [] hvacant hwithin
  obtain ⟨hnumbers, -, hstate, -⟩ := hclose m
  have hlength : p.made.length = 2 := by simpa using congrArg List.length hmade
  obtain ⟨c, c', hp⟩ := List.length_eq_two.1 hlength
  rw [hp, List.map_cons, List.map_cons, List.map_nil] at hmade
  injection hmade with hc hmade
  injection hmade with hc'
  refine ⟨hvacant, hwithin, by decide +kernel, ?_, ?_, ?_, ?_⟩
  · rw [hp, List.map_cons, List.map_cons, hc, hc', List.map_nil]
  · rw [hnumbers, hlength, hbase]
    rfl
  · rw [hstate, hbase, hp]
    simp [Client.released, hc]
  · rw [hstate]
    change closings m.instant (p.made.drop opened.made.length) ++ p.trace = _
    rw [hbase, hp]
    simp [closings, hc']

end Pool

end ChainRisk
