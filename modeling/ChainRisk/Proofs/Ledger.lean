import ChainRisk.Proofs.ExactReport
import ChainRisk.Proofs.ReadRuns

/-!
Which reads are issued. A client's ledger holds the reads that were issued so far and how many of them
the client counts; what a read is answered with follows from the ledger.
-/

namespace ChainRisk

def Trace.issued (t : Trace) : List Call := (t.map (·.2)).filter (·.subject?.isSome)

theorem Trace.issued_append (t u : Trace) : issued (t ++ u) = issued t ++ issued u := by
  rw [issued, List.map_append, List.filter_append]
  rfl

theorem Trace.countP_issued (t : Trace) (x : Subject) :
    t.issued.countP (·.subject? == some x) = t.reads x := by
  rw [issued, List.countP_filter, List.countP_map, reads]
  refine List.countP_congr fun e _ => ?_
  simp only [Function.comp_apply, beq_iff_eq, Bool.and_eq_true]
  refine ⟨fun h => h.1, fun h => ⟨h, ?_⟩⟩
  rw [h]
  rfl

structure Ledger where
  network : Network
  timeout : Duration
  issued : List Call
  total : Nat

def Desk.ledger (d : Desk) : Ledger := ⟨d.client.network, d.client.timeout, d.trace.issued, d.client.total⟩

namespace Ledger

variable {l : Ledger} {cs cs' : List Call}

def view (l : Ledger) : View := ⟨l.network, l.timeout, fun x => l.issued.countP (·.subject? == some x)⟩

theorem view_ledger (d : Desk) : d.ledger.view = d.view :=
  View.mk.injEq .. ▸ ⟨rfl, rfl, funext fun x => Trace.countP_issued d.trace x⟩

def after (cs : List Call) (l : Ledger) : Ledger :=
  { l with issued := cs.reverse ++ l.issued, total := l.total + cs.length }

@[simp] theorem after_network : (l.after cs).network = l.network := rfl

@[simp] theorem after_after : (l.after cs).after cs' = l.after (cs ++ cs') := by
  simp only [after, List.reverse_append, List.append_assoc, List.length_append, Nat.add_assoc]

theorem sameOn_after {p : Subject → Prop} (h : ∀ c ∈ cs, ∀ x, c.subject? = some x → ¬ p x) :
    View.SameOn p l.view (l.after cs).view := by
  refine ⟨rfl, rfl, fun x hx => ?_⟩
  have hnone : cs.reverse.countP (·.subject? == some x) = 0 := by
    rw [List.countP_eq_zero]
    intro c hc
    rw [beq_iff_eq]
    exact fun hcx => h c (List.mem_reverse.1 hc) x hcx hx
  change (cs.reverse ++ l.issued).countP _ = l.issued.countP _
  rw [List.countP_append, hnone, Nat.zero_add]

end Ledger

namespace Network

def asks (n : Network) (q : Query) : Call := .rpc (n.endpoint?.getD "") q

def looksUp (n : Network) (params : Keyed Json) : Call :=
  .explorer n.explorerUrl (Work.withKey params n.explorerKey)

theorem subject?_looksUp (n : Network) (params : Keyed Json) :
    (n.looksUp params).subject? = some (.ofParameters params) :=
  congrArg some (Subject.ofParameters_withKey params n.explorerKey)

theorem subject?_of_mem_asks {n : Network} {qs : List Query} {c : Call} (h : c ∈ qs.map n.asks) :
    ∃ q ∈ qs, c.subject? = some q.subject := by
  obtain ⟨q, hq, rfl⟩ := List.mem_map.1 h
  exact ⟨q, hq, rfl⟩

end Network

namespace Desk

theorem ledger_call_of_subject {c : Call} {x : Subject} (h : c.subject? = some x) (t : Instant) (d : Desk) :
    (d.countRequest.call t c).ledger = d.ledger.after [c] := by
  have hissued : Trace.issued ((t, c) :: d.trace) = c :: d.trace.issued := by
    rw [Trace.issued, List.map_cons, List.filter_cons_of_pos (by simp [h])]
    rfl
  change Ledger.mk _ _ (Trace.issued ((t, c) :: d.trace)) _ = _
  rw [hissued]
  rfl

theorem ledger_counted {α : Type} (r : Attempt α) (d : Desk) : (d.counted r).ledger = d.ledger :=
  same_counted ledger (fun _ => rfl) r d

theorem ledger_inSession (t : Instant) (d : Desk) : (d.inSession t).ledger = d.ledger := by
  unfold inSession
  split <;> rfl

end Desk

namespace Work

open Activity

variable {α : Type} {world : Script} {survey : Survey} {l : Ledger} {v : View} {owner a : Address} {t : String}

abbrev Books (x : Work α) (l : Ledger) (Q : Attempt α → Ledger → Prop) : Prop :=
  Activity.Yields Desk.ledger x l Q

theorem books_of_yields {x : Work α} {P : Attempt α → View → Prop} {Q : Attempt α → Ledger → Prop}
    (hx : Yields x l.view P) (h : Books x l fun r u => P r u.view → Q r u) : Books x l Q :=
  yields_refine Ledger.view_ledger hx h

theorem books_rpc {operation : String} {q : Query} {Q : Attempt q.Answer → Ledger → Prop}
    (h : ∀ r, Q r (l.after [l.network.asks q])) : Books (rpc world operation q) l Q := by
  refine yields_of_run fun m d hd => ?_
  subst hd
  obtain ⟨-, -, hstate⟩ := rpc_run world operation q ⟨m, none⟩ d
  rw [hstate rfl, Desk.ledger_counted, Desk.ledger_call_of_subject rfl]
  exact h _

theorem books_explorer {params : Keyed Json} {Q : Attempt Json → Ledger → Prop}
    (h : ∀ r, Q r (l.after [l.network.looksUp params])) : Books (explorer world params) l Q := by
  refine yields_of_run fun m d hd => ?_
  subst hd
  obtain ⟨-, -, hstate⟩ := explorer_run world params ⟨m, none⟩ d
  have hcall := Desk.ledger_call_of_subject (d.client.network.subject?_looksUp params) m.instant
    (d.inSession m.instant)
  rw [Desk.ledger_inSession] at hcall
  rw [hstate rfl, Desk.ledger_counted]
  exact (congrArg (Q _) hcall).mpr (h _)

theorem books_orStandIn {standIn : α} {r : Attempt α} {Q : Attempt α → Ledger → Prop}
    (h : ∀ x, Q (.ok x) l) : Books (orStandIn standIn r) l Q := by
  cases r with
  | ok x => exact yields_pure (h x)
  | error e =>
    apply yields_bind
    refine yields_update (fun _ hd => hd) ?_
    exact yields_pure (h standIn)

theorem books_granted {m : TokenMetadata} {answers : List (String × Attempt Int)}
    {Q : Attempt (List Allowance) → Ledger → Prop} (h : ∀ r, Q r l) :
    Books (granted survey t m answers) l Q := by
  induction answers generalizing Q with
  | nil => exact yields_pure (h _)
  | cons answer rest ih =>
    obtain ⟨spender, answer⟩ := answer
    have hrest (found : List Allowance) : Books (granted survey t m rest >>= fun later =>
        Activity.pure (found ++ later)) l Q := by
      refine yields_bind (ih fun r => ?_)
      cases r with
      | ok later => exact yields_pure (h _)
      | error e => exact h _
    apply yields_bind
    refine books_orStandIn fun amount => ?_
    change Activity.Yields _ (if amount ≤ 0 then _ else _) _ _
    split
    · exact yields_bind (yields_pure (hrest []))
    · refine yields_bind (yields_ofAttempt ?_)
      generalize (Allowance.make _ _ _ _ _ _ _).map _ = made
      cases made with
      | ok found => exact hrest found
      | error e => exact h _

def metadataQueries (a : Address) : List Query :=
  [.tokenField a .symbol, .tokenField a .name, .tokenField a .decimals]

theorem books_metadata {Q : Attempt TokenMetadata → Ledger → Prop} (ht : Address.ofText? t = some a)
    (h : ∀ r, Q r (l.after ((metadataQueries a).map l.network.asks))) :
    Books (metadata world (.str t)) l Q := by
  apply yields_bind
  apply yields_address ht
  apply yields_bind
  apply yields_all
  refine books_rpc fun symbol => books_rpc fun name => books_rpc fun decimals r _ => ?_
  simp only [Ledger.after_after, Ledger.after_network]
  cases r with
  | error e => exact h _
  | ok fields =>
    rcases fields with _ | ⟨symbol, _ | ⟨name, _ | ⟨decimals, _ | ⟨more, rest⟩⟩⟩⟩
    · exact yields_fail (h _)
    · exact yields_fail (h _)
    · exact yields_fail (h _)
    · refine yields_bind (yields_ofAttempt ?_)
      cases decimals.toInt with
      | ok n => exact yields_pure (h _)
      | error e => exact h _
    · exact yields_fail (h _)

theorem books_discovered {fromBlock : Json} {Q : Attempt (List String) → Ledger → Prop}
    (ht : Address.ofText? t = some a) (hv : View.SameOn (· = .logs a) v l.view)
    (h : Q (world.tokenSpenders v survey.spenders owner a)
      (l.after [l.network.asks (.logs a fromBlock owner)])) :
    Books (discovered world survey t owner.text fromBlock) l Q := by
  have hlogs : Yields (rpc world (a.text ++ " Approval logs") (.logs a fromBlock owner)) l.view fun r _ =>
      r.toOption = world.tokenLogs v owner a ∧ ∀ e, r = .error e → e.isIn .network = true :=
    yields_seen hv fun r hr hnet => ⟨hr, hnet⟩
  have hask (P : Attempt (Option (List Log)) → Ledger → Prop) (hP : ∀ r, r.toOption = world.tokenLogs v owner a →
      (∀ e, r = .error e → e.isIn .network = true) → P r (l.after [l.network.asks (.logs a fromBlock owner)])) :
      Books (rpc world (a.text ++ " Approval logs") (.logs a fromBlock owner)) l P :=
    books_of_yields hlogs (books_rpc fun r hr => hP r hr.1 hr.2)
  exact yields_discovered_through ht hask (fun _ hd => hd) (by rwa [ite_self])

theorem books_allowance {s : String} {Q : Attempt Int → Ledger → Prop} (ht : Address.ofText? t = some a)
    (h : ∀ r, Q r (l.after (((Address.ofText? s).toList.map (.allowance a owner)).map l.network.asks))) :
    Books (allowance world (.str t) (.str owner.text) (.str s)) l Q := by
  apply yields_bind
  apply yields_address ht
  apply yields_bind
  apply yields_address (Address.ofText?_text owner)
  cases hs : Address.ofText? s with
  | none =>
    rw [hs] at h
    exact yields_badAddress hs (h _)
  | some b =>
    rw [hs] at h
    apply yields_bind
    apply yields_address hs
    apply yields_bind
    refine books_rpc fun r => ?_
    cases r with
    | ok answer => exact yields_ofAttempt (h _)
    | error e => exact h _

theorem booksEach_allowance {found : List String} {Q : List (Attempt Int) → Ledger → Prop}
    (ht : Address.ofText? t = some a)
    (h : ∀ rs, Q rs (l.after (((found.filterMap Address.ofText?).map (.allowance a owner)).map l.network.asks))) :
    YieldsEach Desk.ledger (found.map fun s => allowance world (.str t) (.str owner.text) (.str s)) l Q := by
  -- each spender adds its own read, if it is an address, to those of the spenders before it
  induction found generalizing l Q with
  | nil => exact h []
  | cons s found ih =>
    refine books_allowance ht fun r => ih fun rs => ?_
    have hrest := h (r :: rs)
    rw [Ledger.after_after, Ledger.after_network, ← List.map_append, ← List.map_append]
    convert hrest using 5
    cases hs : Address.ofText? s with
    | none => simp [hs]
    | some b => simp [hs]

def tokenQueries (owner a : Address) (fromBlock : Json) (found : List String) : List Query :=
  metadataQueries a ++ .logs a fromBlock owner :: (found.filterMap Address.ofText?).map (.allowance a owner)

/-- The reads that the work on a token issues. Nothing is read of a text that is no address, and no
allowances are read when the logs cannot be made out. -/
def queriesOf (world : Script) (v : View) (known : SpenderTable) (owner : Address) (fromBlock : Json)
    (t : String) : List Query :=
  match Address.ofText? t with
  | some a => tokenQueries owner a fromBlock ((world.tokenSpenders v known owner a).toOption.getD [])
  | none => []

theorem queriesOf_of_ofText? {known : SpenderTable} {fromBlock : Json} (ht : Address.ofText? t = some a) :
    queriesOf world v known owner fromBlock t =
      tokenQueries owner a fromBlock ((world.tokenSpenders v known owner a).toOption.getD []) := by
  rw [queriesOf, ht]

theorem books_ofToken {fromBlock : Json} {Q : Attempt (List Allowance) → Ledger → Prop}
    (hv : ∀ a, Address.ofText? t = some a → View.SameOn (· = .logs a) v l.view)
    (h : ∀ r, (∀ found, r = .ok found → world.Sound v owner t) →
      Q r (l.after ((queriesOf world v survey.spenders owner fromBlock t).map l.network.asks))) :
    Books (ofToken world survey owner.text fromBlock t) l Q := by
  cases ht : Address.ofText? t with
  | none =>
    rw [queriesOf, ht] at h
    exact yields_badToken ht (fun _ hd => hd) (h _ nofun)
  | some a =>
    rw [queriesOf_of_ofText? ht] at h
    apply yields_bind
    apply yields_both
    refine books_metadata ht fun m => ?_
    have hlogs : View.SameOn (· = .logs a) v (l.after ((metadataQueries a).map l.network.asks)).view := by
      refine (hv a ht).trans (Ledger.sameOn_after ?_)
      rintro c hc x hx rfl
      obtain ⟨q, hq, hsubject⟩ := Network.subject?_of_mem_asks hc
      simp only [metadataQueries, List.mem_cons, List.not_mem_nil, or_false] at hq
      rcases hq with rfl | rfl | rfl <;> cases hx.symm.trans hsubject
    refine books_discovered ht hlogs ?_
    apply yields_bind
    refine books_orStandIn fun m => ?_
    apply yields_bind
    apply yields_ofAttempt
    simp only [Ledger.after_after, Ledger.after_network]
    cases hs : world.tokenSpenders v survey.spenders owner a with
    | error e =>
      rw [hs] at h
      exact h _ nofun
    | ok found =>
      have hsound := Script.sound_of_tokenSpenders ht hs
      rw [hs] at h
      apply yields_bind
      apply yields_each
      refine booksEach_allowance ht fun amounts => books_granted fun r => ?_
      have hqueries : (tokenQueries owner a fromBlock found).map l.network.asks =
          ((metadataQueries a).map l.network.asks ++ [l.network.asks (.logs a fromBlock owner)]) ++
            ((found.filterMap Address.ofText?).map (.allowance a owner)).map l.network.asks := by
        simp [tokenQueries]
      rw [Ledger.after_after, Ledger.after_network, ← hqueries]
      exact h r fun _ _ => hsound

end Work

end ChainRisk
