import ChainRisk.Proofs.Spans
import ChainRisk.Proofs.SurveyRun

namespace ChainRisk

def Subject.IsOf (t : String) (x : Subject) : Prop :=
  ∃ a, Address.ofText? t = some a ∧ x.token? = some a

theorem Subject.isOf_of_require {t : String} {a : Address} {x : Subject} (h : Address.require (.str t) = .ok a)
    (hx : x.token? = some a) : x.IsOf t := by
  obtain ⟨s, hs, ha⟩ := Address.ofText?_of_require h
  cases hs
  exact ⟨a, ha, hx⟩

namespace Work

open Activity

variable {α : Type} {world : Script} {p q : Subject → Prop} {survey : Survey} {a : Address}

theorem Takes.mono {x : Work α} (h : Takes world p x) (hpq : ∀ y, p y → q y) : Takes world q x := by
  intro m d
  obtain ⟨hle, htimeout, new, hspans, hwithin⟩ := h m d
  exact ⟨hle, htimeout, new, hspans, fun r hr => ⟨hpq _ (hwithin r hr).1, (hwithin r hr).2⟩⟩

theorem fields_spans (world : Script) (a : Address) (fs : List TokenField) (m : Moment) (d : Desk) :
    let run := branches (fs.map (tokenField world a)) ⟨m, none⟩ d
    ∃ new, run.2.client.timeout = d.client.timeout ∧ run.2.spans world = new ++ d.spans world ∧
      (∀ r ∈ new, (∃ f, r.subject = .tokenField a f) ∧ r.starts = m.instant ∧
        ∃ o ∈ run.1, r.ends = o.ends.instant) ∧
      ∀ o ∈ run.1, m.instant ≤ o.ends.instant ∧ ∃ r ∈ new, (∃ f, r.subject = .tokenField a f) ∧
        r.starts = m.instant ∧ r.ends = o.ends.instant ∧ r.answered = Except.isOk o.result := by
  induction fs generalizing d with
  | nil => exact ⟨[], rfl, rfl, fun r hr => (List.not_mem_nil hr).elim, fun o ho => (List.not_mem_nil ho).elim⟩
  | cons f fs ih =>
    obtain ⟨hends, hanswered, htimeout, hspans⟩ :=
      rpc_spans world (a.text ++ "." ++ f.text ++ "()") (.tokenField a f) m d
    obtain ⟨new, htimeout', hspans', hreads, houtcomes⟩ := ih (tokenField world a f ⟨m, none⟩ d).2
    have hle : m.instant ≤ (tokenField world a f ⟨m, none⟩ d).1.ends.instant := by
      rw [tokenField, hends]
      exact Instant.le_after _ _
    refine ⟨new ++ [spanAt world d (.tokenField a f) m.instant], htimeout'.trans htimeout, ?_, ?_, ?_⟩
    · refine hspans'.trans ?_
      rw [tokenField, hspans, List.append_assoc]
      rfl
    · intro r hr
      rcases List.mem_append.1 hr with hr | hr
      · obtain ⟨hf, hstarts, o, ho, hr⟩ := hreads r hr
        exact ⟨hf, hstarts, o, List.mem_cons_of_mem _ ho, hr⟩
      · rw [List.mem_singleton.1 hr]
        exact ⟨⟨f, rfl⟩, rfl, _, List.mem_cons_self, hends.symm⟩
    · intro o ho
      rcases List.mem_cons.1 ho with rfl | ho
      · exact ⟨hle, _, List.mem_append_right _ List.mem_cons_self, ⟨f, rfl⟩, rfl, hends.symm, hanswered.symm⟩
      · obtain ⟨hle, r, hr, hrest⟩ := houtcomes o ho
        exact ⟨hle, r, List.mem_append_left _ hr, hrest⟩

theorem takes_fields (a : Address) (fs : List TokenField) :
    Takes world (fun x => ∃ f, x = .tokenField a f) (all (fs.map (tokenField world a))) := by
  intro m d
  obtain ⟨new, htimeout, hspans, hreads, houtcomes⟩ := fields_spans world a fs m.next d
  obtain ⟨hstate, hover⟩ := all_run (fs.map (tokenField world a)) m d
  rcases hover with ⟨_, -, -, hends⟩ | ⟨o, ho, e, hr, -, hends⟩
  · obtain ⟨hle, hlatest⟩ := instant_le_latest m (branches (fs.map (tokenField world a)) ⟨m.next, none⟩ d).1
    rw [hends, hstate]
    refine ⟨hle, htimeout, new, hspans, fun r hr => ?_⟩
    obtain ⟨hf, hstarts, o, ho, hover⟩ := hreads r hr
    exact ⟨hf, le_of_eq hstarts.symm, le_of_eq_of_le hstarts hle, .inl (le_of_eq_of_le hover (hlatest o ho))⟩
  · obtain ⟨hle, s, hs, ⟨g, hg⟩, hsstarts, hsends, hanswered⟩ := houtcomes o ho
    rw [hends, hstate]
    refine ⟨hle, htimeout, new, hspans, fun r hread => ?_⟩
    obtain ⟨⟨f, hf⟩, hstarts, -⟩ := hreads r hread
    refine ⟨⟨f, hf⟩, le_of_eq hstarts.symm, le_of_eq_of_le hstarts hle, ?_⟩
    rcases le_or_gt r.ends o.ends.instant with hrends | hrends
    · exact .inl hrends
    · have hfailed : s.answered = false := by
        rw [hanswered, hr]
        rfl
      exact .inr ⟨a, f, g, hf, s, hs, hg, hfailed, hsstarts.trans hstarts.symm, lt_of_eq_of_lt hsends hrends⟩

theorem takes_metadata (t : String) : Takes world (Subject.IsOf t) (metadata world (.str t)) := by
  rw [metadata]
  refine takes_address fun a ha => ?_
  have hfields : Takes world (Subject.IsOf t) (all [tokenField world a .symbol, tokenField world a .name,
      tokenField world a .decimals]) := by
    refine (takes_fields a [.symbol, .name, .decimals]).mono ?_
    rintro x ⟨f, rfl⟩
    exact Subject.isOf_of_require ha rfl
  refine takes_bind hfields fun fields => ?_
  split
  · exact takes_bind (takes_ofAttempt _) fun n => takes_pure _
  · exact takes_fail _

theorem takes_spenders (t : String) (owner fromBlock : Json) :
    Takes world (Subject.IsOf t) (spenders world (.str t) owner fromBlock) := by
  rw [spenders]
  refine takes_address fun a ha => takes_address fun o _ => ?_
  have hlogs : Subject.IsOf t (.logs a) := Subject.isOf_of_require ha rfl
  exact takes_bind (takes_rpc hlogs) fun logs => takes_ofAttempt _

theorem takes_discovered (t owner : String) (fromBlock : Json) :
    Takes world (Subject.IsOf t) (discovered world survey t owner fromBlock) := by
  refine takes_bind (takes_attempt (takes_spenders t _ fromBlock)) fun r => ?_
  cases r with
  | ok found => exact takes_pure _
  | error e =>
    change Takes _ _ (if _ then _ else _)
    split
    · exact takes_bind (takes_update (fun _ => rfl) fun _ => rfl) fun _ => takes_pure _
    · exact takes_fail e

theorem takes_allowance (t : String) (owner spender : Json) :
    Takes world (Subject.IsOf t) (allowance world (.str t) owner spender) := by
  rw [allowance]
  refine takes_address fun a ha => takes_address fun o _ => takes_address fun s _ => ?_
  have hallowance : Subject.IsOf t (.allowance a s) := Subject.isOf_of_require ha rfl
  exact takes_bind (takes_rpc hallowance) fun answer => takes_ofAttempt _

theorem takes_orStandIn (standIn : α) (r : Attempt α) : Takes world p (orStandIn standIn r) := by
  cases r with
  | ok a => exact takes_pure a
  | error e => exact takes_bind (takes_update (fun _ => rfl) fun _ => rfl) fun _ => takes_pure _

theorem takes_granted (t : String) (m : TokenMetadata) (answers : List (String × Attempt Int)) :
    Takes world p (granted survey t m answers) := by
  induction answers with
  | nil => exact takes_pure _
  | cons answer rest ih =>
    obtain ⟨spender, answer⟩ := answer
    refine takes_bind (takes_orStandIn _ _) fun amount => ?_
    change Takes _ _ (if _ then _ else _)
    split
    · exact takes_bind (takes_pure _) fun found => takes_bind ih fun later => takes_pure _
    · exact takes_bind (takes_ofAttempt _) fun found => takes_bind ih fun later => takes_pure _

theorem takes_ofToken (world : Script) (survey : Survey) (owner t : String) (fromBlock : Json) :
    Takes world (Subject.IsOf t) (ofToken world survey owner fromBlock t) := by
  refine takes_bind (takes_both (takes_metadata t) (takes_discovered t owner fromBlock)) ?_
  rintro ⟨m, found⟩
  refine takes_bind (takes_orStandIn _ _) fun m => ?_
  refine takes_bind (takes_ofAttempt _) fun found => ?_
  refine takes_bind (takes_each ?_) fun amounts => takes_granted t m _
  intro x hx
  obtain ⟨s, -, rfl⟩ := List.mem_map.1 hx
  exact takes_allowance t _ _

theorem takes_transferHistory (world : Script) (owner : Json) :
    Takes world (fun x => x.token? = none) (transferHistory world owner) := by
  rw [transferHistory]
  exact takes_address fun a _ => takes_bind (takes_explorer rfl) fun payload => takes_ofAttempt _

theorem takes_firstBlock (world : Script) (survey : Survey) :
    Takes world (fun x => x.token? = none) (firstBlock world survey) := by
  change Takes _ _ (if _ then _ else _)
  split
  · exact takes_pure _
  · have hread : Takes world (fun x => x.token? = none) (blockNumber world) := takes_rpc rfl
    refine takes_bind (takes_attempt hread) fun r => ?_
    cases r with
    | ok latest => exact takes_ofAttempt _
    | error e =>
      change Takes _ _ (if _ then _ else _)
      split
      · exact takes_pure _
      · exact takes_fail e

end Work

end ChainRisk
