import ChainRisk.Proofs.Operations
import ChainRisk.Proofs.Rejection

namespace ChainRisk

namespace Address

def Malformed (v : Json) : Prop := ∀ s, v = .str s → ofText? s = none

theorem require_of_malformed {v : Json} (h : Malformed v) : require v = .error (.invalidAddress v) := by
  cases v with
  | str s =>
    have hnone := h s rfl
    rw [require, hnone]
  | _ => rfl

theorem exists_require {v : Json} (h : ¬ Malformed v) : ∃ a, require v = .ok a := by
  cases v with
  | str s =>
    cases hs : ofText? s with
    | some a => exact ⟨a, require_of_ofText? hs⟩
    | none =>
      refine absurd (fun s' hs' => ?_) h
      cases hs'
      exact hs
  | _ => exact absurd nofun h

end Address

open Activity Address

theorem Activity.pure_bind_of_fail {σ α β : Type} {a : α} {f : α → Activity σ β} {e : Failure}
    (h : f a = fail e) : (Activity.pure a >>= f) = fail e := by
  funext w s
  rw [bind_of_ok (x := Activity.pure a) rfl, h]
  simp only [Activity.pure, fail, max_self, Pause.andThen]

namespace Work

variable {α : Type} {vs : List Json} {v : Json}

/-- Work that is nothing but the failure of one of its addresses, when any of them is malformed. -/
def Gated (vs : List Json) (x : Work α) : Prop :=
  (∃ v ∈ vs, Malformed v) → ∃ v ∈ vs, Malformed v ∧ x = fail (.invalidAddress v)

theorem gated_nil (x : Work α) : Gated [] x := by
  rintro ⟨v, hv, -⟩
  cases hv

theorem gated_cons {f : Address → Work α} (h : ∀ a, Gated vs (f a)) : Gated (v :: vs) (address v >>= f) := by
  rintro ⟨v', hv', hmalformed⟩
  by_cases hv : Malformed v
  · refine ⟨v, List.mem_cons_self, hv, ?_⟩
    rw [address, require_of_malformed hv]
    rfl
  · obtain ⟨a, ha⟩ := exists_require hv
    have hlater : v' ∈ vs := by
      rcases List.mem_cons.1 hv' with rfl | hv'
      · exact absurd hmalformed hv
      · exact hv'
    obtain ⟨u, hu, hbad, hfails⟩ := h a ⟨v', hlater, hmalformed⟩
    refine ⟨u, List.mem_cons_of_mem v hu, hbad, ?_⟩
    rw [address, ha]
    exact pure_bind_of_fail hfails

end Work

namespace ClientOperation

def addresses : ClientOperation → List Json
  | openSession => []
  | query _ => []
  | blockNumber => []
  | code a => [a]
  | storage a _ => [a]
  | metadata token => [token]
  | allowance token owner spender => [token, owner, spender]
  | spenders token owner _ => [token, owner]
  | verifiedSource a => [a]
  | firstTransaction a => [a]
  | transferHistory owner => [owner]
  | assess _ _ contract => [contract]
  | allowances _ owner => [owner]

theorem gated_run (world : Script) (op : ClientOperation) : Work.Gated op.addresses (op.run world) := by
  cases op with
  | openSession => exact Work.gated_nil _
  | query params => exact Work.gated_nil _
  | blockNumber => exact Work.gated_nil _
  | code a => exact Work.gated_cons fun _ => Work.gated_nil _
  | storage a slot => exact Work.gated_cons fun _ => Work.gated_nil _
  | metadata token => exact Work.gated_cons fun _ => Work.gated_nil _
  | allowance token owner spender =>
    exact Work.gated_cons fun _ => Work.gated_cons fun _ => Work.gated_cons fun _ => Work.gated_nil _
  | spenders token owner fromBlock => exact Work.gated_cons fun _ => Work.gated_cons fun _ => Work.gated_nil _
  | verifiedSource a => exact Work.gated_cons fun _ => Work.gated_nil _
  | firstTransaction a => exact Work.gated_cons fun _ => Work.gated_nil _
  | transferHistory owner => exact Work.gated_cons fun _ => Work.gated_nil _
  | assess detectors slots contract => exact Work.gated_cons fun _ => Work.gated_nil _
  | allowances survey owner => exact Work.gated_cons fun _ => Work.gated_nil _

end ClientOperation

namespace Request

variable {r : Request}

theorem named?_eq_none (h : ∀ found, Address.find? r.text = some found → Malformed (.str found)) :
    named? r.text = none := by
  rw [named?]
  cases hfound : Address.find? r.text with
  | none => rfl
  | some found => exact h found hfound found rfl

theorem idle_of_unnamed (h : named? r.text = none) (world : Script) (settings : Settings) :
    (∀ w p, ∃ reason, (answer world settings r w p).1.result = .ok (.badInput reason) ∧
      (answer world settings r w p).2 = p) ∧
    ∀ w trace, ∃ reason, (answerAlone world settings r w trace).1.result = .ok (.badInput reason) ∧
      (answerAlone world settings r w trace).2 = trace := by
  obtain ⟨reason, hanswer⟩ := answer_of_unnamed world settings h
  refine ⟨fun w p => ⟨reason, ?_, ?_⟩, fun w trace => ⟨reason, ?_, ?_⟩⟩
  · rw [hanswer]
    rfl
  · rw [hanswer]
    rfl
  · rw [answerAlone, hanswer]
    exact Pool.alone_result (Pool.sound_empty _ _ _)
  · rw [answerAlone, hanswer]
    exact Pool.alone_state_of_idle rfl

end Request

theorem malformed_addresses_stop (world : Script) :
    (∀ (op : ClientOperation) v, v ∈ op.addresses → Malformed v → ∀ w d,
      ∃ v' ∈ op.addresses, Malformed v' ∧
        (op.run world w d).1.result = .error (.invalidAddress v') ∧ (op.run world w d).2 = d) ∧
    ∀ settings (r : Request), (∀ found, Address.find? r.text = some found → Malformed (.str found)) →
      (∀ w p, ∃ reason, (r.answer world settings w p).1.result = .ok (.badInput reason) ∧
        (r.answer world settings w p).2 = p) ∧
      ∀ w trace, ∃ reason, (r.answerAlone world settings w trace).1.result = .ok (.badInput reason) ∧
        (r.answerAlone world settings w trace).2 = trace := by
  constructor
  · intro op v hv hmalformed w d
    obtain ⟨v', hv', hbad, hrun⟩ := op.gated_run world ⟨v, hv, hmalformed⟩
    refine ⟨v', hv', hbad, ?_, ?_⟩
    · rw [hrun]
      rfl
    · rw [hrun]
      rfl
  · intro settings r h
    exact Request.idle_of_unnamed (Request.named?_eq_none h) world settings

theorem malformed_addresses_stop_nobody :
    let op := ClientOperation.spenders (.str zeroText) (.str "nobody") .null
    let d := Desk.opened (Settings.plain (.whole 30)).networks.main (.whole 30)
    let r : Request := ⟨.contract, some "nobody", none⟩
    let w := Window.since .start
    (op.run .quiet w d).1.result = .error (.invalidAddress (.str "nobody")) ∧ (op.run .quiet w d).2 = d ∧
      (r.answerAlone .quiet (.plain (.whole 30)) w []).2 = [] := by
  intro op d r w
  have hnobody : Malformed (.str "nobody") := by
    intro s hs
    cases hs
    decide +kernel
  have hzero : ¬ Malformed (.str zeroText) := by
    intro h
    cases ofText?_zeroText.symm.trans (h zeroText rfl)
  have hmem : Json.str "nobody" ∈ op.addresses := List.mem_cons_of_mem _ List.mem_cons_self
  have hunnamed : ∀ found, Address.find? r.text = some found → Malformed (.str found) := by
    have hnone : Address.find? r.text = none := by decide +kernel
    intro found hfound
    cases hnone.symm.trans hfound
  obtain ⟨hoperations, hrequests⟩ := malformed_addresses_stop .quiet
  obtain ⟨v, hv, hbad, hresult, hstate⟩ := hoperations op _ hmem hnobody w d
  obtain ⟨-, halone⟩ := hrequests (.plain (.whole 30)) r hunnamed
  obtain ⟨reason, -, htrace⟩ := halone w []
  have hfirst : v = .str "nobody" := by
    rcases List.mem_cons.1 hv with rfl | hv
    · exact absurd hbad hzero
    · exact List.mem_singleton.1 hv
  rw [hfirst] at hresult
  exact ⟨hresult, hstate, htrace⟩

end ChainRisk
