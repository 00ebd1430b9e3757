import ChainRisk.Proofs.ContractReads

namespace ChainRisk

namespace Script

structure Agrees (a : Address) (world₁ world₂ : Script) : Prop where
  code : ∀ n, (world₁.entry (.code a) n).reply = (world₂.entry (.code a) n).reply
  storage : ∀ slot n, (world₁.entry (.storage a slot) n).reply = (world₂.entry (.storage a slot) n).reply
  source : ∀ n, (world₁.explorerEntry (sourceQuery a) n).reply =
    (world₂.explorerEntry (sourceQuery a) n).reply

structure Prompt (a : Address) (limit : Duration) (world : Script) : Prop where
  code : ∀ n, limit.outlastedBy (world.entry (.code a) n).delay = false
  storage : ∀ slot n, limit.outlastedBy (world.entry (.storage a slot) n).delay = false

variable {world₁ world₂ : Script} {v₁ v₂ : View} {a : Address}

theorem answer_congr {limit : Duration} {operation : String} {q : Query} {n : Nat}
    (h : (world₁.entry q n).reply = (world₂.entry q n).reply)
    (h₁ : limit.outlastedBy (world₁.entry q n).delay = false)
    (h₂ : limit.outlastedBy (world₂.entry q n).delay = false) :
    world₁.answer limit operation q n = world₂.answer limit operation q n := by
  rw [answer, answer, h₁, h₂, h]

theorem codeAnswer_congr (h : Agrees a world₁ world₂) (h₁ : Prompt a v₁.timeout world₁)
    (h₂ : Prompt a v₂.timeout world₂) (ht : v₁.timeout = v₂.timeout) (hr : v₁.reads = v₂.reads) :
    world₁.codeAnswer v₁ a = world₂.codeAnswer v₂ a := by
  rw [codeAnswer, codeAnswer, hr, answer_congr (h.code _) (h₁.code _) (ht ▸ h₂.code _), ht]

theorem sourceAnswer_congr (h : Agrees a world₁ world₂) (ht : v₁.timeout = v₂.timeout)
    (hr : v₁.reads = v₂.reads) : world₁.sourceAnswer v₁ a = world₂.sourceAnswer v₂ a := by
  rw [sourceAnswer, sourceAnswer, payloadAnswer, payloadAnswer, explorerAnswer, explorerAnswer, hr, ht,
    h.source]

theorem probe_congr (h : Agrees a world₁ world₂) (h₁ : Prompt a v₁.timeout world₁)
    (h₂ : Prompt a v₂.timeout world₂) (ht : v₁.timeout = v₂.timeout) (hr : v₁.reads = v₂.reads)
    (earlier slots : List ProxySlot) :
    world₁.probe v₁ a earlier slots = world₂.probe v₂ a earlier slots := by
  induction slots generalizing earlier with
  | nil => rfl
  | cons slot rest ih =>
    have hw : world₁.wordAfter v₁ a earlier slot = world₂.wordAfter v₂ a earlier slot := by
      rw [wordAfter, wordAfter]
      congr 1
      funext n
      rw [hr, answer_congr (h.storage _ _) (h₁.storage _ _) (ht ▸ h₂.storage _ _), ht]
    rw [probe, probe, hw, ih]

theorem verdict_congr (h : Agrees a world₁ world₂) (h₁ : Prompt a v₁.timeout world₁)
    (h₂ : Prompt a v₂.timeout world₂) (ht : v₁.timeout = v₂.timeout) (hr : v₁.reads = v₂.reads)
    (detectors : List Detector) (slots : List ProxySlot) (t : Option Calendar.Timestamp) :
    world₁.verdict v₁ a detectors slots t = world₂.verdict v₂ a detectors slots t := by
  simp only [verdict, deployedVerdict, codeAnswer_congr h h₁ h₂ ht hr, sourceAnswer_congr h ht hr,
    probe_congr h h₁ h₂ ht hr]

variable {world : Script} {v : View} {detectors : List Detector} {slots : List ProxySlot}

theorem verdict_deployed (t t' : Option Calendar.Timestamp) :
    world.verdict v a detectors slots t' =
      (world.verdict v a detectors slots t).map fun f => { f with deployed := t' } := by
  rw [verdict, verdict]
  cases world.codeAnswer v a with
  | error e => rfl
  | ok code =>
    rw [Except.bind, Except.bind]
    split
    · rfl
    · rw [deployedVerdict, deployedVerdict]
      cases world.sourceAnswer v a with
      | error e => rfl
      | ok x =>
        cases world.probe v a [] slots with
        | error e => rfl
        | ok p =>
          change Except.bind (Detector.scan code x.source detectors) _ =
            (Except.bind (Detector.scan code x.source detectors) _).map _
          cases Detector.scan code x.source detectors <;> rfl

theorem verdict_of_source_error {code : Bytes} {e : Failure} (hc : world.codeAnswer v a = .ok code)
    (hne : code ≠ []) (hs : world.sourceAnswer v a = .error e) (t : Option Calendar.Timestamp) :
    world.verdict v a detectors slots t = .error e := by
  rw [verdict, hc, Except.bind, if_neg (by simpa using hne), deployedVerdict, hs]
  rfl

end Script

namespace Work

theorem assess_agrees (world₁ world₂ : Script) (detectors : List Detector) (slots : List ProxySlot)
    {contract : Json} {a : Address} (h : Address.require contract = .ok a) (d₁ d₂ : Desk)
    (ht : d₁.client.timeout = d₂.client.timeout) (hr : ∀ x, d₁.trace.reads x = d₂.trace.reads x)
    (hw : Script.Agrees a world₁ world₂) (h₁ : Script.Prompt a d₁.client.timeout world₁)
    (h₂ : Script.Prompt a d₂.client.timeout world₂) (m₁ m₂ : Moment) :
    let r₁ := (assess world₁ detectors slots contract ⟨m₁, none⟩ d₁).1.result
    let r₂ := (assess world₂ detectors slots contract ⟨m₂, none⟩ d₂).1.result
    ((∃ x₁ x₂, r₁ = .ok x₁ ∧ r₂ = .ok x₂ ∧ x₁ = { x₂ with deployed := x₁.deployed }) ∨
      ∃ e, r₁ = .error e ∧ r₂ = .error e) ∧
    (∀ bytes e e', (code world₁ (.str a.text) ⟨m₁, none⟩ d₁).1.result = .ok bytes → bytes ≠ [] →
      (verifiedSource world₁ (.str a.text) ⟨m₁, none⟩ d₁).1.result = .error e →
      (delegation world₁ (.str a.text) slots ⟨m₁, none⟩ d₁).1.result = .error e' →
        r₁ = .error e ∧ r₂ = .error e) := by
  have hreads : d₁.view.reads = d₂.view.reads := funext hr
  obtain ⟨t₁, hr₁⟩ := assess_result world₁ detectors slots h m₁ d₁
  obtain ⟨t₂, hr₂⟩ := assess_result world₂ detectors slots h m₂ d₂
  have hsame := Script.verdict_congr hw h₁ h₂ ht hreads detectors slots t₂
  simp only [hr₁, hr₂, ← hsame, code_result, verifiedSource_result]
  refine ⟨?_, fun bytes e _ hc hne hs _ => ?_⟩
  · rw [Script.verdict_deployed t₂ t₁]
    cases world₁.verdict d₁.view a detectors slots t₂ with
    | error e => exact .inr ⟨e, rfl, rfl⟩
    | ok f => exact .inl ⟨_, _, rfl, rfl, rfl⟩
  · rw [Script.verdict_of_source_error hc hne hs, Script.verdict_of_source_error hc hne hs]
    exact ⟨rfl, rfl⟩

def plainWorld : Script := { Script.quiet with code := fun _ => [.atOnce (some [0x60, 0x80])] }

def hinderedWorld : Script :=
  { Script.quiet with
    code := fun _ => [⟨.value (some [0x60, 0x80]), .ofInt 3⟩]
    explorer := fun action _ =>
      if action = some "txlist" then [⟨.fault ⟨.runtime, "reset"⟩, .ofInt 5⟩] else [] }

theorem assess_hinderedWorld :
    let r₁ := (assess plainWorld Detector.standard ProxySlot.standard
      (.str Address.zeroText) ⟨.ofInstant .start, none⟩ .idle).1.result
    let r₂ := (assess hinderedWorld Detector.standard ProxySlot.standard
      (.str Address.zeroText) ⟨.ofInstant .start, none⟩ .idle).1.result
    Address.require (.str Address.zeroText) = .ok Address.zero ∧
    Script.Agrees .zero plainWorld hinderedWorld ∧ Script.Prompt .zero (.whole 30) plainWorld ∧
    Script.Prompt .zero (.whole 30) hinderedWorld ∧
    ((∃ x₁ x₂, r₁ = .ok x₁ ∧ r₂ = .ok x₂ ∧ x₁ = { x₂ with deployed := x₁.deployed }) ∨
      ∃ e, r₁ = .error e ∧ r₂ = .error e) := by
  have ha : Address.require (.str Address.zeroText) = .ok Address.zero := by
    rfl
  have hzero : (Duration.whole 30).outlastedBy .zero = false := by decide +kernel
  have hthree : (Duration.whole 30).outlastedBy (.ofInt 3) = false := by decide +kernel
  have hplain (n : Nat) : plainWorld.entry (.code .zero) n = .atOnce (some [0x60, 0x80]) :=
    Entry.pick_singleton _ _ n
  have hhindered (n : Nat) :
      hinderedWorld.entry (.code .zero) n = ⟨.value (some [0x60, 0x80]), .ofInt 3⟩ :=
    Entry.pick_singleton _ _ n
  have hplainWord (slot : Int) (n : Nat) : plainWorld.entry (.storage .zero slot) n =
      .atOnce (some (List.replicate 32 0)) := rfl
  have hhinderedWord (slot : Int) (n : Nat) : hinderedWorld.entry (.storage .zero slot) n =
      .atOnce (some (List.replicate 32 0)) := rfl
  have hw : Script.Agrees .zero plainWorld hinderedWorld := by
    refine ⟨fun n => by rw [hplain, hhindered, Entry.atOnce],
      fun slot n => by rw [hplainWord, hhinderedWord], fun n => ?_⟩
    rw [Script.explorerEntry_sourceQuery, Script.explorerEntry_sourceQuery]
    simp [plainWorld, hinderedWorld, Script.quiet]
  have h₁ : Script.Prompt .zero (.whole 30) plainWorld :=
    ⟨fun n => by rw [hplain]; exact hzero, fun slot n => by rw [hplainWord]; exact hzero⟩
  have h₂ : Script.Prompt .zero (.whole 30) hinderedWorld :=
    ⟨fun n => by rw [hhindered, hthree], fun slot n => by rw [hhinderedWord]; exact hzero⟩
  exact ⟨ha, hw, h₁, h₂, (assess_agrees _ _ _ _ ha _ _ rfl (fun _ => rfl) hw h₁ h₂ _ _).1⟩

end Work

end ChainRisk
