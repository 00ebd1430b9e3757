import ChainRisk.Proofs.ContractReads

namespace ChainRisk

/-- The source and the name that a payload declares for its contract. -/
inductive Envelope.Declares (payload : Json) : Json → Json → Prop
  | nothing (h : ∀ first rest, payload.field? "status" = some (.str "1") →
      payload.field? "result" ≠ some (.arr (first :: rest))) : Declares payload .null .null
  | entry {first : Json} {rest : List Json} {fields : List (String × Json)}
      (status : payload.field? "status" = some (.str "1"))
      (result : payload.field? "result" = some (.arr (first :: rest)))
      (object : first.orElse (.obj []) = .obj fields) :
      Declares payload ((Keyed.get? "SourceCode" fields).getD .null)
        ((Keyed.get? "ContractName" fields).getD .null)

namespace Address

theorem bytes_ofWord {w : Bytes} (h : w.length = 32) : (ofWord w).bytes = w.drop 12 := by
  simp [ofWord, List.leftpad, h]

theorem eq_ofWord {w : Bytes} (h : w.length = 32) {a : Address} (ha : a.bytes = w.drop 12) :
    ofWord w = a := eq_of_bytes ((bytes_ofWord h).trans ha.symm)

end Address

namespace Script

section

variable (world : Script) (v : View) (a : Address)

def WordAnswers (earlier : List ProxySlot) (slot : ProxySlot) (w : Bytes) : Prop :=
  ∃ n x, Work.slotNumber slot.position = .ok n ∧
    world.Answers v.timeout (.storage a n) (v.reads (.storage a n) + readsOf n earlier) x ∧ w = Work.word x

/-- The slots are read in order up to the first word that is not zero, whose low bytes are an address. -/
inductive Settles : List ProxySlot → List ProxySlot → Option Delegation → Prop
  | clear (earlier : List ProxySlot) : Settles earlier [] none
  | zero {earlier rest : List ProxySlot} {slot : ProxySlot} {w : Bytes} {p : Option Delegation}
      (read : world.WordAnswers v a earlier slot w) (zeros : ∀ b ∈ w, b = 0)
      (later : Settles (earlier ++ [slot]) rest p) : Settles earlier (slot :: rest) p
  | hit {earlier rest : List ProxySlot} {slot : ProxySlot} {w : Bytes} {p : Delegation}
      (read : world.WordAnswers v a earlier slot w) (nonzero : ∃ b ∈ w, b ≠ 0)
      (low : p.implementation.bytes = w.drop 12) (name : p.slot = slot.name) :
      Settles earlier (slot :: rest) (some p)

inductive Stops : List ProxySlot → List ProxySlot → Prop
  | zero {earlier rest : List ProxySlot} {slot : ProxySlot} {w : Bytes}
      (read : world.WordAnswers v a earlier slot w) (zeros : ∀ b ∈ w, b = 0)
      (later : Stops (earlier ++ [slot]) rest) : Stops earlier (slot :: rest)
  | failure {earlier rest : List ProxySlot} {slot : ProxySlot}
      (unread : ∀ w, ¬ world.WordAnswers v a earlier slot w) : Stops earlier (slot :: rest)

structure Evidence (detectors : List Detector) (slots : List ProxySlot) (code : Bytes)
    (payload source name : Json) (p : Option Delegation) (findings : List Finding) : Prop where
  code_read : world.Answers v.timeout (.code a) (v.reads (.code a)) (some code)
  code_ne_nil : code ≠ []
  payload_read : world.Tells (sourceQuery a) (v.reads (.ofParameters (sourceQuery a))) payload
  declared : Envelope.Declares payload source name
  settled : world.Settles v a [] slots p
  scanned : Detector.scan code (if source.isSome then source else .null) detectors = .ok findings

/-- One of the reads that an assessment rests on has no answer. -/
def Lacks (slots : List ProxySlot) : Prop :=
  (∀ x, ¬ world.Answers v.timeout (.code a) (v.reads (.code a)) x) ∨
    (∀ payload, ¬ world.Tells (sourceQuery a) (v.reads (.ofParameters (sourceQuery a))) payload) ∨
    world.Stops v a [] slots

def ShortWords : Prop :=
  ∀ a n, ∀ e ∈ world.storage a n, ∀ w, e.reply = .value (some w) → w.length ≤ 32

end

variable {world : Script} {v : View} {a : Address}

theorem length_of_answers (hw : world.ShortWords) {limit : Duration} {n : Int} {k : Nat} {w : Bytes}
    (h : world.Answers limit (.storage a n) k (some w)) : w.length ≤ 32 := by
  have hr := h.2
  change (Entry.pick (some (List.replicate 32 0)) (world.storage a n) k).reply = _ at hr
  rcases Entry.pick_mem (some (List.replicate 32 0)) (world.storage a n) k with he | he
  · exact hw a n _ he w hr
  · rw [he] at hr
    cases hr
    decide

theorem length_of_wordAnswers (hw : world.ShortWords) {earlier : List ProxySlot} {slot : ProxySlot}
    {w : Bytes} (h : world.WordAnswers v a earlier slot w) : w.length = 32 := by
  obtain ⟨n, x, -, hx, rfl⟩ := h
  cases x with
  | none => rfl
  | some w =>
    have hl := length_of_answers hw hx
    simp only [Work.word, Option.getD_some, List.length_leftpad]
    omega

theorem eq_zeroWord_iff {w : Bytes} (h : w.length = 32) : w = Work.zeroWord ↔ ∀ b ∈ w, b = 0 := by
  rw [Work.zeroWord, List.eq_replicate_iff]
  exact ⟨fun hw => hw.2, fun hw => ⟨h, hw⟩⟩

theorem ne_zeroWord_iff {w : Bytes} (h : w.length = 32) : w ≠ Work.zeroWord ↔ ∃ b ∈ w, b ≠ 0 := by
  rw [Ne, eq_zeroWord_iff h]
  simp only [Classical.not_forall, exists_prop]

theorem wordAfter_eq_ok_iff {earlier : List ProxySlot} {slot : ProxySlot} {w : Bytes} :
    world.wordAfter v a earlier slot = .ok w ↔ world.WordAnswers v a earlier slot w := by
  constructor
  · intro h
    obtain ⟨n, hn, h⟩ := Attempt.bind_eq_ok_iff.1 h
    obtain ⟨x, hx, rfl⟩ := Attempt.map_eq_ok_iff.1 h
    exact ⟨n, x, hn, (answer_eq_ok_iff _).1 hx, rfl⟩
  · rintro ⟨n, x, hn, hx, rfl⟩
    apply Attempt.bind_eq_ok_iff.2
    refine ⟨n, hn, Attempt.map_eq_ok_iff.2 ⟨x, ?_, rfl⟩⟩
    exact (answer_eq_ok_iff _).2 hx

theorem probe_eq_ok_iff (hw : world.ShortWords) {earlier slots : List ProxySlot}
    {p : Option Delegation} :
    world.probe v a earlier slots = .ok p ↔ world.Settles v a earlier slots p := by
  -- a position that is listed twice is read twice, so the slots before count
  induction slots generalizing earlier with
  | nil =>
    constructor
    · intro h
      cases h
      exact .clear earlier
    · intro h
      cases h
      rfl
  | cons slot rest ih =>
    rw [probe]
    constructor
    · intro h
      obtain ⟨w, hr, h⟩ := Attempt.bind_eq_ok_iff.1 h
      have read := wordAfter_eq_ok_iff.1 hr
      have hl := length_of_wordAnswers hw read
      by_cases hz : w = Work.zeroWord
      · rw [if_pos hz] at h
        exact .zero read ((eq_zeroWord_iff hl).1 hz) (ih.1 h)
      · rw [if_neg hz] at h
        cases h
        exact .hit read ((ne_zeroWord_iff hl).1 hz) (Address.bytes_ofWord hl) rfl
    · intro h
      cases h with
      | zero read zeros later =>
        rw [wordAfter_eq_ok_iff.2 read, Except.bind,
          if_pos ((eq_zeroWord_iff (length_of_wordAnswers hw read)).2 zeros)]
        exact ih.2 later
      | hit read nonzero low name =>
        have hl := length_of_wordAnswers hw read
        rw [wordAfter_eq_ok_iff.2 read, Except.bind, if_neg ((ne_zeroWord_iff hl).2 nonzero)]
        rw [Address.eq_ofWord hl low, ← name]

theorem not_settles_of_stops (hw : world.ShortWords) {earlier slots : List ProxySlot}
    (h : world.Stops v a earlier slots) (p : Option Delegation) :
    ¬ world.Settles v a earlier slots p := by
  rw [← probe_eq_ok_iff hw]
  induction h with
  | zero read zeros later ih =>
    rw [probe, wordAfter_eq_ok_iff.2 read, Except.bind,
      if_pos ((eq_zeroWord_iff (length_of_wordAnswers hw read)).2 zeros)]
    exact ih
  | @failure earlier rest slot unread =>
    rw [probe]
    cases hr : world.wordAfter v a earlier slot with
    | ok w => exact absurd (wordAfter_eq_ok_iff.1 hr) (unread w)
    | error e => intro h; cases h

end Script

namespace Envelope

variable {payload : Json}

theorem items?_eq_some {items : List Json} :
    items? payload = some items ↔
      payload.field? "status" = some (.str "1") ∧ payload.field? "result" = some (.arr items) := by
  rw [items?]
  constructor
  · intro h
    split at h
    · next vs hs hr =>
      cases h
      refine ⟨hs, ?_⟩
      cases hf : payload.field? "result" with
      | none => rw [result, hf] at hr; cases hr
      | some x => rw [result, hf] at hr; exact congrArg some hr
    · cases h
  · rintro ⟨hs, hr⟩
    rw [result, hs, hr]
    rfl

def verificationOf (source name : Json) : Verification :=
  if source.isSome then ⟨true, name.orElse .null, source⟩ else ⟨false, name.orElse .null, .null⟩

theorem verificationOf_verified (source name : Json) :
    (verificationOf source name).verified = source.isSome := by
  rw [verificationOf]
  cases source.isSome <;> rfl

theorem verificationOf_contractName (source name : Json) :
    (verificationOf source name).contractName = name.orElse .null := by
  rw [verificationOf]
  cases source.isSome <;> rfl

theorem verificationOf_source (source name : Json) :
    (verificationOf source name).source = if source.isSome then source else .null := by
  rw [verificationOf]
  cases source.isSome <;> rfl

theorem verification_eq_ok_iff {x : Verification} :
    verification payload = .ok x ↔
      ∃ source name, Declares payload source name ∧ x = verificationOf source name := by
  rw [verification]
  constructor
  · intro h
    split at h
    · next first rest hi =>
      obtain ⟨status, result⟩ := items?_eq_some.1 hi
      cases he : first.orElse (.obj []) with
      | obj fields =>
        rw [he] at h
        cases h
        exact ⟨_, _, .entry status result he, rfl⟩
      | _ => rw [he] at h; cases h
    · next hno =>
      cases h
      exact ⟨_, _, .nothing fun first rest status result =>
        hno first rest (items?_eq_some.2 ⟨status, result⟩), rfl⟩
  · rintro ⟨source, name, hd, rfl⟩
    cases hd with
    | nothing hno =>
      split
      · next first rest hi =>
        obtain ⟨status, result⟩ := items?_eq_some.1 hi
        exact absurd result (hno first rest status)
      · rfl
    | entry status result object =>
      rw [items?_eq_some.2 ⟨status, result⟩]
      simp only [object]
      rfl

end Envelope

namespace Script

variable {world : Script} {v : View} {a : Address}

theorem codeAnswer_eq_ok_iff {code : Bytes} (h : code ≠ []) :
    world.codeAnswer v a = .ok code ↔
      world.Answers v.timeout (.code a) (v.reads (.code a)) (some code) := by
  rw [codeAnswer, ← answer_eq_ok_iff "eth_getCode"]
  cases world.answer v.timeout "eth_getCode" (.code a) (v.reads (.code a)) with
  | error e => simp [Except.map]
  | ok x => cases x <;> simp [Except.map, eq_comm, h]

theorem sourceAnswer_eq_ok_iff {x : Verification} :
    world.sourceAnswer v a = .ok x ↔ ∃ payload source name,
      world.Tells (sourceQuery a) (v.reads (.ofParameters (sourceQuery a))) payload ∧
        Envelope.Declares payload source name ∧ x = Envelope.verificationOf source name := by
  constructor
  · intro h
    obtain ⟨payload, hp, h⟩ := Attempt.bind_eq_ok_iff.1 h
    obtain ⟨source, name, hd⟩ := Envelope.verification_eq_ok_iff.1 h
    exact ⟨payload, source, name, explorerAnswer_eq_ok_iff.1 hp, hd⟩
  · rintro ⟨payload, source, name, ht, hd⟩
    apply Attempt.bind_eq_ok_iff.2
    refine ⟨payload, explorerAnswer_eq_ok_iff.2 ht, ?_⟩
    exact Envelope.verification_eq_ok_iff.2 ⟨source, name, hd⟩

def toldFacts (a : Address) (source name : Json) (p : Option Delegation) (findings : List Finding)
    (deployed : Option Calendar.Timestamp) : ContractFacts where
  address := .str a.text
  verified := .bool source.isSome
  proxy := .bool p.isSome
  contractName := name.orElse .null
  implementation := .ofOption (fun d => .str d.implementation.text) p
  deployed := deployed
  findings := findings

theorem toldFacts_eq (source name : Json) (p : Option Delegation) (findings : List Finding)
    (deployed : Option Calendar.Timestamp) : toldFacts a source name p findings deployed =
      { address := .str a.text
        verified := .bool (Envelope.verificationOf source name).verified
        proxy := .bool p.isSome
        contractName := (Envelope.verificationOf source name).contractName
        implementation := .ofOption (fun d => .str d.implementation.text) p
        deployed := deployed
        findings := findings } := by
  rw [toldFacts, Envelope.verificationOf_verified, Envelope.verificationOf_contractName]

variable {detectors : List Detector} {slots : List ProxySlot}

theorem verdict_eq_ok_iff (hw : world.ShortWords) {t : Option Calendar.Timestamp} {f : ContractFacts} :
    world.verdict v a detectors slots t = .ok f ↔ ∃ code payload source name p findings,
      world.Evidence v a detectors slots code payload source name p findings ∧
        f = toldFacts a source name p findings t := by
  simp only [toldFacts_eq]
  constructor
  · intro h
    obtain ⟨code, hc, h⟩ := Attempt.bind_eq_ok_iff.1 h
    by_cases he : code = []
    · subst he; cases h
    · rw [if_neg (by simpa using he)] at h
      obtain ⟨x, hv, h⟩ := Attempt.bind_eq_ok_iff.1 h
      obtain ⟨p, hp, h⟩ := Attempt.bind_eq_ok_iff.1 h
      obtain ⟨findings, hf, h⟩ := Attempt.bind_eq_ok_iff.1 h
      obtain ⟨payload, source, name, ht, hd, rfl⟩ := sourceAnswer_eq_ok_iff.1 hv
      rw [Envelope.verificationOf_source] at hf
      refine ⟨code, payload, source, name, p, findings, ?_, (Except.ok.inj h).symm⟩
      exact ⟨(codeAnswer_eq_ok_iff he).1 hc, he, ht, hd, (probe_eq_ok_iff hw).1 hp, hf⟩
  · rintro ⟨code, payload, source, name, p, findings, he, rfl⟩
    have hv : world.sourceAnswer v a = .ok (Envelope.verificationOf source name) :=
      sourceAnswer_eq_ok_iff.2 ⟨payload, source, name, he.payload_read, he.declared, rfl⟩
    have hf := he.scanned
    rw [← Envelope.verificationOf_source source name] at hf
    apply Attempt.bind_eq_ok_iff.2
    refine ⟨code, (codeAnswer_eq_ok_iff he.code_ne_nil).2 he.code_read, ?_⟩
    rw [if_neg (by simpa using he.code_ne_nil)]
    apply Attempt.bind_eq_ok_iff.2
    refine ⟨_, hv, Attempt.bind_eq_ok_iff.2 ⟨p, (probe_eq_ok_iff hw).2 he.settled, ?_⟩⟩
    exact Attempt.bind_eq_ok_iff.2 ⟨findings, hf, rfl⟩

theorem not_evidence_of_lacks (hw : world.ShortWords) (h : world.Lacks v a slots) {code : Bytes}
    {payload source name : Json} {p : Option Delegation} {findings : List Finding} :
    ¬ world.Evidence v a detectors slots code payload source name p findings := by
  intro he
  rcases h with hc | hp | hs
  · exact hc _ he.code_read
  · exact hp _ he.payload_read
  · exact not_settles_of_stops hw hs _ he.settled

end Script

structure Assessment.Reports (x : Assessment) (a : Address) (source name : Json) (p : Option Delegation)
    (findings : List Finding) : Prop where
  address : x.address = .str a.text
  verified : x.verified = .bool source.isSome
  contractName : x.contractName = name.orElse .null
  proxy : x.proxy = .bool p.isSome
  implementation : x.implementation = .ofOption (fun d => .str d.implementation.text) p
  findings : x.findings = findings

theorem Assessment.reports_ofFacts (a : Address) (source name : Json) (p : Option Delegation)
    (findings : List Finding) (t : Option Calendar.Timestamp) :
    (ofFacts (Script.toldFacts a source name p findings t)).Reports a source name p findings :=
  ⟨rfl, rfl, rfl, rfl, rfl, rfl⟩

namespace Work

theorem assess_rests_on_evidence (world : Script) (hw : world.ShortWords) (detectors : List Detector)
    (slots : List ProxySlot) {contract : Json} {a : Address} (h : Address.require contract = .ok a)
    (m : Moment) (d : Desk) :
    let r := (assess world detectors slots contract ⟨m, none⟩ d).1.result
    (∀ assessment, r = .ok assessment → ∃ code payload source name p findings,
      world.Evidence d.view a detectors slots code payload source name p findings ∧
        assessment.Reports a source name p findings) ∧
    (∀ code payload source name p findings,
      world.Evidence d.view a detectors slots code payload source name p findings →
        ∃ assessment, r = .ok assessment ∧ assessment.Reports a source name p findings) ∧
    (world.Lacks d.view a slots → ∃ e, r = .error e) := by
  obtain ⟨t, ht⟩ := assess_result world detectors slots h m d
  simp only [ht]
  refine ⟨fun assessment hr => ?_, fun code payload source name p findings he => ?_, fun hl => ?_⟩
  · obtain ⟨f, hv, rfl⟩ := Attempt.map_eq_ok_iff.1 hr
    obtain ⟨code, payload, source, name, p, findings, he, rfl⟩ := (Script.verdict_eq_ok_iff hw).1 hv
    exact ⟨code, payload, source, name, p, findings, he, Assessment.reports_ofFacts a source name p findings t⟩
  · rw [(Script.verdict_eq_ok_iff hw).2 ⟨code, payload, source, name, p, findings, he, rfl⟩]
    exact ⟨_, rfl, Assessment.reports_ofFacts a source name p findings t⟩
  · cases hv : world.verdict d.view a detectors slots t with
    | error e => exact ⟨e, rfl⟩
    | ok f =>
      obtain ⟨code, payload, source, name, p, findings, he, -⟩ := (Script.verdict_eq_ok_iff hw).1 hv
      exact absurd he (Script.not_evidence_of_lacks hw hl)

def verifiedPayload : Json :=
  .obj [("status", .str "1"), ("result", .arr [.obj [("SourceCode", .str "contract C")]])]

def delegatingWorld : Script :=
  { Script.quiet with
    code := fun _ => [.atOnce (some [0x60, 0x80])]
    storage := fun _ n => if n = 7 then [.atOnce (some (List.replicate 20 9))] else []
    explorer := fun action _ =>
      if action = some "getsourcecode" then [.atOnce verifiedPayload] else [] }

def delegate : Delegation := ⟨⟨List.replicate 20 9, rfl⟩, .str "two"⟩

theorem assess_delegatingWorld :
    delegatingWorld.ShortWords ∧
    Address.require (.str Address.zeroText) = .ok Address.zero ∧
    ∃ assessment, (assess delegatingWorld Detector.standard [.ofTexts "one" "0x1", .ofTexts "two" "0x7"]
      (.str Address.zeroText) ⟨.ofInstant .start, none⟩ .idle).1.result = .ok assessment ∧
      assessment.Reports .zero (.str "contract C") .null (some delegate) [] := by
  have hw : delegatingWorld.ShortWords := by
    intro a n e he w hr
    simp only [delegatingWorld] at he
    split at he
    · cases List.mem_singleton.1 he
      cases hr
      decide
    · cases he
  have ha : Address.require (.str Address.zeroText) = .ok Address.zero := rfl
  refine ⟨hw, ha, (assess_rests_on_evidence delegatingWorld hw _ _ ha _ _).2.1 [0x60, 0x80]
    verifiedPayload (.str "contract C") .null (some delegate) [] ?_⟩
  have hd : Envelope.Declares verifiedPayload (.str "contract C") .null :=
    @Envelope.Declares.entry _ _ _ [("SourceCode", .str "contract C")] rfl rfl rfl
  refine ⟨⟨by decide +kernel, rfl⟩, by decide, ⟨rfl, ⟨_, rfl⟩, fun hr => hr.1 rfl⟩, hd, ?_, rfl⟩
  refine .zero (w := Work.zeroWord) ⟨1, some (List.replicate 32 0), rfl, ⟨by decide +kernel, rfl⟩, rfl⟩
    (fun b hb => List.eq_of_mem_replicate hb) ?_
  exact .hit (w := List.replicate 12 0 ++ List.replicate 20 9)
    ⟨7, some (List.replicate 20 9), rfl, ⟨by decide +kernel, rfl⟩, rfl⟩ (by decide) rfl rfl

end Work

end ChainRisk
