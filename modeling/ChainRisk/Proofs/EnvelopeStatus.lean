import ChainRisk.Proofs.Blame
import ChainRisk.Proofs.Evidence

namespace ChainRisk

theorem Numeral.ofNat_eq_one_iff {n : Nat} : ofNat n = "1" ↔ n = 1 := by
  constructor
  · intro h
    have hdigits : Nat.toDigits 10 n = ['1'] := by
      have hlist := congrArg String.toList h
      rwa [ofNat, String.toList_ofList] at hlist
    have hvalue : Nat.ofDigitChars 10 (Nat.toDigits 10 n) 0 = Nat.ofDigitChars 10 ['1'] 0 := by rw [hdigits]
    rw [Nat.ofDigitChars_ten_toDigits] at hvalue
    exact hvalue
  · rintro rfl
    rfl

theorem Numeral.ofInt_eq_one_iff {n : Int} : ofInt n = "1" ↔ n = 1 := by
  rw [ofInt]
  split
  · next hneg =>
    refine ⟨fun h => ?_, fun h => by omega⟩
    have hlist := congrArg String.toList h
    rw [String.toList_append] at hlist
    cases hlist
  · rw [ofNat_eq_one_iff]
    omega

namespace Binary64

theorem point_mem_pointed (ds : List Char) (places : Int) : '.' ∈ pointed ds places := by
  unfold pointed
  split
  · simp
  · split <;> simp

theorem ne_one_of_mem {cs : List Char} {c : Char} (h : c ∈ cs) (hc : c ≠ '1') : cs ≠ ['1'] := by
  rintro rfl
  exact hc (List.mem_singleton.1 h)

theorem write_ne_one (l : Layout) (d : Decimal) : l.write d ≠ ['1'] := by
  unfold Layout.write
  dsimp only
  split
  · exact ne_one_of_mem (point_mem_pointed _ _) (by decide)
  · exact ne_one_of_mem (List.mem_append_right _ List.mem_cons_self) (by decide)

theorem text_ne_one (x : Binary64) : x.text ≠ "1" := by
  intro h
  cases x with
  | finite s u =>
    have hlist := congrArg String.toList h
    rw [text, String.toList_ofList] at hlist
    cases s with
    | true => cases hlist
    | false =>
      change (if u = 0 then ['0', '.', '0'] else layout.write (shortest u)) = ['1'] at hlist
      split at hlist
      · cases hlist
      · exact write_ne_one _ _ hlist
  | infinite s => cases s <;> exact absurd h (by decide)
  | nan => exact absurd h (by decide)

end Binary64

theorem Json.shown_eq_one_iff {v : Json} : v.shown = "1" ↔ v = .str "1" ∨ v = .int 1 := by
  cases v with
  | null => simp [shown, named, spelling]
  | bool b => cases b <;> simp [shown, named, spelling]
  | int n => simp [shown, named, Numeral.ofInt_eq_one_iff]
  | real x => simp [shown, named, Binary64.text_ne_one]
  | str s => simp [shown]
  | arr items =>
    simp only [shown, named, reduceCtorEq, or_self, iff_false]
    intro h
    have hlist := congrArg String.toList h
    rw [String.toList_append, String.toList_append] at hlist
    cases hlist
  | obj fields =>
    simp only [shown, named, reduceCtorEq, or_self, iff_false]
    intro h
    have hlist := congrArg String.toList h
    rw [String.toList_append, String.toList_append] at hlist
    cases hlist

namespace Envelope

variable {payload : Json} {items : List Json}

theorem statusText_eq_one_iff : statusText payload = "1" ↔
    payload.field? "status" = some (.str "1") ∨ payload.field? "status" = some (.int 1) := by
  rw [statusText]
  cases payload.field? "status" with
  | none => simp [Json.shown]
  | some v => simp [Json.shown_eq_one_iff]

theorem items?_of_number (h : payload.field? "status" = some (.int 1)) : items? payload = none := by
  rw [items?, h]

theorem verification_of_number (h : payload.field? "status" = some (.int 1)) :
    verification payload = .ok (unverified .null) := by
  rw [verification, items?_of_number h]

theorem firstTime?_of_number (h : payload.field? "status" = some (.int 1)) : firstTime? payload = none := by
  rw [firstTime?, items?_of_number h]

theorem tokens_of_number (h : payload.field? "status" = some (.int 1)) : tokens payload = .ok [] := by
  rw [tokens, items?_of_number h]

def IsData (payload : Json) : Prop := (∃ fields, payload = .obj fields) ∧ statusText payload = "1"

theorem IsData.not_refuses (h : IsData payload) : ¬ Refuses payload := fun hr => hr.1 h.2

theorem items?_of_text (h : payload.field? "status" = some (.str "1")) (hi : result payload = .arr items) :
    items? payload = some items := by
  rw [items?, h, hi]
  rfl

theorem verification_of_text {fields : List (String × Json)} {rest : List Json} {code : String}
    (h : items? payload = some (.obj fields :: rest))
    (hcode : Keyed.get? "SourceCode" fields = some (.str code)) (hne : code ≠ "") :
    ∃ name, verification payload = .ok ⟨true, name, .str code⟩ := by
  have hentry : (Json.obj fields).orElse (.obj []) = .obj fields := by
    cases fields with
    | nil => cases hcode
    | cons field fields => rfl
  have hcode' : (Json.str code).isSome = true := by simp [Json.isSome, hne]
  refine ⟨((Keyed.get? "ContractName" fields).getD .null).orElse .null, ?_⟩
  rw [verification, h]
  simp only [hentry, optionalField, hcode, Option.getD_some, Bind.bind, Except.bind, hcode', if_true]
  rfl

def contractsOf (items : List Json) : List String :=
  (((items.map contractOf).filter (· ≠ "")).map Text.lower).eraseDups

theorem candidates_eq (h : items? payload = some items) : candidates payload = contractsOf items := by
  rw [candidates, h]
  rfl

theorem tokens_eq_ok_iff (h : items? payload = some items) {ts : List String} :
    tokens payload = .ok ts ↔ (∀ item ∈ items, NamesText item) ∧ ts = contractsOf items := by
  rw [← candidates_eq h]
  constructor
  · intro htokens
    exact ⟨lists_of_tokens htokens items h, eq_candidates_of_tokens htokens⟩
  · rintro ⟨hall, rfl⟩
    apply tokens_eq_candidates
    intro items' hitems'
    rw [h] at hitems'
    cases hitems'
    exact hall

end Envelope

namespace Script

def Replies (world : Script) (params : Keyed Json) (n : Nat) (payload : Json) : Prop :=
  (world.explorerEntry params n).reply = .value payload

theorem tells_of_replies {world : Script} {params : Keyed Json} {n : Nat} {payload : Json}
    (h : world.Replies params n payload) (hd : Envelope.IsData payload) : world.Tells params n payload :=
  ⟨h, hd.1, hd.not_refuses⟩

end Script

namespace Work

open Activity

variable {world : Script} {a : Address} {m : Moment} {d : Desk} {payload json : Json}

theorem address_eq (ha : Address.require json = .ok a) : address json = address (.str a.text) := by
  rw [address, address, ha, Address.require_of_ofText? (Address.ofText?_text a)]

theorem transferHistory_of_replies (ha : Address.require json = .ok a) (hd : Envelope.IsData payload)
    (h : world.Replies (Script.historyQuery a) (d.view.reads (.ofParameters (Script.historyQuery a))) payload) :
    (transferHistory world json ⟨m, none⟩ d).1.result = Envelope.tokens payload := by
  have hresult := transferHistory_result world a m d
  rw [Script.historyAnswer, Script.explorerAnswer_eq_ok_iff.2 (Script.tells_of_replies h hd)] at hresult
  rw [transferHistory, address_eq ha]
  exact hresult

theorem verifiedSource_of_replies (ha : Address.require json = .ok a) (hd : Envelope.IsData payload)
    (h : world.Replies (Script.sourceQuery a) (d.view.reads (.ofParameters (Script.sourceQuery a))) payload) :
    (verifiedSource world json ⟨m, none⟩ d).1.result = Envelope.verification payload := by
  have hresult : (verifiedSource world (.str a.text) ⟨m, none⟩ d).1.result = world.sourceAnswer d.view a :=
    verifiedSource_result m d
  rw [Script.sourceAnswer, Script.payloadAnswer,
    Script.explorerAnswer_eq_ok_iff.2 (Script.tells_of_replies h hd)] at hresult
  rw [verifiedSource, address_eq ha]
  exact hresult

theorem firstTransaction_of_replies (ha : Address.require json = .ok a) (hd : Envelope.IsData payload)
    (h : world.Replies (Script.firstQuery a) (d.view.reads (.ofParameters (Script.firstQuery a))) payload) :
    (firstTransaction world json ⟨m, none⟩ d).1.result = .ok (Envelope.firstTime? payload) := by
  have hanswer : world.explorerAnswer d.view.timeout (Script.firstQuery a)
      (d.view.reads (.ofParameters (Script.firstQuery a))) = .ok payload :=
    Script.explorerAnswer_eq_ok_iff.2 (Script.tells_of_replies h hd)
  have hy : Yields (firstTransaction world json) d.view fun r _ => r = .ok (Envelope.firstTime? payload) := by
    rw [firstTransaction, address_eq ha]
    apply yields_bind
    apply yields_address (Address.ofText?_text a)
    apply yields_bind
    apply yields_attempt
    apply yields_explorer
    rw [Script.firstQuery] at hanswer
    rw [hanswer]
    exact yields_pure rfl
  exact hy.run m rfl

theorem status_decides_reading (world : Script) {json : Json} (ha : Address.require json = .ok a) (m : Moment)
    (d : Desk) (hd : Envelope.IsData payload) :
    let status := payload.field? "status"
    let history := (transferHistory world json ⟨m, none⟩ d).1.result
    let source := (verifiedSource world json ⟨m, none⟩ d).1.result
    let first := (firstTransaction world json ⟨m, none⟩ d).1.result
    (status = some (.str "1") ∨ status = some (.int 1)) ∧
    (world.Replies (Script.historyQuery a) (d.view.reads (.ofParameters (Script.historyQuery a))) payload →
      (status = some (.str "1") → ∀ items, Envelope.result payload = .arr items → ∀ tokens,
        history = .ok tokens ↔
          (∀ item ∈ items, Envelope.NamesText item) ∧ tokens = Envelope.contractsOf items) ∧
      (status = some (.int 1) → history = .ok [])) ∧
    (world.Replies (Script.sourceQuery a) (d.view.reads (.ofParameters (Script.sourceQuery a))) payload →
      (status = some (.str "1") → ∀ fields rest code, Envelope.result payload = .arr (.obj fields :: rest) →
        Keyed.get? "SourceCode" fields = some (.str code) → code ≠ "" →
          ∃ name, source = .ok ⟨true, name, .str code⟩) ∧
      (status = some (.int 1) → source = .ok (Envelope.unverified .null))) ∧
    (world.Replies (Script.firstQuery a) (d.view.reads (.ofParameters (Script.firstQuery a))) payload →
      (status = some (.str "1") → ∀ entry rest stamp seconds, Envelope.result payload = .arr (entry :: rest) →
        entry.field? "timeStamp" = some stamp → stamp.toInt = .ok seconds →
        (Calendar.Timestamp.ofSeconds seconds).inRange = true →
          first = .ok (some (.ofSeconds seconds))) ∧
      (status = some (.int 1) → first = .ok none)) := by
  intro status history source first
  refine ⟨Envelope.statusText_eq_one_iff.1 hd.2, fun hreplies => ?_, fun hreplies => ?_, fun hreplies => ?_⟩
  · have hhistory : history = Envelope.tokens payload := transferHistory_of_replies ha hd hreplies
    rw [hhistory]
    refine ⟨fun htext items hitems tokens => ?_, Envelope.tokens_of_number⟩
    exact Envelope.tokens_eq_ok_iff (Envelope.items?_of_text htext hitems)
  · have hsource : source = Envelope.verification payload := verifiedSource_of_replies ha hd hreplies
    rw [hsource]
    refine ⟨fun htext fields rest code hitems hcode hne => ?_, Envelope.verification_of_number⟩
    exact Envelope.verification_of_text (Envelope.items?_of_text htext hitems) hcode hne
  · have hfirst : first = .ok (Envelope.firstTime? payload) := firstTransaction_of_replies ha hd hreplies
    rw [hfirst]
    constructor
    · intro htext entry rest stamp seconds hitems hstamp hseconds hrange
      rw [Envelope.firstTime?, Envelope.items?_of_text htext hitems]
      simp only [hstamp, hseconds, Option.bind_eq_bind, Option.bind_some, Except.toOption, if_pos hrange]
    · intro hnumber
      rw [Envelope.firstTime?_of_number hnumber]

def statusEntry : Json :=
  .obj [("contractAddress", .str Address.zeroText), ("SourceCode", .str "contract"), ("timeStamp", .str "0")]

def statusPayload (status : Json) : Json :=
  .obj [("status", status), ("message", .str "OK"), ("result", .arr [statusEntry])]

def statusWorld (status : Json) : Script :=
  { Script.quiet with explorer := fun _ _ => [.atOnce (statusPayload status)] }

theorem replies_statusWorld (status : Json) {params : Keyed Json} {n : Nat} :
    (statusWorld status).Replies params n (statusPayload status) := by
  change (Entry.pick _ [_] n).reply = _
  rw [Entry.pick_singleton]
  rfl

theorem contractsOf_statusEntry : Envelope.contractsOf [statusEntry] = [Address.zeroText] := by decide +kernel

theorem namesText_statusEntry : ∀ item ∈ [statusEntry], Envelope.NamesText item := by
  intro item hitem
  rw [List.mem_singleton.1 hitem]
  exact ⟨_, rfl, fun v hv _ => ⟨Address.zeroText, by cases hv; rfl⟩⟩

theorem status_decides_reading_text :
    Address.require (.str Address.zeroText) = .ok .zero ∧ Envelope.IsData (statusPayload (.str "1")) ∧
    (transferHistory (statusWorld (.str "1")) (.str Address.zeroText) ⟨.ofInstant .start, none⟩ .idle).1.result =
      .ok [Address.zeroText] ∧
    (firstTransaction (statusWorld (.str "1")) (.str Address.zeroText) ⟨.ofInstant .start, none⟩
      .idle).1.result = .ok (some (.ofSeconds 0)) := by
  have hdata : Envelope.IsData (statusPayload (.str "1")) := ⟨⟨_, rfl⟩, rfl⟩
  have haddress : Address.require (.str Address.zeroText) = .ok .zero := rfl
  obtain ⟨-, hhistory, -, hfirst⟩ :=
    status_decides_reading (statusWorld (.str "1")) haddress (.ofInstant .start) .idle hdata
  refine ⟨haddress, hdata, ?_, ?_⟩
  · exact ((hhistory (replies_statusWorld _)).1 rfl [statusEntry] rfl _).2
      ⟨namesText_statusEntry, contractsOf_statusEntry.symm⟩
  · exact (hfirst (replies_statusWorld _)).1 rfl statusEntry [] (.str "0") 0 rfl rfl rfl rfl

theorem status_number_unread :
    Envelope.IsData (statusPayload (.int 1)) ∧
    Envelope.result (statusPayload (.int 1)) = .arr [statusEntry] ∧
    Envelope.contractsOf [statusEntry] = [Address.zeroText] ∧
    (transferHistory (statusWorld (.int 1)) (.str Address.zero.text) ⟨.ofInstant .start, none⟩ .idle).1.result =
      .ok [] ∧
    (verifiedSource (statusWorld (.int 1)) (.str Address.zero.text) ⟨.ofInstant .start, none⟩ .idle).1.result =
      .ok (Envelope.unverified .null) ∧
    (firstTransaction (statusWorld (.int 1)) (.str Address.zero.text) ⟨.ofInstant .start, none⟩
      .idle).1.result = .ok none := by
  have hdata : Envelope.IsData (statusPayload (.int 1)) :=
    ⟨⟨_, rfl⟩, Envelope.statusText_eq_one_iff.2 (.inr rfl)⟩
  have hzero := Address.require_text .zero
  refine ⟨hdata, rfl, contractsOf_statusEntry, ?_, ?_, ?_⟩
  · rw [transferHistory_of_replies hzero hdata (replies_statusWorld _), Envelope.tokens_of_number rfl]
  · rw [verifiedSource_of_replies hzero hdata (replies_statusWorld _), Envelope.verification_of_number rfl]
  · rw [firstTransaction_of_replies hzero hdata (replies_statusWorld _), Envelope.firstTime?_of_number rfl]

end Work

end ChainRisk
