import ChainRisk.Proofs.AddressText

namespace ChainRisk

namespace Hex

theorem toUpper_toLower {c : Char} {n : Nat} (h : value? c = some n) : c.toLower.toUpper = c.toUpper :=
  forall_of_value? (p := fun c _ => c.toLower.toUpper = c.toUpper) (by decide) h

theorem map_toUpper_of_toBytes? {cs : List Char} {bs : List UInt8} (h : toBytes? cs = some bs) :
    cs.map Char.toUpper = (ofBytes bs).map Char.toUpper := by
  rw [← map_toLower_of_toBytes? h, List.map_map]
  refine List.map_congr_left fun c hc => ?_
  obtain ⟨n, hn⟩ := Option.isSome_iff_exists.1 (isDigit_of_toBytes? h hc)
  exact (toUpper_toLower hn).symm

theorem capitalised_replicate (cs : List Char) :
    capitalised cs (List.replicate cs.length 8) = cs.map Char.toUpper := by
  induction cs with
  | nil => rfl
  | cons c cs ih =>
    rw [List.length_cons, List.replicate_succ, capitalised, if_pos (Nat.le_refl 8), ih, List.map_cons]

theorem toBytes?_map_toUpper {cs : List Char} {bs : List UInt8} (h : toBytes? cs = some bs) :
    toBytes? (cs.map Char.toUpper) = some bs := by
  rw [← capitalised_replicate]
  exact toBytes?_capitalised h _

def marked? (s : String) : Option Bytes :=
  match s.toList with
  | '0' :: 'x' :: ds => toBytes? ds
  | _ => none

theorem marked?_eq_some_iff {s : String} {bs : Bytes} :
    marked? s = some bs ↔ ∃ ds, s.toList = '0' :: 'x' :: ds ∧ toBytes? ds = some bs := by
  unfold marked?
  split
  · next ds hs => simp [hs]
  · next hmark =>
    refine iff_of_false (by simp) ?_
    rintro ⟨ds, hs, -⟩
    exact hmark ds hs

end Hex

namespace Address

variable {hash : Digest} {a : Address} {s t : String} {v : Json} {ds : List Char}

def capitalText (a : Address) : String := String.ofList ('0' :: 'x' :: a.body.map Char.toUpper)

def textBy (hash : Digest) (a : Address) : String := String.ofList ('0' :: 'x' :: a.checksumBody hash)

/-- The texts that are accepted for an address. Some of them may be the same. -/
def spellings (hash : Digest) (a : Address) : List String := [a.smallText, a.capitalText, a.textBy hash]

def requireBy (hash : Digest) : Json → Attempt Address
  | .str s =>
    match parse? hash s.toList with
    | some a => .ok a
    | none => .error (.invalidAddress (.str s))
  | v => .error (.invalidAddress v)

def accepts (hash : Digest) (v : Json) : Bool := (requireBy hash v).toOption.isSome

def canonical (hash : Digest) (v : Json) : Attempt String := (requireBy hash v).map (textBy hash)

theorem require_eq_requireBy : require v = requireBy keccak v := by
  cases v with
  | str s => rfl
  | _ => rfl

theorem oneCase_iff (h : Hex.toBytes? ds = some a.bytes) :
    oneCase ds = true ↔ ds = a.body ∨ ds = a.body.map Char.toUpper := by
  rw [oneCase, Bool.or_eq_true, beq_iff_eq, beq_iff_eq, Hex.map_toLower_of_toBytes? h,
    Hex.map_toUpper_of_toBytes? h]
  rfl

theorem eq_ofList_iff : s = String.ofList ds ↔ s.toList = ds := by
  constructor
  · rintro rfl
    exact String.toList_ofList
  · rintro rfl
    exact String.ofList_toList.symm

theorem parse?_toList_eq_some_iff : parse? hash s.toList = some a ↔ s ∈ spellings hash a := by
  rw [parse?_eq_some_iff]
  simp only [spellings, List.mem_cons, List.not_mem_nil, or_false, smallText, capitalText, textBy, eq_ofList_iff]
  constructor
  · rintro ⟨ds, hs, hds, hcase⟩
    rw [Bool.or_eq_true, oneCase_iff hds, beq_iff_eq] at hcase
    rw [hs]
    rcases hcase with (rfl | rfl) | rfl
    · exact .inl rfl
    · exact .inr (.inl rfl)
    · exact .inr (.inr rfl)
  · have hbody : Hex.toBytes? a.body = some a.bytes := Hex.toBytes?_ofBytes a.bytes
    rintro (hs | hs | hs)
    · exact ⟨_, hs, hbody, by rw [(oneCase_iff hbody).2 (.inl rfl), Bool.true_or]⟩
    · have hupper := Hex.toBytes?_map_toUpper hbody
      exact ⟨_, hs, hupper, by rw [(oneCase_iff hupper).2 (.inr rfl), Bool.true_or]⟩
    · exact ⟨_, hs, toBytes?_checksumBody hash a, by rw [beq_self_eq_true, Bool.or_true]⟩

theorem requireBy_eq_ok_iff : requireBy hash v = .ok a ↔ ∃ s ∈ spellings hash a, v = .str s := by
  cases v with
  | str s =>
    simp only [← parse?_toList_eq_some_iff, Json.str.injEq, exists_eq_right', requireBy]
    cases parse? hash s.toList <;> simp
  | _ => simp [requireBy]

theorem requireBy_eq_error (h : ∀ a, ∀ s ∈ spellings hash a, v ≠ .str s) :
    requireBy hash v = .error (.invalidAddress v) := by
  cases v with
  | str s =>
    have hnone : parse? hash s.toList = none :=
      Option.eq_none_iff_forall_ne_some.2 fun a ha => h a s (parse?_toList_eq_some_iff.1 ha) rfl
    rw [requireBy, hnone]
  | _ => rfl

theorem marked?_of_mem_spellings (h : s ∈ spellings hash a) : Hex.marked? s = some a.bytes := by
  obtain ⟨ds, hs, hds, -⟩ := parse?_eq_some_iff.1 (parse?_toList_eq_some_iff.2 h)
  exact Hex.marked?_eq_some_iff.2 ⟨ds, hs, hds⟩

theorem textBy_mem_spellings : a.textBy hash ∈ spellings hash a := by
  simp [spellings]

theorem accepts_iff : accepts hash v = true ↔ ∃ a, ∃ s ∈ spellings hash a, v = .str s := by
  simp only [accepts, ← requireBy_eq_ok_iff]
  cases requireBy hash v <;> simp [Except.toOption]

theorem canonical_of_mem_spellings (h : s ∈ spellings hash a) : canonical hash (.str s) = .ok (a.textBy hash) := by
  rw [canonical, requireBy_eq_ok_iff.2 ⟨s, h, rfl⟩]
  rfl

theorem canonical_eq_ok (h : canonical hash v = .ok t) :
    ∃ a, t = a.textBy hash ∧ ∃ s ∈ spellings hash a, v = .str s := by
  rw [canonical] at h
  cases hv : requireBy hash v with
  | error e =>
    rw [hv] at h
    cases h
  | ok a =>
    rw [hv] at h
    exact ⟨a, (Except.ok.inj h).symm, requireBy_eq_ok_iff.1 hv⟩

theorem canonical_spellings (hash : Digest) :
    (∀ a s, accepts hash (.str s) = true ∧ Hex.marked? s = some a.bytes ↔ s ∈ spellings hash a) ∧
    (∀ a, ∀ s ∈ spellings hash a, canonical hash (.str s) = .ok (a.textBy hash)) ∧
    (∀ s t, canonical hash (.str s) = .ok t → Hex.marked? t = Hex.marked? s) ∧
    (∀ v t, canonical hash v = .ok t → accepts hash (.str t) = true ∧ canonical hash (.str t) = .ok t) ∧
    (∀ v, accepts hash v = true ↔ ∃ a, ∃ s ∈ spellings hash a, v = .str s) ∧
    (∀ v, (∀ a, ∀ s ∈ spellings hash a, v ≠ .str s) → canonical hash v = .error (.invalidAddress v)) ∧
    ∀ v, accepts keccak v = (require v).toOption.isSome ∧ canonical keccak v = (require v).map text := by
  refine ⟨fun a s => ⟨?_, fun h => ⟨?_, marked?_of_mem_spellings h⟩⟩, fun a s h => canonical_of_mem_spellings h,
    fun s t h => ?_, fun v t h => ?_, fun v => accepts_iff, fun v h => ?_, fun v => ?_⟩
  · rintro ⟨haccepts, hmarked⟩
    obtain ⟨b, s', hmem, hs⟩ := accepts_iff.1 haccepts
    cases hs
    have hbytes : b.bytes = a.bytes := Option.some.inj ((marked?_of_mem_spellings hmem).symm.trans hmarked)
    exact eq_of_bytes hbytes ▸ hmem
  · exact accepts_iff.2 ⟨a, s, h, rfl⟩
  · obtain ⟨a, rfl, s', hmem, hs⟩ := canonical_eq_ok h
    cases hs
    rw [marked?_of_mem_spellings hmem, marked?_of_mem_spellings textBy_mem_spellings]
  · obtain ⟨a, rfl, -⟩ := canonical_eq_ok h
    exact ⟨accepts_iff.2 ⟨a, _, textBy_mem_spellings, rfl⟩, canonical_of_mem_spellings textBy_mem_spellings⟩
  · rw [canonical, requireBy_eq_error h]
    rfl
  · rw [accepts, canonical, require_eq_requireBy]
    exact ⟨rfl, rfl⟩

def alternating : Digest := fun cs => (List.range cs.length).map fun i => if i % 2 = 0 then 8 else 0

def lettered : Address := ⟨List.replicate 20 0xab, rfl⟩

theorem canonical_spellings_lettered :
    let mixed := "0xAbAbAbAbAbAbAbAbAbAbAbAbAbAbAbAbAbAbAbAb"
    let other := "0xaBabababababababababababababababababaBAB"
    lettered.capitalText ∈ spellings alternating lettered ∧
    canonical alternating (.str lettered.capitalText) = .ok mixed ∧
    Hex.marked? mixed = Hex.marked? lettered.capitalText ∧
    accepts alternating (.str mixed) = true ∧ canonical alternating (.str mixed) = .ok mixed ∧
    accepts alternating (.str other) = false ∧
    canonical alternating (.str other) = .error (.invalidAddress (.str other)) := by
  intro mixed other
  obtain ⟨-, hspellings, hvalue, hagain, haccepts, hrefused, -⟩ := canonical_spellings alternating
  have hmem : lettered.capitalText ∈ spellings alternating lettered := by simp [spellings]
  have hmixed : lettered.textBy alternating = mixed := by decide +kernel
  have hcanonical : canonical alternating (.str lettered.capitalText) = .ok mixed := hmixed ▸ hspellings _ _ hmem
  have hother : accepts alternating (.str other) = false := by decide +kernel
  obtain ⟨hmixedAccepted, hmixedKept⟩ := hagain _ _ hcanonical
  refine ⟨hmem, hcanonical, hvalue _ _ hcanonical, hmixedAccepted, hmixedKept, hother, hrefused _ ?_⟩
  intro a s hs hv
  have htrue := (haccepts (.str other)).2 ⟨a, s, hs, hv⟩
  exact Bool.false_ne_true (hother.symm.trans htrue)

end Address

end ChainRisk
