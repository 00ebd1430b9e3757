import ChainRisk.Address.Word
import ChainRisk.Failure
import ChainRisk.Proofs.SmallLetters

namespace ChainRisk

namespace Hex

theorem toNat_lt_of_value? {c : Char} {n : Nat} (h : value? c = some n) : c.toNat < 128 := by
  have hle {x y : Char} (hxy : x ≤ y) : x.toNat ≤ y.toNat := hxy
  unfold value? at h
  split at h
  · next hc => exact Nat.lt_of_le_of_lt (hle hc.2) (by decide)
  · split at h
    · next hc => exact Nat.lt_of_le_of_lt (hle hc.2) (by decide)
    · split at h
      · next hc => exact Nat.lt_of_le_of_lt (hle hc.2) (by decide)
      · cases h

theorem forall_of_value? {p : Char → Nat → Prop}
    (h : ∀ k < 128, ∀ n ∈ value? (Char.ofNat k), p (Char.ofNat k) n) {c : Char} {n : Nat}
    (hc : value? c = some n) : p c n :=
  Text.forall_of_lt (p := fun c => ∀ n ∈ value? c, p c n) h (toNat_lt_of_value? hc) n hc

theorem value?_lt {c : Char} {n : Nat} (h : value? c = some n) : n < 16 :=
  forall_of_value? (p := fun _ n => n < 16) (by decide) h

theorem digit_of_value? {c : Char} {n : Nat} (h : value? c = some n) : digit n = c.toLower :=
  forall_of_value? (p := fun c n => digit n = c.toLower) (by decide) h

theorem value?_toUpper {c : Char} {n : Nat} (h : value? c = some n) : value? c.toUpper = some n :=
  forall_of_value? (p := fun c n => value? c.toUpper = some n) (by decide) h

def IsDigit (c : Char) : Prop :=
  ('0' ≤ c ∧ c ≤ '9') ∨ ('a' ≤ c ∧ c ≤ 'f') ∨ ('A' ≤ c ∧ c ≤ 'F')

theorem isDigit_iff {c : Char} : isDigit c = true ↔ IsDigit c := by
  unfold isDigit value? IsDigit
  split
  · next h => exact iff_of_true rfl (.inl h)
  · next hdecimal =>
    split
    · next h => exact iff_of_true rfl (.inr (.inl h))
    · next hsmall =>
      split
      · next h => exact iff_of_true rfl (.inr (.inr h))
      · next hcapital =>
        refine iff_of_false (by simp) ?_
        rintro (h | h | h)
        · exact hdecimal h
        · exact hsmall h
        · exact hcapital h

theorem ofByte_ofNat {x y : Nat} (hx : x < 16) (hy : y < 16) :
    ofByte (UInt8.ofNat (16 * x + y)) = [digit x, digit y] := by
  have hb : (UInt8.ofNat (16 * x + y)).toNat = 16 * x + y := by
    rw [UInt8.toNat_ofNat']
    omega
  rw [ofByte, hb, show (16 * x + y) / 16 = x by omega, show (16 * x + y) % 16 = y by omega]

theorem toBytes?_cons_cons {a b : Char} {cs : List Char} {bs : List UInt8}
    (h : toBytes? (a :: b :: cs) = some bs) : ∃ x y rest, value? a = some x ∧ value? b = some y ∧
      toBytes? cs = some rest ∧ bs = UInt8.ofNat (16 * x + y) :: rest := by
  rw [toBytes?] at h
  simp only [Option.bind_eq_bind, Option.bind_eq_some_iff, Option.pure_def, Option.some.injEq] at h
  obtain ⟨x, hx, y, hy, rest, hrest, hbs⟩ := h
  exact ⟨x, y, rest, hx, hy, hrest, hbs.symm⟩

theorem isDigit_of_toBytes? {cs : List Char} {bs : List UInt8} (h : toBytes? cs = some bs) {c : Char}
    (hc : c ∈ cs) : isDigit c = true := by
  fun_induction toBytes? cs generalizing bs with
  | case1 => cases hc
  | case2 => cases h
  | case3 a b r ih =>
    obtain ⟨x, y, rest, hx, hy, hrest, -⟩ := toBytes?_cons_cons h
    rcases List.mem_cons.1 hc with rfl | hc
    · rw [isDigit, hx]
      rfl
    · rcases List.mem_cons.1 hc with rfl | hc
      · rw [isDigit, hy]
        rfl
      · exact ih hrest hc

theorem toNat_lt_of_toBytes? {cs : List Char} {bs : List UInt8} (h : toBytes? cs = some bs) {c : Char}
    (hc : c ∈ cs) : c.toNat < 128 := by
  obtain ⟨n, hn⟩ := Option.isSome_iff_exists.1 (isDigit_of_toBytes? h hc)
  exact toNat_lt_of_value? hn

theorem map_toLower_of_toBytes? {cs : List Char} {bs : List UInt8} (h : toBytes? cs = some bs) :
    cs.map Char.toLower = ofBytes bs := by
  fun_induction toBytes? cs generalizing bs with
  | case1 => cases h; rfl
  | case2 => cases h
  | case3 a b r ih =>
    obtain ⟨x, y, rest, hx, hy, hrest, rfl⟩ := toBytes?_cons_cons h
    rw [List.map_cons, List.map_cons, ih hrest, ← digit_of_value? hx, ← digit_of_value? hy]
    change _ = ofByte _ ++ ofBytes rest
    rw [ofByte_ofNat (value?_lt hx) (value?_lt hy)]
    rfl

theorem length_of_toBytes? {cs : List Char} {bs : List UInt8} (h : toBytes? cs = some bs) :
    cs.length = 2 * bs.length := by
  rw [← length_ofBytes, ← map_toLower_of_toBytes? h, List.length_map]

theorem toBytes?_capitalised {cs : List Char} {bs : List UInt8} (h : toBytes? cs = some bs)
    (ns : List Nat) : toBytes? (capitalised cs ns) = some bs := by
  have hv {c : Char} {x : Nat} (hc : value? c = some x) (n : Nat) :
      value? (if 8 ≤ n then c.toUpper else c) = some x := by
    split
    · exact value?_toUpper hc
    · exact hc
  fun_induction toBytes? cs generalizing bs ns with
  | case1 => cases ns <;> exact h
  | case2 => cases h
  | case3 a b r ih =>
    obtain ⟨x, y, rest, hx, hy, hrest, rfl⟩ := toBytes?_cons_cons h
    match ns with
    | [] => simp [capitalised, toBytes?, hx, hy, hrest]
    | [n] =>
      have hr := ih hrest []
      cases r <;> simp_all [capitalised, toBytes?]
    | n :: k :: ns => simp [capitalised, toBytes?, hv hx, hv hy, ih hrest ns]

end Hex

namespace Address

theorem eq_of_bytes {a b : Address} (h : a.bytes = b.bytes) : a = b := by
  cases a
  cases b
  cases h
  rfl

theorem ofBody?_eq_some_iff {cs : List Char} {a : Address} :
    ofBody? cs = some a ↔ Hex.toBytes? cs = some a.bytes := by
  rw [ofBody?]
  cases Hex.toBytes? cs with
  | none => simp
  | some bs =>
    obtain ⟨bytes, length_bytes⟩ := a
    simp only [Option.dite_none_right_eq_some, Option.some.injEq, mk.injEq, exists_prop]
    refine ⟨fun h => h.2, fun h => ⟨?_, h⟩⟩
    rw [h, length_bytes]

theorem parse?_eq_some_iff {hash : Digest} {cs : List Char} {a : Address} : parse? hash cs = some a ↔
    ∃ ds, cs = '0' :: 'x' :: ds ∧ Hex.toBytes? ds = some a.bytes ∧
      (oneCase ds || ds == a.checksumBody hash) = true := by
  constructor
  · intro h
    unfold parse? at h
    split at h
    · next ds =>
      refine ⟨ds, rfl, ?_⟩
      split at h
      · next b hb =>
        split at h
        · next hcase =>
          cases h
          exact ⟨ofBody?_eq_some_iff.1 hb, hcase⟩
        · cases h
      · cases h
    · cases h
  · rintro ⟨ds, rfl, hds, hcase⟩
    simp only [parse?, ofBody?_eq_some_iff.2 hds, hcase, if_true]

theorem toBytes?_checksumBody (hash : Digest) (a : Address) :
    Hex.toBytes? (a.checksumBody hash) = some a.bytes :=
  Hex.toBytes?_capitalised (Hex.toBytes?_ofBytes a.bytes) _

theorem ofText?_text (a : Address) : ofText? a.text = some a := by
  rw [ofText?, text, String.toList_ofList]
  exact parse?_eq_some_iff.2 ⟨_, rfl, toBytes?_checksumBody keccak a, by simp⟩

theorem ofText?_of_require {v : Json} {a : Address} (h : require v = .ok a) :
    ∃ s, v = .str s ∧ ofText? s = some a := by
  cases v with
  | str s =>
    rw [require] at h
    cases ha : ofText? s with
    | none => rw [ha] at h; cases h
    | some b => rw [ha] at h; cases h; exact ⟨s, rfl, ha⟩
  | _ => cases h

theorem require_of_ofText? {s : String} {a : Address} (h : ofText? s = some a) :
    require (.str s) = .ok a := by
  rw [require, h]

theorem require_text (a : Address) : require (.str a.text) = .ok a := require_of_ofText? (ofText?_text a)

theorem toBytes?_of_ofText? {s : String} {a : Address} (h : ofText? s = some a) :
    ∃ cs, s.toList = '0' :: 'x' :: cs ∧ Hex.toBytes? cs = some a.bytes := by
  obtain ⟨cs, hs, hcs, -⟩ := parse?_eq_some_iff.1 h
  exact ⟨cs, hs, hcs⟩

theorem map_toLower_of_ofText? {s : String} {a : Address} (h : ofText? s = some a) :
    s.toList.map Char.toLower = a.smallText.toList := by
  obtain ⟨cs, hs, hcs⟩ := toBytes?_of_ofText? h
  rw [smallText, String.toList_ofList, body, ← Hex.map_toLower_of_toBytes? hcs, hs]
  rfl

theorem lower_of_ofText? {s : String} {a : Address} (h : ofText? s = some a) :
    Text.lower s = a.smallText := by
  obtain ⟨cs, hs, hcs⟩ := toBytes?_of_ofText? h
  have hascii : ∀ c ∈ s.toList, c.toNat < 128 := by
    intro c hc
    rw [hs] at hc
    rcases List.mem_cons.1 hc with rfl | hc
    · decide
    · rcases List.mem_cons.1 hc with rfl | hc
      · decide
      · exact Hex.toNat_lt_of_toBytes? hcs hc
  rw [Text.lower, Text.lowerFrom_of_ascii hascii, map_toLower_of_ofText? h, String.ofList_toList]

theorem eq_smallText {s : String} {a : Address} (h : ofText? s = some a)
    (hs : ∀ c ∈ s.toList, c.toLower = c) : s = a.smallText := by
  rw [← String.ofList_toList (s := s), ← String.ofList_toList (s := a.smallText),
    ← map_toLower_of_ofText? h, (List.map_congr_left hs).trans (List.map_id _)]

def zeroText : String := "0x0000000000000000000000000000000000000000"

theorem ofText?_zeroText : ofText? zeroText = some zero := rfl

def Apart (ts : List String) : Prop :=
  ts.Pairwise fun s t => ∀ a, ofText? s = some a → ofText? t ≠ some a

theorem apart_map_text {as : List Address} (h : as.Nodup) : Apart (as.map text) := by
  rw [Apart, List.pairwise_map]
  refine h.imp fun hne a ha hb => hne ?_
  rw [ofText?_text] at ha hb
  exact Option.some.inj (ha.trans hb.symm)

theorem apart_of_small {ts : List String} (h : ts.Nodup)
    (hs : ∀ t ∈ ts, ∀ c ∈ t.toList, c.toLower = c) : Apart ts := by
  refine List.Pairwise.imp_of_mem (fun {s t} hs' ht hne a ha hb => hne ?_) h
  rw [eq_smallText ha (hs s hs'), eq_smallText hb (hs t ht)]

theorem apart_of_lower {ts : List String} (h : (ts.map Text.lower).Nodup) : Apart ts := by
  rw [List.Nodup, List.pairwise_map] at h
  refine h.imp fun hne a ha hb => hne ?_
  rw [lower_of_ofText? ha, lower_of_ofText? hb]

end Address

end ChainRisk
