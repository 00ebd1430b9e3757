import ChainRisk.Proofs.Padding
import ChainRisk.Proofs.Untimed
import Mathlib.Data.List.Nodup

namespace ChainRisk

theorem pair_infix_cons_iff {α : Type} {a b c : α} {l : List α} :
    [a, b] <:+: c :: l ↔ (a = c ∧ l.head? = some b) ∨ [a, b] <:+: l := by
  rw [List.infix_cons_iff, List.cons_prefix_cons]
  cases l with
  | nil => simp
  | cons d l => simp [List.cons_prefix_cons, eq_comm]

namespace Hex

theorem digit_inj {m n : Nat} (hm : m < 16) (hn : n < 16) : digit m = digit n ↔ m = n := by
  refine ⟨fun h => ?_, congrArg digit⟩
  have hvalue := congrArg value? h
  rw [value?_digit hm, value?_digit hn] at hvalue
  exact Option.some.inj hvalue

/-- Two digits stand in the bytes one after the other: in one byte, or at the end of one and the start of
the next. -/
def HasDigits (m n : Nat) (bs : Bytes) : Prop :=
  (∃ b ∈ bs, b.toNat = 16 * m + n) ∨ ∃ x y, [x, y] <:+: bs ∧ x.toNat % 16 = m ∧ y.toNat / 16 = n

theorem hasDigits_cons {m n : Nat} (hn : n < 16) {b : UInt8} {bs : Bytes} :
    HasDigits m n (b :: bs) ↔ (b.toNat / 16 = m ∧ b.toNat % 16 = n) ∨
      (b.toNat % 16 = m ∧ ∃ c, bs.head? = some c ∧ c.toNat / 16 = n) ∨ HasDigits m n bs := by
  have hbyte : b.toNat = 16 * m + n ↔ b.toNat / 16 = m ∧ b.toNat % 16 = n := by omega
  have hmeet : (∃ x y, [x, y] <:+: b :: bs ∧ x.toNat % 16 = m ∧ y.toNat / 16 = n) ↔
      (b.toNat % 16 = m ∧ ∃ c, bs.head? = some c ∧ c.toNat / 16 = n) ∨
        ∃ x y, [x, y] <:+: bs ∧ x.toNat % 16 = m ∧ y.toNat / 16 = n := by
    constructor
    · rintro ⟨x, y, hxy, hx, hy⟩
      rcases pair_infix_cons_iff.1 hxy with ⟨rfl, hhead⟩ | hxy
      · exact .inl ⟨hx, y, hhead, hy⟩
      · exact .inr ⟨x, y, hxy, hx, hy⟩
    · rintro (⟨hx, y, hhead, hy⟩ | ⟨x, y, hxy, hx, hy⟩)
      · exact ⟨b, y, pair_infix_cons_iff.2 (.inl ⟨rfl, hhead⟩), hx, hy⟩
      · exact ⟨x, y, pair_infix_cons_iff.2 (.inr hxy), hx, hy⟩
  rw [HasDigits, List.exists_mem_cons_iff, hbyte, hmeet, or_or_or_comm, or_assoc, HasDigits]

theorem head?_ofBytes (bs : Bytes) : (ofBytes bs).head? = bs.head?.map fun b => digit (b.toNat / 16) := by
  cases bs <;> rfl

theorem digits_infix_ofBytes_iff {m n : Nat} (hm : m < 16) (hn : n < 16) (bs : Bytes) :
    [digit m, digit n] <:+: ofBytes bs ↔ HasDigits m n bs := by
  -- each byte adds two places: one inside it, and one where the next byte starts
  induction bs with
  | nil => simp [ofBytes, HasDigits]
  | cons b bs ih =>
    have hupper : b.toNat / 16 < 16 := by have := b.toNat_lt; omega
    have hlower : b.toNat % 16 < 16 := Nat.mod_lt _ (by decide)
    have hnext : (ofBytes bs).head? = some (digit n) ↔ ∃ c, bs.head? = some c ∧ c.toNat / 16 = n := by
      rw [head?_ofBytes, Option.map_eq_some_iff]
      refine exists_congr fun c => and_congr_right fun _ => digit_inj ?_ hn
      have := c.toNat_lt
      omega
    have hcons : ofBytes (b :: bs) = digit (b.toNat / 16) :: digit (b.toNat % 16) :: ofBytes bs := rfl
    rw [hcons, pair_infix_cons_iff, pair_infix_cons_iff, ih, hasDigits_cons hn, digit_inj hm hupper,
      digit_inj hm hlower, hnext, List.head?_cons, Option.some.injEq, digit_inj hlower hn]
    simp only [eq_comm]

end Hex

namespace Detector

open Hex

variable {code : Bytes} {source : Option String} {marker word : String} {f : Finding}

theorem delegatecallMarker_toList : delegatecallMarker.toList = [digit 15, digit 4] := by decide

theorem selfdestructMarker_toList : selfdestructMarker.toList = [digit 15, digit 15] := by decide

theorem mem_scan_iff {v : Json} {detectors : List Detector} {findings : List Finding}
    (h : scan code v detectors = .ok findings) :
    f ∈ findings ↔ ∃ d ∈ detectors, d.finds code v = .ok true ∧ f = d.finding := by
  induction detectors generalizing findings with
  | nil =>
    cases h
    simp
  | cons d detectors ih =>
    obtain ⟨found, hfound, h⟩ := Attempt.bind_eq_ok_iff.1 h
    obtain ⟨rest, hrest, h⟩ := Attempt.bind_eq_ok_iff.1 h
    cases h
    rw [List.exists_mem_cons_iff, ← ih hrest, hfound]
    cases found <;> simp

def Mentions (word : String) (source : Option String) : Prop :=
  ∃ s, source = some s ∧ s ≠ "" ∧ word.toList <:+: s.toList

theorem findsMarked_eq_true_iff : findsMarked marker word code (.ofOption .str source) = .ok true ↔
    marker.toList <:+: ofBytes code ∧ Mentions word source := by
  cases source with
  | none => exact iff_of_false nofun fun ⟨_, _, hs, _⟩ => nomatch hs
  | some s =>
    obtain ⟨found, hfound, hiff⟩ := exists_findsMarked marker word code s
    rw [Json.ofOption, hfound, Except.ok.injEq, hiff]
    constructor
    · rintro ⟨hgiven, hmarker, hword⟩
      exact ⟨hmarker, s, rfl, fun hs => hgiven (String.toList_eq_nil_iff.2 hs), hword⟩
    · rintro ⟨hmarker, _, ⟨⟩, hne, hword⟩
      exact ⟨fun hs => hne (String.toList_eq_nil_iff.1 hs), hmarker, hword⟩

theorem exists_scan_standard (code : Bytes) (source : Option String) :
    ∃ findings, scan code (.ofOption .str source) standard = .ok findings := by
  cases source with
  | none => exact ⟨[], rfl⟩
  | some s =>
    obtain ⟨findings, -, hscan, -⟩ :=
      exists_sublist_scan exists_steady_of_mem_standard (List.infix_refl code) (List.infix_refl s.toList)
    exact ⟨findings, hscan⟩

theorem nodup_standard_types : (standard.map (·.type)).Nodup := by
  simp [standard, delegatecall, selfdestruct, dangerousReceive]

theorem mem_scan_standard_iff {v : Json} {findings : List Finding} (h : scan code v standard = .ok findings)
    {d : Detector} (hd : d ∈ standard) :
    f ∈ findings ∧ f.type = d.type ↔ f = d.finding ∧ d.finds code v = .ok true := by
  rw [mem_scan_iff h]
  constructor
  · rintro ⟨⟨d', hd', hfound, rfl⟩, htype⟩
    obtain rfl := List.inj_on_of_nodup_map nodup_standard_types hd' hd htype
    exact ⟨rfl, hfound⟩
  · rintro ⟨rfl, hfound⟩
    exact ⟨⟨d, hd, hfound, rfl⟩, rfl⟩

theorem standard_reports_iff_digits (code : Bytes) (source : Option String) :
    ("f4".toList <:+: ofBytes code ↔ HasDigits 15 4 code) ∧
    ("ff".toList <:+: ofBytes code ↔ HasDigits 15 15 code) ∧
    ∃ findings, scan code (.ofOption .str source) standard = .ok findings ∧
      (∀ f, f ∈ findings ∧ f.type = .str "DELEGATECALL" ↔
        f = delegatecall.finding ∧ HasDigits 15 4 code ∧ Mentions "delegatecall" source) ∧
      ∀ f, f ∈ findings ∧ f.type = .str "SELFDESTRUCT" ↔
        f = selfdestruct.finding ∧ HasDigits 15 15 code ∧ Mentions "selfdestruct" source := by
  have hdelegatecall : delegatecallMarker.toList <:+: ofBytes code ↔ HasDigits 15 4 code := by
    rw [delegatecallMarker_toList, digits_infix_ofBytes_iff (by decide) (by decide)]
  have hselfdestruct : selfdestructMarker.toList <:+: ofBytes code ↔ HasDigits 15 15 code := by
    rw [selfdestructMarker_toList, digits_infix_ofBytes_iff (by decide) (by decide)]
  obtain ⟨findings, hscan⟩ := exists_scan_standard code source
  refine ⟨hdelegatecall, hselfdestruct, findings, hscan, fun f => ?_, fun f => ?_⟩
  · rw [← hdelegatecall, ← findsMarked_eq_true_iff]
    exact mem_scan_standard_iff hscan List.mem_cons_self
  · rw [← hselfdestruct, ← findsMarked_eq_true_iff]
    exact mem_scan_standard_iff hscan (List.mem_cons_of_mem _ List.mem_cons_self)

example : holdsMarker selfdestructMarker [0x0f, 0xf0] = true := by decide

end Detector

end ChainRisk
