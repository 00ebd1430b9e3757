import ChainRisk.Proofs.AddressForms
import Mathlib.Data.List.Induction
import Mathlib.Tactic.Ring

namespace ChainRisk

namespace Hex

theorem ofBytes_append (bs cs : Bytes) : ofBytes (bs ++ cs) = ofBytes bs ++ ofBytes cs := List.flatMap_append

end Hex

def bigEndian (bs : Bytes) : Nat := bs.foldl (fun n b => 256 * n + b.toNat) 0

theorem bigEndian_concat (bs : Bytes) (b : UInt8) : bigEndian (bs ++ [b]) = 256 * bigEndian bs + b.toNat := by
  rw [bigEndian, List.foldl_append]
  rfl

theorem bigEndian_append (bs cs : Bytes) :
    bigEndian (bs ++ cs) = bigEndian bs * 256 ^ cs.length + bigEndian cs := by
  induction cs using List.reverseRecOn with
  | nil => simp [bigEndian]
  | append_singleton cs c ih =>
    rw [← List.append_assoc, bigEndian_concat, bigEndian_concat, ih, List.length_append, List.length_singleton,
      Nat.pow_succ]
    ring

theorem bigEndian_lt (bs : Bytes) : bigEndian bs < 256 ^ bs.length := by
  induction bs using List.reverseRecOn with
  | nil => decide
  | append_singleton bs b ih =>
    have hb := b.toNat_lt
    rw [bigEndian_concat, List.length_append, List.length_singleton, Nat.pow_succ]
    omega

theorem bigEndian_eq_zero_iff {bs : Bytes} : bigEndian bs = 0 ↔ ∀ b ∈ bs, b = 0 := by
  induction bs using List.reverseRecOn with
  | nil => simp [bigEndian]
  | append_singleton bs b ih =>
    have hb : b.toNat = 0 ↔ b = 0 := by rw [← UInt8.toNat_inj]; rfl
    rw [bigEndian_concat, Nat.add_eq_zero_iff, Nat.mul_eq_zero, ih, hb]
    simp [or_imp, forall_and]

theorem bigEndian_leftpad (n : Nat) (bs : Bytes) : bigEndian (bs.leftpad n 0) = bigEndian bs := by
  have hzeros : bigEndian (List.replicate (n - bs.length) 0) = 0 :=
    bigEndian_eq_zero_iff.2 fun b hb => List.eq_of_mem_replicate hb
  rw [List.leftpad, bigEndian_append, hzeros, Nat.zero_mul, Nat.zero_add]

namespace Address

variable {a b : Address} {w w' : Bytes}

/-- The low twenty bytes of a word. One that is short is filled up with zeros. -/
def lowBytes (w : Bytes) : Bytes := (w.drop (w.length - 20)).leftpad 20 0

theorem bigEndian_lowBytes (w : Bytes) : bigEndian (lowBytes w) = bigEndian w % 2 ^ 160 := by
  have hsize : 2 ^ 160 = 256 ^ 20 := by decide
  have hlow := bigEndian_lt (w.drop (w.length - 20))
  rw [List.length_drop] at hlow
  rw [lowBytes, bigEndian_leftpad, hsize]
  by_cases hshort : w.length ≤ 20
  · rw [Nat.sub_eq_zero_of_le hshort, List.drop_zero] at hlow ⊢
    exact (Nat.mod_eq_of_lt (hlow.trans_le (Nat.pow_le_pow_right (by decide) hshort))).symm
  · have hlength : w.length - (w.length - 20) = 20 := by omega
    rw [hlength] at hlow
    conv_rhs => rw [← List.take_append_drop (w.length - 20) w, bigEndian_append, List.length_drop, hlength]
    rw [Nat.mul_add_mod_self_right, Nat.mod_eq_of_lt hlow]

theorem bytes_ofWord_eq_lowBytes (w : Bytes) : (ofWord w).bytes = lowBytes w := by
  simp only [ofWord, lowBytes, List.leftpad, List.length_append, List.length_replicate, List.length_drop]
  by_cases hshort : w.length ≤ 20
  · have hzeros : (32 - w.length + w.length - 20) = 12 := by omega
    rw [hzeros, List.drop_append_of_le_length (by rw [List.length_replicate]; omega), List.drop_replicate,
      Nat.sub_eq_zero_of_le hshort, List.drop_zero]
    congr 2
    omega
  · have hfull : 20 - (w.length - (w.length - 20)) = 0 := by omega
    rw [hfull, List.replicate_zero, List.nil_append, List.drop_append, List.length_replicate,
      List.drop_eq_nil_of_le (by rw [List.length_replicate]; omega), List.nil_append]
    congr 1
    omega

theorem eq_of_text (h : a.text = b.text) : a = b := by
  have ha := ofText?_text a
  rw [h, ofText?_text] at ha
  exact (Option.some.inj ha).symm

theorem text_ofWord_eq_iff : (ofWord w).text = (ofWord w').text ↔ lowBytes w = lowBytes w' := by
  rw [← bytes_ofWord_eq_lowBytes, ← bytes_ofWord_eq_lowBytes]
  exact ⟨fun h => congrArg bytes (eq_of_text h), fun h => congrArg text (eq_of_bytes h)⟩

theorem lowBytes_toWord (a : Address) : lowBytes a.toWord = a.bytes := by
  have hlength : a.toWord.length = 32 := by simp [toWord, a.length_bytes]
  have hdrop : a.toWord.drop 12 = a.bytes := List.drop_left' (List.length_replicate ..)
  rw [lowBytes, hlength, hdrop, List.leftpad, a.length_bytes]
  rfl

theorem ofWord_toWord (a : Address) : ofWord a.toWord = a :=
  eq_of_bytes ((bytes_ofWord_eq_lowBytes _).trans (lowBytes_toWord a))

theorem toList_topic (a : Address) : (topic a.text).toList = '0' :: 'x' :: Hex.ofBytes a.toWord := by
  rw [topic, lower_of_ofText? (ofText?_text a), smallText, String.toList_ofList, String.toList_ofList, toWord,
    Hex.ofBytes_append]
  rfl

theorem marked?_topic (a : Address) : Hex.marked? (topic a.text) = some a.toWord :=
  Hex.marked?_eq_some_iff.2 ⟨_, toList_topic a, Hex.toBytes?_ofBytes _⟩

theorem toWord_ofWord (w : Bytes) : (ofWord w).toWord = List.replicate 12 0 ++ lowBytes w := by
  rw [toWord, bytes_ofWord_eq_lowBytes]

theorem toWord_ofWord_eq_iff : (ofWord w).toWord = w ↔ w.length = 32 ∧ w.take 12 = List.replicate 12 0 := by
  constructor
  · intro h
    have hlength : w.length = 32 := by rw [← h, toWord, List.length_append, (ofWord w).length_bytes]; rfl
    refine ⟨hlength, ?_⟩
    rw [← h, toWord, List.take_left' (List.length_replicate ..)]
  · rintro ⟨hlength, hzeros⟩
    have hlow : lowBytes w = w.drop 12 := by
      rw [lowBytes, hlength, List.leftpad, List.length_drop, hlength]
      rfl
    rw [toWord_ofWord, hlow, ← hzeros, List.take_append_drop]

theorem topics_and_words :
    (∀ v a, require v = .ok a →
      (∃ w, Hex.marked? (topic a.text) = some w ∧ require v = .ok (ofWord w)) ∧
      ∃ ds, (topic a.text).toList = '0' :: 'x' :: ds ∧ ds.length = 64 ∧ ∀ c ∈ ds, Hex.IsDigit c) ∧
    (∀ w, Hex.marked? (topic (ofWord w).text) = some (List.replicate 12 0 ++ lowBytes w)) ∧
    (∀ w, Hex.marked? (topic (ofWord w).text) = some w ↔ w.length = 32 ∧ w.take 12 = List.replicate 12 0) ∧
    ∀ w w', (ofWord w).text = (ofWord w').text ↔ lowBytes w = lowBytes w' := by
  refine ⟨fun v a hv => ⟨⟨_, marked?_topic a, ?_⟩, _, toList_topic a, ?_, fun c hc => ?_⟩, fun w => ?_, fun w => ?_,
    fun w w' => text_ofWord_eq_iff⟩
  · rw [hv, ofWord_toWord]
  · rw [Hex.length_ofBytes, toWord, List.length_append, a.length_bytes]
    rfl
  · exact Hex.isDigit_iff.1 (Hex.isDigit_of_toBytes? (Hex.toBytes?_ofBytes a.toWord) hc)
  · rw [marked?_topic, toWord_ofWord]
  · rw [marked?_topic, Option.some.injEq, toWord_ofWord_eq_iff]

theorem topics_and_words_lettered :
    require (.str lettered.capitalText) = .ok lettered ∧
    ∃ w, Hex.marked? (topic lettered.text) = some w ∧ require (.str lettered.capitalText) = .ok (ofWord w) := by
  have hlettered : require (.str lettered.capitalText) = .ok lettered := by
    rw [require_eq_requireBy]
    exact requireBy_eq_ok_iff.2 ⟨_, by simp [spellings], rfl⟩
  obtain ⟨hword, -⟩ := topics_and_words.1 _ _ hlettered
  exact ⟨hlettered, hword⟩

end Address

end ChainRisk
