import Mathlib.Data.List.DropRight
import ChainRisk.Proofs.WrittenNumbers
import ChainRisk.Proofs.WrittenText

namespace ChainRisk.Json

open Numeral

def Spaces (cs : List Char) : Prop := ∀ c ∈ cs, isWritingSpace c = true

def Ends (rest : List Char) : Prop := ∀ c ∈ rest.head?, isNumberChar c = false

structure Reads (text : List Char) (v : Json) : Prop where
  start : ∃ c r, text = c :: r ∧ isWritingSpace c = false ∧ c ≠ ']'
  read : ∀ {fuel rest}, text.length ≤ fuel → Ends rest → readValue fuel (text ++ rest) = some (v, rest)

inductive ReadsField : List Char → String × Json → Prop
  | mk (name : String) {text : List Char} {v : Json} (h : Reads text v) :
    ReadsField ((writtenText name).toList ++ ':' :: ' ' :: text) (rejoined name, v)

variable {c : Char} {cs lead rest text r : List Char} {acc : List Json} {fields : List (String × Json)}
  {fuel : Nat} {v : Json} {name : String}

theorem skipSpace_append (h : Spaces lead) : skipSpace (lead ++ cs) = skipSpace cs :=
  List.dropWhile_append_of_pos h

theorem skipSpace_cons (h : isWritingSpace c = false) : skipSpace (c :: r) = c :: r :=
  List.dropWhile_cons_of_neg (by simp [h])

theorem skipSpace_skipSpace (cs : List Char) : skipSpace (skipSpace cs) = skipSpace cs :=
  List.dropWhile_idempotent _ cs

theorem isNumberChar_of_isWritingSpace (h : isWritingSpace c = true) : isNumberChar c = false := by
  simp only [isWritingSpace, Bool.or_eq_true, beq_iff_eq] at h
  rcases h with ((rfl | rfl) | rfl) | rfl <;> rfl

theorem ends_of_spaces (h : Spaces lead) (hc : isNumberChar c = false) :
    Ends (lead ++ c :: r) := by
  cases lead with
  | nil => rintro x ⟨⟩; exact hc
  | cons s lead => rintro x ⟨⟩; exact isNumberChar_of_isWritingSpace (h s List.mem_cons_self)

theorem readValue_skipSpace (fuel : Nat) (cs : List Char) :
    readValue fuel (skipSpace cs) = readValue fuel cs := by
  cases fuel with
  | zero => rfl
  | succ fuel => rw [readValue.eq_2, readValue.eq_2, skipSpace_skipSpace]

theorem readItems_skipSpace (fuel : Nat) (acc : List Json) (cs : List Char) :
    readItems fuel acc (skipSpace cs) = readItems fuel acc cs := by
  cases fuel with
  | zero => rfl
  | succ fuel => rw [readItems, readItems, readValue_skipSpace]

theorem readFields_skipSpace (fuel : Nat) (fields : List (String × Json)) (cs : List Char) :
    readFields fuel fields (skipSpace cs) = readFields fuel fields cs := by
  cases fuel with
  | zero => rfl
  | succ fuel => rw [readFields, readFields, skipSpace_skipSpace]

theorem readValue_spaces (h : Spaces lead) : readValue fuel (lead ++ cs) = readValue fuel cs := by
  rw [← readValue_skipSpace, skipSpace_append h, readValue_skipSpace]

theorem readValue_space : readValue fuel (' ' :: cs) = readValue fuel cs :=
  @readValue_spaces cs [' '] fuel (by simp [Spaces, isWritingSpace])

theorem toList_writtenText (s : String) (rest : List Char) :
    (writtenText s).toList ++ rest = '"' :: (s.toList.flatMap writtenChar ++ '"' :: rest) := by
  simp [writtenText]

theorem readValue_text (s : String) (rest : List Char) :
    readValue (fuel + 1) ((writtenText s).toList ++ rest) = some (.str (rejoined s), rest) := by
  rw [toList_writtenText, readValue.eq_2, skipSpace_cons rfl]
  simp only [readText_written, Option.map_some]

theorem readValue_items (h : ∀ x, skipSpace r ≠ ']' :: x) :
    readValue (fuel + 1) ('[' :: r) = readItems fuel [] r := by
  rw [readValue.eq_2, skipSpace_cons rfl]
  simp only
  exact readItems_skipSpace fuel [] r

theorem readValue_fields (h : ∀ x, skipSpace r ≠ '\x7d' :: x) :
    readValue (fuel + 1) ('\x7b' :: r) = readFields fuel [] r := by
  rw [readValue.eq_2, skipSpace_cons rfl]
  simp only
  exact readFields_skipSpace fuel [] r

theorem readItems_next (h : readValue fuel cs = some (v, ',' :: r)) :
    readItems (fuel + 1) acc cs = readItems fuel (v :: acc) r := by
  rw [readItems, h]
  rfl

theorem readItems_last (h : readValue fuel cs = some (v, lead ++ ']' :: r)) (hlead : Spaces lead) :
    readItems (fuel + 1) acc cs = some (.arr (v :: acc).reverse, r) := by
  have hclose : skipSpace (lead ++ ']' :: r) = ']' :: r := (skipSpace_append hlead).trans (skipSpace_cons rfl)
  rw [readItems, h]
  simp only [hclose]

theorem readFields_next (hlead : Spaces lead) (h : readValue fuel cs = some (v, ',' :: r)) :
    readFields (fuel + 1) fields (lead ++ ((writtenText name).toList ++ ':' :: ' ' :: cs)) =
      readFields fuel (Keyed.put (rejoined name) v fields) r := by
  have hcolon : skipSpace (':' :: ' ' :: cs) = ':' :: ' ' :: cs := skipSpace_cons rfl
  have hcomma : skipSpace (',' :: r) = ',' :: r := skipSpace_cons rfl
  rw [readFields, skipSpace_append hlead, toList_writtenText, skipSpace_cons rfl]
  simp only [readText_written, hcolon, readValue_space, h, hcomma]

theorem readFields_last {close : List Char} (hlead : Spaces lead) (hclose : Spaces close)
    (h : readValue fuel cs = some (v, close ++ '\x7d' :: r)) :
    readFields (fuel + 1) fields (lead ++ ((writtenText name).toList ++ ':' :: ' ' :: cs)) =
      some (.obj (Keyed.put (rejoined name) v fields), r) := by
  have hcolon : skipSpace (':' :: ' ' :: cs) = ':' :: ' ' :: cs := skipSpace_cons rfl
  have hend : skipSpace (close ++ '\x7d' :: r) = '\x7d' :: r :=
    (skipSpace_append hclose).trans (skipSpace_cons rfl)
  rw [readFields, skipSpace_append hlead, toList_writtenText, skipSpace_cons rfl]
  simp only [readText_written, hcolon, readValue_space, h, hend]

def joined (lead : List Char) : List (List Char) → List Char
  | [] => []
  | [text] => lead ++ text
  | text :: next :: r => lead ++ (text ++ ',' :: joined lead (next :: r))

theorem joined_start (lead text : List Char) (texts : List (List Char)) :
    ∃ r, joined lead (text :: texts) = lead ++ (text ++ r) := by
  cases texts with
  | nil => exact ⟨[], by rw [joined, List.append_nil]⟩
  | cons next texts => exact ⟨_, rfl⟩

theorem ends_comma : Ends (',' :: r) := by
  rintro c ⟨⟩
  rfl

variable {close : List Char} {texts : List (List Char)} {items : List Json}

theorem readItems_joined (hlead : Spaces lead) (hclose : Spaces close)
    (h : List.Forall₂ Reads texts items) (hne : texts ≠ []) (hfuel : (joined lead texts).length < fuel) :
    readItems fuel acc (joined lead texts ++ (close ++ ']' :: rest)) =
      some (.arr (acc.reverse ++ items), rest) := by
  -- the comma behind an item pays for the step to the next one
  induction h generalizing acc fuel with
  | nil => exact absurd rfl hne
  | @cons text v texts items hv hrest ih =>
    obtain ⟨fuel, rfl⟩ := Nat.exists_eq_succ_of_ne_zero (Nat.ne_zero_of_lt hfuel)
    cases hrest with
    | nil =>
      rw [joined, List.length_append] at hfuel
      have hread : readValue fuel (lead ++ (text ++ (close ++ ']' :: rest))) =
          some (v, close ++ ']' :: rest) := by
        rw [readValue_spaces hlead]
        exact hv.read (by omega) (ends_of_spaces hclose rfl)
      rw [joined, List.append_assoc, readItems_last hread hclose, List.reverse_cons]
    | @cons next w texts items hw hrest =>
      simp only [joined, List.length_append, List.length_cons] at hfuel
      have hread : readValue fuel (lead ++ (text ++ ',' ::
          (joined lead (next :: texts) ++ (close ++ ']' :: rest)))) =
          some (v, ',' :: (joined lead (next :: texts) ++ (close ++ ']' :: rest))) := by
        rw [readValue_spaces hlead]
        exact hv.read (by omega) ends_comma
      rw [joined, List.append_assoc, List.append_assoc, List.cons_append, readItems_next hread,
        ih (by simp) (by omega), List.reverse_cons, List.append_assoc]
      rfl

variable {read : List (String × Json)}

theorem readFields_joined (hlead : Spaces lead) (hclose : Spaces close)
    (h : List.Forall₂ ReadsField texts read) (hne : texts ≠ []) (hfuel : (joined lead texts).length < fuel) :
    readFields fuel fields (joined lead texts ++ (close ++ '\x7d' :: rest)) =
      some (.obj (read.foldl (fun acc f => Keyed.put f.1 f.2 acc) fields), rest) := by
  induction h generalizing fields fuel with
  | nil => exact absurd rfl hne
  | @cons text f texts read hf hrest ih =>
    obtain ⟨fuel, rfl⟩ := Nat.exists_eq_succ_of_ne_zero (Nat.ne_zero_of_lt hfuel)
    obtain ⟨name, hv⟩ := hf
    rename_i text v
    cases hrest with
    | nil =>
      simp only [joined, List.length_append, List.length_cons] at hfuel
      have hread : readValue fuel (text ++ (close ++ '\x7d' :: rest)) = some (v, close ++ '\x7d' :: rest) :=
        hv.read (by omega) (ends_of_spaces hclose rfl)
      rw [joined, List.append_assoc, List.append_assoc, List.cons_append, List.cons_append,
        readFields_last hlead hclose hread]
      rfl
    | @cons next w texts read hw hrest =>
      simp only [joined, List.length_append, List.length_cons] at hfuel
      have hread : readValue fuel (text ++ ',' :: (joined lead (next :: texts) ++ (close ++ '\x7d' :: rest))) =
          some (v, ',' :: (joined lead (next :: texts) ++ (close ++ '\x7d' :: rest))) :=
        hv.read (by omega) ends_comma
      rw [joined, List.append_assoc, List.append_assoc, List.append_assoc, List.cons_append, List.cons_append,
        List.cons_append, readFields_next hlead hread, ih (by simp) (by omega)]
      rfl

theorem exists_skipSpace_joined (hlead : Spaces lead) (hc : isWritingSpace c = false)
    (texts : List (List Char)) (rest : List Char) :
    ∃ r', skipSpace (joined lead ((c :: r) :: texts) ++ rest) = c :: r' := by
  obtain ⟨r', hr'⟩ := joined_start lead (c :: r) texts
  rw [hr', List.append_assoc, skipSpace_append hlead, List.cons_append, List.cons_append, skipSpace_cons hc]
  exact ⟨_, rfl⟩

theorem reads_of_start (hstart : ∃ c r, text = c :: r ∧ isWritingSpace c = false ∧ c ≠ ']')
    (h : ∀ {fuel rest}, text.length ≤ fuel + 1 → Ends rest →
      readValue (fuel + 1) (text ++ rest) = some (v, rest)) : Reads text v := by
  refine ⟨hstart, ?_⟩
  intro fuel rest hfuel hrest
  obtain ⟨c, r, htext, -⟩ := hstart
  rw [htext] at hfuel
  obtain ⟨fuel, rfl⟩ := Nat.exists_eq_succ_of_ne_zero (Nat.ne_zero_of_lt hfuel)
  exact h (htext ▸ hfuel) hrest

theorem reads_noItems : Reads ['[', ']'] (.arr []) :=
  reads_of_start ⟨_, _, rfl, rfl, by decide⟩ fun _ _ => rfl

theorem reads_noFields : Reads ['\x7b', '\x7d'] (.obj []) :=
  reads_of_start ⟨_, _, rfl, rfl, by decide⟩ fun _ _ => rfl

theorem reads_items (hlead : Spaces lead) (hclose : Spaces close)
    (h : List.Forall₂ Reads texts items) (hne : texts ≠ []) :
    Reads ('[' :: (joined lead texts ++ (close ++ [']']))) (.arr items) := by
  refine reads_of_start ⟨_, _, rfl, rfl, by decide⟩ ?_
  intro fuel rest hfuel _
  simp only [List.length_cons, List.length_append] at hfuel
  simp only [List.cons_append, List.append_assoc, List.nil_append]
  rw [readValue_items, readItems_joined hlead hclose h hne (by omega)]
  · rfl
  · intro x hx
    cases h with
    | nil => exact hne rfl
    | cons hv =>
      obtain ⟨c, r, rfl, hspace, hc⟩ := hv.start
      obtain ⟨r', hr'⟩ := exists_skipSpace_joined hlead hspace _ _
      rw [hr'] at hx
      exact hc (List.cons.inj hx).1

theorem reads_fields (hlead : Spaces lead) (hclose : Spaces close)
    (h : List.Forall₂ ReadsField texts read) (hne : texts ≠ []) :
    Reads ('\x7b' :: (joined lead texts ++ (close ++ ['\x7d']))) (.obj (Keyed.ofList read)) := by
  refine reads_of_start ⟨_, _, rfl, rfl, by decide⟩ ?_
  intro fuel rest hfuel _
  simp only [List.length_cons, List.length_append] at hfuel
  simp only [List.cons_append, List.append_assoc, List.nil_append]
  rw [readValue_fields, readFields_joined hlead hclose h hne (by omega)]
  · rfl
  · intro x hx
    cases h with
    | nil => exact hne rfl
    | cons hf =>
      obtain ⟨name, hv⟩ := hf
      rw [writtenText, String.toList_ofList, List.cons_append] at hx
      obtain ⟨r', hr'⟩ := exists_skipSpace_joined hlead (show isWritingSpace '"' = false from rfl) _ _
      rw [hr'] at hx
      exact absurd (List.cons.inj hx).1 (by decide)

theorem isWritingSpace_of_isDigit (h : c.isDigit = true) : isWritingSpace c = false :=
  forall_of_isDigit (p := fun c => isWritingSpace c = false) (by decide) h

theorem readValue_digits (s : Bool) {d : Char} (hd : d.isDigit = true) (hcs : cs = signOf s ++ d :: r) :
    readValue (fuel + 1) cs =
      (number? (cs.takeWhile isNumberChar)).map fun v => (v, cs.dropWhile isNumberChar) := by
  have hspace : skipSpace cs = cs := by
    rw [hcs]
    cases s with
    | false => exact skipSpace_cons (isWritingSpace_of_isDigit hd)
    | true => exact skipSpace_cons (c := '-') rfl
  rw [readValue.eq_2, hspace]
  -- no other form of value starts with a digit, and none but one with a sign
  split
  case h_10 => rfl
  all_goals
    cases s
    all_goals
      cases hcs
      try exact absurd hd (by decide)

theorem reads_signed (s : Bool) (h : IsDecimal cs) (hv : number? (signOf s ++ cs) = some v) :
    Reads (signOf s ++ cs) v := by
  obtain ⟨d, r, rfl, hd⟩ := h.start
  apply reads_of_start
  · cases s with
    | false => exact ⟨d, r, rfl, isWritingSpace_of_isDigit hd, by rintro rfl; exact absurd hd (by decide)⟩
    | true => exact ⟨'-', d :: r, rfl, rfl, by decide⟩
  · intro fuel rest _ hrest
    obtain ⟨htake, hdrop⟩ := span_append (isNumberChar_of_signed s h) hrest
    rw [readValue_digits s hd (List.append_assoc _ _ _), htake, hdrop, hv]
    rfl

theorem word?_append (w : String) (v : Json) (rest : List Char) :
    word? w v (w.toList ++ rest) = some (v, rest) := by
  have hword : w.toList.isPrefixOf (w.toList ++ rest) = true :=
    List.isPrefixOf_iff_prefix.2 (List.prefix_append _ _)
  rw [word?, if_pos hword, ← String.length_toList, List.drop_left]

theorem reads_word {w : String}
    (h : ∀ fuel rest, readValue (fuel + 1) (w.toList ++ rest) = word? w v (w.toList ++ rest))
    (hstart : ∃ c r, w.toList = c :: r ∧ isWritingSpace c = false ∧ c ≠ ']') : Reads w.toList v := by
  refine reads_of_start hstart ?_
  intro fuel rest _ _
  rw [h, word?_append]

theorem spaces_lead (st : Style) (depth : Nat) : Spaces (st.lead depth).toList := by
  intro c hc
  cases st with
  | oneLine => simp [Style.lead] at hc
  | indented =>
    rw [Style.lead, String.toList_ofList] at hc
    rcases List.mem_cons.1 hc with rfl | hc
    · rfl
    · rw [List.eq_of_mem_replicate hc]
      rfl

theorem toList_intercalate (lead : String) (items : List String) :
    (",".intercalate (items.map (lead ++ ·))).toList = joined lead.toList (items.map String.toList) := by
  rw [String.toList_intercalate]
  induction items with
  | nil => rfl
  | cons text items ih =>
    cases items with
    | nil => simp [joined, List.intercalate_singleton]
    | cons next items =>
      simp only [List.map_cons, List.intercalate_cons_cons] at ih ⊢
      rw [ih, joined, String.toList_append]
      simp

theorem toList_bracketed (st : Style) (depth : Nat) (opening closing : String) {items : List String}
    (hne : items ≠ []) : (bracketed st depth opening closing items).toList =
      opening.toList ++ (joined (st.lead (depth + 1)).toList (items.map String.toList) ++
        ((st.lead depth).toList ++ closing.toList)) := by
  rw [bracketed, if_neg (by simpa using hne)]
  simp only [String.toList_append, toList_intercalate, List.append_assoc]

theorem toList_bracketed_nil (st : Style) (depth : Nat) (opening closing : String) :
    (bracketed st depth opening closing []).toList = opening.toList ++ closing.toList := by
  rw [bracketed, List.isEmpty_nil, if_pos rfl, String.toList_append]

theorem reads_bracketed_items (st : Style) (depth : Nat) {written : List String}
    (h : List.Forall₂ Reads (written.map String.toList) items) :
    Reads (bracketed st depth "[" "]" written).toList (.arr items) := by
  cases written with
  | nil =>
    cases h
    rw [toList_bracketed_nil]
    exact reads_noItems
  | cons text written =>
    rw [toList_bracketed st depth _ _ (List.cons_ne_nil _ _)]
    exact reads_items (spaces_lead st _) (spaces_lead st depth) h (by simp)

theorem reads_bracketed_fields (st : Style) (depth : Nat) {written : List String}
    (h : List.Forall₂ ReadsField (written.map String.toList) read) :
    Reads (bracketed st depth "\x7b" "\x7d" written).toList (.obj (Keyed.ofList read)) := by
  cases written with
  | nil =>
    cases h
    rw [toList_bracketed_nil]
    exact reads_noFields
  | cons text written =>
    rw [toList_bracketed st depth _ _ (List.cons_ne_nil _ _)]
    exact reads_fields (spaces_lead st _) (spaces_lead st depth) h (by simp)

theorem reads_text (s : String) : Reads (writtenText s).toList (.str (rejoined s)) := by
  refine reads_of_start ⟨'"', _, by rw [writtenText, String.toList_ofList], rfl, by decide⟩ ?_
  intro fuel rest _ _
  exact readValue_text s rest

theorem reads_int (n : Int) : Reads (ofInt n).toList (int n) := by
  have hv := number?_ofInt n
  rw [toList_ofInt] at hv ⊢
  exact reads_signed _ (isDecimal_digits _) hv

theorem reads_null : Reads "null".toList null :=
  reads_word (fun _ _ => rfl) ⟨'n', _, rfl, rfl, by decide⟩

theorem reads_bool (b : Bool) : Reads (if b then "true" else "false").toList (bool b) := by
  cases b with
  | true => exact reads_word (fun _ _ => rfl) ⟨'t', _, rfl, rfl, by decide⟩
  | false => exact reads_word (fun _ _ => rfl) ⟨'f', _, rfl, rfl, by decide⟩

def rereadReal : Binary64 → Json
  | .finite s u => (number? (Binary64.finite s u).text.toList).getD null
  | x => real x

mutual

/-- What is read of a value that was written. -/
def reread : Json → Json
  | null => null
  | bool b => bool b
  | int n => int n
  | real x => rereadReal x
  | str s => str (rejoined s)
  | arr items => arr (rereadItems items)
  | obj fields => obj (Keyed.ofList (rereadFields fields))

def rereadItems : List Json → List Json
  | [] => []
  | v :: r => reread v :: rereadItems r

def rereadFields : List (String × Json) → List (String × Json)
  | [] => []
  | (n, v) :: r => (rejoined n, reread v) :: rereadFields r

end

theorem reads_real (x : Binary64) : Reads (writtenReal x).toList (rereadReal x) := by
  cases x with
  | finite s u =>
    obtain ⟨cs, hcs, -, htext⟩ := Binary64.exists_decimal s u
    obtain ⟨v, hv⟩ := exists_number_signed s hcs
    have hread : rereadReal (.finite s u) = v := by rw [rereadReal, htext, hv, Option.getD_some]
    have hwritten : (writtenReal (.finite s u)).toList = signOf s ++ cs := htext
    rw [hread, hwritten]
    exact reads_signed s hcs hv
  | infinite s =>
    cases s with
    | false => exact reads_word (fun _ _ => rfl) ⟨'I', _, rfl, rfl, by decide⟩
    | true =>
      refine reads_of_start ⟨'-', _, rfl, rfl, by decide⟩ ?_
      intro fuel rest _ _
      exact word?_append "Infinity" _ rest
  | nan => exact reads_word (fun _ _ => rfl) ⟨'N', _, rfl, rfl, by decide⟩

mutual

theorem reads_written (st : Style) (depth : Nat) : (v : Json) → Reads (written st depth v).toList v.reread
  | null => by
    rw [written, reread]
    exact reads_null
  | bool b => by
    rw [written, reread]
    exact reads_bool b
  | int n => by
    rw [written, reread]
    exact reads_int n
  | real x => by
    rw [written, reread]
    exact reads_real x
  | str s => by
    rw [written, reread]
    exact reads_text s
  | arr items => by
    rw [written, reread]
    exact reads_bracketed_items st depth (reads_writtenItems st (depth + 1) items)
  | obj fields => by
    rw [written, reread]
    exact reads_bracketed_fields st depth (reads_writtenFields st (depth + 1) fields)

theorem reads_writtenItems (st : Style) (depth : Nat) : (items : List Json) →
    List.Forall₂ Reads ((writtenItems st depth items).map String.toList) (rereadItems items)
  | [] => by
    rw [writtenItems, rereadItems]
    exact .nil
  | v :: r => by
    rw [writtenItems, rereadItems]
    exact .cons (reads_written st depth v) (reads_writtenItems st depth r)

theorem reads_writtenFields (st : Style) (depth : Nat) : (fields : List (String × Json)) →
    List.Forall₂ ReadsField ((writtenFields st depth fields).map String.toList) (rereadFields fields)
  | [] => by
    rw [writtenFields, rereadFields]
    exact .nil
  | (n, v) :: r => by
    rw [writtenFields, rereadFields]
    refine .cons ?_ (reads_writtenFields st depth r)
    have htext : (writtenText n ++ ": " ++ written st depth v).toList =
        (writtenText n).toList ++ ':' :: ' ' :: (written st depth v).toList := by
      simp
    simp only [htext]
    exact .mk n (reads_written st depth v)

end

theorem read?_written (st : Style) (depth : Nat) (v : Json) {blank : String} (h : Spaces blank.toList) :
    read? (written st depth v ++ blank) = some v.reread := by
  have hends : Ends blank.toList := by
    intro c hc
    exact isNumberChar_of_isWritingSpace (h c (List.mem_of_mem_head? hc))
  have hlength : (written st depth v).toList.length ≤ (written st depth v ++ blank).length + 1 := by
    rw [← String.length_toList, String.toList_append, List.length_append]
    omega
  have hblank : (skipSpace blank.toList).isEmpty = true := by
    rw [List.isEmpty_iff, skipSpace, List.dropWhile_eq_nil_iff]
    exact h
  rw [read?, String.toList_append, (reads_written st depth v).read hlength hends]
  exact if_pos hblank

theorem isShort_rereadReal (x : Binary64) : (rereadReal x).isShort = true := by
  cases x with
  | finite s u =>
    obtain ⟨cs, hcs, ⟨c, hc, hmark⟩, htext⟩ := Binary64.exists_decimal s u
    have hdigits : cs.all Numeral.isAsciiDigit = false := List.all_eq_false.2 ⟨c, hc, by simp [hmark]⟩
    obtain ⟨x, hx⟩ := Numeral.exists_magnitude s hcs
    have hread : number? (Numeral.signOf s ++ cs) = some (real x) := by
      rw [number?, Numeral.sign_signed s hcs]
      simp only [hdigits, Bool.false_eq_true, and_false, if_false, hx, Option.map_some]
    rw [rereadReal, htext, hread]
    rfl
  | infinite s => rfl
  | nan => rfl

theorem fieldsShort_put {name : String} {v : Json} (hv : v.isShort = true) {l : Keyed Json}
    (hl : fieldsShort l = true) : fieldsShort (Keyed.put name v l) = true := by
  induction l with
  | nil => simp [Keyed.put, fieldsShort, hv]
  | cons e l ih =>
    obtain ⟨k, w⟩ := e
    simp only [fieldsShort, Bool.and_eq_true] at hl
    rw [Keyed.put]
    split
    · simp [fieldsShort, hv, hl.2]
    · simp [fieldsShort, hl.1, ih hl.2]

theorem fieldsShort_ofList {l : List (String × Json)} (hl : fieldsShort l = true) :
    fieldsShort (Keyed.ofList l) = true := by
  have hfold : ∀ (l acc : List (String × Json)), fieldsShort l = true → fieldsShort acc = true →
      fieldsShort (l.foldl (fun acc e => Keyed.put e.1 e.2 acc) acc) = true := by
    intro l
    induction l with
    | nil => exact fun acc _ hacc => hacc
    | cons e l ih =>
      intro acc hl hacc
      simp only [fieldsShort, Bool.and_eq_true] at hl
      exact ih _ hl.2 (fieldsShort_put hl.1 hacc)
  exact hfold l [] hl rfl

mutual

theorem isShort_reread : (v : Json) → v.isShort = true → v.reread.isShort = true
  | null, _ => by rw [reread]; rfl
  | bool b, _ => by rw [reread]; rfl
  | int n, h => by rw [reread]; exact h
  | real x, _ => by rw [reread]; exact isShort_rereadReal x
  | str s, _ => by rw [reread]; rfl
  | arr items, h => by
    rw [isShort] at h
    rw [reread, isShort]
    exact itemsShort_reread items h
  | obj fields, h => by
    rw [isShort] at h
    rw [reread, isShort]
    exact fieldsShort_ofList (fieldsShort_reread fields h)

theorem itemsShort_reread : (items : List Json) → itemsShort items = true →
    itemsShort (rereadItems items) = true
  | [], _ => by rw [rereadItems]; rfl
  | v :: r, h => by
    simp only [itemsShort, Bool.and_eq_true] at h
    rw [rereadItems, itemsShort, isShort_reread v h.1, itemsShort_reread r h.2]
    rfl

theorem fieldsShort_reread : (fields : List (String × Json)) → fieldsShort fields = true →
    fieldsShort (rereadFields fields) = true
  | [], _ => by rw [rereadFields]; rfl
  | (n, v) :: r, h => by
    simp only [fieldsShort, Bool.and_eq_true] at h
    rw [rereadFields, fieldsShort, isShort_reread v h.1, fieldsShort_reread r h.2]
    rfl

end

theorem decode?_written (st : Style) (depth : Nat) {v : Json} (hv : v.isShort = true) {blank : String}
    (h : Spaces blank.toList) : decode? (written st depth v ++ blank) = some v.reread := by
  rw [decode?, read?_written st depth v h, Option.filter_some, if_pos (isShort_reread v hv)]

end ChainRisk.Json
