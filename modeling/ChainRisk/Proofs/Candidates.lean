import ChainRisk.Allowance.Survey
import ChainRisk.Proofs.AddressText
import ChainRisk.Proofs.Untimed

namespace ChainRisk

theorem nodup_eraseDups {α : Type} [BEq α] [LawfulBEq α] (l : List α) : l.eraseDups.Nodup := by
  cases l with
  | nil => exact List.nodup_nil
  | cons a l =>
    rw [List.eraseDups_cons, List.nodup_cons]
    exact ⟨by simp, nodup_eraseDups _⟩
termination_by l.length
decreasing_by
  have hlen := List.length_filter_le (fun b => !b == a) l
  simp only [List.length_cons]
  omega

theorem mapM_eq_ok {α β : Type} {f : α → Attempt β} {g : α → β} {l : List α} (h : ∀ a ∈ l, f a = .ok (g a)) :
    l.mapM f = .ok (l.map g) := by
  induction l with
  | nil => rfl
  | cons a l ih =>
    rw [List.mapM_cons, h a (by simp), ih fun b hb => h b (by simp [hb])]
    rfl

namespace Keyed

variable {α : Type}

theorem nodup_keys_put {l : Keyed α} (h : (keys l).Nodup) (key : String) (v : α) :
    (keys (put key v l)).Nodup := by
  rw [keys_put]
  split
  · exact h
  · next hkey =>
    refine List.nodup_append.2 ⟨h, by simp, fun k hk k' hk' e => hkey ?_⟩
    rwa [← List.mem_singleton.1 hk', ← e]

theorem mem_put {l : Keyed α} {key : String} {v : α} {e : String × α} (h : e ∈ put key v l) :
    e = (key, v) ∨ e ∈ l := by
  induction l with
  | nil => exact .inl (List.mem_singleton.1 h)
  | cons f l ih =>
    obtain ⟨k, w⟩ := f
    rw [put] at h
    split at h
    · next hk =>
      rcases List.mem_cons.1 h with rfl | h
      · exact .inl (by rw [hk])
      · exact .inr (List.mem_cons_of_mem _ h)
    · rcases List.mem_cons.1 h with rfl | h
      · exact .inr List.mem_cons_self
      · exact (ih h).imp_right (List.mem_cons_of_mem _)

theorem mem_of_get? {l : Keyed α} {key : String} {v : α} (h : get? key l = some v) : (key, v) ∈ l := by
  induction l with
  | nil => cases h
  | cons e l ih =>
    obtain ⟨k, w⟩ := e
    rw [get?_cons] at h
    split at h
    · next hk =>
      cases h
      exact hk ▸ List.mem_cons_self
    · exact List.mem_cons_of_mem _ (ih h)

theorem get?_eq_none_iff {l : Keyed α} {key : String} : get? key l = none ↔ key ∉ keys l := by
  induction l with
  | nil => simp [get?, keys]
  | cons e l ih =>
    obtain ⟨k, w⟩ := e
    by_cases hk : key = k
    · subst hk
      simp [get?_cons, keys]
    · rw [get?_cons, if_neg hk, ih]
      simp [keys, hk]

theorem put_of_get?_eq_none {l : Keyed α} {key : String} (h : get? key l = none) (v : α) :
    put key v l = l ++ [(key, v)] := by
  induction l with
  | nil => rfl
  | cons e l ih =>
    obtain ⟨k, w⟩ := e
    rw [get?_cons] at h
    split at h
    · cases h
    · next hk => rw [put, if_neg (Ne.symm hk), ih h, List.cons_append]

theorem ofList_spec (l : List (String × α)) : (keys (ofList l)).Nodup ∧ ∀ e ∈ ofList l, e ∈ l := by
  suffices h : ∀ acc : Keyed α, (keys acc).Nodup →
      (keys (l.foldl (fun acc e => put e.1 e.2 acc) acc)).Nodup ∧
        ∀ e ∈ l.foldl (fun acc e => put e.1 e.2 acc) acc, e ∈ acc ∨ e ∈ l by
    obtain ⟨hkeys, hmem⟩ := h [] List.nodup_nil
    exact ⟨hkeys, fun e he => (hmem e he).resolve_left List.not_mem_nil⟩
  induction l with
  | nil => exact fun acc h => ⟨h, fun e he => .inl he⟩
  | cons f l ih =>
    intro acc hacc
    obtain ⟨hkeys, hmem⟩ := ih _ (nodup_keys_put hacc f.1 f.2)
    refine ⟨hkeys, fun e he => ?_⟩
    rcases hmem e he with h | h
    · exact (mem_put h).elim (fun h => .inr (by simp [h])) .inl
    · exact .inr (List.mem_cons_of_mem _ h)

end Keyed

theorem SpenderTable.addresses_map_lower (spenders : List Spender) :
    (ofList spenders).addresses.map Text.lower = (ofList spenders).keys := by
  rw [addresses, List.map_map, keys, Keyed.keys]
  refine List.map_congr_left fun e he => ?_
  obtain ⟨s, -, rfl⟩ := List.mem_map.1 ((Keyed.ofList_spec _).2 e he)
  rfl

theorem SpenderTable.apart_addresses (spenders : List Spender) :
    Address.Apart (ofList spenders).addresses := by
  refine Address.apart_of_lower ?_
  rw [addresses_map_lower]
  exact (Keyed.ofList_spec _).1

namespace Envelope

def contractOf (item : Json) : String := ((item.field? "contractAddress").bind Json.str?).getD ""

def Lists (payload : Json) : Prop :=
  ∀ items, items? payload = some items → ∀ item ∈ items, ∃ fields, item = .obj fields ∧
    ∀ v, Keyed.get? "contractAddress" fields = some v → v.isSome = true → ∃ s, v = .str s

def candidates (payload : Json) : List String :=
  (((((items? payload).getD []).map contractOf).filter (· ≠ "")).map Text.lower).eraseDups

theorem tokenOf_obj {fields : List (String × Json)}
    (h : ∀ v, Keyed.get? "contractAddress" fields = some v → v.isSome = true → ∃ s, v = .str s) :
    tokenOf (.obj fields) = .ok (Text.lower (contractOf (.obj fields))) := by
  have hempty : Text.lower "" = "" := Text.lower_eq_empty_iff.2 rfl
  rw [tokenOf, optionalField, contractOf, Json.field?]
  cases hv : Keyed.get? "contractAddress" fields with
  | none => exact congrArg Except.ok hempty.symm
  | some v =>
    cases hs : v.isSome with
    | false =>
      change (if !v.isSome then _ else _) = _
      rw [hs]
      cases v with
      | str s =>
        have hsempty : s = "" := by simpa [Json.isSome] using hs
        rw [hsempty]
        exact congrArg Except.ok hempty.symm
      | _ => exact congrArg Except.ok hempty.symm
    | true =>
      obtain ⟨s, rfl⟩ := h v hv hs
      change (if !(Json.str s).isSome then _ else _) = _
      rw [hs]
      rfl

theorem tokens_eq_candidates {payload : Json} (h : Lists payload) :
    tokens payload = .ok (candidates payload) := by
  rw [tokens, candidates]
  cases hi : items? payload with
  | none => rfl
  | some items =>
    have hm : items.mapM tokenOf = .ok (items.map (Text.lower ∘ contractOf)) := by
      refine mapM_eq_ok fun item hitem => ?_
      obtain ⟨fields, rfl, hfields⟩ := h items hi item hitem
      exact tokenOf_obj hfields
    have hne : (fun s => s != "") ∘ Text.lower = fun s => decide (s ≠ "") := by
      funext s
      by_cases hs : s = "" <;> simp [Text.lower_eq_empty_iff, hs]
    simp only [hm, Except.map, Option.getD_some, ← List.map_map, List.filter_map, hne]

def NamesText (item : Json) : Prop :=
  ∃ fields, item = .obj fields ∧
    ∀ v, Keyed.get? "contractAddress" fields = some v → v.isSome = true → ∃ s, v = .str s

theorem namesText_of_tokenOf {item : Json} {t : String} (h : tokenOf item = .ok t) : NamesText item := by
  cases item with
  | obj fields =>
    refine ⟨fields, rfl, fun v hv hs => ?_⟩
    rw [tokenOf, optionalField, hv] at h
    change (if !v.isSome then _ else _) = _ at h
    rw [hs] at h
    cases v with
    | str s => exact ⟨s, rfl⟩
    | _ => cases h
  | _ => cases h

theorem lists_of_tokens {payload : Json} {ts : List String} (h : tokens payload = .ok ts) : Lists payload := by
  intro items hitems item hitem
  rw [tokens, hitems] at h
  obtain ⟨found, hfound, -⟩ := Attempt.map_eq_ok_iff.1 h
  obtain ⟨t, ht⟩ := Attempt.exists_mapM_iff.1 ⟨found, hfound⟩ item hitem
  exact namesText_of_tokenOf ht

theorem eq_candidates_of_tokens {payload : Json} {ts : List String} (h : tokens payload = .ok ts) :
    ts = candidates payload := by
  have heq := tokens_eq_candidates (lists_of_tokens h)
  rw [heq] at h
  exact (Except.ok.inj h).symm

theorem small_of_mem_candidates {payload : Json} {t : String} (h : t ∈ candidates payload) :
    ∀ c ∈ t.toList, c.toLower = c := by
  rw [candidates, List.mem_eraseDups] at h
  obtain ⟨s, -, rfl⟩ := List.mem_map.1 h
  exact fun c => Text.toLower_of_mem_lower

end Envelope

namespace Survey

theorem chosen_sublist (s : Survey) (tokens : List String) : List.Sublist (s.chosen tokens) tokens := by
  rw [chosen]
  split
  · exact List.Sublist.refl _
  · split <;> exact List.take_sublist _ _

theorem nodup_chosen (s : Survey) (payload : Json) : (s.chosen (Envelope.candidates payload)).Nodup :=
  (chosen_sublist s _).nodup (nodup_eraseDups _)

theorem apart_chosen (s : Survey) (payload : Json) :
    Address.Apart (s.chosen (Envelope.candidates payload)) :=
  Address.apart_of_small (nodup_chosen s payload)
    fun _ ht => Envelope.small_of_mem_candidates ((chosen_sublist s _).subset ht)

def looksAt (s : Survey) (payload : Json) : List String :=
  match s.cap with
  | none => Envelope.candidates payload
  | some n => (Envelope.candidates payload).take n.toNat

theorem chosen_candidates {s : Survey} (payload : Json) (h : ∀ n, s.cap = some n → 1 ≤ n) :
    s.chosen (Envelope.candidates payload) = s.looksAt payload := by
  rw [chosen, looksAt]
  cases hc : s.cap with
  | none => rfl
  | some n => exact if_pos (Int.le_trans (by decide) (h n hc))

end Survey

end ChainRisk
