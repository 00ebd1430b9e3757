namespace ChainRisk

abbrev Keyed (α : Type) := List (String × α)

namespace Keyed

variable {α : Type}

def put (key : String) (v : α) : Keyed α → Keyed α
  | [] => [(key, v)]
  | (k, w) :: r => if k = key then (k, v) :: r else (k, w) :: put key v r

def get? (key : String) (l : Keyed α) : Option α := l.lookup key

def keys (l : Keyed α) : List String := l.map (·.1)

def ofList (l : List (String × α)) : Keyed α := l.foldl (fun acc e => put e.1 e.2 acc) []

theorem get?_cons (key k : String) (v : α) (l : Keyed α) :
    get? key ((k, v) :: l) = if key = k then some v else get? key l := by
  by_cases h : key = k
  · subst h; simp [get?]
  · have hb : (key == k) = false := by simp [h]
    simp [get?, List.lookup_cons, hb, h]

theorem get?_put (l : Keyed α) (key other : String) (v : α) :
    get? other (put key v l) = if other = key then some v else get? other l := by
  induction l with
  | nil => rw [put, get?_cons]
  | cons e l ih =>
    obtain ⟨k, w⟩ := e
    by_cases hk : k = key
    · subst hk
      rw [put, if_pos rfl, get?_cons, get?_cons]
      split <;> rfl
    · rw [put, if_neg hk, get?_cons, get?_cons, ih]
      by_cases h : other = k
      · subst h; simp [hk]
      · simp [h]

theorem keys_put (l : Keyed α) (key : String) (v : α) :
    keys (put key v l) = if key ∈ keys l then keys l else keys l ++ [key] := by
  induction l with
  | nil => simp [put, keys]
  | cons e l ih =>
    obtain ⟨k, w⟩ := e
    by_cases hk : k = key
    · subst hk; simp [put, keys]
    · have hk' : ¬ key = k := fun h => hk h.symm
      have hkeys : ∀ x : Keyed α, keys ((k, w) :: x) = k :: keys x := fun _ => rfl
      rw [put, if_neg hk, hkeys, hkeys, ih]
      simp only [List.mem_cons, hk', false_or]
      split <;> simp

end Keyed

end ChainRisk
