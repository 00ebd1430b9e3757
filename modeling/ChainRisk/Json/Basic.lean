import ChainRisk.Keyed
import ChainRisk.Number.Binary64

namespace ChainRisk

inductive Json
  | null
  | bool (b : Bool)
  | int (n : Int)
  | real (x : Binary64)
  | str (s : String)
  | arr (items : List Json)
  | obj (fields : List (String × Json))

namespace Json

instance : Inhabited Json := ⟨null⟩

/-- Null, false, zero and whatever is empty count as nothing; all else is something. -/
def isSome : Json → Bool
  | null => false
  | bool b => b
  | int n => n != 0
  | real x => !x.isZero
  | str s => !s.isEmpty
  | arr items => !items.isEmpty
  | obj fields => !fields.isEmpty

def orElse (v other : Json) : Json := if v.isSome then v else other

def field? (name : String) : Json → Option Json
  | obj fields => Keyed.get? name fields
  | _ => none

def str? : Json → Option String
  | str s => some s
  | _ => none

def whole? : Json → Option Int
  | bool b => some (if b then 1 else 0)
  | int n => some n
  | real (.finite s u) =>
    if u % Binary64.one = 0 then some (Binary64.truncated s u) else none
  | _ => none

def ofOption {α : Type} (f : α → Json) : Option α → Json
  | some a => f a
  | none => null

end Json

end ChainRisk
