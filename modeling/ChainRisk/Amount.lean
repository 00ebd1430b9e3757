import ChainRisk.Failure

/-!
Amounts of a token in its smallest unit, and their text in whole tokens: every digit is kept, and the
fraction has no zeros at its end but has a digit. The greatest numbers of four widths mean no limit.
A number of places is refused when it is not whole or beyond the size of any text.
-/

namespace ChainRisk.Amount

def unlimited : List Nat := [Nat.pow 2 256 - 1, Nat.pow 2 128 - 1, Nat.pow 2 96 - 1, Nat.pow 2 64 - 1]

def isUnlimited (amount : Int) : Bool := unlimited.any fun n => amount == n

def digits (n : Nat) : List Char := Nat.toDigits 10 n

def withoutZeros (cs : List Char) : List Char := (cs.reverse.dropWhile (· == '0')).reverse

def fractionDigits (zeros : Nat) (cs : List Char) : List Char :=
  let kept := withoutZeros cs
  if kept = [] then ['0'] else List.replicate zeros '0' ++ kept

def pointed (n places : Nat) : List Char :=
  let ds := digits n
  if ds.length ≤ places then '0' :: '.' :: fractionDigits (places - ds.length) ds
  else ds.take (ds.length - places) ++ '.' :: fractionDigits 0 (ds.drop (ds.length - places))

def longestText : Nat := Nat.pow 2 63 - 1

variable (room : Nat)

/-- A text needs a length that can be named and memory for so many characters. -/
def Fits (length : Nat) : Prop := length ≤ longestText ∧ length ≤ room

def checkLength (length : Nat) : Attempt Unit :=
  if longestText < length then .error (.mismatch .tooLarge)
  else if room < length then .error (.mismatch .noRoom)
  else .ok ()

/-- The places that a value asks for. Of numbers that are not whole only those below one place are
any, and these ask for none. -/
def places : Json → Attempt Nat
  | .int n => .ok n.toNat
  | .bool b => .ok (if b then 1 else 0)
  | .real x => if x.isZero || x.lt .zero then .ok 0 else .error (.mismatch .wrongType)
  | _ => .error (.mismatch .wrongType)

def units (given decimals : Json) : Attempt String := do
  let n ← given.toInt
  if n < 0 then .error (.negativeAmount given.shown)
  else do
    let k ← places decimals
    checkLength room (k + 1)
    pure (String.ofList (pointed n.toNat k))

def unlimitedText : String := "Unlimited"

def text (given decimals : Json) : Attempt String := do
  let n ← given.toInt
  if isUnlimited n then pure unlimitedText else units room given decimals

end ChainRisk.Amount
