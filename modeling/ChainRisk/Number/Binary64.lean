/-!
Binary floating-point numbers of 64 bits, held exactly: a finite number is a sign and a count of
units of 2^-1074. Sums, products and quotients are computed exactly and rounded once, to 53
significant bits with ties to even.
-/

namespace ChainRisk

inductive Binary64
  | finite (negative : Bool) (units : Nat)
  | infinite (negative : Bool)
  | nan
  deriving DecidableEq, Repr

namespace Binary64

def one : Nat := Nat.pow 2 1074

def bound : Nat := Nat.pow 2 2098

def spacing (q : Nat) : Nat := Nat.pow 2 (q.log2 + 1 - 53)

/-- `num / den` to the nearest integer, a half to the even neighbour. -/
def roundedDiv (num den : Nat) : Nat :=
  let q := num / den
  let r := num % den
  if den < 2 * r ∨ (2 * r = den ∧ q % 2 = 1) then q + 1 else q

def nearest (num den : Nat) : Nat :=
  roundedDiv num (den * spacing (num / den)) * spacing (num / den)

def ofUnits (negative : Bool) (units : Nat) : Binary64 :=
  if units < bound then finite negative units else infinite negative

def ofRatio (negative : Bool) (num den : Nat) : Binary64 := ofUnits negative (nearest num den)

def ofInt (n : Int) : Binary64 := ofRatio (decide (n < 0)) (n.natAbs * one) 1

def ofDecimal (negative : Bool) (digits : Nat) (exponent : Int) : Binary64 :=
  let magnitude := exponent + (Nat.toDigits 10 digits).length
  if digits = 0 ∨ magnitude < -400 then finite negative 0
  else if 400 < magnitude then infinite negative
  else if 0 ≤ exponent then ofRatio negative (digits * Nat.pow 10 exponent.toNat * one) 1
  else ofRatio negative (digits * one) (Nat.pow 10 (-exponent).toNat)

def zero : Binary64 := finite false 0

def signed (negative : Bool) (units : Nat) : Int := if negative then -units else units

def neg : Binary64 → Binary64
  | finite s u => finite (!s) u
  | infinite s => infinite (!s)
  | nan => nan

def add : Binary64 → Binary64 → Binary64
  | finite s u, finite t v =>
    let sum := signed s u + signed t v
    if sum = 0 then finite (s && t) 0 else ofRatio (decide (sum < 0)) sum.natAbs 1
  | infinite s, infinite t => if s = t then infinite s else nan
  | nan, _ => nan
  | _, nan => nan
  | infinite s, finite _ _ => infinite s
  | finite _ _, infinite t => infinite t

def sub (x y : Binary64) : Binary64 := x.add y.neg

def mul : Binary64 → Binary64 → Binary64
  | finite s u, finite t v => ofRatio (s != t) (u * v) one
  | nan, _ => nan
  | _, nan => nan
  | infinite s, infinite t => infinite (s != t)
  | infinite s, finite t v => if v = 0 then nan else infinite (s != t)
  | finite s u, infinite t => if u = 0 then nan else infinite (s != t)

def div : Binary64 → Binary64 → Binary64
  | finite s u, finite t v =>
    if v = 0 then (if u = 0 then nan else infinite (s != t)) else ofRatio (s != t) (u * one) v
  | nan, _ => nan
  | _, nan => nan
  | infinite _, infinite _ => nan
  | infinite s, finite t _ => infinite (s != t)
  | finite s _, infinite t => finite (s != t) 0

instance : Add Binary64 := ⟨add⟩
instance : Sub Binary64 := ⟨sub⟩
instance : Mul Binary64 := ⟨mul⟩
instance : Div Binary64 := ⟨div⟩
instance : NatCast Binary64 := ⟨fun n => ofInt n⟩

def lt : Binary64 → Binary64 → Bool
  | finite s u, finite t v => decide (signed s u < signed t v)
  | nan, _ => false
  | _, nan => false
  | infinite s, infinite t => s && !t
  | infinite s, finite _ _ => s
  | finite _ _, infinite t => !t

def isZero : Binary64 → Bool
  | finite _ u => u == 0
  | _ => false

def truncated (negative : Bool) (units : Nat) : Int := signed negative (units / one)

end Binary64

end ChainRisk
