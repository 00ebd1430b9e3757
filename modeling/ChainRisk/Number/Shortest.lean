import ChainRisk.Number.Binary64

/-!
Decimal text of floating-point numbers: the fewest digits that read back to the number, of those the
nearest to it, laid out as a record of limits says.
-/

namespace ChainRisk.Binary64

structure Decimal where
  digits : Nat
  exponent : Int
  deriving DecidableEq, Repr

namespace Decimal

def ratio (d : Decimal) : Nat × Nat :=
  if 0 ≤ d.exponent then (d.digits * Nat.pow 10 d.exponent.toNat * one, 1)
  else (d.digits * one, Nat.pow 10 (-d.exponent).toNat)

def readsAs (d : Decimal) (units : Nat) : Bool := nearest d.ratio.1 d.ratio.2 == units

def nearerBelow (units : Nat) (c d : Decimal) : Bool :=
  let (cn, cd) := c.ratio
  let (dn, dd) := d.ratio
  decide ((units * cd - cn) * dd < (dn - units * dd) * cd ∨
    ((units * cd - cn) * dd = (dn - units * dd) * cd ∧ c.digits % 2 = 0))

def trimmed : Nat → Decimal → Decimal
  | 0, d => d
  | fuel + 1, d =>
    if d.digits ≠ 0 ∧ d.digits % 10 = 0 then trimmed fuel ⟨d.digits / 10, d.exponent + 1⟩ else d

end Decimal

def leadingExponent (units : Nat) : Int :=
  ((Nat.toDigits 10 (units * Nat.pow 10 400 / one)).length : Int) - 401

def withDigits? (units n : Nat) : Option Decimal :=
  let e := leadingExponent units - n + 1
  let below : Decimal :=
    if 0 ≤ e then ⟨units / (one * Nat.pow 10 e.toNat), e⟩ else ⟨units * Nat.pow 10 (-e).toNat / one, e⟩
  let above : Decimal := ⟨below.digits + 1, e⟩
  match below.readsAs units, above.readsAs units with
  | true, true => some (if below.nearerBelow units above then below else above)
  | true, false => some below
  | false, true => some above
  | false, false => none

def shortestFrom (units : Nat) : Nat → Nat → Decimal
  | 0, n => (withDigits? units n).getD ⟨0, 0⟩
  | fuel + 1, n =>
    match withDigits? units n with
    | some d => d
    | none => shortestFrom units fuel (n + 1)

def shortest (units : Nat) : Decimal := (shortestFrom units 16 1).trimmed 20

/-- The exponents from `least` up to `limit`, that one excluded, are written without an exponent;
the others have at least `width` digits of exponent. -/
structure Layout where
  least : Int
  limit : Int
  width : Nat

def layout : Layout := ⟨-4, 16, 2⟩

def pointed (ds : List Char) (places : Int) : List Char :=
  if places ≤ 0 then '0' :: '.' :: (List.replicate (-places).toNat '0' ++ ds)
  else if ds.length ≤ places.toNat then ds.rightpad places.toNat '0' ++ ['.', '0']
  else ds.take places.toNat ++ '.' :: ds.drop places.toNat

def Layout.write (l : Layout) (d : Decimal) : List Char :=
  let ds := Nat.toDigits 10 d.digits
  let e := d.exponent + ds.length - 1
  if l.least ≤ e ∧ e < l.limit then pointed ds (e + 1)
  else
    (match ds with
      | [c] => [c]
      | c :: r => c :: '.' :: r
      | [] => []) ++
    'e' :: (if e < 0 then '-' else '+') :: (Nat.toDigits 10 e.natAbs).leftpad l.width '0'

def text : Binary64 → String
  | finite s u =>
    String.ofList ((if s then ['-'] else []) ++
      if u = 0 then ['0', '.', '0'] else layout.write (shortest u))
  | infinite s => if s then "-inf" else "inf"
  | nan => "nan"

end ChainRisk.Binary64
