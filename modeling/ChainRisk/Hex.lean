namespace ChainRisk.Hex

def digit (n : Nat) : Char := if n < 10 then Char.ofNat (48 + n) else Char.ofNat (87 + n)

def value? (c : Char) : Option Nat :=
  if '0' ≤ c ∧ c ≤ '9' then some (c.toNat - 48)
  else if 'a' ≤ c ∧ c ≤ 'f' then some (c.toNat - 87)
  else if 'A' ≤ c ∧ c ≤ 'F' then some (c.toNat - 55)
  else none

def isDigit (c : Char) : Bool := (value? c).isSome

def ofByte (b : UInt8) : List Char := [digit (b.toNat / 16), digit (b.toNat % 16)]

def ofBytes (bs : List UInt8) : List Char := bs.flatMap ofByte

def toBytes? : List Char → Option (List UInt8)
  | [] => some []
  | [_] => none
  | a :: b :: r => do
    let x ← value? a
    let y ← value? b
    let bs ← toBytes? r
    pure (UInt8.ofNat (16 * x + y) :: bs)

def padded (width n : Nat) : List Char := (Nat.toDigits 16 n).leftpad width '0'

def ofInt (n : Int) : List Char :=
  (if n < 0 then ['-'] else []) ++ '0' :: 'x' :: Nat.toDigits 16 n.natAbs

theorem value?_digit {n : Nat} (h : n < 16) : value? (digit n) = some n := by
  revert n
  decide

theorem toBytes?_ofBytes (bs : List UInt8) : toBytes? (ofBytes bs) = some bs := by
  induction bs with
  | nil => rfl
  | cons b bs ih =>
    have h1 : b.toNat / 16 < 16 := by have := b.toNat_lt; omega
    have h2 : b.toNat % 16 < 16 := Nat.mod_lt _ (by decide)
    have h3 : 16 * (b.toNat / 16) + b.toNat % 16 = b.toNat := Nat.div_add_mod _ _
    have ih' : toBytes? (bs.flatMap ofByte) = some bs := ih
    have h4 : UInt8.ofNat (16 * (b.toNat / 16) + b.toNat % 16) = b := by rw [h3, UInt8.ofNat_toNat]
    simp only [ofBytes, ofByte, List.flatMap_cons, List.cons_append, List.nil_append, toBytes?,
      value?_digit h1, value?_digit h2, ih', Option.bind_eq_bind, Option.bind_some,
      Option.pure_def, h4]

theorem length_ofBytes (bs : List UInt8) : (ofBytes bs).length = 2 * bs.length := by
  induction bs with
  | nil => rfl
  | cons b bs ih =>
    have : ofBytes (b :: bs) = ofByte b ++ ofBytes bs := rfl
    rw [this, List.length_append, ih, List.length_cons]
    simp only [ofByte, List.length_cons, List.length_nil]
    omega

end ChainRisk.Hex
