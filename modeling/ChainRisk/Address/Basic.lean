import ChainRisk.Hash.Keccak
import ChainRisk.Hex

/-!
Addresses are twenty bytes. Their text is a mark and forty hexadecimal digits; the capitals of the
letters are a checksum, drawn from a hash of the text in small letters. A text in one case carries
no checksum and is accepted too.
-/

namespace ChainRisk

abbrev Bytes := List UInt8

structure Address where
  bytes : Bytes
  length_bytes : bytes.length = 20
  deriving DecidableEq

abbrev Digest := List Char → List Nat

def capitalised : List Char → List Nat → List Char
  | [], _ => []
  | cs, [] => cs
  | c :: cs, n :: ns => (if 8 ≤ n then c.toUpper else c) :: capitalised cs ns

namespace Address

def zero : Address := ⟨List.replicate 20 0, rfl⟩

def body (a : Address) : List Char := Hex.ofBytes a.bytes

def checksumBody (hash : Digest) (a : Address) : List Char := capitalised a.body (hash a.body)

def ofBody? (cs : List Char) : Option Address :=
  match Hex.toBytes? cs with
  | some bs => if h : bs.length = 20 then some ⟨bs, h⟩ else none
  | none => none

def oneCase (cs : List Char) : Bool := cs == cs.map Char.toLower || cs == cs.map Char.toUpper

/-- The address of a text: its mark is `0x`, and letters of both cases must be the checksum. -/
def parse? (hash : Digest) : List Char → Option Address
  | '0' :: 'x' :: cs =>
    match ofBody? cs with
    | some a => if oneCase cs || cs == a.checksumBody hash then some a else none
    | none => none
  | _ => none

def keccak : Digest := fun cs =>
  (Keccak.digest (cs.map fun c => c.toNat.toUInt8)).flatMap fun b =>
    [b.toNat / 16, b.toNat % 16]

def ofText? (s : String) : Option Address := parse? keccak s.toList

def text (a : Address) : String := String.ofList ('0' :: 'x' :: a.checksumBody keccak)

def smallText (a : Address) : String := String.ofList ('0' :: 'x' :: a.body)

end Address

end ChainRisk
