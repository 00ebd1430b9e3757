/-!
Surrogates are the units of 16 bits of which only a pair denotes a character. A text here holds none of
them alone, so a lone one stands in it as a code point of the fourth plane, where no character is assigned:
U+4D800 to U+4DFFF are the units themselves in every text, and no text is taken to hold these code points.
-/

namespace ChainRisk.Text

def isLeadUnit (n : Nat) : Bool := 0xd800 ≤ n && n < 0xdc00

def isTrailUnit (n : Nat) : Bool := 0xdc00 ≤ n && n < 0xe000

def paired (lead trail : Nat) : Char := Char.ofNat (65536 + 1024 * (lead - 0xd800) + (trail - 0xdc00))

def leadUnit (c : Char) : Nat := 0xd800 + (c.toNat - 65536) / 1024

def trailUnit (c : Char) : Nat := 0xdc00 + (c.toNat - 65536) % 1024

def standInDistance : Nat := 0x40000

def standIn (unit : Nat) : Char := Char.ofNat (unit + standInDistance)

def loneUnit? (c : Char) : Option Nat :=
  if 0xd800 + standInDistance ≤ c.toNat ∧ c.toNat < 0xe000 + standInDistance then
    some (c.toNat - standInDistance)
  else none

end ChainRisk.Text
