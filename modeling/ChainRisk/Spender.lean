import ChainRisk.Failure
import ChainRisk.Keyed
import ChainRisk.Text.Case

namespace ChainRisk

structure Spender where
  address : Json
  name : Json
  protocol : Json
  risk : Json

namespace Spender

def ofTexts (address name protocol risk : String) : Spender :=
  ⟨.str address, .str name, .str protocol, .str risk⟩

def addressText (s : Spender) : String := s.address.shown

def unknownName : String := "Unknown Protocol"

def unknownProtocol : String := "Unknown"

def unknownRisk : String := "Unknown"

def unknown (address : Json) : Spender :=
  ⟨address, .str unknownName, .str unknownProtocol, .str unknownRisk⟩

def isKnown (s : Spender) : Bool := s.name.str? != some unknownName

def toJson (s : Spender) : Json :=
  .obj [("address", s.address), ("name", s.name), ("protocol", s.protocol), ("risk", s.risk)]

end Spender

structure SpenderDetails where
  name : Option Json
  protocol : Option Json
  risk : Option Json

def SpenderDetails.spender (address : String) (d : SpenderDetails) : Attempt Spender :=
  match d.name, d.protocol with
  | some name, some protocol =>
    .ok ⟨.str address, name, protocol, d.risk.getD (.str Spender.unknownRisk)⟩
  | _, _ => .error (.mismatch .missingField)

structure SpenderTable where
  entries : Keyed Spender

namespace SpenderTable

def ofList (spenders : List Spender) : SpenderTable :=
  ⟨Keyed.ofList (spenders.map fun s => (Text.lower s.addressText, s))⟩

def enter (t : Keyed Spender) (e : String × SpenderDetails) : Attempt (Keyed Spender) :=
  (e.2.spender e.1).map fun s => Keyed.put (Text.lower e.1) s t

def ofEntries (entries : List (String × SpenderDetails)) : Attempt SpenderTable :=
  (entries.foldlM enter []).map SpenderTable.mk

def get? (t : SpenderTable) (address : String) : Option Spender :=
  Keyed.get? (Text.lower address) t.entries

def get (t : SpenderTable) (address : String) : Attempt Spender :=
  match t.get? address with
  | some s => .ok s
  | none => .error (.mismatch .missingField)

def contains (t : SpenderTable) : Json → Bool
  | .str s => (t.get? s).isSome
  | _ => false

def classify (t : SpenderTable) (address : String) : Spender :=
  (t.get? address).getD (.unknown (.str address))

def size (t : SpenderTable) : Nat := t.entries.length

def keys (t : SpenderTable) : List String := Keyed.keys t.entries

def addresses (t : SpenderTable) : List String := t.entries.map (·.2.addressText)

def wellKnown : List Spender := [
  .ofTexts "0x7a250d5630B4cF539739dF2C5dAcb4c659F2488D" "Uniswap V2 Router" "Uniswap" "LOW",
  .ofTexts "0x68b3465833fb72A70ecDF485E0e4C7bD8665Fc45" "Uniswap V3 Router" "Uniswap" "LOW"]

def standard : SpenderTable := ofList wellKnown

end SpenderTable

end ChainRisk
