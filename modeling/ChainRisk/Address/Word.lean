import ChainRisk.Address.Basic
import ChainRisk.Text.Case

namespace ChainRisk.Address

/-- The last twenty bytes of a word, filled up with zeros in front when it is short. -/
def ofWord (w : Bytes) : Address :=
  ⟨(w.leftpad 32 0).drop ((w.leftpad 32 0).length - 20), by
    simp only [List.length_drop, List.length_leftpad]; omega⟩

def toWord (a : Address) : Bytes := List.replicate 12 0 ++ a.bytes

def topic (address : String) : String :=
  String.ofList ('0' :: 'x' :: List.replicate 24 '0' ++ (Text.lower address).toList.drop 2)

end ChainRisk.Address
