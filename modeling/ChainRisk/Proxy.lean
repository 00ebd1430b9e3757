import ChainRisk.Chain.Reads

namespace ChainRisk

structure ProxySlot where
  name : Json
  position : Json

namespace ProxySlot

def ofTexts (name position : String) : ProxySlot := ⟨.str name, .str position⟩

def standard : List ProxySlot := [
  .ofTexts "eip1967" "0x360894a13ba1a3210667c828492db98dca3e2076cc3735a920a3ca505d382bbc",
  .ofTexts "eip1822" "0xc5f16f0fcc639fa48a6947836d9850f504798523bf8c9a3a87d5876cf622bcf7",
  .ofTexts "admin" "0xb53127684a568b3173ae13b9f8a6016e243e63b6e8ee1178d6a717850b5d6103"]

end ProxySlot

structure Delegation where
  implementation : Address
  slot : Json

namespace Delegation

def toJson (d : Option Delegation) : Json :=
  .obj [
    ("is_proxy", .bool d.isSome),
    ("implementation", .ofOption (fun d => .str d.implementation.text) d),
    ("slot_name", .ofOption (·.slot) d)]

end Delegation

namespace Work

def delegation (world : Script) (a : Json) : List ProxySlot → Work (Option Delegation)
  | [] => Activity.pure none
  | slot :: rest => do
    let w ← storage world a slot.position
    if w = zeroWord then delegation world a rest
    else Activity.pure (some ⟨Address.ofWord w, slot.name⟩)

end Work

end ChainRisk
