import ChainRisk.Detector.EntryBody
import ChainRisk.Detector.Marker
import ChainRisk.Finding

namespace ChainRisk

namespace Json

def holds (word : String) : Json → Attempt Bool
  | str s => .ok (Text.contains word s)
  | arr items => .ok (items.any fun v => v.str? == some word)
  | obj fields => .ok (fields.any fun f => f.1 == word)
  | _ => .error (.mismatch .wrongType)

end Json

structure Detector where
  type : Json
  severity : Severity
  description : Json
  finds : Bytes → Json → Attempt Bool

namespace Detector

def finding (d : Detector) : Finding := ⟨d.type, d.severity, d.description⟩

def findsMarked (marker word : String) (code : Bytes) (source : Json) : Attempt Bool :=
  if source.isSome && holdsMarker marker code then source.holds word else .ok false

def delegatecall : Detector where
  type := .str "DELEGATECALL"
  severity := .high
  description :=
    .str "Contract uses delegatecall which can be dangerous if not properly secured"
  finds := findsMarked delegatecallMarker "delegatecall"

def selfdestruct : Detector where
  type := .str "SELFDESTRUCT"
  severity := .high
  description := .str "Contract contains selfdestruct capability"
  finds := findsMarked selfdestructMarker "selfdestruct"

def holdsAny (words : List String) (source : Json) : Attempt Bool :=
  (words.mapM source.holds).map (·.any id)

def takeoverWords (source : Json) : Attempt Bool := do
  let entry ← holdsAny ["receive()", "fallback()"] source
  let change ← holdsAny ["owner =", "_owner ="] source
  let sender ← source.holds "msg.sender"
  pure (entry && change && sender)

def findsTakeover (source : Json) : Attempt Bool := do
  if !source.isSome then return false
  if !(← takeoverWords source) then return false
  match source with
  | .str s => pure (findsEntry "receive" s.toList || findsEntry "fallback" s.toList)
  | _ => .error (.mismatch .wrongType)

def dangerousReceive : Detector where
  type := .str "DANGEROUS_RECEIVE"
  severity := .high
  description :=
    .str ("Contract contains a receive/fallback function that can modify ownership - " ++
      "potential for ownership hijacking")
  finds := fun _ source => findsTakeover source

def ofWord (type : Json) (severity : Severity) (description : Json) (word : String) : Detector where
  type := type
  severity := severity
  description := description
  finds := fun _ source => if source.isSome then source.holds word else .ok false

def standard : List Detector := [delegatecall, selfdestruct, dangerousReceive]

def scan (code : Bytes) (source : Json) : List Detector → Attempt (List Finding)
  | [] => .ok []
  | d :: ds => do
    let found ← d.finds code source
    let rest ← scan code source ds
    pure (if found then d.finding :: rest else rest)

end Detector

end ChainRisk
