import ChainRisk.Amount
import ChainRisk.Chain.Script

namespace ChainRisk.Script

def faultKind? : String → Option FaultKind
  | "value" => some .value
  | "connection" => some .connection
  | "timeout" => some .timeout
  | "client" => some .client
  | "runtime" => some .runtime
  | _ => none

def seconds : Json → Binary64
  | .int n => .ofInt n
  | .real x => x
  | _ => .zero

def fault? (v : Json) : Option Fault :=
  match v.field? "e", v.field? "http", v.field? "json" with
  | some (.arr [.str kind, .str message]), _, _ => (faultKind? kind).map (⟨·, message⟩)
  | _, some (.str message), _ => some ⟨.client, message⟩
  | _, _, some (.str message) => some ⟨.value, message⟩
  | _, _, _ => none

def entryOf {α : Type} (read : Json → α) (v : Json) : Entry α where
  reply :=
    match fault? v with
    | some f => .fault f
    | none => .value (read ((v.field? "v").getD .null))
  delay := seconds ((v.field? "d").getD .null)

def entriesOf {α : Type} (read : Json → α) : Option Json → List (Entry α)
  | some (.arr vs) => vs.map (entryOf read)
  | some v => [entryOf read v]
  | none => []

def bytesOf (s : String) : Bytes :=
  let cs := s.toList
  (Hex.toBytes? (if ['0', 'x'].isPrefixOf cs then cs.drop 2 else cs)).getD []

def bytesOf? (v : Json) : Option Bytes := v.str?.map bytesOf

def logOf : Json → Log
  | .arr topics => some (topics.map fun t => (bytesOf? t).getD [])
  | _ => none

def logsOf : Json → Option (List Log)
  | .arr logs => some (logs.map logOf)
  | _ => none

def at? (v : Json) : List String → Option Json
  | [] => some v
  | name :: path => (v.field? name).bind fun v => at? v path

def ofJson (epoch : Binary64) (v : Json) : Script where
  epoch := epoch
  room := Amount.longestText
  code a := entriesOf bytesOf? (at? v ["code", a.smallText])
  storage a slot :=
    entriesOf bytesOf? (at? v ["storage", a.smallText, String.ofList (Hex.ofInt slot)])
  blockNumber := entriesOf id (at? v ["block_number"])
  logs token := entriesOf logsOf (at? v ["logs", token.smallText])
  tokenField token f := entriesOf id (at? v ["tokens", token.smallText, f.text])
  allowance token spender :=
    entriesOf id (at? v ["allowances", token.smallText, spender.smallText])
  explorer action address :=
    match action with
    | some name => entriesOf id (at? v ["explorer", name, address])
    | none => []

end ChainRisk.Script
