import ChainRisk.Failure
import ChainRisk.Text.Case
import ChainRisk.Time.Calendar

namespace ChainRisk

structure Verification where
  verified : Bool
  contractName : Json
  source : Json

namespace Envelope

def result (payload : Json) : Json := (payload.field? "result").getD .null

def items? (payload : Json) : Option (List Json) :=
  match payload.field? "status", result payload with
  | some (.str "1"), .arr vs => some vs
  | _, _ => none

def optionalField (name : String) : Json → Attempt Json
  | .obj fields => .ok ((Keyed.get? name fields).getD .null)
  | _ => .error (.mismatch .noSuchOperation)

def unverified (name : Json) : Verification := ⟨false, name, .null⟩

def verification (payload : Json) : Attempt Verification :=
  match items? payload with
  | some (first :: _) => do
    let entry := first.orElse (.obj [])
    let source ← optionalField "SourceCode" entry
    let name ← optionalField "ContractName" entry
    let name := name.orElse .null
    pure (if source.isSome then ⟨true, name, source⟩ else unverified name)
  | _ => .ok (unverified .null)

def firstTime? (payload : Json) : Option Calendar.Timestamp :=
  match items? payload with
  | some (first :: _) => do
    let stamp ← first.field? "timeStamp"
    let seconds ← stamp.toInt.toOption
    let t := Calendar.Timestamp.ofSeconds seconds
    if t.inRange then some t else none
  | _ => none

def tokenOf (item : Json) : Attempt String := do
  let v ← optionalField "contractAddress" item
  if !v.isSome then pure ""
  else match v with
    | .str s => pure (Text.lower s)
    | _ => .error (.mismatch .noSuchOperation)

def tokens (payload : Json) : Attempt (List String) :=
  match items? payload with
  | some items => (items.mapM tokenOf).map fun ts => (ts.filter (· != "")).eraseDups
  | none => .ok []

end Envelope

end ChainRisk
