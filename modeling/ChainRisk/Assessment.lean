import ChainRisk.Score
import ChainRisk.Time.Calendar

namespace ChainRisk

open Calendar

structure ContractFacts where
  address : Json
  verified : Json
  proxy : Json
  contractName : Json
  implementation : Json
  deployed : Option Timestamp
  findings : List Finding

structure Assessment extends ContractFacts where
  level : RiskLevel
  score : Int
  warnings : List String

namespace Assessment

def ofFacts (f : ContractFacts) : Assessment :=
  let score := Score.compute f.verified.isSome f.proxy.isSome f.findings
  { f with
    level := RiskLevel.ofScore score
    score := score
    warnings := Score.warnings f.verified.isSome f.proxy.isSome f.implementation f.findings }

inductive Change
  | address (v : Json)
  | verified (v : Json)
  | proxy (v : Json)
  | contractName (v : Json)
  | implementation (v : Json)
  | deployed (v : Option Timestamp)
  | findings (v : List Finding)
  | derived (name : String)
  | unknown (name : String)

namespace Change

def apply (f : ContractFacts) : Change → Attempt ContractFacts
  | address v => .ok { f with address := v }
  | verified v => .ok { f with verified := v }
  | proxy v => .ok { f with proxy := v }
  | contractName v => .ok { f with contractName := v }
  | implementation v => .ok { f with implementation := v }
  | deployed v => .ok { f with deployed := v }
  | findings v => .ok { f with findings := v }
  | derived _ => .error (.mismatch .wrongType)
  | unknown _ => .error (.mismatch .wrongType)

def fieldName : Change → String
  | address _ => "address"
  | verified _ => "is_verified"
  | proxy _ => "has_proxy"
  | contractName _ => "contract_name"
  | implementation _ => "proxy_implementation"
  | deployed _ => "deployment_date"
  | findings _ => "issues"
  | derived n => n
  | unknown n => n

end Change

def derivedFields : List String := ["risk_level", "security_score", "warnings"]

def requiredFields : List String := ["address", "is_verified", "has_proxy"]

def blank : ContractFacts := ⟨.null, .null, .null, .null, .null, none, []⟩

def build (cs : List Change) : Attempt Assessment :=
  if requiredFields.all fun f => cs.any fun c => c.fieldName == f then
    (cs.foldlM Change.apply blank).map ofFacts
  else .error (.mismatch .wrongType)

def replace (a : Assessment) (cs : List Change) : Attempt Assessment :=
  match derivedFields.find? fun f => cs.any fun c => c.fieldName == f with
  | some f => .error (.derivedField f)
  | none => (cs.foldlM Change.apply a.toContractFacts).map ofFacts

def toJson (a : Assessment) : Json :=
  .obj [
    ("address", a.address),
    ("is_verified", a.verified),
    ("contract_name", a.contractName),
    ("has_proxy", a.proxy),
    ("proxy_implementation", a.implementation),
    ("deployment_date", .ofOption (fun t => .str t.isoText) a.deployed),
    ("issues", .arr (a.findings.map Finding.toJson)),
    ("risk_level", .str a.level.name),
    ("security_score", .int a.score),
    ("warnings", .arr (a.warnings.map .str))]

def levelText (a : Assessment) : String :=
  if a.level = .high then "🚨 " ++ a.level.name else a.level.name

def titled (title : String) (lines : List String) : List String :=
  if lines.isEmpty then [] else ["", title] ++ lines

def reportLines (a : Assessment) : List String :=
  ["Security Analysis for " ++ (a.contractName.orElse a.address).shown, "",
    "Security Score: " ++ Numeral.ofInt a.score ++ "/100",
    "Risk Level: " ++ a.levelText, ""] ++
  (match a.deployed with
    | some t => ["Deployed: " ++ t.dayText]
    | none => []) ++
  ["Verification: " ++ if a.verified.isSome then "✅ Verified" else "❌ Not Verified"] ++
  (if a.proxy.isSome then
    ["Proxy Status: This is a proxy contract", "Implementation: " ++ a.implementation.shown]
    else []) ++
  titled "Potential Issues:" (a.findings.map fun f =>
    "- [" ++ f.severity.name ++ "] " ++ f.type.shown ++ ": " ++ f.description.shown) ++
  titled "Warnings:" (a.warnings.map ("- " ++ ·))

def report (a : Assessment) : String := "\n".intercalate a.reportLines ++ "\n"

end Assessment

end ChainRisk
