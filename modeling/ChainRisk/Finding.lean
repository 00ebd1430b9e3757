import ChainRisk.Failure

namespace ChainRisk

inductive Severity
  | low
  | medium
  | high
  deriving DecidableEq, Repr

namespace Severity

def name : Severity → String
  | low => "LOW"
  | medium => "MEDIUM"
  | high => "HIGH"

def rank : Severity → Nat
  | low => 0
  | medium => 1
  | high => 2

def ofName (s : String) : Attempt Severity :=
  match [low, medium, high].find? (·.name == s) with
  | some v => .ok v
  | none => .error (.unknownSeverity (.str s))

def ofJson : Json → Attempt Severity
  | .str s => ofName s
  | v => .error (.unknownSeverity v)

end Severity

structure Finding where
  type : Json
  severity : Severity
  description : Json

namespace Finding

def toJson (f : Finding) : Json :=
  .obj [("type", f.type), ("severity", .str f.severity.name), ("description", f.description)]

end Finding

end ChainRisk
