import ChainRisk.Finding

namespace ChainRisk

inductive RiskLevel
  | low
  | medium
  | high
  | unknown
  deriving DecidableEq, Repr

namespace RiskLevel

def name : RiskLevel → String
  | low => "LOW"
  | medium => "MEDIUM"
  | high => "HIGH"
  | unknown => "UNKNOWN"

def ofScore (score : Int) : RiskLevel :=
  if 80 ≤ score then low else if 50 ≤ score then medium else high

def ofValue : Json → Attempt RiskLevel
  | .bool _ => .ok high
  | .int n => .ok (ofScore n)
  | .real x =>
    .ok (if x.lt (.ofInt 50) || x == .nan then high else if x.lt (.ofInt 80) then medium else low)
  | _ => .error (.mismatch .wrongType)

end RiskLevel

namespace Score

def count (v : Severity) (fs : List Finding) : Nat := fs.countP (·.severity == v)

def highPenalty (n : Nat) : Int := if n = 0 then 0 else 40 + (n - 1 : Nat) * 30

def unclamped (verified proxy : Bool) (fs : List Finding) : Int :=
  100 - (if verified then 0 else 40) - (if proxy then 10 else 0) - highPenalty (count .high fs) -
    count .medium fs * 15 - count .low fs * 5

def compute (verified proxy : Bool) (fs : List Finding) : Int :=
  min (max (unclamped verified proxy fs) 0) 100

def unverifiedWarning : String := "Contract is not verified on Etherscan"

def warnings (verified proxy : Bool) (implementation : Json) (fs : List Finding) : List String :=
  (if verified then [] else [unverifiedWarning]) ++
  (if proxy then ["Contract is a proxy. Implementation at: " ++ implementation.shown] else []) ++
  (if fs.length = 0 then []
    else ["Found " ++ Numeral.ofNat fs.length ++ " potential security issues"])

end Score

end ChainRisk
