import ChainRisk.Address.Basic
import ChainRisk.Json.Shown
import ChainRisk.Time.Duration

namespace ChainRisk

inductive FailureFamily
  | any
  | invalidAddress
  | notAContract
  | network
  | explorer
  | configuration
  deriving DecidableEq

namespace FailureFamily

def lineage (f : FailureFamily) : List FailureFamily :=
  match f with
  | any => [any]
  | explorer => [explorer, network, any]
  | f => [f, any]

def text? : FailureFamily → List Json → Option String
  | invalidAddress, [v] => some ("Invalid Ethereum address: " ++ v.named)
  | invalidAddress, _ => none
  | notAContract, [v] => some ("No contract found at " ++ v.shown)
  | notAContract, _ => none
  | explorer, [m] => some ("Explorer API error - " ++ m.shown)
  | explorer, [m, r] =>
    some ("Explorer API error - " ++
      if r.isSome then m.shown ++ ": " ++ r.shown else m.shown)
  | explorer, _ => none
  | _, [] => some ""
  | _, [v] => some v.shown
  | _, vs => some ("(" ++ ", ".intercalate (Json.namedItems vs) ++ ")")

end FailureFamily

inductive ConfigurationFault
  | invalid (lines : List String)
  | unknownNetwork (name : String) (known : List String)
  | noEndpoint (network : String)
  deriving DecidableEq

inductive Mismatch
  | wrongType
  | missingField
  | noSuchOperation
  | tooLarge
  | noRoom
  | beyondCalendar
  deriving DecidableEq

inductive FaultKind
  | value
  | connection
  | timeout
  | client
  | runtime
  deriving DecidableEq

inductive Failure
  | invalidAddress (value : Json)
  | notAContract (address : Address)
  | noEndpoint (network : String)
  | readTimedOut (operation : String) (limit : Duration)
  | readFailed (operation reason : String)
  | unexpectedPayload (operation : String)
  | refused (message result : String)
  | configuration (fault : ConfigurationFault)
  | deadlinePassed
  | transport (kind : FaultKind) (message : String)
  | numeral (refusal : Numeral.Refusal)
  | notWhole
  | unknownSeverity (value : Json)
  | notPositive (amount : String)
  | negativeAmount (amount : String)
  | badBatchSize (size : Int)
  | yearOutOfRange (year : Int)
  | derivedField (name : String)
  | mismatch (kind : Mismatch)

namespace Failure

def family? : Failure → Option FailureFamily
  | invalidAddress _ => some .invalidAddress
  | notAContract _ => some .notAContract
  | noEndpoint _ => some .network
  | readTimedOut _ _ => some .network
  | readFailed _ _ => some .network
  | unexpectedPayload _ => some .network
  | refused _ _ => some .explorer
  | configuration _ => some .configuration
  | _ => none

def isIn (e : Failure) (f : FailureFamily) : Bool :=
  match e.family? with
  | some g => f ∈ g.lineage
  | none => false

def noEndpointText (network : String) : String := "RPC URL not configured for " ++ network

def configurationText : ConfigurationFault → String
  | .invalid lines =>
    "EVM Secure configuration validation failed:\n" ++ "\n".intercalate lines
  | .unknownNetwork name known =>
    "Unknown network " ++ Text.quoted name ++ "; expected one of: " ++ ", ".intercalate known
  | .noEndpoint network => noEndpointText network

def repeatedLimit : Nat := 200

def numeralText : Numeral.Refusal → String
  | .malformed base text =>
    "invalid literal for int() with base " ++ Numeral.ofNat base ++ ": " ++
      String.ofList ((Text.quoted text).toList.take repeatedLimit)
  | .tooLong digits =>
    "Exceeds the limit (" ++ Numeral.ofNat Numeral.digitLimit ++
      " digits) for integer string conversion: value has " ++ Numeral.ofNat digits ++
      " digits; use sys.set_int_max_str_digits() to increase the limit"

def message : Failure → String
  | invalidAddress v => "Invalid Ethereum address: " ++ v.named
  | notAContract a => "No contract found at " ++ a.text
  | noEndpoint n => noEndpointText n
  | readTimedOut op limit => op ++ " timed out after " ++ limit.text ++ "s"
  | readFailed op reason => op ++ " failed: " ++ reason
  | unexpectedPayload op => op ++ " returned an unexpected payload"
  | refused m r => "Explorer API error - " ++ if r.isEmpty then m else m ++ ": " ++ r
  | configuration f => configurationText f
  | deadlinePassed => ""
  | transport _ m => m
  | numeral r => numeralText r
  | notWhole => "cannot convert float NaN to integer"
  | unknownSeverity v => v.named ++ " is not a valid Severity"
  | notPositive a => "Allowance amount must be a positive integer string: " ++ Text.quoted a
  | negativeAmount a => "Amount must be non-negative: " ++ a
  | badBatchSize n => "batch_size must be positive: " ++ Numeral.ofInt n
  | yearOutOfRange y => "year " ++ Numeral.ofInt y ++ " is out of range"
  | derivedField f =>
    "field " ++ f ++ " is declared with init=False, it cannot be specified with replace()"
  | mismatch _ => ""

end Failure

abbrev Attempt (α : Type) := Except Failure α

namespace Json

def toReal : Json → Attempt Binary64
  | bool b => .ok (.ofInt (if b then 1 else 0))
  | int n =>
    match Binary64.ofInt n with
    | .infinite _ => .error (.mismatch .tooLarge)
    | x => .ok x
  | real x => .ok x
  | _ => .error (.mismatch .wrongType)

def toInt : Json → Attempt Int
  | bool b => .ok (if b then 1 else 0)
  | int n => .ok n
  | real (.finite s u) => .ok (Binary64.truncated s u)
  | real (.infinite _) => .error (.mismatch .tooLarge)
  | real .nan => .error .notWhole
  | str s => (Numeral.integer 10 s).mapError .numeral
  | _ => .error (.mismatch .wrongType)

end Json

namespace Address

def require : Json → Attempt Address
  | .str s =>
    match ofText? s with
    | some a => .ok a
    | none => .error (.invalidAddress (.str s))
  | v => .error (.invalidAddress v)

end Address

namespace Duration

def wholeSeconds : Duration → Attempt Int
  | whole n => .ok (max n 1)
  | fractional x =>
    if x.lt (.ofInt 1) then .ok 1
    else match x with
      | .finite s u => .ok (Binary64.truncated s u)
      | .infinite _ => .error (.mismatch .tooLarge)
      | .nan => .error .notWhole

end Duration

end ChainRisk
