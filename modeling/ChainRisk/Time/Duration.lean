import ChainRisk.Number.Numeral
import ChainRisk.Number.Shortest

namespace ChainRisk

inductive Duration
  | whole (seconds : Nat)
  | fractional (seconds : Binary64)
  deriving DecidableEq

namespace Duration

def seconds : Duration → Binary64
  | whole n => .ofInt n
  | fractional x => x

def text : Duration → String
  | whole n => Numeral.ofNat n
  | fractional x => x.text

def outlastedBy (limit : Duration) (d : Binary64) : Bool :=
  limit.seconds.lt d || !(Binary64.zero.lt limit.seconds)

/-- Digits alone are whole seconds; other numerals are fractional. -/
def ofText? (s : String) : Option Duration :=
  if Text.isDigits s then
    match Numeral.integer 10 s with
    | .ok n => some (whole n.toNat)
    | .error _ => none
  else (Numeral.number? s).map fractional

end Duration

end ChainRisk
