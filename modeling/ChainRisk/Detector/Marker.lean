import ChainRisk.Hex
import ChainRisk.Text.Search

/-!
Opcode markers in deployed code. A marker is two hexadecimal digits and may start in the middle of a
byte.
-/

namespace ChainRisk.Detector

def delegatecallMarker : String := "f4"

def selfdestructMarker : String := "ff"

def holdsMarker (marker : String) (code : List UInt8) : Bool :=
  Text.occursIn marker.toList (Hex.ofBytes code)

end ChainRisk.Detector
