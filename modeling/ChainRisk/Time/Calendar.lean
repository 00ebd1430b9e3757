import ChainRisk.Number.Numeral

/-!
Civil dates of instants: days are counted in the calendar of the present carried back to year 1, and
the years 1 to 9999 have a date.
-/

namespace ChainRisk.Calendar

structure Date where
  year : Int
  month : Nat
  day : Nat
  deriving DecidableEq, Repr

/-- The date a number of days after the first of January 1970. Years are counted from March, so
that the odd day of a leap year comes last. -/
def dateOf (days : Int) : Date :=
  let z := days + 719468
  let era := z.fdiv 146097
  let dayOfEra := z.fmod 146097
  let yearOfEra := (dayOfEra - dayOfEra / 1460 + dayOfEra / 36524 - dayOfEra / 146096) / 365
  let dayOfYear := dayOfEra - (365 * yearOfEra + yearOfEra / 4 - yearOfEra / 100)
  let m := (5 * dayOfYear + 2) / 153
  let month := if m < 10 then m + 3 else m - 9
  let year := yearOfEra + era * 400 + (if month ≤ 2 then 1 else 0)
  ⟨year, month.toNat, (dayOfYear - (153 * m + 2) / 5 + 1).toNat⟩

structure Timestamp where
  micros : Int
  offset : Int
  deriving DecidableEq, Repr

namespace Timestamp

def ofSeconds (s : Int) : Timestamp := ⟨s * 1000000, 0⟩

def shifted (t : Timestamp) : Int := t.micros + t.offset * 60000000

def date (t : Timestamp) : Date := dateOf (t.shifted.fdiv 86400000000)

def inRange (t : Timestamp) : Bool :=
  let y := (dateOf (t.micros.fdiv 86400000000)).year
  decide (1 ≤ y ∧ y ≤ 9999 ∧ 1 ≤ t.date.year ∧ t.date.year ≤ 9999)

def padded (width : Nat) (n : Int) : String :=
  String.ofList ((Nat.toDigits 10 n.toNat).leftpad width '0')

def zone (minutes : Int) : String :=
  (if minutes < 0 then "-" else "+") ++ padded 2 (minutes.natAbs / 60) ++ ":" ++
    padded 2 (minutes.natAbs % 60)

def isoText (t : Timestamp) : String :=
  let d := t.date
  let micros := t.shifted.fmod 86400000000
  let seconds := micros / 1000000
  padded 4 d.year ++ "-" ++ padded 2 d.month ++ "-" ++ padded 2 d.day ++ "T" ++
    padded 2 (seconds / 3600) ++ ":" ++ padded 2 (seconds / 60 % 60) ++ ":" ++
    padded 2 (seconds % 60) ++
    (if micros % 1000000 = 0 then "" else "." ++ padded 6 (micros % 1000000)) ++ zone t.offset

def dayText (t : Timestamp) : String :=
  let d := t.date
  padded 1 d.year ++ "-" ++ padded 2 d.month ++ "-" ++ padded 2 d.day

end Timestamp

end ChainRisk.Calendar
