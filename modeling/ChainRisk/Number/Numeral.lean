import ChainRisk.Hex
import ChainRisk.Number.Binary64
import ChainRisk.Text.Blank
import ChainRisk.Text.Digit

/-!
Numerals in text: integers to base ten or sixteen, and decimal numbers. Digits of every script are
read, single low lines may stand between digits, and blanks may surround the whole.
-/

namespace ChainRisk.Numeral

def ofNat (n : Nat) : String := String.ofList (Nat.toDigits 10 n)

def ofInt (n : Int) : String := if n < 0 then "-" ++ ofNat n.natAbs else ofNat n.natAbs

/-- ASCII characters stay; other blanks count as a space and other decimal digits as their ASCII
ones. -/
def folded (c : Char) : Char :=
  if c.toNat < 127 then c
  else if Text.isBlank c then ' '
  else match Text.digitValue? c with
    | some d => Hex.digit d
    | none => '?'

def isSpace (c : Char) : Bool :=
  c == ' ' || c == '\t' || c == '\n' || c == '\r' || c == '\x0b' || c == '\x0c'

def wellSpaced (afterDigit : Bool) : List Char → Bool
  | [] => afterDigit
  | c :: r => if c = '_' then afterDigit && wellSpaced false r else wellSpaced true r

def sign : List Char → Bool × List Char
  | '-' :: r => (true, r)
  | '+' :: r => (false, r)
  | cs => (false, cs)

inductive Refusal
  | malformed (base : Nat) (text : String)
  | tooLong (digits : Nat)
  deriving DecidableEq, Repr

def digitLimit : Nat := 4300

def inBase (base : Nat) (c : Char) : Bool :=
  match Hex.value? c with
  | some v => v < base
  | none => false

def unmarked (base : Nat) : List Char → List Char
  | '0' :: x :: r =>
    if base = 16 ∧ (x = 'x' ∨ x = 'X') then
      match r with
      | '_' :: r => r
      | r => r
    else '0' :: x :: r
  | cs => cs

def value (base : Nat) (ds : List Char) : Nat :=
  ds.foldl (fun n c => base * n + (Hex.value? c).getD 0) 0

def integer (base : Nat) (s : String) : Except Refusal Int :=
  let (negative, cs) := sign ((s.toList.map folded).dropWhile isSpace)
  let cs := unmarked base cs
  let inRun := fun c => inBase base c || c == '_'
  let run := cs.takeWhile inRun
  let rest := cs.dropWhile inRun
  let digits := run.filter (· != '_')
  if !wellSpaced false run then .error (.malformed base s)
  else if base = 10 ∧ digitLimit < digits.length then .error (.tooLong digits.length)
  else if rest.all isSpace then
    .ok (if negative then -(value base digits : Int) else value base digits)
  else .error (.malformed base s)

def isAsciiDigit (c : Char) : Bool := '0' ≤ c && c ≤ '9'

def linesBetweenDigits (prev : Char) : List Char → Bool
  | [] => prev != '_'
  | c :: r =>
    (if c = '_' then isAsciiDigit prev else prev != '_' || isAsciiDigit c) && linesBetweenDigits c r

def exponent? : List Char → Option Int
  | [] => some 0
  | e :: r =>
    if e = 'e' ∨ e = 'E' then
      let (negative, ds) := sign r
      if ds ≠ [] ∧ ds.all isAsciiDigit then
        some (if negative then -(value 10 ds : Int) else value 10 ds)
      else none
    else none

def magnitude? (negative : Bool) (cs : List Char) : Option Binary64 :=
  let whole := cs.takeWhile isAsciiDigit
  let rest := cs.dropWhile isAsciiDigit
  let (fraction, rest) := match rest with
    | '.' :: r => (r.takeWhile isAsciiDigit, r.dropWhile isAsciiDigit)
    | r => ([], r)
  if whole = [] ∧ fraction = [] then none
  else (exponent? rest).map fun e =>
    .ofDecimal negative (value 10 (whole ++ fraction)) (e - fraction.length)

def number? (s : String) : Option Binary64 :=
  let cs := (s.toList.map folded).dropWhile isSpace
  let cs := (cs.reverse.dropWhile isSpace).reverse
  if !linesBetweenDigits ' ' cs then none
  else
    let (negative, cs) := sign (cs.filter (· != '_'))
    let word := String.ofList (cs.map Char.toLower)
    if word = "inf" ∨ word = "infinity" then some (.infinite negative)
    else if word = "nan" then some .nan
    else magnitude? negative cs

end ChainRisk.Numeral
