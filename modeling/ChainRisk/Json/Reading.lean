import ChainRisk.Json.Basic
import ChainRisk.Number.Numeral
import ChainRisk.Text.Surrogate

/-!
Reading of values. A name given twice in an object keeps its first place and its last value; half of
a pair of units without the other half is kept as its stand-in. The numbers that have no digits are
read by their names.
-/

namespace ChainRisk.Json

def isWritingSpace (c : Char) : Bool := c == ' ' || c == '\n' || c == '\t' || c == '\r'

def skipSpace (cs : List Char) : List Char := cs.dropWhile isWritingSpace

def unit? (a b c d : Char) : Option Nat := do
  let a ← Hex.value? a
  let b ← Hex.value? b
  let c ← Hex.value? c
  let d ← Hex.value? d
  pure (4096 * a + 256 * b + 16 * c + d)

def flushed (pending : Option Nat) (acc : List Char) : List Char :=
  match pending with
  | some lead => Text.standIn lead :: acc
  | none => acc

def pushUnit (pending : Option Nat) (acc : List Char) (n : Nat) : Option Nat × List Char :=
  if Text.isLeadUnit n then (some n, flushed pending acc)
  else if Text.isTrailUnit n then
    match pending with
    | some lead => (none, Text.paired lead n :: acc)
    | none => (none, Text.standIn n :: acc)
  else (none, Char.ofNat n :: flushed pending acc)

def plainEscape? : Char → Option Char
  | 'n' => some '\n'
  | 't' => some '\t'
  | 'r' => some '\r'
  | 'b' => some '\x08'
  | 'f' => some '\x0c'
  | '"' => some '"'
  | '\\' => some '\\'
  | '/' => some '/'
  | _ => none

def readText (pending : Option Nat) (acc : List Char) : List Char → Option (String × List Char)
  | [] => none
  | '"' :: r => some (String.ofList (flushed pending acc).reverse, r)
  | '\\' :: 'u' :: a :: b :: c :: d :: r =>
    match unit? a b c d with
    | some n => readText (pushUnit pending acc n).1 (pushUnit pending acc n).2 r
    | none => none
  | '\\' :: c :: r =>
    match plainEscape? c with
    | some x => readText none (x :: flushed pending acc) r
    | none => none
  | c :: r => readText none (c :: flushed pending acc) r

def isNumberChar (c : Char) : Bool :=
  Numeral.isAsciiDigit c || c == '-' || c == '+' || c == '.' || c == 'e' || c == 'E'

def number? (cs : List Char) : Option Json :=
  let (negative, ds) := Numeral.sign cs
  if ds ≠ [] ∧ ds.all Numeral.isAsciiDigit then
    some (int (if negative then -(Numeral.value 10 ds : Int) else Numeral.value 10 ds))
  else (Numeral.magnitude? negative ds).map real

def word? (w : String) (v : Json) (cs : List Char) : Option (Json × List Char) :=
  if w.toList.isPrefixOf cs then some (v, cs.drop w.length) else none

mutual

def readValue : Nat → List Char → Option (Json × List Char)
  | 0, _ => none
  | fuel + 1, cs =>
    match skipSpace cs with
    | '"' :: r => (readText none [] r).map fun (s, r) => (str s, r)
    | '[' :: r =>
      match skipSpace r with
      | ']' :: r => some (arr [], r)
      | r => readItems fuel [] r
    | '\x7b' :: r =>
      match skipSpace r with
      | '\x7d' :: r => some (obj [], r)
      | r => readFields fuel [] r
    | 't' :: r => word? "true" (bool true) ('t' :: r)
    | 'f' :: r => word? "false" (bool false) ('f' :: r)
    | 'n' :: r => word? "null" null ('n' :: r)
    | 'N' :: r => word? "NaN" (real .nan) ('N' :: r)
    | 'I' :: r => word? "Infinity" (real (.infinite false)) ('I' :: r)
    | '-' :: 'I' :: r => word? "Infinity" (real (.infinite true)) ('I' :: r)
    | r => (number? (r.takeWhile isNumberChar)).map fun v => (v, r.dropWhile isNumberChar)

def readItems : Nat → List Json → List Char → Option (Json × List Char)
  | 0, _, _ => none
  | fuel + 1, acc, cs =>
    match readValue fuel cs with
    | some (v, r) =>
      match skipSpace r with
      | ',' :: r => readItems fuel (v :: acc) r
      | ']' :: r => some (arr (v :: acc).reverse, r)
      | _ => none
    | none => none

def readFields : Nat → List (String × Json) → List Char → Option (Json × List Char)
  | 0, _, _ => none
  | fuel + 1, acc, cs =>
    match skipSpace cs with
    | '"' :: r =>
      match readText none [] r with
      | some (name, r) =>
        match skipSpace r with
        | ':' :: r =>
          match readValue fuel r with
          | some (v, r) =>
            match skipSpace r with
            | ',' :: r => readFields fuel (Keyed.put name v acc) r
            | '\x7d' :: r => some (obj (Keyed.put name v acc), r)
            | _ => none
          | none => none
        | _ => none
      | none => none
    | _ => none

end

def read? (s : String) : Option Json :=
  match readValue (s.length + 1) s.toList with
  | some (v, r) => if (skipSpace r).isEmpty then some v else none
  | none => none

mutual

/-- A whole number of more digits than the limit has no text, so that a value with one in it is not taken in:
`named`, `shown` and `written` are the texts of short values. -/
def isShort : Json → Bool
  | int n => decide ((Nat.toDigits 10 n.natAbs).length ≤ Numeral.digitLimit)
  | arr items => itemsShort items
  | obj fields => fieldsShort fields
  | _ => true

def itemsShort : List Json → Bool
  | [] => true
  | v :: r => isShort v && itemsShort r

def fieldsShort : List (String × Json) → Bool
  | [] => true
  | (_, v) :: r => isShort v && fieldsShort r

end

def decode? (s : String) : Option Json := (read? s).filter isShort

end ChainRisk.Json
