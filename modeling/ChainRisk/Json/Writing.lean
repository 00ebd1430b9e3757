import ChainRisk.Json.Basic
import ChainRisk.Number.Numeral
import ChainRisk.Number.Shortest
import ChainRisk.Text.Surrogate

namespace ChainRisk.Json

def unitEscape (n : Nat) : List Char := '\\' :: 'u' :: Hex.padded 4 n

def writtenChar (c : Char) : List Char :=
  if c = '"' ∨ c = '\\' then ['\\', c]
  else if c = '\n' then ['\\', 'n']
  else if c = '\r' then ['\\', 'r']
  else if c = '\t' then ['\\', 't']
  else if c = '\x08' then ['\\', 'b']
  else if c = '\x0c' then ['\\', 'f']
  else if 32 ≤ c.toNat ∧ c.toNat < 127 then [c]
  else if c.toNat < 65536 then unitEscape c.toNat
  else
    match Text.loneUnit? c with
    | some unit => unitEscape unit
    | none => unitEscape (Text.leadUnit c) ++ unitEscape (Text.trailUnit c)

def writtenText (s : String) : String :=
  String.ofList ('"' :: (s.toList.flatMap writtenChar ++ ['"']))

def writtenReal : Binary64 → String
  | .infinite s => if s then "-Infinity" else "Infinity"
  | .nan => "NaN"
  | x => x.text

inductive Style
  | oneLine
  | indented

def Style.lead : Style → Nat → String
  | oneLine, _ => ""
  | indented, depth => String.ofList ('\n' :: List.replicate (2 * depth) ' ')

def bracketed (st : Style) (depth : Nat) (opening closing : String) (items : List String) : String :=
  if items.isEmpty then opening ++ closing
  else opening ++ ",".intercalate (items.map (st.lead (depth + 1) ++ ·)) ++ st.lead depth ++ closing

mutual

def written (st : Style) (depth : Nat) : Json → String
  | null => "null"
  | bool b => if b then "true" else "false"
  | int n => Numeral.ofInt n
  | real x => writtenReal x
  | str s => writtenText s
  | arr items => bracketed st depth "[" "]" (writtenItems st (depth + 1) items)
  | obj fields => bracketed st depth "\x7b" "\x7d" (writtenFields st (depth + 1) fields)

def writtenItems (st : Style) (depth : Nat) : List Json → List String
  | [] => []
  | v :: r => written st depth v :: writtenItems st depth r

def writtenFields (st : Style) (depth : Nat) : List (String × Json) → List String
  | [] => []
  | (n, v) :: r =>
    (writtenText n ++ ": " ++ written st depth v) :: writtenFields st depth r

end

def line (v : Json) : String := written .oneLine 0 v

def page (v : Json) : String := written .indented 0 v

end ChainRisk.Json
