import ChainRisk.Json.Basic
import ChainRisk.Number.Numeral
import ChainRisk.Number.Shortest
import ChainRisk.Text.Quoted

namespace ChainRisk.Json

structure Spelling where
  nothing : String
  yes : String
  no : String

def spelling : Spelling := ⟨"None", "True", "False"⟩

mutual

def named : Json → String
  | null => spelling.nothing
  | bool b => if b then spelling.yes else spelling.no
  | int n => Numeral.ofInt n
  | real x => x.text
  | str s => Text.quoted s
  | arr items => "[" ++ ", ".intercalate (namedItems items) ++ "]"
  | obj fields => "\x7b" ++ ", ".intercalate (namedFields fields) ++ "\x7d"

def namedItems : List Json → List String
  | [] => []
  | v :: r => named v :: namedItems r

def namedFields : List (String × Json) → List String
  | [] => []
  | (n, v) :: r => (Text.quoted n ++ ": " ++ named v) :: namedFields r

end

def shown : Json → String
  | str s => s
  | v => named v

end ChainRisk.Json
