import ChainRisk.Text.CaseTable

/-!
Lower and upper case of whole texts. One letter may become several; a capital sigma that ends a word
takes its final form.
-/

namespace ChainRisk.Text

private def spelled (t : List (Nat × List Nat)) (runs : RunTable) (c : Char) : List Char :=
  match t.lookup c.toNat with
  | some cs => cs.map Char.ofNat
  | none => [runs.move c]

def lowerChar (c : Char) : List Char :=
  if c.toNat < 128 then [c.toLower] else spelled lowerSpelled lowerRuns c

def upperChar (c : Char) : List Char :=
  if c.toNat < 128 then [c.toUpper] else spelled upperSpelled upperRuns c

def meetsCased (cs : List Char) : Bool :=
  (cs.find? fun c => !caseIgnorable.member c).any cased.member

/-- `before` holds, nearest first, the characters that precede the text. -/
def lowerFrom (before : List Char) : List Char → List Char
  | [] => []
  | c :: r =>
    (if c = 'Σ' then [if meetsCased before && !meetsCased r then 'ς' else 'σ'] else lowerChar c) ++
      lowerFrom (c :: before) r

def lower (s : String) : String := String.ofList (lowerFrom [] s.toList)

def upper (s : String) : String := String.ofList (s.toList.flatMap upperChar)

end ChainRisk.Text
