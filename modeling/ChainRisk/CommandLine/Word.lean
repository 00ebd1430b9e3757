import ChainRisk.Text.Digit

namespace ChainRisk.CommandLine

inductive Switch
  | help
  | network
  | json
  | logLevel
  deriving DecidableEq

namespace Switch

def takesValue : Switch → Bool
  | help => false
  | network => true
  | json => false
  | logLevel => true

def helpLetter : Char := 'h'

def title : Switch → String
  | help => "-h/--help"
  | network => "--network"
  | json => "--json"
  | logLevel => "--log-level"

end Switch

abbrev Spellings := List (String × Switch)

structure Use where
  switch : Switch
  short : Bool
  joined : Option (List Char)

inductive Word
  | plain (text : String)
  | separator
  | option (use : Use)
  | unknown (text : String)

inductive Complaint
  | expectedValue (s : Switch)
  | ignoredValue (s : Switch) (value : String)
  | badChoice (argument value : String) (choices : List String)
  | ambiguous (word : String) (candidates : List String)
  | missing (argument : String)
  | unrecognized (words : List String)

namespace Word

def isShort (spelling : String) : Bool := spelling.toList[1]? != some '-'

def use (spelling : String × Switch) (joined : Option (List Char)) : Use :=
  ⟨spelling.2, isShort spelling.1, joined⟩

def splitAtSign (cs : List Char) : List Char × Option (List Char) :=
  match cs.dropWhile (· != '=') with
  | _ :: value => (cs.takeWhile (· != '='), some value)
  | [] => (cs, none)

def candidates (spellings : Spellings) (cs : List Char) : List (String × Use) :=
  if ['-', '-'].isPrefixOf cs then
    let (start, value) := splitAtSign cs
    (spellings.filter fun s => start.isPrefixOf s.1.toList).map fun s => (s.1, use s value)
  else
    spellings.filterMap fun s =>
      if s.1.toList = cs.take 2 then some (s.1, use s (some (cs.drop 2)))
      else if cs.isPrefixOf s.1.toList then some (s.1, use s none)
      else none

def isNumber (cs : List Char) : Bool :=
  let fraction := cs.dropWhile Text.isDecimal
  match fraction with
  | [] => !cs.isEmpty
  | c :: r => c == '.' && !r.isEmpty && r.all Text.isDecimal

def isNegative (cs : List Char) : Bool :=
  match cs with
  | '-' :: r => isNumber (if r.getLast? = some '\n' then r.dropLast else r)
  | _ => false

def spelled? (spellings : Spellings) (text : String) : Option Use :=
  let (start, value) := splitAtSign text.toList
  match spellings.find? (·.1 == text) with
  | some s => some (use s none)
  | none =>
    match value with
    | some value =>
      (spellings.find? (·.1 == String.ofList start)).map fun s => use s (some value)
    | none => none

def guessed (spellings : Spellings) (text : String) : Except Complaint Word :=
  match candidates spellings text.toList with
  | [] =>
    .ok (if isNegative text.toList || ' ' ∈ text.toList then .plain text else .unknown text)
  | [c] => .ok (.option c.2)
  | cs => .error (.ambiguous text (cs.map (·.1)))

def ofText (spellings : Spellings) (text : String) : Except Complaint Word :=
  match text.toList with
  | '-' :: _ :: _ =>
    match spelled? spellings text with
    | some u => .ok (.option u)
    | none => guessed spellings text
  | _ => .ok (.plain text)

def separatorText : String := "--"

def ofTexts (spellings : Spellings) : List String → Except Complaint (List Word)
  | [] => .ok []
  | text :: rest =>
    if text = separatorText then .ok (.separator :: rest.map .plain)
    else do
      let w ← ofText spellings text
      let ws ← ofTexts spellings rest
      pure (w :: ws)

end Word

namespace Use

/-- What is refused of a value joined to a spelling of one letter: more of that letter are the same
option again, and what follows them is refused. An empty value is refused as it is. -/
def refusedAfter (letter : Char) (value : List Char) : Option (List Char) :=
  match value.dropWhile (· == letter) with
  | [] => if value = [] then some [] else none
  | rest => some rest

def refused (u : Use) : Option (List Char) :=
  if u.short then u.joined.bind (refusedAfter Switch.helpLetter) else u.joined

end Use

end ChainRisk.CommandLine
