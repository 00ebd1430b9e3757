import ChainRisk.Text.Blank

/-!
Payable entry points in source text: a header, then a body that ends at the first closing brace. The
search asks for a body with an assignment to a name that ends in `owner`.
-/

namespace ChainRisk.Detector

def after? (word : String) (cs : List Char) : Option (List Char) :=
  if word.toList.isPrefixOf cs then some (cs.drop word.length) else none

def skipBlanks (cs : List Char) : List Char := cs.dropWhile Text.isBlank

def afterHeader? (name : String) (cs : List Char) : Option (List Char) := do
  let cs ← after? name cs
  let cs ← after? "(" (skipBlanks cs)
  let cs ← after? ")" (skipBlanks cs)
  let cs ← after? "external" (skipBlanks cs)
  if cs.head?.any Text.isBlank then
    let cs ← after? "payable" (skipBlanks cs)
    after? "\x7b" (skipBlanks cs)
  else none

def assignsOwner : List Char → Bool
  | [] => false
  | c :: r =>
    ((after? "owner" (c :: r)).any fun rest => (skipBlanks rest).head? == some '=') ||
      assignsOwner r

def body? (cs : List Char) : Option (List Char) :=
  if '\x7d' ∈ cs then some (cs.takeWhile (· != '\x7d')) else none

def entryAssigns (name : String) (cs : List Char) : Bool :=
  ((afterHeader? name cs).bind body?).any assignsOwner

def findsEntry (name : String) : List Char → Bool
  | [] => false
  | c :: r => entryAssigns name (c :: r) || findsEntry name r

end ChainRisk.Detector
