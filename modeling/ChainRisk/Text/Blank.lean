import ChainRisk.Text.RangeTable

/-!
Blank characters: tabs, line and page breaks, the four information separators, and the spaces of
every script. A text is blank when it has no other character.
-/

namespace ChainRisk.Text

def blanks : RangeTable := [
  (9, 13), (28, 32), (133, 133), (160, 160), (5760, 5760), (8192, 8202), (8232, 8233),
  (8239, 8239), (8287, 8287), (12288, 12288)]

def isBlank (c : Char) : Bool := blanks.member c

def trimStart (cs : List Char) : List Char := cs.dropWhile isBlank

def trimEnd (cs : List Char) : List Char := (cs.reverse.dropWhile isBlank).reverse

def trimChars (cs : List Char) : List Char := trimEnd (trimStart cs)

def trim (s : String) : String := String.ofList (trimChars s.toList)

end ChainRisk.Text
