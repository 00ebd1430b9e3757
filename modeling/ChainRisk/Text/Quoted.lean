import ChainRisk.Hex
import ChainRisk.Text.PrintableTable
import ChainRisk.Text.Surrogate

namespace ChainRisk.Text

def quoteMark (cs : List Char) : Char :=
  if '\'' ∈ cs ∧ '"' ∉ cs then '"' else '\''

def escaped (mark c : Char) : List Char :=
  if c = mark ∨ c = '\\' then ['\\', c]
  else if c = '\n' then ['\\', 'n']
  else if c = '\r' then ['\\', 'r']
  else if c = '\t' then ['\\', 't']
  else if isPrintable c then [c]
  else if c.toNat < 256 then '\\' :: 'x' :: Hex.padded 2 c.toNat
  else if c.toNat < 65536 then '\\' :: 'u' :: Hex.padded 4 c.toNat
  else
    match loneUnit? c with
    | some unit => '\\' :: 'u' :: Hex.padded 4 unit
    | none => '\\' :: 'U' :: Hex.padded 8 c.toNat

def quotedChars (cs : List Char) : List Char :=
  quoteMark cs :: (cs.flatMap (escaped (quoteMark cs)) ++ [quoteMark cs])

def quoted (s : String) : String := String.ofList (quotedChars s.toList)

end ChainRisk.Text
