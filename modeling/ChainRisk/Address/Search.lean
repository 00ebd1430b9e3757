import ChainRisk.Hex

namespace ChainRisk.Address

def leads : List Char → Bool
  | '0' :: 'x' :: r => (r.take 40).length == 40 && (r.take 40).all Hex.isDigit
  | _ => false

def search? : List Char → Option (List Char)
  | [] => none
  | c :: r => if leads (c :: r) then some ((c :: r).take 42) else search? r

def find? (text : Option String) : Option String :=
  text.bind fun s => (search? s.toList).map String.ofList

def isMentioned (text : Option String) : Bool := (find? text).isSome

end ChainRisk.Address
