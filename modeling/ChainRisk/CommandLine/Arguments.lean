import ChainRisk.CommandLine.Word
import ChainRisk.Network

namespace ChainRisk.CommandLine

inductive Command
  | allowances
  | contract
  deriving DecidableEq

def Command.name : Command → String
  | allowances => "allowances"
  | contract => "contract"

def Command.all : List Command := [.allowances, .contract]

def Command.ofName? (s : String) : Option Command := Command.all.find? (·.name == s)

structure Arguments where
  address : String
  network : String
  json : Bool
  logLevel : Option String

inductive Halt
  | help (command : Option Command)
  | complaint (command : Option Command) (c : Complaint)

namespace Arguments

def mainSpellings : Spellings := [("-h", .help), ("--help", .help)]

def spellings : Spellings :=
  mainSpellings ++ [("--network", .network), ("--json", .json), ("--log-level", .logLevel)]

def networkChoices : List String := [Network.mainName, Network.testName]

structure Progress where
  address : Option String
  network : String
  json : Bool
  logLevel : Option String
  extra : List String

namespace Progress

def start : Progress := ⟨none, Network.mainName, false, none, []⟩

def putExtra (word : String) (p : Progress) : Progress := { p with extra := p.extra ++ [word] }

def putAddress (word : String) (p : Progress) : Progress := { p with address := some word }

def putValue (s : Switch) (value : String) (p : Progress) : Except Complaint Progress :=
  match s with
  | .network =>
    if value ∈ networkChoices then .ok { p with network := value }
    else .error (.badChoice s.title value networkChoices)
  | .logLevel => .ok { p with logLevel := some value }
  | _ => .ok p

end Progress

def flag (command : Option Command) (u : Use) (p : Progress) : Except Halt Progress :=
  match u.refused with
  | some value => .error (.complaint command (.ignoredValue u.switch (String.ofList value)))
  | none =>
    if u.switch = .help then .error (.help command) else .ok { p with json := true }

def readWords (command : Command) : Progress → List Word → Except Halt Progress
  | p, [] => .ok p
  | p, .plain text :: rest =>
    match p.address, rest with
    | none, .separator :: rest => readWords command (p.putAddress text) rest
    | none, rest => readWords command (p.putAddress text) rest
    | some _, rest => readWords command (p.putExtra text) rest
  | p, .separator :: rest =>
    match p.address, rest with
    | none, .plain text :: rest => readWords command (p.putAddress text) rest
    | _, rest => readWords command (p.putExtra Word.separatorText) rest
  | p, .unknown text :: rest => readWords command (p.putExtra text) rest
  | p, .option u :: rest =>
    if u.switch.takesValue then
      match u.joined.map String.ofList, rest with
      | some value, rest =>
        match p.putValue u.switch value with
        | .ok p => readWords command p rest
        | .error c => .error (.complaint command c)
      | none, .plain value :: rest =>
        match p.putValue u.switch value with
        | .ok p => readWords command p rest
        | .error c => .error (.complaint command c)
      | none, _ => .error (.complaint command (.expectedValue u.switch))
    else
      match flag command u p with
      | .ok p => readWords command p rest
      | .error h => .error h

def ofCommand (command : Command) (before rest : List String) :
    Except Halt (Command × Arguments) := do
  let words ← (Word.ofTexts spellings rest).mapError (.complaint command)
  let p ← readWords command .start words
  match p.address with
  | none => .error (.complaint command (.missing "address"))
  | some address =>
    if before ++ p.extra = [] then .ok (command, ⟨address, p.network, p.json, p.logLevel⟩)
    else .error (.complaint none (.unrecognized (before ++ p.extra)))

def named (before : List String) (name : String) (rest : List String) :
    Except Halt (Command × Arguments) :=
  match Command.ofName? name with
  | some command => ofCommand command before rest
  | none =>
    .error (.complaint none (.badChoice "command" name (Command.all.map Command.name)))

def parseFrom (before : List String) : List String → Except Halt (Command × Arguments)
  | [] => .error (.complaint none (.missing "command"))
  | text :: rest =>
    if text = Word.separatorText then
      if rest = [] then .error (.complaint none (.missing "command")) else named before text rest
    else
      match Word.ofText mainSpellings text with
      | .error c => .error (.complaint none c)
      | .ok (.plain name) => named before name rest
      | .ok (.option u) =>
        match flag none u .start with
        | .ok _ => parseFrom before rest
        | .error h => .error h
      | .ok _ => parseFrom (before ++ [text]) rest

def parse (words : List String) : Except Halt (Command × Arguments) := parseFrom [] words

end Arguments

end ChainRisk.CommandLine
