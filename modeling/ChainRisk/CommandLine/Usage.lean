import ChainRisk.CommandLine.Arguments
import ChainRisk.Text.Quoted

namespace ChainRisk.CommandLine

def programName : String := "evmsecure"

def choicesText (names : List String) : String := "\x7b" ++ ",".intercalate names ++ "\x7d"

namespace Complaint

def quotedList (names : List String) : String := ", ".intercalate (names.map Text.quoted)

def message : Complaint → String
  | expectedValue s => "argument " ++ s.title ++ ": expected one argument"
  | ignoredValue s v =>
    "argument " ++ s.title ++ ": ignored explicit argument " ++ Text.quoted v
  | badChoice argument v choices =>
    "argument " ++ argument ++ ": invalid choice: " ++ Text.quoted v ++ " (choose from " ++
      quotedList choices ++ ")"
  | ambiguous word cs =>
    "ambiguous option: " ++ word ++ " could match " ++ ", ".intercalate cs
  | missing argument => "the following arguments are required: " ++ argument
  | unrecognized words => "unrecognized arguments: " ++ " ".intercalate words

end Complaint

namespace Usage

def title : Option Command → String
  | none => programName
  | some c => programName ++ " " ++ c.name

def commandChoices : String := choicesText (Command.all.map Command.name)

def networkOption : String := "--network " ++ choicesText Arguments.networkChoices

def levelOption : String := "--log-level LOG_LEVEL"

def indent (command : Option Command) : String :=
  String.ofList (List.replicate ("usage: " ++ title command ++ " ").length ' ')

def text (command : Option Command) : String :=
  match command with
  | none => "usage: " ++ title none ++ " [-h] " ++ commandChoices ++ " ...\n"
  | some c =>
    "usage: " ++ title c ++ " [-h] [" ++ networkOption ++ "] [--json]\n" ++
    indent c ++ "[" ++ levelOption ++ "]\n" ++
    indent c ++ "address\n"

def helpLine (entry explanation : String) : String :=
  let width := 24
  if entry.length + 2 ≤ width then
    entry ++ String.ofList (List.replicate (width - entry.length) ' ') ++ explanation ++ "\n"
  else entry ++ "\n" ++ String.ofList (List.replicate width ' ') ++ explanation ++ "\n"

def helpOption : String := helpLine "  -h, --help" "show this help message and exit"

def commandHelp : Command → String
  | .allowances => "List non-zero token allowances granted by a wallet"
  | .contract => "Analyze a deployed contract for risk indicators"

def help (command : Option Command) : String :=
  text command ++
  match command with
  | none =>
    "\nOn-chain risk analysis for token allowances and contract safety\n" ++
    "\npositional arguments:\n  " ++ commandChoices ++ "\n" ++
    "".intercalate (Command.all.map fun c => helpLine ("    " ++ c.name) (commandHelp c)) ++
    "\noptions:\n" ++ helpOption
  | some _ =>
    "\npositional arguments:\n" ++ helpLine "  address" "Ethereum address" ++
    "\noptions:\n" ++ helpOption ++
    helpLine ("  " ++ networkOption)
      ("Network to query (default: " ++ Network.mainName ++ ")") ++
    helpLine "  --json" "Print structured JSON output" ++
    helpLine ("  " ++ levelOption) "Logging level (default: LOG_LEVEL or INFO)"

def complaint (command : Option Command) (c : Complaint) : String :=
  text command ++ title command ++ ": error: " ++ c.message ++ "\n"

end Usage

end ChainRisk.CommandLine
