import ChainRisk.CommandLine.Usage
import ChainRisk.Json.Writing
import ChainRisk.Logging
import ChainRisk.Request

namespace ChainRisk.CommandLine

structure Transcript where
  status : Nat
  output : String
  errors : String
  logLevel : Option Logging.Level
  trace : Trace

open Activity

def Arguments.request (args : Arguments) (command : Command) (network : Network) : Request where
  question :=
    match command with
    | .allowances => .allowances none none
    | .contract => .contract
  text := some args.address
  network := some network

def answer (world : Script) (settings : Settings) (command : Command) (args : Arguments) :
    Activity Trace Answer :=
  Pool.alone settings.networks settings.requestTimeout do
    let p ← inspect
    let network ← ofAttempt (p.networks.ofName args.network)
    Request.answer world settings (args.request command network)

def printed (json : Bool) (a : Answer) : String :=
  (if json then a.toJson.page else a.text) ++ "\n"

def levelName (env : Environment) (args : Arguments) : String :=
  match args.logLevel.filter (!·.isEmpty) with
  | some name => name
  | none => (env "LOG_LEVEL").getD Logging.defaultName

def refusal (e : Failure) : String := "❌ " ++ e.message ++ "\n"

def carriedOut (world : Script) (env : Environment) (command : Command) (args : Arguments) :
    Attempt Answer × Trace :=
  match Settings.load env with
  | .error e => (.error e, [])
  | .ok settings =>
    let (o, trace) := answer world settings command args (.since .start) []
    (o.result, trace)

def run (world : Script) (env : Environment) (words : List String) : Transcript :=
  match Arguments.parse words with
  | .error (.help command) => ⟨0, Usage.help command, "", none, []⟩
  | .error (.complaint command c) => ⟨2, "", Usage.complaint command c, none, []⟩
  | .ok (command, args) =>
    let level := some (Logging.level (levelName env args))
    match carriedOut world env command args with
    | (.error e, trace) => ⟨1, "", refusal e, level, trace⟩
    | (.ok a, trace) => ⟨if a.success then 0 else 1, printed args.json a, "", level, trace⟩

end ChainRisk.CommandLine
