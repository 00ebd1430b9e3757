import ChainRisk.Address.Search
import ChainRisk.Allowance.Survey
import ChainRisk.Chain.Pool
import ChainRisk.Settings

namespace ChainRisk

inductive Answer
  | assessed (assessment : Assessment) (address : Address) (network : String)
  | listed (report : AllowanceReport) (text : String) (address : Address)
  | badInput (reason : String)
  | noContract (address : Address)
  | incomplete (reason : String) (address : Address)

namespace Answer

def success : Answer → Bool
  | assessed _ _ _ => true
  | listed _ _ _ => true
  | _ => false

def badInputText : String := "Please provide a valid Ethereum address."

def text : Answer → String
  | assessed a _ _ => a.report
  | listed _ text _ => text
  | badInput _ => badInputText
  | noContract a => (Failure.notAContract a).message
  | incomplete reason _ => "Analysis could not complete: " ++ reason

def content : Answer → List (String × Json)
  | assessed a address network =>
    [("analysis", a.toJson), ("address", .str address.text), ("network", .str network)]
  | listed r _ address =>
    [("allowances", r.toJson), ("address", .str address.text), ("chain_id", r.chainId)]
  | badInput reason => [("error", .str reason)]
  | noContract a =>
    [("error", .str (Failure.notAContract a).message), ("address", .str a.text)]
  | incomplete reason address => [("error", .str reason), ("address", .str address.text)]

def toJson (a : Answer) : Json :=
  .obj [("success", .bool a.success), ("text", .str a.text), ("content", .obj a.content)]

def lateText (limit : Duration) : String := "timed out after " ++ limit.text ++ "s"

def internalText : String := "internal error"

/-- The answer to a request about an address that failed. Only failures of the network and of the
configuration are told in their own words. -/
def ofFailure (limit : Duration) (address : Address) (e : Failure) : Answer :=
  match e with
  | .invalidAddress _ => badInput e.message
  | .notAContract a => noContract a
  | .deadlinePassed => incomplete (lateText limit) address
  | e =>
    if e.isIn .network || e.isIn .configuration then incomplete e.message address
    else incomplete internalText address

end Answer

inductive Question
  | contract
  | allowances (spenders : Option SpenderTable) (pauses : Option Pauses)

structure Request where
  question : Question
  text : Option String
  network : Option Network

namespace Request

open Activity

variable (world : Script) (settings : Settings)

def noAddressText : Question → String
  | .contract => "No valid contract address found"
  | .allowances _ _ => "No valid Ethereum address found in message"

def survey (spenders : Option SpenderTable) (pauses : Option Pauses) : Attempt Survey :=
  Survey.make (spenders.getD .standard) settings.batchSize
    (pauses.getD fun _ => settings.batchDelay.seconds) (some settings.maxTokens) settings.scanRange

/-- Work within the time of one analysis. Answers that earlier work left behind are alarms. -/
def timed {α : Type} (x : Activity Pool α) : Activity Pool α := do
  let t ← now
  let p ← inspect
  within settings.analysisTimeout (p.trace.nextAnswer? world t) x

def assessment (address : Address) (network : Network) : Activity Pool Answer := do
  let i ← Pool.get network
  let a ← timed world settings
    (Pool.work i (Work.assess world Detector.standard ProxySlot.standard (.str address.text)))
  Activity.pure (.assessed a address network.name)

def listing (spenders : Option SpenderTable) (pauses : Option Pauses) (address : Address)
    (network : Network) : Activity Pool Answer := do
  let i ← Pool.get network
  let s ← ofAttempt (survey settings spenders pauses)
  let report ← timed world settings
    (Pool.work i (Work.allowances world s (.str address.text)))
  let text ← ofAttempt (report.text world.room)
  Activity.pure (.listed report text address)

def chosenNetwork (r : Request) : Activity Pool Network := do
  match r.network with
  | some n => Activity.pure n
  | none => do
    let p ← inspect
    ofAttempt (p.networks.ofText r.text)

def concerning (r : Request) (address : Address) : Activity Pool Answer := do
  let network ← chosenNetwork r
  match r.question with
  | .contract => assessment world settings address network
  | .allowances spenders pauses => listing world settings spenders pauses address network

def answer (r : Request) : Activity Pool Answer := do
  match Address.find? r.text with
  | none => Activity.pure (.badInput (noAddressText r.question))
  | some found =>
    match Address.require (.str found) with
    | .error e => Activity.pure (.badInput e.message)
    | .ok address => do
      match ← attempt (concerning world settings r address) with
      | .ok a => Activity.pure a
      | .error e => Activity.pure (Answer.ofFailure settings.analysisTimeout address e)

def answerAlone (r : Request) : Activity Trace Answer :=
  Pool.alone settings.networks settings.requestTimeout (answer world settings r)

end Request

end ChainRisk
