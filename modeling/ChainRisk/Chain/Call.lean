import ChainRisk.Address.Word
import ChainRisk.Failure

namespace ChainRisk

inductive TokenField
  | symbol
  | name
  | decimals
  deriving DecidableEq

def TokenField.text : TokenField → String
  | symbol => "symbol"
  | name => "name"
  | decimals => "decimals"

inductive Query
  | code (address : Address)
  | storage (address : Address) (slot : Int)
  | blockNumber
  | logs (token : Address) (fromBlock : Json) (owner : Address)
  | tokenField (token : Address) (field : TokenField)
  | allowance (token owner spender : Address)

abbrev Log := Option (List Bytes)

namespace Query

abbrev Answer : Query → Type
  | code _ => Option Bytes
  | storage _ _ => Option Bytes
  | blockNumber => Json
  | logs _ _ _ => Option (List Log)
  | tokenField _ _ => Json
  | allowance _ _ _ => Json

def approvalTopic : String :=
  "0x8c5be1e5ebec7d5bd14f71427d1e84f3dd0314c0f7b2291e5b200ac8c7c3b925"

def text : Query → String
  | code a => "eth_getCode " ++ a.text
  | storage a slot => "eth_getStorageAt " ++ a.text ++ " " ++ String.ofList (Hex.ofInt slot)
  | blockNumber => "eth_blockNumber"
  | logs token fromBlock owner =>
    "eth_getLogs " ++ token.text ++ " " ++ fromBlock.shown ++ " latest " ++ approvalTopic ++ "," ++
      Address.topic owner.text
  | tokenField token f => token.text ++ "." ++ f.text ++ "()"
  | allowance token owner spender =>
    token.text ++ ".allowance(" ++ owner.text ++ "," ++ spender.text ++ ")"

end Query

/-- What a read looks at. Reads with the same subject are answered from one list of entries. -/
inductive Subject
  | code (address : Address)
  | storage (address : Address) (slot : Int)
  | blockNumber
  | logs (token : Address)
  | tokenField (token : Address) (field : TokenField)
  | allowance (token spender : Address)
  | explorer (action : Option String) (address : String)
  deriving DecidableEq

def Query.subject : Query → Subject
  | code a => .code a
  | storage a slot => .storage a slot
  | blockNumber => .blockNumber
  | logs token _ _ => .logs token
  | tokenField token f => .tokenField token f
  | allowance token _ spender => .allowance token spender

namespace Subject

def ofParameters (params : Keyed Json) : Subject :=
  explorer ((Keyed.get? "action" params).bind Json.str?)
    (match Keyed.get? "address" params with
      | some v => Text.lower v.shown
      | none => "none")

end Subject

inductive Call
  | connect (url : String) (timeout : Int)
  | openSession (total : Duration)
  | closeSession
  | explorer (url : String) (params : Keyed Json)
  | rpc (url : String) (query : Query)

namespace Call

def subject? : Call → Option Subject
  | explorer _ params => some (.ofParameters params)
  | rpc _ q => some q.subject
  | _ => none

def parametersText (params : Keyed Json) : String :=
  "&".intercalate (params.map fun p => p.1 ++ "=" ++ p.2.shown)

def text : Call → String
  | connect url timeout => "WEB3 " ++ url ++ " timeout=" ++ Numeral.ofInt timeout
  | openSession total =>
    "SESSION open total=" ++ total.text ++ " connect=10 evmsecure/1.0 application/json"
  | closeSession => "SESSION close"
  | explorer url params => "GET " ++ url ++ " " ++ parametersText params
  | rpc url q => "RPC " ++ url ++ " " ++ q.text

end Call

end ChainRisk
