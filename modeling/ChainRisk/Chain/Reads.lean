import ChainRisk.Allowance
import ChainRisk.Chain.Client
import ChainRisk.Chain.Envelope

namespace ChainRisk

namespace Work

open Activity

variable (world : Script)

def address (v : Json) : Work Address := ofAttempt (Address.require v)

def code (a : Json) : Work Bytes := do
  let a ← address a
  let answer ← rpc world "eth_getCode" (.code a)
  Activity.pure (answer.getD [])

def zeroWord : Bytes := List.replicate 32 0

/-- A word of storage; short ones are filled up in front, and a missing one is zero. -/
def word (answer : Option Bytes) : Bytes := (answer.getD []).leftpad 32 0

def slotNumber : Json → Attempt Int
  | .str slot => (Numeral.integer 16 slot).mapError .numeral
  | _ => .error (.mismatch .wrongType)

def storage (a slot : Json) : Work Bytes := do
  let a ← address a
  let n ← ofAttempt (slotNumber slot)
  let answer ← rpc world "eth_getStorageAt" (.storage a n)
  Activity.pure (word answer)

def blockNumber : Work Json := rpc world "eth_blockNumber" .blockNumber

def tokenField (token : Address) (f : TokenField) : Work Json :=
  rpc world (token.text ++ "." ++ f.text ++ "()") (.tokenField token f)

def metadata (token : Json) : Work TokenMetadata := do
  let a ← address token
  let fields ← all [tokenField world a .symbol, tokenField world a .name,
    tokenField world a .decimals]
  match fields with
  | [symbol, name, decimals] =>
    let n ← ofAttempt decimals.toInt
    Activity.pure ⟨token, symbol, name, n⟩
  | _ => fail (.mismatch .wrongType)

def allowance (token owner spender : Json) : Work Int := do
  let t ← address token
  let o ← address owner
  let s ← address spender
  let answer ← rpc world (t.text ++ ".allowance()") (.allowance t o s)
  ofAttempt answer.toInt

def spenderOf : Log → Attempt (Option Address)
  | none => .error (.mismatch .missingField)
  | some topics => .ok (topics[2]?.map Address.ofWord)

def spendersOf : Option (List Log) → Attempt (List Address)
  | none => .error (.mismatch .wrongType)
  | some logs => (logs.mapM spenderOf).map fun found => (found.filterMap id).eraseDups

def spenders (token owner fromBlock : Json) : Work (List Address) := do
  let t ← address token
  let o ← address owner
  let logs ← rpc world (t.text ++ " Approval logs") (.logs t fromBlock o)
  ofAttempt (spendersOf logs)

def accountQuery (action : String) (a : Address) (rest : List (String × Json)) : Keyed Json :=
  [("module", .str "account"), ("action", .str action), ("address", .str a.text)] ++ rest

def verifiedSource (a : Json) : Work Verification := do
  let a ← address a
  let payload ← explorer world
    [("module", .str "contract"), ("action", .str "getsourcecode"), ("address", .str a.text)]
  ofAttempt (Envelope.verification payload)

def firstTransaction (a : Json) : Work (Option Calendar.Timestamp) := do
  let a ← address a
  let payload ← attempt (explorer world (accountQuery "txlist" a [
    ("startblock", .int 0), ("endblock", .int 99999999), ("page", .int 1), ("offset", .int 1),
    ("sort", .str "asc")]))
  Activity.pure (payload.toOption.bind Envelope.firstTime?)

def transferHistory (owner : Json) : Work (List String) := do
  let a ← address owner
  let payload ← explorer world (accountQuery "tokentx" a [("sort", .str "desc")])
  ofAttempt (Envelope.tokens payload)

end Work

end ChainRisk
