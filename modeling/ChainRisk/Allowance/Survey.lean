import ChainRisk.Allowance.Batch
import ChainRisk.Analysis

namespace ChainRisk

abbrev Pauses := Nat → Binary64

/-- How a survey is carried out. Without a cap all tokens are looked at; a range of zero means the
whole history of events. -/
structure Survey where
  spenders : SpenderTable
  batchSize : Nat
  pauses : Pauses
  cap : Option Int
  scanRange : Int
  batchSize_pos : 0 < batchSize

namespace Survey

def make (spenders : SpenderTable) (batchSize : Int) (pauses : Pauses) (cap : Option Int)
    (scanRange : Int) : Attempt Survey :=
  if h : 0 < batchSize then
    .ok ⟨spenders, batchSize.toNat, pauses, cap, scanRange, by omega⟩
  else .error (.badBatchSize batchSize)

/-- The first `cap` tokens; a cap below zero leaves out as many at the end. -/
def chosen (s : Survey) (tokens : List String) : List String :=
  match s.cap with
  | none => tokens
  | some n => if 0 ≤ n then tokens.take n.toNat else tokens.take (tokens.length - n.natAbs)

def lookBack (latest : Json) (range : Int) : Attempt Json :=
  match latest with
  | .bool b => .ok (.int (max 0 ((if b then 1 else 0) - range)))
  | .int n => .ok (.int (max 0 (n - range)))
  | .real x =>
    match Binary64.ofInt range with
    | .infinite _ => .error (.mismatch .tooLarge)
    | r => .ok (if Binary64.zero.lt (x - r) then .real (x - r) else .int 0)
  | _ => .error (.mismatch .wrongType)

end Survey

namespace Work

open Activity

variable (world : Script) (survey : Survey)

def firstBlock : Work Json := do
  if survey.scanRange ≤ 0 then Activity.pure (.int 0)
  else
    match ← attempt (blockNumber world) with
    | .ok latest => ofAttempt (Survey.lookBack latest survey.scanRange)
    | .error e => if e.isIn .network then Activity.pure (.int 0) else fail e

/-- The spenders of a token, or all that the table knows when the events cannot be read. -/
def discovered (token owner : String) (fromBlock : Json) : Work (List String) := do
  match ← attempt (spenders world (.str token) (.str owner) fromBlock) with
  | .ok found => Activity.pure (found.map Address.text)
  | .error e =>
    if e.isIn .network then do
      update Desk.countDegraded
      Activity.pure survey.spenders.addresses
    else fail e

def granted (token : String) (m : TokenMetadata) :
    List (String × Attempt Int) → Work (List Allowance)
  | [] => Activity.pure []
  | (spender, answer) :: rest => do
    let amount ← orStandIn 0 answer
    let found ←
      if amount ≤ 0 then Activity.pure []
      else ofAttempt ((Allowance.make (.str token) (.str spender) (Numeral.ofInt amount) m.symbol
        m.name (.int m.decimals) (survey.spenders.classify spender)).map ([·]))
    let later ← granted token m rest
    Activity.pure (found ++ later)

def ofToken (owner : String) (fromBlock : Json) (token : String) : Work (List Allowance) := do
  let (m, found) ← both (metadata world (.str token))
    (discovered world survey token owner fromBlock)
  let m ← orStandIn (TokenMetadata.unknown (.str token)) m
  let found ← ofAttempt found
  let amounts ← each (found.map fun s => allowance world (.str token) (.str owner) (.str s))
  granted survey token m (found.zip amounts)

def pause (d : Binary64) : Work Unit := if Binary64.zero.lt d then wait d else Activity.pure ()

def ofBatches (process : String → Work (List Allowance)) :
    Nat → List (List String) → Work (List Allowance)
  | _, [] => Activity.pure []
  | _, [batch] => do
    let found ← all (batch.map process)
    Activity.pure found.flatten
  | i, batch :: next :: rest => do
    let found ← all (batch.map process)
    pause (survey.pauses i)
    let later ← ofBatches process (i + 1) (next :: rest)
    Activity.pure (found.flatten ++ later)

def timestamp : Work Int := do
  let seconds ← clock world
  ofAttempt (Json.real (seconds * (1000 : Nat))).toInt

def surveyed (owner : Address) : Work AllowanceReport := do
  let tokens ← transferHistory world (.str owner.text)
  let fromBlock ← firstBlock world survey
  let found ← ofBatches survey (ofToken world survey owner.text fromBlock) 0
    (batches survey.batchSize survey.batchSize_pos (survey.chosen tokens))
  let stamp ← timestamp world
  let d ← inspect
  Activity.pure ⟨.str owner.text, found, .int stamp, d.client.network.chainId⟩

def allowances (owner : Json) : Work AllowanceReport := do
  let a ← address owner
  recorded world (surveyed world survey a)

end Work

end ChainRisk
