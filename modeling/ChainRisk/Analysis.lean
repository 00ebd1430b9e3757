import ChainRisk.Assessment
import ChainRisk.Detector.Basic
import ChainRisk.Proxy

namespace ChainRisk.Work

open Activity

variable (world : Script)

def clock : Work Binary64 := do
  let t ← now
  Activity.pure (world.timeOfDay t)

def milliseconds (start stop : Binary64) : Binary64 := (stop - start) * (1000 : Nat)

def recorded {α : Type} (x : Work α) : Work α := do
  let start ← clock world
  let result ← attempt x
  let stop ← clock world
  update (Desk.recordRun (milliseconds start stop) result.toOption.isSome)
  ofAttempt result

def orStandIn {α : Type} (standIn : α) : Attempt α → Work α
  | .ok a => Activity.pure a
  | .error _ => do
    update Desk.countDegraded
    Activity.pure standIn

/-- The facts of a contract that has code. Verification, proxy and first transaction are looked up at
once; of two failures that of the verification is told. -/
def deployedFacts (detectors : List Detector) (slots : List ProxySlot) (a : Address) (code : Bytes) :
    Work ContractFacts := do
  let subject := Json.str a.text
  let (verification, rest) ← both (verifiedSource world subject)
    (both (delegation world subject slots) (firstTransaction world subject))
  let verification ← ofAttempt verification
  let (proxy, deployed) ← ofAttempt rest
  let proxy ← ofAttempt proxy
  let deployed ← orStandIn none deployed
  let findings ← ofAttempt (Detector.scan code verification.source detectors)
  Activity.pure {
    address := .str a.text
    verified := .bool verification.verified
    proxy := .bool proxy.isSome
    contractName := verification.contractName
    implementation := .ofOption (fun d => .str d.implementation.text) proxy
    deployed := deployed
    findings := findings }

def contractFacts (detectors : List Detector) (slots : List ProxySlot) (a : Address) :
    Work ContractFacts := do
  let code ← code world (.str a.text)
  if code.isEmpty then fail (.notAContract a)
  else deployedFacts world detectors slots a code

def assess (detectors : List Detector) (slots : List ProxySlot) (contract : Json) :
    Work Assessment := do
  let a ← address contract
  let facts ← recorded world (contractFacts world detectors slots a)
  Activity.pure (Assessment.ofFacts facts)

end ChainRisk.Work
