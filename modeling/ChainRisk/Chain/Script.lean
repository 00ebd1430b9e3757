import ChainRisk.Chain.Call
import ChainRisk.Time.Instant

/-!
A scripted outside world. Each subject has a list of entries, one for each read of it in turn, of
which the last one repeats; a subject without entries has a standing answer.
-/

namespace ChainRisk

structure Fault where
  kind : FaultKind
  message : String

inductive Reply (α : Type)
  | value (a : α)
  | fault (f : Fault)

structure Entry (α : Type) where
  reply : Reply α
  delay : Binary64

def Entry.atOnce {α : Type} (a : α) : Entry α := ⟨.value a, .zero⟩

def Entry.pick {α : Type} (standing : α) (entries : List (Entry α)) (n : Nat) : Entry α :=
  (entries[n]? <|> entries.getLast?).getD (.atOnce standing)

/-- `epoch` is the time of day, in seconds since 1970 began, at which a run starts, and `room` the greatest
length of a text for which there is memory. -/
structure Script where
  epoch : Binary64
  room : Nat
  code : Address → List (Entry (Option Bytes))
  storage : Address → Int → List (Entry (Option Bytes))
  blockNumber : List (Entry Json)
  logs : Address → List (Entry (Option (List Log)))
  tokenField : Address → TokenField → List (Entry Json)
  allowance : Address → Address → List (Entry Json)
  explorer : Option String → String → List (Entry Json)

namespace Script

def standingBlock : Int := 18500000

def standingPayload : Json :=
  .obj [("status", .str "0"), ("message", .str "No transactions found"), ("result", .arr [])]

/-- The entry for a read of the chain. A token that has no entries refuses to answer. -/
def entry (w : Script) : (q : Query) → Nat → Entry q.Answer
  | .code a, n => .pick (some []) (w.code a) n
  | .storage a slot, n => .pick (some (List.replicate 32 0)) (w.storage a slot) n
  | .blockNumber, n => .pick (.int standingBlock) w.blockNumber n
  | .logs t _ _, n => .pick (some []) (w.logs t) n
  | .tokenField t f, n =>
    match w.tokenField t f with
    | [] => ⟨.fault ⟨.value, "execution reverted"⟩, .zero⟩
    | entries => .pick .null entries n
  | .allowance t _ s, n => .pick (.int 0) (w.allowance t s) n

def explorerEntry (w : Script) (params : Keyed Json) (n : Nat) : Entry Json :=
  match Subject.ofParameters params with
  | .explorer action address => .pick standingPayload (w.explorer action address) n
  | _ => .atOnce standingPayload

def timeOfDay (w : Script) (t : Instant) : Binary64 := w.epoch + t.toBinary64

end Script

end ChainRisk
