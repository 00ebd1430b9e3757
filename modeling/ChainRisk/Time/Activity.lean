import ChainRisk.Failure
import ChainRisk.Time.Moment

/-!
Work that takes time and changes a state. Work starts at a moment, may have to stop at a limit, and
has an outcome: a value or a failure, and the moment of it. Concurrent pieces of work start together,
a turn after the work that waits for them, and touch different parts of the state, so they are
carried out one after the other from one moment.

Nothing happens from the limit on. Pieces that a failed sibling leaves behind are nobody's work any
more: they run on past the limit.
-/

namespace ChainRisk

structure Window where
  start : Moment
  limit : Option Moment

namespace Window

def since (t : Instant) : Window := ⟨.ofInstant t, none⟩

def reaches (w : Window) (m : Moment) : Bool :=
  match w.limit with
  | some l => decide (m < l)
  | none => true

def clip (w : Window) (t : Instant) : Instant :=
  match w.limit with
  | some l => if t ≤ l.instant then t else l.instant
  | none => t

def unlimited (w : Window) : Window := { w with limit := none }

def inner (w : Window) : Window := { w with start := w.start.next }

end Window

inductive Pause
  | never
  | answered
  | waiting
  deriving DecidableEq

def Pause.andThen : Pause → Pause → Pause
  | never, p => p
  | p, _ => p

/-- By `settles` everything that was started has ended. -/
structure Outcome (α : Type) where
  result : Attempt α
  ends : Moment
  pause : Pause
  settles : Instant

def Activity (σ α : Type) := Window → σ → Outcome α × σ

namespace Activity

variable {σ τ α β : Type}

def pure (a : α) : Activity σ α := fun w s =>
  (⟨.ok a, w.start, .never, w.clip w.start.instant⟩, s)

def fail (e : Failure) : Activity σ α := fun w s =>
  (⟨.error e, w.start, .never, w.clip w.start.instant⟩, s)

def ofAttempt : Attempt α → Activity σ α
  | .ok a => pure a
  | .error e => fail e

def bind (x : Activity σ α) (f : α → Activity σ β) : Activity σ β := fun w s =>
  let (o, s) := x w s
  match o.result with
  | .error e => (⟨.error e, o.ends, o.pause, o.settles⟩, s)
  | .ok a =>
    let (p, s) := f a { w with start := o.ends } s
    (⟨p.result, p.ends, o.pause.andThen p.pause, max o.settles p.settles⟩, s)

instance : Monad (Activity σ) where
  pure := pure
  bind := bind

def inspect : Activity σ σ := fun w s => pure s w s

def now : Activity σ Instant := fun w s => pure w.start.instant w s

def update (f : σ → σ) : Activity σ Unit := fun w s =>
  pure () w (if w.reaches w.start then f s else s)

def wait (d : Binary64) : Activity σ Unit := fun w s =>
  let m := w.start.after d
  (⟨.ok (), m, if m = w.start then .never else .waiting, w.clip m.instant⟩, s)

def takeUp : Activity σ Unit := fun w s =>
  (⟨.ok (), w.start.next, .answered, w.clip w.start.instant⟩, s)

def attempt (x : Activity σ α) : Activity σ (Attempt α) := fun w s =>
  let (o, s) := x w s
  (⟨.ok o.result, o.ends, o.pause, o.settles⟩, s)

def both (x : Activity σ α) (y : Activity σ β) : Activity σ (Attempt α × Attempt β) := fun w s =>
  let (o, s) := x w.inner s
  let (p, s) := y w.inner s
  (⟨.ok (o.result, p.result), (max o.ends p.ends).next, .waiting, max o.settles p.settles⟩, s)

def branches : List (Activity σ α) → Window → σ → List (Outcome α) × σ
  | [], _, s => ([], s)
  | x :: xs, w, s =>
    let (o, s) := x w s
    let (os, s) := branches xs w s
    (o :: os, s)

def latest (m : Moment) (os : List (Outcome α)) : Moment := os.foldl (fun m o => max m o.ends) m

def settled (t : Instant) (os : List (Outcome α)) : Instant :=
  os.foldl (fun t o => max t o.settles) t

def each (xs : List (Activity σ α)) : Activity σ (List (Attempt α)) := fun w s =>
  let (os, s) := branches xs w.inner s
  (⟨.ok (os.map (·.result)), (latest w.start os).next, .waiting,
    settled (w.clip w.start.instant) os⟩, s)

structure Break where
  failure : Failure
  ends : Moment

def Outcome.break? (o : Outcome α) : Option Break :=
  match o.result with
  | .error e => some ⟨e, o.ends⟩
  | .ok _ => none

def firstBreak : List (Outcome α) → Option Break
  | [] => none
  | o :: os =>
    match Outcome.break? o, firstBreak os with
    | some b, some c => some (if c.ends < b.ends then c else b)
    | some b, none => some b
    | none, c => c

/-- Any number of pieces of work at once, up to the first failure. The siblings of a failure run on,
past the limit too. -/
def all (xs : List (Activity σ α)) : Activity σ (List α) := fun w s =>
  let (free, freeState) := branches xs w.inner.unlimited s
  match (firstBreak free).filter fun b => w.reaches b.ends with
  | some b => (⟨.error b.failure, b.ends.next, .waiting, settled b.ends.instant free⟩, freeState)
  | none =>
    let (os, s) := branches xs w.inner s
    (⟨os.mapM (·.result), (latest w.start os).next, .waiting,
      settled (w.clip w.start.instant) os⟩, s)

/-- The moment at which a deadline passes. One that is no number passes with the next alarm of the
clock that was set before, and at once when there is none. -/
def deadline (d : Duration) (alarm : Option Instant) (m : Moment) : Moment :=
  match d, alarm with
  | .fractional .nan, some t => .ofInstant t
  | _, _ => m.deadline d.seconds

/-- Work that is cut off when it lasts too long. A deadline that passes before the clock moves on
comes once and in vain to work that is taking up an answer: that work is not cut off any more. -/
def within (d : Duration) (alarm : Option Instant) (x : Activity σ α) : Activity σ α := fun w s =>
  let stop := deadline d alarm w.start
  let free := x w s
  if free.1.ends < stop ∨ (stop.instant = w.start.instant ∧ free.1.pause = .answered) then free
  else
    let (cut, s) := x { w with limit := some stop } s
    (⟨.error .deadlinePassed, stop, .waiting, max stop.instant cut.settles⟩, s)

def zoom (get : τ → σ) (set : σ → τ → τ) (x : Activity σ α) : Activity τ α := fun w t =>
  let (o, s) := x w (get t)
  (o, set s t)

end Activity

end ChainRisk
