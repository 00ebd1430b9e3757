import ChainRisk.Json.Basic
import ChainRisk.Number.Shortest

namespace ChainRisk

structure RunStatistics (K : Type) where
  total : Nat
  successful : Nat
  failed : Nat
  average : K
  degraded : Nat

namespace RunStatistics

variable {K : Type}

def fresh (zero : K) : RunStatistics K := ⟨0, 0, 0, zero, 0⟩

section Mean

variable [Add K] [Mul K] [Div K] [NatCast K]

def extendedMean (mean : K) (n : Nat) (x : K) : K := (mean * n + x) / (n + 1 : Nat)

def record (elapsed : K) (success : Bool) (s : RunStatistics K) : RunStatistics K where
  total := s.total + 1
  successful := if success then s.successful + 1 else s.successful
  failed := if success then s.failed else s.failed + 1
  average := extendedMean s.average s.total elapsed
  degraded := s.degraded

end Mean

def countDegraded (s : RunStatistics K) : RunStatistics K := { s with degraded := s.degraded + 1 }

def successRate (s : RunStatistics K) : Binary64 :=
  if s.total = 0 then .zero else ((s.successful : Nat) : Binary64) / (s.total : Nat) * (100 : Nat)

end RunStatistics

end ChainRisk
