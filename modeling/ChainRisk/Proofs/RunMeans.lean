import ChainRisk.Statistics
import Mathlib.Algebra.BigOperators.Group.List.Basic
import Mathlib.Algebra.CharZero.Defs
import Mathlib.Algebra.Field.Basic

namespace ChainRisk

namespace RunStatistics

variable {K ρ : Type}

def runsOnly (s : RunStatistics K) : RunStatistics K := { s with degraded := 0 }

def Balanced (s : RunStatistics K) : Prop := s.total = s.successful + s.failed

theorem balanced_fresh (zero : K) : (fresh zero).Balanced := rfl

section

variable [Add K] [Mul K] [Div K] [NatCast K]

theorem runsOnly_record (elapsed : K) (success : Bool) (s : RunStatistics K) :
    (s.record elapsed success).runsOnly = s.runsOnly.record elapsed success := rfl

theorem Balanced.record {s : RunStatistics K} (h : s.Balanced) (elapsed : K) (success : Bool) :
    (s.record elapsed success).Balanced := by
  unfold Balanced at *
  cases success with
  | true =>
    change s.total + 1 = s.successful + 1 + s.failed
    omega
  | false =>
    change s.total + 1 = s.successful + (s.failed + 1)
    omega

variable (elapsed : ρ → K) (success : ρ → Bool)

def recordAll (s : RunStatistics K) (runs : List ρ) : RunStatistics K :=
  runs.foldl (fun s r => s.record (elapsed r) (success r)) s

theorem recordAll_cons (s : RunStatistics K) (r : ρ) (runs : List ρ) :
    recordAll elapsed success s (r :: runs) =
      recordAll elapsed success (s.record (elapsed r) (success r)) runs := rfl

variable {elapsed success}

theorem Balanced.recordAll {s : RunStatistics K} (h : s.Balanced) (runs : List ρ) :
    (recordAll elapsed success s runs).Balanced := by
  induction runs generalizing s with
  | nil => exact h
  | cons r runs ih => exact ih (h.record (elapsed r) (success r))

theorem recordAll_total (s : RunStatistics K) (runs : List ρ) :
    (recordAll elapsed success s runs).total = s.total + runs.length := by
  induction runs generalizing s with
  | nil => rfl
  | cons r runs ih =>
    rw [recordAll_cons, ih, List.length_cons]
    change s.total + 1 + runs.length = _
    omega

theorem recordAll_successful (s : RunStatistics K) (runs : List ρ) :
    (recordAll elapsed success s runs).successful = s.successful + runs.countP success := by
  induction runs generalizing s with
  | nil => rfl
  | cons r runs ih =>
    rw [recordAll_cons, ih, List.countP_cons]
    change (if success r then s.successful + 1 else s.successful) + runs.countP success = _
    split <;> omega

end

section

variable [Field K] [CharZero K]

theorem extendedMean_mul (mean : K) (n : Nat) (x : K) :
    extendedMean mean n x * (n + 1 : Nat) = mean * n + x :=
  div_mul_cancel₀ _ (Nat.cast_ne_zero.2 n.succ_ne_zero)

variable {elapsed : ρ → K} {success : ρ → Bool}

theorem recordAll_average_mul (s : RunStatistics K) (runs : List ρ) :
    (recordAll elapsed success s runs).average * (s.total + runs.length : Nat) =
      s.average * s.total + (runs.map elapsed).sum := by
  induction runs generalizing s with
  | nil =>
    rw [List.map_nil, List.sum_nil, add_zero]
    rfl
  | cons r runs ih =>
    have hfirst : (s.record (elapsed r) (success r)).average * (s.total + 1 : Nat) =
        s.average * s.total + elapsed r := extendedMean_mul s.average s.total (elapsed r)
    have hrest : (recordAll elapsed success (s.record (elapsed r) (success r)) runs).average *
        (s.total + 1 + runs.length : Nat) =
          (s.record (elapsed r) (success r)).average * (s.total + 1 : Nat) + (runs.map elapsed).sum := ih _
    rw [recordAll_cons, List.length_cons, Nat.add_comm runs.length, ← Nat.add_assoc, hrest, hfirst, List.map_cons,
      List.sum_cons, add_assoc]

theorem average_of_fresh (runs : List ρ) :
    (recordAll elapsed success (fresh 0) runs).average = (runs.map elapsed).sum / runs.length := by
  have h : (recordAll elapsed success (fresh 0) runs).average * (0 + runs.length : Nat) =
      0 * (0 : Nat) + (runs.map elapsed).sum := recordAll_average_mul (fresh 0) runs
  rw [zero_mul, zero_add, zero_add] at h
  cases runs with
  | nil =>
    rw [List.map_nil, List.sum_nil, zero_div]
    rfl
  | cons r runs => exact (eq_div_iff (Nat.cast_ne_zero.2 runs.length.succ_ne_zero)).2 h

theorem average_of_perm {order runs : List ρ} (h : order.Perm runs) :
    (recordAll elapsed success (fresh 0) order).average = (runs.map elapsed).sum / runs.length := by
  rw [average_of_fresh, (h.map elapsed).sum_eq, h.length_eq]

end

end RunStatistics

end ChainRisk
