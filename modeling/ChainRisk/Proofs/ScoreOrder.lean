import Mathlib.Logic.Relation
import ChainRisk.Score

namespace ChainRisk

namespace RiskLevel

def rank : RiskLevel → Nat
  | low => 0
  | medium => 1
  | high => 2
  | unknown => 3

variable {s t : Int}

theorem ofScore_eq_low_iff : ofScore s = low ↔ 80 ≤ s := by
  unfold ofScore
  split
  · next h => exact iff_of_true rfl h
  · next h =>
    refine iff_of_false ?_ h
    split <;> nofun

theorem ofScore_eq_high_iff : ofScore s = high ↔ s < 50 := by
  unfold ofScore
  split
  · exact iff_of_false nofun (by omega)
  · split
    · exact iff_of_false nofun (by omega)
    · exact iff_of_true rfl (by omega)

theorem ofScore_ne_unknown (s : Int) : ofScore s ≠ unknown := by
  unfold ofScore
  split
  · nofun
  · split <;> nofun

theorem rank_ofScore_le (h : s ≤ t) : (ofScore t).rank ≤ (ofScore s).rank := by
  unfold ofScore
  by_cases hlow : 80 ≤ t
  · rw [if_pos hlow]
    exact Nat.zero_le _
  · rw [if_neg hlow, if_neg (by omega : ¬ 80 ≤ s)]
    by_cases hmedium : 50 ≤ s
    · have hsame : (if 50 ≤ t then medium else high) = if 50 ≤ s then medium else high := by
        rw [if_pos hmedium, if_pos (by omega)]
      exact Nat.le_of_eq (congrArg rank hsame)
    · rw [if_neg hmedium]
      split <;> decide

end RiskLevel

namespace Score

variable {verified proxy : Bool} {fs gs : List Finding}

/-- What one more finding costs beside `highs` findings of high severity. -/
def toll (highs : Nat) : Severity → Int
  | .low => 5
  | .medium => 15
  | .high => if highs = 0 then 40 else 30

theorem toll_high (highs : Nat) : toll highs .high = 40 ∨ toll highs .high = 30 := by
  rw [toll]
  split
  · exact .inl rfl
  · exact .inr rfl

theorem five_le_toll (highs : Nat) (v : Severity) : 5 ≤ toll highs v := by
  cases v with
  | low => exact Int.le_refl 5
  | medium =>
    change (5 : Int) ≤ 15
    decide
  | high =>
    have h := toll_high highs
    omega

theorem toll_le_of_rank_le (highs : Nat) {v w : Severity} (h : v.rank ≤ w.rank) :
    toll highs v ≤ toll highs w := by
  cases v with
  | low => exact five_le_toll highs w
  | medium =>
    cases w with
    | low => exact absurd h (by decide)
    | medium => exact Int.le_refl _
    | high =>
      have hhigh := toll_high highs
      change 15 ≤ toll highs .high
      omega
  | high =>
    cases w with
    | low => exact absurd h (by decide)
    | medium => exact absurd h (by decide)
    | high => exact Int.le_refl _

theorem highPenalty_succ (n : Nat) : highPenalty (n + 1) = highPenalty n + toll n .high := by
  unfold highPenalty
  rw [if_neg (Nat.succ_ne_zero n), toll]
  split
  · next h =>
    subst h
    decide
  · omega

theorem count_insert (v : Severity) (fs gs : List Finding) (f : Finding) :
    count v (fs ++ f :: gs) = count v (fs ++ gs) + if f.severity = v then 1 else 0 := by
  simp only [count, List.countP_append, List.countP_cons, beq_iff_eq]
  omega

theorem unclamped_insert (verified proxy : Bool) (fs gs : List Finding) (f : Finding) :
    unclamped verified proxy (fs ++ f :: gs) =
      unclamped verified proxy (fs ++ gs) - toll (count .high (fs ++ gs)) f.severity := by
  unfold unclamped
  rw [count_insert, count_insert, count_insert]
  cases f.severity with
  | low =>
    simp only [reduceCtorEq, if_false, if_true, Nat.add_zero, toll]
    omega
  | medium =>
    simp only [reduceCtorEq, if_false, if_true, Nat.add_zero, toll]
    omega
  | high =>
    simp only [reduceCtorEq, if_false, if_true, Nat.add_zero, highPenalty_succ]
    omega

theorem highPenalty_nonneg (n : Nat) : 0 ≤ highPenalty n := by
  unfold highPenalty
  split <;> omega

theorem unclamped_le (verified proxy : Bool) (fs : List Finding) : unclamped verified proxy fs ≤ 100 := by
  have hhigh := highPenalty_nonneg (count .high fs)
  unfold unclamped
  split <;> split <;> omega

theorem compute_eq_max (verified proxy : Bool) (fs : List Finding) :
    compute verified proxy fs = max 0 (unclamped verified proxy fs) := by
  have hle := unclamped_le verified proxy fs
  unfold compute
  omega

theorem compute_le_of_unclamped_le {verified' proxy' : Bool}
    (h : unclamped verified' proxy' gs ≤ unclamped verified proxy fs) :
    compute verified' proxy' gs ≤ compute verified proxy fs := by
  rw [compute_eq_max, compute_eq_max]
  omega

theorem unclamped_perm (verified proxy : Bool) (h : fs.Perm gs) :
    unclamped verified proxy gs = unclamped verified proxy fs := by
  have hcount (v : Severity) : count v gs = count v fs := (h.countP_eq _).symm
  rw [unclamped, unclamped, hcount, hcount, hcount]

end Score

structure Profile where
  verified : Bool
  proxy : Bool
  findings : List Finding

namespace Profile

open Score

variable {x y : Profile}

def score (x : Profile) : Int := compute x.verified x.proxy x.findings

def level (x : Profile) : RiskLevel := .ofScore x.score

inductive Worsened : Profile → Profile → Prop
  | added (verified proxy : Bool) (fs gs : List Finding) (f : Finding) :
    Worsened ⟨verified, proxy, fs ++ gs⟩ ⟨verified, proxy, fs ++ f :: gs⟩
  | raised (verified proxy : Bool) (fs gs : List Finding) {f : Finding} {v : Severity}
    (h : f.severity.rank ≤ v.rank) :
    Worsened ⟨verified, proxy, fs ++ f :: gs⟩ ⟨verified, proxy, fs ++ { f with severity := v } :: gs⟩
  | unverified (proxy : Bool) (fs : List Finding) : Worsened ⟨true, proxy, fs⟩ ⟨false, proxy, fs⟩
  | delegating (verified : Bool) (fs : List Finding) : Worsened ⟨verified, false, fs⟩ ⟨verified, true, fs⟩

theorem score_le_of_worsened (h : Worsened x y) : y.score ≤ x.score := by
  apply compute_le_of_unclamped_le
  cases h with
  | added verified proxy fs gs f =>
    have htoll := five_le_toll (count .high (fs ++ gs)) f.severity
    simp only [unclamped_insert]
    omega
  | raised verified proxy fs gs h =>
    have htoll := toll_le_of_rank_le (count .high (fs ++ gs)) h
    simp only [unclamped_insert]
    omega
  | unverified proxy fs =>
    simp only [unclamped, if_true, Bool.false_eq_true, if_false]
    omega
  | delegating verified fs =>
    simp only [unclamped, if_true, Bool.false_eq_true, if_false]
    omega

theorem score_le_of_worsening (h : Relation.ReflTransGen Worsened x y) : y.score ≤ x.score := by
  induction h with
  | refl => exact Int.le_refl _
  | tail _ hstep ih => exact Int.le_trans (score_le_of_worsened hstep) ih

theorem worsening_of_sublist (verified proxy : Bool) {fs gs : List Finding} (h : fs.Sublist gs)
    (before : List Finding) :
    Relation.ReflTransGen Worsened ⟨verified, proxy, before ++ fs⟩ ⟨verified, proxy, before ++ gs⟩ := by
  induction h generalizing before with
  | slnil => exact .refl
  | cons f _ ih => exact (ih before).tail (.added verified proxy before _ f)
  | cons_cons f _ ih =>
    have hstep := ih (before ++ [f])
    rwa [List.append_assoc, List.append_assoc] at hstep

end Profile

namespace Score

theorem compute_le_of_sublist (verified proxy : Bool) (h : fs.Sublist gs) :
    compute verified proxy gs ≤ compute verified proxy fs := by
  have hworse : Relation.ReflTransGen Profile.Worsened ⟨verified, proxy, fs⟩ ⟨verified, proxy, gs⟩ :=
    Profile.worsening_of_sublist verified proxy h []
  have hscore := Profile.score_le_of_worsening hworse
  exact hscore

theorem compute_counts_findings (verified proxy : Bool) (fs : List Finding) :
    (0 ≤ compute verified proxy fs ∧ compute verified proxy fs ≤ 100) ∧
    compute verified proxy fs = max 0 (100 - (if verified then 0 else 40) - (if proxy then 10 else 0) -
      (if count .high fs = 0 then 0 else 40 + 30 * ((count .high fs : Int) - 1)) -
      15 * count .medium fs - 5 * count .low fs) ∧
    (∀ gs, fs.Perm gs → compute verified proxy gs = compute verified proxy fs) ∧
    ∀ x, Relation.ReflTransGen Profile.Worsened ⟨verified, proxy, fs⟩ x →
      x.score ≤ compute verified proxy fs ∧
      (RiskLevel.ofScore (compute verified proxy fs)).rank ≤ x.level.rank := by
  refine ⟨?_, ?_, ?_, ?_⟩
  · have hle := unclamped_le verified proxy fs
    rw [compute_eq_max]
    omega
  · have hhigh : highPenalty (count .high fs) =
        if count .high fs = 0 then 0 else 40 + 30 * ((count .high fs : Int) - 1) := by
      unfold highPenalty
      split <;> omega
    rw [compute_eq_max, unclamped, hhigh, Int.mul_comm 15, Int.mul_comm 5]
  · intro gs hperm
    rw [compute_eq_max, compute_eq_max, unclamped_perm verified proxy hperm]
  · intro x hx
    have hscore := Profile.score_le_of_worsening hx
    exact ⟨hscore, RiskLevel.rank_ofScore_le hscore⟩

def findingOf (v : Severity) : Finding := ⟨.null, v, .null⟩

theorem compute_counts_findings_pair :
    let fs := [findingOf .low, findingOf .high]
    let x : Profile := ⟨true, false, [findingOf .high, findingOf .high]⟩
    fs.Perm [findingOf .high, findingOf .low] ∧ Profile.Worsened ⟨true, false, fs⟩ x ∧
    compute true false [findingOf .high, findingOf .low] = compute true false fs ∧
    compute true false fs = 55 ∧ x.score ≤ compute true false fs ∧ x.score = 30 := by
  intro fs x
  have hperm : fs.Perm [findingOf .high, findingOf .low] := .swap _ _ _
  have hstep : Profile.Worsened ⟨true, false, fs⟩ x := .raised true false [] [findingOf .high] (by decide)
  obtain ⟨-, -, hpermuted, hworsened⟩ := compute_counts_findings true false fs
  exact ⟨hperm, hstep, hpermuted _ hperm, by decide, (hworsened x (.single hstep)).1, by decide⟩

end Score

end ChainRisk
