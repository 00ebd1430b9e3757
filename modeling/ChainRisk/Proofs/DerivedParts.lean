import ChainRisk.Assessment
import ChainRisk.Proofs.ScoreOrder

namespace ChainRisk

namespace Score

theorem compute_eq_top_iff (verified proxy : Bool) (fs : List Finding) :
    compute verified proxy fs = 100 ↔ verified = true ∧ proxy = false ∧ fs = [] := by
  rw [compute_eq_max]
  cases fs with
  | nil => cases verified <;> cases proxy <;> decide
  | cons f fs =>
    refine iff_of_false ?_ (by rintro ⟨-, -, h⟩; cases h)
    have hinsert := unclamped_insert verified proxy [] fs f
    have htoll := five_le_toll (count .high ([] ++ fs)) f.severity
    have hle := unclamped_le verified proxy ([] ++ fs)
    rw [List.nil_append] at hinsert
    omega

theorem warnings_eq_nil_iff (verified proxy : Bool) (implementation : Json) (fs : List Finding) :
    warnings verified proxy implementation fs = [] ↔ verified = true ∧ proxy = false ∧ fs = [] := by
  simp only [warnings, List.append_eq_nil_iff, ite_eq_left_iff, ite_eq_right_iff, List.cons_ne_nil, imp_false,
    Bool.not_eq_true, Bool.not_eq_false, List.length_eq_zero_iff, Decidable.not_not, and_assoc]

end Score

namespace Assessment

variable {a b : Assessment} {cs : List Change} {f g : ContractFacts}

def Consistent (a : Assessment) : Prop := a = ofFacts a.toContractFacts

theorem consistent_ofFacts (f : ContractFacts) : (ofFacts f).Consistent := rfl

theorem eq_of_consistent (ha : a.Consistent) (hb : b.Consistent)
    (h : a.toContractFacts = b.toContractFacts) : a = b := by
  rw [ha, hb, h]

def Change.Assigns : Change → Prop
  | .derived _ => False
  | .unknown _ => False
  | _ => True

theorem Change.assigns_of_apply {c : Change} (h : c.apply f = .ok g) : c.Assigns := by
  cases c with
  | derived _ => cases h
  | unknown _ => cases h
  | _ => trivial

theorem assigns_of_foldlM (h : cs.foldlM Change.apply f = .ok g) {c : Change} (hc : c ∈ cs) : c.Assigns := by
  induction cs generalizing f with
  | nil => cases hc
  | cons c' cs ih =>
    rw [List.foldlM_cons] at h
    cases happly : c'.apply f with
    | error e =>
      rw [happly] at h
      cases h
    | ok f' =>
      rw [happly] at h
      rcases List.mem_cons.1 hc with rfl | hc
      · exact Change.assigns_of_apply happly
      · exact ih h hc

theorem exists_facts_of_replace (h : a.replace cs = .ok b) :
    ∃ f, cs.foldlM Change.apply a.toContractFacts = .ok f ∧ b = ofFacts f := by
  unfold replace at h
  split at h
  · cases h
  · cases hfold : cs.foldlM Change.apply a.toContractFacts with
    | error e =>
      rw [hfold] at h
      cases h
    | ok f =>
      rw [hfold] at h
      cases h
      exact ⟨f, rfl, rfl⟩

theorem exists_facts_of_build (h : build cs = .ok a) :
    ∃ f, cs.foldlM Change.apply blank = .ok f ∧ a = ofFacts f := by
  unfold build at h
  split at h
  · cases hfold : cs.foldlM Change.apply blank with
    | error e =>
      rw [hfold] at h
      cases h
    | ok f =>
      rw [hfold] at h
      cases h
      exact ⟨f, rfl, rfl⟩
  · cases h

theorem replace_of_not_assigns (a : Assessment) {c : Change} (hc : c ∈ cs) (h : ¬ c.Assigns) :
    ∃ e, a.replace cs = .error e := by
  cases hr : a.replace cs with
  | error e => exact ⟨e, rfl⟩
  | ok b =>
    obtain ⟨f, hfold, -⟩ := exists_facts_of_replace hr
    exact absurd (assigns_of_foldlM hfold hc) h

/-- A change that fails leaves everything as it is. -/
def revise (a : Assessment) (cs : List Change) : Assessment :=
  match a.replace cs with
  | .ok b => b
  | .error _ => a

def revised (a : Assessment) (steps : List (List Change)) : Assessment := steps.foldl revise a

theorem consistent_revise (h : a.Consistent) (cs : List Change) : (a.revise cs).Consistent := by
  unfold revise
  split
  · next b hr =>
    obtain ⟨f, -, rfl⟩ := exists_facts_of_replace hr
    exact consistent_ofFacts f
  · exact h

theorem consistent_revised (h : a.Consistent) (steps : List (List Change)) : (a.revised steps).Consistent := by
  induction steps generalizing a with
  | nil => exact h
  | cons cs steps ih => exact ih (consistent_revise h cs)

theorem consistent_build (h : build cs = .ok a) : a.Consistent := by
  obtain ⟨f, -, rfl⟩ := exists_facts_of_build h
  exact consistent_ofFacts f

theorem derived_of_consistent (h : a.Consistent) :
    a.score = Score.compute a.verified.isSome a.proxy.isSome a.findings ∧
    a.level = .ofScore a.score ∧
    a.warnings = Score.warnings a.verified.isSome a.proxy.isSome a.implementation a.findings := by
  rw [h]
  exact ⟨rfl, rfl, rfl⟩

theorem revised_derives (h : build cs = .ok a) (steps : List (List Change)) :
    let b := a.revised steps
    (b.score = Score.compute b.verified.isSome b.proxy.isSome b.findings ∧
      b.level = .ofScore b.score ∧
      b.warnings = Score.warnings b.verified.isSome b.proxy.isSome b.implementation b.findings) ∧
    (∀ cs, (∃ c ∈ cs, ¬ c.Assigns) → (∃ e, b.replace cs = .error e) ∧ a.revised (steps ++ [cs]) = b) ∧
    (∀ cs' a' steps', build cs' = .ok a' → (revised a' steps').toContractFacts = b.toContractFacts →
      revised a' steps' = b) ∧
    (b.level ≠ .unknown ∧ (b.level = .low ↔ 80 ≤ b.score) ∧ (b.level = .high ↔ b.score < 50)) ∧
    (b.score = 100 ↔ b.warnings = []) ∧
    (b.warnings = [] ↔ b.verified.isSome = true ∧ b.proxy.isSome = false ∧ b.findings = []) := by
  intro b
  have hb : b.Consistent := consistent_revised (consistent_build h) steps
  obtain ⟨hscore, hlevel, hwarnings⟩ := derived_of_consistent hb
  refine ⟨⟨hscore, hlevel, hwarnings⟩, ?_, ?_, ?_, ?_, ?_⟩
  · rintro cs ⟨c, hc, hassigns⟩
    obtain ⟨e, he⟩ := replace_of_not_assigns b hc hassigns
    refine ⟨⟨e, he⟩, ?_⟩
    rw [revised, List.foldl_append, List.foldl_cons, List.foldl_nil]
    change b.revise cs = b
    rw [revise, he]
  · intro cs' a' steps' h' hfacts
    exact eq_of_consistent (consistent_revised (consistent_build h') steps') hb hfacts
  · rw [hlevel]
    exact ⟨RiskLevel.ofScore_ne_unknown _, RiskLevel.ofScore_eq_low_iff, RiskLevel.ofScore_eq_high_iff⟩
  · rw [hwarnings, Score.warnings_eq_nil_iff, hscore, Score.compute_eq_top_iff]
  · rw [hwarnings, Score.warnings_eq_nil_iff]

def spotlessChanges : List Change := [.address (.str "0x"), .verified (.bool true), .proxy (.bool false)]

def spotless : Assessment := ofFacts { blank with
  address := .str "0x"
  verified := .bool true
  proxy := .bool false }

theorem revised_derives_spotless :
    let steps := [[.verified (.bool false), .derived "risk_level"], [.verified .null]]
    build spotlessChanges = .ok spotless ∧ spotless.score = 100 ∧
    (spotless.revised steps).score = 60 ∧ (spotless.revised steps).level = .medium ∧
    (spotless.revised steps).warnings ≠ [] := by
  intro steps
  have hbuild : build spotlessChanges = .ok spotless := rfl
  obtain ⟨⟨-, hlevel, -⟩, -, -, -, htop, -⟩ := revised_derives hbuild steps
  have hscore : (spotless.revised steps).score = 60 := by decide +kernel
  refine ⟨hbuild, by decide, hscore, ?_, ?_⟩
  · rw [hlevel, hscore]
    decide
  · rw [ne_eq, ← htop, hscore]
    decide

end Assessment

end ChainRisk
