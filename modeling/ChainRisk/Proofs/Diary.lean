import ChainRisk.Proofs.Deadline
import ChainRisk.Proofs.SurveyRun

/-!
A survey that keeps a diary: when the work on each token was over, and which pauses were asked for.
-/

namespace ChainRisk

structure Completion where
  token : String
  ends : Instant
  ok : Bool

structure Diary where
  desk : Desk
  done : List Completion
  consulted : List Nat

def Diary.opened (d : Desk) : Diary := ⟨d, [], []⟩

namespace Work

open Activity

variable {α β : Type}

def kept (x : Work α) : Activity Diary α := zoom Diary.desk (fun d D => { D with desk := d }) x

def noting (t : String) (x : Work α) : Activity Diary α := do
  let r ← attempt (kept x)
  let e ← now
  update fun D => { D with done := ⟨t, e, Except.isOk r⟩ :: D.done }
  ofAttempt r

def consulting (pauses : Pauses) (i : Nat) : Activity Diary Unit := do
  update fun D => { D with consulted := i :: D.consulted }
  kept (pause (pauses i))

def inRounds {σ : Type} (process : String → Activity σ (List Allowance)) (rest : Nat → Activity σ Unit) :
    Nat → List (List String) → Activity σ (List Allowance)
  | _, [] => Activity.pure []
  | _, [batch] => do
    let found ← all (batch.map process)
    Activity.pure found.flatten
  | i, batch :: next :: more => do
    let found ← all (batch.map process)
    rest i
    let later ← inRounds process rest (i + 1) (next :: more)
    Activity.pure (found.flatten ++ later)

theorem ofBatches_eq_inRounds (survey : Survey) (process : String → Work (List Allowance)) (i : Nat)
    (bs : List (List String)) :
    ofBatches survey process i bs = inRounds process (fun i => pause (survey.pauses i)) i bs := by
  induction bs generalizing i with
  | nil => rfl
  | cons batch rest ih =>
    cases rest with
    | nil => rfl
    | cons next rest => rw [ofBatches, inRounds, ih]

def concluded (world : Script) (start : Binary64) (r : Attempt α) : Work α := do
  let stop ← clock world
  update (Desk.recordRun (milliseconds start stop) r.toOption.isSome)
  ofAttempt r

theorem recorded_eq (world : Script) (x : Work α) :
    recorded world x = clock world >>= fun start => attempt x >>= fun r => concluded world start r := rfl

variable (world : Script) (survey : Survey)

def notedSurvey (owner : Address) : Activity Diary AllowanceReport := do
  let tokens ← kept (transferHistory world (.str owner.text))
  let fromBlock ← kept (firstBlock world survey)
  let found ← inRounds (fun t => noting t (ofToken world survey owner.text fromBlock t))
    (consulting survey.pauses) 0 (batches survey.batchSize survey.batchSize_pos (survey.chosen tokens))
  kept (reported world owner found)

def notedAllowances (owner : Json) : Activity Diary AllowanceReport := do
  let a ← kept (address owner)
  let start ← kept (clock world)
  let r ← attempt (notedSurvey world survey a)
  kept (concluded world start r)

variable {world survey} {x : Work α} {y : Activity Diary α}

def Mirrors (y : Activity Diary α) (x : Work α) : Prop :=
  ∀ w D, course (y w D).1 = course (x w D.desk).1 ∧ (y w D).2.desk = (x w D.desk).2

theorem mirrors_kept (x : Work α) : Mirrors (kept x) x := fun _ _ => ⟨rfl, rfl⟩

theorem mirrors_pure (a : α) : Mirrors (Activity.pure a) (Activity.pure a) := fun _ _ => ⟨rfl, rfl⟩

theorem mirrors_ofAttempt (r : Attempt α) : Mirrors (ofAttempt r) (ofAttempt r) := by
  cases r with
  | ok a => exact mirrors_pure a
  | error e => exact fun _ _ => ⟨rfl, rfl⟩

theorem mirrors_bind {f : α → Work β} {g : α → Activity Diary β} (hy : Mirrors y x)
    (hg : ∀ a, Mirrors (g a) (f a)) : Mirrors (y >>= g) (x >>= f) := by
  intro w D
  obtain ⟨hcourse, hdesk⟩ := hy w D
  have hends : (y w D).1.ends = (x w D.desk).1.ends := ends_of_course hcourse
  have hpause : (y w D).1.pause = (x w D.desk).1.pause := pause_of_course hcourse
  cases hr : (x w D.desk).1.result with
  | ok a =>
    have hr' : (y w D).1.result = .ok a := (result_of_course hcourse).trans hr
    obtain ⟨hcourse', hdesk'⟩ := hg a { w with start := (y w D).1.ends } (y w D).2
    rw [hends, hdesk] at hcourse' hdesk'
    rw [bind_of_ok hr, bind_of_ok hr', hends, hpause]
    refine ⟨?_, hdesk'⟩
    simp only [course, Prod.mk.injEq] at hcourse' ⊢
    exact ⟨hcourse'.1, hcourse'.2.1, congrArg _ hcourse'.2.2⟩
  | error e =>
    have hr' : (y w D).1.result = .error e := (result_of_course hcourse).trans hr
    rw [bind_of_error hr, bind_of_error hr']
    exact ⟨by rw [course, hends, hpause]; rfl, hdesk⟩

theorem mirrors_attempt (hy : Mirrors y x) : Mirrors (attempt y) (attempt x) := by
  intro w D
  obtain ⟨hcourse, hdesk⟩ := hy w D
  simp only [course, Prod.mk.injEq] at hcourse
  obtain ⟨hresult, hends, hpause⟩ := hcourse
  refine ⟨?_, hdesk⟩
  simp only [attempt, course, hresult, hends, hpause]

theorem mirrors_after_update {g : Diary → Diary} (hg : ∀ D, (g D).desk = D.desk) (hy : Mirrors y x) :
    Mirrors (update g >>= fun _ => y) x := by
  intro w D
  obtain ⟨hcourse, hdesk⟩ := hy w (if w.reaches w.start then g D else D)
  have hsame : (if w.reaches w.start then g D else D).desk = D.desk := by
    split
    · exact hg D
    · rfl
  rw [hsame] at hcourse hdesk
  exact ⟨hcourse, hdesk⟩

theorem mirrors_after_now {g : Instant → Activity Diary α} (hg : ∀ t, Mirrors (g t) x) :
    Mirrors (now >>= g) x := fun w D => hg w.start.instant w D

theorem mirrors_noting (t : String) (x : Work α) : Mirrors (noting t x) x := by
  have hsame : Mirrors (noting t x) (attempt x >>= ofAttempt) := by
    refine mirrors_bind (mirrors_attempt (mirrors_kept x)) fun r => ?_
    refine mirrors_after_now fun e => ?_
    exact mirrors_after_update (fun _ => rfl) (mirrors_ofAttempt r)
  intro w D
  obtain ⟨hcourse, hdesk⟩ := hsame w D
  rw [hcourse, hdesk]
  simp only [Bind.bind, Activity.bind, attempt]
  rcases x w D.desk with ⟨⟨r, ends, pause, settles⟩, d⟩
  cases r <;> cases pause <;> exact ⟨rfl, rfl⟩

theorem mirrors_consulting (pauses : Pauses) (i : Nat) : Mirrors (consulting pauses i) (pause (pauses i)) :=
  mirrors_after_update (fun _ => rfl) (mirrors_kept _)

end Work

namespace Activity

variable {α : Type} {os os' : List (Outcome α)}

theorem break?_congr {o o' : Outcome α} (h : course o = course o') : Outcome.break? o = Outcome.break? o' := by
  rw [Outcome.break?, Outcome.break?, result_of_course h, ends_of_course h]

theorem firstBreak_congr (h : os.map course = os'.map course) : firstBreak os = firstBreak os' := by
  induction os generalizing os' with
  | nil => rw [List.map_eq_nil_iff.1 h.symm]
  | cons o os ih =>
    cases os' with
    | nil => cases h
    | cons o' os' =>
      rw [List.map_cons, List.map_cons, List.cons.injEq] at h
      rw [firstBreak, firstBreak, break?_congr h.1, ih h.2]

theorem latest_congr (h : os.map course = os'.map course) (m : Moment) : latest m os = latest m os' := by
  induction os generalizing os' m with
  | nil => rw [List.map_eq_nil_iff.1 h.symm]
  | cons o os ih =>
    cases os' with
    | nil => cases h
    | cons o' os' =>
      rw [List.map_cons, List.map_cons, List.cons.injEq] at h
      change latest (max m o.ends) os = latest (max m o'.ends) os'
      rw [ends_of_course h.1, ih h.2]

theorem joined_congr (h : os.map course = os'.map course) : os.mapM (·.result) = os'.mapM (·.result) := by
  induction os generalizing os' with
  | nil => rw [List.map_eq_nil_iff.1 h.symm]
  | cons o os ih =>
    cases os' with
    | nil => cases h
    | cons o' os' =>
      rw [List.map_cons, List.map_cons, List.cons.injEq] at h
      rw [List.mapM_cons, List.mapM_cons, result_of_course h.1, ih h.2]

end Activity

namespace Work

open Activity

variable {α : Type} {f : String → Activity Diary α} {g : String → Work α}

theorem mirrors_branches (h : ∀ t, Mirrors (f t) (g t)) (ts : List String) (w : Window) (D : Diary) :
    (branches (ts.map f) w D).1.map course = (branches (ts.map g) w D.desk).1.map course ∧
      (branches (ts.map f) w D).2.desk = (branches (ts.map g) w D.desk).2 := by
  induction ts generalizing D with
  | nil => exact ⟨rfl, rfl⟩
  | cons t ts ih =>
    obtain ⟨hcourse, hdesk⟩ := h t w D
    obtain ⟨hcourses, hlast⟩ := ih (f t w D).2
    rw [hdesk] at hcourses hlast
    refine ⟨?_, hlast⟩
    change course (f t w D).1 :: _ = course (g t w D.desk).1 :: _
    rw [hcourse, hcourses]

theorem mirrors_all (h : ∀ t, Mirrors (f t) (g t)) (ts : List String) :
    Mirrors (all (ts.map f)) (all (ts.map g)) := by
  intro w D
  obtain ⟨hfree, hfreeDesk⟩ := mirrors_branches h ts w.inner.unlimited D
  obtain ⟨hcut, hcutDesk⟩ := mirrors_branches h ts w.inner D
  have hjoined := joined_congr hcut
  have hlatest := latest_congr hcut w.start
  rw [all, all]
  dsimp only
  rw [firstBreak_congr hfree]
  split
  · exact ⟨rfl, hfreeDesk⟩
  · refine ⟨?_, hcutDesk⟩
    simp only [course, hjoined, hlatest]

theorem mirrors_inRounds {process : String → Work (List Allowance)} {rest : Nat → Work Unit}
    {process' : String → Activity Diary (List Allowance)} {rest' : Nat → Activity Diary Unit}
    (hprocess : ∀ t, Mirrors (process' t) (process t)) (hrest : ∀ i, Mirrors (rest' i) (rest i)) (i : Nat)
    (bs : List (List String)) : Mirrors (inRounds process' rest' i bs) (inRounds process rest i bs) := by
  induction bs generalizing i with
  | nil => exact mirrors_pure _
  | cons batch more ih =>
    cases more with
    | nil => exact mirrors_bind (mirrors_all hprocess batch) fun found => mirrors_pure _
    | cons next more =>
      refine mirrors_bind (mirrors_all hprocess batch) fun found => ?_
      refine mirrors_bind (hrest i) fun _ => ?_
      exact mirrors_bind (ih (i + 1)) fun later => mirrors_pure _

theorem mirrors_notedSurvey (world : Script) (survey : Survey) (owner : Address) :
    Mirrors (notedSurvey world survey owner) (surveyed world survey owner) := by
  refine mirrors_bind (mirrors_kept _) fun tokens => ?_
  refine mirrors_bind (mirrors_kept _) fun fromBlock => ?_
  rw [ofBatches_eq_inRounds]
  refine mirrors_bind (mirrors_inRounds (fun t => mirrors_noting t _) (mirrors_consulting _) 0 _) fun found => ?_
  exact mirrors_kept (reported world owner found)

theorem mirrors_notedAllowances (world : Script) (survey : Survey) (owner : Json) :
    Mirrors (notedAllowances world survey owner) (allowances world survey owner) := by
  refine mirrors_bind (mirrors_kept _) fun a => ?_
  rw [recorded_eq]
  refine mirrors_bind (mirrors_kept _) fun start => ?_
  refine mirrors_bind (mirrors_attempt (mirrors_notedSurvey world survey a)) fun r => ?_
  exact mirrors_kept (concluded world start r)

end Work

end ChainRisk
