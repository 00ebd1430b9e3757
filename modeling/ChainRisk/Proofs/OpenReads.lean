import ChainRisk.Proofs.BatchDiscipline

namespace ChainRisk

def Completion.Breaks (done : List Completion) (bs : List (List String)) (u : Instant) (r : Span) : Prop :=
  ∃ batch ∈ bs, ∃ t ∈ batch, ∃ t' ∈ batch, t ≠ t' ∧ r.subject.IsOf t ∧
    ∃ c ∈ done, c.token = t' ∧ c.ok = false ∧ c.ends = u

namespace Diary.Surveyed

variable {world : Script} {pauses : Pauses} {bs : List (List String)} {t s u : Instant} {ok : Bool}
  {early new : List Span} {rounds : List Round} {d : Desk} {D : Diary} {r : Span}

theorem over_before (h : Surveyed world pauses bs t s u ok early rounds (.opened d) D)
    (hnew : ∀ r, r ∈ new ↔ r ∈ early ∨ ∃ p ∈ rounds, r ∈ p.spans) {p q : Round} (hp : p ∈ rounds)
    (hbefore : p.Before pauses q) (hr : r ∈ p.spans) : r.ends ≤ q.starts ∨ r.LeftBehind new := by
  obtain ⟨batch, -, hserves⟩ := h.served.served hp
  obtain ⟨c, hc, -, hwithin⟩ := hserves.reads r hr
  obtain ⟨-, -, e, hends, hrest⟩ := hbefore
  refine hwithin.ended.imp (fun hover => ?_) fun hleft => hleft.mono fun s hs => (hnew s).2 (.inr ⟨p, hp, hs⟩)
  calc r.ends ≤ c.ends := hover
    _ ≤ e := hends c hc
    _ ≤ e.rested (pauses p.number) := e.le_rested _
    _ ≤ q.starts := hrest

theorem within_or_breaks (h : Surveyed world pauses bs t s u ok early rounds (.opened d) D)
    (hnodup : bs.flatten.Nodup) (hnew : ∀ r, r ∈ new ↔ r ∈ early ∨ ∃ p ∈ rounds, r ∈ p.spans) (hr : r ∈ new) :
    r.Within new t u ∨ ok = false ∧ Completion.Breaks D.done bs u r := by
  rcases (hnew r).1 hr with hr | ⟨p, hp, hr⟩
  · have hsub : ∀ s ∈ early, s ∈ new := fun s hs => (hnew s).2 (.inl hs)
    exact .inl ((h.before r hr).2.mono hsub (le_refl t) h.stop)
  · have hsub : ∀ s ∈ p.spans, s ∈ new := fun s hs => (hnew s).2 (.inr ⟨p, hp, hs⟩)
    have hstart : t ≤ p.starts := le_trans h.start (h.served.serves p hp).1
    obtain ⟨batch, hbatch, hserves⟩ := h.served.served hp
    obtain ⟨c, hc, hsubject, hwithin⟩ := hserves.reads r hr
    cases hok : ok with
    | true => exact .inl (hwithin.mono hsub hstart (h.served.finished hok p hp c hc).2)
    | false =>
      obtain ⟨p', hp', ⟨c', hc', hfalse, hends⟩, hothers⟩ := h.served.broken hok
      by_cases hsame : p = p'
      · subst hsame
        by_cases htoken : c.token = c'.token
        · have hnodup' : (p.done.map (·.token)).Nodup := by
            rw [hserves.tokens]
            exact (List.nodup_flatten.1 hnodup).1 batch (List.mem_of_getElem? hbatch)
          obtain rfl : c = c' := List.inj_on_of_nodup_map hnodup' hc hc' htoken
          exact .inl (hwithin.mono hsub hstart (le_of_eq hends))
        · exact .inr ⟨rfl, batch, List.mem_of_getElem? hbatch, c.token, hserves.token_mem hc, c'.token,
            hserves.token_mem hc', htoken, hsubject, c', h.mem_done.2 ⟨p, hp, hc'⟩, rfl, hfalse, hends⟩
      · exact .inl (hwithin.mono hsub hstart (hothers p hp hsame c hc))

end Diary.Surveyed

namespace Work

open Activity

theorem reads_over (world : Script) (survey : Survey) (json : Json) (m : Moment) (d : Desk) :
    let run := allowances world survey json ⟨m, none⟩ d
    let noted := notedAllowances world survey json ⟨m, none⟩ (.opened d)
    let bs := world.batchesOf survey d.view json
    (course noted.1 = course run.1 ∧ noted.2.desk = run.2) ∧
    ∃ new, run.2.spans world = new ++ d.spans world ∧
      (∀ (j k : Nat) batch later, bs[j]? = some batch → bs[k]? = some later → j < k → ∀ r ∈ new, ∀ s ∈ new,
        (∃ t ∈ batch, r.subject.IsOf t) → (∃ t ∈ later, s.subject.IsOf t) →
          r.ends ≤ s.starts ∨ r.LeftBehind new) ∧
      ∀ r ∈ new, r.Within new m.instant run.1.ends.instant ∨
        (∃ e, run.1.result = .error e) ∧ Completion.Breaks noted.2.done bs run.1.ends.instant r := by
  intro run noted bs
  obtain ⟨hcourse, hdesk⟩ := mirrors_notedAllowances world survey json ⟨m, none⟩ (.opened d)
  obtain ⟨s, ok, early, rounds, hsurveyed, hok⟩ := notedAllowances_run world survey json m (.opened d)
  obtain ⟨hapart, hnodup⟩ := world.batchesOf_distinct survey d.view json
  obtain ⟨new, hnew, hreads⟩ := hsurveyed.reads
  have hends : noted.1.ends = run.1.ends := ends_of_course hcourse
  rw [show noted.1.result = run.1.result from result_of_course hcourse] at hok
  refine ⟨⟨hcourse, hdesk⟩, new, ?_, fun j k batch later hj hk hlt r hr s hs hrt hst => ?_, fun r hr => ?_⟩
  · rw [show run.2 = _ from hdesk.symm]
    exact hnew
  · obtain ⟨p, hp, hpj, hr, -⟩ := hsurveyed.round_of_read hapart ((hreads r).1 hr) hj hrt
    obtain ⟨q, hq, hqk, -, hstarts⟩ := hsurveyed.round_of_read hapart ((hreads s).1 hs) hk hst
    have hbefore := hsurveyed.served.before_of_lt hp hq (by omega)
    exact (hsurveyed.over_before hreads hp hbefore hr).imp (fun hover => le_trans hover hstarts) id
  · rw [← hends]
    refine (hsurveyed.within_or_breaks hnodup hreads hr).imp id fun ⟨hfalse, hbreaks⟩ => ⟨?_, hbreaks⟩
    refine Attempt.isOk_eq_false_iff.1 (Bool.eq_false_iff.2 fun hreturns => ?_)
    rw [(hok hreturns).1] at hfalse
    cases hfalse

def slowNameWorld : Script :=
  { ungrantedWorld with
    tokenField := fun a f => if a = .zero ∧ f = .name then [⟨.value (.str "name"), .ofInt 5⟩] else [] }

theorem batchesOf_slowNameWorld :
    slowNameWorld.batchesOf (singleSurvey .zero) Desk.idle.view (.str Address.zeroText) =
      [[Address.zeroText], [oneText]] := by
  decide +kernel

theorem run_slowNameWorld :
    let run := allowances slowNameWorld (singleSurvey .zero) (.str Address.zeroText) ⟨.ofInstant .start, none⟩ .idle
    Except.isOk run.1.result = true ∧
    ∃ r ∈ run.2.spans slowNameWorld, ∃ s ∈ run.2.spans slowNameWorld,
      r.subject = .tokenField .zero .name ∧ s.subject = .tokenField ⟨List.replicate 19 0 ++ [1], rfl⟩ .symbol ∧
        s.starts < r.ends ∧ run.1.ends.instant < r.ends := by
  delta allowances surveyed transferHistory ofToken discovered spenders
  simp only [address_text]
  decide +kernel

theorem reads_over_slowNameWorld :
    let run := allowances slowNameWorld (singleSurvey .zero) (.str Address.zeroText) ⟨.ofInstant .start, none⟩ .idle
    ∃ r ∈ run.2.spans slowNameWorld, r.subject = .tokenField .zero .name ∧
      r.LeftBehind (run.2.spans slowNameWorld) := by
  dsimp only
  obtain ⟨-, r, hr, s, hs, hrsubject, hssubject, hlt, -⟩ := run_slowNameWorld
  obtain ⟨-, new, hnew, hover, -⟩ :=
    reads_over slowNameWorld (singleSurvey .zero) (.str Address.zeroText) (.ofInstant .start) .idle
  have hspans {r : Span} (hr : r ∈ new ++ Desk.idle.spans slowNameWorld) : r ∈ new :=
    (List.mem_append.1 hr).resolve_right List.not_mem_nil
  have hzero : r.subject.IsOf Address.zeroText := ⟨_, Address.ofText?_zeroText, by rw [hrsubject]; rfl⟩
  have hone : s.subject.IsOf oneText := ⟨_, ofText?_oneText, by rw [hssubject]; rfl⟩
  rw [batchesOf_slowNameWorld] at hover
  rw [hnew] at hr hs ⊢
  refine ⟨r, hr, hrsubject, Span.LeftBehind.mono ?_ fun s hs => List.mem_append_left _ hs⟩
  refine (hover 0 1 [Address.zeroText] [oneText] rfl rfl Nat.zero_lt_one r (hspans hr) s (hspans hs)
    ⟨_, List.mem_singleton_self _, hzero⟩ ⟨_, List.mem_singleton_self _, hone⟩).resolve_left (not_le_of_gt hlt)

theorem reads_left_open :
    let run := allowances slowNameWorld (singleSurvey .zero) (.str Address.zeroText) ⟨.ofInstant .start, none⟩ .idle
    slowNameWorld.batchesOf (singleSurvey .zero) Desk.idle.view (.str Address.zeroText) =
      [[Address.zeroText], [oneText]] ∧
    Except.isOk run.1.result = true ∧
    ∃ r ∈ run.2.spans slowNameWorld, ∃ s ∈ run.2.spans slowNameWorld,
      r.subject = .tokenField .zero .name ∧ s.subject = .tokenField ⟨List.replicate 19 0 ++ [1], rfl⟩ .symbol ∧
        s.starts < r.ends ∧ run.1.ends.instant < r.ends :=
  ⟨batchesOf_slowNameWorld, run_slowNameWorld⟩

end Work

end ChainRisk
