import ChainRisk.Proofs.SurveyRounds
import Mathlib.Data.List.Nodup

namespace ChainRisk

theorem index_eq_of_flatten {α : Type} {R : α → α → Prop} {bs : List (List α)} (h : bs.flatten.Pairwise R)
    {j k : Nat} {b c : List α} {x y : α} (hj : bs[j]? = some b) (hk : bs[k]? = some c) (hx : x ∈ b) (hy : y ∈ c)
    (hxy : ¬ R x y) (hyx : ¬ R y x) : j = k := by
  have hpairs := List.pairwise_iff_getElem.1 (List.pairwise_flatten.1 h).2
  obtain ⟨hjlt, rfl⟩ := List.getElem?_eq_some_iff.1 hj
  obtain ⟨hklt, rfl⟩ := List.getElem?_eq_some_iff.1 hk
  rcases Nat.lt_trichotomy j k with hlt | heq | hlt
  · exact (hxy (hpairs j k hjlt hklt hlt x hx y hy)).elim
  · exact heq
  · exact (hyx (hpairs k j hklt hjlt hlt y hy x hx)).elim

theorem length_batches {α : Type} (size : Nat) (positive : 0 < size) (l : List α) {j : Nat} {batch : List α}
    (h : (batches size positive l)[j]? = some batch) :
    (j + 1 < (batches size positive l).length → batch.length = size) ∧
      1 ≤ batch.length ∧ batch.length ≤ size := by
  induction l using batches.induct size positive generalizing j with
  | case1 => simp [batches] at h
  | case2 a l ih =>
    rw [batches] at h ⊢
    cases j with
    | zero =>
      rw [List.getElem?_cons_zero, Option.some.injEq] at h
      subst h
      simp only [List.length_take, List.length_cons]
      refine ⟨fun hmore => ?_, by omega, by omega⟩
      have hrest : (a :: l).drop size ≠ [] := by
        intro hnil
        rw [hnil, batches] at hmore
        simp at hmore
      have hlen := List.length_pos_iff.2 hrest
      simp only [List.length_drop, List.length_cons] at hlen
      omega
    | succ j =>
      rw [List.getElem?_cons_succ] at h
      obtain ⟨hfull, hbounds⟩ := ih h
      refine ⟨fun hmore => hfull ?_, hbounds⟩
      simp only [List.length_cons] at hmore
      omega

namespace Script

variable {world : Script} {survey : Survey} {v : View} {json : Json}

theorem flatten_batchesOf {tokens : List String}
    (h : (Address.require json).bind (world.historyAnswer v) = .ok tokens) :
    (world.batchesOf survey v json).flatten = survey.chosen tokens := by
  rw [batchesOf, h]
  exact flatten_batches _ _ _

theorem length_batchesOf {j : Nat} {batch : List String} (h : (world.batchesOf survey v json)[j]? = some batch) :
    (j + 1 < (world.batchesOf survey v json).length → batch.length = survey.batchSize) ∧
      1 ≤ batch.length ∧ batch.length ≤ survey.batchSize := by
  unfold batchesOf at h ⊢
  split at h
  · exact length_batches _ _ _ h
  · cases h

theorem batchesOf_distinct (world : Script) (survey : Survey) (v : View) (json : Json) :
    Address.Apart (world.batchesOf survey v json).flatten ∧ (world.batchesOf survey v json).flatten.Nodup := by
  cases h : (Address.require json).bind (world.historyAnswer v) with
  | error e =>
    rw [batchesOf, h]
    exact ⟨List.Pairwise.nil, List.nodup_nil⟩
  | ok tokens =>
    obtain ⟨a, -, ha⟩ := Attempt.bind_eq_ok_iff.1 h
    obtain ⟨payload, -, htokens⟩ := historyAnswer_eq_ok_iff.1 ha
    rw [flatten_batchesOf h, Envelope.eq_candidates_of_tokens htokens]
    exact ⟨Survey.apart_chosen survey payload, Survey.nodup_chosen survey payload⟩

end Script

theorem Round.Serves.token_mem {p : Round} {batch : List String} (hp : p.Serves batch) {c : Completion}
    (hc : c ∈ p.done) : c.token ∈ batch := by
  rw [← hp.tokens]
  exact List.mem_map_of_mem hc

namespace RoundsOf

variable {pauses : Pauses} {bs : List (List String)} {t u : Instant} {ok : Bool} {rounds : List Round}
  {k : Nat} {batch : List String} {p : Round}

theorem served (h : RoundsOf pauses 0 bs t u ok rounds) (hp : p ∈ rounds) :
    ∃ batch, bs[p.number]? = some batch ∧ p.Serves batch := by
  obtain ⟨-, -, j, batch, hj, hbatch, hserves⟩ := h.serves p hp
  rw [Nat.zero_add] at hj
  exact ⟨batch, hj ▸ hbatch, hserves⟩

theorem number_of_completion (h : RoundsOf pauses 0 bs t u ok rounds) (hnodup : bs.flatten.Nodup)
    (hp : p ∈ rounds) {c : Completion} (hc : c ∈ p.done) (hk : bs[k]? = some batch) (hmem : c.token ∈ batch) :
    p.number = k := by
  obtain ⟨own, hown, hserves⟩ := h.served hp
  exact index_eq_of_flatten hnodup hown hk (hserves.token_mem hc) hmem (fun hne => hne rfl) fun hne => hne rfl

theorem number_of_read (h : RoundsOf pauses 0 bs t u ok rounds) (hapart : Address.Apart bs.flatten)
    (hp : p ∈ rounds) {r : Span} (hr : r ∈ p.spans) (hk : bs[k]? = some batch)
    (hmem : ∃ s ∈ batch, r.subject.IsOf s) : p.number = k := by
  obtain ⟨own, hown, hserves⟩ := h.served hp
  obtain ⟨c, hc, ⟨a, ha, hsubject⟩, -⟩ := hserves.reads r hr
  obtain ⟨s, hs, b, hb, hsubject'⟩ := hmem
  obtain rfl : a = b := Option.some.inj (hsubject.symm.trans hsubject')
  exact index_eq_of_flatten hapart hown hk (hserves.token_mem hc) hs (fun hne => hne a ha hb) fun hne => hne a hb ha

end RoundsOf

namespace Diary.Surveyed

variable {world : Script} {pauses : Pauses} {bs : List (List String)} {t s u : Instant} {ok : Bool}
  {early : List Span} {rounds : List Round} {d : Desk} {D : Diary}

theorem reads (h : Surveyed world pauses bs t s u ok early rounds (.opened d) D) :
    ∃ new, D.desk.spans world = new ++ d.spans world ∧
      ∀ r, r ∈ new ↔ r ∈ early ∨ ∃ p ∈ rounds, r ∈ p.spans := by
  obtain ⟨new, hnew, hmem⟩ := h.spans
  refine ⟨new ++ early, hnew.trans (List.append_assoc ..).symm, fun r => ?_⟩
  rw [List.mem_append, hmem, or_comm]

theorem mem_done (h : Surveyed world pauses bs t s u ok early rounds (.opened d) D) {c : Completion} :
    c ∈ D.done ↔ ∃ p ∈ rounds, c ∈ p.done := by
  rw [h.done]
  simp [opened]

theorem round_of_read (h : Surveyed world pauses bs t s u ok early rounds (.opened d) D)
    (hapart : Address.Apart bs.flatten) {r : Span} (hr : r ∈ early ∨ ∃ p ∈ rounds, r ∈ p.spans) {k : Nat}
    {batch : List String} (hk : bs[k]? = some batch) (hmem : ∃ x ∈ batch, r.subject.IsOf x) :
    ∃ p ∈ rounds, p.number = k ∧ r ∈ p.spans ∧ p.starts ≤ r.starts := by
  rcases hr with hr | ⟨p, hp, hr⟩
  · obtain ⟨x, -, a, -, hsubject⟩ := hmem
    rw [(h.before r hr).1] at hsubject
    cases hsubject
  · obtain ⟨own, -, hserves⟩ := h.served.served hp
    obtain ⟨c, -, -, hwithin⟩ := hserves.reads r hr
    exact ⟨p, hp, h.served.number_of_read hapart hp hr hk hmem, hr, hwithin.after⟩

theorem waits (h : Surveyed world pauses bs t s u ok early rounds (.opened d) D)
    (hapart : Address.Apart bs.flatten) (hnodup : bs.flatten.Nodup) {r : Span}
    (hr : r ∈ early ∨ ∃ p ∈ rounds, r ∈ p.spans) {j : Nat} {batch next : List String} (hj : bs[j]? = some batch)
    (hnext : bs[j + 1]? = some next) (hmem : ∃ x ∈ next, r.subject.IsOf x) :
    ∃ e, (∀ x ∈ batch, ∃ c ∈ D.done, c.token = x) ∧
      (∀ c ∈ D.done, c.token ∈ batch → c.ok = true ∧ c.ends ≤ e) ∧ e.rested (pauses j) ≤ r.starts := by
  obtain ⟨q, hq, hnumber, -, hstarts⟩ := h.round_of_read hapart hr hnext hmem
  obtain ⟨p, hp, hpj⟩ := h.served.complete q hq j (Nat.zero_le j) (by omega)
  obtain ⟨own, hown, hserves⟩ := h.served.served hp
  obtain rfl : own = batch := Option.some.inj (hown.symm.trans (hpj ▸ hj))
  obtain ⟨-, hwell, e, hends, hrest⟩ := h.served.before_of_lt hp hq (by omega)
  rw [hpj] at hrest
  refine ⟨e, fun x hx => ?_, fun c hc hmem => ?_, le_trans hrest hstarts⟩
  · rw [← hserves.tokens] at hx
    obtain ⟨c, hc, rfl⟩ := List.mem_map.1 hx
    exact ⟨c, h.mem_done.2 ⟨p, hp, hc⟩, rfl⟩
  · obtain ⟨p', hp', hcp⟩ := h.mem_done.1 hc
    have hsame : p' = p := h.served.eq_of_number hp' hp
      ((h.served.number_of_completion hnodup hp' hcp hj hmem).trans hpj.symm)
    subst hsame
    exact ⟨hwell c hcp, hends c hcp⟩

theorem unread_of_failed (h : Surveyed world pauses bs t s u ok early rounds (.opened d) D)
    (hapart : Address.Apart bs.flatten) (hnodup : bs.flatten.Nodup) {j k : Nat} {batch later : List String}
    (hj : bs[j]? = some batch) (hk : bs[k]? = some later) (hlt : j < k) {c : Completion} (hc : c ∈ D.done)
    (hmem : c.token ∈ batch) (hfalse : c.ok = false) {r : Span}
    (hr : r ∈ early ∨ ∃ p ∈ rounds, r ∈ p.spans) {x : String} (hx : x ∈ later) : ¬ r.subject.IsOf x := by
  intro hsubject
  obtain ⟨p, hp, hcp⟩ := h.mem_done.1 hc
  obtain ⟨q, hq, hnumber, -, -⟩ := h.round_of_read hapart hr hk ⟨x, hx, hsubject⟩
  have hpj := h.served.number_of_completion hnodup hp hcp hj hmem
  have hbefore := h.served.before_of_lt hp hq (by omega)
  rw [hbefore.ok c hcp] at hfalse
  cases hfalse

end Diary.Surveyed

namespace Work

open Activity

theorem allowances_batched (world : Script) (survey : Survey) (json : Json) (m : Moment) (d : Desk) :
    let run := allowances world survey json ⟨m, none⟩ d
    let noted := notedAllowances world survey json ⟨m, none⟩ (.opened d)
    let bs := world.batchesOf survey d.view json
    (course noted.1 = course run.1 ∧ noted.2.desk = run.2) ∧
    (∀ tokens, (Address.require json).bind (world.historyAnswer d.view) = .ok tokens →
      bs.flatten = survey.chosen tokens) ∧
    (∀ (j : Nat) batch, bs[j]? = some batch → (j + 1 < bs.length → batch.length = survey.batchSize) ∧
      1 ≤ batch.length ∧ batch.length ≤ survey.batchSize) ∧
    (∀ report, run.1.result = .ok report → noted.2.consulted.reverse = List.range (bs.length - 1)) ∧
    (∀ c ∈ noted.2.done, c.ok = false → ∃ e, run.1.result = .error e) ∧
    ∃ new, run.2.spans world = new ++ d.spans world ∧
      (∀ (j : Nat) batch next, bs[j]? = some batch → bs[j + 1]? = some next →
        ∀ r ∈ new, (∃ t ∈ next, r.subject.IsOf t) →
          ∃ e, (∀ t ∈ batch, ∃ c ∈ noted.2.done, c.token = t) ∧
            (∀ c ∈ noted.2.done, c.token ∈ batch → c.ok = true ∧ c.ends ≤ e) ∧
            e.rested (survey.pauses j) ≤ r.starts) ∧
      ∀ (j : Nat) batch, bs[j]? = some batch → (∃ c ∈ noted.2.done, c.token ∈ batch ∧ c.ok = false) →
        ∀ (k : Nat) later, bs[k]? = some later → j < k → ∀ r ∈ new, ∀ t ∈ later, ¬ r.subject.IsOf t := by
  intro run noted bs
  obtain ⟨hcourse, hdesk⟩ := mirrors_notedAllowances world survey json ⟨m, none⟩ (.opened d)
  obtain ⟨s, ok, early, rounds, hsurveyed, hok⟩ := notedAllowances_run world survey json m (.opened d)
  obtain ⟨hapart, hnodup⟩ := world.batchesOf_distinct survey d.view json
  obtain ⟨new, hnew, hreads⟩ := hsurveyed.reads
  rw [show noted.1.result = run.1.result from result_of_course hcourse] at hok
  refine ⟨⟨hcourse, hdesk⟩, fun tokens h => Script.flatten_batchesOf h, fun j batch hj => ?_, fun report hr => ?_,
    fun c hc hfalse => ?_, new, ?_, fun j batch next hj hnext r hr hmem => ?_, ?_⟩
  · exact Script.length_batchesOf hj
  · have hconsulted : noted.2.consulted = (List.range (bs.length - 1)).reverse ++ [] :=
      (hok (Attempt.isOk_eq_true_iff.2 ⟨report, hr⟩)).2
    rw [hconsulted, List.append_nil, List.reverse_reverse]
  · refine Attempt.isOk_eq_false_iff.1 (Bool.eq_false_iff.2 fun hreturns => ?_)
    obtain ⟨p, hp, hcp⟩ := hsurveyed.mem_done.1 hc
    rw [(hsurveyed.served.finished (hok hreturns).1 p hp c hcp).1] at hfalse
    cases hfalse
  · rw [show run.2 = _ from hdesk.symm]
    exact hnew
  · exact hsurveyed.waits hapart hnodup ((hreads r).1 hr) hj hnext hmem
  · rintro j batch hj ⟨c, hc, hmem, hfalse⟩ k later hk hlt r hr t ht
    exact hsurveyed.unread_of_failed hapart hnodup hj hk hlt hc hmem hfalse ((hreads r).1 hr) ht

def ungrantedWorld : Script := { historyWorld oneText with logs := fun _ => [] }

def singleSurvey (pause : Binary64) : Survey := ⟨.standard, 1, fun _ => pause, none, 0, by decide⟩

theorem pauses_singleSurvey (pause : Binary64) (i : Nat) : (singleSurvey pause).pauses i = pause := rfl

theorem batchesOf_ungrantedWorld :
    ungrantedWorld.batchesOf (singleSurvey (.ofInt 1)) Desk.idle.view (.str Address.zeroText) =
      [[Address.zeroText], [oneText]] := by
  decide +kernel

theorem ofText?_oneText : Address.ofText? oneText = some ⟨List.replicate 19 0 ++ [1], rfl⟩ := by decide +kernel

theorem run_ungrantedWorld :
    let survey := singleSurvey (.ofInt 1)
    let run := allowances ungrantedWorld survey (.str Address.zeroText) ⟨.ofInstant .start, none⟩ .idle
    Except.isOk run.1.result = true ∧
    ∃ r ∈ run.2.spans ungrantedWorld, r.subject = .tokenField ⟨List.replicate 19 0 ++ [1], rfl⟩ .symbol := by
  -- the address of the owner is read back by a law, and not from the digest that its text is made with
  delta allowances surveyed transferHistory ofToken discovered spenders
  simp only [address_text]
  decide +kernel

theorem allowances_batched_ungrantedWorld :
    let survey := singleSurvey (.ofInt 1)
    let run := allowances ungrantedWorld survey (.str Address.zeroText) ⟨.ofInstant .start, none⟩ .idle
    let noted :=
      notedAllowances ungrantedWorld survey (.str Address.zeroText) ⟨.ofInstant .start, none⟩ (.opened .idle)
    Except.isOk run.1.result = true ∧ noted.2.consulted.reverse = [0] ∧
    ∃ r ∈ run.2.spans ungrantedWorld, r.subject.IsOf oneText ∧ ∃ c ∈ noted.2.done, c.token = Address.zeroText ∧
      c.ok = true ∧ ∃ e, c.ends ≤ e ∧ e.rested (.ofInt 1) ≤ r.starts := by
  dsimp only
  obtain ⟨hreturns, r, hr, hsubject⟩ := run_ungrantedWorld
  obtain ⟨-, -, -, hconsulted, -, new, hnew, hwaits, -⟩ :=
    allowances_batched ungrantedWorld (singleSurvey (.ofInt 1)) (.str Address.zeroText) (.ofInstant .start) .idle
  obtain ⟨report, hreport⟩ := Attempt.isOk_eq_true_iff.1 hreturns
  have hof : r.subject.IsOf oneText := ⟨_, ofText?_oneText, by rw [hsubject]; rfl⟩
  have hmem : r ∈ new := by
    rw [hnew] at hr
    exact (List.mem_append.1 hr).resolve_right List.not_mem_nil
  rw [batchesOf_ungrantedWorld] at hconsulted hwaits
  obtain ⟨e, hdone, hbefore, hrested⟩ := hwaits 0 [Address.zeroText] [oneText] rfl rfl r hmem
    ⟨oneText, List.mem_singleton_self _, hof⟩
  obtain ⟨c, hc, htoken⟩ := hdone Address.zeroText (List.mem_singleton_self _)
  obtain ⟨hok, hends⟩ := hbefore c hc (by rw [htoken]; exact List.mem_singleton_self _)
  rw [pauses_singleSurvey] at hrested
  exact ⟨hreturns, hconsulted report hreport, r, hr, hof, c, hc, htoken, hok, e, hends, hrested⟩

end Work

end ChainRisk
