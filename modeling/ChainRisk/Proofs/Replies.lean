import ChainRisk.Proofs.Answers
import ChainRisk.Proofs.Handling
import ChainRisk.Proofs.UsableSettings
import Mathlib.Logic.ExistsUnique

namespace ChainRisk

open Failure

namespace Answer

inductive Refusal
  | badInput
  | noContract (address : Address)
  | incomplete (reason : String)

namespace Refusal

def noContractStem : String := "No contract found at "

def incompleteStem : String := "Analysis could not complete: "

def text : Refusal → String
  | badInput => badInputText
  | noContract a => noContractStem ++ a.text
  | incomplete reason => incompleteStem ++ reason

theorem head?_badInputText : badInputText.toList.head? = some 'P' := by decide +kernel

theorem head?_noContract (a : Address) : (noContract a).text.toList.head? = some 'N' :=
  head?_append (by decide +kernel) _

theorem head?_incomplete (reason : String) : (incomplete reason).text.toList.head? = some 'A' :=
  head?_append (by decide +kernel) _

theorem text_injective {x y : Refusal} (h : x.text = y.text) : x = y := by
  have hhead : x.text.toList.head? = y.text.toList.head? := by rw [h]
  cases x with
  | badInput =>
    cases y with
    | badInput => rfl
    | noContract b => cases (head?_badInputText.symm.trans hhead).trans (head?_noContract b)
    | incomplete reason => cases (head?_badInputText.symm.trans hhead).trans (head?_incomplete reason)
  | noContract a =>
    cases y with
    | badInput => cases ((head?_noContract a).symm.trans hhead).trans head?_badInputText
    | noContract b =>
      have htext : a.text = b.text := (String.append_right_inj _).1 h
      have hsome : some a = some b := by rw [← Address.ofText?_text a, htext, Address.ofText?_text]
      cases hsome
      rfl
    | incomplete reason => cases ((head?_noContract a).symm.trans hhead).trans (head?_incomplete reason)
  | incomplete reason =>
    cases y with
    | badInput => cases ((head?_incomplete reason).symm.trans hhead).trans head?_badInputText
    | noContract b => cases ((head?_incomplete reason).symm.trans hhead).trans (head?_noContract b)
    | incomplete reason' => rw [(String.append_right_inj incompleteStem).1 h]

end Refusal

def refusal? : Answer → Option Refusal
  | assessed _ _ _ => none
  | listed _ _ _ => none
  | badInput _ => some .badInput
  | noContract a => some (.noContract a)
  | incomplete reason _ => some (.incomplete reason)

theorem refusal?_eq_none_iff (answer : Answer) : answer.refusal? = none ↔ answer.success = true := by
  cases answer <;> simp [refusal?, success]

theorem text_of_refusal? {answer : Answer} {x : Refusal} (h : answer.refusal? = some x) :
    answer.text = x.text := by
  cases answer <;> cases h <;> rfl

theorem error_mem_content_iff (answer : Answer) :
    "error" ∈ answer.content.map Prod.fst ↔ answer.success = false := by
  cases answer <;> simp [content, success]

theorem refusal?_eq_some_iff {answer : Answer} {x : Refusal} :
    answer.refusal? = some x ↔ answer.success = false ∧ answer.text = x.text := by
  constructor
  · intro h
    refine ⟨?_, text_of_refusal? h⟩
    rw [← Bool.not_eq_true, ← refusal?_eq_none_iff, h]
    exact Option.some_ne_none x
  · rintro ⟨hsuccess, htext⟩
    cases hx : answer.refusal? with
    | none =>
      rw [refusal?_eq_none_iff, hsuccess] at hx
      cases hx
    | some y => rw [Refusal.text_injective (htext.symm.trans (text_of_refusal? hx))]

theorem success_ofFailure (limit : Duration) (a : Address) (e : Failure) :
    (ofFailure limit a e).success = false := by
  cases e <;> rfl

theorem head?_lateText (limit : Duration) : (lateText limit).toList.head? = some 't' :=
  head?_append (head?_append (by decide +kernel) _) _

theorem ofFailure_of_ordinary {e : Failure} (h : e.Ordinary) (limit : Duration) (a : Address) :
    ∃ reason, ofFailure limit a e = .incomplete reason a ∧ reason ≠ lateText limit := by
  cases h with
  | internal hf hd =>
    refine ⟨internalText, ?_, ?_⟩
    · cases e <;> first | rfl | exact absurd rfl hd | cases hf
    · intro h
      have hhead : internalText.toList.head? = some 'i' := by decide +kernel
      rw [h, head?_lateText] at hhead
      cases hhead
  | told hin hm =>
    refine ⟨e.message, ?_, ?_⟩
    · cases e <;> first | rfl | cases hin
    · intro h
      rw [h] at hm
      exact hm (head?_lateText limit)

end Answer

namespace Request

open Activity Answer

variable {world : Script} {settings : Settings} {shared : Option Pool} {r : Request} {m : Moment}
  {trace : Trace} {a : Address}

inductive Ends (limit : Duration) (m : Moment) (a : Address) (o : Outcome Answer) : Answer → Prop
  | report {answer : Answer} (hin : o.InTime limit m) (h : o.result = .ok answer) : Ends limit m a o answer
  | failure {e : Failure} (hin : o.InTime limit m) (h : o.result = .error e) :
      Ends limit m a o (.ofFailure limit a e)
  | late (hin : ¬ o.InTime limit m) : Ends limit m a o (.incomplete (lateText limit) a)

theorem reply_of_named (hlimit : settings.analysisTimeout ≠ .fractional .nan)
    (h : named? r.text = some a) : ∃ answer, reply world settings shared r m trace = .ok answer ∧
      Ends settings.analysisTimeout m a
        (analysis world settings r a ⟨m, none⟩ (poolOf settings shared trace)).1 answer := by
  rw [reply_eq, answer_of_named h, (curbed_concerning r a m _).result hlimit]
  refine ⟨_, rfl, ?_⟩
  generalize hr : (analysis world settings r a ⟨m, none⟩ (poolOf settings shared trace)).1 = o
  split
  · next hin =>
    cases hres : o.result with
    | ok answer => exact .report hin hres
    | error e => exact .failure hin hres
  · next hin => exact .late hin

variable (settings) in
theorem inTime_codeRead_iff (hq : r.question = .contract) {p : Pool}
    (h : (codeRead world r a ⟨m, none⟩ p).1.result = .ok []) (limit : Duration) :
    (codeRead world r a ⟨m, none⟩ p).1.InTime limit m ↔
      (analysis world settings r a ⟨m, none⟩ p).1.InTime limit m := by
  have hcourse := course_analysis_of_empty settings hq h
  exact inTime_congr (ends_of_course hcourse).symm (pause_of_course hcourse).symm

theorem reply_of_empty (hlimit : settings.analysisTimeout ≠ .fractional .nan) (hq : r.question = .contract)
    (h : named? r.text = some a)
    (hin : (codeRead world r a ⟨m, none⟩ (poolOf settings shared trace)).1.InTime settings.analysisTimeout m)
    (hcode : (codeRead world r a ⟨m, none⟩ (poolOf settings shared trace)).1.result = .ok []) :
    reply world settings shared r m trace = .ok (.noContract a) := by
  rw [inTime_codeRead_iff settings hq hcode] at hin
  rw [reply_eq, answer_of_named h, (curbed_concerning r a m _).result hlimit, if_pos hin,
    result_of_course (course_analysis_of_empty settings hq hcode)]
  rfl

structure Classified (world : Script) (settings : Settings) (r : Request) (m : Moment) (p : Pool)
    (answer : Answer) : Prop where
  error : "error" ∈ answer.content.map Prod.fst ↔ answer.success = false
  report : ∀ x, (answer = x ∧ answer.success = true) ↔ ∃ a, named? r.text = some a ∧
    (analysis world settings r a ⟨m, none⟩ p).1.InTime settings.analysisTimeout m ∧
    (analysis world settings r a ⟨m, none⟩ p).1.result = .ok x
  refusal : answer.success = false → ∃! x : Refusal, answer.text = x.text
  noContract : ∀ a, (answer.success = false ∧ answer.text = (Refusal.noContract a).text) ↔
    r.question = .contract ∧ named? r.text = some a ∧
    (codeRead world r a ⟨m, none⟩ p).1.InTime settings.analysisTimeout m ∧
    (codeRead world r a ⟨m, none⟩ p).1.result = .ok []
  late : (answer.success = false ∧
      answer.text = (Refusal.incomplete (lateText settings.analysisTimeout)).text) ↔
    ∃ a, named? r.text = some a ∧
      ¬ (analysis world settings r a ⟨m, none⟩ p).1.InTime settings.analysisTimeout m

theorem exists_refusal {answer : Answer} (h : answer.success = false) :
    ∃! x : Refusal, answer.text = x.text := by
  cases hx : answer.refusal? with
  | none =>
    rw [refusal?_eq_none_iff, h] at hx
    cases hx
  | some x =>
    exact ⟨x, text_of_refusal? hx, fun y hy => Refusal.text_injective (hy.symm.trans (text_of_refusal? hx))⟩

theorem refusal?_of_error {w : Window} {p : Pool} {e : Failure} (limit : Duration)
    (h : (analysis world settings r a w p).1.result = .error e) :
    (∃ reason, (ofFailure limit a e).refusal? = some (.incomplete reason) ∧ reason ≠ lateText limit) ∨
    ((ofFailure limit a e).refusal? = some (.noContract a) ∧ r.question = .contract ∧
      (codeRead world r a w p).1.result = .ok []) ∨
    (ofFailure limit a e).refusal? = some .badInput := by
  have hordinary {e : Failure} (he : e.Ordinary) :
      ∃ reason, (ofFailure limit a e).refusal? = some (.incomplete reason) ∧ reason ≠ lateText limit := by
    obtain ⟨reason, hanswer, hreason⟩ := ofFailure_of_ordinary he limit a
    exact ⟨reason, by rw [hanswer]; rfl, hreason⟩
  cases hq : r.question with
  | contract =>
    rcases error_of_analysis_contract hq h with he | ⟨rfl, hcode⟩
    · exact .inl (hordinary he)
    · exact .inr (.inl ⟨rfl, rfl, hcode⟩)
  | allowances spenders pauses =>
    rcases error_of_analysis_allowances hq h with he | ⟨s, d, tokens, -, -, -, he⟩
    · exact .inl (hordinary he)
    · cases he with
      | ordinary he => exact .inl (hordinary he)
      | malformed => exact .inr (.inr rfl)

section

variable {p : Pool} {answer : Answer}
  (h : Ends settings.analysisTimeout m a (analysis world settings r a ⟨m, none⟩ p).1 answer)

include h

theorem report_iff_of_ends (x : Answer) : (answer = x ∧ answer.success = true) ↔
    (analysis world settings r a ⟨m, none⟩ p).1.InTime settings.analysisTimeout m ∧
    (analysis world settings r a ⟨m, none⟩ p).1.result = .ok x := by
  constructor
  · rintro ⟨rfl, hsuccess⟩
    cases h with
    | report hin hr => exact ⟨hin, hr⟩
    | failure _ _ => cases (success_ofFailure ..).symm.trans hsuccess
    | late _ => cases hsuccess
  · rintro ⟨hin, hr⟩
    cases h with
    | report _ hr' =>
      cases hr.symm.trans hr'
      exact ⟨rfl, success_of_analysis hr⟩
    | failure _ hr' => cases hr.symm.trans hr'
    | late hnot => exact absurd hin hnot

theorem noContract_iff_of_ends (b : Address) : answer.refusal? = some (.noContract b) ↔
    r.question = .contract ∧ a = b ∧
    (codeRead world r b ⟨m, none⟩ p).1.InTime settings.analysisTimeout m ∧
    (codeRead world r b ⟨m, none⟩ p).1.result = .ok [] := by
  constructor
  · intro hx
    cases h with
    | report _ hr =>
      rw [(refusal?_eq_none_iff _).2 (success_of_analysis hr)] at hx
      cases hx
    | failure hin hr =>
      rcases refusal?_of_error settings.analysisTimeout hr with ⟨_, he, _⟩ | ⟨he, hq, hcode⟩ | he
      · cases he.symm.trans hx
      · cases he.symm.trans hx
        exact ⟨hq, rfl, (inTime_codeRead_iff settings hq hcode _).2 hin, hcode⟩
      · cases he.symm.trans hx
    | late _ => cases hx
  · rintro ⟨hq, rfl, hin, hcode⟩
    have herror := result_of_course (course_analysis_of_empty settings hq hcode)
    rw [inTime_codeRead_iff settings hq hcode] at hin
    cases h with
    | report _ hr => cases herror.symm.trans hr
    | failure _ hr =>
      cases herror.symm.trans hr
      rfl
    | late hnot => exact absurd hin hnot

theorem late_iff_of_ends : answer.refusal? = some (.incomplete (lateText settings.analysisTimeout)) ↔
    ¬ (analysis world settings r a ⟨m, none⟩ p).1.InTime settings.analysisTimeout m := by
  constructor
  · intro hx hin
    cases h with
    | report _ hr =>
      rw [(refusal?_eq_none_iff _).2 (success_of_analysis hr)] at hx
      cases hx
    | failure _ hr =>
      -- a failure may be told in any words but those of the deadline
      rcases refusal?_of_error settings.analysisTimeout hr with ⟨_, he, hne⟩ | ⟨he, -, -⟩ | he
      · cases he.symm.trans hx
        exact hne rfl
      · cases he.symm.trans hx
      · cases he.symm.trans hx
    | late hnot => exact hnot hin
  · intro hnot
    cases h with
    | report hin _ => exact absurd hin hnot
    | failure hin _ => exact absurd hin hnot
    | late _ => rfl

theorem classified_of_ends (ha : named? r.text = some a) : Classified world settings r m p answer where
  error := error_mem_content_iff answer
  report := by
    intro x
    rw [report_iff_of_ends h]
    simp only [ha, Option.some.injEq, exists_eq_left']
  refusal := exists_refusal
  noContract := by
    intro b
    rw [← refusal?_eq_some_iff, noContract_iff_of_ends h, ha, Option.some.injEq]
  late := by
    rw [← refusal?_eq_some_iff, late_iff_of_ends h]
    simp only [ha, Option.some.injEq, exists_eq_left']

end

theorem classified_of_unnamed {p : Pool} (h : named? r.text = none) (reason : String) :
    Classified world settings r m p (.badInput reason) where
  error := error_mem_content_iff _
  report := fun x => iff_of_false (fun hx => by cases hx.2) (by rw [h]; rintro ⟨_, ha, _⟩; cases ha)
  refusal := exists_refusal
  noContract := by
    intro b
    rw [← refusal?_eq_some_iff, h]
    exact iff_of_false (fun hx => by cases hx) (fun ⟨_, ha, _⟩ => by cases ha)
  late := by
    rw [← refusal?_eq_some_iff, h]
    exact iff_of_false (fun hx => by cases hx) (fun ⟨_, ha, _⟩ => by cases ha)

theorem reply_classified (world : Script) (settings : Settings) (shared : Option Pool) (r : Request)
    (m : Moment) (trace : Trace) (hlimit : settings.analysisTimeout ≠ .fractional .nan) :
    ∃ answer, reply world settings shared r m trace = .ok answer ∧
      Classified world settings r m (poolOf settings shared trace) answer := by
  cases hn : named? r.text with
  | none =>
    obtain ⟨reason, hanswer⟩ := answer_of_unnamed world settings hn
    rw [reply_eq, hanswer]
    exact ⟨_, rfl, classified_of_unnamed hn reason⟩
  | some a =>
    obtain ⟨answer, hreply, hends⟩ := reply_of_named hlimit hn
    exact ⟨answer, hreply, classified_of_ends hends hn⟩

theorem codeRead_eq (world : Script) (r : Request) (a : Address) :
    codeRead world r a = r.atClient fun _ i => Pool.work i (ofAttempt (.ok a) >>= fun a =>
      Work.rpc world "eth_getCode" (.code a) >>= fun answer => Activity.pure (answer.getD [])) := by
  rw [codeRead, Work.code, Work.address, Address.require_text]

def plainSettings : Settings := .plain (.whole Settings.defaultRequestTimeout)

def plainRequest (text : String) : Request := ⟨.contract, some text, some plainSettings.networks.main⟩

theorem reply_classified_quiet :
    plainSettings.analysisTimeout ≠ .fractional .nan ∧
    ∃ answer, reply .quiet plainSettings none (plainRequest Address.zeroText) (.ofInstant .start) [] =
        .ok answer ∧ answer.success = false ∧
      answer.text = "No contract found at " ++ Address.zero.text := by
  have hlimit : plainSettings.analysisTimeout ≠ .fractional .nan := nofun
  have hnamed : named? (plainRequest Address.zeroText).text = some .zero := by decide +kernel
  obtain ⟨answer, hreply, hclassified⟩ :=
    reply_classified .quiet plainSettings none (plainRequest Address.zeroText) (.ofInstant .start) [] hlimit
  refine ⟨hlimit, answer, hreply, (hclassified.noContract .zero).2 ⟨rfl, hnamed, ?_, ?_⟩⟩
  · rw [codeRead_eq]
    decide +kernel
  · rw [codeRead_eq]
    exact Attempt.eq_ok_of_toOption (by decide +kernel)

end Request

end ChainRisk
