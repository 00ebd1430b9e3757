import ChainRisk.Proofs.Replies
import ChainRisk.Proofs.TokenIsolation

namespace ChainRisk

open Failure

theorem Work.transferHistory_result (world : Script) (a : Address) (m : Moment) (d : Desk) :
    (transferHistory world (.str a.text) ⟨m, none⟩ d).1.result = world.historyAnswer d.view a :=
  (yields_transferHistory (Q := fun r _ => r = world.historyAnswer d.view a) rfl).run m rfl

namespace Attempt

variable {α : Type} {x : Attempt α} {t : String}

def blamed? : Attempt α → Option String
  | .error (.invalidAddress (.str t)) => some t
  | _ => none

theorem eq_error_of_blamed? (h : x.blamed? = some t) : x = .error (.invalidAddress (.str t)) := by
  unfold blamed? at h
  split at h
  · cases h
    rfl
  · cases h

end Attempt

namespace Request

open Activity

variable {world : Script} {settings : Settings} {shared : Option Pool} {r : Request} {m : Moment}
  {trace : Trace} {a : Address} {p : Pool} {tokens : List String} {t reason : String} {e : Failure}

def LooksAt (world : Script) (settings : Settings) (r : Request) (a : Address) (p : Pool)
    (tokens : List String) : Prop :=
  ∃ spenders pauses s payload listed, r.question = .allowances spenders pauses ∧
    survey settings spenders pauses = .ok s ∧
    world.Tells (Script.historyQuery a) (p.trace.reads (.ofParameters (Script.historyQuery a))) payload ∧
    Envelope.tokens payload = .ok listed ∧ tokens = s.chosen listed

/-- The analysis fails on a token that it looks at, which denotes no address. -/
def Blames (world : Script) (settings : Settings) (r : Request) (a : Address) (m : Moment) (p : Pool)
    (reason : String) : Prop :=
  ∃ tokens t, LooksAt world settings r a p tokens ∧ t ∈ tokens ∧ Address.ofText? t = none ∧
    (analysis world settings r a ⟨m, none⟩ p).1.result = .error (.invalidAddress (.str t)) ∧
    reason = (Failure.invalidAddress (.str t)).message

theorem blames_of_error (h : (analysis world settings r a ⟨m, none⟩ p).1.result = .error e)
    (hanswer : Answer.ofFailure settings.analysisTimeout a e = .badInput reason) :
    Blames world settings r a m p reason := by
  have hordinary : ¬ e.Ordinary := by
    intro he
    obtain ⟨_, hincomplete, -⟩ := Answer.ofFailure_of_ordinary he settings.analysisTimeout a
    cases hanswer.symm.trans hincomplete
  cases hq : r.question with
  | contract =>
    rcases error_of_analysis_contract hq h with he | ⟨rfl, -⟩
    · exact absurd he hordinary
    · cases hanswer
  | allowances spenders pauses =>
    rcases error_of_analysis_allowances hq h with he | ⟨s, d, tokens, hs, hreads, htokens, he⟩
    · exact absurd he hordinary
    · rw [Work.transferHistory_result, Script.historyAnswer_eq_ok_iff] at htokens
      obtain ⟨payload, htells, hlisted⟩ := htokens
      have hlooks : LooksAt world settings r a p (s.chosen tokens) :=
        ⟨spenders, pauses, s, payload, tokens, hq, hs, hreads ▸ htells, hlisted, rfl⟩
      cases he with
      | ordinary he => exact absurd he hordinary
      | malformed ht hbad =>
        cases hanswer
        exact ⟨_, _, hlooks, ht, hbad, h, rfl⟩

theorem analysis_ne_ok (hlooks : LooksAt world settings r a p tokens) (ht : t ∈ tokens)
    (hbad : Address.ofText? t = none) (answer : Answer) :
    (analysis world settings r a ⟨m, none⟩ p).1.result ≠ .ok answer := by
  obtain ⟨spenders, pauses, s, payload, listed, hq, hs, htells, hlisted, rfl⟩ := hlooks
  intro h
  rcases analysis_allowances_result world settings hq a ⟨m, none⟩ p with
    ⟨e, -, hr⟩ | ⟨s', d, hs', hreads, hr⟩
  · cases h.symm.trans hr
  · cases hs.symm.trans hs'
    have htokens : (Work.transferHistory world (.str a.text) ⟨m, none⟩ d).1.result = .ok listed := by
      rw [Work.transferHistory_result, Script.historyAnswer_eq_ok_iff]
      refine ⟨payload, ?_, hlisted⟩
      rwa [show d.view.reads = p.trace.reads from hreads]
    obtain ⟨report, hreport, -⟩ := Attempt.bind_eq_ok_iff.1 (hr.symm.trans h)
    exact Work.allowances_ne_ok htokens ht hbad report hreport

variable (world settings shared m trace) in
theorem reply_told (h : named? r.text = some a) : ∃ cut : Outcome Answer,
    reply world settings shared r m trace = .ok (told settings.analysisTimeout a cut.result) ∧
      Curbed settings.analysisTimeout m cut
        (analysis world settings r a ⟨m, none⟩ (poolOf settings shared trace)).1 :=
  ⟨_, (reply_eq ..).trans (answer_of_named h ..), curbed_concerning r a m _⟩

theorem reply_of_blamed (hnum : settings.analysisTimeout ≠ .fractional .nan) (h : named? r.text = some a)
    (hin : (analysis world settings r a ⟨m, none⟩ (poolOf settings shared trace)).1.InTime
      settings.analysisTimeout m)
    (hresult : (analysis world settings r a ⟨m, none⟩ (poolOf settings shared trace)).1.result =
      .error (.invalidAddress (.str t))) :
    reply world settings shared r m trace = .ok (.badInput (Failure.invalidAddress (.str t)).message) := by
  obtain ⟨cut, hreply, hcurbed⟩ := reply_told world settings shared m trace h
  rw [hreply, hcurbed.result hnum, if_pos hin, hresult]
  rfl

theorem reply_blames (world : Script) (settings : Settings) (shared : Option Pool) (r : Request)
    (m : Moment) (trace : Trace) {a : Address} (h : named? r.text = some a) :
    let p := poolOf settings shared trace
    let run := (analysis world settings r a ⟨m, none⟩ p).1
    ∃ answer, reply world settings shared r m trace = .ok answer ∧
      (∀ reason, answer = .badInput reason → Blames world settings r a m p reason ∧
        (settings.analysisTimeout ≠ .fractional .nan → run.InTime settings.analysisTimeout m)) ∧
      (∀ reason, Blames world settings r a m p reason → settings.analysisTimeout ≠ .fractional .nan →
        run.InTime settings.analysisTimeout m → answer = .badInput reason) ∧
      ∀ tokens, LooksAt world settings r a p tokens → (∃ t ∈ tokens, Address.ofText? t = none) →
        answer.success = false := by
  intro p run
  obtain ⟨cut, hreply, hcurbed⟩ := reply_told world settings shared m trace h
  refine ⟨_, hreply, ?_⟩
  -- in time the answer tells the result of the analysis, and otherwise that there was none
  rcases hcurbed with ⟨hcut, hin⟩ | ⟨hcut, hlate⟩
  · rw [hcut]
    refine ⟨?_, ?_, ?_⟩
    · intro reason hreason
      refine ⟨?_, hin⟩
      cases hr : run.result with
      | ok answer =>
        rw [hr] at hreason
        have hsuccess := success_of_analysis hr
        rw [show answer = .badInput reason from hreason] at hsuccess
        cases hsuccess
      | error e =>
        rw [hr] at hreason
        exact blames_of_error hr hreason
    · rintro reason ⟨tokens, t, -, -, -, hr, rfl⟩ - -
      rw [hr]
      rfl
    · rintro tokens hlooks ⟨t, ht, hbad⟩
      cases hr : run.result with
      | ok answer => exact absurd hr (analysis_ne_ok hlooks ht hbad answer)
      | error e => exact Answer.success_ofFailure ..
  · rw [hcut]
    refine ⟨?_, ?_, ?_⟩
    · rintro reason ⟨⟩
    · intro reason _ hnum hin
      exact absurd hin (hlate hnum)
    · intro tokens _ _
      rfl

def strayPayload : Json :=
  .obj [("status", .str "1"), ("result", .arr [.obj [("contractAddress", .str "0xbad")]])]

def strayWorld : Script :=
  Script.quiet.retold fun action _ => if action = some "tokentx" then [.atOnce strayPayload] else []

def allowancesRequest (text : String) : Request :=
  ⟨.allowances none none, some text, some plainSettings.networks.main⟩

theorem looksAt_strayWorld : LooksAt strayWorld plainSettings (allowancesRequest Address.zeroText) .zero
    (poolOf plainSettings none []) ["0xbad"] :=
  ⟨none, none, _, strayPayload, ["0xbad"], rfl, rfl, ⟨rfl, ⟨_, rfl⟩, fun h => h.1 rfl⟩,
    Attempt.eq_ok_of_toOption (by decide +kernel), by decide +kernel⟩

theorem reply_blames_strayWorld :
    named? (allowancesRequest Address.zeroText).text = some .zero ∧
    ∃ answer, reply strayWorld plainSettings none (allowancesRequest Address.zeroText) (.ofInstant .start) [] =
      .ok answer ∧ answer.success = false := by
  have hnamed : named? (allowancesRequest Address.zeroText).text = some .zero := by decide +kernel
  obtain ⟨answer, hreply, -, -, hreport⟩ := reply_blames strayWorld plainSettings none
    (allowancesRequest Address.zeroText) (.ofInstant .start) [] hnamed
  exact ⟨hnamed, answer, hreply, hreport _ looksAt_strayWorld ⟨_, List.mem_singleton_self _, by decide +kernel⟩⟩

variable (world settings) in
theorem analysis_allowances_eq {spenders : Option SpenderTable} {pauses : Option Pauses}
    (hq : r.question = .allowances spenders pauses) (a : Address) : analysis world settings r a =
      r.atClient fun _ i => ofAttempt (survey settings spenders pauses) >>= fun s =>
        Pool.work i (ofAttempt (.ok a) >>= fun a => Work.recorded world (Work.surveyed world s a)) >>=
          fun report => ofAttempt (report.text world.room) >>= fun text => Activity.pure (.listed report text a) := by
  rw [analysis, hq]
  simp only [← Address.require_text]
  rfl

theorem reply_strayWorld :
    named? (allowancesRequest Address.zeroText).text = some .zero ∧
    reply strayWorld plainSettings none (allowancesRequest Address.zeroText) (.ofInstant .start) [] =
      .ok (.badInput "Invalid Ethereum address: '0xbad'") := by
  have hnamed : named? (allowancesRequest Address.zeroText).text = some .zero := by decide +kernel
  have hrun := analysis_allowances_eq strayWorld plainSettings (r := allowancesRequest Address.zeroText) rfl .zero
  simp only [Work.surveyed, Work.transferHistory, Work.address, Address.require_text] at hrun
  have hmessage : (Failure.invalidAddress (.str "0xbad")).message = "Invalid Ethereum address: '0xbad'" := by
    decide +kernel
  have hlimit : plainSettings.analysisTimeout ≠ .fractional .nan := by
    intro h
    cases h
  rw [← hmessage]
  refine ⟨hnamed, reply_of_blamed hlimit hnamed ?_ (Attempt.eq_error_of_blamed? ?_)⟩
  · rw [hrun]
    decide +kernel
  · rw [hrun]
    decide +kernel

end Request

end ChainRisk
