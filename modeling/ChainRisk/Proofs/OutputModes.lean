import ChainRisk.Proofs.OptionPlaces
import ChainRisk.Proofs.Rejection
import ChainRisk.Proofs.WrittenValues

namespace ChainRisk

open Activity

namespace Answer

theorem field?_reread (a : Answer) : a.toJson.reread.field? "text" = some (.str (Json.rejoined a.text)) := by
  have hsuccess : Json.rejoined "success" = "success" := rfl
  have htext : Json.rejoined "text" = "text" := rfl
  have hcontent : Json.rejoined "content" = "content" := rfl
  rw [toJson, Json.reread]
  simp only [Json.rereadFields, Json.reread, hsuccess, htext, hcontent]
  rfl

end Answer

theorem Settings.isIn_of_load {env : Environment} {e : Failure} (h : load env = .error e) :
    e.isIn .configuration = true := by
  unfold load at h
  split at h
  · cases h
  · cases h
    rfl

namespace NetworkTable

theorem exists_of_choice {t : NetworkTable} (hmain : t.main.name = Network.mainName)
    (htest : t.test.name = Network.testName) {name : String} (h : name ∈ CommandLine.Arguments.networkChoices) :
    ∃ n ∈ t.toList, n.name = name ∧ t.ofName name = withEndpoint n := by
  have hne : (t.main.name == Network.testName) = false := by rw [hmain]; rfl
  have hlower : Text.lower name = name := by
    simp only [CommandLine.Arguments.networkChoices, List.mem_cons, List.not_mem_nil, or_false] at h
    rcases h with rfl | rfl <;> rfl
  simp only [CommandLine.Arguments.networkChoices, List.mem_cons, List.not_mem_nil, or_false] at h
  unfold ofName
  rw [hlower]
  rcases h with rfl | rfl
  · have hfind : t.find? Network.mainName = some t.main := List.find?_cons_of_pos (by simp [hmain])
    exact ⟨t.main, by simp [toList], hmain, by rw [hfind]⟩
  · have hfind : t.find? Network.testName = some t.test := by
      rw [find?, toList, List.find?_cons_of_neg (by simp [hne])]
      exact List.find?_cons_of_pos (by simp [htest])
    exact ⟨t.test, by simp [toList], htest, by rw [hfind]⟩

end NetworkTable

namespace CommandLine

open Request

variable {world : Script} {env : Environment} {words : List String} {settings : Settings} {command : Command}
  {args : Arguments} {network : Network}

variable (world) in
theorem exists_reply (settings : Settings) (shared : Option Pool) (r : Request) (m : Moment) (trace : Trace) :
    ∃ answer, reply world settings shared r m trace = .ok answer := by
  rw [reply_eq]
  cases h : named? r.text with
  | none =>
    obtain ⟨reason, hreason⟩ := answer_of_unnamed world settings h
    rw [hreason]
    exact ⟨_, rfl⟩
  | some a => exact ⟨_, answer_of_named h _ _⟩

theorem asking_of_noNetwork {e : Failure} (hnet : settings.networks.ofName args.network = .error e) (w : Window)
    (trace : Trace) :
    let p := Pool.empty settings.networks settings.requestTimeout trace
    (asking world settings command args w p).1.result = .error e ∧
      (asking world settings command args w p).2 = p := by
  intro p
  have hchosen : (ofAttempt (p.networks.ofName args.network) : Activity Pool Network) = fail e := by
    change ofAttempt (settings.networks.ofName args.network) = _
    rw [hnet]
    rfl
  constructor
  · refine (result_bind_of_ok (x := inspect) rfl).trans ?_
    rw [hchosen]
    rfl
  · refine (state_bind_of_ok (x := inspect) rfl).trans ?_
    rw [hchosen]
    rfl

theorem carriedOut_of_noNetwork (hload : Settings.load env = .ok settings) {e : Failure}
    (hnet : settings.networks.ofName args.network = .error e) :
    carriedOut world env command args = (.error e, []) := by
  obtain ⟨hresult, hstate⟩ := @asking_of_noNetwork world settings command args e hnet (.since .start) []
  rw [carriedOut_eq hload, Pool.alone_result (respects_sound_asking _ _ (Pool.sound_empty _ _ _)), hresult,
    Pool.alone_state_of_idle hstate]

theorem run_of_refused (hparse : Arguments.parse words = .ok (command, args)) {e : Failure}
    (h : carriedOut world env command args = (.error e, [])) : run world env words =
      ⟨1, "", refusal e, some (Logging.level (levelName env args)), []⟩ := by
  rw [run, hparse]
  simp only [h]

theorem read?_printed (a : Answer) : Json.read? (printed true a) = some a.toJson.reread := by
  have hblank : Json.Spaces "\n".toList := by simp [Json.Spaces, Json.isWritingSpace]
  exact Json.read?_written .indented 0 a.toJson hblank

/-- What a run and the same with structured output have in common. A text with half of a pair of units cannot be
printed as it is. -/
structure Twins (plain structured : Transcript) : Prop where
  status : structured.status = plain.status
  trace : structured.trace = plain.trace
  errors : structured.errors = plain.errors
  logLevel : structured.logLevel = plain.logLevel
  output : plain.errors ≠ "" ∧ plain.output = "" ∧ structured.output = "" ∨
    plain.errors = "" ∧ ∃ text v, plain.output = text ++ "\n" ∧ Json.read? structured.output = some v ∧
      (Json.Whole text → v.field? "text" = some (.str text))

theorem refusal_ne (e : Failure) : refusal e ≠ "" := by
  intro h
  have hlength : (refusal e).toList.length = 0 := by rw [h]; rfl
  simp [refusal] at hlength

variable {words' : List String}

theorem carriedOut_structured (world : Script) (env : Environment) (command : Command) (args : Arguments) :
    carriedOut world env command args.structured = carriedOut world env command args := by
  have hanswer : ∀ settings,
      answer world settings command args.structured = answer world settings command args :=
    fun _ => rfl
  unfold carriedOut
  simp only [hanswer]

theorem twins (hparse : Arguments.parse words = .ok (command, args)) (hplain : args.json = false)
    (hparse' : Arguments.parse words' = .ok (command, args.structured)) :
    Twins (run world env words) (run world env words') := by
  have hlevel : levelName env args.structured = levelName env args := rfl
  rw [run, run, hparse, hparse']
  simp only [carriedOut_structured, hlevel]
  cases h : carriedOut world env command args with
  | mk result trace =>
    cases result with
    | error e => exact ⟨rfl, rfl, rfl, rfl, .inl ⟨refusal_ne e, rfl, rfl⟩⟩
    | ok a =>
      refine ⟨rfl, rfl, rfl, rfl, .inr ⟨rfl, a.text, a.toJson.reread, ?_, read?_printed a, ?_⟩⟩
      · simp only [hplain]
        rfl
      · intro hwhole
        rw [a.field?_reread, Json.rejoined_of_whole hwhole]

theorem exists_network (settings : Settings) (hparse : Arguments.parse words = .ok (command, args)) :
    ∃ network ∈ settings.networks.toList, network.name = args.network ∧
      settings.networks.ofName args.network = NetworkTable.withEndpoint network :=
  NetworkTable.exists_of_choice rfl rfl (Arguments.network_of_parse hparse)

theorem carriedOut_of_refused {e : Failure} (h : Settings.load env = .error e) :
    carriedOut world env command args = (.error e, []) := by
  rw [carriedOut, h]

theorem withEndpoint_of_none (h : network.endpoint? = none) :
    NetworkTable.withEndpoint network = .error (.configuration (.noEndpoint network.name)) := by
  rw [NetworkTable.withEndpoint, h]
  rfl

theorem exists_answer (world : Script) (hload : Settings.load env = .ok settings)
    (hnet : settings.networks.ofName args.network = NetworkTable.withEndpoint network)
    (hsome : network.endpoint?.isSome = true) : ∃ answer,
      reply world settings (some (.empty settings.networks settings.requestTimeout []))
        (args.request command network) (.ofInstant .start) [] = .ok answer ∧
      (carriedOut world env command args).1 = .ok answer := by
  rw [NetworkTable.withEndpoint, if_pos hsome] at hnet
  obtain ⟨answer, hanswer⟩ := exists_reply world settings
    (some (.empty settings.networks settings.requestTimeout [])) (args.request command network)
    (.ofInstant .start) []
  refine ⟨answer, hanswer, ?_⟩
  rw [carriedOut_result hload hnet, ← hanswer, reply_eq, reply_eq]
  rfl

theorem isIn_of_carriedOut (hparse : Arguments.parse words = .ok (command, args)) {e : Failure}
    (h : (carriedOut world env command args).1 = .error e) : e.isIn .configuration = true := by
  cases hload : Settings.load env with
  | error e' =>
    rw [carriedOut_of_refused hload] at h
    cases h
    exact Settings.isIn_of_load hload
  | ok settings =>
    obtain ⟨network, -, -, hnet⟩ := exists_network settings hparse
    by_cases hsome : network.endpoint?.isSome = true
    · obtain ⟨answer, -, hanswer⟩ := @exists_answer env settings command args network world hload hnet hsome
      cases hanswer.symm.trans h
    · have hnone : network.endpoint? = none := by simpa using hsome
      rw [carriedOut_of_noNetwork hload (hnet.trans (withEndpoint_of_none hnone))] at h
      cases h
      rfl

theorem run_reports (world : Script) (env : Environment)
    (hparse : Arguments.parse words = .ok (command, args)) :
    let t := run world env words
    let level := some (Logging.level (levelName env args))
    (∀ e, (carriedOut world env command args).1 = .error e → e.isIn .configuration = true) ∧
    (∀ e, Settings.load env = .error e → t = ⟨1, "", refusal e, level, []⟩) ∧
    (∀ settings, Settings.load env = .ok settings → ∃ network ∈ settings.networks.toList,
      network.name = args.network ∧
      (network.endpoint? = none → t = ⟨1, "", refusal (.configuration (.noEndpoint network.name)), level, []⟩) ∧
      (network.endpoint?.isSome = true → ∃ answer,
        reply world settings (some (.empty settings.networks settings.requestTimeout []))
          (args.request command network) (.ofInstant .start) [] = .ok answer ∧
        t.status = (if answer.success then 0 else 1) ∧ t.output = printed args.json answer ∧ t.errors = "")) ∧
    (args.json = false → ∀ before after, words = before ++ after → ∀ command' args',
      Arguments.parse (before ++ Arguments.jsonText :: after) = .ok (command', args') →
      Twins t (run world env (before ++ Arguments.jsonText :: after))) ∧
    ∃ name rest, words = name :: rest ∧
      Arguments.parse (name :: Arguments.jsonText :: rest) = .ok (command, args.structured) := by
  intro t level
  refine ⟨fun e => isIn_of_carriedOut hparse, ?_, ?_, ?_, Arguments.parse_structured hparse⟩
  · intro e he
    exact run_of_refused hparse (carriedOut_of_refused he)
  · intro settings hload
    obtain ⟨network, hmem, hname, hnet⟩ := exists_network settings hparse
    refine ⟨network, hmem, hname, ?_, ?_⟩
    · intro hnone
      exact run_of_refused hparse (carriedOut_of_noNetwork hload (hnet.trans (withEndpoint_of_none hnone)))
    · intro hsome
      obtain ⟨answer, hreply, hanswer⟩ := exists_answer world hload hnet hsome
      refine ⟨answer, hreply, ?_⟩
      rw [show t = _ from run_of_answer hparse hanswer]
      exact ⟨rfl, rfl, rfl⟩
  · intro hplain before after hwords command' args' hparse'
    subst hwords
    obtain ⟨rfl, rfl⟩ := Arguments.parse_inserted hparse hparse'
    exact twins hparse hplain hparse'

theorem run_reports_nobody :
    let env := Settings.leastEnvironment []
    let args : Arguments := ⟨"nobody", Network.mainName, false, none⟩
    let t := run .quiet env ["contract", "nobody"]
    Arguments.parse ["contract", "nobody"] = .ok (.contract, args) ∧
    t.status = 1 ∧ t.output = Answer.badInputText ++ "\n" ∧ t.errors = "" ∧
    Arguments.parse ["contract", "--json", "nobody"] = .ok (.contract, args.structured) ∧
    Twins t (run .quiet env ["contract", "--json", "nobody"]) := by
  intro env args t
  have hparse : Arguments.parse ["contract", "nobody"] = .ok (.contract, args) :=
    parse_pair .contract (by decide +kernel)
  obtain ⟨-, -, hsettings, htwins, name, rest, hwords, hstructured⟩ := run_reports .quiet env hparse
  obtain ⟨network, hmem, hname, -, hanswer⟩ := hsettings plainSettings Settings.load_leastEnvironment
  have hends : ∀ n ∈ plainSettings.networks.toList, n.name = Network.mainName → n.endpoint?.isSome = true := by
    decide +kernel
  have hsome : network.endpoint?.isSome = true := hends network hmem hname
  obtain ⟨answer, hreply, hstatus, houtput, herrors⟩ := hanswer hsome
  obtain ⟨reason, hreason⟩ := answer_of_unnamed .quiet plainSettings
    (r := args.request .contract network) (show named? (some "nobody") = none by decide +kernel)
  have hbad : answer = .badInput reason := by
    rw [reply_eq, hreason] at hreply
    cases hreply
    rfl
  obtain ⟨rfl, rfl⟩ : name = "contract" ∧ rest = ["nobody"] := by
    cases hwords
    exact ⟨rfl, rfl⟩
  rw [hbad] at hstatus houtput
  exact ⟨hparse, hstatus, houtput, herrors, hstructured,
    htwins rfl ["contract"] ["nobody"] rfl _ _ hstructured⟩

end CommandLine

end ChainRisk
