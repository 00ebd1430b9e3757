import ChainRisk.CommandLine.Run
import ChainRisk.Proofs.FirstReads
import ChainRisk.Proofs.Replies

namespace ChainRisk

theorem Request.named?_of_ofText? {s : String} {a : Address} (h : Address.ofText? s = some a) :
    named? (some s) = some a := by
  obtain ⟨cs, hs, hcs⟩ := Address.toBytes?_of_ofText? h
  have hlength : cs.length = 40 := by rw [Hex.length_of_toBytes? hcs, a.length_bytes]
  have hfound : Address.find? (some s) = some s := by
    have hleads : Address.leads ('0' :: 'x' :: cs) = true := by
      simp only [Address.leads, List.take_of_length_le hlength.le, hlength, List.all_eq_true, beq_self_eq_true,
        Bool.true_and]
      exact fun c hc => Hex.isDigit_of_toBytes? hcs hc
    have htake : ('0' :: 'x' :: cs).take 42 = '0' :: 'x' :: cs :=
      List.take_of_length_le (by simp [hlength])
    rw [Address.find?, Option.bind_some, hs, Address.search?, if_pos hleads, htake, ← hs, Option.map_some,
      String.ofList_toList]
  rw [named?, hfound]
  exact h

namespace Pool

open Activity

theorem close_empty (networks : NetworkTable) (timeout : Duration) (trace : Trace) (w : Window) :
    (close w (empty networks timeout trace)).2 = empty networks timeout trace := by
  change (if w.reaches w.start then _ else _) = _
  split <;> rfl

theorem alone_state_of_idle {α : Type} {networks : NetworkTable} {timeout : Duration} {x : Activity Pool α}
    {w : Window} {trace : Trace} (h : (x w (empty networks timeout trace)).2 = empty networks timeout trace) :
    (alone networks timeout x w trace).2 = trace := by
  have hsound : (x w (empty networks timeout trace)).2.Sound := by
    rw [h]
    exact sound_empty networks timeout trace
  rw [alone_state hsound, h, close_empty]
  rfl

end Pool

namespace Request

open Activity

variable {world : Script} {settings : Settings} {r : Request} {n : Network} {a : Address} {w : Window}
  {p : Pool}

theorem concerning_of_get_error (hn : r.network = some n) {e : Failure}
    (he : (Pool.get n w p).1.result = .error e) :
    (concerning world settings r a w p).1.result = .error e := by
  rw [concerning, chosenNetwork, hn]
  refine (result_bind_of_ok (x := Activity.pure n) rfl).trans ?_
  cases r.question with
  | contract =>
    change ((Pool.get n >>= _) w p).1.result = _
    rw [bind_of_error he]
  | allowances spenders pauses =>
    change ((Pool.get n >>= _) w p).1.result = _
    rw [bind_of_error he]

variable (world settings) in
theorem answer_of_get_error (hnamed : named? r.text = some a) (hn : r.network = some n) {e : Failure}
    (he : (Pool.get n w p).1.result = .error e) :
    ∃ reason, (answer world settings r w p).1.result = .ok (.incomplete reason a) := by
  have hordinary := (Pool.fails_get n).run w p e he
  obtain ⟨reason, hreason, -⟩ := Answer.ofFailure_of_ordinary hordinary settings.analysisTimeout a
  rw [answer_of_named hnamed, concerning_of_get_error hn he, told, hreason]
  exact ⟨reason, rfl⟩

end Request

theorem NetworkTable.endpoint_of_ofName {t : NetworkTable} {name : String} {n : Network}
    (h : t.ofName name = .ok n) : n.endpoint?.isSome := by
  unfold ofName at h
  split at h
  · unfold withEndpoint at h
    split at h
    · next hsome =>
      cases h
      exact hsome
    · cases h
  · cases h

namespace CommandLine

open Activity Request

variable {world : Script} {env : Environment} {words : List String} {settings : Settings} {command : Command}
  {args : Arguments} {network : Network} {a : Address}

def asking (world : Script) (settings : Settings) (command : Command) (args : Arguments) :
    Activity Pool Answer :=
  inspect >>= fun p => ofAttempt (p.networks.ofName args.network) >>= fun network =>
    Request.answer world settings (args.request command network)

section

variable (hnet : settings.networks.ofName args.network = .ok network)

include hnet

theorem asking_outcome (w : Window) (trace : Trace) :
    let p := Pool.empty settings.networks settings.requestTimeout trace
    let q := Request.answer world settings (args.request command network) w p
    (asking world settings command args w p).1.result = q.1.result ∧
      (asking world settings command args w p).2 = q.2 := by
  intro p q
  have hchosen : (ofAttempt (settings.networks.ofName args.network) : Activity Pool Network) =
      Activity.pure network := by
    rw [hnet]
    rfl
  have hname : (ofAttempt (settings.networks.ofName args.network) w p).1.result = .ok network := by
    rw [hchosen]
    rfl
  constructor
  · refine (result_bind_of_ok (x := inspect) rfl).trans ((result_bind_of_ok hname).trans ?_)
    rw [hchosen]
    rfl
  · refine (state_bind_of_ok (x := inspect) rfl).trans ((state_bind_of_ok hname).trans ?_)
    rw [hchosen]
    rfl

theorem leaves_asking {made : Client × Call}
    (hmade : Client.connect network settings.requestTimeout false = .ok made) (hsize : 0 < settings.batchSize)
    (h : named? (some args.address) = some a) (trace : Trace) :
    Leaves (Pool.Read ((args.request command network).question.firstRead a))
      (asking world settings command args) (.empty settings.networks settings.requestTimeout trace) := by
  apply leaves_bind_inspect
  change Leaves _ (ofAttempt (settings.networks.ofName args.network) >>= _) _
  rw [hnet]
  apply leaves_bind_pure
  exact leaves_answer h rfl (Pool.sound_empty _ _ _) hmade hsize

end

theorem respects_sound_asking : Respects (Carries Pool.Sound) (asking world settings command args) :=
  respects_bind respects_inspect fun _ => respects_bind (respects_ofAttempt _) fun _ => respects_sound_answer _

theorem answer_eq (world : Script) (settings : Settings) (command : Command) (args : Arguments) :
    answer world settings command args =
      Pool.alone settings.networks settings.requestTimeout (asking world settings command args) := rfl

theorem carriedOut_eq (hload : Settings.load env = .ok settings) : carriedOut world env command args =
    ((Pool.alone settings.networks settings.requestTimeout (asking world settings command args)
      (.since .start) []).1.result,
    (Pool.alone settings.networks settings.requestTimeout (asking world settings command args)
      (.since .start) []).2) := by
  rw [carriedOut, hload, ← answer_eq]

theorem carriedOut_trace (hload : Settings.load env = .ok settings) : (carriedOut world env command args).2 =
    (Pool.alone settings.networks settings.requestTimeout (asking world settings command args)
      (.since .start) []).2 := by
  rw [carriedOut_eq hload]

theorem carriedOut_result (hload : Settings.load env = .ok settings)
    (hnet : settings.networks.ofName args.network = .ok network) : (carriedOut world env command args).1 =
      reply world settings none (args.request command network) (.ofInstant .start) [] := by
  have halone : (carriedOut world env command args).1 = (Pool.alone settings.networks settings.requestTimeout
      (asking world settings command args) (.since .start) []).1.result := by
    rw [carriedOut_eq hload]
  rw [halone, Pool.alone_result (respects_sound_asking _ _ (Pool.sound_empty _ _ _)), (asking_outcome hnet _ _).1,
    reply_eq]
  rfl

theorem run_trace (hparse : Arguments.parse words = .ok (command, args)) :
    (run world env words).trace = (carriedOut world env command args).2 := by
  rw [run, hparse]
  simp only
  split
  · next h => rw [h]
  · next h => rw [h]

theorem run_of_answer (hparse : Arguments.parse words = .ok (command, args)) {answer : Answer}
    (h : (carriedOut world env command args).1 = .ok answer) : run world env words =
      ⟨if answer.success then 0 else 1, printed args.json answer, "",
        some (Logging.level (levelName env args)), (carriedOut world env command args).2⟩ := by
  rw [run, hparse]
  simp only
  split
  · next he =>
    rw [he] at h
    cases h
  · next hok =>
    rw [hok] at h ⊢
    cases h
    rfl

theorem run_of_unnamed (world : Script) (hload : Settings.load env = .ok settings)
    (hparse : Arguments.parse words = .ok (command, args))
    (hnet : settings.networks.ofName args.network = .ok network) (h : named? (some args.address) = none) :
    ∃ reason, run world env words =
      ⟨1, printed args.json (.badInput reason), "", some (Logging.level (levelName env args)), []⟩ := by
  obtain ⟨reason, hreason⟩ := answer_of_unnamed world settings
    (r := args.request command network) h
  have hresult : (carriedOut world env command args).1 = .ok (.badInput reason) := by
    rw [carriedOut_result hload hnet, reply_eq, hreason]
    rfl
  have hidle : (asking world settings command args (.since .start)
      (.empty settings.networks settings.requestTimeout [])).2 =
        .empty settings.networks settings.requestTimeout [] := by
    rw [(asking_outcome hnet _ _).2, hreason]
    rfl
  have htrace : (carriedOut world env command args).2 = [] := by
    rw [carriedOut_trace hload]
    exact Pool.alone_state_of_idle hidle
  rw [run_of_answer hparse hresult, htrace]
  exact ⟨reason, rfl⟩

theorem run_of_named (world : Script) (hload : Settings.load env = .ok settings)
    (hparse : Arguments.parse words = .ok (command, args))
    (hnet : settings.networks.ofName args.network = .ok network) (h : named? (some args.address) = some a)
    {made : Client × Call} (hmade : Client.connect network settings.requestTimeout false = .ok made) :
    0 < (run world env words).trace.reads ((args.request command network).question.firstRead a) := by
  have hsize : 0 < settings.batchSize :=
    Int.lt_of_lt_of_le (by decide) (Environment.le_of_integer (by decide) (Settings.drawnFrom_of_load hload).batchSize)
  rw [run_trace hparse, carriedOut_trace hload]
  exact (Pool.leaves_alone (leaves_asking hnet hmade hsize h [])).run rfl

theorem run_of_unconnected (world : Script) (hload : Settings.load env = .ok settings)
    (hparse : Arguments.parse words = .ok (command, args))
    (hnet : settings.networks.ofName args.network = .ok network) (h : named? (some args.address) = some a)
    {e : Failure} (he : Client.connect network settings.requestTimeout false = .error e) :
    ∃ reason, (run world env words).status = 1 ∧
      (run world env words).output = printed args.json (.incomplete reason a) := by
  have hget : (Pool.get network (.since .start)
      (.empty settings.networks settings.requestTimeout [])).1.result = .error e := by
    rw [Pool.get_result]
    change (Client.connect network settings.requestTimeout false).map _ = _
    rw [he]
    rfl
  obtain ⟨reason, hreason⟩ := answer_of_get_error world settings
    (r := args.request command network) h rfl hget
  have hresult : (carriedOut world env command args).1 = .ok (.incomplete reason a) := by
    rw [carriedOut_result hload hnet, reply_eq]
    exact hreason
  rw [run_of_answer hparse hresult]
  exact ⟨reason, rfl, rfl⟩

theorem run_rejects (world : Script) (hload : Settings.load env = .ok settings)
    (hparse : Arguments.parse words = .ok (command, args))
    (hnet : settings.networks.ofName args.network = .ok network) :
    (∀ a, Address.ofText? args.address = some a → named? (some args.address) = some a) ∧
    (named? (some args.address) = none → ∃ reason, run world env words =
      ⟨1, printed args.json (.badInput reason), "", some (Logging.level (levelName env args)), []⟩) ∧
    ∀ a, named? (some args.address) = some a →
      (¬ env.Boundless "REQUEST_TIMEOUT" →
        0 < (run world env words).trace.reads ((args.request command network).question.firstRead a)) ∧
      (env.Boundless "REQUEST_TIMEOUT" → ∃ reason, (run world env words).status = 1 ∧
        (run world env words).output = printed args.json (.incomplete reason a)) := by
  -- a network that is chosen by its name has an endpoint, so only the timeout decides about its client
  have hconnect := Settings.connect_eq_ok_iff (NetworkTable.endpoint_of_ofName hnet) settings.requestTimeout false
  rw [Settings.wholeSeconds_of_requestTimeout (Settings.drawnFrom_of_load hload).requestTimeout] at hconnect
  refine ⟨fun a => named?_of_ofText?, run_of_unnamed world hload hparse hnet, fun a ha => ⟨fun hbound => ?_,
    fun hbound => ?_⟩⟩
  · obtain ⟨made, hmade⟩ := hconnect.2 hbound
    exact run_of_named world hload hparse hnet ha hmade
  · cases he : Client.connect network settings.requestTimeout false with
    | ok made => exact absurd hbound (hconnect.1 ⟨made, he⟩)
    | error e => exact run_of_unconnected world hload hparse hnet ha he

theorem ofText_eq_plain {text : String} (h : text.toList.head? ≠ some '-') (spellings : Spellings) :
    Word.ofText spellings text = .ok (.plain text) := by
  unfold Word.ofText
  split
  · next hlist =>
    rw [hlist] at h
    exact absurd rfl h
  · rfl

theorem ne_separatorText {text : String} (h : text.toList.head? ≠ some '-') : text ≠ Word.separatorText := by
  rintro rfl
  exact h rfl

theorem parse_pair (command : Command) {text : String} (h : text.toList.head? ≠ some '-') :
    Arguments.parse [command.name, text] = .ok (command, ⟨text, Network.mainName, false, none⟩) := by
  have hname : command.name.toList.head? ≠ some '-' := by cases command <;> decide
  have hcommand : Command.ofName? command.name = some command := by cases command <;> rfl
  have hwords : Word.ofTexts Arguments.spellings [text] = .ok [.plain text] := by
    rw [Word.ofTexts, if_neg (ne_separatorText h), ofText_eq_plain h]
    rfl
  have hrest : Arguments.ofCommand command [] [text] =
      .ok (command, ⟨text, Network.mainName, false, none⟩) := by
    rw [Arguments.ofCommand, hwords]
    rfl
  rw [Arguments.parse, Arguments.parseFrom, if_neg (ne_separatorText hname), ofText_eq_plain hname]
  simp only [Arguments.named, hcommand, hrest]

theorem ofName_plainSettings :
    plainSettings.networks.ofName Network.mainName = .ok plainSettings.networks.main := by
  have hlower : Text.lower Network.mainName = Network.mainName := rfl
  have hfind : plainSettings.networks.find? Network.mainName = some plainSettings.networks.main :=
    List.find?_cons_of_pos rfl
  rw [NetworkTable.ofName, hlower, hfind]
  exact if_pos rfl

theorem run_rejects_leastEnvironment :
    let env := Settings.leastEnvironment []
    let args : Arguments := ⟨"nobody", Network.mainName, false, none⟩
    Settings.load env = .ok plainSettings ∧ Arguments.parse ["contract", "nobody"] = .ok (.contract, args) ∧
    plainSettings.networks.ofName args.network = .ok plainSettings.networks.main ∧
    ∃ reason, run .quiet env ["contract", "nobody"] =
      ⟨1, printed args.json (.badInput reason), "", some (Logging.level (levelName env args)), []⟩ := by
  intro env args
  have hparse : Arguments.parse ["contract", "nobody"] = .ok (.contract, args) :=
    parse_pair .contract (by decide +kernel)
  have hunnamed : named? (some args.address) = none := by decide +kernel
  refine ⟨Settings.load_leastEnvironment, hparse, ofName_plainSettings, ?_⟩
  exact (run_rejects .quiet Settings.load_leastEnvironment hparse ofName_plainSettings).2.1 hunnamed

def longText : String := Address.zeroText ++ "0"

theorem run_longText :
    let t := run .quiet (Settings.leastEnvironment []) ["contract", longText]
    Address.ofText? longText = none ∧ t.output = "No contract found at " ++ Address.zero.text ++ "\n" ∧
      0 < t.trace.reads (.code .zero) := by
  intro t
  have hload : Settings.load (Settings.leastEnvironment []) = .ok plainSettings := Settings.load_leastEnvironment
  have hparse : Arguments.parse ["contract", longText] =
      .ok (.contract, ⟨longText, Network.mainName, false, none⟩) := parse_pair .contract (by decide +kernel)
  have hnamed : named? (some longText) = some .zero := by decide +kernel
  have hresult : (carriedOut .quiet (Settings.leastEnvironment []) .contract
      ⟨longText, Network.mainName, false, none⟩).1 = .ok (.noContract .zero) := by
    rw [carriedOut_result hload ofName_plainSettings]
    refine reply_of_empty (by nofun) rfl hnamed ?_ ?_
    · rw [codeRead_eq]
      decide +kernel
    · rw [codeRead_eq]
      exact Attempt.eq_ok_of_toOption (by decide +kernel)
  have hmade : Client.connect plainSettings.networks.main plainSettings.requestTimeout false = .ok _ := rfl
  have hread := run_of_named .quiet hload hparse ofName_plainSettings hnamed hmade
  refine ⟨by decide +kernel, ?_, hread⟩
  rw [show t = _ from run_of_answer hparse hresult]
  rfl

end CommandLine

end ChainRisk
