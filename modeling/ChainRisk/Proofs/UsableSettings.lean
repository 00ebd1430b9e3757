import ChainRisk.Proofs.Clients
import ChainRisk.Settings

namespace ChainRisk

def Binary64.Reaches (x least : Binary64) : Prop := ∃ s u, x = finite s u ∧ x.lt least = false

namespace Environment

variable {α β : Type} {env : Environment} {name : String}

/-- A variable is given as a number without a finite value. -/
def Boundless (env : Environment) (name : String) : Prop :=
  ∃ s x, env.given? name = some s ∧ Numeral.number? s = some x ∧ ∀ t u, x ≠ .finite t u

theorem Checked.bind_eq_ok_iff {x : Checked α} {f : α → Checked β} {b : β} :
    x >>= f = .ok b ↔ ∃ a, x = .ok a ∧ f a = .ok b := by
  cases x with
  | ok a =>
    change f a = .ok b ↔ _
    simp
  | error l =>
    change (Except.error l : Checked β) = .ok b ↔ _
    simp

theorem le_of_integer {default least n : Int} (hd : least ≤ default)
    (h : env.integer name default least = .ok n) : least ≤ n := by
  rw [integer] at h
  split at h
  · cases h
    exact hd
  · split at h
    · cases h
    · split at h
      · cases h
      · next hlt =>
        cases h
        exact Int.not_lt.1 hlt

theorem seconds_eq_ok {default d : Duration} {least : Binary64}
    (h : env.seconds name default least = .ok d) :
    (env.given? name = none ∧ d = default) ∨
      ∃ s x, env.given? name = some s ∧ Numeral.number? s = some x ∧ x.lt least = false ∧
        d = .fractional x := by
  rw [seconds] at h
  split at h
  · next hn =>
    cases h
    exact .inl ⟨hn, rfl⟩
  · next s hs =>
    split at h
    · cases h
    · next x hx =>
      split at h
      · cases h
      · next hlt =>
        cases h
        exact .inr ⟨s, x, hs, hx, Bool.eq_false_iff.2 hlt, rfl⟩

theorem not_boundless_of_none (h : env.given? name = none) : ¬ env.Boundless name := by
  rintro ⟨s, x, hs, -⟩
  cases h.symm.trans hs

theorem not_boundless_iff {s : String} {x : Binary64} (hs : env.given? name = some s)
    (hx : Numeral.number? s = some x) : ¬ env.Boundless name ↔ ∃ t u, x = .finite t u := by
  constructor
  · intro h
    refine Classical.byContradiction fun hno => h ?_
    exact ⟨s, x, hs, hx, fun t u hfinite => hno ⟨t, u, hfinite⟩⟩
  · rintro ⟨t, u, rfl⟩ ⟨s', x', hs', hx', hno⟩
    cases hs.symm.trans hs'
    cases hx.symm.trans hx'
    exact hno t u rfl

theorem reaches_of_seconds {default d : Duration} {least : Binary64}
    (hd : default.seconds.Reaches least) (h : env.seconds name default least = .ok d) :
    d.seconds.Reaches least ↔ ¬ env.Boundless name := by
  rcases seconds_eq_ok h with ⟨hn, rfl⟩ | ⟨s, x, hs, hx, hlt, rfl⟩
  · exact iff_of_true hd (not_boundless_of_none hn)
  · rw [not_boundless_iff hs hx]
    constructor
    · rintro ⟨t, u, hfinite, -⟩
      exact ⟨t, u, hfinite⟩
    · rintro ⟨t, u, hfinite⟩
      exact ⟨t, u, hfinite, hlt⟩

end Environment

namespace Settings

open Environment

structure DrawnFrom (env : Environment) (s : Settings) : Prop where
  chainId : env.chainId = .ok s.chainId
  maxTokens : env.maxTokens = .ok s.maxTokens
  scanRange : env.scanRange = .ok s.scanRange
  batchSize : env.batchSize = .ok s.batchSize
  batchDelay : env.batchDelay = .ok s.batchDelay
  requestTimeout : env.requestTimeout = .ok s.requestTimeout
  analysisTimeout : env.analysisTimeout = .ok s.analysisTimeout

variable {env : Environment} {s : Settings}

theorem collect_of_load (h : load env = .ok s) : collect env = .ok s := by
  rw [load] at h
  split at h
  · next hc =>
    cases h
    exact hc
  · cases h

theorem drawnFrom_of_load (h : load env = .ok s) : DrawnFrom env s := by
  obtain ⟨⟨url, key⟩, -, h⟩ := Checked.bind_eq_ok_iff.1 (collect_of_load h)
  obtain ⟨_, -, h⟩ := Checked.bind_eq_ok_iff.1 h
  obtain ⟨_, hchain, h⟩ := Checked.bind_eq_ok_iff.1 h
  obtain ⟨_, htokens, h⟩ := Checked.bind_eq_ok_iff.1 h
  obtain ⟨_, hrange, h⟩ := Checked.bind_eq_ok_iff.1 h
  obtain ⟨_, hsize, h⟩ := Checked.bind_eq_ok_iff.1 h
  obtain ⟨_, hdelay, h⟩ := Checked.bind_eq_ok_iff.1 h
  obtain ⟨_, hrequest, h⟩ := Checked.bind_eq_ok_iff.1 h
  obtain ⟨_, hanalysis, h⟩ := Checked.bind_eq_ok_iff.1 h
  obtain ⟨_, -, h⟩ := Checked.bind_eq_ok_iff.1 h
  cases h
  exact ⟨hchain, htokens, hrange, hsize, hdelay, hrequest, hanalysis⟩

theorem reaches_defaultBatchDelay : (Duration.fractional defaultBatchDelay).seconds.Reaches .zero :=
  ⟨false, Binary64.one, by decide +kernel, by decide +kernel⟩

theorem reaches_defaultRequestTimeout : (Duration.whole defaultRequestTimeout).seconds.Reaches leastTimeout :=
  ⟨false, 30 * Binary64.one, by decide +kernel, by decide +kernel⟩

theorem reaches_defaultAnalysisTimeout : (Duration.whole defaultAnalysisTimeout).seconds.Reaches leastTimeout :=
  ⟨false, 120 * Binary64.one, by decide +kernel, by decide +kernel⟩

theorem ofInt_one : Binary64.ofInt 1 = .finite false Binary64.one := by decide +kernel

theorem wholeSeconds_eq_ok_iff {x : Binary64} (h : x.lt leastTimeout = false) :
    (∃ n, (Duration.fractional x).wholeSeconds = .ok n) ↔ ∃ t u, x = .finite t u := by
  unfold Duration.wholeSeconds
  rw [ofInt_one]
  cases x with
  | finite t u =>
    refine iff_of_true ?_ ⟨t, u, rfl⟩
    simp only
    split
    · exact ⟨1, rfl⟩
    · exact ⟨_, rfl⟩
  | infinite t =>
    cases t with
    | false => exact iff_of_false (fun ⟨_, h⟩ => by cases h) (fun ⟨_, _, h⟩ => by cases h)
    | true => exact absurd h (by decide +kernel)
  | nan => exact iff_of_false (fun ⟨_, h⟩ => by cases h) (fun ⟨_, _, h⟩ => by cases h)

theorem wholeSeconds_of_requestTimeout {d : Duration} (h : env.requestTimeout = .ok d) :
    (∃ n, d.wholeSeconds = .ok n) ↔ ¬ env.Boundless "REQUEST_TIMEOUT" := by
  rcases seconds_eq_ok h with ⟨hn, rfl⟩ | ⟨s, x, hs, hx, hlt, rfl⟩
  · exact iff_of_true ⟨_, rfl⟩ (not_boundless_of_none hn)
  · rw [not_boundless_iff hs hx, wholeSeconds_eq_ok_iff hlt]

theorem connect_eq_ok_iff {n : Network} (h : n.endpoint?.isSome) (timeout : Duration) (lent : Bool) :
    (∃ made, Client.connect n timeout lent = .ok made) ↔ ∃ t, timeout.wholeSeconds = .ok t := by
  obtain ⟨url, hurl⟩ := Option.isSome_iff_exists.1 h
  rw [Client.connect, hurl]
  cases timeout.wholeSeconds with
  | ok t => exact iff_of_true ⟨_, rfl⟩ ⟨t, rfl⟩
  | error e => exact iff_of_false (fun ⟨_, h⟩ => by cases h) (fun ⟨_, h⟩ => by cases h)

theorem load_usable (h : load env = .ok s) :
    (1 ≤ s.chainId ∧ 1 ≤ s.maxTokens ∧ 1 ≤ s.batchSize ∧ 0 ≤ s.scanRange) ∧
    (s.batchDelay.seconds.Reaches .zero ↔ ¬ env.Boundless "BATCH_DELAY_SECONDS") ∧
    (s.requestTimeout.seconds.Reaches leastTimeout ↔ ¬ env.Boundless "REQUEST_TIMEOUT") ∧
    (s.analysisTimeout.seconds.Reaches leastTimeout ↔ ¬ env.Boundless "ANALYSIS_TIMEOUT") ∧
    ∀ n ∈ s.networks.toList, n.endpoint?.isSome → ∀ w trace,
      ((∃ i, (Pool.get n w (.empty s.networks s.requestTimeout trace)).1.result = .ok i) ↔
        ¬ env.Boundless "REQUEST_TIMEOUT") := by
  have hd := drawnFrom_of_load h
  refine ⟨⟨le_of_integer (by decide) hd.chainId, le_of_integer (by decide) hd.maxTokens,
    le_of_integer (by decide) hd.batchSize, le_of_integer (by decide) hd.scanRange⟩,
    reaches_of_seconds reaches_defaultBatchDelay hd.batchDelay,
    reaches_of_seconds reaches_defaultRequestTimeout hd.requestTimeout,
    reaches_of_seconds reaches_defaultAnalysisTimeout hd.analysisTimeout, fun n _ hn w trace => ?_⟩
  · rw [← wholeSeconds_of_requestTimeout hd.requestTimeout, ← connect_eq_ok_iff hn s.requestTimeout false,
      Pool.get_result]
    change (∃ i, (Client.connect n s.requestTimeout false).map _ = .ok i) ↔ _
    cases Client.connect n s.requestTimeout false with
    | ok made => exact iff_of_true ⟨_, rfl⟩ ⟨made, rfl⟩
    | error e => exact iff_of_false (fun ⟨_, h⟩ => by cases h) (fun ⟨_, h⟩ => by cases h)

def plain (requestTimeout : Duration) : Settings where
  rpcUrl := some "http://node"
  explorerKey := "key"
  chainId := 1
  rpcKey := none
  testRpcUrl := none
  maxTokens := defaultMaxTokens
  scanRange := 0
  batchSize := defaultBatchSize
  batchDelay := .fractional defaultBatchDelay
  requestTimeout := requestTimeout
  analysisTimeout := .whole defaultAnalysisTimeout
  logLevel := "INFO"

def leastEnvironment (more : List (String × String)) : Environment := fun name =>
  (("RPC_URL", "http://node") :: ("ETHERSCAN_API_KEY", "key") :: more).lookup name

theorem load_leastEnvironment :
    load (leastEnvironment []) = .ok (plain (.whole defaultRequestTimeout)) := rfl

theorem load_usable_leastEnvironment :
    load (leastEnvironment []) = .ok (plain (.whole defaultRequestTimeout)) ∧
    let s := plain (.whole defaultRequestTimeout)
    s.requestTimeout.seconds.Reaches leastTimeout ∧
    ∃ i, (Pool.get s.networks.main (.since .start) (.empty s.networks s.requestTimeout [])).1.result =
      .ok i := by
  obtain ⟨-, -, hrequest, -, hget⟩ := load_usable load_leastEnvironment
  have hbound : ¬ (leastEnvironment []).Boundless "REQUEST_TIMEOUT" := not_boundless_of_none rfl
  exact ⟨load_leastEnvironment, hrequest.2 hbound,
    (hget _ List.mem_cons_self rfl (.since .start) []).2 hbound⟩

theorem load_nan : let env := leastEnvironment [("REQUEST_TIMEOUT", "nan")]
    load env = .ok (plain (.fractional .nan)) ∧
    let s := plain (.fractional .nan)
    ¬ s.requestTimeout.seconds.Reaches leastTimeout ∧ s.networks.main.endpoint? = some "http://node" ∧
    (Pool.get s.networks.main (.since .start) (.empty s.networks s.requestTimeout [])).1.result =
      .error .notWhole := by
  refine ⟨rfl, ?_, rfl, rfl⟩
  rintro ⟨t, u, h, -⟩
  cases h

end Settings

end ChainRisk
