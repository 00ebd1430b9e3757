import ChainRisk.Proofs.RefusedSettings

namespace ChainRisk

namespace Environment

variable {env env' : Environment}

def secretNames : List String := ["ETHERSCAN_API_KEY", "RPC_API_KEY", "SEPOLIA_RPC_URL"]

def publicPart (url : String) : List Char := url.toList.take 20

/-- Variables that are alike up to secrets, each of which is given in both or in neither. -/
structure DifferInSecrets (env env' : Environment) : Prop where
  others : ∀ name, name ∉ secretNames → name ≠ "RPC_URL" → env name = env' name
  secrets : ∀ name ∈ secretNames, env.given? name = none ↔ env'.given? name = none
  endpoint : (env.given? "RPC_URL").map publicPart = (env'.given? "RPC_URL").map publicPart

theorem raw?_of_differInSecrets (h : DifferInSecrets env env') {name : String} (hsecret : name ∉ secretNames)
    (hurl : name ≠ "RPC_URL") : env.raw? name = env'.raw? name := by
  rw [raw?, raw?, h.others name hsecret hurl]

theorem lines_endpoints :
    Checked.lines env.endpoints = if env.given? "RPC_URL" = none ∧ env.given? "RPC_API_KEY" = none then
      ["RPC_URL: RPC URL is required"] else [] := by
  unfold endpoints
  cases env.given? "RPC_URL" <;> cases env.given? "RPC_API_KEY" <;> simp [Checked.lines]

theorem lines_explorerKey :
    Checked.lines env.explorerKey = if env.given? "ETHERSCAN_API_KEY" = none then
      ["ETHERSCAN_API_KEY: Etherscan API key is required"] else [] := by
  unfold explorerKey
  cases env.given? "ETHERSCAN_API_KEY" <;> simp [Checked.lines]

theorem url_of_endpoints {url key : Option String} (h : env.endpoints = .ok (url, key)) :
    url = env.given? "RPC_URL" := by
  unfold endpoints at h
  split at h
  · cases h
  · cases h
    rfl

end Environment

namespace Settings

open Environment

variable {env env' : Environment} {s s' : Settings}

theorem lines_of_differInSecrets (h : DifferInSecrets env env') (x : Setting) : x.lines env = x.lines env' := by
  have hurl : env.given? "RPC_URL" = none ↔ env'.given? "RPC_URL" = none := by
    rw [← Option.map_eq_none_iff (f := publicPart), h.endpoint, Option.map_eq_none_iff]
  have hopen {x : Setting} (hsources : ∀ name ∈ x.sources, name ∉ secretNames ∧ name ≠ "RPC_URL") :
      x.lines env = x.lines env' :=
    Setting.lines_congr fun name hname =>
      raw?_of_differInSecrets h (hsources name hname).1 (hsources name hname).2
  cases x with
  | endpoint =>
    simp only [Setting.lines, lines_endpoints, hurl, h.secrets "RPC_API_KEY" (by decide)]
  | explorerKey => simp only [Setting.lines, lines_explorerKey, h.secrets "ETHERSCAN_API_KEY" (by decide)]
  | chainId => exact hopen (by decide)
  | maxTokens => exact hopen (by decide)
  | scanRange => exact hopen (by decide)
  | batchSize => exact hopen (by decide)
  | batchDelay => exact hopen (by decide)
  | requestTimeout => exact hopen (by decide)
  | analysisTimeout => exact hopen (by decide)
  | logLevel => exact hopen (by decide)

theorem refusals_of_differInSecrets (h : DifferInSecrets env env') : env.refusals = env'.refusals := by
  rw [Setting.refusals_eq, Setting.refusals_eq]
  exact List.flatMap_congr fun x _ => lines_of_differInSecrets h x

theorem loggedUrl_of_differInSecrets (h : DifferInSecrets env env') :
    loggedUrl (env.given? "RPC_URL") = loggedUrl (env'.given? "RPC_URL") := by
  have hpublic := h.endpoint
  cases hurl : env.given? "RPC_URL" with
  | none =>
    rw [hurl, Option.map_none, eq_comm, Option.map_eq_none_iff] at hpublic
    rw [hpublic]
  | some url =>
    rw [hurl, Option.map_some, eq_comm, Option.map_eq_some_iff] at hpublic
    obtain ⟨url', hurl', hsame⟩ := hpublic
    rw [hurl', loggedUrl, loggedUrl]
    exact congrArg (fun cs => String.ofList cs ++ "...") hsame.symm

theorem logged_of_load (h : load env = .ok s) (h' : load env' = .ok s') (hsecrets : DifferInSecrets env env') :
    logged env = logged env' := by
  have hdrawn := drawnFrom_of_load h
  have hdrawn' := drawnFrom_of_load h'
  have hsame {name : String} (hname : name ∉ secretNames ∧ name ≠ "RPC_URL") (default least : Int) :
      env.integer name default least = env'.integer name default least :=
    integer_congr (raw?_of_differInSecrets hsecrets hname.1 hname.2) default least
  have hchain : s.chainId = s'.chainId :=
    Except.ok.inj (hdrawn.chainId.symm.trans ((hsame (by decide) _ _).trans hdrawn'.chainId))
  have htokens : s.maxTokens = s'.maxTokens :=
    Except.ok.inj (hdrawn.maxTokens.symm.trans ((hsame (by decide) _ _).trans hdrawn'.maxTokens))
  have hrange : s.scanRange = s'.scanRange :=
    Except.ok.inj (hdrawn.scanRange.symm.trans ((hsame (by decide) _ _).trans hdrawn'.scanRange))
  have hurl : loggedUrl s.rpcUrl = loggedUrl s'.rpcUrl := by
    rw [url_of_endpoints (named_of_load h).1, url_of_endpoints (named_of_load h').1]
    exact loggedUrl_of_differInSecrets hsecrets
  rw [logged, logged, collect_of_load h, collect_of_load h']
  simp only
  rw [hurl, hchain, htokens, hrange]

theorem logged_of_error {e : Failure} (h : load env = .error e) :
    logged env = [(.error, "EVM Secure config error:\n" ++ "\n".intercalate env.refusals)] := by
  rw [load] at h
  rw [logged]
  cases hcollect : collect env with
  | ok s =>
    rw [hcollect] at h
    cases h
  | error l => rfl

theorem load_keeps_secrets (h : DifferInSecrets env env') :
    logged env = logged env' ∧
    ((∃ s s', load env = .ok s ∧ load env' = .ok s') ∨
      ∃ e, load env = .error e ∧ load env' = .error e ∧ e.isIn .configuration = true) := by
  -- the lines of the settings decide between success and refusal, and no secret has a part in them
  have hlines : (∃ s, load env = .ok s) ↔ ∃ s, load env' = .ok s := by
    rw [exists_load_iff, exists_load_iff]
    exact forall_congr' fun x => by rw [lines_of_differInSecrets h x]
  cases hload : load env with
  | ok s =>
    obtain ⟨s', hload'⟩ := hlines.1 ⟨s, hload⟩
    exact ⟨logged_of_load hload hload' h, .inl ⟨s, s', rfl, hload'⟩⟩
  | error e =>
    cases hload' : load env' with
    | ok s' =>
      obtain ⟨s, hs⟩ := hlines.2 ⟨s', hload'⟩
      cases hload.symm.trans hs
    | error e' =>
      obtain ⟨rfl, -⟩ := load_eq_error hload
      obtain ⟨rfl, -⟩ := load_eq_error hload'
      have hrefusals := refusals_of_differInSecrets h
      refine ⟨?_, .inr ⟨_, rfl, ?_, rfl⟩⟩
      · rw [logged_of_error hload, logged_of_error hload', hrefusals]
      · rw [hrefusals]

def keyedEnvironment (path key : String) : Environment := fun name =>
  [("RPC_URL", "https://mainnet.node" ++ path), ("ETHERSCAN_API_KEY", key)].lookup name

theorem differInSecrets_keyedEnvironment :
    DifferInSecrets (keyedEnvironment "/v3/5b1c" "first") (keyedEnvironment "/v3/90fe77" "second") where
  others name hsecret hurl := by
    have hkey : name ≠ "ETHERSCAN_API_KEY" := fun h => hsecret (by rw [h]; decide)
    simp [keyedEnvironment, List.lookup_cons, beq_eq_false_iff_ne.2 hurl, beq_eq_false_iff_ne.2 hkey]
  secrets := by decide +kernel
  endpoint := by decide +kernel

theorem load_keeps_secrets_keyedEnvironment :
    DifferInSecrets (keyedEnvironment "/v3/5b1c" "first") (keyedEnvironment "/v3/90fe77" "second") ∧
    logged (keyedEnvironment "/v3/5b1c" "first") = logged (keyedEnvironment "/v3/90fe77" "second") :=
  ⟨differInSecrets_keyedEnvironment, (load_keeps_secrets differInSecrets_keyedEnvironment).1⟩

end Settings

end ChainRisk
