import Mathlib.Data.List.Forall2
import ChainRisk.Proofs.UsableSettings
import ChainRisk.Proofs.VisibleText

namespace ChainRisk

namespace Environment

variable {α : Type} {env env' : Environment} {name : String}

def raw? (env : Environment) (name : String) : Option String :=
  (env name).filter fun v => !(Text.trim v).isEmpty

def set (env : Environment) (name : String) (value : Option String) : Environment :=
  fun n => if n = name then value else env n

theorem given?_eq_map (env : Environment) (name : String) : env.given? name = (env.raw? name).map Text.trim := by
  unfold given? raw?
  cases env name with
  | none => rfl
  | some v =>
    rw [Option.map_some, Option.filter_some, Option.filter_some]
    split <;> rfl

theorem given?_congr (h : env.raw? name = env'.raw? name) : env.given? name = env'.given? name := by
  rw [given?_eq_map, given?_eq_map, h]

theorem agree_of_raw? (h : env.raw? name = env'.raw? name) :
    (env.given? name = none ∧ env'.given? name = none) ∨ env name = env' name := by
  cases hraw : env'.raw? name with
  | none =>
    rw [hraw] at h
    exact .inl ⟨by rw [given?_eq_map, h]; rfl, by rw [given?_eq_map, hraw]; rfl⟩
  | some v =>
    rw [hraw] at h
    exact .inr ((Option.filter_eq_some_iff.1 h).1.trans (Option.filter_eq_some_iff.1 hraw).1.symm)

theorem integer_congr (h : env.raw? name = env'.raw? name) (default least : Int) :
    env.integer name default least = env'.integer name default least := by
  rcases agree_of_raw? h with ⟨hnone, hnone'⟩ | hsame
  · rw [integer, integer, hnone, hnone']
  · rw [integer, integer, given?, given?, hsame]

theorem seconds_congr (h : env.raw? name = env'.raw? name) (default : Duration) (least : Binary64) :
    env.seconds name default least = env'.seconds name default least := by
  rcases agree_of_raw? h with ⟨hnone, hnone'⟩ | hsame
  · rw [seconds, seconds, hnone, hnone']
  · rw [seconds, seconds, given?, given?, hsame]

theorem endpoints_congr (hurl : env.raw? "RPC_URL" = env'.raw? "RPC_URL")
    (hkey : env.raw? "RPC_API_KEY" = env'.raw? "RPC_API_KEY") : env.endpoints = env'.endpoints := by
  rw [endpoints, endpoints, given?_congr hurl, given?_congr hkey]

theorem explorerKey_congr (h : env.raw? "ETHERSCAN_API_KEY" = env'.raw? "ETHERSCAN_API_KEY") :
    env.explorerKey = env'.explorerKey := by
  rw [explorerKey, explorerKey, given?_congr h]

theorem logLevel_congr (h : env.raw? "LOG_LEVEL" = env'.raw? "LOG_LEVEL") : env.logLevel = env'.logLevel := by
  rw [logLevel, logLevel, given?_congr h]

theorem raw?_set_of_ne {other : String} (h : other ≠ name) (value : Option String) :
    (env.set name value).raw? other = env.raw? other := by
  rw [raw?, raw?, set, if_neg h]

theorem raw?_set_blank {value : String} (h : Text.trim value = "") (env : Environment) (name other : String) :
    (env.set name (some value)).raw? other = (env.set name none).raw? other := by
  by_cases hother : other = name
  · rw [raw?, raw?, set, set, if_pos hother, if_pos hother]
    simp [h]
  · rw [raw?_set_of_ne hother, raw?_set_of_ne hother]

theorem Checked.lines_eq_nil_iff {x : Checked α} : Checked.lines x = [] ↔ ∃ a, x = .ok a := by
  cases x with
  | ok a => simp [Checked.lines]
  | error l => simp [Checked.lines]

structure Tells (name line : String) : Prop where
  lead : (name ++ ": ").toList <+: line.toList
  visible : Text.Visible line.toList

inductive Judged (name : String) (acceptable : Prop) : List String → Prop
  | accepted (h : acceptable) : Judged name acceptable []
  | refused {line : String} (h : ¬ acceptable) (hline : Tells name line) : Judged name acceptable [line]

def WholeFrom (env : Environment) (name : String) (least : Int) : Prop :=
  ∀ s, env.given? name = some s → ∃ n, Numeral.integer 10 s = .ok n ∧ least ≤ n

def NumberFrom (env : Environment) (name : String) (least : Binary64) : Prop :=
  ∀ s, env.given? name = some s → ∃ x, Numeral.number? s = some x ∧ x.lt least = false

theorem Tells.append {line rest : String} (h : Tells name line) (hrest : Text.Visible rest.toList) :
    Tells name (line ++ rest) where
  lead := by
    have hline : line.toList <+: (line ++ rest).toList := by
      rw [String.toList_append]
      exact List.prefix_append _ _
    exact h.lead.trans hline
  visible := by
    rw [String.toList_append]
    exact h.visible.append hrest

theorem tells_of_name {after : String} (hname : Text.Visible name.toList)
    (hlead : ": ".toList <+: after.toList) (hafter : after.toList.all Text.isPlain = true) :
    Tells name (name ++ after) where
  lead := by
    rw [String.toList_append, String.toList_append]
    exact (List.prefix_append_right_inj _).2 hlead
  visible := by
    rw [String.toList_append]
    exact hname.append (Text.visible_of_plain hafter)

theorem tells_unread {after : String} (hname : Text.Visible name.toList) (hlead : ": ".toList <+: after.toList)
    (hafter : after.toList.all Text.isPlain = true) (given : String) :
    Tells name (name ++ after ++ Text.quoted given ++ ")") :=
  ((tells_of_name hname hlead hafter).append (Text.visible_quoted given)).append
    (Text.visible_of_plain (by decide +kernel))

theorem tells_below {least got : String} (hname : Text.Visible name.toList) (hleast : Text.Visible least.toList)
    (hgot : Text.Visible got.toList) : Tells name (name ++ ": must be >= " ++ least ++ " (got " ++ got ++ ")") :=
  ((((tells_of_name hname (by decide +kernel) (by decide +kernel)).append hleast).append
    (Text.visible_of_plain (by decide +kernel))).append hgot).append (Text.visible_of_plain (by decide +kernel))

theorem judged_integer (hname : Text.Visible name.toList) (default least : Int) :
    Judged name (env.WholeFrom name least) (Checked.lines (env.integer name default least)) := by
  unfold integer WholeFrom
  cases hs : env.given? name with
  | none => exact .accepted nofun
  | some s =>
    cases hn : Numeral.integer 10 s with
    | error r =>
      simp only [hn]
      refine .refused (fun h => ?_) (tells_unread hname (by decide +kernel) (by decide +kernel) _)
      obtain ⟨n, hn', -⟩ := h s rfl
      cases hn.symm.trans hn'
    | ok n =>
      by_cases hlt : n < least
      · simp only [hn, if_pos hlt]
        refine .refused (fun h => ?_) (tells_below hname (Numeral.visible_ofInt _) (Numeral.visible_ofInt _))
        obtain ⟨m, hm, hle⟩ := h s rfl
        cases hn.symm.trans hm
        exact Int.not_le.2 hlt hle
      · simp only [hn, if_neg hlt]
        refine .accepted fun s' hs' => ?_
        cases hs'
        exact ⟨n, hn, Int.not_lt.1 hlt⟩

theorem judged_seconds (hname : Text.Visible name.toList) (default : Duration) (least : Binary64) :
    Judged name (env.NumberFrom name least) (Checked.lines (env.seconds name default least)) := by
  unfold seconds NumberFrom
  cases hs : env.given? name with
  | none => exact .accepted nofun
  | some s =>
    cases hx : Numeral.number? s with
    | none =>
      simp only [hx]
      refine .refused (fun h => ?_) (tells_unread hname (by decide +kernel) (by decide +kernel) _)
      obtain ⟨x, hx', -⟩ := h s rfl
      cases hx.symm.trans hx'
    | some x =>
      cases hlt : x.lt least with
      | true =>
        simp only [hx, hlt, if_true]
        refine .refused (fun h => ?_) (tells_below hname (Binary64.visible_text _) (Binary64.visible_text _))
        obtain ⟨y, hy, hle⟩ := h s rfl
        cases hx.symm.trans hy
        cases hlt.symm.trans hle
      | false =>
        simp only [hx, hlt, Bool.false_eq_true, if_false]
        refine .accepted fun s' hs' => ?_
        cases hs'
        exact ⟨x, hx, hlt⟩

theorem tells_fixed {line : String} (hlead : (name ++ ": ").toList <+: line.toList)
    (hline : line.toList.all Text.isPlain = true) : Tells name line :=
  ⟨hlead, Text.visible_of_plain hline⟩

theorem judged_endpoints : Judged "RPC_URL" (env.given? "RPC_URL" ≠ none ∨ env.given? "RPC_API_KEY" ≠ none)
    (Checked.lines env.endpoints) := by
  unfold endpoints
  cases hurl : env.given? "RPC_URL" with
  | some url => exact .accepted (.inl nofun)
  | none =>
    cases hkey : env.given? "RPC_API_KEY" with
    | some key => exact .accepted (.inr nofun)
    | none => exact .refused (by simp) (tells_fixed (by decide +kernel) (by decide +kernel))

theorem judged_explorerKey : Judged "ETHERSCAN_API_KEY" (env.given? "ETHERSCAN_API_KEY" ≠ none)
    (Checked.lines env.explorerKey) := by
  unfold explorerKey
  cases hkey : env.given? "ETHERSCAN_API_KEY" with
  | some key => exact .accepted nofun
  | none => exact .refused (by simp) (tells_fixed (by decide +kernel) (by decide +kernel))

theorem judged_logLevel :
    Judged "LOG_LEVEL" (∀ s, env.given? "LOG_LEVEL" = some s → Text.upper s ∈ logLevels)
      (Checked.lines env.logLevel) := by
  have hdefault : Text.upper defaultLogLevel ∈ logLevels := by decide +kernel
  have hiff : (∀ s, env.given? "LOG_LEVEL" = some s → Text.upper s ∈ logLevels) ↔
      Text.upper ((env.given? "LOG_LEVEL").getD defaultLogLevel) ∈ logLevels := by
    cases env.given? "LOG_LEVEL" with
    | none => simp [hdefault]
    | some s => simp
  unfold logLevel
  simp only
  rw [hiff]
  split
  · next h => exact .accepted h
  · next h =>
    exact .refused h (Tells.append (tells_fixed (by decide +kernel) (by decide +kernel)) (Text.visible_quoted _))

end Environment

namespace Settings

open Environment

inductive Setting
  | endpoint
  | explorerKey
  | chainId
  | maxTokens
  | scanRange
  | batchSize
  | batchDelay
  | requestTimeout
  | analysisTimeout
  | logLevel
  deriving DecidableEq

namespace Setting

def all : List Setting := [endpoint, explorerKey, chainId, maxTokens, scanRange, batchSize, batchDelay,
  requestTimeout, analysisTimeout, logLevel]

def name : Setting → String
  | endpoint => "RPC_URL"
  | explorerKey => "ETHERSCAN_API_KEY"
  | chainId => "CHAIN_ID"
  | maxTokens => "MAX_ALLOWANCE_CHECK"
  | scanRange => "BLOCK_SCAN_RANGE"
  | batchSize => "BATCH_SIZE"
  | batchDelay => "BATCH_DELAY_SECONDS"
  | requestTimeout => "REQUEST_TIMEOUT"
  | analysisTimeout => "ANALYSIS_TIMEOUT"
  | logLevel => "LOG_LEVEL"

/-- The variables that a setting is judged by: an endpoint may be named in two ways. -/
def sources : Setting → List String
  | endpoint => ["RPC_URL", "RPC_API_KEY"]
  | x => [x.name]

def Acceptable (env : Environment) : Setting → Prop
  | endpoint => env.given? "RPC_URL" ≠ none ∨ env.given? "RPC_API_KEY" ≠ none
  | explorerKey => env.given? "ETHERSCAN_API_KEY" ≠ none
  | chainId => env.WholeFrom "CHAIN_ID" 1
  | maxTokens => env.WholeFrom "MAX_ALLOWANCE_CHECK" 1
  | scanRange => env.WholeFrom "BLOCK_SCAN_RANGE" 0
  | batchSize => env.WholeFrom "BATCH_SIZE" 1
  | batchDelay => env.NumberFrom "BATCH_DELAY_SECONDS" .zero
  | requestTimeout => env.NumberFrom "REQUEST_TIMEOUT" leastTimeout
  | analysisTimeout => env.NumberFrom "ANALYSIS_TIMEOUT" leastTimeout
  | logLevel => ∀ s, env.given? "LOG_LEVEL" = some s → Text.upper s ∈ logLevels

def lines (env : Environment) : Setting → List String
  | endpoint => Checked.lines env.endpoints
  | explorerKey => Checked.lines env.explorerKey
  | chainId => Checked.lines env.chainId
  | maxTokens => Checked.lines env.maxTokens
  | scanRange => Checked.lines env.scanRange
  | batchSize => Checked.lines env.batchSize
  | batchDelay => Checked.lines env.batchDelay
  | requestTimeout => Checked.lines env.requestTimeout
  | analysisTimeout => Checked.lines env.analysisTimeout
  | logLevel => Checked.lines env.logLevel

variable {env env' : Environment}

theorem visible_name (x : Setting) : Text.Visible x.name.toList := by
  cases x <;> exact Text.visible_of_plain (by decide +kernel)

theorem judged (env : Environment) (x : Setting) : Judged x.name (x.Acceptable env) (x.lines env) := by
  cases x with
  | endpoint => exact judged_endpoints
  | explorerKey => exact judged_explorerKey
  | chainId => exact judged_integer chainId.visible_name _ _
  | maxTokens => exact judged_integer maxTokens.visible_name _ _
  | scanRange => exact judged_integer scanRange.visible_name _ _
  | batchSize => exact judged_integer batchSize.visible_name _ _
  | batchDelay => exact judged_seconds batchDelay.visible_name _ _
  | requestTimeout => exact judged_seconds requestTimeout.visible_name _ _
  | analysisTimeout => exact judged_seconds analysisTimeout.visible_name _ _
  | logLevel => exact judged_logLevel

theorem lines_congr {x : Setting} (h : ∀ name ∈ x.sources, env.raw? name = env'.raw? name) :
    x.lines env = x.lines env' := by
  cases x with
  | endpoint => exact congrArg Checked.lines (endpoints_congr (h _ (by decide)) (h _ (by decide)))
  | explorerKey => exact congrArg Checked.lines (explorerKey_congr (h _ List.mem_cons_self))
  | chainId => exact congrArg Checked.lines (integer_congr (h _ List.mem_cons_self) _ _)
  | maxTokens => exact congrArg Checked.lines (integer_congr (h _ List.mem_cons_self) _ _)
  | scanRange => exact congrArg Checked.lines (integer_congr (h _ List.mem_cons_self) _ _)
  | batchSize => exact congrArg Checked.lines (integer_congr (h _ List.mem_cons_self) _ _)
  | batchDelay => exact congrArg Checked.lines (seconds_congr (h _ List.mem_cons_self) _ _)
  | requestTimeout => exact congrArg Checked.lines (seconds_congr (h _ List.mem_cons_self) _ _)
  | analysisTimeout => exact congrArg Checked.lines (seconds_congr (h _ List.mem_cons_self) _ _)
  | logLevel => exact congrArg Checked.lines (logLevel_congr (h _ List.mem_cons_self))

theorem refusals_eq (env : Environment) : env.refusals = all.flatMap (lines env) := by
  simp [refusals, all, lines]

theorem lines_eq_nil_iff {x : Setting} : x.lines env = [] ↔ x.Acceptable env := by
  have hjudged := x.judged env
  generalize x.lines env = ls at hjudged ⊢
  cases hjudged with
  | accepted h => exact iff_of_true rfl h
  | refused h hline => exact iff_of_false (List.cons_ne_nil _ _) h

instance (env : Environment) (x : Setting) : Decidable (x.Acceptable env) :=
  decidable_of_iff (x.lines env = []) lines_eq_nil_iff

theorem forall₂_tells (env : Environment) (xs : List Setting) :
    List.Forall₂ (fun x => Tells x.name) (xs.filter fun x => ¬ x.Acceptable env)
      (xs.flatMap (lines env)) := by
  induction xs with
  | nil => exact .nil
  | cons x xs ih =>
    have hjudged := x.judged env
    rw [List.flatMap_cons]
    generalize x.lines env = ls at hjudged ⊢
    cases hjudged with
    | accepted h =>
      rw [List.filter_cons_of_neg (by simpa using h)]
      exact ih
    | refused h hline =>
      rw [List.filter_cons_of_pos (by simpa using h)]
      exact .cons hline ih

theorem mem_all (x : Setting) : x ∈ all := by
  cases x <;> decide

theorem nodup_all : all.Nodup := by decide

theorem eq_of_lead {x y : Setting} (h : (x.name ++ ": ").toList <+: (y.name ++ ": ").toList) : y = x := by
  have hall : ∀ x ∈ all, ∀ y ∈ all, (x.name ++ ": ").toList <+: (y.name ++ ": ").toList → y = x := by
    decide +kernel
  exact hall x x.mem_all y y.mem_all h

def names (x : Setting) (line : String) : Bool := (x.name ++ ": ").toList.isPrefixOf line.toList

theorem names_iff {x y : Setting} {line : String} (h : Tells y.name line) : x.names line = true ↔ y = x := by
  rw [names, List.isPrefixOf_iff_prefix]
  constructor
  · intro hx
    -- of two beginnings of one line the one begins the other
    rcases List.prefix_or_prefix_of_prefix hx h.lead with hxy | hyx
    · exact eq_of_lead hxy
    · exact (eq_of_lead hyx).symm
  · rintro rfl
    exact h.lead

theorem filter_names_lines (x y : Setting) :
    (y.lines env).filter x.names = if y = x then y.lines env else [] := by
  have hjudged := y.judged env
  generalize y.lines env = ls at hjudged ⊢
  cases hjudged with
  | accepted h => simp
  | refused h hline =>
    by_cases hy : y = x
    · simp [hy, (names_iff hline).2 hy]
    · simp [hy, mt (names_iff hline).1 hy]

theorem filter_names_refusals (env : Environment) (x : Setting) : env.refusals.filter x.names = x.lines env := by
  -- the lines of the settings before and after `x` name none but these
  obtain ⟨before, after, hall⟩ := List.append_of_mem x.mem_all
  have hnodup := nodup_all
  rw [hall, List.perm_middle.nodup_iff, List.nodup_cons, List.mem_append, not_or] at hnodup
  have hother {xs : List Setting} (hx : x ∉ xs) : (xs.flatMap (lines env)).filter x.names = [] := by
    rw [List.filter_flatMap, List.flatMap_eq_nil_iff]
    intro y hy
    rw [filter_names_lines, if_neg fun h : y = x => hx (h ▸ hy)]
  rw [refusals_eq, hall, List.flatMap_append, List.flatMap_cons, List.filter_append, List.filter_append,
    hother hnodup.1.1, hother hnodup.1.2, filter_names_lines, if_pos rfl, List.nil_append, List.append_nil]

end Setting

variable {env : Environment} {s : Settings}

theorem named_of_load (h : load env = .ok s) : env.endpoints = .ok (s.rpcUrl, s.rpcKey) ∧
    env.explorerKey = .ok s.explorerKey ∧ env.logLevel = .ok s.logLevel := by
  obtain ⟨⟨url, key⟩, hendpoints, h⟩ := Checked.bind_eq_ok_iff.1 (collect_of_load h)
  obtain ⟨_, hkey, h⟩ := Checked.bind_eq_ok_iff.1 h
  obtain ⟨_, -, h⟩ := Checked.bind_eq_ok_iff.1 h
  obtain ⟨_, -, h⟩ := Checked.bind_eq_ok_iff.1 h
  obtain ⟨_, -, h⟩ := Checked.bind_eq_ok_iff.1 h
  obtain ⟨_, -, h⟩ := Checked.bind_eq_ok_iff.1 h
  obtain ⟨_, -, h⟩ := Checked.bind_eq_ok_iff.1 h
  obtain ⟨_, -, h⟩ := Checked.bind_eq_ok_iff.1 h
  obtain ⟨_, -, h⟩ := Checked.bind_eq_ok_iff.1 h
  obtain ⟨_, hlevel, h⟩ := Checked.bind_eq_ok_iff.1 h
  cases h
  exact ⟨hendpoints, hkey, hlevel⟩

theorem exists_load_iff : (∃ s, load env = .ok s) ↔ ∀ x, Setting.lines env x = [] := by
  constructor
  · rintro ⟨s, h⟩
    have hdrawn := drawnFrom_of_load h
    obtain ⟨hendpoints, hkey, hlevel⟩ := named_of_load h
    intro x
    cases x with
    | endpoint => exact Checked.lines_eq_nil_iff.2 ⟨_, hendpoints⟩
    | explorerKey => exact Checked.lines_eq_nil_iff.2 ⟨_, hkey⟩
    | chainId => exact Checked.lines_eq_nil_iff.2 ⟨_, hdrawn.chainId⟩
    | maxTokens => exact Checked.lines_eq_nil_iff.2 ⟨_, hdrawn.maxTokens⟩
    | scanRange => exact Checked.lines_eq_nil_iff.2 ⟨_, hdrawn.scanRange⟩
    | batchSize => exact Checked.lines_eq_nil_iff.2 ⟨_, hdrawn.batchSize⟩
    | batchDelay => exact Checked.lines_eq_nil_iff.2 ⟨_, hdrawn.batchDelay⟩
    | requestTimeout => exact Checked.lines_eq_nil_iff.2 ⟨_, hdrawn.requestTimeout⟩
    | analysisTimeout => exact Checked.lines_eq_nil_iff.2 ⟨_, hdrawn.analysisTimeout⟩
    | logLevel => exact Checked.lines_eq_nil_iff.2 ⟨_, hlevel⟩
  · intro h
    obtain ⟨⟨url, key⟩, hendpoints⟩ := Checked.lines_eq_nil_iff.1 (h .endpoint)
    obtain ⟨_, hkey⟩ := Checked.lines_eq_nil_iff.1 (h .explorerKey)
    obtain ⟨_, hchain⟩ := Checked.lines_eq_nil_iff.1 (h .chainId)
    obtain ⟨_, htokens⟩ := Checked.lines_eq_nil_iff.1 (h .maxTokens)
    obtain ⟨_, hrange⟩ := Checked.lines_eq_nil_iff.1 (h .scanRange)
    obtain ⟨_, hsize⟩ := Checked.lines_eq_nil_iff.1 (h .batchSize)
    obtain ⟨_, hdelay⟩ := Checked.lines_eq_nil_iff.1 (h .batchDelay)
    obtain ⟨_, hrequest⟩ := Checked.lines_eq_nil_iff.1 (h .requestTimeout)
    obtain ⟨_, hanalysis⟩ := Checked.lines_eq_nil_iff.1 (h .analysisTimeout)
    obtain ⟨_, hlevel⟩ := Checked.lines_eq_nil_iff.1 (h .logLevel)
    rw [load, collect, hendpoints, hkey, hchain, htokens, hrange, hsize, hdelay, hrequest, hanalysis, hlevel]
    exact ⟨_, rfl⟩

theorem refusals_eq_nil_iff : env.refusals = [] ↔ ∀ x, Setting.lines env x = [] := by
  rw [Setting.refusals_eq, List.flatMap_eq_nil_iff]
  exact ⟨fun h x => h x x.mem_all, fun h x _ => h x⟩

theorem load_eq_error {e : Failure} (h : load env = .error e) :
    e = .configuration (.invalid env.refusals) ∧ env.refusals ≠ [] := by
  have hrefusals : env.refusals ≠ [] := by
    rw [ne_eq, refusals_eq_nil_iff, ← exists_load_iff]
    rintro ⟨s, hs⟩
    cases h.symm.trans hs
  rw [load] at h
  split at h
  · cases h
  · cases h
    exact ⟨rfl, hrefusals⟩

def header : String := "EVM Secure configuration validation failed:"

def told (env : Environment) : List String :=
  match load env with
  | .ok _ => []
  | .error e => (Text.lines e.message).tail

theorem lines_message (hne : env.refusals ≠ []) :
    Text.lines (Failure.configuration (.invalid env.refusals)).message = header :: env.refusals := by
  have hunbroken : ∀ line ∈ env.refusals, Text.Unbroken line := by
    intro line hline
    rw [Setting.refusals_eq] at hline
    obtain ⟨x, -, hx⟩ := List.mem_flatMap.1 hline
    have hjudged := x.judged env
    generalize x.lines env = ls at hjudged hx
    cases hjudged with
    | accepted => cases hx
    | refused _ htells =>
      rw [List.mem_singleton.1 hx]
      exact Text.unbroken_of_visible htells.visible
  have hheader : Text.Unbroken header := Text.unbroken_of_visible (Text.visible_of_plain (by decide +kernel))
  change Text.lines (header ++ "\n" ++ "\n".intercalate env.refusals) = _
  rw [Text.lines_append_break, Text.lines_joined hne, Text.lines_of_unbroken hheader,
    Text.flatMap_lines_of_unbroken hunbroken]
  rfl

theorem told_eq_refusals (env : Environment) : told env = env.refusals := by
  unfold told
  cases h : load env with
  | ok s => exact (refusals_eq_nil_iff.2 (exists_load_iff.1 ⟨s, h⟩)).symm
  | error e =>
    obtain ⟨rfl, hne⟩ := load_eq_error h
    simp only
    rw [lines_message hne, List.tail_cons]

theorem loaded_congr {env' : Environment} (h : ∀ name, env.raw? name = env'.raw? name) :
    load env = load env' ∧ logged env = logged env' := by
  have hrefusals : env.refusals = env'.refusals := by
    rw [Setting.refusals_eq, Setting.refusals_eq]
    exact List.flatMap_congr fun x _ => Setting.lines_congr fun name _ => h name
  have hcollect : collect env = collect env' := by
    simp only [collect, endpoints_congr (h _) (h _), explorerKey_congr (h _), logLevel_congr (h _),
      given?_congr (h _), Environment.chainId, Environment.maxTokens, Environment.scanRange,
      Environment.batchSize, Environment.batchDelay, Environment.requestTimeout, Environment.analysisTimeout,
      integer_congr (h _), seconds_congr (h _)]
  rw [load, load, logged, logged, hcollect, hrefusals]
  exact ⟨rfl, rfl⟩

theorem load_told_by_setting (env : Environment) :
    ((∃ s, load env = .ok s) ↔ ∀ x : Setting, x.Acceptable env) ∧
    (∀ e, load env = .error e → e.isIn .configuration = true ∧
      ∃ lines, Text.lines e.message = header :: lines ∧
        List.Forall₂ (fun x => Tells x.name) (Setting.all.filter fun x => ¬ x.Acceptable env) lines) ∧
    (∀ x : Setting, ∀ env' : Environment, (∀ name ∈ x.sources, env' name = env name) →
      (told env').filter x.names = (told env).filter x.names) ∧
    ∀ name value, Text.trim value = "" → load (env.set name (some value)) = load (env.set name none) ∧
      logged (env.set name (some value)) = logged (env.set name none) := by
  refine ⟨?_, fun e he => ?_, fun x env' hsame => ?_, fun name value hblank => ?_⟩
  · rw [exists_load_iff]
    exact forall_congr' fun x => Setting.lines_eq_nil_iff
  · obtain ⟨rfl, hne⟩ := load_eq_error he
    refine ⟨rfl, env.refusals, lines_message hne, ?_⟩
    rw [Setting.refusals_eq]
    exact Setting.forall₂_tells env Setting.all
  · rw [told_eq_refusals, told_eq_refusals, Setting.filter_names_refusals, Setting.filter_names_refusals]
    exact Setting.lines_congr fun name hname => by rw [raw?, raw?, hsame name hname]
  · exact loaded_congr (raw?_set_blank hblank env name)

def brokenEnvironment : Environment := leastEnvironment [("CHAIN_ID", "one\nLOG_LEVEL: two"), ("BATCH_SIZE", "0")]

theorem load_told_by_setting_brokenEnvironment :
    (∃ e lines, load brokenEnvironment = .error e ∧ Text.lines e.message = header :: lines ∧
      List.Forall₂ (fun x : Setting => Tells x.name) [.chainId, .batchSize] lines) ∧
    (told (brokenEnvironment.set "CHAIN_ID" none)).filter Setting.batchSize.names =
      (told brokenEnvironment).filter Setting.batchSize.names ∧
    Text.trim " \t" = "" ∧
    load (brokenEnvironment.set "CHAIN_ID" (some " \t")) = load (brokenEnvironment.set "CHAIN_ID" none) := by
  obtain ⟨hload, hlines, hsame, hblank⟩ := load_told_by_setting brokenEnvironment
  have hrefused : ¬ Setting.chainId.Acceptable brokenEnvironment := by decide +kernel
  have hfilter : (Setting.all.filter fun x => ¬ x.Acceptable brokenEnvironment) = [.chainId, .batchSize] := by
    decide +kernel
  refine ⟨?_, hsame .batchSize _ ?_, ?_, (hblank "CHAIN_ID" " \t" ?_).1⟩
  · cases he : load brokenEnvironment with
    | ok s => exact absurd (hload.1 ⟨s, he⟩ .chainId) hrefused
    | error e =>
      obtain ⟨-, lines, hmessage, htells⟩ := hlines e he
      exact ⟨e, lines, rfl, hmessage, hfilter ▸ htells⟩
  · decide +kernel
  · decide +kernel
  · decide +kernel

end Settings

end ChainRisk
