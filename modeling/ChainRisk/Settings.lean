import ChainRisk.Network
import ChainRisk.Text.Blank

namespace ChainRisk

abbrev Environment := String → Option String

structure Settings where
  rpcUrl : Option String
  explorerKey : String
  chainId : Int
  rpcKey : Option String
  testRpcUrl : Option String
  maxTokens : Int
  scanRange : Int
  batchSize : Int
  batchDelay : Duration
  requestTimeout : Duration
  analysisTimeout : Duration
  logLevel : String

inductive LogLevel
  | info
  | error
  deriving DecidableEq, Repr

def LogLevel.name : LogLevel → String
  | info => "INFO"
  | error => "ERROR"

namespace Settings

def defaultBatchSize : Int := 5
def defaultBatchDelay : Binary64 := .ofInt 1
def defaultMaxTokens : Int := 100
def defaultRequestTimeout : Nat := 30
def defaultAnalysisTimeout : Nat := 120
def leastTimeout : Binary64 := .ofDecimal false 1 (-3)

end Settings

namespace Environment

open Settings

/-- A variable without the blanks around it; a blank one is not given. -/
def given? (env : Environment) (name : String) : Option String :=
  ((env name).map Text.trim).filter (!·.isEmpty)

abbrev Checked (α : Type) := Except String α

def Checked.lines {α : Type} : Checked α → List String
  | .ok _ => []
  | .error l => [l]

def integer (env : Environment) (name : String) (default least : Int) : Checked Int :=
  match given? env name with
  | none => .ok default
  | some s =>
    match Numeral.integer 10 s with
    | .error _ =>
      .error (name ++ ": must be an integer (got " ++ Text.quoted ((env name).getD "") ++ ")")
    | .ok n =>
      if n < least then
        .error (name ++ ": must be >= " ++ Numeral.ofInt least ++ " (got " ++ Numeral.ofInt n ++ ")")
      else .ok n

def seconds (env : Environment) (name : String) (default : Duration) (least : Binary64) :
    Checked Duration :=
  match given? env name with
  | none => .ok default
  | some s =>
    match Numeral.number? s with
    | none => .error (name ++ ": must be a number (got " ++ Text.quoted ((env name).getD "") ++ ")")
    | some x =>
      if x.lt least then .error (name ++ ": must be >= " ++ least.text ++ " (got " ++ x.text ++ ")")
      else .ok (.fractional x)

def logLevels : List String := ["DEBUG", "INFO", "WARNING", "ERROR", "CRITICAL"]

def defaultLogLevel : String := "INFO"

def logLevel (env : Environment) : Checked String :=
  let level := Text.upper ((given? env "LOG_LEVEL").getD defaultLogLevel)
  if level ∈ logLevels then .ok level
  else .error ("LOG_LEVEL: unknown level " ++ Text.quoted level)

def endpoints (env : Environment) : Checked (Option String × Option String) :=
  match given? env "RPC_URL", given? env "RPC_API_KEY" with
  | none, none => .error "RPC_URL: RPC URL is required"
  | url, key => .ok (url, key)

def explorerKey (env : Environment) : Checked String :=
  match given? env "ETHERSCAN_API_KEY" with
  | some k => .ok k
  | none => .error "ETHERSCAN_API_KEY: Etherscan API key is required"

def chainId (env : Environment) : Checked Int := integer env "CHAIN_ID" 1 1

def maxTokens (env : Environment) : Checked Int :=
  integer env "MAX_ALLOWANCE_CHECK" defaultMaxTokens 1

def scanRange (env : Environment) : Checked Int := integer env "BLOCK_SCAN_RANGE" 0 0

def batchSize (env : Environment) : Checked Int := integer env "BATCH_SIZE" defaultBatchSize 1

def batchDelay (env : Environment) : Checked Duration :=
  seconds env "BATCH_DELAY_SECONDS" (.fractional defaultBatchDelay) .zero

def requestTimeout (env : Environment) : Checked Duration :=
  seconds env "REQUEST_TIMEOUT" (.whole defaultRequestTimeout) leastTimeout

def analysisTimeout (env : Environment) : Checked Duration :=
  seconds env "ANALYSIS_TIMEOUT" (.whole defaultAnalysisTimeout) leastTimeout

def refusals (env : Environment) : List String :=
  Checked.lines (endpoints env) ++ Checked.lines (explorerKey env) ++
  Checked.lines (chainId env) ++ Checked.lines (maxTokens env) ++
  Checked.lines (scanRange env) ++ Checked.lines (batchSize env) ++
  Checked.lines (batchDelay env) ++ Checked.lines (requestTimeout env) ++
  Checked.lines (analysisTimeout env) ++ Checked.lines (logLevel env)

end Environment

namespace Settings

def collect (env : Environment) : Environment.Checked Settings := do
  let (url, key) ← env.endpoints
  pure {
    rpcUrl := url
    explorerKey := ← env.explorerKey
    chainId := ← env.chainId
    rpcKey := key
    testRpcUrl := env.given? "SEPOLIA_RPC_URL"
    maxTokens := ← env.maxTokens
    scanRange := ← env.scanRange
    batchSize := ← env.batchSize
    batchDelay := ← env.batchDelay
    requestTimeout := ← env.requestTimeout
    analysisTimeout := ← env.analysisTimeout
    logLevel := ← env.logLevel }

def load (env : Environment) : Attempt Settings :=
  match collect env with
  | .ok s => .ok s
  | .error _ => .error (.configuration (.invalid env.refusals))

def loggedLength : Nat := 20

def loggedUrl : Option String → String
  | some u => String.ofList (u.toList.take loggedLength) ++ "..."
  | none => "(derived from RPC_API_KEY)"

def logged (env : Environment) : List (LogLevel × String) :=
  match collect env with
  | .ok s => [(.info,
      "EVM Secure config loaded: RPC_URL=" ++ loggedUrl s.rpcUrl ++
      ", CHAIN_ID=" ++ Numeral.ofInt s.chainId ++ " (" ++ Network.chainName (.int s.chainId) ++
      "), MAX_ALLOWANCE_CHECK=" ++ Numeral.ofInt s.maxTokens ++
      ", BLOCK_SCAN_RANGE=" ++ Numeral.ofInt s.scanRange)]
  | .error _ => [(.error, "EVM Secure config error:\n" ++ "\n".intercalate env.refusals)]

def explorerUrl (name : String) : String := (Network.explorerUrls.lookup name).getD ""

def networks (s : Settings) : NetworkTable where
  main := {
    name := Network.mainName
    chainId := .int s.chainId
    rpcUrl := s.rpcUrl <|> Network.keyedEndpoint Network.mainName s.rpcKey
    explorerUrl := explorerUrl Network.mainName
    explorerKey := s.explorerKey
    testnet := false }
  test := {
    name := Network.testName
    chainId := .int Network.testChainId
    rpcUrl := s.testRpcUrl <|> Network.keyedEndpoint Network.testName s.rpcKey
    explorerUrl := explorerUrl Network.testName
    explorerKey := s.explorerKey
    testnet := true }

end Settings

end ChainRisk
