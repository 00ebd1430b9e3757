import ChainRisk.Chain.Scenario
import ChainRisk.CommandLine.Run
import ChainRisk.Json.Reading

/-!
The program. The outside world is a script: it is read from standard input, an object with the script
under `world` and the time of day at the start under `now`.
-/

namespace ChainRisk

def variableNames : List String := [
  "RPC_URL", "RPC_API_KEY", "SEPOLIA_RPC_URL", "ETHERSCAN_API_KEY", "CHAIN_ID",
  "MAX_ALLOWANCE_CHECK", "BLOCK_SCAN_RANGE", "BATCH_SIZE", "BATCH_DELAY_SECONDS",
  "REQUEST_TIMEOUT", "ANALYSIS_TIMEOUT", "LOG_LEVEL"]

def readEnvironment : IO Environment := do
  let given ← variableNames.filterMapM fun name => do
    return (← IO.getEnv name).map fun value => (name, value)
  return fun name => given.lookup name

def scriptOf (text : String) : Script :=
  let v := (Json.decode? text).getD (.obj [])
  Script.ofJson (Script.seconds ((v.field? "now").getD .null)) ((v.field? "world").getD (.obj []))

end ChainRisk

open ChainRisk in
def main (words : List String) : IO UInt32 := do
  let text ← (← IO.getStdin).readToEnd
  let t := CommandLine.run (scriptOf text) (← readEnvironment) words
  (← IO.getStdout).putStr t.output
  (← IO.getStderr).putStr t.errors
  return UInt32.ofNat t.status
