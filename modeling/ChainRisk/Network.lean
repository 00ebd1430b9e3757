import ChainRisk.Failure
import ChainRisk.Text.Case
import ChainRisk.Text.Search

namespace ChainRisk

structure Network where
  name : String
  chainId : Json
  rpcUrl : Option String
  explorerUrl : String
  explorerKey : String
  testnet : Bool

namespace Network

def chainNames : List (Int × String) := [
  (1, "Ethereum Mainnet"),
  (5, "Goerli Testnet"),
  (11155111, "Sepolia Testnet"),
  (137, "Polygon Mainnet"),
  (80001, "Polygon Mumbai"),
  (42161, "Arbitrum One"),
  (10, "Optimism"),
  (56, "BNB Smart Chain"),
  (43114, "Avalanche C-Chain")]

def chainName (id : Json) : String :=
  (id.whole?.bind fun n => chainNames.lookup n).getD ("Unknown Network (" ++ id.shown ++ ")")

def displayName (n : Network) : String := chainName n.chainId

def chainNameOf : Json → Attempt String
  | .arr _ => .error (.mismatch .wrongType)
  | .obj _ => .error (.mismatch .wrongType)
  | id => .ok (chainName id)

def endpoint? (n : Network) : Option String := n.rpcUrl.filter (!·.isEmpty)

def mainName : String := "ethereum"

def testName : String := "sepolia"

def testChainId : Int := 11155111

def explorerUrls : List (String × String) := [
  (mainName, "https://api.etherscan.io/api"),
  (testName, "https://api-sepolia.etherscan.io/api")]

def endpointStems : List (String × String) := [
  (mainName, "https://eth-mainnet.g.alchemy.com/v2/"),
  (testName, "https://eth-sepolia.g.alchemy.com/v2/")]

def keyedEndpoint (name : String) (key : Option String) : Option String :=
  key.bind fun k => (endpointStems.lookup name).map (· ++ k)

end Network

structure NetworkTable where
  main : Network
  test : Network

namespace NetworkTable

def toList (t : NetworkTable) : List Network := [t.main, t.test]

def find? (t : NetworkTable) (name : String) : Option Network :=
  t.toList.find? (·.name == name)

def withEndpoint (n : Network) : Attempt Network :=
  if n.endpoint?.isSome then .ok n else .error (.configuration (.noEndpoint n.name))

def ofText (t : NetworkTable) (text : Option String) : Attempt Network :=
  if Text.contains Network.testName (Text.lower (text.getD "")) then withEndpoint t.test
  else withEndpoint t.main

def ofName (t : NetworkTable) (name : String) : Attempt Network :=
  match t.find? (Text.lower name) with
  | some n => withEndpoint n
  | none => .error (.configuration (.unknownNetwork name [Network.mainName, Network.testName]))

end NetworkTable

end ChainRisk
