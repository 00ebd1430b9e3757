import ChainRisk.Amount
import ChainRisk.Spender

namespace ChainRisk

structure TokenMetadata where
  address : Json
  symbol : Json
  name : Json
  decimals : Int

namespace TokenMetadata

def defaultDecimals : Int := 18

def unknownSymbol : String := "UNKNOWN"

def unknownName : String := "Unknown Token"

def unknown (address : Json) : TokenMetadata :=
  ⟨address, .str unknownSymbol, .str unknownName, defaultDecimals⟩

def toJson (m : TokenMetadata) : Json :=
  .obj [("address", m.address), ("symbol", m.symbol), ("name", m.name),
    ("decimals", .int m.decimals)]

end TokenMetadata

structure Allowance where
  token : Json
  spender : Json
  amount : String
  symbol : Json
  name : Json
  decimals : Json
  info : Spender

namespace Allowance

def checkAmount (amount : String) : Attempt Unit :=
  if Text.isDigits amount then
    match Numeral.integer 10 amount with
    | .ok n => if n = 0 then .error (.notPositive amount) else .ok ()
    | .error r => .error (.numeral r)
  else .error (.notPositive amount)

def make (token spender : Json) (amount : String) (symbol name decimals : Json) (info : Spender) :
    Attempt Allowance :=
  (checkAmount amount).map fun _ => ⟨token, spender, amount, symbol, name, decimals, info⟩

def toJson (a : Allowance) : Json :=
  .obj [
    ("token", a.token),
    ("spender", a.spender),
    ("amount", .str a.amount),
    ("symbol", a.symbol),
    ("name", a.name),
    ("decimals", a.decimals),
    ("spender_info", a.info.toJson)]

def places (a : Allowance) : Json :=
  match a.decimals with
  | .null => .int TokenMetadata.defaultDecimals
  | d => d

def amountText (room : Nat) (a : Allowance) : Attempt String := Amount.text room (.str a.amount) a.places

def reportLines (room : Nat) (a : Allowance) : Attempt (List String) := do
  let amount ← a.amountText room
  let known := a.info.isKnown
  pure (
    [(a.symbol.orElse (.str "Token")).shown ++ " (" ++
        (a.name.orElse (.str "Unknown")).shown ++ "):",
      "- Spender: " ++ (if known then a.info.name else a.spender).shown,
      "- Protocol: " ++ (if known then a.info.protocol.shown else Spender.unknownProtocol),
      "- Amount: " ++ amount] ++
    (if known then ["- Risk Level: " ++ a.info.risk.shown] else []) ++ [""])

end Allowance

structure AllowanceReport where
  address : Json
  allowances : List Allowance
  timestamp : Json
  chainId : Json

namespace AllowanceReport

def toJson (r : AllowanceReport) : Json :=
  .obj [
    ("address", r.address),
    ("allowances", .arr (r.allowances.map Allowance.toJson)),
    ("timestamp", r.timestamp),
    ("chain_id", r.chainId)]

def text (room : Nat) (r : AllowanceReport) : Attempt String :=
  if r.allowances.isEmpty then
    .ok ("No significant token allowances found for " ++ r.address.shown)
  else do
    let entries ← r.allowances.mapM (Allowance.reportLines room)
    pure ("\n".intercalate (
      ["Found " ++ Numeral.ofNat r.allowances.length ++ " token allowances for " ++
          r.address.shown ++ ":", ""] ++ entries.flatten) ++ "\n")

end AllowanceReport

end ChainRisk
