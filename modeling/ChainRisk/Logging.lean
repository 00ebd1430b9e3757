import ChainRisk.Text.Case

namespace ChainRisk.Logging

inductive Level
  | number (n : Nat)
  | form (text : String)
  deriving DecidableEq, Repr

def basicForm : String := "%(levelname)s:%(name)s:%(message)s"

def known : List (String × Level) := [
  ("NOTSET", .number 0), ("DEBUG", .number 10), ("INFO", .number 20), ("WARNING", .number 30),
  ("WARN", .number 30), ("ERROR", .number 40), ("CRITICAL", .number 50), ("FATAL", .number 50),
  ("BASIC_FORMAT", .form basicForm)]

def defaultName : String := "INFO"

def default : Level := .number 20

def level (name : String) : Level := (known.lookup (Text.upper name)).getD default

end ChainRisk.Logging
