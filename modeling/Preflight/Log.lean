/-!
Log lines: a level, the topic that a line belongs to, and its text.
-/

namespace Preflight.Log

inductive Level where
  | debug
  | info
  | warn
  deriving DecidableEq, Repr

def Level.name : Level → String
  | .debug => "DEBUG"
  | .info => "INFO"
  | .warn => "WARN"

structure Entry where
  level : Level
  topic : String
  message : String
  deriving DecidableEq, Repr

namespace Entry

def levelColumn : Level → String
  | .debug => "DEBUG"
  | .info => "INFO "
  | .warn => "WARN "

-- a message, in which every line but the first is indented
def indented (message : String) : String :=
  String.ofList <| message.toList.flatMap fun c =>
    if c = '\n' then "\n    ".toList else [c]

def text (e : Entry) : String := s!"[{levelColumn e.level} {e.topic}] {indented e.message}"

end Entry

/-! ## Topics -/

def mainTopic : String := "pop_tx"

def callTopic : String := "pop_tx::contract"

def finalizationTopic : String := "pop_tx::finalization"

def statusTopic : String := "pop_tx::ink::status"

def sendTopic : String := "pop_tx::commands::send"

end Preflight.Log
