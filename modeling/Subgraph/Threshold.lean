import Subgraph.Event

namespace Subgraph

/-- The least level of the events that are shown, under the names that may be configured. -/
inductive Threshold where
  | critical | fatal | error | warn | warning | info | debug | notset
  deriving DecidableEq, Repr

namespace Threshold

def name : Threshold → String
  | critical => "CRITICAL"
  | fatal => "FATAL"
  | error => "ERROR"
  | warn => "WARN"
  | warning => "WARNING"
  | info => "INFO"
  | debug => "DEBUG"
  | notset => "NOTSET"

def all : List Threshold :=
  [critical, fatal, error, warn, warning, info, debug, notset]

def ofName? (text : String) : Option Threshold :=
  all.find? (·.name == text)

/-- The level that a name stands for. A threshold that is not set leaves warnings and worse. -/
def level : Threshold → Level
  | critical | fatal => .critical
  | error => .error
  | warn | warning | notset => .warning
  | info => .info
  | debug => .debug

def shows (threshold : Threshold) (event : Event) : Bool :=
  threshold.level.severity ≤ event.level.severity

end Threshold

end Subgraph
