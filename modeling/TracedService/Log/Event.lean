import TracedService.Number.Binary64

/-! A log event: level, the module that speaks, a message, and named fields. -/

namespace TracedService.Log

inductive Level where
  | trace
  | debug
  | info
  | warn
  | error
  deriving DecidableEq, Repr

namespace Level

def rank : Level → Nat
  | error => 1
  | warn => 2
  | info => 3
  | debug => 4
  | trace => 5

def label : Level → String
  | trace => "TRACE"
  | debug => "DEBUG"
  | info => "INFO"
  | warn => "WARN"
  | error => "ERROR"

def name : Level → String
  | trace => "trace"
  | debug => "debug"
  | info => "info"
  | warn => "warn"
  | error => "error"

def all : List Level :=
  [trace, debug, info, warn, error]

end Level

/-- A field's value. `quoted` text is written between quotes in the pretty form only. -/
inductive Value where
  | text (s : String)
  | quoted (s : String)
  | number (x : Binary64)
  | flag (b : Bool)
  deriving DecidableEq, Repr

structure Event where
  level : Level
  target : String
  message : String
  fields : List (String × Value) := []
  deriving DecidableEq, Repr

end TracedService.Log
