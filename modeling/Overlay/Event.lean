/-!
# Events

What the library reports while it works. An event has a level, the target by which filters select
it, a message, and named values that are already in their written form.
-/

namespace Overlay

/-- How much an event matters. -/
inductive Level where
  | trace
  | debug
  | info
  | warn
  | error
  deriving DecidableEq

namespace Level

def name : Level → String
  | trace => "TRACE"
  | debug => "DEBUG"
  | info => "INFO"
  | warn => "WARN"
  | error => "ERROR"

/-- More important levels have higher ranks. -/
def rank : Level → Nat
  | trace => 0
  | debug => 1
  | info => 2
  | warn => 3
  | error => 4

end Level

/-- Something that was done or found. -/
structure Event where
  level : Level
  target : String
  message : String
  fields : List (String × String)

namespace Event

/-- Message and values of an event. -/
def body (e : Event) : String :=
  e.message ++ String.join (e.fields.map fun (k, v) => " " ++ k ++ "=" ++ v)

/-- Level, message and values of an event. -/
def render (e : Event) : String := e.level.name ++ " " ++ e.body

end Event

end Overlay
