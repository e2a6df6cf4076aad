import Overlay.Event
import Overlay.Text.Blank
import Overlay.Text.Digit
import Overlay.Text.Identifier

/-!
# Filters of events

A filter is a list of directives between commas. A directive gives the least level of the events it
shows, and may ask for the start of their targets and for a field. For each event the most specific
directive counts. Directives that ask for a span show nothing, since events stand in no span.
-/

namespace Overlay.Command

/-- The least level of the events that are shown; none for no events at all. -/
abbrev Threshold := Option Level

namespace Threshold

def admits (t : Threshold) (l : Level) : Bool :=
  match t with
  | some least => least.rank ≤ l.rank
  | none => false

/-- Thresholds by their numbers. -/
def numbered : List Threshold :=
  [none, some .error, some .warn, some .info, some .debug, some .trace]

/-- The decimal number that a text is. -/
def number? (cs : List Char) : Option Nat :=
  let digits := match cs with
    | '+' :: rest => rest
    | _ => cs
  if digits.isEmpty then none else Text.valueOf? 10 digits

/-- The threshold of a name in any case. -/
def ofName? (s : String) : Option Threshold :=
  match s.toLower with
  | "off" => some none
  | "error" => some (some .error)
  | "warn" => some (some .warn)
  | "info" => some (some .info)
  | "debug" => some (some .debug)
  | "trace" => some (some .trace)
  | _ => none

/-- The threshold of a number or a name. -/
def ofText? (s : String) : Option Threshold :=
  match (number? s.toList).bind fun n => numbered[n]? with
  | some t => some t
  | none => ofName? s

/-- The threshold of a number or a name; all events if there is none. -/
def orAll? (s : String) : Option Threshold :=
  if s.isEmpty then some (some .trace) else ofText? s

end Threshold

/-- A field that a directive asks for. -/
structure FieldDemand where
  name : String
  /-- Whether it asks for a value too. -/
  hasValue : Bool

structure Directive where
  /-- How the target has to start. -/
  target : Option String
  /-- The span in which the event has to be. -/
  span : Option String
  fields : List FieldDemand
  threshold : Threshold

namespace Directive

/-- What a threshold alone says. -/
def ofThreshold (t : Threshold) : Directive := ⟨none, none, [], t⟩

/-! ## Reading -/

/-- What is being read, and where it started. -/
inductive Stage where
  | start
  | word (first : Nat)
  | span (first : Nat)
  | field (first : Nat)
  | fields
  | afterSpan
  | level (first : Nat)

/-- A stretch of a text. -/
def stretch (text : List Char) (first last : Nat) : String :=
  String.ofList ((text.drop first).take (last - first))

def demand (text : String) : FieldDemand :=
  ⟨String.ofList (text.toList.takeWhile (· != '=')), text.toList.contains '='⟩

/-- Whether a directive may start with a character. -/
def isOpening (c : Char) : Bool := c == '-' || c == ':' || Text.isContinue c

/-- Reads one character of a directive, at the place `i` of its text. -/
def step (text : List Char) (i : Nat) (c : Char) (d : Directive) :
    Stage → Option (Directive × Stage)
  | .start =>
    if c == '[' then some (d, .span (i + 1))
    else if isOpening c then some (d, .word i) else none
  | .word first =>
    if c == '=' then some ({ d with target := some (stretch text first i) }, .level (i + 1))
    else if c == '[' then some ({ d with target := some (stretch text first i) }, .span (i + 1))
    else some (d, .word first)
  | .span first =>
    let name := stretch text first i
    if c == ']' then some ({ d with span := some name }, .afterSpan)
    else if c == '\x7b' then
      some ({ d with span := if name.isEmpty then none else some name }, .field (i + 1))
    else some (d, .span first)
  | .field first =>
    let field := stretch text first i
    if c == '\x7d' then
      if field.isEmpty then none
      else some ({ d with fields := d.fields ++ [demand field] }, .fields)
    else some (d, .field first)
  | .fields => if c == ']' then some (d, .afterSpan) else none
  | .afterSpan => if c == '=' then some (d, .level (i + 1)) else none
  | .level first => some (d, .level first)

/-- Reads characters from the place `i` on. -/
def steps (text : List Char) :
    (i : Nat) → List Char → Directive → Stage → Option (Directive × Stage)
  | _, [], d, stage => some (d, stage)
  | i, c :: rest, d, stage => do
    let (d, stage) ← step text i c d stage
    steps text (i + 1) rest d stage

/-- The directive of a text. Blanks around it are not read, though they count in its stretches. -/
def read? (s : String) : Option Directive := do
  let text := s.toList
  let (d, stage) ← steps text 0 (Text.trimBlank text) (ofThreshold (some .trace)) .start
  match stage with
  | .word first =>
    let rest := String.ofList (text.drop first)
    match Threshold.ofText? rest with
    | some t => return { d with threshold := t }
    | none => return { d with target := some rest }
  | .level first =>
    let t ← Threshold.orAll? (String.ofList (text.drop first))
    return { d with threshold := t }
  | .afterSpan => return d
  | _ => none

/-! ## Choice -/

/-- Whether a directive can show events that stand in no span. -/
def isPlain (d : Directive) : Bool := d.span.isNone && !d.fields.any FieldDemand.hasValue

/-- Whether a directive is about an event. -/
def concerns (d : Directive) (e : Event) : Bool :=
  d.isPlain && (d.target.all fun t => t.toList.isPrefixOf e.target.toList)
    && d.fields.all fun f => e.fields.any fun (name, _) => name == f.name

/-- The length of the target, with none before all. -/
def targetSize (d : Directive) : Nat :=
  match d.target with
  | some t => t.utf8ByteSize + 1
  | none => 0

/-- Whether a directive is at least as specific as another one about the same event. -/
def isAsSpecific (d other : Directive) : Bool :=
  if d.targetSize != other.targetSize then other.targetSize < d.targetSize
  else if d.fields.length != other.fields.length then other.fields.length < d.fields.length
  else !(d.fields.map FieldDemand.name < other.fields.map FieldDemand.name)

end Directive

/-- The directives in the order in which they are given. -/
structure Filter where
  directives : List Directive

namespace Filter

def ofThreshold (t : Threshold) : Filter := ⟨[.ofThreshold t]⟩

/-- The texts between commas. -/
def parts (s : String) : List String := go [] s.toList
where
  go (held : List Char) : List Char → List String
    | [] => [String.ofList held.reverse]
    | ',' :: rest => String.ofList held.reverse :: go [] rest
    | c :: rest => go (c :: held) rest

/-- The filter of a text; without directives only errors are shown. -/
def read? (s : String) : Option Filter := do
  match ← ((parts s).filter fun p => !p.isEmpty).mapM Directive.read? with
  | [] => return ofThreshold (some .error)
  | directives => return ⟨directives⟩

/-- The directive that decides about an event: the most specific one, of equal ones the last. -/
def decisive? (f : Filter) (e : Event) : Option Directive :=
  (f.directives.filter fun d => d.concerns e).foldl (fun best d =>
    match best with
    | some b => if d.isAsSpecific b then some d else some b
    | none => some d) none

/-- Whether an event is shown. -/
def admits (f : Filter) (e : Event) : Bool :=
  match f.decisive? e with
  | some d => Threshold.admits d.threshold e.level
  | none => false

end Filter

end Overlay.Command
