import BuildHeader.Log.Event
import BuildHeader.Pattern
import BuildHeader.Text.Basic

/-!
Filters: directives between commas, of which the most specific one decides about an event. A
directive is `level`, `target` or `target=level`, and before the level a scope may stand in
brackets. A target is the beginning of the names of some sources.
-/

set_option autoImplicit false

namespace BuildHeader.Log

/-- How many levels are shown, the most severe first: none at all for `0`. -/
abbrev Threshold := Nat

def everyLevel : Threshold := Level.trace.rank

def threshold? (word : List Char) : Option Threshold :=
  match Text.natural? word with
  | some number => if number ≤ everyLevel then some number else none
  | none =>
    match String.ofList (word.map Char.toLower) with
    | "off" => some 0
    | "error" => some Level.error.rank
    | "warn" => some Level.warn.rank
    | "info" => some Level.info.rank
    | "debug" => some Level.debug.rank
    | "trace" => some Level.trace.rank
    | _ => none

inductive Scope where
  | anywhere
  | withField (name : List Char)
  /-- A span around it, which no event of the tool has. -/
  | inSpan
  deriving DecidableEq, Repr

structure Directive where
  target? : Option (List Char) := none
  scope : Scope := .anywhere
  threshold : Threshold := everyLevel
  deriving DecidableEq, Repr

namespace Directive

inductive Fault where
  | malformed
  | level
  | field (fault : Pattern.Fault)
  /-- A part of the directive begins or ends inside of a character, which nothing survives. -/
  | torn
  deriving DecidableEq, Repr

def Fault.message : Fault → String
  | .malformed => "invalid filter directive"
  | .level => "error parsing level filter: expected one of \"off\", \"error\", \"warn\", " ++
      "\"info\", \"debug\", \"trace\", or a number 0-5"
  | .field fault => "invalid field filter: " ++ fault.message
  | .torn => "byte index is not a char boundary"

def startsWord (c : Char) : Bool := Text.isAlphanumeric c || "-:_".toList.contains c

/-- A word alone is a level or, failing that, a target of which every level is shown. -/
def ofWord (word : List Char) : Directive :=
  match threshold? word with
  | some threshold => { threshold }
  | none => { target? := some word }

def withLevel (d : Directive) (word : List Char) : Except Fault Directive :=
  if word.isEmpty then .ok d
  else
    match threshold? word with
    | some threshold => .ok { d with threshold }
    | none => .error .level

/-- A field with a value, a number or a pattern, is only ever looked for in spans. -/
def fieldScope (field : List Char) : Except Fault Scope :=
  match field.splitOn '=' with
  | _ :: value :: _ =>
    if Text.isFloat value then .ok .inSpan
    else ((Pattern.check value).mapError .field).map fun () => .inSpan
  | _ => .ok (.withField field)

/-
A directive is divided without the blanks around it, but its parts are taken out of the text with
the blanks, at the offsets that they have in the text without. So `text` is the text with the
blanks, `start` an offset, and `rest` what is still to be divided. With blanks in front the offsets
may fall inside of a character.
-/

def size (chars : List Char) : Nat := (String.ofList chars).utf8ByteSize

def part (text : String) (start stop : Nat) : Except Fault (List Char) :=
  match Text.slice? text start stop with
  | some part => .ok part.toList
  | none => .error .torn

def ofTail (d : Directive) (text : String) (start : Nat) : List Char → Except Fault Directive
  | [] => .ok d
  | '=' :: _ => do d.withLevel (← part text (start + 1) text.utf8ByteSize)
  | _ => .error .malformed

def ofField (target? : Option (List Char)) (span : List Char) (text : String) (start : Nat)
    (rest : List Char) : Except Fault Directive :=
  let field := rest.takeWhile (· != '\x7d')
  let stop := start + size field
  match rest.drop field.length with
  | [] => .error .malformed
  | _ :: rest => do
    let field ← part text start stop
    if field.isEmpty then throw .malformed
    let scope ← fieldScope field
    match rest with
    | ']' :: rest =>
      ofTail { target?, scope := if span.isEmpty then scope else .inSpan } text (stop + 2) rest
    | _ => throw .malformed

def ofScope (target? : Option (List Char)) (text : String) (start : Nat)
    (rest : List Char) : Except Fault Directive :=
  let span := rest.takeWhile fun c => c != ']' && c != '\x7b'
  let stop := start + size span
  match rest.drop span.length with
  | ']' :: rest => do
    let _ ← part text start stop
    ofTail { target?, scope := .inSpan } text (stop + 1) rest
  | '\x7b' :: rest => do ofField target? (← part text start stop) text (stop + 1) rest
  | _ => .error .malformed

def ofText (text : String) : Except Fault Directive :=
  match Text.trim text.toList with
  | [] => .error .malformed
  | '[' :: rest => ofScope none text 1 rest
  | first :: rest =>
    let target := first :: rest.takeWhile fun c => c != '=' && c != '['
    let stop := size target
    if !startsWord first then .error .malformed
    else
      match (first :: rest).drop target.length with
      | [] => .ok (ofWord text.toList)
      | '[' :: rest => do ofScope (some (← part text 0 stop)) text (stop + 1) rest
      | _ => do
        let target ← part text 0 stop
        withLevel { target? := some target } (← part text (stop + 1) text.utf8ByteSize)

def speaksOf (d : Directive) (event : Event) : Bool :=
  (d.target?.all fun target => target.isPrefixOf event.source.name.toList) &&
    match d.scope with
    | .anywhere => true
    | .withField name => name == Event.field.toList
    | .inSpan => false

/-- A longer target is more specific, a scope less so, and no target the least. -/
def specificity (d : Directive) : Nat :=
  let scope := if d.scope = .anywhere then 0 else 1
  2 * (d.target?.map fun target => target.length + 1).getD 0 + scope

end Directive

structure Filter where
  directives : List Directive
  deriving DecidableEq, Repr

structure Ignored where
  text : String
  fault : Directive.Fault
  deriving DecidableEq, Repr

def Ignored.line (i : Ignored) : String :=
  "ignoring `" ++ i.text ++ "`: " ++ i.fault.message

namespace Filter

def moreSpecific (earlier? : Option Directive) (later : Directive) : Option Directive :=
  match earlier? with
  | none => some later
  | some earlier =>
    if later.specificity < earlier.specificity then some earlier else some later

def deciding? (f : Filter) (event : Event) : Option Directive :=
  (f.directives.filter (·.speaksOf event)).foldl moreSpecific none

def shows (f : Filter) (event : Event) : Bool :=
  (f.deciding? event).any fun d => decide (event.level.rank ≤ d.threshold)

def errors : Filter := ⟨[{ threshold := Level.error.rank }]⟩

def ofDirectives (directives : List Directive) : Filter :=
  if directives.isEmpty then errors else ⟨directives⟩

def upTo (threshold : Threshold) : Filter := ⟨[{ threshold }]⟩

theorem shows_upTo (threshold : Threshold) (event : Event) :
    (upTo threshold).shows event = decide (event.level.rank ≤ threshold) := rfl

end Filter

structure FilterReading where
  filter : Filter
  ignored : List Ignored := []
  isTorn : Bool := false
  deriving DecidableEq, Repr

structure Gathered where
  directives : List Directive := []
  ignored : List Ignored := []
  isTorn : Bool := false

def gather : List String → Gathered
  | [] => {}
  | text :: rest =>
    match Directive.ofText text with
    | .ok directive =>
      let gathered := gather rest
      { gathered with directives := directive :: gathered.directives }
    | .error .torn => { isTorn := true }
    | .error fault =>
      let gathered := gather rest
      { gathered with ignored := ⟨text, fault⟩ :: gathered.ignored }

namespace FilterReading

def ofText (text : String) : FilterReading :=
  let gathered := gather (((text.toList.splitOn ',').map String.ofList).filter (!·.isEmpty))
  ⟨.ofDirectives gathered.directives, gathered.ignored, gathered.isTorn⟩

def isFaultless (r : FilterReading) : Bool := r.ignored.isEmpty

end FilterReading

structure Settings where
  colored : Bool
  reading : FilterReading
  deriving DecidableEq, Repr

def Settings.lines (s : Settings) (time : String) (events : List Event) : List String :=
  s.reading.ignored.map Ignored.line ++
    (events.filter s.reading.filter.shows).map fun event => event.line s.colored time

end BuildHeader.Log
