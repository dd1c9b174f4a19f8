set_option autoImplicit false

namespace BuildHeader.Yaml

structure Scalar where
  tag? : Option (List Char) := none
  plain : Bool := true
  text : List Char := []
  deriving DecidableEq, Repr

inductive Node where
  | scalar (content : Scalar)
  | sequence (items : List Node)
  | mapping (fields : List (Node × Node))
  | alias (anchor : Nat)

namespace Node

mutual

def same : Node → Node → Bool
  | .scalar content, .scalar content' => content == content'
  | .sequence items, .sequence items' => sameItems items items'
  | .mapping fields, .mapping fields' => sameFields fields fields'
  | .alias anchor, .alias anchor' => anchor == anchor'
  | _, _ => false

def sameItems : List Node → List Node → Bool
  | [], [] => true
  | item :: items, item' :: items' => same item item' && sameItems items items'
  | _, _ => false

def sameFields : List (Node × Node) → List (Node × Node) → Bool
  | [], [] => true
  | (name, value) :: fields, (name', value') :: fields' =>
    same name name' && same value value' && sameFields fields fields'
  | _, _ => false

end

mutual

theorem same_iff : ∀ node node' : Node, same node node' = true ↔ node = node'
  | .scalar _, node' => by cases node' <;> simp [same]
  | .sequence items, node' => by cases node' <;> simp [same, sameItems_iff items]
  | .mapping fields, node' => by cases node' <;> simp [same, sameFields_iff fields]
  | .alias _, node' => by cases node' <;> simp [same]

theorem sameItems_iff : ∀ items items' : List Node, sameItems items items' = true ↔ items = items'
  | [], items' => by cases items' <;> simp [sameItems]
  | item :: items, items' => by
    cases items' <;> simp [sameItems, same_iff item, sameItems_iff items]

theorem sameFields_iff :
    ∀ fields fields' : List (Node × Node), sameFields fields fields' = true ↔ fields = fields'
  | [], fields' => by cases fields' <;> simp [sameFields]
  | (name, value) :: fields, fields' => by
    cases fields' <;>
      simp [sameFields, same_iff name, same_iff value, sameFields_iff fields, Prod.ext_iff]

end

instance : DecidableEq Node := fun node node' => decidable_of_iff _ (same_iff node node')

end Node

/-- A node that aliases can name. Of several nodes of one number the one begun last is meant. -/
structure Anchored where
  number : Nat
  start : Nat
  node : Node
  deriving DecidableEq

structure Document where
  /-- Nothing at all stands in an empty document. -/
  root? : Option Node
  anchored : List Anchored := []
  deriving DecidableEq

namespace Document

def lastBegun (number : Nat) : List Anchored → Option Anchored
  | [] => none
  | a :: rest =>
    match lastBegun number rest with
    | some b => if a.number = number ∧ b.start < a.start then some a else some b
    | none => if a.number = number then some a else none

def resolve (d : Document) : Node → Option Node
  | .alias number => (lastBegun number d.anchored).map Anchored.node
  | node => some node

end Document

inductive Fault where
  | control (c : Char)
  | strayCharacter (c : Char)
  | directive
  | tag
  | anchorName
  | escape
  | unterminated
  | documentMarker
  | blockHeader
  | tabInIndentation
  | flowColon
  | missingColon
  | entryNotAllowed
  | keyNotAllowed
  | valueNotAllowed
  | unexpectedToken
  | unknownAnchor (name : String)
  | unknownTagHandle (handle : String)
  | severalDocuments
  | shape
  deriving DecidableEq, Repr

def Fault.message : Fault → String
  | .control _ => "control characters are not allowed"
  | .strayCharacter c => "'" ++ c.toString ++ "' cannot start any token"
  | .directive => "malformed directive"
  | .tag => "malformed tag"
  | .anchorName => "malformed anchor name"
  | .escape => "malformed escape in a quoted scalar"
  | .unterminated => "the document ends inside a quoted scalar"
  | .documentMarker => "document marker inside a quoted scalar"
  | .blockHeader => "malformed header of a block scalar"
  | .tabInIndentation => "tab where an indentation space is expected"
  | .flowColon => "unexpected ':' in a plain scalar"
  | .missingColon => "could not find expected ':'"
  | .entryNotAllowed => "block sequence entries are not allowed here"
  | .keyNotAllowed => "mapping keys are not allowed here"
  | .valueNotAllowed => "mapping values are not allowed here"
  | .unexpectedToken => "did not find the expected token"
  | .unknownAnchor name => "unknown anchor " ++ name
  | .unknownTagHandle handle => "undefined tag handle " ++ handle
  | .severalDocuments => "more than one document"
  | .shape => "a value has the wrong type"

def isAllowed (c : Char) : Bool :=
  let n := c.toNat
  n == 0x9 || n == 0xA || n == 0xD || (0x20 ≤ n && n ≤ 0x7E) || n == 0x85 ||
    (0xA0 ≤ n && n ≤ 0xD7FF) || (0xE000 ≤ n && n ≤ 0xFFFD) || 0x10000 ≤ n

def nextLine : Char := '\u0085'
def lineSeparator : Char := '\u2028'
def paragraphSeparator : Char := '\u2029'
def byteOrderMark : Char := '\uFEFF'

def isBreak (c : Char) : Bool :=
  c == '\n' || c == '\r' || c == nextLine || c == lineSeparator || c == paragraphSeparator

def isBlank (c : Char) : Bool := c == ' ' || c == '\t'

def isSpace (c : Char) : Bool := isBlank c || isBreak c

def isNameChar (c : Char) : Bool := c.isAlphanum || c == '_' || c == '-'

def startsSpace : List Char → Bool
  | [] => true
  | c :: _ => isSpace c

def startsBreak : List Char → Bool
  | [] => true
  | c :: _ => isBreak c

def byteCount (text : List Char) : Nat := text.foldl (fun count c => count + c.utf8Size) 0

structure Cursor where
  rest : List Char
  index : Nat := 0
  line : Nat := 0
  column : Nat := 0

namespace Cursor

def advance (c : Cursor) (n : Nat) : Cursor :=
  { c with
    rest := c.rest.drop n
    index := c.index + byteCount (c.rest.take n)
    column := c.column + n }

def takeWhile (c : Cursor) (p : Char → Bool) : List Char × Cursor :=
  let run := c.rest.takeWhile p
  (run, c.advance run.length)

def skipWhile (c : Cursor) (p : Char → Bool) : Cursor := (c.takeWhile p).2

def newLine (c : Cursor) (n : Nat) : Cursor :=
  { rest := c.rest.drop n
    index := c.index + byteCount (c.rest.take n)
    line := c.line + 1
    column := 0 }

/-- A line break at the cursor: what it counts for, and the cursor on the next line. -/
def takeBreak? (c : Cursor) : Option (Char × Cursor) :=
  match c.rest with
  | '\r' :: '\n' :: _ => some ('\n', c.newLine 2)
  | first :: _ =>
    if first == lineSeparator || first == paragraphSeparator then some (first, c.newLine 1)
    else if isBreak first then some ('\n', c.newLine 1)
    else none
  | [] => none

def skipBreak (c : Cursor) : Cursor := (c.takeBreak?.map Prod.snd).getD c

def skipComment (c : Cursor) : Cursor :=
  if c.rest.head? = some '#' then c.skipWhile (!isBreak ·) else c

def isAtMarker (c : Cursor) (mark : Char) : Bool :=
  c.column == 0 && c.rest.take 3 == [mark, mark, mark] && startsSpace (c.rest.drop 3)

def isAtDocumentMarker (c : Cursor) : Bool := c.isAtMarker '-' || c.isAtMarker '.'

end Cursor

end BuildHeader.Yaml
