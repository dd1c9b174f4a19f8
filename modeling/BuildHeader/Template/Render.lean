import BuildHeader.File.Tree
import BuildHeader.Mapping
import BuildHeader.Script
import BuildHeader.Text.Basic

/-!
Filling the placeholders of a template. A placeholder is a name between two delimiters. The
template is cut at every delimiter once and then read from left to right: a name with a value
takes both its delimiters with it, a name without one keeps the delimiter before it, and the
delimiter after it may open the next placeholder. Values are never read again.
-/

set_option autoImplicit false

namespace BuildHeader.Template

inductive Error where
  | notFound (path : String)
  | readFailed (path : String) (fault : File.Fault)
  | writeFailed (path : String) (fault : File.Fault)
  | missingValue (key : String)
  | invalidKey (key : String) (delimiter : Char)
  deriving DecidableEq, Repr

def Error.message : Error → String
  | .notFound path => "Template file not found: " ++ path
  | .readFailed path fault => "Failed to read template " ++ path ++ ": " ++ fault.message
  | .writeFailed path fault => "Failed to write output " ++ path ++ ": " ++ fault.message
  | .missingValue key => "Variable '" ++ key ++ "' has no value"
  | .invalidKey key delimiter =>
    "Invalid variable name '" ++ key ++ "': must be non-empty and must not contain '" ++
      delimiter.toString ++ "'"

def Error.cause? : Error → Option File.Fault
  | .readFailed _ fault => some fault
  | .writeFailed _ fault => some fault
  | _ => none

def defaultDelimiter : Char := '@'

inductive Piece where
  | text (chars : List Char)
  | filled (name value : List Char)
  | kept (name : List Char)
  | unclosed (chars : List Char)
  deriving DecidableEq, Repr

/-- The pieces of the segments that follow a delimiter. -/
def fill (value? : List Char → Option (List Char)) : List (List Char) → List Piece
  | [] => []
  | [chars] => [.unclosed chars]
  | name :: next :: rest =>
    match value? name with
    | some value => .filled name value :: .text next :: fill value? rest
    | none => .kept name :: fill value? (next :: rest)

def pieces (delimiter : Char) (value? : List Char → Option (List Char)) (template : List Char) :
    List Piece :=
  match template.splitOn delimiter with
  | [] => []
  | chars :: rest => .text chars :: fill value? rest

namespace Piece

def chars (delimiter : Char) : Piece → List Char
  | .text chars => chars
  | .filled _ value => value
  | .kept name => delimiter :: name
  | .unclosed chars => delimiter :: chars

def isFilled : Piece → Bool
  | .filled _ _ => true
  | _ => false

/-- Only a name that could have been meant as a variable is worth a report. -/
def unresolved? : Piece → Option (List Char)
  | .kept name => if Text.isIdentifier name then some name else none
  | _ => none

end Piece

structure Rendered where
  text : String
  substitutions : Nat
  unresolved : List String
  deriving DecidableEq, Repr

def assemble (delimiter : Char) (stretches : List Piece) : Rendered where
  text := String.ofList (stretches.flatMap (Piece.chars delimiter))
  substitutions := stretches.countP Piece.isFilled
  unresolved := ((stretches.filterMap Piece.unresolved?).map String.ofList).eraseDups

/-- The first variable that no template can use is the error, a bad name before a missing value. -/
def check (delimiter : Char) : List (String × Option String) → Except Error Unit
  | [] => .ok ()
  | (key, value) :: rest =>
    if key.isEmpty || key.toList.contains delimiter then .error (.invalidKey key delimiter)
    else if value.isNone then .error (.missingValue key)
    else check delimiter rest

def lookup (vars : Mapping) (name : List Char) : Option (List Char) :=
  (vars.value? (String.ofList name)).map String.toList

def render (delimiter : Char) (vars : Mapping) (template : String) : Except Error Rendered :=
  match check delimiter vars.entries with
  | .error e => .error e
  | .ok () => .ok (assemble delimiter (pieces delimiter (lookup vars) template.toList))

structure Outcome where
  outputPath : String
  bytesWritten : Nat
  substitutions : Nat
  unresolved : List String
  deriving DecidableEq, Repr

def decode (path : String) : Except File.Fault ByteArray → Except Error String
  | .error .notFound => .error (.notFound path)
  | .error fault => .error (.readFailed path fault)
  | .ok content =>
    match String.fromUTF8? content with
    | some text => .ok text
    | none => .error (.readFailed path .invalidUtf8)

def load (path : String) : Script Error String := do
  let content ← Script.askRead path
  Script.ofExcept (decode path content)

def listing (names : List String) : String := String.intercalate ", " names

def renderFile (delimiter : Char) (input output : String) (vars : Mapping) :
    Script Error Outcome := do
  let template ← load input
  Script.note .template .debug
    ("Loaded template " ++ input ++ " (" ++ template.utf8ByteSize.repr ++ " bytes)")
  let rendered ← Script.ofExcept (render delimiter vars template)
  if !rendered.unresolved.isEmpty then
    Script.note .template .debug
      ("Leaving unresolved placeholders in place: " ++ listing rendered.unresolved)
  match ← Script.askWrite output rendered.text.toUTF8 with
  | .error fault => Script.stop (.writeFailed output fault)
  | .ok () =>
    let bytes := rendered.text.utf8ByteSize
    Script.note .template .info
      ("Rendered " ++ input ++ " -> " ++ output ++ " (" ++ rendered.substitutions.repr ++
        " substitutions, " ++ bytes.repr ++ " bytes)")
    return ⟨output, bytes, rendered.substitutions, rendered.unresolved⟩

end BuildHeader.Template
