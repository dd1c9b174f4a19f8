import BuildHeader.Build.Options
import BuildHeader.Script
import BuildHeader.Template.Render
import BuildHeader.Yaml.Basic
import BuildHeader.Yaml.Document

/-!
The configuration of the tool. It is read from the file that is asked for, else from the first that
exists of the standard places. Every field of a document is looked up and read on its own, so the
order of the fields does not matter; unknown fields are passed over, a known field given twice is a
fault.
-/

set_option autoImplicit false

namespace BuildHeader

structure Logging where
  level : String := "info"
  format : String := "pretty"
  deriving DecidableEq, Repr

structure Config where
  template : String := defaultTemplateName
  output : String := defaultOutputName
  delimiter : Char := Template.defaultDelimiter
  author : Option String := none
  templateVars : Bindings := .empty
  logging : Logging := {}
  deriving DecidableEq

namespace Config

inductive Fault where
  | yaml (fault : Yaml.Fault)
  | delimiter (c : Char)
  | emptyName
  deriving DecidableEq, Repr

def Fault.message : Fault → String
  | .yaml fault => fault.message
  | .delimiter c => "Delimiter '" ++ c.toString ++ "' must be a punctuation character"
  | .emptyName => "Template and output names cannot be empty"

def validate (config : Config) : Except Fault Unit :=
  if Text.isWhitespace config.delimiter || Text.isAlphanumeric config.delimiter then
    .error (.delimiter config.delimiter)
  else if config.template.isEmpty || config.output.isEmpty then .error .emptyName
  else .ok ()

/-- The environment has the last word on logging and author. -/
def withEnvironment (config : Config) (env : Environment) : Config :=
  { config with
    author := (env.get? "CONFGEN_AUTHOR").or config.author
    logging :=
      { level := (env.get? "CONFGEN_LOG_LEVEL").getD config.logging.level
        format := (env.get? "CONFGEN_LOG_FORMAT").getD config.logging.format } }

def mergeVariables (config : Config) (vars : Bindings) : Config :=
  { config with templateVars := config.templateVars.overlay vars }

end Config

end BuildHeader

namespace BuildHeader.Config

open Yaml (Document Node Scalar)

/-- A scalar of any kind is text. -/
def text? (d : Document) (node : Node) : Option String :=
  match d.resolve node with
  | some (.scalar content) => some (String.ofList content.text)
  | _ => none

/-- The fields of a mapping; an empty plain scalar is a mapping without fields. -/
def fields? (d : Document) (node : Node) : Option (List (Node × Node)) :=
  match d.resolve node with
  | some (.mapping fields) => some fields
  | some (.scalar content) => if content.plain && content.text.isEmpty then some [] else none
  | _ => none

def namedFields? (d : Document) (node : Node) : Option (List (String × Node)) :=
  (fields? d node).bind fun fields =>
    fields.mapM fun field => (text? d field.1).map fun name => (name, field.2)

/-- Reads the field of a name, which may be absent but not be given twice. -/
def readField {α : Type} (fields : List (String × Node)) (name : String) (absent : α)
    (read : Node → Option α) : Option α :=
  match fields.filter (·.1 == name) with
  | [] => some absent
  | [field] => read field.2
  | _ => none

def char? (d : Document) (node : Node) : Option Char :=
  (text? d node).bind fun text =>
    match text.toList with
    | [c] => some c
    | _ => none

def nullTag : List Char := "tag:yaml.org,2002:null".toList

def isNull (text : String) : Bool :=
  text == "null" || text == "Null" || text == "NULL" || text == "~"

/-- A scalar, or nothing: an empty plain scalar or a spelling of null that no other tag claims. -/
def optionalScalar? (content : Scalar) : Option (Option String) :=
  let text := String.ofList content.text
  if !content.plain then some (some text)
  else
    match content.tag? with
    | some tag =>
      if tag != nullTag then some (some text) else if isNull text then some none else none
    | none => some (if text.isEmpty || isNull text then none else some text)

def optionalText? (d : Document) (node : Node) : Option (Option String) :=
  match d.resolve node with
  | some (.scalar content) => optionalScalar? content
  | _ => none

/-- Text by name; of a name given twice the last value counts. -/
def bindings? (d : Document) (node : Node) : Option Bindings :=
  (namedFields? d node).bind fun fields =>
    (fields.mapM fun field => (text? d field.2).map fun value => (field.1, value)).map
      Bindings.ofList

def logging? (d : Document) (node : Node) : Option Logging := do
  let fields ← namedFields? d node
  let level ← readField fields "level" ({} : Logging).level (text? d)
  let format ← readField fields "format" ({} : Logging).format (text? d)
  return { level, format }

def ofFields? (d : Document) (fields : List (String × Node)) : Option Config := do
  let template ← readField fields "template" defaultTemplateName (text? d)
  let output ← readField fields "output" defaultOutputName (text? d)
  let delimiter ← readField fields "delimiter" Template.defaultDelimiter (char? d)
  let author ← readField fields "author" none (optionalText? d)
  let templateVars ← readField fields "template_vars" .empty (bindings? d)
  let logging ← readField fields "logging" {} (logging? d)
  return { template, output, delimiter, author, templateVars, logging }

def ofDocument? (d : Document) : Option Config :=
  match d.root? with
  | none => some {}
  | some root => (namedFields? d root).bind (ofFields? d)

def ofYaml (text : String) : Except Fault Config :=
  match Document.ofText text.toList with
  | .error fault => .error (.yaml fault)
  | .ok document =>
    match ofDocument? document with
    | none => .error (.yaml .shape)
    | some config => config.validate.map fun _ => config

inductive LoadError where
  | notFound (path : String)
  | unreadable (path : String) (fault : File.Fault)
  | invalid (path : String) (fault : Fault)
  deriving DecidableEq, Repr

def LoadError.message : LoadError → String
  | .notFound path => "Configuration file not found: " ++ path
  | .unreadable _ fault => fault.message
  | .invalid path fault => "Invalid configuration " ++ path ++ ": " ++ fault.message

def standardPaths (env : Environment) : List String :=
  (env.home?.map fun home =>
      File.joinPath (File.joinPath home ".confgen") "config.yaml").toList ++
    ["confgen.yaml", "confgen.yml", ".confgen.yaml", ".confgen.yml"]

def firstThere : List String → Script LoadError (Option String)
  | [] => return none
  | path :: rest => do
    if ← Script.askIsThere path then return some path
    firstThere rest

def choosePath (env : Environment) : Option String → Script LoadError (Option String)
  | none => firstThere (standardPaths env)
  | some path => do
    if ← Script.askIsThere path then return some path
    Script.stop (.notFound path)

def ofContent (path : String) : Except File.Fault ByteArray → Except LoadError Config
  | .error fault => .error (.unreadable path fault)
  | .ok content =>
    match String.fromUTF8? content with
    | none => .error (.unreadable path .invalidUtf8)
    | some text => (ofYaml text).mapError (.invalid path)

def load (env : Environment) (path? : Option String) : Script LoadError Config := do
  match ← choosePath env path? with
  | none => return ({} : Config).withEnvironment env
  | some path =>
    let content ← Script.askRead path
    let config ← Script.ofExcept (ofContent path content)
    return config.withEnvironment env

end BuildHeader.Config
