import BuildHeader.Bindings
import BuildHeader.Build.Host
import BuildHeader.CommandLine.Flag

set_option autoImplicit false

namespace BuildHeader.CommandLine

/-- A command line that runs no command. Help and the tool's version are asked for, not faults. -/
inductive UsageError where
  | help (topic : Topic)
  | toolVersion
  | nothingGiven
  | missingCommand
  | invalidCommand
  | unknownArgument
  | invalidValue
  | invalidDebugFlag (fault : BuildError)
  | givenTwice
  | unexpectedValue
  deriving DecidableEq, Repr

def UsageError.complaint? : UsageError → Option String
  | .help _ => none
  | .toolVersion => none
  | .nothingGiven => some "a command is required"
  | .missingCommand => some "a command is required but none was given"
  | .invalidCommand => some "unrecognized command"
  | .unknownArgument => some "unexpected argument"
  | .invalidValue => some "invalid or missing value for an option"
  | .invalidDebugFlag fault => some ("invalid value for '--debug': " ++ fault.message)
  | .givenTwice => some "an option cannot be used multiple times"
  | .unexpectedValue => some "a value for an option that takes none"

inductive Format where
  | text
  | json
  deriving DecidableEq, Repr

def format? (word : String) : Option Format :=
  if word = "text" then some .text else if word = "json" then some .json else none

structure BuildArguments where
  sourceDir : String := "src"
  destDir : String := "build"
  version : String := "1.0.0"
  buildVersion : String := "1.0.0"
  buildTime : Option String := none
  compiler : Option String := none
  debug : Bool := false
  author : Option String := none
  template : Option String := none
  output : Option String := none
  vars : List String := []
  deriving DecidableEq, Repr

inductive Action where
  | generate (dryRun : Bool)
  | vars (format : Format)
  deriving DecidableEq, Repr

structure Arguments where
  action : Action
  build : BuildArguments := {}
  verbose : Bool := false
  noColor : Bool := false
  config : Option String := none
  deriving DecidableEq, Repr

structure InvalidItem where
  item : String
  deriving DecidableEq, Repr

def InvalidItem.message (e : InvalidItem) : String :=
  "Invalid variable format '" ++ e.item ++ "'. Expected 'key=value'"

/-- The name before the first equals sign and the value after it. -/
def splitItem? (item : String) : Option (String × String) :=
  let key := item.toList.takeWhile (· != '=')
  match key, item.toList.drop key.length with
  | [], _ => none
  | _, [] => none
  | key, _ :: value => some (String.ofList key, String.ofList value)

def splitItems : List String → Except InvalidItem (List (String × String))
  | [] => .ok []
  | item :: rest =>
    match splitItem? item with
    | none => .error ⟨item⟩
    | some pair => (splitItems rest).map (pair :: ·)

/-- The variables of all items; of a name given twice the last value counts. -/
def readVariables (items : List String) : Except InvalidItem Bindings :=
  (splitItems items).map Bindings.ofList

def Command.about : Command → String
  | .generate => "Render the configuration template into the destination directory"
  | .vars => "Print the variables that would be substituted"

def Topic.about : Topic → String
  | .tool => "Generate build configuration headers from @placeholder@ templates"
  | .command c => c.about
  | .help => "Print this message or the help of the given subcommand(s)"

namespace Flag

def about : Flag → String
  | .help => "Print help"
  | .toolVersion => "Print version"
  | .verbose => "Enable verbose output"
  | .config => "Path to configuration file"
  | .noColor => "Disable colored output"
  | .sourceDir => "Directory containing the template"
  | .destDir => "Directory receiving the generated file"
  | .version => "Project version (major.minor.alter)"
  | .buildVersion => "Build version string"
  | .buildTime => "Build timestamp"
  | .compiler => "Compiler identifier"
  | .debug => "Debug build (y/n)"
  | .author => "Author recorded in the generated file"
  | .template => "Template file name inside the source directory"
  | .output => "Output file name inside the destination directory"
  | .var => "Extra template variables (key=value)"
  | .dryRun => "Render the template without writing the output file"
  | .format => "Output format"

def notes : Flag → List String
  | .sourceDir => ["[default: " ++ ({} : BuildArguments).sourceDir ++ "]"]
  | .destDir => ["[default: " ++ ({} : BuildArguments).destDir ++ "]"]
  | .version => ["[default: " ++ ({} : BuildArguments).version ++ "]"]
  | .buildVersion => ["[default: " ++ ({} : BuildArguments).buildVersion ++ "]"]
  | .debug => ["[default: n]"]
  | .format => ["[default: text]", "[possible values: text, json]"]
  | _ => []

def placeholder : Flag → String
  | .version => "PROJECT_VERSION"
  | .var => "VARS"
  | flag => flag.long.map fun c => if c = '-' then '_' else c.toUpper

def spelling (flag : Flag) : String :=
  let short :=
    match flag.short? with
    | some letter => "-" ++ letter.toString ++ ", "
    | none => "    "
  short ++ "--" ++ flag.long ++ if flag.takesValue then " <" ++ flag.placeholder ++ ">" else ""

end Flag

def Topic.flags : Topic → List Flag
  | .tool => [.verbose, .config, .noColor, .help, .toolVersion]
  | .command c =>
    [.sourceDir, .verbose, .config, .destDir, .noColor, .version, .buildVersion, .buildTime,
      .compiler, .debug, .author, .template, .output, .var,
      match c with
      | .generate => .dryRun
      | .vars => .format,
      .help]
  | .help => []

def Topic.commands : Topic → List (String × String)
  | .command _ => []
  | _ =>
    [Command.generate, Command.vars].map (fun command => (command.name, command.about)) ++
      [(helpWord, Topic.about .help)]

def Topic.usage (tool : String) : Topic → String
  | .tool => tool ++ " [OPTIONS] <COMMAND>"
  | .command c => tool ++ " " ++ c.name ++ " [OPTIONS]"
  | .help => tool ++ " " ++ helpWord ++ " [COMMAND]"

def table (heading : String) (rows : List (String × String)) : List String :=
  let width := (rows.map fun row => row.1.length).foldl max 0
  let line (row : String × String) :=
    "  " ++ row.1 ++ String.ofList (List.replicate (width - row.1.length) ' ') ++ "  " ++ row.2
  if rows.isEmpty then [] else "" :: (heading ++ ":") :: rows.map line

def helpLines (tool : String) (topic : Topic) : List String :=
  [topic.about, "", "Usage: " ++ topic.usage tool] ++ table "Commands" topic.commands ++
    table "Options" (topic.flags.map fun flag =>
      (flag.spelling, String.intercalate " " (flag.about :: flag.notes)))

end BuildHeader.CommandLine
