set_option autoImplicit false

namespace BuildHeader.CommandLine

inductive Command where
  | generate
  | vars
  deriving DecidableEq, Repr

def Command.name : Command → String
  | .generate => "generate"
  | .vars => "vars"

def command? (word : String) : Option Command :=
  if word = Command.name .generate then some .generate
  else if word = Command.name .vars then some .vars
  else none

def helpWord : String := "help"

inductive Topic where
  | tool
  | command (command : Command)
  | help
  deriving DecidableEq, Repr

def topic? (word : String) : Option Topic :=
  if word = helpWord then some .help else (command? word).map .command

inductive Flag where
  | help
  | toolVersion
  | verbose
  | config
  | noColor
  | sourceDir
  | destDir
  | version
  | buildVersion
  | buildTime
  | compiler
  | debug
  | author
  | template
  | output
  | var
  | dryRun
  | format
  deriving DecidableEq, Repr

namespace Flag

def long : Flag → String
  | .help => "help"
  | .toolVersion => "version"
  | .verbose => "verbose"
  | .config => "config"
  | .noColor => "no-color"
  | .sourceDir => "spath"
  | .destDir => "dpath"
  | .version => "version"
  | .buildVersion => "build-version"
  | .buildTime => "build-time"
  | .compiler => "compiler"
  | .debug => "debug"
  | .author => "author"
  | .template => "template"
  | .output => "output"
  | .var => "var"
  | .dryRun => "dry-run"
  | .format => "format"

def short? : Flag → Option Char
  | .help => some 'h'
  | .toolVersion => some 'V'
  | .verbose => some 'v'
  | .config => some 'c'
  | _ => none

def takesValue : Flag → Bool
  | .help | .toolVersion | .verbose | .noColor | .dryRun => false
  | _ => true

/-- Every other option may be given once on each level. -/
def isRepeatable (flag : Flag) : Bool := flag = .var

end Flag

/-- Where on the command line a word stands: before the command or after it. -/
inductive Scope where
  | top
  | under (command : Command)
  deriving DecidableEq, Repr

namespace Scope

def topic : Scope → Topic
  | .top => .tool
  | .under command => .command command

def everywhere : List Flag := [.verbose, .config, .noColor, .help]

def buildFlags : List Flag :=
  [.sourceDir, .destDir, .version, .buildVersion, .buildTime, .compiler, .debug, .author,
   .template, .output, .var]

def flags : Scope → List Flag
  | .top => .toolVersion :: everywhere
  | .under .generate => .dryRun :: buildFlags ++ everywhere
  | .under .vars => .format :: buildFlags ++ everywhere

def long? (scope : Scope) (name : String) : Option Flag :=
  scope.flags.find? fun flag => flag.long = name

def short? (scope : Scope) (letter : Char) : Option Flag :=
  scope.flags.find? fun flag => flag.short? = some letter

end Scope

end BuildHeader.CommandLine
