import BuildHeader.Build.Host
import BuildHeader.Build.Version
import BuildHeader.File.Tree
import BuildHeader.Mapping

set_option autoImplicit false

namespace BuildHeader

def defaultTemplateName : String := "configure.h.in"

def defaultOutputName : String := "configure.h"

structure Options where
  sourceDir : String := "src"
  destDir : String := "build"
  templateName : String := defaultTemplateName
  outputName : String := defaultOutputName
  version : String := "1.0.0"
  buildVersion : String := "1.0.0"
  buildTime : Option String := none
  compiler : Option String := none
  debug : Bool := false
  author : Option String := none
  extraVars : Bindings := .empty
  deriving DecidableEq

namespace Options

def templatePath (o : Options) : String := File.joinPath o.sourceDir o.templateName

def outputPath (o : Options) : String := File.joinPath o.destDir o.outputName

/-- The author under both names that templates use. -/
def authorEntries (o : Options) : List (String × Option String) :=
  match o.author with
  | none => []
  | some author => [("author", some author), ("aru_athor", some author)]

/-- The variables every build has; build time and compiler only have values that were given. -/
def builtins (o : Options) (version : Version) (host : Host) : List (String × Option String) :=
  [("version", some o.version),
   ("version_major", some (Version.numberText version.major)),
   ("version_minor", some (Version.numberText version.minor)),
   ("version_alter", some (Version.numberText version.alter)),
   ("version_build", some o.buildVersion),
   ("build_time", o.buildTime),
   ("mode", some (if o.debug then "debug" else "release")),
   ("debug", some (if o.debug then "1" else "0"))] ++
  o.authorEntries ++
  host.entries.map (fun entry => (entry.1, some entry.2)) ++
  [("compiler", o.compiler)]

def toMapping (o : Options) (host : Host) : Except BuildError Mapping :=
  (Version.ofText o.version).map fun version =>
    (Mapping.ofList (o.builtins version host)).extend o.extraVars

end Options

def debugFlag (flag : String) : Except BuildError Bool :=
  match flag with
  | "y" => .ok true
  | "n" => .ok false
  | other => .error (.invalidDebugFlag other)

end BuildHeader
