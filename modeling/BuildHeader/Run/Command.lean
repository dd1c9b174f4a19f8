import BuildHeader.CommandLine.Arguments
import BuildHeader.Config
import BuildHeader.Log.Filter
import BuildHeader.Mapping
import BuildHeader.Template.Render

set_option autoImplicit false

namespace BuildHeader.Run

inductive Crash where
  /-- The filter of the log has a directive that is torn. -/
  | tornFilter
  /-- The names of the variables need a column that is too wide. -/
  | wideColumn
  deriving DecidableEq, Repr

def Crash.message : Crash → String
  | .tornFilter => Log.Directive.Fault.torn.message
  | .wideColumn => "Formatting argument out of range"

inductive Failure where
  | usage (error : CommandLine.UsageError)
  | config (error : Config.LoadError)
  | item (error : CommandLine.InvalidItem)
  | build (error : BuildError)
  /-- The template failed in a dry run. -/
  | template (error : Template.Error)
  | generation (error : Template.Error)
  | crash (c : Crash)
  deriving DecidableEq, Repr

namespace Failure

def message : Failure → String
  | .usage error => error.complaint?.getD ""
  | .config error => error.message
  | .item error => error.message
  | .build error => error.message
  | .template error => error.message
  | .generation error => "Configuration generation failed: " ++ error.message
  | .crash c => c.message

def cause? : Failure → Option String
  | .template error => error.cause?.map File.Fault.message
  | _ => none

def lines (f : Failure) : List String :=
  match f with
  | .usage error =>
    match error.complaint? with
    | some complaint => ["error: " ++ complaint, "", "For more information, try '--help'."]
    | none => []
  | .crash c => [c.message]
  | f => ("Error: " ++ f.message) ::
    match f.cause? with
    | some cause => ["", "Caused by:", "    " ++ cause]
    | none => []

/-- Help and version are answers; any other misuse and a crash have statuses of
their own. -/
def exitStatus : Failure → UInt32
  | .usage (.help _) => 0
  | .usage .toolVersion => 0
  | .usage _ => 2
  | .crash _ => 101
  | _ => 1

end Failure

open CommandLine (BuildArguments Format)

/-- The options of a build: the command line first, then the configuration. -/
def buildOptions (build : BuildArguments) (config : Config) : Options where
  sourceDir := build.sourceDir
  destDir := build.destDir
  templateName := build.template.getD config.template
  outputName := build.output.getD config.output
  version := build.version
  buildVersion := build.buildVersion
  buildTime := build.buildTime
  compiler := build.compiler
  debug := build.debug
  author := build.author.or config.author
  extraVars := config.templateVars

def assemble (host : Except BuildError Host) (options : Options) : Except BuildError Mapping :=
  host.bind options.toMapping

def assembleVariables (host : Except BuildError Host) (options : Options) :
    Script Failure Mapping := do
  let vars ← Script.ofExcept ((assemble host options).mapError .build)
  if !options.extraVars.isEmpty then
    Script.note .options .debug ("Applying " ++ options.extraVars.size.repr ++ " extra variables")
  Script.note .command .info ("Assembled " ++ vars.size.repr ++ " template variables")
  return vars

def reportUnresolved (names : List String) : Script Failure Unit := do
  if !names.isEmpty then
    Script.note .command .warn "Template has placeholders without variables"
    Script.say ("  Unresolved placeholders: " ++ Template.listing names)

def rehearse (delimiter : Char) (options : Options) (vars : Mapping) : Script Failure Unit := do
  let rendered ← Script.mapFailure .template do
    let template ← Template.load options.templatePath
    Script.ofExcept (Template.render delimiter vars template)
  Script.note .command .info "Dry run - output file not written"
  Script.say ("✓ Template '" ++ options.templatePath ++ "' renders cleanly")
  Script.say ("  Output: " ++ options.outputPath ++ " (not written)")
  Script.say ("  Substitutions: " ++ rendered.substitutions.repr)
  reportUnresolved rendered.unresolved

def produce (delimiter : Char) (options : Options) (vars : Mapping) : Script Failure Unit := do
  let outcome ← Script.mapFailure .generation
    (Template.renderFile delimiter options.templatePath options.outputPath vars)
  Script.say ("Generated " ++ outcome.outputPath ++ " (" ++ outcome.substitutions.repr ++
    " substitutions, " ++ outcome.bytesWritten.repr ++ " bytes)")
  reportUnresolved outcome.unresolved

def generate (host : Except BuildError Host) (config : Config) (build : BuildArguments)
    (dryRun : Bool) : Script Failure Unit := do
  let options := buildOptions build config
  let vars ← assembleVariables host options
  Script.note .command .info
    ("Generating " ++ options.outputPath ++ " from " ++ options.templatePath ++
      " (delimiter '" ++ config.delimiter.toString ++ "')")
  if dryRun then rehearse config.delimiter options vars
  else produce config.delimiter options vars

def columnWidth (vars : Mapping) : Nat :=
  vars.entries.foldl (fun width entry => max width entry.1.utf8ByteSize) 0

def unsetMark : String := "<unset>"

def row (width : Nat) (entry : String × Option String) : String :=
  entry.1 ++ String.ofList (List.replicate (width - entry.1.length) ' ') ++ " = " ++
    entry.2.getD unsetMark

def listing (vars : Mapping) : Format → List String
  | .json => [vars.prettyJson]
  | .text => vars.entries.map (row (columnWidth vars))

/-- Blanks fill up no wider column. -/
def columnLimit : Nat := 65535

def printListing (vars : Mapping) (format : Format) : Script Failure Unit := do
  if format = .text ∧ columnLimit < columnWidth vars then Script.stop (.crash .wideColumn)
  (listing vars format).forM Script.say

def listVariables (host : Except BuildError Host) (config : Config) (build : BuildArguments)
    (format : Format) : Script Failure Unit := do
  let vars ← assembleVariables host (buildOptions build config)
  printListing vars format

end BuildHeader.Run
