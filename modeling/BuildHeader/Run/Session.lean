import BuildHeader.CommandLine.Arguments
import BuildHeader.CommandLine.Parse
import BuildHeader.Log.Filter
import BuildHeader.Run.Command
import BuildHeader.Text.Basic

/-!
A whole run: the command line is read, the configuration found, then the command is carried out.
Log events are shown or not when the run is told. Nothing that is done depends on that, once the
filter of the log has been read to its end.
-/

set_option autoImplicit false

namespace BuildHeader.Run

open CommandLine (Arguments)

def toolName : String := "confgen"

def toolVersion : String := "0.1.0"

structure Invocation where
  words : List String
  environment : Environment
  machine : Except BuildError Machine

def Invocation.host (i : Invocation) : Except BuildError Host :=
  i.machine.map fun machine => Host.collect machine i.environment

structure Session where
  arguments : Arguments
  config : Config

def begin (i : Invocation) : Script Failure Session := do
  let arguments ← Script.ofExcept ((CommandLine.parse i.words).mapError .usage)
  let config ← (Config.load i.environment arguments.config).mapFailure .config
  return { arguments, config }

namespace Session

def levelWord (s : Session) : String :=
  if s.arguments.verbose then "debug" else s.config.logging.level

/-- A filter of the environment goes before all others, but only without a fault. -/
def logSettings (s : Session) (env : Environment) : Log.Settings where
  colored := !s.arguments.noColor
  reading :=
    (((env.get? "RUST_LOG").map Log.FilterReading.ofText).filter
      Log.FilterReading.isFaultless).getD (Log.FilterReading.ofText s.levelWord)

def configWord (s : Session) : String :=
  match s.arguments.config with
  | none => "None"
  | some path => "Some(" ++ Text.quotedVisibly path ++ ")"

def carryOut (s : Session) (host : Except BuildError Host) : Script Failure Unit := do
  Script.note .session .debug ("Logging initialized with level: " ++ s.levelWord)
  Script.note .session .info ("Starting " ++ toolName ++ " v" ++ toolVersion)
  Script.note .session .debug ("Configuration loaded from: " ++ s.configWord)
  let build := s.arguments.build
  let vars ← Script.ofExcept ((CommandLine.readVariables build.vars).mapError .item)
  let config := s.config.mergeVariables vars
  match s.arguments.action with
  | .generate dryRun => generate host config build dryRun
  | .vars format => listVariables host config build format

/-- Logging is set up before anything is done, which a torn filter does not allow. -/
def conduct (s : Session) (env : Environment) (host : Except BuildError Host) :
    Script Failure Unit := do
  if (s.logSettings env).reading.isTorn then Script.stop (.crash .tornFilter)
  s.carryOut host

end Session

def answerLines : Failure → List String
  | .usage (.help topic) => CommandLine.helpLines toolName topic
  | .usage .toolVersion => [toolName ++ " " ++ toolVersion]
  | _ => []

structure Report where
  failure? : Option Failure
  files : File.Tree
  output : List String
  logSettings : Log.Settings
  events : List Log.Event

namespace Report

def exitStatus (r : Report) : UInt32 := (r.failure?.map Failure.exitStatus).getD 0

def logLines (r : Report) (time : String) : List String := r.logSettings.lines time r.events

def failureLines (r : Report) : List String := (r.failure?.map Failure.lines).getD []

end Report

def silent : Log.Settings := ⟨false, { filter := .upTo 0 }⟩

def run (i : Invocation) (files : File.Tree) : Report :=
  let first := (begin i).actOn files
  match first.result with
  | .error failure => ⟨some failure, first.files, answerLines failure, silent, []⟩
  | .ok session =>
    let rest := (session.conduct i.environment i.host).actOn first.files
    let failure? :=
      match rest.result with
      | .error failure => some failure
      | .ok () => none
    ⟨failure?, rest.files, rest.lines, session.logSettings i.environment, rest.events⟩

end BuildHeader.Run
