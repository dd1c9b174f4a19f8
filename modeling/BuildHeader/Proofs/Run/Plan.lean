import BuildHeader.Proofs.Config.Discovery
import BuildHeader.Proofs.Run.Commands
import BuildHeader.Run.Session

/-!
The two halves of a run. First everything is read: the command line, the configuration, the filter
of the log, the items of variables, the facts of the build. Any of these stages can stop the run,
and none of them touches a file. All but the filter make up a plan, and with a filter in one piece
the plan alone says what is then done.
-/

set_option autoImplicit false

namespace BuildHeader.Run

open CommandLine (Arguments)

def Session.FilterIsWhole (s : Session) (env : Environment) : Prop :=
  (s.logSettings env).reading.isTorn = false

theorem Session.conduct_of_whole {s : Session} {env : Environment} (h : s.FilterIsWhole env)
    (host : Except BuildError Host) : s.conduct env host = s.carryOut host := by
  unfold Session.conduct
  rw [h]
  rfl

theorem Session.quietOn_conduct_of_torn {s : Session} {env : Environment}
    (h : ¬s.FilterIsWhole env) (host : Except BuildError Host) (files : File.Tree) :
    (s.conduct env host).quietOn files = ⟨.error (.crash .tornFilter), files, [], []⟩ := by
  have torn : (s.logSettings env).reading.isTorn = true := by simpa [FilterIsWhole] using h
  simp [conduct, torn]

/-- All that a run has read before it sets to work. -/
structure Plan (i : Invocation) (files : File.Tree) where
  arguments : Arguments
  /-- The configuration of the files, without what the environment lays over it. -/
  found : Config
  items : Bindings
  vars : Mapping
  parsed : CommandLine.parse i.words = .ok arguments
  configured : Config.found i.environment arguments.config files = .ok found
  itemized : CommandLine.readVariables arguments.build.vars = .ok items
  assembled :
    assemble i.host (buildOptions arguments.build
      ((found.withEnvironment i.environment).mergeVariables items)) = .ok vars

namespace Plan

variable {i : Invocation} {files : File.Tree}

def config (p : Plan i files) : Config := p.found.withEnvironment i.environment

def options (p : Plan i files) : Options :=
  buildOptions p.arguments.build (p.config.mergeVariables p.items)

def session (p : Plan i files) : Session := ⟨p.arguments, p.config⟩

def FilterIsWhole (p : Plan i files) : Prop := p.session.FilterIsWhole i.environment

def work (p : Plan i files) : Script Failure Unit :=
  match p.arguments.action with
  | .generate true => rehearse p.config.delimiter p.options p.vars
  | .generate false => produce p.config.delimiter p.options p.vars
  | .vars format => printListing p.vars format

end Plan

inductive Stops (i : Invocation) (files : File.Tree) : Failure → Prop where
  | usage {e : CommandLine.UsageError} (parsed : CommandLine.parse i.words = .error e) :
    Stops i files (.usage e)
  | config {arguments : Arguments} {e : Config.LoadError}
    (parsed : CommandLine.parse i.words = .ok arguments)
    (configured : Config.found i.environment arguments.config files = .error e) :
    Stops i files (.config e)
  | logging {arguments : Arguments} {found : Config}
    (parsed : CommandLine.parse i.words = .ok arguments)
    (configured : Config.found i.environment arguments.config files = .ok found)
    (torn : ¬Session.FilterIsWhole ⟨arguments, found.withEnvironment i.environment⟩
      i.environment) :
    Stops i files (.crash .tornFilter)
  | item {arguments : Arguments} {found : Config} {e : CommandLine.InvalidItem}
    (parsed : CommandLine.parse i.words = .ok arguments)
    (configured : Config.found i.environment arguments.config files = .ok found)
    (whole : Session.FilterIsWhole ⟨arguments, found.withEnvironment i.environment⟩ i.environment)
    (itemized : CommandLine.readVariables arguments.build.vars = .error e) :
    Stops i files (.item e)
  | build {arguments : Arguments} {found : Config} {items : Bindings} {e : BuildError}
    (parsed : CommandLine.parse i.words = .ok arguments)
    (configured : Config.found i.environment arguments.config files = .ok found)
    (whole : Session.FilterIsWhole ⟨arguments, found.withEnvironment i.environment⟩ i.environment)
    (itemized : CommandLine.readVariables arguments.build.vars = .ok items)
    (assembled :
      assemble i.host (buildOptions arguments.build
        ((found.withEnvironment i.environment).mergeVariables items)) = .error e) :
    Stops i files (.build e)

variable {i : Invocation} {files : File.Tree}

theorem stops_or_plan (i : Invocation) (files : File.Tree) :
    (∃ failure, Stops i files failure) ∨ ∃ p : Plan i files, p.FilterIsWhole := by
  -- Stage by stage: each either stops the run or gives its part of the plan.
  cases hp : CommandLine.parse i.words with
  | error e => exact .inl ⟨_, .usage hp⟩
  | ok arguments =>
    cases hc : Config.found i.environment arguments.config files with
    | error e => exact .inl ⟨_, .config hp hc⟩
    | ok found =>
      by_cases hw : Session.FilterIsWhole ⟨arguments, found.withEnvironment i.environment⟩
          i.environment
      · cases hi : CommandLine.readVariables arguments.build.vars with
        | error e => exact .inl ⟨_, .item hp hc hw hi⟩
        | ok items =>
          cases ha : assemble i.host (buildOptions arguments.build
              ((found.withEnvironment i.environment).mergeVariables items)) with
          | error e => exact .inl ⟨_, .build hp hc hw hi ha⟩
          | ok vars => exact .inr ⟨⟨arguments, found, items, vars, hp, hc, hi, ha⟩, hw⟩
      · exact .inl ⟨_, .logging hp hc hw⟩

/-- How a run ends, as far as it does not depend on the log. -/
structure Report.Ends (r : Report) (failure? : Option Failure) (files : File.Tree)
    (output : List String) : Prop where
  failure : r.failure? = failure?
  files : r.files = files
  output : r.output = output

def failureOf? : Except Failure Unit → Option Failure
  | .error failure => some failure
  | .ok () => none

theorem run_ends_of_begin_error {failure : Failure}
    (h : (begin i).quietOn files = ⟨.error failure, files, [], []⟩) :
    (run i files).Ends (some failure) files (answerLines failure) := by
  have hr : ((begin i).actOn files).result = .error failure := congrArg Script.Transcript.result h
  have hf : ((begin i).actOn files).files = files := congrArg Script.Transcript.files h
  constructor <;> simp [run, hr, hf]

theorem run_ends_of_begin_ok {session : Session} {result : Except Failure Unit}
    {files' : File.Tree} {lines : List String}
    (h : (begin i).quietOn files = ⟨.ok session, files, [], []⟩)
    (hw : (session.conduct i.environment i.host).quietOn files = ⟨result, files', [], lines⟩) :
    (run i files).Ends (failureOf? result) files' lines := by
  have hr : ((begin i).actOn files).result = .ok session := congrArg Script.Transcript.result h
  have hf : ((begin i).actOn files).files = files := congrArg Script.Transcript.files h
  have hwr : ((session.conduct i.environment i.host).actOn files).result = result :=
    congrArg Script.Transcript.result hw
  have hwf : ((session.conduct i.environment i.host).actOn files).files = files' :=
    congrArg Script.Transcript.files hw
  have hwl : ((session.conduct i.environment i.host).actOn files).lines = lines :=
    congrArg Script.Transcript.lines hw
  constructor
  · cases result <;> simp [run, hr, hf, hwr, failureOf?]
  · simp [run, hr, hf, hwf]
  · simp [run, hr, hf, hwl]

@[simp] theorem delimiter_mergeVariables (config : Config) (vars : Bindings) :
    (config.mergeVariables vars).delimiter = config.delimiter := rfl

theorem quietOn_begin_of_ok {arguments : Arguments} {found : Config}
    (hp : CommandLine.parse i.words = .ok arguments)
    (hc : Config.found i.environment arguments.config files = .ok found) :
    (begin i).quietOn files =
      ⟨.ok ⟨arguments, found.withEnvironment i.environment⟩, files, [], []⟩ := by
  simp [begin, Config.quietOn_load, hp, hc, Except.map]

/-- A run that has no plan touches no file and says no more than it was asked for. -/
theorem run_ends_of_stops {failure : Failure} (h : Stops i files failure) :
    (run i files).Ends (some failure) files (answerLines failure) := by
  cases h with
  | usage hp =>
    apply run_ends_of_begin_error
    simp [begin, hp]
  | config hp hc =>
    apply run_ends_of_begin_error
    simp [begin, Config.quietOn_load, hp, hc, Except.map]
  | logging hp hc torn =>
    exact run_ends_of_begin_ok (quietOn_begin_of_ok hp hc) (Session.quietOn_conduct_of_torn torn ..)
  | @item arguments found e hp hc whole hi =>
    have hw : (Session.carryOut ⟨arguments, found.withEnvironment i.environment⟩ i.host).quietOn
        files = ⟨.error (.item e), files, [], []⟩ := by
      simp [Session.carryOut, hi]
    rw [← Session.conduct_of_whole whole] at hw
    exact run_ends_of_begin_ok (quietOn_begin_of_ok hp hc) hw
  | @build arguments found items e hp hc whole hi ha =>
    have hw : (Session.carryOut ⟨arguments, found.withEnvironment i.environment⟩ i.host).quietOn
        files = ⟨.error (.build e), files, [], []⟩ := by
      cases h : arguments.action with
      | generate dryRun => simp [Session.carryOut, h, hi, quietOn_generate_of_error ha]
      | vars format => simp [Session.carryOut, h, hi, quietOn_listVariables_of_error ha]
    rw [← Session.conduct_of_whole whole] at hw
    exact run_ends_of_begin_ok (quietOn_begin_of_ok hp hc) hw

theorem Plan.quietOn_carryOut (p : Plan i files) :
    (p.session.carryOut i.host).quietOn files = p.work.quietOn files := by
  have ha : assemble i.host (buildOptions p.arguments.build
      (p.config.mergeVariables p.items)) = .ok p.vars := p.assembled
  cases h : p.arguments.action with
  | generate dryRun =>
    cases dryRun <;>
      simp [Session.carryOut, session, p.itemized, work, options, h, quietOn_generate_of_ok ha]
  | vars format =>
    simp [Session.carryOut, session, p.itemized, work, h, quietOn_listVariables_of_ok ha]

theorem run_ends_of_plan (p : Plan i files) (whole : p.FilterIsWhole)
    {result : Except Failure Unit} {files' : File.Tree} {lines : List String}
    (h : p.work.quietOn files = ⟨result, files', [], lines⟩) :
    (run i files).Ends (failureOf? result) files' lines := by
  have hw := p.quietOn_carryOut.trans h
  rw [← Session.conduct_of_whole whole] at hw
  exact run_ends_of_begin_ok (quietOn_begin_of_ok p.parsed p.configured) hw

theorem Stops.exitStatus_ne_zero {failure : Failure} (h : Stops i files failure)
    {arguments : Arguments} (hp : CommandLine.parse i.words = .ok arguments) :
    failure.exitStatus ≠ 0 := by
  cases h with
  | usage he => simp [hp] at he
  | config => simp [Failure.exitStatus]
  | logging => simp [Failure.exitStatus]
  | item => simp [Failure.exitStatus]
  | build => simp [Failure.exitStatus]

theorem Report.Ends.exitStatus_of_error {r : Report} {failure : Failure} {files : File.Tree}
    {lines : List String} (h : r.Ends (some failure) files lines) :
    r.exitStatus = failure.exitStatus := by
  simp [Report.exitStatus, h.failure]

theorem Report.Ends.exitStatus_of_ok {r : Report} {files : File.Tree}
    {lines : List String} (h : r.Ends none files lines) : r.exitStatus = 0 := by
  simp [Report.exitStatus, h.failure]

theorem Plan.arguments_eq (p : Plan i files) {arguments : Arguments}
    (hp : CommandLine.parse i.words = .ok arguments) : p.arguments = arguments :=
  Except.ok.inj (p.parsed.symm.trans hp)

theorem exists_plan {arguments : Arguments} (hp : CommandLine.parse i.words = .ok arguments)
    (hzero : (run i files).exitStatus = 0) : ∃ p : Plan i files, p.FilterIsWhole := by
  rcases stops_or_plan i files with ⟨failure, hs⟩ | hplan
  · rw [(run_ends_of_stops hs).exitStatus_of_error] at hzero
    exact absurd hzero (hs.exitStatus_ne_zero hp)
  · exact hplan

end BuildHeader.Run
