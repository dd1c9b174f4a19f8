import BuildHeader.Proofs.CommandLine.Switches
import BuildHeader.Proofs.Config.Unlogged
import BuildHeader.Proofs.Log.Level
import BuildHeader.Proofs.Run.Plan

/-!
Logging never shows in what a run does. Two runs that are told to log differently, on the command
line, in the environment or in the configuration, read the same plan or stop at the same stage, and
the plan alone says what is then done. Only a file that is the configuration and the template at
once brings the words about logging into the output, and only a filter that cannot be read to its
end keeps a run from its work.
-/

set_option autoImplicit false

namespace BuildHeader

open File (Location)

/-- The same is done to both trees: nothing at all, or the same content is put at the same place. -/
inductive File.Tree.SameChange (files after files' after' : File.Tree) : Prop where
  | unchanged (first : after = files) (second : after' = files')
  | written (place : Location) (content : ByteArray)
    (first : after = files.put place (.file content))
    (second : after' = files'.put place (.file content))

namespace Run

open CommandLine (Arguments parse withoutSwitches)
open Config (SaysAlike)

def Refused (words : List String) : Prop :=
  ∃ e, parse words = .error e ∧ e.complaint?.isSome

inductive SameRequest (words words' : List String) : Prop where
  | refused (first : Refused words) (second : Refused words')
  | read (same : (parse words).map Arguments.unlogged = (parse words').map Arguments.unlogged)

def Plan.Renders {i : Invocation} {files : File.Tree} (p : Plan i files) (place : Location) :
    Prop :=
  (∃ dryRun, p.arguments.action = .generate dryRun) ∧
    ∃ entry, files.find p.options.templatePath = .ok (place, entry)

/--
The files are the same but for one, which says the same as a configuration apart from the logging,
and which the run does not render.
-/
inductive SameFiles (i : Invocation) (files : File.Tree) : File.Tree → Prop where
  | same : SameFiles i files files
  | relogged {files' : File.Tree} {place : Location} {content content' : ByteArray}
    (elsewhere : files.AlikeBut place content content' files')
    (configures : SaysAlike content content')
    (notRendered : ∀ p : Plan i files, ¬p.Renders place) : SameFiles i files files'

structure SameButLogging (i : Invocation) (files : File.Tree) (j : Invocation)
    (files' : File.Tree) : Prop where
  words : SameRequest i.words j.words
  environment : i.environment.AlikeBut Environment.logNames j.environment
  machine : i.machine = j.machine
  files : SameFiles i files files'

structure SameButLevel (i j : Invocation) (first second : Log.Threshold) : Prop where
  words : i.words = j.words
  environment : i.environment.AlikeBut ["RUST_LOG"] j.environment
  machine : i.machine = j.machine
  first : ∃ word, i.environment.get? "RUST_LOG" = some word ∧ Log.IsLevel word first
  second : ∃ word, j.environment.get? "RUST_LOG" = some word ∧ Log.IsLevel word second

def Torn (i : Invocation) (files : File.Tree) : Prop :=
  (run i files).failure? = some (.crash .tornFilter)

section Requests

theorem map_unlogged_of_not_refused {words : List String} (h : ¬Refused words) :
    (parse words).map Arguments.unlogged =
      (parse (withoutSwitches words)).map Arguments.unlogged := by
  have hf := CommandLine.parse_follows words
  cases hp : parse words with
  | error e =>
    rw [hp] at hf
    have hnone : e.complaint? = none := by
      simpa using fun hs => h ⟨e, hp, hs⟩
    rw [hf hnone]
  | ok arguments =>
    rw [hp] at hf
    obtain ⟨arguments', hp', hsame⟩ := hf
    rw [hp']
    exact congrArg Except.ok hsame

theorem sameRequest_of_withoutSwitches {words words' : List String}
    (same : withoutSwitches words = withoutSwitches words')
    (refused : Refused words ↔ Refused words') : SameRequest words words' := by
  by_cases h : Refused words
  · exact .refused h (refused.1 h)
  · have h' : ¬Refused words' := fun hs => h (refused.2 hs)
    exact .read (by rw [map_unlogged_of_not_refused h, map_unlogged_of_not_refused h', same])

theorem exitStatus_of_complaint {e : CommandLine.UsageError} (h : e.complaint?.isSome) :
    (Failure.usage e).exitStatus = 2 ∧ answerLines (.usage e) = [] := by
  cases e with
  | help => cases h
  | toolVersion => cases h
  | _ => exact ⟨rfl, rfl⟩

end Requests

section Plans

variable {i j : Invocation} {files files' : File.Tree}

theorem Plan.result_work_ne_torn (p : Plan i files) :
    failureOf? (p.work.quietOn files).result ≠ some (.crash .tornFilter) := by
  unfold Plan.work
  cases p.arguments.action with
  | vars format =>
    simp only [quietOn_printListing]
    split <;> simp [failureOf?]
  | generate dryRun =>
    cases dryRun with
    | true =>
      simp only [result_rehearse]
      split <;> simp [failureOf?]
    | false =>
      simp only [result_produce]
      split <;> simp [failureOf?]

theorem torn_iff_stops : Torn i files ↔ Stops i files (.crash .tornFilter) := by
  refine ⟨fun torn => ?_, fun hs => (run_ends_of_stops hs).failure⟩
  rcases stops_or_plan i files with ⟨failure, hs⟩ | ⟨p, whole⟩
  · exact Option.some.inj ((run_ends_of_stops hs).failure.symm.trans torn) ▸ hs
  · exact absurd ((run_ends_of_plan p whole rfl).failure.symm.trans torn) p.result_work_ne_torn

theorem filterIsWhole_of_not_torn (h : ¬Torn i files) {arguments : Arguments} {found : Config}
    (hp : parse i.words = .ok arguments)
    (hc : Config.found i.environment arguments.config files = .ok found) :
    Session.FilterIsWhole ⟨arguments, found.withEnvironment i.environment⟩ i.environment := by
  exact Classical.byContradiction fun torn => h (torn_iff_stops.2 (.logging hp hc torn))

theorem buildOptions_eq_of_unlogged {config config' : Config}
    (h : config.unlogged = config'.unlogged) (build : CommandLine.BuildArguments)
    (items : Bindings) :
    buildOptions build (config.mergeVariables items) =
      buildOptions build (config'.mergeVariables items) := by
  simp only [Config.unlogged, Config.mk.injEq] at h
  simp only [buildOptions, Config.mergeVariables, h]

theorem host_eq (henv : i.environment.AlikeBut Environment.logNames j.environment)
    (hmachine : i.machine = j.machine) : i.host = j.host := by
  simp only [Invocation.host, Host.collect, Host.user, henv.get? "USER" (by decide),
    henv.get? "USERNAME" (by decide), hmachine]

namespace SameButLogging

variable (h : SameButLogging i files j files')
include h

theorem found_eq (path? : Option String) :
    (Config.found i.environment path? files).map Config.unlogged =
      (Config.found j.environment path? files').map Config.unlogged := by
  cases h.files with
  | same => rw [Config.found_eq_of_environment h.environment]
  | relogged elsewhere configures _ =>
    exact Config.unlogged_found_eq h.environment elsewhere configures path?

theorem assemble_eq {found found' : Config} (hf : found.unlogged = found'.unlogged)
    (build : CommandLine.BuildArguments) (items : Bindings) :
    assemble i.host (buildOptions build
        ((found.withEnvironment i.environment).mergeVariables items)) =
      assemble j.host (buildOptions build
        ((found'.withEnvironment j.environment).mergeVariables items)) := by
  rw [host_eq h.environment h.machine,
    buildOptions_eq_of_unlogged (Config.unlogged_withEnvironment_eq h.environment hf)]

theorem exists_found {path? : Option String} {found : Config}
    (hc : Config.found i.environment path? files = .ok found) :
    ∃ found', Config.found j.environment path? files' = .ok found' ∧
      found.unlogged = found'.unlogged := by
  have hf := h.found_eq path?
  rw [hc] at hf
  obtain ⟨found', hc', hsame⟩ := Except.map_eq_ok_iff.1 hf.symm
  exact ⟨found', hc', hsame.symm⟩

theorem found_eq_error {path? : Option String} {e : Config.LoadError}
    (hc : Config.found i.environment path? files = .error e) :
    Config.found j.environment path? files' = .error e := by
  have hf := h.found_eq path?
  rw [hc] at hf
  exact Except.map_eq_error_iff.1 hf.symm

variable (same : (parse i.words).map Arguments.unlogged = (parse j.words).map Arguments.unlogged)
include same

omit h in
theorem exists_arguments {arguments : Arguments} (hp : parse i.words = .ok arguments) :
    ∃ arguments', parse j.words = .ok arguments' ∧ arguments.action = arguments'.action ∧
      arguments.build = arguments'.build ∧ arguments.config = arguments'.config := by
  rw [hp] at same
  obtain ⟨arguments', hp', hsame⟩ := Except.map_eq_ok_iff.1 same.symm
  simp only [Arguments.unlogged, Arguments.mk.injEq] at hsame
  obtain ⟨haction, hbuild, _, _, hconfig⟩ := hsame
  exact ⟨arguments', hp', haction.symm, hbuild.symm, hconfig.symm⟩

theorem stops (hj : ¬Torn j files') {failure : Failure} (hs : Stops i files failure)
    (hne : failure ≠ .crash .tornFilter) : Stops j files' failure := by
  cases hs with
  | usage hp =>
    rw [hp] at same
    exact .usage (Except.map_eq_error_iff.1 same.symm)
  | config hp hc =>
    obtain ⟨arguments', hp', _, _, hconfig⟩ := exists_arguments same hp
    rw [hconfig] at hc
    exact .config hp' (h.found_eq_error hc)
  | logging => exact absurd rfl hne
  | item hp hc whole hi =>
    obtain ⟨arguments', hp', _, hbuild, hconfig⟩ := exists_arguments same hp
    rw [hconfig] at hc
    rw [hbuild] at hi
    obtain ⟨found', hc', _⟩ := h.exists_found hc
    exact .item hp' hc' (filterIsWhole_of_not_torn hj hp' hc') hi
  | build hp hc whole hi ha =>
    obtain ⟨arguments', hp', _, hbuild, hconfig⟩ := exists_arguments same hp
    rw [hconfig] at hc
    rw [hbuild] at hi ha
    obtain ⟨found', hc', hfound⟩ := h.exists_found hc
    rw [h.assemble_eq hfound] at ha
    exact .build hp' hc' (filterIsWhole_of_not_torn hj hp' hc') hi ha

theorem plan (p : Plan i files) : ∃ p' : Plan j files', p'.work = p.work := by
  obtain ⟨arguments, found, items, vars, hp, hc, hi, ha⟩ := p
  obtain ⟨arguments', hp', haction, hbuild, hconfig⟩ := exists_arguments same hp
  rw [hconfig] at hc
  rw [hbuild] at hi ha
  obtain ⟨found', hc', hfound⟩ := h.exists_found hc
  have hoverlaid := Config.unlogged_withEnvironment_eq h.environment hfound
  have ha' := ha
  rw [h.assemble_eq hfound] at ha'
  refine ⟨⟨arguments', found', items, vars, hp', hc', hi, ha'⟩, ?_⟩
  have hoptions := buildOptions_eq_of_unlogged hoverlaid arguments'.build items
  have hdelimiter : (found.withEnvironment i.environment).delimiter =
      (found'.withEnvironment j.environment).delimiter := by
    show found.unlogged.delimiter = found'.unlogged.delimiter
    rw [hfound]
  simp only [Plan.work, Plan.options, Plan.config, haction, hbuild, hoptions, hdelimiter]

end SameButLogging

structure SameOutcome (r r' : Report) (files files' : File.Tree) : Prop where
  exitStatus : r.exitStatus = r'.exitStatus
  output : r.output = r'.output
  files : files.SameChange r.files files' r'.files

def SameEffect (s : Script Failure Unit) (files files' : File.Tree) : Prop :=
  ∃ result after after' lines, s.quietOn files = ⟨result, after, [], lines⟩ ∧
    s.quietOn files' = ⟨result, after', [], lines⟩ ∧ files.SameChange after files' after'

section Effects

variable {d : Char} {o : Options} {vars : Mapping}
  (hread : files.read o.templatePath = files'.read o.templatePath)
include hread

theorem sameEffect_rehearse : SameEffect (rehearse d o vars) files files' := by
  have hrendering : Template.rendering d vars o.templatePath files =
      Template.rendering d vars o.templatePath files' := by
    simp only [Template.rendering, hread]
  cases hr : Template.rendering d vars o.templatePath files with
  | error e =>
    exact ⟨_, _, _, _, quietOn_rehearse_of_error hr,
      quietOn_rehearse_of_error (hrendering.symm.trans hr), .unchanged rfl rfl⟩
  | ok rendered =>
    exact ⟨_, _, _, _, quietOn_rehearse_of_ok hr,
      quietOn_rehearse_of_ok (hrendering.symm.trans hr), .unchanged rfl rfl⟩

theorem sameEffect_produce
    (hwritable : files.writable o.outputPath = files'.writable o.outputPath) :
    SameEffect (produce d o vars) files files' := by
  have hrendering : Template.rendering d vars o.templatePath files =
      Template.rendering d vars o.templatePath files' := by
    simp only [Template.rendering, hread]
  cases hr : Template.rendering d vars o.templatePath files with
  | error e =>
    exact ⟨_, _, _, _, quietOn_produce_of_error hr,
      quietOn_produce_of_error (hrendering.symm.trans hr), .unchanged rfl rfl⟩
  | ok rendered =>
    have hr' := hrendering.symm.trans hr
    cases hw : files.writable o.outputPath with
    | error fault =>
      have hw' := hwritable.symm.trans hw
      exact ⟨_, _, _, _, quietOn_produce_of_fault hr ((File.Tree.write_eq_error_iff ..).2 hw),
        quietOn_produce_of_fault hr' ((File.Tree.write_eq_error_iff ..).2 hw'), .unchanged rfl rfl⟩
    | ok place =>
      have hw' := hwritable.symm.trans hw
      exact ⟨_, _, _, _,
        quietOn_produce_of_ok hr ((File.Tree.write_eq_ok_iff ..).2 ⟨place, hw, rfl⟩),
        quietOn_produce_of_ok hr' ((File.Tree.write_eq_ok_iff ..).2 ⟨place, hw', rfl⟩),
        .written place _ rfl rfl⟩

end Effects

/-- The work of a plan tells files apart only by the template and by what can be written. -/
theorem Plan.sameEffect_work (p : Plan i files)
    (hread : ∀ dryRun, p.arguments.action = .generate dryRun →
      files.read p.options.templatePath = files'.read p.options.templatePath)
    (hwritable : ∀ path, files.writable path = files'.writable path) :
    SameEffect p.work files files' := by
  unfold Plan.work
  cases hact : p.arguments.action with
  | vars format =>
    obtain ⟨result, lines, printed⟩ := exists_quietOn_printListing p.vars format
    exact ⟨_, _, _, _, printed files, printed files', .unchanged rfl rfl⟩
  | generate dryRun =>
    cases dryRun with
    | true => exact sameEffect_rehearse (hread true hact)
    | false => exact sameEffect_produce (hread false hact) (hwritable _)

theorem outcome_of_ends {failure? : Option Failure} {after after' : File.Tree}
    {lines : List String} (hi : (run i files).Ends failure? after lines)
    (hj : (run j files').Ends failure? after' lines)
    (hchange : files.SameChange after files' after') :
    SameOutcome (run i files) (run j files') files files' where
  exitStatus := by simp only [Report.exitStatus, hi.failure, hj.failure]
  output := by rw [hi.output, hj.output]
  files := by
    rw [hi.files, hj.files]
    exact hchange

theorem ends_of_refused (h : Refused i.words) :
    ∃ failure, failure.exitStatus = 2 ∧ (run i files).Ends (some failure) files [] := by
  obtain ⟨e, hp, hcomplaint⟩ := h
  obtain ⟨hstatus, hlines⟩ := exitStatus_of_complaint hcomplaint
  refine ⟨.usage e, hstatus, ?_⟩
  rw [← hlines]
  exact run_ends_of_stops (.usage hp)

theorem outcome_of_refused (hi : Refused i.words) (hj : Refused j.words) :
    SameOutcome (run i files) (run j files') files files' := by
  obtain ⟨failure, hstatus, hends⟩ := ends_of_refused hi
  obtain ⟨failure', hstatus', hends'⟩ := ends_of_refused hj
  constructor
  · rw [hends.exitStatus_of_error, hends'.exitStatus_of_error, hstatus, hstatus']
  · rw [hends.output, hends'.output]
  · exact .unchanged hends.files hends'.files

theorem SameButLogging.exists_ends (h : SameButLogging i files j files')
    (same : (parse i.words).map Arguments.unlogged = (parse j.words).map Arguments.unlogged)
    (htorn : Torn i files ↔ Torn j files') :
    ∃ failure? after after' lines, (run i files).Ends failure? after lines ∧
      (run j files').Ends failure? after' lines ∧ files.SameChange after files' after' := by
  -- Both runs are torn or neither is. A run that is not goes by its plan or its stage alone.
  by_cases hi : Torn i files
  · exact ⟨_, _, _, _, run_ends_of_stops (torn_iff_stops.1 hi),
      run_ends_of_stops (torn_iff_stops.1 (htorn.1 hi)), .unchanged rfl rfl⟩
  have hj : ¬Torn j files' := fun torn => hi (htorn.2 torn)
  rcases stops_or_plan i files with ⟨failure, hs⟩ | ⟨p, whole⟩
  · have hne : failure ≠ .crash .tornFilter := fun torn => hi (torn_iff_stops.2 (torn ▸ hs))
    exact ⟨_, _, _, _, run_ends_of_stops hs, run_ends_of_stops (h.stops same hj hs hne),
      .unchanged rfl rfl⟩
  · obtain ⟨p', hwork⟩ := h.plan same p
    have whole' : p'.FilterIsWhole := filterIsWhole_of_not_torn hj p'.parsed p'.configured
    obtain ⟨hread, hwritable⟩ : (∀ dryRun, p.arguments.action = .generate dryRun →
        files.read p.options.templatePath = files'.read p.options.templatePath) ∧
        ∀ path, files.writable path = files'.writable path := by
      cases h.files with
      | same => exact ⟨fun _ _ => rfl, fun _ => rfl⟩
      | relogged elsewhere _ notRendered =>
        refine ⟨fun dryRun hact => elsewhere.read_eq fun entry hfind => ?_, elsewhere.writable_eq⟩
        exact notRendered p ⟨⟨dryRun, hact⟩, entry, hfind⟩
    obtain ⟨result, after, after', lines, hw, hw', hchange⟩ := p.sameEffect_work hread hwritable
    rw [← hwork] at hw'
    exact ⟨_, _, _, _, run_ends_of_plan p whole hw, run_ends_of_plan p' whole' hw', hchange⟩

end Plans

section Levels

variable {i j : Invocation} {first second : Log.Threshold} (h : SameButLevel i j first second)
include h

theorem SameButLevel.alikeButLogging :
    i.environment.AlikeBut Environment.logNames j.environment := by
  refine ⟨h.environment.home, fun name hname => h.environment.get? name fun hm => hname ?_⟩
  simp only [List.mem_cons, List.not_mem_nil, or_false] at hm
  simp [Environment.logNames, hm]

theorem SameButLevel.begin_eq : begin i = begin j := by
  have hload : ∀ path?, Config.load i.environment path? = Config.load j.environment path? := by
    intro path?
    have hoverlaid : ∀ name ∈ Config.overlaidNames,
        i.environment.get? name = j.environment.get? name := by
      intro name hm
      refine h.environment.get? name fun hlevel => ?_
      simp only [List.mem_cons, List.not_mem_nil, or_false] at hlevel
      subst hlevel
      exact absurd hm (by decide)
    have hover : ∀ config : Config,
        config.withEnvironment i.environment = config.withEnvironment j.environment :=
      Config.withEnvironment_congr hoverlaid
    have hpaths := Config.standardPaths_congr h.environment.home
    cases path? with
    | none => simp only [Config.load, Config.choosePath, hpaths, hover]
    | some path => simp only [Config.load, Config.choosePath, hover]
  simp only [begin, h.words, hload]

omit h in
theorem logSettings_of_level {env : Environment} {threshold : Log.Threshold}
    (hlevel : ∃ word, env.get? "RUST_LOG" = some word ∧ Log.IsLevel word threshold)
    (session : Session) : session.logSettings env =
      ⟨!session.arguments.noColor, { filter := .upTo threshold }⟩ := by
  obtain ⟨word, hword, hlevel⟩ := hlevel
  simp only [Session.logSettings, hword, Option.map_some, hlevel.reading]
  rfl

omit h in
theorem conduct_of_level {env : Environment} {threshold : Log.Threshold}
    (hlevel : ∃ word, env.get? "RUST_LOG" = some word ∧ Log.IsLevel word threshold)
    (session : Session) (host : Except BuildError Host) :
    session.conduct env host = session.carryOut host := by
  refine Session.conduct_of_whole ?_ host
  rw [Session.FilterIsWhole, logSettings_of_level hlevel]

theorem SameButLevel.events_eq (files : File.Tree) :
    (run i files).events = (run j files).events ∧
      (run i files).failure? = (run j files).failure? := by
  have hhost := host_eq h.alikeButLogging h.machine
  simp only [run, h.begin_eq, hhost, conduct_of_level h.first, conduct_of_level h.second]
  cases ((begin j).actOn files).result with
  | error failure => exact ⟨rfl, rfl⟩
  | ok session => exact ⟨rfl, rfl⟩

theorem SameButLevel.logLines_sublist (hle : first ≤ second) (files : File.Tree) (time : String) :
    ((run i files).logLines time).Sublist ((run j files).logLines time) := by
  have hhost := host_eq h.alikeButLogging h.machine
  simp only [run, h.begin_eq, hhost, conduct_of_level h.first, conduct_of_level h.second]
  cases ((begin j).actOn files).result with
  | error failure => exact .refl _
  | ok session =>
    simp only [Report.logLines, logSettings_of_level h.first, logSettings_of_level h.second]
    exact Log.lines_sublist_of_le hle _ _ _

end Levels

/--
Command lines that differ in switches for logging only ask for the same, unless one of them is
refused and the other is not; contents whose documents differ in texts of the logging section only
configure the same. Runs that differ in nothing but how they are to be logged end with the same
status, tell the same and do the same to the files, unless the filter of just one of them breaks it
off. Under two levels in the environment a run has the same events and tells its failure alike, and
the stricter level shows a part of the lines that the other one shows.
-/
theorem logging_never_shows (i j : Invocation) (files files' : File.Tree) :
    (∀ words words', withoutSwitches words = withoutSwitches words' →
      (Refused words ↔ Refused words') → SameRequest words words') ∧
    (∀ content content' text text' d d', String.fromUTF8? content = some text →
      String.fromUTF8? content' = some text' → Yaml.Document.ofText text.toList = .ok d →
      Yaml.Document.ofText text'.toList = .ok d' → Config.Relogged d d' →
      SaysAlike content content') ∧
    (SameButLogging i files j files' → (Torn i files ↔ Torn j files') →
      SameOutcome (run i files) (run j files') files files' ∧
      (¬Refused i.words → (run i files).failureLines = (run j files').failureLines)) ∧
    ∀ first second, SameButLevel i j first second → first ≤ second →
      (run i files).events = (run j files).events ∧
      (∀ time, ((run i files).logLines time).Sublist ((run j files).logLines time)) ∧
      (run i files).failureLines = (run j files).failureLines := by
  refine ⟨fun words words' => sameRequest_of_withoutSwitches, ?_, fun h htorn => ?_, ?_⟩
  · intro content content' text text' d d' decoded decoded' parsed parsed' hd
    exact Config.saysAlike_of_relogged decoded decoded' parsed parsed' hd
  · cases h.words with
    | refused hfirst hsecond =>
      exact ⟨outcome_of_refused hfirst hsecond, fun hnot => absurd hfirst hnot⟩
    | read same =>
      obtain ⟨failure?, after, after', lines, hi, hj, hchange⟩ := h.exists_ends same htorn
      refine ⟨outcome_of_ends hi hj hchange, fun _ => ?_⟩
      simp only [Report.failureLines, hi.failure, hj.failure]
  · intro first second h hle
    refine ⟨(h.events_eq files).1, h.logLines_sublist hle files, ?_⟩
    simp only [Report.failureLines, (h.events_eq files).2]

def productionWords (sourceDir template : String) : List String :=
  ["generate", "--spath=" ++ sourceDir, "--template=" ++ template, "--build-time=now",
    "--compiler=cc"]

def loggedCall (words : List String) (settings : List (String × String)) : Invocation where
  words := words
  environment := { entries := settings }
  machine := .ok ⟨"linux", "x86_64", "6.1", "cpu", "Linux", "ci"⟩

def levelText (level : String) : String := "logging:\n  level: " ++ level ++ "\n"

def templateFiles : File.Tree where
  workingDirectory := ["work"]
  entries := [(["work", "src"], .directory), (["work", "build"], .directory),
    (["work", "src", "configure.h.in"], .file "#define MODE @mode@\n".toUTF8)]

def leveledFiles (level : String) : File.Tree :=
  templateFiles.put ["work", "confgen.yaml"] (.file (levelText level).toUTF8)

/--
A configuration that is the template of the run brings its level into the output, a switch that is
given twice is refused, and a level that is torn breaks the run off.
-/
theorem logging_shows_in_own_template :
    (Config.ofYaml (levelText "info")).toOption = some { logging := { level := "info" } } ∧
    (Config.ofYaml (levelText "debug")).toOption = some { logging := { level := "debug" } } ∧
    (run (loggedCall (productionWords "." "confgen.yaml") []) (leveledFiles "info")).output =
      ["Generated build/configure.h (0 substitutions, 23 bytes)"] ∧
    (run (loggedCall (productionWords "." "confgen.yaml") []) (leveledFiles "debug")).output =
      ["Generated build/configure.h (0 substitutions, 24 bytes)"] ∧
    (run (loggedCall (productionWords "." "confgen.yaml") []) (leveledFiles "info")).files.lookup
      ["work", "build", "configure.h"] = some (.file (levelText "info").toUTF8) ∧
    (run (loggedCall (productionWords "." "confgen.yaml") []) (leveledFiles "debug")).files.lookup
      ["work", "build", "configure.h"] = some (.file (levelText "debug").toUTF8) ∧
    (run (loggedCall ["-v", "vars"] []) (leveledFiles "info")).exitStatus = 0 ∧
    (run (loggedCall ["-v", "-v", "vars"] []) (leveledFiles "info")).exitStatus = 2 ∧
    (run (loggedCall ["vars"] [("CONFGEN_LOG_LEVEL", "info")]) templateFiles).exitStatus = 0 ∧
    (run (loggedCall ["vars"] [("CONFGEN_LOG_LEVEL", " é=info")]) templateFiles).exitStatus =
      101 := by
  decide +kernel

section

open Yaml (Document)

def levelDocument (level : String) : Document :=
  Config.documentOf [] [(.scalar { text := "logging".toList },
    .mapping [(.scalar { text := "level".toList }, .scalar { text := level.toList })])]

theorem leveledFiles_not_rendered (settings : List (String × String))
    (p : Plan (loggedCall ("-v" :: productionWords "src" "configure.h.in") settings)
      (leveledFiles "info")) : ¬p.Renders ["work", "confgen.yaml"] := by
  rintro ⟨_, entry, hfind⟩
  have hp : parse ("-v" :: productionWords "src" "configure.h.in") =
      .ok { action := .generate false, verbose := true
            build := { buildTime := some "now", compiler := some "cc",
                       template := some "configure.h.in" } } := rfl
  have hpath : p.options.templatePath = "src/configure.h.in" := by
    show File.joinPath p.arguments.build.sourceDir
      (p.arguments.build.template.getD p.config.template) = _
    rw [p.arguments_eq hp]
    exact (by decide : File.joinPath "src" "configure.h.in" = "src/configure.h.in")
  have hplace : ((leveledFiles "info").find "src/configure.h.in").toOption.map Prod.fst =
      some ["work", "src", "configure.h.in"] := by
    decide +kernel
  rw [← hpath, hfind] at hplace
  simp [Except.toOption] at hplace

theorem alikeBut_of_names {names : List String} {entries entries' : List (String × String)}
    (h : ∀ entry ∈ entries ++ entries', entry.1 ∈ names) :
    ({ entries } : Environment).AlikeBut names { entries := entries' } := by
  refine ⟨rfl, fun name hname => ?_⟩
  have hnone : ∀ rows : List (String × String), (∀ entry ∈ rows, entry.1 ∈ names) →
      rows.lookup name = none := by
    intro rows hrows
    refine List.lookup_eq_none_iff.2 fun entry hm => ?_
    have hne : name ≠ entry.1 := fun same => hname (same ▸ hrows entry hm)
    simpa using hne
  show entries.lookup name = entries'.lookup name
  rw [hnone _ fun entry hm => h entry (List.mem_append_left _ hm),
    hnone _ fun entry hm => h entry (List.mem_append_right _ hm)]

theorem not_refused {words : List String} {arguments : Arguments}
    (h : parse words = .ok arguments) : ¬Refused words := by
  rintro ⟨e, he, _⟩
  simp [h] at he

theorem not_torn_of_exitStatus {i : Invocation} {files : File.Tree}
    (h : (run i files).exitStatus = 0) : ¬Torn i files := by
  intro torn
  rw [Report.exitStatus, torn] at h
  exact absurd h (by decide)

theorem logging_never_shows_in_one_production :
    SameRequest ("-v" :: productionWords "src" "configure.h.in")
      (productionWords "src" "configure.h.in" ++ ["--no-color"]) ∧
    SaysAlike (levelText "info").toUTF8 (levelText "debug").toUTF8 ∧
    SameOutcome
      (run (loggedCall ("-v" :: productionWords "src" "configure.h.in") [("RUST_LOG", "trace")])
        (leveledFiles "info"))
      (run (loggedCall (productionWords "src" "configure.h.in" ++ ["--no-color"])
        [("CONFGEN_LOG_LEVEL", "error")]) (leveledFiles "debug"))
      (leveledFiles "info") (leveledFiles "debug") ∧
    ((run (loggedCall ["vars"] [("RUST_LOG", "warn")]) templateFiles).logLines "now").Sublist
      ((run (loggedCall ["vars"] [("RUST_LOG", "debug")]) templateFiles).logLines "now") := by
  obtain ⟨words, documents, runs, -⟩ := logging_never_shows
    (loggedCall ("-v" :: productionWords "src" "configure.h.in") [("RUST_LOG", "trace")])
    (loggedCall (productionWords "src" "configure.h.in" ++ ["--no-color"])
      [("CONFGEN_LOG_LEVEL", "error")])
    (leveledFiles "info") (leveledFiles "debug")
  obtain ⟨-, -, -, levels⟩ := logging_never_shows (loggedCall ["vars"] [("RUST_LOG", "warn")])
    (loggedCall ["vars"] [("RUST_LOG", "debug")]) templateFiles templateFiles
  have hrequest : SameRequest ("-v" :: productionWords "src" "configure.h.in")
      (productionWords "src" "configure.h.in" ++ ["--no-color"]) :=
    words _ _ (by decide) (iff_of_false (not_refused rfl) (not_refused rfl))
  have hinfo : Document.ofText (levelText "info").toList = .ok (levelDocument "info") :=
    Except.eq_ok_of_toOption (by decide +kernel)
  have hdebug : Document.ofText (levelText "debug").toList = .ok (levelDocument "debug") :=
    Except.eq_ok_of_toOption (by decide +kernel)
  have hcontents : SaysAlike (levelText "info").toUTF8 (levelText "debug").toUTF8 :=
    documents _ _ _ _ _ _ (by decide +kernel) (by decide +kernel) hinfo hdebug
      (.logging [] [] rfl rfl rfl rfl)
  have hruns : SameButLogging
      (loggedCall ("-v" :: productionWords "src" "configure.h.in") [("RUST_LOG", "trace")])
      (leveledFiles "info")
      (loggedCall (productionWords "src" "configure.h.in" ++ ["--no-color"])
        [("CONFGEN_LOG_LEVEL", "error")]) (leveledFiles "debug") :=
    ⟨hrequest, alikeBut_of_names (by decide), rfl,
      .relogged (File.Tree.alikeBut_put rfl _ _) hcontents (leveledFiles_not_rendered _)⟩
  have hlevels : SameButLevel (loggedCall ["vars"] [("RUST_LOG", "warn")])
      (loggedCall ["vars"] [("RUST_LOG", "debug")]) Log.Level.warn.rank Log.Level.debug.rank :=
    ⟨rfl, alikeBut_of_names (by decide), rfl, ⟨"warn", rfl, by simp, by decide⟩,
      ⟨"debug", rfl, by simp, by decide⟩⟩
  have hfirst : ¬Torn
      (loggedCall ("-v" :: productionWords "src" "configure.h.in") [("RUST_LOG", "trace")])
      (leveledFiles "info") := not_torn_of_exitStatus (by decide +kernel)
  have hsecond : ¬Torn
      (loggedCall (productionWords "src" "configure.h.in" ++ ["--no-color"])
        [("CONFGEN_LOG_LEVEL", "error")]) (leveledFiles "debug") :=
    not_torn_of_exitStatus (by decide +kernel)
  exact ⟨hrequest, hcontents, (runs hruns (iff_of_false hfirst hsecond)).1,
    (levels _ _ hlevels (by decide)).2.1 "now"⟩

end

end Run

end BuildHeader
