import BuildHeader.Proofs.Build.Builtins
import BuildHeader.Proofs.CommandLine.Items
import BuildHeader.Proofs.Run.Plan

/-!
What a failed run is about, and whether its message says so. Every stage that can fail has one
thing that it could not use: a path, an item, a version or the name of a variable. The message
names it in all cases but one: a configuration that is there and cannot be read is told by the bare
fault of the file.
-/

set_option autoImplicit false

namespace BuildHeader.Run

open CommandLine (Arguments Malformed)
open Template (Fits HoldsText Offends Unreadable Usable)

def Mentions (text part : String) : Prop := part.toList <:+: text.toList

instance (text part : String) : Decidable (Mentions text part) :=
  inferInstanceAs (Decidable (part.toList <:+: text.toList))

theorem mentions_at_end (before part : String) : Mentions (before ++ part) part :=
  ⟨before.toList, [], by simp⟩

theorem Mentions.append {text part : String} (h : Mentions text part) (after : String) :
    Mentions (text ++ after) part := by
  obtain ⟨first, last, hs⟩ := h
  exact ⟨first, last ++ after.toList, by simp [← hs]⟩

theorem Mentions.prepend {text part : String} (h : Mentions text part) (before : String) :
    Mentions (before ++ text) part := by
  obtain ⟨first, last, hs⟩ := h
  exact ⟨before.toList ++ first, last, by simp [← hs]⟩

/-- The two ways of generating tell an error of the template in words of their own. -/
inductive Plan.Tells {i : Invocation} {files : File.Tree} (p : Plan i files)
    (e : Template.Error) : Failure → Prop where
  | rehearsal (action : p.arguments.action = .generate true) : p.Tells e (.template e)
  | production (action : p.arguments.action = .generate false) : p.Tells e (.generation e)

/-- What the first stage of a run that fails could not use, and the failure it ends in. -/
inductive Culprit (i : Invocation) (files : File.Tree) : Failure → String → Prop where
  | config {arguments : Arguments} {path : String} {e : Config.LoadError}
    (parsed : CommandLine.parse i.words = .ok arguments)
    (chosen : Config.chosen? i.environment arguments.config files = some path)
    (broken : Config.Broken files path e) : Culprit i files (.config e) path
  | item {arguments : Arguments} {found : Config} {before after : List String} {item : String}
    (parsed : CommandLine.parse i.words = .ok arguments)
    (configured : Config.found i.environment arguments.config files = .ok found)
    (given : arguments.build.vars = before ++ item :: after)
    (sound : ∀ other ∈ before, ¬Malformed other) (malformed : Malformed item) :
    Culprit i files (.item ⟨item⟩) item
  | version {arguments : Arguments} {found : Config} {items : Bindings} {fault : Version.Fault}
    (parsed : CommandLine.parse i.words = .ok arguments)
    (configured : Config.found i.environment arguments.config files = .ok found)
    (itemized : CommandLine.readVariables arguments.build.vars = .ok items)
    (unparsed : Version.parse arguments.build.version = .error fault) :
    Culprit i files (.build (.invalidVersion arguments.build.version fault.reason))
      arguments.build.version
  | template (p : Plan i files) {e : Template.Error} {failure : Failure}
    (told : p.Tells e failure)
    (unreadable : Unreadable p.options.templatePath (files.read p.options.templatePath) e) :
    Culprit i files failure p.options.templatePath
  | name (p : Plan i files) {text : String} {before after : List (String × Option String)}
    {entry : String × Option String} {e : Template.Error} {failure : Failure}
    (told : p.Tells e failure) (held : HoldsText files p.options.templatePath text)
    (listed : p.vars.entries = before ++ entry :: after)
    (sound : ∀ other ∈ before, Fits p.config.delimiter other.1 ∧ other.2.isSome)
    (offends : Offends p.config.delimiter entry e) : Culprit i files failure entry.1
  | output (p : Plan i files) {text : String} {fault : File.Fault}
    (action : p.arguments.action = .generate false)
    (held : HoldsText files p.options.templatePath text)
    (usable : Usable p.config.delimiter p.vars)
    (blocked : files.writable p.options.outputPath = .error fault) :
    Culprit i files (.generation (.writeFailed p.options.outputPath fault)) p.options.outputPath

section Messages

theorem mentions_of_broken {files : File.Tree} {path : String} {e : Config.LoadError}
    (h : Config.Broken files path e) (read : ∀ fault, e ≠ .unreadable path fault) :
    Mentions e.message path := by
  cases h with
  | absent gone => exact mentions_at_end _ _
  | faulty unread => exact absurd rfl (read _)
  | noText readable undecoded => exact absurd rfl (read _)
  | invalid readable decoded refused => exact ((mentions_at_end _ _).append _).append _

theorem mentions_of_unreadable {path : String} {answer : Except File.Fault ByteArray}
    {e : Template.Error} (h : Unreadable path answer e) : Mentions e.message path := by
  cases h with
  | absent => exact mentions_at_end _ _
  | faulty there => exact ((mentions_at_end _ _).append _).append _
  | noText undecoded => exact ((mentions_at_end _ _).append _).append _

theorem mentions_of_offends {d : Char} {entry : String × Option String} {e : Template.Error}
    (h : Offends d entry e) : Mentions e.message entry.1 := by
  cases h with
  | name misfit => exact (((mentions_at_end _ _).append _).append _).append _
  | value fits => exact (mentions_at_end _ _).append _

theorem mentions_of_writeFailed (path : String) (fault : File.Fault) :
    Mentions (Template.Error.writeFailed path fault).message path :=
  ((mentions_at_end _ _).append _).append _

theorem Plan.Tells.mentions {i : Invocation} {files : File.Tree} {p : Plan i files}
    {e : Template.Error} {failure : Failure} (h : p.Tells e failure) {part : String}
    (hm : Mentions e.message part) : Mentions failure.message part := by
  cases h with
  | rehearsal action => exact hm
  | production action => exact hm.prepend _

theorem Failure.head?_lines {failure : Failure} (h : failure.exitStatus = 1) :
    failure.lines.head? = some ("Error: " ++ failure.message) := by
  cases failure with
  | usage e => cases e <;> simp [exitStatus] at h
  | crash c => simp [exitStatus] at h
  | config | item | build | template | generation => rfl

theorem Culprit.mentions {i : Invocation} {files : File.Tree} {failure : Failure}
    {culprit : String} (h : Culprit i files failure culprit)
    (read : ∀ fault, failure ≠ .config (.unreadable culprit fault)) :
    Mentions failure.message culprit := by
  cases h with
  | config parsed chosen broken =>
    exact mentions_of_broken broken fun fault same => read fault (congrArg Failure.config same)
  | item parsed configured given sound malformed => exact (mentions_at_end _ _).append _
  | version parsed configured itemized unparsed =>
    exact ((mentions_at_end _ _).append _).append _
  | template p told unreadable => exact told.mentions (mentions_of_unreadable unreadable)
  | name p told held listed sound offends => exact told.mentions (mentions_of_offends offends)
  | output p action held usable blocked => exact (mentions_of_writeFailed _ _).prepend _

end Messages

section Run

variable {i : Invocation} {files : File.Tree}

theorem culprit_of_stops {machine : Machine} (hm : i.machine = .ok machine) {failure : Failure}
    (h : Stops i files failure) (hx : failure.exitStatus = 1) :
    ∃ culprit, Culprit i files failure culprit := by
  cases h with
  | @usage e parsed => cases e <;> simp [Failure.exitStatus] at hx
  | config parsed configured =>
    obtain ⟨path, chosen, broken⟩ := Config.broken_of_found configured
    exact ⟨path, .config parsed chosen broken⟩
  | logging => simp [Failure.exitStatus] at hx
  | item parsed configured whole itemized =>
    obtain ⟨before, after, given, sound, malformed⟩ :=
      (CommandLine.readVariables_eq_error_iff ..).1 itemized
    exact ⟨_, .item parsed configured given sound malformed⟩
  | @build arguments found items e parsed configured whole itemized assembled =>
    rw [Invocation.host, hm] at assembled
    obtain ⟨fault, unparsed, rfl⟩ := Options.toMapping_eq_error_iff.1 assembled
    exact ⟨_, .version parsed configured itemized unparsed⟩

theorem Plan.culprit_of_rendering (p : Plan i files) {e : Template.Error} {failure : Failure}
    (told : p.Tells e failure)
    (h : Template.rendering p.config.delimiter p.vars p.options.templatePath files = .error e) :
    ∃ culprit, Culprit i files failure culprit := by
  rcases (Template.rendering_eq_error_iff ..).1 h with hu | ⟨⟨text, held⟩, offence⟩
  · exact ⟨_, .template p told hu⟩
  · obtain ⟨before, entry, after, listed, sound, offends⟩ := offence
    exact ⟨_, .name p told held listed sound offends⟩

theorem Plan.culprit_of_work (p : Plan i files) {failure : Failure}
    (h : (p.work.quietOn files).result = .error failure) (hx : failure.exitStatus = 1) :
    ∃ culprit, Culprit i files failure culprit := by
  cases ha : p.arguments.action with
  | vars format =>
    simp only [work, ha, quietOn_printListing] at h
    split at h
    · obtain rfl := Except.error.inj h
      simp [Failure.exitStatus] at hx
    · cases h
  | generate dryRun =>
    cases hr : Template.rendering p.config.delimiter p.vars p.options.templatePath files with
    | error e =>
      refine p.culprit_of_rendering ?_ hr
      cases dryRun with
      | true =>
        simp only [work, ha, result_rehearse, hr, Except.error.injEq] at h
        exact h ▸ .rehearsal ha
      | false =>
        simp only [work, ha, result_produce, hr, Except.error.injEq] at h
        exact h ▸ .production ha
    | ok rendered =>
      obtain ⟨⟨text, held⟩, usable⟩ := (Template.exists_rendering_iff ..).1 ⟨rendered, hr⟩
      cases dryRun with
      | true => simp [work, ha, result_rehearse, hr] at h
      | false =>
        cases hw : files.writable p.options.outputPath with
        | ok place => simp [work, ha, result_produce, hr, hw] at h
        | error fault =>
          simp only [work, ha, result_produce, hr, hw, Except.error.injEq] at h
          exact ⟨_, h ▸ Culprit.output p ha held usable hw⟩

theorem exists_culprit {machine : Machine} (hm : i.machine = .ok machine)
    (hx : (run i files).exitStatus = 1) :
    ∃ failure culprit, (run i files).failure? = some failure ∧
      Culprit i files failure culprit := by
  rcases stops_or_plan i files with ⟨failure, hs⟩ | ⟨p, whole⟩
  · have hends := run_ends_of_stops hs
    rw [hends.exitStatus_of_error] at hx
    obtain ⟨culprit, hc⟩ := culprit_of_stops hm hs hx
    exact ⟨failure, culprit, hends.failure, hc⟩
  · have hends : (run i files).Ends (failureOf? (p.work.quietOn files).result) _ _ :=
      run_ends_of_plan p whole rfl
    cases hw : (p.work.quietOn files).result with
    | ok _ =>
      rw [hw] at hends
      simp [hends.exitStatus_of_ok] at hx
    | error failure =>
      rw [hw] at hends
      rw [hends.exitStatus_of_error] at hx
      obtain ⟨culprit, hc⟩ := p.culprit_of_work hw hx
      exact ⟨failure, culprit, hends.failure, hc⟩

end Run

/--
A run that fails has a culprit, and its message names it, unless it is a configuration that is
there and cannot be read: then the fault of the file is all that is told.
-/
theorem failure_names_culprit {i : Invocation} {files : File.Tree} {machine : Machine}
    (collected : i.machine = .ok machine) (failed : (run i files).exitStatus = 1) :
    (∃ failure culprit, (run i files).failure? = some failure ∧
      Culprit i files failure culprit) ∧
    ∀ failure culprit, (run i files).failure? = some failure → Culprit i files failure culprit →
      (run i files).failureLines.head? = some ("Error: " ++ failure.message) ∧
      ((∀ fault, failure ≠ .config (.unreadable culprit fault)) →
        Mentions failure.message culprit) ∧
      ∀ fault, failure = .config (.unreadable culprit fault) →
        failure.message = fault.message := by
  refine ⟨exists_culprit collected failed, fun failure culprit told blamed => ⟨?_, ?_, ?_⟩⟩
  · have status : failure.exitStatus = 1 := by simpa [Report.exitStatus, told] using failed
    simp only [Report.failureLines, told, Option.map_some, Option.getD_some]
    exact failure.head?_lines status
  · exact blamed.mentions
  · rintro fault rfl
    rfl

def misversionedCall : Invocation where
  words := ["vars", "--version=1.2.x"]
  environment := {}
  machine := .ok ⟨"linux", "x86_64", "6.1", "cpu", "Linux", "ci"⟩

def bareFiles : File.Tree where
  workingDirectory := ["work"]

theorem failure_names_bad_version :
    (run misversionedCall bareFiles).failureLines.head? =
      some "Error: Invalid version '1.2.x': component 'x' is not a number" ∧
    Mentions "Invalid version '1.2.x': component 'x' is not a number" "1.2.x" := by
  have failed : (run misversionedCall bareFiles).exitStatus = 1 := by decide +kernel
  have parsed : CommandLine.parse misversionedCall.words =
      .ok { action := .vars .text, build := { version := "1.2.x" } } := rfl
  have configured : Config.found misversionedCall.environment none bareFiles = .ok {} := rfl
  have itemized : CommandLine.readVariables [] = .ok .empty := rfl
  have unparsed : Version.parse "1.2.x" = .error (.notANumber "x") := rfl
  have told : (run misversionedCall bareFiles).failure? =
      some (.build (.invalidVersion "1.2.x" (Version.Fault.notANumber "x").reason)) := by
    decide +kernel
  obtain ⟨first, named, _⟩ := (failure_names_culprit rfl failed).2 _ _ told
    (.version parsed configured itemized unparsed)
  exact ⟨first, named fun fault => nofun⟩

def directoryCall : Invocation where
  words := ["--config", "conf.d", "vars"]
  environment := {}
  machine := .ok ⟨"linux", "x86_64", "6.1", "cpu", "Linux", "ci"⟩

def directoryFiles : File.Tree where
  workingDirectory := ["work"]
  entries := [(["work", "conf.d"], .directory)]

theorem unreadable_config_is_not_named :
    (run directoryCall directoryFiles).exitStatus = 1 ∧
    Culprit directoryCall directoryFiles (.config (.unreadable "conf.d" .isADirectory))
      "conf.d" ∧
    (run directoryCall directoryFiles).failure? =
      some (.config (.unreadable "conf.d" .isADirectory)) ∧
    ∀ line ∈ (run directoryCall directoryFiles).failureLines, ¬Mentions line "conf.d" := by
  have parsed : CommandLine.parse directoryCall.words =
      .ok { config := some "conf.d", action := .vars .text } := rfl
  refine ⟨by decide +kernel, .config parsed rfl (.faulty rfl), by decide +kernel, ?_⟩
  decide +kernel

end BuildHeader.Run
