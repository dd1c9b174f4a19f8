import BuildHeader.Proofs.CommandLine.ProjectVersion

set_option autoImplicit false

namespace BuildHeader.CommandLine

def Format.word : Format → String
  | .text => "text"
  | .json => "json"

def Action.command : Action → Command
  | .generate _ => .generate
  | .vars _ => .vars

def Command.plain : Command → Arguments
  | .generate => { action := .generate false }
  | .vars => { action := .vars .text }

def switchValues (set : Bool) : List String := if set then [""] else []

namespace Arguments

def values (a : Arguments) : Flag → List String
  | .help | .toolVersion => []
  | .verbose => switchValues a.verbose
  | .config => a.config.toList
  | .noColor => switchValues a.noColor
  | .sourceDir => [a.build.sourceDir]
  | .destDir => [a.build.destDir]
  | .version => [a.build.version]
  | .buildVersion => [a.build.buildVersion]
  | .buildTime => a.build.buildTime.toList
  | .compiler => a.build.compiler.toList
  | .debug => [if a.build.debug then "y" else "n"]
  | .author => a.build.author.toList
  | .template => a.build.template.toList
  | .output => a.build.output.toList
  | .var => a.build.vars
  | .dryRun =>
    match a.action with
    | .generate dryRun => switchValues dryRun
    | .vars _ => []
  | .format =>
    match a.action with
    | .generate _ => []
    | .vars format => [format.word]

def options (a : Arguments) : List Given :=
  (Scope.under a.action.command).settings.flatMap fun flag => (a.values flag).map (Given.mk flag)

structure HasPaths (a : Arguments) : Prop where
  sourceDir : a.build.sourceDir ≠ ""
  destDir : a.build.destDir ≠ ""
  config : a.config ≠ some ""

end Arguments

def Given.word (g : Given) : String :=
  if g.flag.takesValue then "--" ++ g.flag.long ++ "=" ++ g.value else "--" ++ g.flag.long

/-- The line with the command in front and all of its options behind it. -/
def Arguments.words (a : Arguments) : List String :=
  a.action.command.name :: a.options.map Given.word

/--
The options of the first list stand before the command and those of the second one behind it.
Together they are the options that are asked for, but for some that have their default.
-/
structure Arrangement (a : Arguments) (top under : List Given) : Prop where
  complete : ∃ omitted, (∀ g ∈ omitted, g ∈ a.action.command.plain.options) ∧
    (omitted ++ (top ++ under)).Perm a.options
  inOrder : valuesOf (top ++ under) .var = a.build.vars
  common : ∀ g ∈ top, g.flag ∈ Scope.top.settings

section Values

variable {a : Arguments} {flag : Flag}

theorem mem_settings_of_values (h : a.values flag ≠ []) :
    flag ∈ (Scope.under a.action.command).settings := by
  have hcases : ∀ command : Command, flag ∈ (Scope.under command).settings ∨ flag = .help ∨
      flag = .toolVersion ∨ flag = .dryRun ∧ command = .vars ∨
      flag = .format ∧ command = .generate := by
    intro command
    cases command <;> cases flag <;> decide
  rcases hcases a.action.command with hmem | rfl | rfl | ⟨rfl, hcommand⟩ | ⟨rfl, hcommand⟩
  · exact hmem
  · exact absurd rfl h
  · exact absurd rfl h
  · cases haction : a.action with
    | generate dryRun => simp [haction, Action.command] at hcommand
    | vars format => simp [Arguments.values, haction] at h
  · cases haction : a.action with
    | generate dryRun => simp [Arguments.values, haction] at h
    | vars format => simp [haction, Action.command] at hcommand

theorem mem_options {g : Given} : g ∈ a.options ↔ g.value ∈ a.values g.flag := by
  simp only [Arguments.options, List.mem_flatMap, List.mem_map]
  constructor
  · rintro ⟨flag, -, value, hvalue, rfl⟩
    exact hvalue
  · exact fun h => ⟨g.flag, mem_settings_of_values (List.ne_nil_of_mem h), g.value, h, rfl⟩

theorem valuesOf_map_mk (values : List String) (flag other : Flag) :
    valuesOf (values.map (Given.mk flag)) other = if flag = other then values else [] := by
  by_cases h : flag = other <;> simp [valuesOf, List.filter_map, Function.comp_def, h]

theorem valuesOf_flatMap (values : Flag → List String) {flags : List Flag} (h : flags.Nodup)
    (flag : Flag) :
    valuesOf (flags.flatMap fun flag => (values flag).map (Given.mk flag)) flag =
      if flag ∈ flags then values flag else [] := by
  induction flags with
  | nil => rfl
  | cons first rest ih =>
    obtain ⟨hnew, hrest⟩ := List.nodup_cons.1 h
    rw [List.flatMap_cons, valuesOf_append, valuesOf_map_mk, ih hrest]
    by_cases hfirst : first = flag
    · subst hfirst
      simp [hnew]
    · simp [hfirst, Ne.symm hfirst]

theorem nodup_settings (scope : Scope) : scope.settings.Nodup := by
  cases scope with
  | top => decide
  | under command => cases command <;> decide

theorem valuesOf_options (a : Arguments) (flag : Flag) :
    valuesOf a.options flag = a.values flag := by
  rw [Arguments.options, valuesOf_flatMap _ (nodup_settings _)]
  split
  · rfl
  · rename_i h
    exact (Classical.not_not.1 fun hne => h (mem_settings_of_values hne)).symm

theorem isSome_head?_switchValues (set : Bool) : (switchValues set).head?.isSome = set := by
  cases set <;> rfl

theorem eq_empty_of_mem_switchValues {set : Bool} {value : String} (h : value ∈ switchValues set) :
    value = "" := by
  cases set with
  | true => exact List.mem_singleton.1 h
  | false => cases h

theorem length_switchValues_le (set : Bool) : (switchValues set).length ≤ 1 := by
  cases set <;> decide

theorem length_values_le (a : Arguments) (h : flag.isRepeatable = false) :
    (a.values flag).length ≤ 1 := by
  obtain ⟨action, build, verbose, noColor, config⟩ := a
  cases flag with
  | verbose | noColor => exact length_switchValues_le _
  | config | buildTime | compiler | author | template | output => exact Option.length_toList_le
  | var => cases h
  | dryRun => cases action with
    | generate dryRun => exact length_switchValues_le dryRun
    | vars format => exact Nat.zero_le 1
  | format => cases action <;> simp [Arguments.values]
  | _ => simp [Arguments.values]

theorem eq_of_perm_of_length_le {values values' : List String} (h : values.Perm values')
    (hlength : values'.length ≤ 1) : values = values' := by
  match values', hlength with
  | [], _ => exact h.eq_nil
  | [value], _ => exact h.eq_singleton

theorem format?_word (format : Format) : format? format.word = some format := by
  cases format <;> decide

theorem checkValue_of_mem_options (ha : a.HasPaths) {g : Given} (h : g ∈ a.options) :
    checkValue g.flag g.value = .ok () := by
  have hvalue := mem_options.1 h
  obtain ⟨flag, value⟩ := g
  cases flag with
  | config =>
    have hne : value ≠ "" := fun hempty => ha.config (hempty ▸ Option.mem_toList.1 hvalue)
    simp [checkValue, hne]
  | sourceDir =>
    obtain rfl := List.mem_singleton.1 hvalue
    simp [checkValue, ha.sourceDir]
  | destDir =>
    obtain rfl := List.mem_singleton.1 hvalue
    simp [checkValue, ha.destDir]
  | format =>
    cases haction : a.action with
    | generate dryRun => simp [Arguments.values, haction] at hvalue
    | vars format =>
      obtain rfl : value = format.word := by simpa [Arguments.values, haction] using hvalue
      simp [checkValue, format?_word]
  | debug =>
    obtain rfl := List.mem_singleton.1 hvalue
    cases a.build.debug <;> rfl
  | _ => rfl

theorem value_eq_empty_of_mem_options {g : Given} (h : g ∈ a.options)
    (takes : g.flag.takesValue = false) : g.value = "" := by
  have hvalue := mem_options.1 h
  obtain ⟨flag, value⟩ := g
  cases flag with
  | help | toolVersion => cases hvalue
  | verbose | noColor => exact eq_empty_of_mem_switchValues hvalue
  | dryRun =>
    cases haction : a.action with
    | generate dryRun =>
      simp only [Arguments.values, haction] at hvalue
      exact eq_empty_of_mem_switchValues hvalue
    | vars format => simp [Arguments.values, haction] at hvalue
  | _ => cases takes

theorem spelled_word {g : Given} (h : g ∈ a.options) : Spelled g g.word := by
  cases takes : g.flag.takesValue with
  | true =>
    simp only [Given.word, takes, if_true]
    exact .valued takes g.value
  | false =>
    have hempty := value_eq_empty_of_mem_options h takes
    obtain ⟨flag, value⟩ := g
    subst hempty
    simp only [Given.word, takes, Bool.false_eq_true, if_false]
    exact .switch takes

end Values

namespace Arrangement

variable {a : Arguments} {top under : List Given}

theorem options (a : Arguments) : Arrangement a [] a.options where
  complete := ⟨[], by simp, .refl _⟩
  inOrder := valuesOf_options a .var
  common := by simp

theorem mem_options (h : Arrangement a top under) {g : Given} (hg : g ∈ top ++ under) :
    g ∈ a.options := by
  obtain ⟨omitted, -, hperm⟩ := h.complete
  exact hperm.mem_iff.1 (List.mem_append_right omitted hg)

theorem valuesOf_eq (h : Arrangement a top under) (flag : Flag) :
    valuesOf (top ++ under) flag = a.values flag ∨
      valuesOf (top ++ under) flag = [] ∧
        a.values flag = a.action.command.plain.values flag := by
  cases hr : flag.isRepeatable with
  | true =>
    obtain rfl : flag = .var := by simpa [Flag.isRepeatable] using hr
    exact .inl h.inOrder
  | false =>
    obtain ⟨omitted, hdefault, hperm⟩ := h.complete
    have hvalues : valuesOf omitted flag ++ valuesOf (top ++ under) flag = a.values flag := by
      refine eq_of_perm_of_length_le ?_ (length_values_le a hr)
      rw [← valuesOf_append, ← valuesOf_options]
      exact (hperm.filter _).map _
    -- The option has at most one value, so it is written unless that one is left out.
    cases homitted : valuesOf omitted flag with
    | nil =>
      rw [homitted, List.nil_append] at hvalues
      exact .inl hvalues
    | cons value rest =>
      have hlength := length_values_le a hr
      rw [← hvalues, homitted, List.cons_append, List.length_cons, List.length_append] at hlength
      obtain rfl : rest = [] := List.eq_nil_of_length_eq_zero (by omega)
      have hnone : valuesOf (top ++ under) flag = [] := List.eq_nil_of_length_eq_zero (by omega)
      have hmem : value ∈ a.action.command.plain.values flag := by
        have hgiven : value ∈ valuesOf omitted flag := homitted ▸ List.mem_cons_self
        exact CommandLine.mem_options.1 (hdefault _ (mem_valuesOf.1 hgiven))
      refine .inr ⟨hnone, ?_⟩
      rw [← hvalues, homitted, hnone]
      exact (eq_singleton_of_mem (length_values_le _ hr) hmem).symm

theorem valuesOf_eq_values (h : Arrangement a top under) {flag : Flag}
    (hplain : a.action.command.plain.values flag = []) :
    valuesOf (top ++ under) flag = a.values flag := by
  rcases h.valuesOf_eq flag with heq | ⟨hnone, hdefault⟩
  · exact heq
  · rw [hnone, hdefault, hplain]

theorem valuesOf_under (h : Arrangement a top under) {flag : Flag}
    (hflag : flag ∉ Scope.top.settings) : valuesOf under flag = valuesOf (top ++ under) flag := by
  have htop : valuesOf top flag = [] := by
    refine List.eq_nil_iff_forall_not_mem.2 fun value hmem => hflag ?_
    exact h.common _ (mem_valuesOf.1 hmem)
  rw [valuesOf_append, htop, List.nil_append]

theorem valueOf?_under (h : Arrangement a top under) {flag : Flag}
    (hflag : flag ∉ Scope.top.settings) :
    valueOf? under flag = (valuesOf (top ++ under) flag).head? := by
  rw [valueOf?_eq_head?, h.valuesOf_under hflag]

theorem valueOf?_either (h : Arrangement a top under) {flag : Flag}
    (hplain : a.action.command.plain.values flag = []) (hr : flag.isRepeatable = false) :
    (valueOf? under flag).or (valueOf? top flag) = (a.values flag).head? := by
  have hvalues := h.valuesOf_eq_values hplain
  have hlength := length_values_le a hr
  rw [← hvalues, valuesOf_append, List.length_append] at hlength
  rw [valueOf?_eq_head?, valueOf?_eq_head?, ← hvalues, valuesOf_append]
  cases htop : valuesOf top flag with
  | nil => simp
  | cons value rest =>
    have hunder : valuesOf under flag = [] :=
      List.eq_nil_of_length_eq_zero (by simp only [htop, List.length_cons] at hlength; omega)
    simp [hunder]

theorem valueOf?_getD (h : Arrangement a top under) {flag : Flag} {value default : String}
    (hflag : flag ∉ Scope.top.settings) (hvalue : a.values flag = [value])
    (hplain : a.action.command.plain.values flag = [default]) :
    (valueOf? under flag).getD default = value := by
  rw [h.valueOf?_under hflag]
  rcases h.valuesOf_eq flag with heq | ⟨hnone, hdefault⟩
  · rw [heq, hvalue]
    rfl
  · rw [hnone]
    exact List.singleton_inj.1 ((hplain.symm.trans hdefault.symm).trans hvalue)

theorem valueOf?_optional (h : Arrangement a top under) {flag : Flag} {value? : Option String}
    (hflag : flag ∉ Scope.top.settings) (hvalue : a.values flag = value?.toList)
    (hplain : a.action.command.plain.values flag = []) : valueOf? under flag = value? := by
  rw [h.valueOf?_under hflag, h.valuesOf_eq_values hplain, hvalue, Option.head?_toList]

theorem debug_eq (h : Arrangement a top under) :
    (valueOf? under .debug == some "y") = a.build.debug := by
  have hread : (valueOf? under .debug).getD "n" = if a.build.debug then "y" else "n" :=
    h.valueOf?_getD (by decide) rfl (by cases a.action.command <;> rfl)
  cases hvalue : valueOf? under .debug with
  | none =>
    have hunset : a.build.debug = false := by
      cases hset : a.build.debug with
      | false => rfl
      | true => simp [hvalue, hset] at hread
    simp [hunset]
  | some value =>
    obtain rfl : value = if a.build.debug then "y" else "n" := by simpa [hvalue] using hread
    cases a.build.debug <;> simp

theorem buildArguments_eq (h : Arrangement a top under) : buildArguments under = a.build := by
  have hnone : ∀ flag ∈ [Flag.buildTime, .compiler, .author, .template, .output],
      flag ∉ Scope.top.settings ∧ a.action.command.plain.values flag = [] := by
    cases a.action.command <;> decide
  have hsourceDir : (valueOf? under .sourceDir).getD "src" = a.build.sourceDir :=
    h.valueOf?_getD (by decide) rfl (by cases a.action.command <;> rfl)
  have hdestDir : (valueOf? under .destDir).getD "build" = a.build.destDir :=
    h.valueOf?_getD (by decide) rfl (by cases a.action.command <;> rfl)
  have hversion : (valueOf? under .version).getD "1.0.0" = a.build.version :=
    h.valueOf?_getD (by decide) rfl (by cases a.action.command <;> rfl)
  have hbuildVersion : (valueOf? under .buildVersion).getD "1.0.0" = a.build.buildVersion :=
    h.valueOf?_getD (by decide) rfl (by cases a.action.command <;> rfl)
  have hoptional : ∀ flag ∈ [Flag.buildTime, .compiler, .author, .template, .output],
      ∀ value? : Option String, a.values flag = value?.toList → valueOf? under flag = value? :=
    fun flag hflag value? hvalue =>
      h.valueOf?_optional (hnone flag hflag).1 hvalue (hnone flag hflag).2
  have hbuildTime := hoptional .buildTime (by decide) _ rfl
  have hcompiler := hoptional .compiler (by decide) _ rfl
  have hauthor := hoptional .author (by decide) _ rfl
  have htemplate := hoptional .template (by decide) _ rfl
  have houtput := hoptional .output (by decide) _ rfl
  have hvars : valuesOf under .var = a.build.vars :=
    (h.valuesOf_under (by decide)).trans h.inOrder
  simp only [buildArguments, hsourceDir, hdestDir, hversion, hbuildVersion, h.debug_eq, hbuildTime,
    hcompiler, hauthor, htemplate, houtput, hvars]

theorem action_eq (h : Arrangement a top under) : action a.action.command under = a.action := by
  cases haction : a.action with
  | generate dryRun =>
    have hvalues : a.values .dryRun = switchValues dryRun := by simp [Arguments.values, haction]
    have hplain : a.action.command.plain.values .dryRun = [] := by
      rw [haction]
      rfl
    have hread : valueOf? under .dryRun = (switchValues dryRun).head? := by
      rw [h.valueOf?_under (by decide), h.valuesOf_eq_values hplain, hvalues]
    simp only [Action.command, action, hread, isSome_head?_switchValues]
  | vars format =>
    have hvalues : a.values .format = [format.word] := by simp [Arguments.values, haction]
    have hplain : a.action.command.plain.values .format = [Format.word .text] := by
      rw [haction]
      rfl
    have hread := h.valueOf?_getD (by decide) hvalues hplain
    have hformat : ((valueOf? under .format).bind format?).getD .text = format := by
      cases hvalue : valueOf? under .format with
      | none =>
        rw [hvalue, Option.getD_none] at hread
        have hsame := congrArg format? hread
        rw [format?_word, format?_word] at hsame
        exact Option.some.inj hsame
      | some value =>
        rw [hvalue, Option.getD_some] at hread
        simp [hread, format?_word]
    simp only [Action.command, action, hformat]

theorem arguments_eq (h : Arrangement a top under) :
    arguments a.action.command top under = a := by
  have hplain : ∀ flag ∈ [Flag.verbose, .noColor, .config],
      a.action.command.plain.values flag = [] := by
    cases a.action.command <;> decide
  have hverbose := h.valueOf?_either (hplain .verbose (by decide)) rfl
  have hnoColor := h.valueOf?_either (hplain .noColor (by decide)) rfl
  have hconfig := h.valueOf?_either (hplain .config (by decide)) rfl
  simp only [arguments, h.action_eq, h.buildArguments_eq, hverbose, hnoColor, hconfig,
    Arguments.values, isSome_head?_switchValues, Option.head?_toList]

theorem acceptable (h : Arrangement a top under) (ha : a.HasPaths) : Acceptable (top ++ under) where
  once := by
    intro flag hr
    rcases h.valuesOf_eq flag with heq | ⟨hnone, -⟩
    · rw [heq]
      exact length_values_le a hr
    · simp [hnone]
  checked := fun _ hg => checkValue_of_mem_options ha (h.mem_options hg)

theorem mem_settings (h : Arrangement a top under) {g : Given} (hg : g ∈ under) :
    g.flag ∈ (Scope.under a.action.command).settings := by
  have hvalue := CommandLine.mem_options.1 (h.mem_options (List.mem_append_right top hg))
  exact mem_settings_of_values (List.ne_nil_of_mem hvalue)

theorem parse_eq (h : Arrangement a top under) (ha : a.HasPaths) {before after : List String}
    (hbefore : List.Forall₂ Spelled top before) (hafter : List.Forall₂ Spelled under after) :
    parse (before ++ a.action.command.name :: after) = .ok a := by
  have hacceptable := h.acceptable ha
  have htop : Acceptable top := hacceptable.sublist (List.sublist_append_left top under)
  have hunder : Acceptable under := hacceptable.sublist (List.sublist_append_right top under)
  rw [parse_of_spelled hbefore hafter h.common (fun _ => h.mem_settings) htop hunder,
    h.arguments_eq]

end Arrangement

/--
Every line that writes each option once asks for what it was written from: with all options behind
the command, in any order and with the common ones on either side, and with an option left out
where it has its default. Behind a command no word asks for the version of the tool, and a version
that is attached is the version of the project in every line that is read.
-/
theorem command_lines_round_trip :
    (∀ a : Arguments, a.HasPaths → parse a.words = .ok a) ∧
    (∀ a : Arguments, a.HasPaths → ∀ top under, Arrangement a top under →
      ∀ before after, List.Forall₂ Spelled top before → List.Forall₂ Spelled under after →
        parse (before ++ a.action.command.name :: after) = .ok a) ∧
    (∀ top before, List.Forall₂ Spelled top before → (∀ g ∈ top, g.flag ∈ Scope.top.settings) →
      ∀ (command : Command) rest, parse (before ++ command.name :: rest) ≠ .error .toolVersion) ∧
    ∀ words a, parse words = .ok a → ∀ version, "--version=" ++ version ∈ words →
      a.build.version = version := by
  refine ⟨fun a ha => ?_, fun a ha top under h before after hbefore hafter => ?_,
    fun top before hbefore htop command rest => ?_, fun words a h version hmem => ?_⟩
  · have hwords : List.Forall₂ Spelled a.options (a.options.map Given.word) := by
      rw [List.forall₂_map_right_iff, List.forall₂_same]
      exact fun g hg => spelled_word hg
    exact (Arrangement.options a).parse_eq ha .nil hwords
  · exact h.parse_eq ha hbefore hafter
  · exact readTop_ne_toolVersion hbefore htop rfl command rest
  · exact version_eq_of_parse h hmem

/--
The options stand in no special order and the common ones in front; the directories and the version
of the build have their defaults. The values look like options, or have an equals sign of their own.
-/
theorem options_around_command_round_trip :
    let a : Arguments :=
      { action := .vars .json
        build :=
          { version := "-V", debug := true, author := some "--debug=n", output := some ""
            vars := ["url=a?b=c", "--help"] }
        verbose := true
        config := some "vars" }
    let before := ["--config=vars", "-v"]
    let after := ["--var=url=a?b=c", "--version=-V", "--output=", "--format=json", "--var=--help",
      "--debug=y", "--author=--debug=n"]
    parse a.words = .ok a ∧ parse (before ++ "vars" :: after) = .ok a ∧ a.build.version = "-V" ∧
      parse (before ++ "vars" :: "--version" :: after) ≠ .error .toolVersion := by
  intro a before after
  have ha : a.HasPaths := ⟨by decide, by decide, by decide⟩
  have harranged : Arrangement a [⟨.config, "vars"⟩, ⟨.verbose, ""⟩]
      [⟨.var, "url=a?b=c"⟩, ⟨.version, "-V"⟩, ⟨.output, ""⟩, ⟨.format, "json"⟩, ⟨.var, "--help"⟩,
        ⟨.debug, "y"⟩, ⟨.author, "--debug=n"⟩] :=
    ⟨⟨[⟨.sourceDir, "src"⟩, ⟨.destDir, "build"⟩, ⟨.buildVersion, "1.0.0"⟩], by decide, by decide⟩,
      by decide, by decide⟩
  have hbefore : List.Forall₂ Spelled [⟨.config, "vars"⟩, ⟨.verbose, ""⟩] before :=
    .cons (.valued rfl "vars") (.cons .short .nil)
  have hafter : List.Forall₂ Spelled [⟨.var, "url=a?b=c"⟩, ⟨.version, "-V"⟩, ⟨.output, ""⟩,
      ⟨.format, "json"⟩, ⟨.var, "--help"⟩, ⟨.debug, "y"⟩, ⟨.author, "--debug=n"⟩] after :=
    .cons (.valued rfl _) (.cons (.valued rfl _) (.cons (.valued rfl _) (.cons (.valued rfl _)
      (.cons (.valued rfl _) (.cons (.valued rfl _) (.cons (.valued rfl _) .nil))))))
  obtain ⟨canonical, arranged, tool, version⟩ := command_lines_round_trip
  have hparse := arranged a ha _ _ harranged before after hbefore hafter
  exact ⟨canonical a ha, hparse, version _ _ hparse "-V" (by decide),
    tool _ _ hbefore harranged.common .vars _⟩

end BuildHeader.CommandLine
