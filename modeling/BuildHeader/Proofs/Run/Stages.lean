import BuildHeader.Proofs.Build.Builtins
import BuildHeader.Proofs.Run.Commands

set_option autoImplicit false

namespace BuildHeader.Run

open CommandLine (BuildArguments)
open Template (Fits FirstOffence HoldsText Unreadable Usable)

/-- All that a production needs: a condition for each stage, the third one in three parts. -/
structure CanProduce (host : Host) (config : Config) (build : BuildArguments)
    (files : File.Tree) : Prop where
  version : ∃ version, Version.parse build.version = .ok version
  template : ∃ text, HoldsText files (buildOptions build config).templatePath text
  names : ∀ vars, (buildOptions build config).toMapping host = .ok vars →
    ∀ entry ∈ vars.entries, Fits config.delimiter entry.1
  buildTime : build.buildTime.isSome ∨ (config.templateVars.get? "build_time").isSome
  compiler : build.compiler.isSome ∨ (config.templateVars.get? "compiler").isSome
  output : ∃ place, files.writable (buildOptions build config).outputPath = .ok place

inductive FirstFault (host : Host) (config : Config) (build : BuildArguments)
    (files : File.Tree) : Failure → Prop where
  | version {fault : Version.Fault} (unparsed : Version.parse build.version = .error fault) :
    FirstFault host config build files (.build (.invalidVersion build.version fault.reason))
  | template {version : Version} {e : Template.Error}
    (parsed : Version.parse build.version = .ok version)
    (unreadable : Unreadable (buildOptions build config).templatePath
      (files.read (buildOptions build config).templatePath) e) :
    FirstFault host config build files (.generation e)
  | check {text : String} {vars : Mapping} {e : Template.Error}
    (assembled : (buildOptions build config).toMapping host = .ok vars)
    (held : HoldsText files (buildOptions build config).templatePath text)
    (offence : FirstOffence config.delimiter vars.entries e) :
    FirstFault host config build files (.generation e)
  | output {text : String} {vars : Mapping} {fault : File.Fault}
    (assembled : (buildOptions build config).toMapping host = .ok vars)
    (held : HoldsText files (buildOptions build config).templatePath text)
    (usable : Usable config.delimiter vars)
    (blocked : files.writable (buildOptions build config).outputPath = .error fault) :
    FirstFault host config build files
      (.generation (.writeFailed (buildOptions build config).outputPath fault))

section Generate

variable {host : Host} {config : Config} {build : BuildArguments} {files : File.Tree}

theorem result_generate_of_version {fault : Version.Fault}
    (h : Version.parse build.version = .error fault) :
    ((generate (.ok host) config build false).quietOn files).result =
      .error (.build (.invalidVersion build.version fault.reason)) := by
  have ha : assemble (.ok host) (buildOptions build config) =
      .error (.invalidVersion build.version fault.reason) :=
    Options.toMapping_eq_error_iff.2 ⟨fault, h, rfl⟩
  rw [quietOn_generate_of_error ha]

theorem result_generate_of_assembled {vars : Mapping}
    (h : (buildOptions build config).toMapping host = .ok vars) :
    ((generate (.ok host) config build false).quietOn files).result =
      ((produce config.delimiter (buildOptions build config) vars).quietOn files).result := by
  have ha : assemble (.ok host) (buildOptions build config) = .ok vars := h
  rw [quietOn_generate_of_ok ha]
  rfl

theorem assembled_of_parsed {version : Version} (h : Version.parse build.version = .ok version)
    (host : Host) (config : Config) :
    ∃ vars, (buildOptions build config).toMapping host = .ok vars := by
  have hv : Version.ofText (buildOptions build config).version = .ok version := by
    show (Version.parse build.version).mapError _ = _
    rw [h, Except.mapError_ok]
  exact Options.exists_toMapping hv host

theorem result_of_firstFault {failure : Failure} (h : FirstFault host config build files failure) :
    ((generate (.ok host) config build false).quietOn files).result = .error failure := by
  cases h with
  | version unparsed => exact result_generate_of_version unparsed
  | template parsed unreadable =>
    obtain ⟨vars, ha⟩ := assembled_of_parsed parsed host config
    have hr := (Template.rendering_eq_error_iff config.delimiter vars _ files _).2 (.inl unreadable)
    rw [result_generate_of_assembled ha, result_produce, hr]
  | check assembled held offence =>
    have hr := (Template.rendering_eq_error_iff config.delimiter _ _ files _).2
      (.inr ⟨⟨_, held⟩, offence⟩)
    rw [result_generate_of_assembled assembled, result_produce, hr]
  | output assembled held usable blocked =>
    obtain ⟨rendered, hr⟩ := (Template.exists_rendering_iff config.delimiter _ _ files).2
      ⟨⟨_, held⟩, usable⟩
    rw [result_generate_of_assembled assembled, result_produce, hr, blocked]

theorem firstFault_of_result {failure : Failure}
    (h : ((generate (.ok host) config build false).quietOn files).result = .error failure) :
    FirstFault host config build files failure := by
  cases hv : Version.parse build.version with
  | error fault =>
    rw [result_generate_of_version hv, Except.error.injEq] at h
    exact h ▸ .version hv
  | ok version =>
    obtain ⟨vars, ha⟩ := assembled_of_parsed hv host config
    rw [result_generate_of_assembled ha, result_produce] at h
    cases hr : Template.rendering config.delimiter vars (buildOptions build config).templatePath
        files with
    | error e =>
      simp only [hr, Except.error.injEq] at h
      subst h
      rcases (Template.rendering_eq_error_iff ..).1 hr with hu | ⟨⟨text, ht⟩, ho⟩
      · exact .template hv hu
      · exact .check ha ht ho
    | ok rendered =>
      obtain ⟨⟨text, ht⟩, husable⟩ := (Template.exists_rendering_iff ..).1 ⟨rendered, hr⟩
      cases hw : files.writable (buildOptions build config).outputPath with
      | error fault =>
        simp only [hr, hw, Except.error.injEq] at h
        exact h ▸ .output ha ht husable hw
      | ok place => simp [hr, hw] at h

theorem result_eq_ok_iff :
    ((generate (.ok host) config build false).quietOn files).result = .ok () ↔
      CanProduce host config build files := by
  constructor
  · intro h
    cases hv : Version.parse build.version with
    | error fault => simp [result_generate_of_version hv] at h
    | ok version =>
      obtain ⟨vars, ha⟩ := assembled_of_parsed hv host config
      rw [result_generate_of_assembled ha, result_produce] at h
      cases hr : Template.rendering config.delimiter vars
          (buildOptions build config).templatePath files with
      | error e => simp [hr] at h
      | ok rendered =>
        cases hw : files.writable (buildOptions build config).outputPath with
        | error fault => simp [hr, hw] at h
        | ok place =>
          obtain ⟨ht, husable⟩ := (Template.exists_rendering_iff ..).1 ⟨rendered, hr⟩
          obtain ⟨hnames, hset⟩ := (Template.usable_iff ..).1 husable
          obtain ⟨htime, hcompiler⟩ := (Options.all_set_iff ha).1 hset
          refine ⟨⟨version, hv⟩, ht, fun vars' ha' => ?_, htime, hcompiler, ⟨place, hw⟩⟩
          obtain rfl := Except.ok.inj (ha.symm.trans ha')
          exact hnames
  · rintro ⟨⟨version, hv⟩, ht, hnames, htime, hcompiler, ⟨place, hw⟩⟩
    obtain ⟨vars, ha⟩ := assembled_of_parsed hv host config
    have hset := (Options.all_set_iff ha).2 ⟨htime, hcompiler⟩
    have husable := (Template.usable_iff ..).2 ⟨hnames vars ha, hset⟩
    obtain ⟨rendered, hr⟩ := (Template.exists_rendering_iff ..).2 ⟨ht, husable⟩
    rw [result_generate_of_assembled ha, result_produce, hr, hw]

end Generate

/--
A production comes through just when all of its stages can, and otherwise it ends in the failure
of the first stage that cannot.
-/
theorem generate_result_by_stages (host : Host) (config : Config) (build : BuildArguments)
    (files : File.Tree) :
    (((generate (.ok host) config build false).actOn files).result = .ok () ↔
      CanProduce host config build files) ∧
    ∀ failure, ((generate (.ok host) config build false).actOn files).result = .error failure ↔
      FirstFault host config build files failure :=
  ⟨result_eq_ok_iff, fun _ => ⟨firstFault_of_result, result_of_firstFault⟩⟩

/--
A production with three faults: two variables without a value, after them a name that holds the
delimiter, and no directory for the output.
-/
def faultyBuild : BuildArguments := { destDir := "absent" }

def faultyConfig : Config where
  delimiter := '%'
  templateVars := .ofList [("a%b", "1"), ("mode", "custom")]

def faultyHost : Host := ⟨⟨"linux", "x86_64", "6.1", "cpu", "Linux", "ci"⟩, "builder"⟩

def faultyFiles : File.Tree where
  workingDirectory := ["work"]
  entries := [(["work", "src"], .directory),
    (["work", "src", "configure.h.in"], .file "%mode%\n".toUTF8)]

theorem generate_tells_first_of_many_faults :
    ¬Fits faultyConfig.delimiter "a%b" ∧
    faultyFiles.writable (buildOptions faultyBuild faultyConfig).outputPath = .error .notFound ∧
    ((generate (.ok faultyHost) faultyConfig faultyBuild false).actOn faultyFiles).result =
      .error (.generation (.missingValue "build_time")) := by
  refine ⟨fun fits => fits.2 (by decide), rfl, ?_⟩
  have ha : (buildOptions faultyBuild faultyConfig).toMapping faultyHost =
      .ok ((Mapping.ofList ((buildOptions faultyBuild faultyConfig).builtins ⟨1, 0, 0⟩
        faultyHost)).extend faultyConfig.templateVars) := rfl
  have held : HoldsText faultyFiles (buildOptions faultyBuild faultyConfig).templatePath
      "%mode%\n" := ⟨"%mode%\n".toUTF8, rfl, by decide +kernel⟩
  have offence := (Template.check_eq_error_iff '%' _ (.missingValue "build_time")).1
    (rfl : Template.check '%' ((Mapping.ofList ((buildOptions faultyBuild faultyConfig).builtins
      ⟨1, 0, 0⟩ faultyHost)).extend faultyConfig.templateVars).entries = _)
  exact ((generate_result_by_stages ..).2 _).2 (.check ha held offence)

end BuildHeader.Run
