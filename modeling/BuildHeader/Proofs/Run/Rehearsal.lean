import BuildHeader.Proofs.Run.Stages

set_option autoImplicit false

namespace BuildHeader.Run

open CommandLine (BuildArguments)
open Template (HoldsText Rendered)

section

variable (host : Except BuildError Host) (config : Config) (build : BuildArguments)
  (files : File.Tree)

def rehearsal : Script.Transcript Failure Unit := (generate host config build true).actOn files

def production : Script.Transcript Failure Unit := (generate host config build false).actOn files

/-- The version can be read, the template is a text, and it renders from the variables. -/
def Renders (rendered : Rendered) : Prop :=
  ∃ facts version vars text, host = .ok facts ∧ Version.parse build.version = .ok version ∧
    (buildOptions build config).toMapping facts = .ok vars ∧
    HoldsText files (buildOptions build config).templatePath text ∧
    Template.render config.delimiter vars text = .ok rendered

end

section

variable {host : Except BuildError Host} {config : Config} {build : BuildArguments}
  {files : File.Tree}

theorem renders_iff (rendered : Rendered) :
    Renders host config build files rendered ↔
      ∃ vars, assemble host (buildOptions build config) = .ok vars ∧
        Template.rendering config.delimiter vars (buildOptions build config).templatePath files =
          .ok rendered := by
  constructor
  · rintro ⟨facts, version, vars, text, rfl, _, ha, ht, hr⟩
    exact ⟨vars, ha, Except.bind_eq_ok_iff.2 ⟨text, (Template.decode_eq_ok_iff ..).2 ht, hr⟩⟩
  · rintro ⟨vars, ha, hr⟩
    obtain ⟨facts, rfl, ha⟩ := Except.bind_eq_ok_iff.1 ha
    obtain ⟨text, ht, hr⟩ := Except.bind_eq_ok_iff.1 hr
    obtain ⟨version, hv, _⟩ := Except.map_eq_ok_iff.1 ha
    refine ⟨facts, version, vars, text, rfl, ?_, ha, (Template.decode_eq_ok_iff ..).1 ht, hr⟩
    exact Except.mapError_eq_ok_iff.1 hv

theorem quiet_rehearsal {vars : Mapping}
    (ha : assemble host (buildOptions build config) = .ok vars) :
    (rehearsal host config build files).quiet =
      (rehearse config.delimiter (buildOptions build config) vars).quietOn files :=
  quietOn_generate_of_ok ha files

theorem quiet_production {vars : Mapping}
    (ha : assemble host (buildOptions build config) = .ok vars) :
    (production host config build files).quiet =
      (produce config.delimiter (buildOptions build config) vars).quietOn files :=
  quietOn_generate_of_ok ha files

theorem rehearsal_of_renders {rendered : Rendered}
    (h : Renders host config build files rendered) :
    (rehearsal host config build files).result = .ok () ∧
    (rehearsal host config build files).lines =
      ["✓ Template '" ++ (buildOptions build config).templatePath ++ "' renders cleanly",
        "  Output: " ++ (buildOptions build config).outputPath ++ " (not written)",
        "  Substitutions: " ++ rendered.substitutions.repr] ++
      unresolvedLines rendered.unresolved := by
  obtain ⟨vars, ha, hr⟩ := (renders_iff rendered).1 h
  have hq := (quiet_rehearsal ha).trans (quietOn_rehearse_of_ok hr)
  exact ⟨congrArg Script.Transcript.result hq, congrArg Script.Transcript.lines hq⟩

theorem production_of_renders {rendered : Rendered}
    (h : Renders host config build files rendered) :
    ((production host config build files).result = .ok () ∧
      (production host config build files).lines =
        ("Generated " ++ (buildOptions build config).outputPath ++ " (" ++
          rendered.substitutions.repr ++ " substitutions, " ++
          rendered.text.utf8ByteSize.repr ++ " bytes)") ::
        unresolvedLines rendered.unresolved) ∨
    ∃ fault,
      (production host config build files).result =
        .error (.generation (.writeFailed (buildOptions build config).outputPath fault)) ∧
      (production host config build files).files = files ∧
      (production host config build files).lines = [] := by
  obtain ⟨vars, ha, hr⟩ := (renders_iff rendered).1 h
  cases hw : files.write (buildOptions build config).outputPath rendered.text.toUTF8 with
  | ok files' =>
    have hq := (quiet_production ha).trans (quietOn_produce_of_ok hr hw)
    exact .inl ⟨congrArg Script.Transcript.result hq, congrArg Script.Transcript.lines hq⟩
  | error fault =>
    have hq := (quiet_production ha).trans (quietOn_produce_of_fault hr hw)
    exact .inr ⟨fault, congrArg Script.Transcript.result hq, congrArg Script.Transcript.files hq,
      congrArg Script.Transcript.lines hq⟩

theorem both_fail_of_not_renders (h : ∀ rendered, ¬Renders host config build files rendered) :
    (∃ e, (rehearsal host config build files).result = .error (.build e) ∧
      (production host config build files).result = .error (.build e)) ∨
    ∃ e, (rehearsal host config build files).result = .error (.template e) ∧
      (production host config build files).result = .error (.generation e) := by
  cases ha : assemble host (buildOptions build config) with
  | error e =>
    refine .inl ⟨e, ?_, ?_⟩
    · exact congrArg Script.Transcript.result (quietOn_generate_of_error ha files)
    · exact congrArg Script.Transcript.result (quietOn_generate_of_error ha files)
  | ok vars =>
    cases hr : Template.rendering config.delimiter vars (buildOptions build config).templatePath
        files with
    | error e =>
      refine .inr ⟨e, ?_, ?_⟩
      · exact congrArg Script.Transcript.result
          ((quiet_rehearsal ha).trans (quietOn_rehearse_of_error hr))
      · exact congrArg Script.Transcript.result
          ((quiet_production ha).trans (quietOn_produce_of_error hr))
    | ok rendered => exact absurd ((renders_iff rendered).2 ⟨vars, ha, hr⟩) (h rendered)

end

/--
A rehearsal comes through just when version, template and rendering do. The production then tells
the same count and the same unresolved names, or it fails at the write alone. A rehearsal that
fails foretells the message of the production.
-/
theorem rehearsal_foretells_production (host : Except BuildError Host) (config : Config)
    (build : BuildArguments) (files : File.Tree) :
    ((rehearsal host config build files).result = .ok () ↔
      ∃ rendered, Renders host config build files rendered) ∧
    (∀ rendered, Renders host config build files rendered →
      (rehearsal host config build files).lines =
        ["✓ Template '" ++ (buildOptions build config).templatePath ++ "' renders cleanly",
          "  Output: " ++ (buildOptions build config).outputPath ++ " (not written)",
          "  Substitutions: " ++ rendered.substitutions.repr] ++
        unresolvedLines rendered.unresolved ∧
      (((production host config build files).result = .ok () ∧
          (production host config build files).lines =
            ("Generated " ++ (buildOptions build config).outputPath ++ " (" ++
              rendered.substitutions.repr ++ " substitutions, " ++
              rendered.text.utf8ByteSize.repr ++ " bytes)") ::
            unresolvedLines rendered.unresolved) ∨
        ∃ fault,
          (production host config build files).result =
            .error (.generation (.writeFailed (buildOptions build config).outputPath fault)) ∧
          (production host config build files).files = files ∧
          (production host config build files).lines = [])) ∧
    ∀ failure, (rehearsal host config build files).result = .error failure →
      ∃ failure', (production host config build files).result = .error failure' ∧
        ((∃ e, failure = .build e ∧ failure' = .build e ∧
            failure'.message = failure.message) ∨
          ∃ e, failure = .template e ∧ failure' = .generation e ∧
            failure'.message = "Configuration generation failed: " ++ failure.message) := by
  refine ⟨⟨fun h => ?_, fun ⟨rendered, h⟩ => (rehearsal_of_renders h).1⟩, fun rendered h =>
    ⟨(rehearsal_of_renders h).2, production_of_renders h⟩, fun failure h => ?_⟩
  · refine Classical.byContradiction fun hnone => ?_
    rcases both_fail_of_not_renders (not_exists.1 hnone) with ⟨e, he, _⟩ | ⟨e, he, _⟩
    · simp [he] at h
    · simp [he] at h
  · have hnone : ∀ rendered, ¬Renders host config build files rendered := fun rendered hr => by
      simp [(rehearsal_of_renders hr).1] at h
    -- What fails is the assembly or the rendering, and the latter is told in two ways.
    rcases both_fail_of_not_renders hnone with ⟨e, he, hp⟩ | ⟨e, he, hp⟩
    · obtain rfl := Except.error.inj (he.symm.trans h)
      exact ⟨_, hp, .inl ⟨e, rfl, rfl, rfl⟩⟩
    · obtain rfl := Except.error.inj (he.symm.trans h)
      exact ⟨_, hp, .inr ⟨e, rfl, rfl, rfl⟩⟩

def unplacedBuild : BuildArguments where
  destDir := "absent"
  buildTime := some "now"
  compiler := some "cc"

def unplacedHost : Host := ⟨⟨"linux", "x86_64", "6.1", "cpu", "Linux", "ci"⟩, "builder"⟩

def unplacedFiles : File.Tree where
  workingDirectory := ["work"]
  entries := [(["work", "src"], .directory),
    (["work", "src", "configure.h.in"], .file "@mode@ @unknown@\n".toUTF8)]

theorem rehearsal_foretells_failed_write :
    (rehearsal (.ok unplacedHost) {} unplacedBuild unplacedFiles).lines =
      ["✓ Template 'src/configure.h.in' renders cleanly",
        "  Output: absent/configure.h (not written)",
        "  Substitutions: 1",
        "  Unresolved placeholders: unknown"] ∧
    ∃ fault,
      (production (.ok unplacedHost) {} unplacedBuild unplacedFiles).result =
        .error (.generation (.writeFailed "absent/configure.h" fault)) ∧
      (production (.ok unplacedHost) {} unplacedBuild unplacedFiles).files = unplacedFiles := by
  have renders : Renders (.ok unplacedHost) {} unplacedBuild unplacedFiles
      ⟨"release @unknown@\n", 1, ["unknown"]⟩ :=
    ⟨unplacedHost, ⟨1, 0, 0⟩, _, "@mode@ @unknown@\n", rfl, rfl, rfl,
      ⟨"@mode@ @unknown@\n".toUTF8, rfl, by decide +kernel⟩,
      Except.eq_ok_of_toOption (by decide +kernel)⟩
  obtain ⟨foretold, ends⟩ := (rehearsal_foretells_production ..).2.1 _ renders
  refine ⟨foretold, ?_⟩
  rcases ends with ⟨_, told⟩ | ⟨fault, failed, kept, _⟩
  · have untold : (production (.ok unplacedHost) {} unplacedBuild unplacedFiles).lines = [] := by
      decide +kernel
    rw [untold] at told
    cases told
  · exact ⟨fault, failed, kept⟩

end BuildHeader.Run
