import BuildHeader.Proofs.File.Writing
import BuildHeader.Proofs.Template.Effect
import BuildHeader.Run.Command

set_option autoImplicit false

namespace BuildHeader.Run

def unresolvedLines (names : List String) : List String :=
  if names.isEmpty then [] else ["  Unresolved placeholders: " ++ Template.listing names]

@[simp] theorem quietOn_reportUnresolved (names : List String) (files : File.Tree) :
    (reportUnresolved names).quietOn files = ⟨.ok (), files, [], unresolvedLines names⟩ := by
  cases names <;> simp [reportUnresolved, unresolvedLines]

@[simp] theorem quietOn_assembleVariables (host : Except BuildError Host) (options : Options)
    (files : File.Tree) :
    (assembleVariables host options).quietOn files =
      ⟨(assemble host options).mapError .build, files, [], []⟩ := by
  cases h : assemble host options <;>
    simp [assembleVariables, h, Except.map, apply_ite (Script.quietOn files)]

section Work

variable {d : Char} {o : Options} {vars : Mapping} {files : File.Tree}

theorem quietOn_rehearse_of_error {e : Template.Error}
    (h : Template.rendering d vars o.templatePath files = .error e) :
    (rehearse d o vars).quietOn files = ⟨.error (.template e), files, [], []⟩ := by
  rcases Except.bind_eq_error_iff.1 h with ht | ⟨template, ht, hr⟩
  · simp [rehearse, ht]
  · simp [rehearse, ht, hr]

theorem quietOn_rehearse_of_ok {rendered : Template.Rendered}
    (h : Template.rendering d vars o.templatePath files = .ok rendered) :
    (rehearse d o vars).quietOn files =
      ⟨.ok (), files, [],
        ["✓ Template '" ++ o.templatePath ++ "' renders cleanly",
          "  Output: " ++ o.outputPath ++ " (not written)",
          "  Substitutions: " ++ rendered.substitutions.repr] ++
        unresolvedLines rendered.unresolved⟩ := by
  obtain ⟨template, ht, hr⟩ := Except.bind_eq_ok_iff.1 h
  simp [rehearse, ht, hr]

theorem quietOn_produce_of_error {e : Template.Error}
    (h : Template.rendering d vars o.templatePath files = .error e) :
    (produce d o vars).quietOn files = ⟨.error (.generation e), files, [], []⟩ := by
  simp [produce, Template.quietOn_renderFile_of_error _ h]

theorem quietOn_produce_of_fault {rendered : Template.Rendered} {fault : File.Fault}
    (h : Template.rendering d vars o.templatePath files = .ok rendered)
    (hw : files.write o.outputPath rendered.text.toUTF8 = .error fault) :
    (produce d o vars).quietOn files =
      ⟨.error (.generation (.writeFailed o.outputPath fault)), files, [], []⟩ := by
  have hf := Template.quietOn_renderFile_of_ok o.outputPath h
  simp only [hw] at hf
  simp [produce, hf]

theorem quietOn_produce_of_ok {rendered : Template.Rendered} {files' : File.Tree}
    (h : Template.rendering d vars o.templatePath files = .ok rendered)
    (hw : files.write o.outputPath rendered.text.toUTF8 = .ok files') :
    (produce d o vars).quietOn files =
      ⟨.ok (), files', [],
        ("Generated " ++ o.outputPath ++ " (" ++ rendered.substitutions.repr ++
          " substitutions, " ++ rendered.text.utf8ByteSize.repr ++ " bytes)") ::
        unresolvedLines rendered.unresolved⟩ := by
  have hf := Template.quietOn_renderFile_of_ok o.outputPath h
  simp only [hw] at hf
  simp [produce, hf]

theorem result_rehearse (d : Char) (o : Options) (vars : Mapping) (files : File.Tree) :
    ((rehearse d o vars).quietOn files).result =
      match Template.rendering d vars o.templatePath files with
      | .error e => .error (.template e)
      | .ok _ => .ok () := by
  cases hr : Template.rendering d vars o.templatePath files with
  | error e => rw [quietOn_rehearse_of_error hr]
  | ok rendered => rw [quietOn_rehearse_of_ok hr]

theorem result_produce (d : Char) (o : Options) (vars : Mapping) (files : File.Tree) :
    ((produce d o vars).quietOn files).result =
      match Template.rendering d vars o.templatePath files, files.writable o.outputPath with
      | .error e, _ => .error (.generation e)
      | .ok _, .error fault => .error (.generation (.writeFailed o.outputPath fault))
      | .ok _, .ok _ => .ok () := by
  cases hr : Template.rendering d vars o.templatePath files with
  | error e => rw [quietOn_produce_of_error hr]
  | ok rendered =>
    cases hw : files.writable o.outputPath with
    | error fault =>
      rw [quietOn_produce_of_fault hr ((File.Tree.write_eq_error_iff ..).2 hw)]
    | ok place =>
      rw [quietOn_produce_of_ok hr ((File.Tree.write_eq_ok_iff ..).2 ⟨place, hw, rfl⟩)]

end Work

section Generate

variable {host : Except BuildError Host} {config : Config} {build : CommandLine.BuildArguments}
  {dryRun : Bool}

theorem quietOn_generate_of_error {e : BuildError}
    (h : assemble host (buildOptions build config) = .error e) (files : File.Tree) :
    (generate host config build dryRun).quietOn files = ⟨.error (.build e), files, [], []⟩ := by
  simp [generate, h]

theorem quietOn_generate_of_ok {vars : Mapping}
    (h : assemble host (buildOptions build config) = .ok vars) (files : File.Tree) :
    (generate host config build dryRun).quietOn files =
      if dryRun then (rehearse config.delimiter (buildOptions build config) vars).quietOn files
      else (produce config.delimiter (buildOptions build config) vars).quietOn files := by
  cases dryRun <;> simp [generate, h]

end Generate

section Listings

theorem quietOn_printListing (vars : Mapping) (format : CommandLine.Format) (files : File.Tree) :
    (printListing vars format).quietOn files =
      if format = .text ∧ columnLimit < columnWidth vars then
        ⟨.error (.crash .wideColumn), files, [], []⟩
      else ⟨.ok (), files, [], listing vars format⟩ := by
  by_cases h : format = .text ∧ columnLimit < columnWidth vars
  · simp [printListing, h]
  · simp [printListing, h]

variable {host : Except BuildError Host} {config : Config} {build : CommandLine.BuildArguments}

theorem exists_quietOn_printListing (vars : Mapping) (format : CommandLine.Format) :
    ∃ result lines, ∀ files : File.Tree,
      (printListing vars format).quietOn files = ⟨result, files, [], lines⟩ := by
  simp only [quietOn_printListing]
  split
  · exact ⟨_, _, fun _ => rfl⟩
  · exact ⟨_, _, fun _ => rfl⟩

theorem quietOn_listVariables_of_error {e : BuildError}
    (h : assemble host (buildOptions build config) = .error e) (format : CommandLine.Format)
    (files : File.Tree) :
    (listVariables host config build format).quietOn files =
      ⟨.error (.build e), files, [], []⟩ := by
  simp [listVariables, h]

theorem quietOn_listVariables_of_ok {vars : Mapping}
    (h : assemble host (buildOptions build config) = .ok vars) (format : CommandLine.Format)
    (files : File.Tree) :
    (listVariables host config build format).quietOn files =
      (printListing vars format).quietOn files := by
  simp [listVariables, h]

end Listings

end BuildHeader.Run
