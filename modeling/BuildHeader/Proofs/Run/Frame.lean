import BuildHeader.Proofs.File.Writing
import BuildHeader.Proofs.Run.Commands
import BuildHeader.Proofs.Run.Plan

set_option autoImplicit false

namespace BuildHeader.Run

variable {i : Invocation} {files : File.Tree}

theorem Plan.work_of_not_produce (p : Plan i files) (ha : p.arguments.action ≠ .generate false) :
    ∃ result lines, p.work.quietOn files = ⟨result, files, [], lines⟩ := by
  cases h : p.arguments.action with
  | vars format =>
    obtain ⟨result, lines, printed⟩ := exists_quietOn_printListing p.vars format
    exact ⟨result, lines, by simpa only [work, h] using printed files⟩
  | generate dryRun =>
    cases dryRun with
    | false => exact absurd h ha
    | true =>
      cases hr : Template.rendering p.config.delimiter p.vars p.options.templatePath files with
      | error e => exact ⟨_, _, by simpa only [work, h] using quietOn_rehearse_of_error hr⟩
      | ok rendered => exact ⟨_, _, by simpa only [work, h] using quietOn_rehearse_of_ok hr⟩

theorem Plan.work_of_produce (p : Plan i files) (ha : p.arguments.action = .generate false) :
    (∃ e, p.work.quietOn files = ⟨.error (.generation e), files, [], []⟩) ∨
      ∃ rendered place lines,
        Template.rendering p.config.delimiter p.vars p.options.templatePath files =
          .ok rendered ∧
        files.writable p.options.outputPath = .ok place ∧
        p.work.quietOn files =
          ⟨.ok (), files.put place (.file rendered.text.toUTF8), [], lines⟩ := by
  have hwork : p.work = produce p.config.delimiter p.options p.vars := by simp only [work, ha]
  rw [hwork]
  cases hr : Template.rendering p.config.delimiter p.vars p.options.templatePath files with
  | error e => exact .inl ⟨e, quietOn_produce_of_error hr⟩
  | ok rendered =>
    cases hw : files.write p.options.outputPath rendered.text.toUTF8 with
    | error fault => exact .inl ⟨_, quietOn_produce_of_fault hr hw⟩
    | ok files' =>
      obtain ⟨place, hplace, rfl⟩ := (File.Tree.write_eq_ok_iff ..).1 hw
      exact .inr ⟨rendered, place, _, rfl, hplace, quietOn_produce_of_ok hr hw⟩

theorem files_of_parse_error {e : CommandLine.UsageError}
    (he : CommandLine.parse i.words = .error e) : (run i files).files = files :=
  (run_ends_of_stops (.usage he)).files

theorem files_of_not_produce {arguments : CommandLine.Arguments}
    (hp : CommandLine.parse i.words = .ok arguments) (ha : arguments.action ≠ .generate false) :
    (run i files).files = files := by
  rcases stops_or_plan i files with ⟨failure, hs⟩ | ⟨p, whole⟩
  · exact (run_ends_of_stops hs).files
  · obtain rfl := p.arguments_eq hp
    obtain ⟨result, lines, hw⟩ := p.work_of_not_produce ha
    exact (run_ends_of_plan p whole hw).files

theorem run_of_produce {arguments : CommandLine.Arguments}
    (hp : CommandLine.parse i.words = .ok arguments) (ha : arguments.action = .generate false) :
    ((run i files).exitStatus ≠ 0 ∧ (run i files).files = files) ∨
      ((run i files).exitStatus = 0 ∧
        ∃ (p : Plan i files) (rendered : Template.Rendered) (place : File.Location),
          Template.rendering p.config.delimiter p.vars p.options.templatePath files =
            .ok rendered ∧
          files.writable p.options.outputPath = .ok place ∧
          (run i files).files = files.put place (.file rendered.text.toUTF8)) := by
  rcases stops_or_plan i files with ⟨failure, hs⟩ | ⟨p, whole⟩
  · have hends := run_ends_of_stops hs
    refine .inl ⟨?_, hends.files⟩
    rw [hends.exitStatus_of_error]
    exact hs.exitStatus_ne_zero hp
  · obtain rfl := p.arguments_eq hp
    rcases p.work_of_produce ha with ⟨e, hw⟩ | ⟨rendered, place, lines, hr, hplace, hw⟩
    · have hends := run_ends_of_plan p whole hw
      refine .inl ⟨?_, hends.files⟩
      rw [hends.exitStatus_of_error]
      simp [Failure.exitStatus]
    · have hends := run_ends_of_plan p whole hw
      exact .inr ⟨hends.exitStatus_of_ok, p, rendered, place, hr, hplace, hends.files⟩

theorem files_of_exitStatus_ne_zero (h : (run i files).exitStatus ≠ 0) :
    (run i files).files = files := by
  cases hp : CommandLine.parse i.words with
  | error e => exact files_of_parse_error hp
  | ok arguments =>
    by_cases ha : arguments.action = .generate false
    · rcases run_of_produce hp ha with ⟨_, hf⟩ | ⟨hzero, _⟩
      · exact hf
      · exact absurd hzero h
    · exact files_of_not_produce hp ha

/--
A run that fails leaves the files as they were, and so does every run that is not a production. A
production that comes through changes one place: what the output path names then has the bytes that
the template, as it was before, renders to.
-/
theorem run_changes_only_output (i : Invocation) (files : File.Tree) :
    ((run i files).exitStatus ≠ 0 → (run i files).files = files) ∧
    (∀ e, CommandLine.parse i.words = .error e → (run i files).files = files) ∧
    ∀ arguments, CommandLine.parse i.words = .ok arguments →
      (arguments.action ≠ .generate false → (run i files).files = files) ∧
      (arguments.action = .generate false → (run i files).exitStatus = 0 →
        ∃ (p : Plan i files) (content : ByteArray) (template : String)
          (rendered : Template.Rendered) (place : File.Location),
          files.read p.options.templatePath = .ok content ∧
          String.fromUTF8? content = some template ∧
          Template.render p.config.delimiter p.vars template = .ok rendered ∧
          files.writable p.options.outputPath = .ok place ∧
          (run i files).files = files.put place (.file rendered.text.toUTF8) ∧
          (run i files).files.read p.options.outputPath = .ok rendered.text.toUTF8 ∧
          ∀ other, other ≠ place →
            (run i files).files.lookup other = files.lookup other) := by
  refine ⟨files_of_exitStatus_ne_zero, fun e he => files_of_parse_error he, ?_⟩
  intro arguments hp
  refine ⟨files_of_not_produce hp, fun ha hzero => ?_⟩
  rcases run_of_produce hp ha with ⟨hne, _⟩ | ⟨_, p, rendered, place, hr, hplace, hfiles⟩
  · exact absurd hzero hne
  · obtain ⟨template, ht, hrender⟩ := Except.bind_eq_ok_iff.1 hr
    obtain ⟨content, hread, htext⟩ := (Template.decode_eq_ok_iff ..).1 ht
    refine ⟨p, content, template, rendered, place, hread, htext, hrender, hplace, hfiles, ?_, ?_⟩
    · rw [hfiles]
      exact File.Tree.read_put_of_writable hplace _
    · intro other hne
      rw [hfiles]
      exact File.Tree.lookup_put_of_ne files _ hne

def overwritingCall : Invocation where
  words := ["generate", "--build-time=now", "--compiler=cc", "--dpath=src",
    "--template=mode.h", "--output=mode.h"]
  environment := {}
  machine := .ok ⟨"linux", "x86_64", "6.1", "cpu", "Linux", "ci"⟩

def overwrittenFiles : File.Tree where
  workingDirectory := ["work"]
  entries := [(["work", "src"], .directory),
    (["work", "src", "mode.h"], .file "#define MODE @mode@\n".toUTF8)]

theorem run_overwrites_template :
    (run overwritingCall overwrittenFiles).exitStatus = 0 ∧
      ∃ (p : Plan overwritingCall overwrittenFiles) (rendered : Template.Rendered),
        Template.render p.config.delimiter p.vars "#define MODE @mode@\n" = .ok rendered ∧
        (run overwritingCall overwrittenFiles).files.read "src/mode.h" =
          .ok rendered.text.toUTF8 := by
  have hp : CommandLine.parse overwritingCall.words =
      .ok { action := .generate false
            build :=
              { destDir := "src", buildTime := some "now", compiler := some "cc",
                template := some "mode.h", output := some "mode.h" } } := rfl
  have hzero : (run overwritingCall overwrittenFiles).exitStatus = 0 := by decide +kernel
  obtain ⟨p, content, template, rendered, _, hread, htext, hrender, _, _, hafter, _⟩ :=
    ((run_changes_only_output overwritingCall overwrittenFiles).2.2 _ hp).2 rfl hzero
  have ha := p.arguments_eq hp
  have hin : p.options.templatePath = "src/mode.h" := by
    show File.joinPath p.arguments.build.sourceDir
      (p.arguments.build.template.getD p.config.template) = _
    rw [ha]
    exact (by decide : File.joinPath "src" "mode.h" = "src/mode.h")
  have hout : p.options.outputPath = "src/mode.h" := by
    show File.joinPath p.arguments.build.destDir
      (p.arguments.build.output.getD p.config.output) = _
    rw [ha]
    exact (by decide : File.joinPath "src" "mode.h" = "src/mode.h")
  rw [hin] at hread
  rw [hout] at hafter
  have hcontent : overwrittenFiles.read "src/mode.h" = .ok "#define MODE @mode@\n".toUTF8 := rfl
  obtain rfl := Except.ok.inj (hcontent.symm.trans hread)
  have hutf8 : String.fromUTF8? "#define MODE @mode@\n".toUTF8 =
      some "#define MODE @mode@\n" := by decide +kernel
  obtain rfl := Option.some.inj (hutf8.symm.trans htext)
  exact ⟨hzero, p, rendered, hrender, hafter⟩

end BuildHeader.Run
