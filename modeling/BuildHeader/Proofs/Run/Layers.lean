import BuildHeader.Proofs.Build.Builtins
import BuildHeader.Proofs.CommandLine.Items
import BuildHeader.Proofs.Run.Plan

set_option autoImplicit false

namespace BuildHeader.Run

variable {i : Invocation} {files : File.Tree}

theorem Plan.result_load (p : Plan i files) :
    ((Config.load i.environment p.arguments.config).actOn files).result = .ok p.config := by
  have h := Config.quietOn_load i.environment p.arguments.config files
  rw [p.configured] at h
  exact congrArg Script.Transcript.result h

theorem Plan.get?_extraVars (p : Plan i files) (key : String) :
    p.options.extraVars.get? key = (p.items.get? key).or (p.found.templateVars.get? key) :=
  Bindings.get?_overlay p.found.templateVars p.items key

/--
The value of a variable is that of the last item that sets it, else that of the configuration, else
the built-in one. The built-in author is that of the command line, else of the environment, else of
the configuration; the names of template and output are those of the command line if given.
-/
theorem Plan.layer_precedence (p : Plan i files) :
    ((Config.load i.environment p.arguments.config).actOn files).result =
      .ok (p.found.withEnvironment i.environment) ∧
    ∃ version host, Version.ofText p.arguments.build.version = .ok version ∧ i.host = .ok host ∧
      (∀ key,
        (∀ value, CommandLine.SetsLast p.arguments.build.vars key value →
          p.vars.get? key = some (some value)) ∧
        ((∀ item ∈ p.arguments.build.vars, ∀ value, ¬CommandLine.Sets item key value) →
          (∀ value, p.found.templateVars.get? key = some value →
            p.vars.get? key = some (some value)) ∧
          (p.found.templateVars.get? key = none →
            p.vars.get? key = p.options.builtin? version host key))) ∧
      p.options.author = p.arguments.build.author.or
        ((i.environment.get? "CONFGEN_AUTHOR").or p.found.author) ∧
      p.options.templateName = p.arguments.build.template.getD p.found.template ∧
      p.options.outputName = p.arguments.build.output.getD p.found.output := by
  obtain ⟨host, hhost, hmap⟩ := Except.bind_eq_ok_iff.1 p.assembled
  obtain ⟨version, hversion, hget⟩ := Options.get?_toMapping hmap
  have hvars : ∀ key, p.vars.get? key =
      (((p.items.get? key).or (p.found.templateVars.get? key)).map some).or
        (p.options.builtin? version host key) := by
    intro key
    rw [← p.get?_extraVars key]
    exact hget key
  refine ⟨p.result_load, version, host, hversion, hhost, fun key => ?_, rfl, rfl, rfl⟩
  refine ⟨fun value hs => ?_, fun hnone => ?_⟩
  · have hitem := (CommandLine.get?_readVariables_eq_some_iff p.itemized key value).2 hs
    simp [hvars, hitem]
  · have hitem := (CommandLine.get?_readVariables_eq_none_iff p.itemized key).2 hnone
    refine ⟨fun value hf => ?_, fun hf => ?_⟩
    · simp [hvars, hitem, hf]
    · simp [hvars, hitem, hf]

def layeredCall : Invocation where
  words := ["vars", "--var=vendor=first", "--var=vendor=last"]
  environment := { entries := [("CONFGEN_AUTHOR", "builder")] }
  machine := .ok ⟨"linux", "x86_64", "6.1", "cpu", "Linux", "ci"⟩

def layeredFiles : File.Tree where
  workingDirectory := ["work"]
  entries := [(["work", "confgen.yaml"],
    .file "author: team\ntemplate_vars:\n  mode: custom\n  vendor: acme\n".toUTF8)]

theorem layer_precedence_over_one_tree :
    ∃ p : Plan layeredCall layeredFiles,
      p.vars.get? "vendor" = some (some "last") ∧ p.vars.get? "mode" = some (some "custom") ∧
        p.vars.get? "author" = some (some "builder") ∧ p.vars.get? "absent" = none := by
  have hp : CommandLine.parse layeredCall.words =
      .ok { action := .vars .text, build := { vars := ["vendor=first", "vendor=last"] } } := rfl
  have hf : Config.found layeredCall.environment none layeredFiles =
      .ok { author := some "team"
            templateVars := .ofList [("mode", "custom"), ("vendor", "acme")] } :=
    Except.eq_ok_of_toOption (by decide +kernel)
  have hzero : (run layeredCall layeredFiles).exitStatus = 0 := by decide +kernel
  obtain ⟨p, -⟩ := exists_plan hp hzero
  have ha := p.arguments_eq hp
  have hc := p.configured
  rw [ha] at hc
  have hfound := Except.ok.inj (hc.symm.trans hf)
  obtain ⟨_, version, host, _, _, hvars, hauthor, _, _⟩ := p.layer_precedence
  rw [ha, hfound] at hvars hauthor
  have hnone : ∀ key, key ≠ "vendor" → ∀ item ∈ ["vendor=first", "vendor=last"], ∀ value,
      ¬CommandLine.Sets item key value := by
    intro key hkey item hm value hs
    have hsplit := (CommandLine.splitItem?_eq_some_iff item key value).2 hs
    simp only [List.mem_cons, List.not_mem_nil, or_false] at hm
    rcases hm with rfl | rfl
    · exact hkey (congrArg Prod.fst (Option.some.inj hsplit)).symm
    · exact hkey (congrArg Prod.fst (Option.some.inj hsplit)).symm
  refine ⟨p, ?_, ?_, ?_, ?_⟩
  · exact (hvars "vendor").1 "last" ⟨["vendor=first"], "vendor=last", [], rfl,
      ⟨by decide, by decide, by decide⟩, by simp⟩
  · exact ((hvars "mode").2 (hnone _ (by decide))).1 "custom" rfl
  · rw [((hvars "author").2 (hnone _ (by decide))).2 rfl]
    exact congrArg (Option.map some) hauthor
  · rw [((hvars "absent").2 (hnone _ (by decide))).2 rfl]
    rfl

end BuildHeader.Run
