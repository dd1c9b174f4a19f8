import BuildHeader.Config
import BuildHeader.Proofs.Build.Builtins
import BuildHeader.Proofs.Template.Usable

/-!
Which delimiters a configuration can have, and which of them the built-in names can be written
between. A configuration refuses blanks, letters and digits; a name is made of letters, digits and
low lines. So the low line is the one delimiter that is accepted and that no build can use.
-/

set_option autoImplicit false

namespace BuildHeader.Config

theorem validate_eq_ok_iff (config : Config) :
    config.validate = .ok () ↔
      Text.isWhitespace config.delimiter = false ∧ Text.isAlphanumeric config.delimiter = false ∧
        config.template ≠ "" ∧ config.output ≠ "" := by
  unfold validate
  cases Text.isWhitespace config.delimiter <;> cases Text.isAlphanumeric config.delimiter <;>
    by_cases ht : config.template = "" <;> by_cases ho : config.output = "" <;> simp [ht, ho]

theorem validate_of_ofYaml {text : String} {config : Config} (h : ofYaml text = .ok config) :
    config.validate = .ok () := by
  unfold ofYaml at h
  split at h
  · cases h
  · split at h
    · cases h
    · obtain ⟨_, hv, rfl⟩ := Except.map_eq_ok_iff.1 h
      exact hv

end BuildHeader.Config

namespace BuildHeader.Options

open Template (Fits FirstOffence Usable)

/-- No built-in name holds a delimiter that is neither a letter nor a digit nor the low line. -/
theorem fits_of_builtin? {d : Char} (hd : Text.isAlphanumeric d = false) (hlow : d ≠ '_')
    {o : Options} {version : Version} {host : Host} {key : String} {value : Option String}
    (h : o.builtin? version host key = some value) : Fits d key := by
  obtain ⟨hne, hall⟩ := Bool.and_eq_true_iff.1 (isIdentifier_of_builtin? h)
  refine ⟨?_, fun hm => ?_⟩
  · rintro rfl
    simp at hne
  · have hword := List.all_eq_true.1 hall d hm
    simp [Text.isWordChar, hd, hlow] at hword

section Supplied

variable {o : Options} {version : Version} {host : Host} {vars : Mapping}
  (hversion : Version.ofText o.version = .ok version)
  (hextra : o.extraVars = .empty) (h : o.toMapping host = .ok vars)
include hversion hextra h

theorem usable_of_supplied (htime : o.buildTime.isSome = true)
    (hcompiler : o.compiler.isSome = true) {d : Char} (hd : Text.isAlphanumeric d = false)
    (hlow : d ≠ '_') : Usable d vars := by
  have hset := (all_set_iff h).2 ⟨.inl htime, .inl hcompiler⟩
  rintro ⟨key, value⟩ hm
  have hbuiltin : o.builtin? version host key = some value := by
    rw [← lookup_builtins, ← entries_toMapping hversion hextra h]
    exact (vars.mem_entries_iff key value).1 hm
  obtain ⟨hne, hfree⟩ := fits_of_builtin? hd hlow hbuiltin
  exact ⟨hne, hfree, hset _ hm⟩

theorem firstOffence_of_low_line :
    FirstOffence '_' vars.entries (.invalidKey "version_major" '_') := by
  rw [entries_toMapping hversion hextra h]
  refine ⟨[("version", some o.version)], _, _, rfl, ?_, .name ?_⟩
  · simp [Fits]
  · simp [Fits]

end Supplied

end BuildHeader.Options

namespace BuildHeader.Config

/--
A build that has a version, a build time and a compiler can fill every template under every
delimiter that a document can ask for but one. Under the low line it can fill none.
-/
theorem accepted_delimiter_fits_builtins {text : String} {config : Config}
    (accepted : ofYaml text = .ok config) {o : Options} {version : Version}
    (hversion : Version.ofText o.version = .ok version) (htime : o.buildTime.isSome = true)
    (hcompiler : o.compiler.isSome = true) (hextra : o.extraVars = .empty) (host : Host) :
    ∃ vars, o.toMapping host = .ok vars ∧
      (config.delimiter ≠ '_' → ∀ template, ∃ rendered,
        Template.render config.delimiter vars template = .ok rendered) ∧
      (config.delimiter = '_' → ∀ template,
        Template.render config.delimiter vars template =
          .error (.invalidKey "version_major" '_')) := by
  obtain ⟨_, hd, _⟩ := (validate_eq_ok_iff config).1 (validate_of_ofYaml accepted)
  obtain ⟨vars, h⟩ := Options.exists_toMapping hversion host
  refine ⟨vars, h, fun hlow template => ?_, fun hlow template => ?_⟩
  · have husable := Options.usable_of_supplied hversion hextra h htime hcompiler hd hlow
    exact ⟨_, Template.render_of_usable husable template⟩
  · rw [hlow, Template.render_eq_error_iff]
    exact Options.firstOffence_of_low_line hversion hextra h

def suppliedOptions : Options := { buildTime := some "now", compiler := some "cc" }

def plainHost : Host := ⟨⟨"linux", "x86_64", "6.1", "cpu", "Linux", "ci"⟩, "builder"⟩

theorem accepted_percent_fits_builtins :
    ∃ config, ofYaml "delimiter: '%'\n" = .ok config ∧
      ∃ vars, suppliedOptions.toMapping plainHost = .ok vars ∧
        ∃ rendered, Template.render config.delimiter vars "%version_major%.%minor%" =
          .ok rendered := by
  have accepted : ofYaml "delimiter: '%'\n" = .ok { delimiter := '%' } :=
    Except.eq_ok_of_toOption (by decide +kernel)
  have hversion : Version.ofText suppliedOptions.version = .ok ⟨1, 0, 0⟩ := rfl
  obtain ⟨vars, h, hfits, _⟩ :=
    accepted_delimiter_fits_builtins accepted hversion rfl rfl rfl plainHost
  exact ⟨_, accepted, vars, h, hfits (by decide) _⟩

/-- The low line is accepted as a delimiter, and then not even a text without it can be filled. -/
theorem accepted_low_line_fits_no_builtins :
    ∃ config vars, ofYaml "delimiter: _\n" = .ok config ∧ config.delimiter = '_' ∧
      suppliedOptions.toMapping plainHost = .ok vars ∧
      Template.render config.delimiter vars "text" =
        .error (.invalidKey "version_major" '_') := by
  have accepted : ofYaml "delimiter: _\n" = .ok { delimiter := '_' } :=
    Except.eq_ok_of_toOption (by decide +kernel)
  have hversion : Version.ofText suppliedOptions.version = .ok ⟨1, 0, 0⟩ := rfl
  obtain ⟨vars, h⟩ := Options.exists_toMapping hversion plainHost
  refine ⟨_, vars, accepted, rfl, h, ?_⟩
  rw [Template.render_eq_error_iff]
  exact Options.firstOffence_of_low_line hversion rfl h

end BuildHeader.Config
