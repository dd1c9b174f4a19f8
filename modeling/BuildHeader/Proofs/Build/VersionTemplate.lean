import BuildHeader.Proofs.Build.Builtins
import BuildHeader.Proofs.Build.Version
import BuildHeader.Proofs.Template.Staged

set_option autoImplicit false

namespace BuildHeader.Version

open Template (token Cut Usable Fits IsName lookup render Rendered)

def template (delimiter : Char) : String :=
  String.ofList (token delimiter "version_major".toList ++ '.' ::
    (token delimiter "version_minor".toList ++ '.' :: token delimiter "version_alter".toList))

def templateCut : Cut :=
  ⟨[], [("version_major".toList, ['.']), ("version_minor".toList, ['.']),
    ("version_alter".toList, [])]⟩

theorem toList_template (d : Char) : (template d).toList = templateCut.source d := by
  simp [template, templateCut, Cut.source]

structure Supplies (vars : Mapping) (v : Version) : Prop where
  major : vars.get? "version_major" = some (some (numberText v.major))
  minor : vars.get? "version_minor" = some (some (numberText v.minor))
  alter : vars.get? "version_alter" = some (some (numberText v.alter))

theorem supplies_of_toMapping {o : Options} {host : Host} {vars : Mapping} {v : Version}
    (hv : ofText o.version = .ok v) (h : o.toMapping host = .ok vars)
    (hmajor : o.extraVars.get? "version_major" = none)
    (hminor : o.extraVars.get? "version_minor" = none)
    (halter : o.extraVars.get? "version_alter" = none) : Supplies vars v := by
  have hget := Options.get?_of_version hv h
  refine ⟨?_, ?_, ?_⟩
  · rw [hget, hmajor]
    rfl
  · rw [hget, hminor]
    rfl
  · rw [hget, halter]
    rfl

theorem render_template {d : Char} {vars : Mapping} {v : Version} (usable : Usable d vars)
    (supplied : Supplies vars v) (hdot : d ≠ '.') :
    ∃ rendered, render d vars (template d) = .ok rendered ∧ rendered.text = v.text ∧
      rendered.substitutions = 3 := by
  have hnames : ∀ fill ∈ templateCut.fills, IsName vars fill.1 := by
    simp [templateCut, IsName, Mapping.contains, supplied.major, supplied.minor, supplied.alter]
  have hclear : templateCut.Clear d := by
    refine ⟨List.not_mem_nil, fun fill hm => ⟨usable.not_mem_of_isName (hnames fill hm), ?_⟩⟩
    have htext : ∀ fill ∈ templateCut.fills, ∀ c ∈ fill.2, c = '.' := by
      simp [templateCut]
    exact fun hd => hdot (htext fill hm d hd)
  obtain ⟨rendered, hr, htext, hcount⟩ :=
    Template.render_of_names usable hclear hnames (toList_template d)
  refine ⟨rendered, hr, String.toList_injective ?_, hcount⟩
  rw [htext]
  simp [templateCut, Cut.filled, Template.valueOrToken, lookup, Mapping.value?, supplied.major,
    supplied.minor, supplied.alter, text]

theorem usable_of_toMapping {d : Char} {o : Options} {host : Host} {vars : Mapping}
    (h : o.toMapping host = .ok vars) (hnamed : o.extraVars.get? "" = none)
    (hset : ∀ entry ∈ vars.entries, entry.2.isSome = true)
    (hd : ∀ key ∈ Entries.keys vars.entries, d ∉ key.toList) : Usable d vars := by
  refine (Template.usable_iff d vars).2 ⟨fun entry hm => ⟨fun hempty => ?_, ?_⟩, hset⟩
  · obtain ⟨version, _, hget⟩ := Options.get?_toMapping h
    have hentry : vars.get? "" = some entry.2 := hempty ▸ (vars.mem_entries_iff _ _).1 hm
    rw [hget, hnamed] at hentry
    cases hentry
  · exact hd entry.1 (List.mem_map_of_mem hm)

/--
Reading undoes printing, so what is read from a text is read from its printed form too, and two
texts are the same version just when they are printed alike. A template of the three numbers
renders as the printed version of the build, while `version` is the text as it was given, unless an
extra variable takes its place.
-/
theorem version_survives_text_and_template :
    (∀ v : Version, ofText v.text = .ok v) ∧
    (∀ given v, ofText given = .ok v →
      ofText v.text = .ok v ∧ ∀ w, ofText v.text = .ok w → w.text = v.text) ∧
    (∀ first second v w, ofText first = .ok v → ofText second = .ok w →
      (v = w ↔ v.text = w.text)) ∧
    ∀ (o : Options) (host : Host) (v : Version), ofText o.version = .ok v →
      ∃ vars, o.toMapping host = .ok vars ∧
        vars.get? "version" = some (some ((o.extraVars.get? "version").getD o.version)) ∧
        ((∀ entry ∈ vars.entries, entry.2.isSome = true) → o.extraVars.get? "" = none →
          o.extraVars.get? "version_major" = none → o.extraVars.get? "version_minor" = none →
          o.extraVars.get? "version_alter" = none →
          ∀ d, d ≠ '.' → (∀ key ∈ Entries.keys vars.entries, d ∉ key.toList) →
            ∃ rendered, render d vars (template d) = .ok rendered ∧ rendered.text = v.text ∧
              rendered.substitutions = 3) := by
  refine ⟨ofText_text, fun given v _ => ⟨ofText_text v, fun w hw => ?_⟩,
    fun first second v w _ _ => ⟨congrArg text, text_injective⟩, fun o host v hv => ?_⟩
  · rw [ofText_text] at hw
    exact congrArg text (Except.ok.inj hw).symm
  · obtain ⟨vars, h⟩ := Options.exists_toMapping hv host
    refine ⟨vars, h, ?_, fun hset hnamed hmajor hminor halter d hdot hd => ?_⟩
    · rw [Options.get?_of_version hv h]
      cases o.extraVars.get? "version" <;> rfl
    · exact render_template (usable_of_toMapping h hnamed hset hd)
        (supplies_of_toMapping hv h hmajor hminor halter) hdot

def paddedOptions : Options where
  version := "01.+2.003"
  buildTime := some "now"
  compiler := some "cc"
  extraVars := .ofList [("vendor", "acme"), ("mode", "profile")]

/-- Signs and zeros of the text are gone from the numbers and stay in `version`. -/
theorem padded_version_in_template :
    ofText paddedOptions.version = .ok ⟨1, 2, 3⟩ ∧
      ∃ vars, paddedOptions.toMapping Options.ciHost = .ok vars ∧
      vars.get? "version" = some (some "01.+2.003") ∧
      ∃ rendered, render '%' vars "%version_major%.%version_minor%.%version_alter%" = .ok rendered ∧
        rendered.text = "1.2.3" := by
  have hv : ofText paddedOptions.version = .ok ⟨1, 2, 3⟩ := rfl
  obtain ⟨_, _, _, hall⟩ := version_survives_text_and_template
  obtain ⟨vars, h, hversion, hrender⟩ := hall paddedOptions Options.ciHost _ hv
  have hset : ∀ entry ∈ vars.entries, entry.2.isSome = true :=
    (Options.all_set_iff h).2 (by decide)
  have hfree : ∀ key ∈ Entries.keys vars.entries, '%' ∉ key.toList := by
    rw [Options.keys_toMapping h]
    decide
  obtain ⟨rendered, hr, htext, _⟩ := hrender hset (by decide) (by decide) (by decide) (by decide)
    '%' (by decide) hfree
  exact ⟨hv, vars, h, hversion, rendered, hr, htext⟩

def optionsWith (extraVars : Bindings) : Options where
  version := "1.2.3"
  buildTime := some "now"
  compiler := some "cc"
  extraVars := extraVars

/--
An extra variable without a name stops the rendering, although no delimiter occurs in a name, and
one that is named `version` takes the place of the text as it was given.
-/
theorem extra_variables_unsettle_version :
    (ofText (optionsWith (.ofList [("", "x")])).version = .ok ⟨1, 2, 3⟩ ∧
      ∃ vars, (optionsWith (.ofList [("", "x")])).toMapping Options.ciHost = .ok vars ∧
      (∀ entry ∈ vars.entries, entry.2.isSome = true) ∧
      (∀ key ∈ Entries.keys vars.entries, '@' ∉ key.toList) ∧
      render '@' vars (template '@') = .error (.invalidKey "" '@')) ∧
    ofText (optionsWith (.ofList [("version", "9")])).version = .ok ⟨1, 2, 3⟩ ∧
      ∃ vars, (optionsWith (.ofList [("version", "9")])).toMapping Options.ciHost = .ok vars ∧
      (∀ entry ∈ vars.entries, entry.2.isSome = true) ∧
      (∀ key ∈ Entries.keys vars.entries, '@' ∉ key.toList) ∧
      vars.get? "version" = some (some "9") :=
  ⟨⟨rfl, _, rfl, by decide, by decide, rfl⟩, rfl, _, rfl, by decide, by decide, by decide⟩

end BuildHeader.Version
