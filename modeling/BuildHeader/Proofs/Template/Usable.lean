import BuildHeader.Proofs.Mapping
import BuildHeader.Template.Render

set_option autoImplicit false

namespace BuildHeader.Template

/-- Every name can stand between two delimiters, and every value is set. -/
def Usable (delimiter : Char) (vars : Mapping) : Prop :=
  ∀ entry ∈ vars.entries, entry.1 ≠ "" ∧ delimiter ∉ entry.1.toList ∧ entry.2.isSome

instance (delimiter : Char) (vars : Mapping) : Decidable (Usable delimiter vars) :=
  inferInstanceAs (Decidable (∀ entry ∈ vars.entries, _))

theorem check_eq_ok_iff (d : Char) (entries : List (String × Option String)) :
    check d entries = .ok () ↔
      ∀ entry ∈ entries, entry.1 ≠ "" ∧ d ∉ entry.1.toList ∧ entry.2.isSome := by
  induction entries with
  | nil => simp [check]
  | cons entry rest ih =>
    obtain ⟨key, value⟩ := entry
    by_cases hne : key = ""
    · simp [check, hne]
    by_cases hd : d ∈ key.toList
    · simp [check, hd]
    cases value with
    | none => simp [check, hne, hd]
    | some value => simp [check, hne, hd, ih]

theorem render_of_usable {d : Char} {vars : Mapping} (h : Usable d vars) (template : String) :
    render d vars template = .ok (assemble d (pieces d (lookup vars) template.toList)) := by
  have hc := (check_eq_ok_iff d vars.entries).2 h
  simp [render, hc]

theorem rendered_eq_assemble {d : Char} {vars : Mapping} (h : Usable d vars) {template : String}
    {rendered : Rendered} (hr : render d vars template = .ok rendered) :
    rendered = assemble d (pieces d (lookup vars) template.toList) :=
  Except.ok.inj (hr.symm.trans (render_of_usable h template))

theorem usable_iff_exists_render (d : Char) (vars : Mapping) (template : String) :
    Usable d vars ↔ ∃ rendered, render d vars template = .ok rendered := by
  constructor
  · intro h
    exact ⟨_, render_of_usable h template⟩
  · rintro ⟨rendered, h⟩
    unfold render at h
    split at h
    · cases h
    · rename_i hc
      exact (check_eq_ok_iff d vars.entries).1 hc

def Fits (delimiter : Char) (key : String) : Prop := key ≠ "" ∧ delimiter ∉ key.toList

theorem usable_iff (d : Char) (vars : Mapping) :
    Usable d vars ↔ (∀ entry ∈ vars.entries, Fits d entry.1) ∧
      ∀ entry ∈ vars.entries, entry.2.isSome = true := by
  constructor
  · intro h
    exact ⟨fun entry hm => ⟨(h entry hm).1, (h entry hm).2.1⟩, fun entry hm => (h entry hm).2.2⟩
  · rintro ⟨hfits, hset⟩ entry hm
    exact ⟨(hfits entry hm).1, (hfits entry hm).2, hset entry hm⟩

/-- What is wrong with an entry: its name, or else that it has no value. -/
inductive Offends (delimiter : Char) : String × Option String → Error → Prop where
  | name {key : String} {value : Option String} (misfit : ¬Fits delimiter key) :
    Offends delimiter (key, value) (.invalidKey key delimiter)
  | value {key : String} (fits : Fits delimiter key) :
    Offends delimiter (key, none) (.missingValue key)

def FirstOffence (delimiter : Char) (entries : List (String × Option String)) (e : Error) : Prop :=
  ∃ before entry after, entries = before ++ entry :: after ∧
    (∀ sound ∈ before, Fits delimiter sound.1 ∧ sound.2.isSome) ∧ Offends delimiter entry e

theorem check_cons_of_fits {d : Char} {key : String} (h : Fits d key) (value : String)
    (rest : List (String × Option String)) :
    check d ((key, some value) :: rest) = check d rest := by
  simp [check, h.1, h.2]

theorem check_of_offends {d : Char} {entry : String × Option String} {e : Error}
    (h : Offends d entry e) (rest : List (String × Option String)) :
    check d (entry :: rest) = .error e := by
  cases h with
  | @name key value misfit =>
    by_cases hne : key = ""
    · simp [check, hne]
    · have hd : d ∈ key.toList := Classical.byContradiction fun hd => misfit ⟨hne, hd⟩
      simp [check, hd]
  | value fits => simp [check, fits.1, fits.2]

theorem exists_offends {d : Char} {entry : String × Option String}
    (h : ¬(Fits d entry.1 ∧ entry.2.isSome)) : ∃ e, Offends d entry e := by
  obtain ⟨key, value⟩ := entry
  by_cases hf : Fits d key
  · cases value with
    | none => exact ⟨_, .value hf⟩
    | some value => exact absurd ⟨hf, rfl⟩ h
  · exact ⟨_, .name hf⟩

theorem check_eq_error_iff (d : Char) (entries : List (String × Option String)) (e : Error) :
    check d entries = .error e ↔ FirstOffence d entries e := by
  constructor
  · intro h
    induction entries with
    | nil => simp [check] at h
    | cons entry rest ih =>
      by_cases hs : Fits d entry.1 ∧ entry.2.isSome
      · obtain ⟨key, value⟩ := entry
        obtain ⟨value, rfl⟩ := Option.isSome_iff_exists.1 hs.2
        rw [check_cons_of_fits hs.1] at h
        obtain ⟨before, offender, after, rfl, hb, ho⟩ := ih h
        exact ⟨_ :: before, offender, after, rfl, List.forall_mem_cons.2 ⟨hs, hb⟩, ho⟩
      · obtain ⟨e', ho⟩ := exists_offends hs
        rw [check_of_offends ho, Except.error.injEq] at h
        exact ⟨[], entry, rest, rfl, by simp, h ▸ ho⟩
  · rintro ⟨before, offender, after, rfl, hb, ho⟩
    induction before with
    | nil => exact check_of_offends ho after
    | cons entry before ih =>
      obtain ⟨hs, hbefore⟩ := List.forall_mem_cons.1 hb
      obtain ⟨key, value⟩ := entry
      obtain ⟨value, rfl⟩ := Option.isSome_iff_exists.1 hs.2
      rw [List.cons_append, check_cons_of_fits hs.1]
      exact ih hbefore

theorem render_eq_error_iff (d : Char) (vars : Mapping) (template : String) (e : Error) :
    render d vars template = .error e ↔ FirstOffence d vars.entries e := by
  rw [← check_eq_error_iff, render]
  cases check d vars.entries <;> simp

theorem eq_invalidKey_or_missingValue {d : Char} {vars : Mapping} {template : String} {e : Error}
    (h : render d vars template = .error e) :
    (∃ key, e = .invalidKey key d) ∨ ∃ key, e = .missingValue key := by
  obtain ⟨_, _, _, _, _, ho⟩ := (render_eq_error_iff d vars template e).1 h
  cases ho with
  | name misfit => exact .inl ⟨_, rfl⟩
  | value fits => exact .inr ⟨_, rfl⟩

def IsName (vars : Mapping) (name : List Char) : Prop := vars.contains (String.ofList name) = true

instance (vars : Mapping) (name : List Char) : Decidable (IsName vars name) :=
  inferInstanceAs (Decidable (_ = true))

theorem Usable.not_mem_of_isName {d : Char} {vars : Mapping} (h : Usable d vars)
    {name : List Char} (hn : IsName vars name) : d ∉ name := by
  obtain ⟨value, hv⟩ := Option.isSome_iff_exists.1 hn
  have hd := (h _ ((vars.mem_entries_iff _ _).2 hv)).2.1
  simpa using hd

theorem Usable.lookup_isSome_iff {d : Char} {vars : Mapping} (h : Usable d vars)
    (name : List Char) : (lookup vars name).isSome ↔ IsName vars name := by
  unfold lookup IsName Mapping.value? Mapping.contains
  cases hv : vars.get? (String.ofList name) with
  | none => simp
  | some value =>
    have hs := (h _ ((vars.mem_entries_iff _ _).2 hv)).2.2
    simpa using hs

theorem Usable.lookup_eq_none_iff {d : Char} {vars : Mapping} (h : Usable d vars)
    (name : List Char) : lookup vars name = none ↔ ¬IsName vars name := by
  rw [← h.lookup_isSome_iff, Option.not_isSome_iff_eq_none]

theorem not_mem_of_lookup {c : Char} {vars : Mapping}
    (h : ∀ entry ∈ vars.entries, ∀ value ∈ entry.2, c ∉ value.toList) {name value : List Char}
    (hv : lookup vars name = some value) : c ∉ value := by
  obtain ⟨text, ht, rfl⟩ := Option.map_eq_some_iff.1 hv
  have hget : vars.get? (String.ofList name) = some (some text) := Option.join_eq_some_iff.1 ht
  exact h _ ((vars.mem_entries_iff _ _).2 hget) text rfl

end BuildHeader.Template
