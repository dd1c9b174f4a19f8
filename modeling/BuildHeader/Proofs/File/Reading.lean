import BuildHeader.Proofs.Script
import BuildHeader.File.Tree

set_option autoImplicit false

namespace BuildHeader.File.Tree

theorem walk_ne_isADirectory (t : Tree) (place : Location) (steps : List String) :
    t.walk place steps ≠ .error .isADirectory := by
  induction steps generalizing place with
  | nil => simp [walk]
  | cons step rest ih =>
    unfold walk
    split
    · simp
    · simp
    · split
      · exact ih place
      · split
        · exact ih place.dropLast
        · split
          · simp
          · exact ih (place ++ [step])

theorem find_ne_isADirectory (t : Tree) (path : String) :
    t.find path ≠ .error .isADirectory := by
  intro h
  unfold find at h
  split at h
  · rename_i fault hc
    obtain rfl := Except.error.inj h
    unfold checkPath at hc
    split at hc
    · cases hc
    · split at hc
      · cases hc
      · split at hc <;> cases hc
  · split at h
    · rename_i hw
      obtain rfl := Except.error.inj h
      exact walk_ne_isADirectory _ _ _ hw
    · split at h <;> cases h

theorem isThere_iff_read (t : Tree) (path : String) :
    t.isThere path = true ↔
      (∃ content, t.read path = .ok content) ∨ t.read path = .error .isADirectory := by
  unfold isThere read
  cases h : t.find path with
  | error fault =>
    have hne : fault ≠ .isADirectory := fun same => t.find_ne_isADirectory path (same ▸ h)
    simp [Except.isOk, Except.toBool, hne]
  | ok found =>
    obtain ⟨place, entry⟩ := found
    cases entry <;> simp [Except.isOk, Except.toBool]

theorem isThere_eq_of_read_eq {t t' : Tree} {path : String} (h : t.read path = t'.read path) :
    t.isThere path = t'.isThere path := by
  rw [Bool.eq_iff_iff, isThere_iff_read, isThere_iff_read, h]

theorem isThere_of_read {t : Tree} {path : String} {content : ByteArray}
    (h : t.read path = .ok content) : t.isThere path = true :=
  (t.isThere_iff_read path).2 (.inl ⟨content, h⟩)

/-- The trees differ at most in the file at one place, which has these contents. -/
structure AlikeBut (place : Location) (content content' : ByteArray) (t t' : Tree) : Prop where
  workingDirectory : t.workingDirectory = t'.workingDirectory
  elsewhere : ∀ other, other ≠ place → t.lookup other = t'.lookup other
  first : t.lookup place = some (.file content)
  second : t'.lookup place = some (.file content')

theorem alikeBut_put {t : Tree} {place : Location}
    (h : place.isPrefixOf t.workingDirectory = false) (content content' : ByteArray) :
    AlikeBut place content content' (t.put place (.file content))
      (t.put place (.file content')) where
  workingDirectory := rfl
  elsewhere := fun _ hne => by rw [lookup_put_of_ne t _ hne, lookup_put_of_ne t _ hne]
  first := lookup_put_self _ h
  second := lookup_put_self _ h

namespace AlikeBut

variable {place : Location} {content content' : ByteArray} {t t' : Tree}
  (h : AlikeBut place content content' t t')
include h

theorem lookup_eq_directory_iff (other : Location) :
    t.lookup other = some .directory ↔ t'.lookup other = some .directory := by
  by_cases same : other = place
  · simp [same, h.first, h.second]
  · rw [h.elsewhere other same]

theorem walk_eq (start : Location) (steps : List String) :
    t.walk start steps = t'.walk start steps := by
  induction steps generalizing start with
  | nil => rfl
  | cons step rest ih =>
    simp only [walk]
    by_cases same : start = place
    · simp only [same, h.first, h.second]
    · simp only [h.elsewhere start same, ih]

theorem start_eq (path : String) : t.start path = t'.start path := by
  simp only [start, h.workingDirectory]

theorem find_eq_or (path : String) :
    t.find path = t'.find path ∨
      t.find path = .ok (place, .file content) ∧ t'.find path = .ok (place, .file content') := by
  unfold find
  cases checkPath path with
  | error fault => exact .inl rfl
  | ok _ =>
    simp only [h.start_eq, h.walk_eq]
    cases t'.walk (t'.start path)
        (Path.steps path ++ if Path.endsInSlash path then ["."] else []) with
    | error fault => exact .inl rfl
    | ok found =>
      by_cases same : found = place
      · exact .inr ⟨by simp [same, h.first], by simp [same, h.second]⟩
      · exact .inl (by simp only [h.elsewhere found same])

theorem isThere_eq (path : String) : t.isThere path = t'.isThere path := by
  rcases h.find_eq_or path with same | ⟨hfirst, hsecond⟩
  · simp only [isThere, same]
  · simp only [isThere, hfirst, hsecond]
    rfl

theorem read_eq_or (path : String) :
    t.read path = t'.read path ∨ t.read path = .ok content ∧ t'.read path = .ok content' := by
  rcases h.find_eq_or path with same | ⟨hfirst, hsecond⟩
  · exact .inl (by simp only [read, same])
  · exact .inr ⟨by simp only [read, hfirst], by simp only [read, hsecond]⟩

theorem read_eq {path : String} (hne : ∀ entry, t.find path ≠ .ok (place, entry)) :
    t.read path = t'.read path := by
  rcases h.find_eq_or path with same | ⟨hfirst, _⟩
  · simp only [read, same]
  · exact absurd hfirst (hne _)

theorem writable_eq (path : String) : t.writable path = t'.writable path := by
  simp only [writable, h.start_eq, h.walk_eq, h.lookup_eq_directory_iff]

end AlikeBut

end BuildHeader.File.Tree
