import BuildHeader.File.Tree
import BuildHeader.Proofs.Script

/-!
What a write does to a file tree: one place gets the content, every other place keeps what it had,
and the path that was written can be read back. A walk looks only at directories, so a place that
is none can be written without leading any walk astray.
-/

set_option autoImplicit false

namespace BuildHeader.File

theorem Path.steps_of_writeTarget? {path : String} {before : List String} {name : String}
    (h : Tree.writeTarget? path = some (before, name)) :
    Path.steps path = before ++ [name] ∧ name ≠ "." ∧ name ≠ ".." := by
  unfold Tree.writeTarget? at h
  cases hs : (Path.steps path).reverse with
  | nil => simp [hs] at h
  | cons last rest =>
    have hsteps : Path.steps path = rest.reverse ++ [last] := by
      simpa using congrArg List.reverse hs
    by_cases hdot : last = "." ∨ last = ".."
    · simp [hs, hdot] at h
    · simp only [hs, hdot, if_false, Option.some.injEq, Prod.mk.injEq] at h
      obtain ⟨rfl, rfl⟩ := h
      exact ⟨hsteps, not_or.1 hdot⟩

namespace Tree

theorem walk_append (t : Tree) (place : Location) (first second : List String) :
    t.walk place (first ++ second) = (t.walk place first).bind (t.walk · second) := by
  induction first generalizing place with
  | nil => rfl
  | cons step rest ih =>
    simp only [List.cons_append, walk]
    cases h : t.lookup place with
    | none => rfl
    | some entry =>
      cases entry with
      | file content => rfl
      | directory =>
        simp only []
        split
        · exact ih place
        · split
          · exact ih place.dropLast
          · split
            · rfl
            · exact ih (place ++ [step])

theorem walk_dot_eq_ok_iff (t : Tree) (place target : Location) :
    t.walk place ["."] = .ok target ↔ t.lookup place = some .directory ∧ place = target := by
  cases h : t.lookup place with
  | none => simp [walk, h]
  | some entry => cases entry <;> simp [walk, h]

theorem walk_name {t : Tree} {place : Location} {name : String}
    (hp : t.lookup place = some .directory) (hn : name ≠ "." ∧ name ≠ "..")
    (hl : ¬maxNameBytes < name.utf8ByteSize) : t.walk place [name] = .ok (place ++ [name]) := by
  simp [walk, hp, hn, hl]

theorem isPrefixOf_workingDirectory {t : Tree} {place : Location}
    (h : t.lookup place ≠ some .directory) : place.isPrefixOf t.workingDirectory = false := by
  rw [Bool.eq_false_iff]
  intro hp
  exact h (if_pos hp)

/-- A walk that comes through goes the same way after a write to a place that is no directory. -/
theorem walk_put {t : Tree} {place : Location} (entry : Entry)
    (hp : t.lookup place ≠ some .directory) {start target : Location} {steps : List String}
    (h : t.walk start steps = .ok target) : (t.put place entry).walk start steps = .ok target := by
  induction steps generalizing start with
  | nil => exact h
  | cons step rest ih =>
    unfold walk at h ⊢
    cases hs : t.lookup start with
    | none => simp [hs] at h
    | some found =>
      cases found with
      | file content => simp [hs] at h
      | directory =>
        -- Only a directory leads on, and none is written.
        have hne : start ≠ place := fun same => hp (same ▸ hs)
        rw [lookup_put_of_ne t entry hne, hs]
        simp only [hs] at h ⊢
        by_cases hdot : step = "."
        · simp only [hdot, if_true] at h ⊢
          exact ih h
        by_cases hup : step = ".."
        · simp only [hup, if_true] at h ⊢
          exact ih h
        by_cases hlong : maxNameBytes < step.utf8ByteSize
        · simp [hdot, hup, hlong] at h
        · simp only [hdot, hup, hlong, if_false] at h ⊢
          exact ih h

theorem writable_eq_ok_iff {t : Tree} {path : String} {place : Location} :
    t.writable path = .ok place ↔
      checkPath path = .ok () ∧ Path.endsInSlash path = false ∧
        ∃ before name above, writeTarget? path = some (before, name) ∧
          t.walk (t.start path) (before ++ ["."]) = .ok above ∧
          ¬maxNameBytes < name.utf8ByteSize ∧ t.lookup (above ++ [name]) ≠ some .directory ∧
          above ++ [name] = place := by
  unfold writable
  cases hc : checkPath path with
  | error fault => simp
  | ok _ =>
    cases ht : writeTarget? path with
    | none => cases hw : t.walk (t.start path) (Path.steps path) <;> simp
    | some target =>
      obtain ⟨before, name⟩ := target
      cases hw : t.walk (t.start path) (before ++ ["."]) with
      | error fault => simp [hw]
      | ok above =>
        by_cases hslash : Path.endsInSlash path = true
        · simp [hw, hslash]
        by_cases hlong : maxNameBytes < name.utf8ByteSize
        · have hle : ¬name.utf8ByteSize ≤ maxNameBytes := Nat.not_le.2 hlong
          simp [hw, hslash, hlong, hle]
        by_cases hdir : t.lookup (above ++ [name]) = some .directory
        · simp [hw, hslash, hlong, hdir]
        · simp only [hw, hslash, hlong, hdir, Bool.false_eq_true, if_false, Except.ok.injEq]
          constructor
          · rintro rfl
            exact ⟨trivial, trivial, before, name, above, rfl, hw, hlong, hdir, rfl⟩
          · rintro ⟨_, _, before, name, above', htarget, hw', _, _, rfl⟩
            cases htarget
            obtain rfl := Except.ok.inj (hw.symm.trans hw')
            rfl

theorem writable_eq_ok {t : Tree} {path : String} {place : Location}
    (h : t.writable path = .ok place) :
    checkPath path = .ok () ∧ Path.endsInSlash path = false ∧
      t.walk (t.start path) (Path.steps path) = .ok place ∧
      t.lookup place ≠ some .directory := by
  obtain ⟨hc, hslash, before, name, above, ht, hw, hlong, hdir, rfl⟩ := writable_eq_ok_iff.1 h
  obtain ⟨hsteps, hname⟩ := Path.steps_of_writeTarget? ht
  rw [walk_append] at hw
  obtain ⟨dir, hbefore, hdot⟩ := Except.bind_eq_ok_iff.1 hw
  obtain ⟨habove, rfl⟩ := (walk_dot_eq_ok_iff t dir above).1 hdot
  refine ⟨hc, hslash, ?_, hdir⟩
  rw [hsteps, walk_append, hbefore]
  exact walk_name habove hname hlong

theorem write_eq_ok_iff (t t' : Tree) (path : String) (content : ByteArray) :
    t.write path content = .ok t' ↔
      ∃ place, t.writable path = .ok place ∧ t' = t.put place (.file content) := by
  unfold write
  cases h : t.writable path with
  | error fault => simp [Except.map]
  | ok place => simp [Except.map, eq_comm]

theorem write_eq_error_iff (t : Tree) (path : String) (content : ByteArray) (fault : Fault) :
    t.write path content = .error fault ↔ t.writable path = .error fault := by
  unfold write
  cases t.writable path <;> simp [Except.map]

theorem read_put_of_writable {t : Tree} {path : String} {place : Location}
    (h : t.writable path = .ok place) (content : ByteArray) :
    (t.put place (.file content)).read path = .ok content := by
  obtain ⟨hc, hslash, hw, hd⟩ := writable_eq_ok h
  have hwalk := walk_put (.file content) hd hw
  have hself := lookup_put_self (.file content) (isPrefixOf_workingDirectory hd)
  have hfind : (t.put place (.file content)).find path = .ok (place, .file content) := by
    unfold find
    simp only [hc, hslash, Bool.false_eq_true, if_false, List.append_nil]
    rw [show (t.put place (.file content)).start path = t.start path from rfl, hwalk]
    simp [hself]
  simp [read, hfind]

theorem writable_put_self {t : Tree} {path : String} {place : Location}
    (h : t.writable path = .ok place) (content : ByteArray) :
    (t.put place (.file content)).writable path = .ok place := by
  have hd := (writable_eq_ok h).2.2.2
  obtain ⟨hc, hslash, before, name, above, ht, hw, hlong, _, rfl⟩ := writable_eq_ok_iff.1 h
  have hself := lookup_put_self (.file content) (isPrefixOf_workingDirectory hd)
  exact writable_eq_ok_iff.2 ⟨hc, hslash, before, name, above, ht,
    walk_put (.file content) hd hw, hlong, by simp [hself], rfl⟩

theorem find_put_of_ne {t : Tree} {place : Location} (entry : Entry)
    (hp : t.lookup place ≠ some .directory) {path : String} {found : Location} {old : Entry}
    (h : t.find path = .ok (found, old)) (hne : found ≠ place) :
    (t.put place entry).find path = .ok (found, old) := by
  unfold find at h ⊢
  cases hc : checkPath path with
  | error fault => simp [hc] at h
  | ok _ =>
    simp only [hc] at h ⊢
    split at h
    · cases h
    · rename_i target hw
      rw [show (t.put place entry).start path = t.start path from rfl, walk_put entry hp hw]
      cases hl : t.lookup target with
      | none => simp [hl] at h
      | some there =>
        obtain ⟨rfl, rfl⟩ : target = found ∧ there = old := by simpa [hl] using h
        simp [lookup_put_of_ne t entry hne, hl]

theorem put_put_self (t : Tree) (place : Location) (first second : Entry) :
    (t.put place first).put place second = t.put place second := by
  simp only [put, Entries.upsert_upsert]

end Tree

end BuildHeader.File
