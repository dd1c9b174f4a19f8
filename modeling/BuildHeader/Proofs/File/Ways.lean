import BuildHeader.Proofs.File.Writing

/-!
The places that a path leads through. A walk looks at no other place, so a write anywhere else
leaves alone what the path finds, what it reads as and whether it can be written, also where the
path comes to nothing.
-/

set_option autoImplicit false

namespace BuildHeader.File

def stepFrom (place : Location) (step : String) : Location :=
  if step = "." then place else if step = ".." then place.dropLast else place ++ [step]

/-- Where the steps lead to if all of them can be taken. -/
def goal (place : Location) (steps : List String) : Location := steps.foldl stepFrom place

def passed (place : Location) : List String → List Location
  | [] => [place]
  | step :: rest => place :: passed (stepFrom place step) rest

theorem mem_passed_self (place : Location) (steps : List String) : place ∈ passed place steps := by
  cases steps <;> simp [passed]

theorem goal_mem_passed (place : Location) (steps : List String) :
    goal place steps ∈ passed place steps := by
  induction steps generalizing place with
  | nil => simp [passed, goal]
  | cons step rest ih => exact List.mem_cons_of_mem _ (ih (stepFrom place step))

theorem mem_passed_append (place : Location) (first second : List String) (other : Location) :
    other ∈ passed place (first ++ second) ↔
      other ∈ passed place first ∨ other ∈ passed (goal place first) second := by
  induction first generalizing place with
  | nil =>
    have hself := mem_passed_self place second
    constructor
    · exact .inr
    · rintro (h | h)
      · exact List.mem_singleton.1 h ▸ hself
      · exact h
  | cons step rest ih =>
    have hgoal : goal place (step :: rest) = goal (stepFrom place step) rest := rfl
    rw [hgoal, List.cons_append, passed, passed, List.mem_cons, List.mem_cons, ih, or_assoc]

theorem prefix_goal_of_mem_passed {place other : Location} {steps : List String}
    (hup : ".." ∉ steps) (h : other ∈ passed place steps) : other <+: goal place steps := by
  induction steps generalizing place other with
  | nil => exact List.mem_singleton.1 h ▸ List.prefix_refl _
  | cons step rest ih =>
    obtain ⟨hstep, hrest⟩ := not_or.1 (mt List.mem_cons.2 hup)
    rcases List.mem_cons.1 h with rfl | h
    · have hnext : other <+: stepFrom other step := by
        by_cases hdot : step = "."
        · simp [stepFrom, hdot]
        · simp [stepFrom, hdot, Ne.symm hstep]
      have hgoal : stepFrom other step <+: goal (stepFrom other step) rest :=
        ih hrest (mem_passed_self _ rest)
      exact hnext.trans hgoal
    · exact ih hrest h

namespace Tree

theorem walk_of_directory {t : Tree} {place : Location} (h : t.lookup place = some .directory)
    (step : String) (rest : List String) :
    t.walk place (step :: rest) =
      if maxNameBytes < step.utf8ByteSize then .error .nameTooLong
      else t.walk (stepFrom place step) rest := by
  simp only [walk, h, stepFrom]
  by_cases hdot : step = "."
  · simp [hdot, show ¬maxNameBytes < ".".utf8ByteSize by decide]
  by_cases hup : step = ".."
  · simp [hup, show ¬maxNameBytes < "..".utf8ByteSize by decide]
  · simp [hdot, hup]

theorem eq_goal_of_walk {t : Tree} {place target : Location} {steps : List String}
    (h : t.walk place steps = .ok target) : target = goal place steps := by
  induction steps generalizing place with
  | nil => exact (Except.ok.inj h).symm
  | cons step rest ih =>
    cases hl : t.lookup place with
    | none => simp [walk, hl] at h
    | some entry =>
      cases entry with
      | file content => simp [walk, hl] at h
      | directory =>
        rw [walk_of_directory hl] at h
        split at h
        · cases h
        · exact ih h

/-- A walk that does not come by a place goes the same way, or as far, after a write there. -/
theorem walk_put_of_not_mem {t : Tree} {place : Location} (entry : Entry) {start : Location}
    {steps : List String} (h : place ∉ passed start steps) :
    (t.put place entry).walk start steps = t.walk start steps := by
  -- The walk looks at `start` only, so the write is told apart from that place at every step.
  induction steps generalizing start with
  | nil => rfl
  | cons step rest ih =>
    obtain ⟨hne, hrest⟩ := not_or.1 (mt List.mem_cons.2 h)
    have hl := lookup_put_of_ne t entry (Ne.symm hne)
    cases hs : t.lookup start with
    | none => simp only [walk, hl, hs]
    | some found =>
      cases found with
      | file content => simp only [walk, hl, hs]
      | directory => rw [walk_of_directory hs, walk_of_directory (hl.trans hs), ih hrest]

def way (t : Tree) (path : String) : List Location := passed (t.start path) (Path.steps path)

def destination (t : Tree) (path : String) : Location := goal (t.start path) (Path.steps path)

/-- The inner path names the place of the outer one, or leads through it. -/
def Covers (t : Tree) (outer inner : String) : Prop := t.destination outer ∈ t.way inner

instance (t : Tree) (outer inner : String) : Decidable (t.Covers outer inner) :=
  inferInstanceAs (Decidable (t.destination outer ∈ t.way inner))

theorem eq_destination_of_writable {t : Tree} {path : String} {place : Location}
    (h : t.writable path = .ok place) : place = t.destination path :=
  eq_goal_of_walk (writable_eq_ok h).2.2.1

theorem prefix_of_covers {t : Tree} {outer inner : String} (hup : ".." ∉ Path.steps inner)
    (h : t.Covers outer inner) : t.destination outer <+: t.destination inner :=
  prefix_goal_of_mem_passed hup h

section Put

variable {t : Tree} {place : Location} (entry : Entry) {path : String}

theorem find_put_of_not_mem (h : place ∉ t.way path) :
    (t.put place entry).find path = t.find path := by
  have hstart : (t.put place entry).start path = t.start path := rfl
  have hsteps : place ∉ passed (t.start path)
      (Path.steps path ++ if Path.endsInSlash path then ["."] else []) := by
    intro hm
    rcases (mem_passed_append ..).1 hm with hm | hm
    · exact h hm
    · have hgoal : place = goal (t.start path) (Path.steps path) := by
        by_cases hslash : Path.endsInSlash path = true
        · simpa [hslash, passed, stepFrom] using hm
        · simpa [hslash, passed] using hm
      exact h (hgoal ▸ goal_mem_passed _ _)
  unfold find
  rw [hstart, walk_put_of_not_mem entry hsteps]
  cases checkPath path with
  | error fault => rfl
  | ok _ =>
    cases hw : t.walk (t.start path)
        (Path.steps path ++ if Path.endsInSlash path then ["."] else []) with
    | error fault => rfl
    | ok target =>
      have hne : target ≠ place := fun same =>
        hsteps (same ▸ eq_goal_of_walk hw ▸ goal_mem_passed _ _)
      simp only [lookup_put_of_ne t entry hne]

theorem read_put_of_not_mem (h : place ∉ t.way path) :
    (t.put place entry).read path = t.read path := by
  simp only [read, find_put_of_not_mem entry h]

theorem writable_put_of_not_mem (h : place ∉ t.way path) :
    (t.put place entry).writable path = t.writable path := by
  have hstart : (t.put place entry).start path = t.start path := rfl
  unfold writable
  rw [hstart]
  cases checkPath path with
  | error fault => rfl
  | ok _ =>
    cases ht : writeTarget? path with
    | none => simp only [walk_put_of_not_mem entry h]
    | some target =>
      obtain ⟨before, name⟩ := target
      obtain ⟨hsteps, hdot, hup⟩ := Path.steps_of_writeTarget? ht
      have hway : place ∉ passed (t.start path) (before ++ [name]) := hsteps ▸ h
      obtain ⟨hbefore, hname⟩ := not_or.1 (mt (mem_passed_append ..).2 hway)
      -- The directory of the file is found by a walk of its own, which ends in a dot.
      have habove : place ∉ passed (t.start path) (before ++ ["."]) := by
        rw [mem_passed_append]
        rintro (hm | hm)
        · exact hbefore hm
        · have hgoal : place = goal (t.start path) before := by simpa [passed, stepFrom] using hm
          exact hbefore (hgoal ▸ goal_mem_passed _ _)
      simp only [walk_put_of_not_mem entry habove]
      cases hw : t.walk (t.start path) (before ++ ["."]) with
      | error fault => rfl
      | ok above =>
        have hgoal : above = goal (t.start path) before := by
          simpa [goal, stepFrom] using eq_goal_of_walk hw
        have hne : above ++ [name] ≠ place := by
          rintro rfl
          exact hname (by simp [passed, stepFrom, hdot, hup, hgoal])
        simp only [lookup_put_of_ne t entry hne]

end Put

structure Alike (t t' : Tree) : Prop where
  workingDirectory : t.workingDirectory = t'.workingDirectory
  everywhere : ∀ place, t.lookup place = t'.lookup place

theorem alike_put_put (t : Tree) {first second : Location} (h : first ≠ second)
    (entry entry' : Entry) :
    Alike ((t.put first entry).put second entry') ((t.put second entry').put first entry) where
  workingDirectory := rfl
  everywhere := by
    intro place
    by_cases hfirst : place = first
    · subst hfirst
      simp only [lookup, put, Entries.lookup_upsert_self, Entries.lookup_upsert_of_ne _ h]
    by_cases hsecond : place = second
    · subst hsecond
      simp only [lookup, put, Entries.lookup_upsert_self, Entries.lookup_upsert_of_ne _ hfirst]
    · simp only [lookup_put_of_ne _ _ hfirst, lookup_put_of_ne _ _ hsecond]

def after (t : Tree) : Option (Location × Entry) → Tree
  | none => t
  | some (place, entry) => t.put place entry

section After

variable {t : Tree} {write : Option (Location × Entry)} {path : String}
  (h : ∀ x ∈ write, x.1 ∉ t.way path)
include h

theorem read_after_of_not_mem : (t.after write).read path = t.read path := by
  cases write with
  | none => rfl
  | some x => exact read_put_of_not_mem x.2 (h x rfl)

theorem writable_after_of_not_mem : (t.after write).writable path = t.writable path := by
  cases write with
  | none => rfl
  | some x => exact writable_put_of_not_mem x.2 (h x rfl)

end After

theorem alike_after_after (t : Tree) {first second : Option (Location × Entry)}
    (h : ∀ x ∈ first, ∀ y ∈ second, x.1 ≠ y.1) :
    Alike ((t.after first).after second) ((t.after second).after first) := by
  cases first with
  | none => exact ⟨rfl, fun _ => rfl⟩
  | some x =>
    cases second with
    | none => exact ⟨rfl, fun _ => rfl⟩
    | some y => exact alike_put_put t (h x rfl y rfl) x.2 y.2

end Tree

end BuildHeader.File
