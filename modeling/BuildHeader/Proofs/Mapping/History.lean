import BuildHeader.Proofs.Mapping
import BuildHeader.Proofs.Repetition

set_option autoImplicit false

namespace BuildHeader.Mapping

open Entries (keys)

inductive Change where
  | insert (key value : String)
  | insertOptional (key : String) (value : Option String)
  | extend (vars : Bindings)

def Change.writes : Change → List (String × Option String)
  | .insert key value => [(key, some value)]
  | .insertOptional key value => [(key, value)]
  | .extend vars => vars.entries.map fun entry => (entry.1, some entry.2)

def change (m : Mapping) : Change → Mapping
  | .insert key value => m.insert key value
  | .insertOptional key value => m.insertOptional key value
  | .extend vars => m.extend vars

def changeAll (m : Mapping) (changes : List Change) : Mapping := changes.foldl change m

def history (changes : List Change) : List (String × Option String) :=
  changes.flatMap Change.writes

def mentions (changes : List Change) : List String :=
  ((history changes).map Prod.fst).eraseDups

def LastWritten (changes : List Change) (key : String) (value : Option String) : Prop :=
  ∃ before after, history changes = before ++ (key, value) :: after ∧ key ∉ keys after

theorem change_eq_insertAll (m : Mapping) (c : Change) : m.change c = m.insertAll c.writes := by
  cases c with
  | insert key value => rfl
  | insertOptional key value => rfl
  | extend vars => exact m.extend_eq_insertAll vars

theorem ascending_writes_extend (vars : Bindings) :
    (keys (Change.extend vars).writes).Pairwise (· < ·) := by
  simpa [keys, Change.writes, List.pairwise_map] using vars.ascending

theorem changeAll_eq_insertAll (m : Mapping) (changes : List Change) :
    m.changeAll changes = m.insertAll (history changes) := by
  induction changes generalizing m with
  | nil => rfl
  | cons c rest ih =>
    have hstep : m.changeAll (c :: rest) = (m.change c).changeAll rest := rfl
    have hhistory : history (c :: rest) = c.writes ++ history rest := List.flatMap_cons
    rw [hstep, ih, change_eq_insertAll, hhistory]
    exact List.foldl_append.symm

theorem mem_keys_iff (m : Mapping) (key : String) :
    key ∈ keys m.entries ↔ ∃ value, m.get? key = some value := by
  rw [Entries.mem_keys_iff, Option.isSome_iff_exists]
  rfl

theorem keys_insertAll (m : Mapping) (pairs : List (String × Option String)) :
    keys (m.insertAll pairs).entries = keys m.entries ++
      ((keys pairs).filter fun name => !(keys m.entries).contains name).eraseDups := by
  induction pairs generalizing m with
  | nil => simp [insertAll, keys]
  | cons pair rest ih =>
    obtain ⟨name, value⟩ := pair
    show keys ((m.insertOptional name value).insertAll rest).entries = _
    rw [ih]
    by_cases known : name ∈ keys m.entries
    · have hkeys : keys (m.insertOptional name value).entries = keys m.entries :=
        Entries.keys_upsert_of_mem known
      have hskip : keys ((name, value) :: rest) = name :: keys rest := rfl
      rw [hkeys, hskip, List.filter_cons_of_neg (by simpa using known)]
    · have hkeys : keys (m.insertOptional name value).entries = keys m.entries ++ [name] :=
        Entries.keys_upsert_of_not_mem known
      have hnew : keys ((name, value) :: rest) = name :: keys rest := rfl
      rw [hkeys, hnew, List.filter_cons_of_pos (by simpa using known), List.eraseDups_cons,
        List.append_assoc, List.filter_filter]
      simp [← Bool.beq_eq_decide_eq, Bool.and_comm]

theorem keys_extend (m : Mapping) (vars : Bindings) :
    keys (m.extend vars).entries =
      keys m.entries ++ (keys vars.entries).filter fun name => !(keys m.entries).contains name := by
  have hkeys : keys (vars.entries.map fun entry => (entry.1, some entry.2)) =
      keys vars.entries := by
    simp [keys, Function.comp_def]
  rw [extend_eq_insertAll, keys_insertAll, hkeys,
    eraseDups_of_nodup (vars.nodup_keys.sublist List.filter_sublist)]

theorem lastWritten_iff_lookup (changes : List Change) (key : String) (value : Option String) :
    LastWritten changes key value ↔ (history changes).reverse.lookup key = some value := by
  rw [List.lookup_eq_some_iff]
  constructor
  · rintro ⟨before, after, h, hnot⟩
    refine ⟨after.reverse, before.reverse, by simp [h], fun entry hm => ?_⟩
    have hmem : entry.1 ∈ keys after := List.mem_map_of_mem (List.mem_reverse.1 hm)
    exact bne_iff_ne.2 fun same => hnot (same ▸ hmem)
  · rintro ⟨after, before, h, hnot⟩
    refine ⟨before.reverse, after.reverse, by simpa using congrArg List.reverse h, fun hm => ?_⟩
    obtain ⟨entry, he, rfl⟩ := List.mem_map.1 hm
    simpa using hnot entry (List.mem_reverse.1 he)

theorem get?_changeAll (changes : List Change) (key : String) :
    (empty.changeAll changes).get? key = (history changes).reverse.lookup key := by
  rw [changeAll_eq_insertAll, get?_insertAll]
  exact Option.or_none

theorem keys_changeAll (changes : List Change) :
    keys (empty.changeAll changes).entries = mentions changes := by
  rw [changeAll_eq_insertAll, keys_insertAll]
  have hall : (keys (history changes)).filter (fun _ => true) = keys (history changes) :=
    List.filter_eq_self.2 fun _ _ => rfl
  exact congrArg List.eraseDups hall

theorem keys_changeAll_append (changes more : List Change) :
    keys (empty.changeAll changes).entries <+:
      keys (empty.changeAll (changes ++ more)).entries := by
  have happend : empty.changeAll (changes ++ more) = (empty.changeAll changes).changeAll more :=
    List.foldl_append
  rw [happend, changeAll_eq_insertAll _ more, keys_insertAll]
  exact List.prefix_append _ _

theorem get?_eq_none_of_size {a b : Mapping} (hsize : a.size = b.size)
    (hsub : keys a.entries ⊆ keys b.entries) {key : String} (h : a.get? key = none) :
    b.get? key = none := by
  refine Option.eq_none_iff_forall_ne_some.2 fun value hb => ?_
  have hnew : key ∉ keys a.entries := fun hm => by
    obtain ⟨value, hv⟩ := (a.mem_keys_iff key).1 hm
    simp [h] at hv
  -- With the key in it as well, the second mapping would be the larger one.
  have hin : key :: keys a.entries ⊆ keys b.entries :=
    List.cons_subset.2 ⟨(b.mem_keys_iff key).2 ⟨value, hb⟩, hsub⟩
  have hlength := List.Nodup.length_le_of_subset (List.nodup_cons.2 ⟨hnew, a.distinct⟩) hin
  simp only [keys, List.length_cons, List.length_map] at hlength
  simp only [size] at hsize
  omega

theorem keys_subset_of_get? {a b : Mapping}
    (h : ∀ key value, a.get? key = some value → b.get? key = some value) :
    keys a.entries ⊆ keys b.entries := by
  intro key hm
  obtain ⟨value, hv⟩ := (a.mem_keys_iff key).1 hm
  exact (b.mem_keys_iff key).2 ⟨value, h key value hv⟩

theorem size_le_of_get? {a b : Mapping}
    (h : ∀ key value, a.get? key = some value → b.get? key = some value) : a.size ≤ b.size := by
  simpa [keys, size] using List.Nodup.length_le_of_subset a.distinct (keys_subset_of_get? h)

theorem sameAs_iff (a b : Mapping) : a.sameAs b = true ↔ ∀ key, a.get? key = b.get? key := by
  simp only [sameAs, Bool.and_eq_true, beq_iff_eq, List.all_eq_true]
  constructor
  · rintro ⟨hsize, hall⟩
    have hsub : ∀ key value, a.get? key = some value → b.get? key = some value :=
      fun key value h => hall _ ((a.mem_entries_iff key value).2 h)
    intro key
    cases h : a.get? key with
    | some value => exact (hsub key value h).symm
    | none => exact (get?_eq_none_of_size hsize (keys_subset_of_get? hsub) h).symm
  · intro h
    refine ⟨?_, fun entry hm => ?_⟩
    · exact Nat.le_antisymm (size_le_of_get? fun key value hk => h key ▸ hk)
        (size_le_of_get? fun key value hk => (h key).symm ▸ hk)
    · rw [← h]
      exact (a.mem_entries_iff entry.1 entry.2).1 hm

/--
A mapping lists the names written to it, each once and in order of the first writes, and no later
change moves one. A name has the value of its last write, and none if it was never written. Two
mappings are the same just when they answer alike.
-/
theorem changes_determine_mapping (changes : List Change) :
    (keys (empty.changeAll changes).entries).Nodup ∧
    keys (empty.changeAll changes).entries = mentions changes ∧
    (∀ vars, (keys (Change.extend vars).writes).Pairwise (· < ·)) ∧
    (∀ more, keys (empty.changeAll changes).entries <+:
      keys (empty.changeAll (changes ++ more)).entries) ∧
    (∀ key value, (empty.changeAll changes).get? key = some value ↔
      LastWritten changes key value) ∧
    (∀ key, (empty.changeAll changes).get? key = none ↔ key ∉ keys (history changes)) ∧
    (∀ key value, (key, value) ∈ (empty.changeAll changes).entries ↔
      (empty.changeAll changes).get? key = some value) ∧
    (∀ key, (empty.changeAll changes).contains key = true ↔
      key ∈ keys (empty.changeAll changes).entries) ∧
    (empty.changeAll changes).size = (empty.changeAll changes).entries.length ∧
    ((empty.changeAll changes).isEmpty = true ↔ (empty.changeAll changes).entries = []) ∧
    ∀ others, (empty.changeAll changes).sameAs (empty.changeAll others) = true ↔
      ∀ key, (empty.changeAll changes).get? key = (empty.changeAll others).get? key := by
  have hcontains : ∀ key, (empty.changeAll changes).contains key = true ↔
      key ∈ keys (empty.changeAll changes).entries := fun key => by
    rw [mem_keys_iff, contains, Option.isSome_iff_exists]
  have hnone : ∀ key, (empty.changeAll changes).get? key = none ↔
      key ∉ keys (history changes) := fun key => by
    rw [← Option.not_isSome_iff_eq_none]
    have hkeys := hcontains key
    rw [keys_changeAll, mentions, List.mem_eraseDups] at hkeys
    exact not_congr hkeys
  refine ⟨(empty.changeAll changes).distinct, keys_changeAll changes, ascending_writes_extend,
    keys_changeAll_append changes, fun key value => ?_, hnone, mem_entries_iff _, hcontains, rfl,
    List.isEmpty_iff, fun others => sameAs_iff _ _⟩
  rw [get?_changeAll, lastWritten_iff_lookup]

/-- A name that is unset again stays in its place; bindings come in the order of their names. -/
example : (empty.changeAll [.insert "b" "1", .extend (.ofList [("c", "3"), ("a", "2")]),
    .insertOptional "b" none]).entries = [("b", none), ("a", some "2"), ("c", some "3")] := by
  decide

end BuildHeader.Mapping
