import BuildHeader.Mapping

set_option autoImplicit false

namespace BuildHeader

theorem Entries.lookup_reverse {κ ν : Type} [BEq κ] [LawfulBEq κ] {entries : List (κ × ν)}
    (h : (keys entries).Nodup) (key : κ) : entries.reverse.lookup key = entries.lookup key := by
  induction entries with
  | nil => rfl
  | cons entry rest ih =>
    obtain ⟨name, value⟩ := entry
    obtain ⟨hname, hrest⟩ := List.nodup_cons.1 h
    rw [List.reverse_cons, List.lookup_append, ih hrest]
    by_cases hk : key = name
    · subst hk
      have hnone : rest.lookup key = none := by
        rw [List.lookup_eq_none_iff]
        intro other hm
        have hother : other.1 ∈ keys rest := List.mem_map_of_mem hm
        have hne : key ≠ other.1 := fun same => hname (same ▸ hother)
        simpa using hne
      simp [hnone]
    · simp [List.lookup_cons, beq_false_of_ne hk]

theorem Entries.lookup_of_mem {κ ν : Type} [BEq κ] [LawfulBEq κ] {entries : List (κ × ν)}
    {key : κ} {value : ν} (h : (keys entries).Nodup) (hm : (key, value) ∈ entries) :
    entries.lookup key = some value := by
  induction entries with
  | nil => cases hm
  | cons entry rest ih =>
    obtain ⟨hname, hrest⟩ := List.nodup_cons.1 h
    rcases List.mem_cons.1 hm with rfl | hm
    · exact List.lookup_cons_self
    · have hkey : key ∈ keys rest := List.mem_map_of_mem hm
      have hne : key ≠ entry.1 := fun same => hname (same ▸ hkey)
      rw [List.lookup_cons, beq_false_of_ne hne]
      exact ih hrest hm

theorem Entries.lookup_eq_some_iff_mem {κ ν : Type} [BEq κ] [LawfulBEq κ] {entries : List (κ × ν)}
    (h : (keys entries).Nodup) (key : κ) (value : ν) :
    entries.lookup key = some value ↔ (key, value) ∈ entries := by
  constructor
  · intro hl
    obtain ⟨before, after, hs, _⟩ := List.lookup_eq_some_iff.1 hl
    simp [hs]
  · exact Entries.lookup_of_mem h

theorem Entries.mem_keys_iff {κ ν : Type} [BEq κ] [LawfulBEq κ] (entries : List (κ × ν))
    (key : κ) : key ∈ keys entries ↔ (entries.lookup key).isSome = true := by
  induction entries with
  | nil => simp [keys]
  | cons entry rest ih =>
    have hkeys : keys (entry :: rest) = entry.1 :: keys rest := rfl
    rw [hkeys, List.mem_cons, ih, List.lookup_cons]
    by_cases same : key = entry.1
    · simp [same]
    · simp [same, beq_false_of_ne same]

theorem Entries.upsert_of_not_mem {κ ν : Type} [BEq κ] [LawfulBEq κ] {key : κ} (value : ν)
    {entries : List (κ × ν)} (h : key ∉ keys entries) :
    upsert key value entries = entries ++ [(key, value)] := by
  induction entries with
  | nil => rfl
  | cons entry rest ih =>
    have hne : ¬(entry.1 == key) = true := fun same =>
      h (List.mem_cons.2 (.inl (eq_of_beq same).symm))
    rw [upsert, if_neg hne, ih fun later => h (List.mem_cons_of_mem _ later)]
    rfl

namespace Bindings

theorem nodup_keys (b : Bindings) : (Entries.keys b.entries).Nodup := by
  rw [Entries.keys, List.Nodup, List.pairwise_map]
  exact b.ascending.imp String.ne_of_lt

theorem get?_overlay (b upper : Bindings) (key : String) :
    (b.overlay upper).get? key = (upper.get? key).or (b.get? key) := by
  rw [overlay, get?_insertAll, Entries.lookup_reverse upper.nodup_keys]
  rfl

end Bindings

namespace Mapping

theorem mem_entries_iff (m : Mapping) (key : String) (value : Option String) :
    (key, value) ∈ m.entries ↔ m.get? key = some value :=
  (Entries.lookup_eq_some_iff_mem m.distinct key value).symm

theorem all_isSome_iff (m : Mapping) :
    (∀ entry ∈ m.entries, entry.2.isSome = true) ↔ ∀ key, m.get? key ≠ some none := by
  constructor
  · intro hall key hk
    have hset := hall _ ((m.mem_entries_iff key none).2 hk)
    simp at hset
  · rintro hall ⟨key, value⟩ hm
    cases value with
    | none => exact absurd ((m.mem_entries_iff key none).1 hm) (hall key)
    | some value => rfl

theorem get?_insertAll (m : Mapping) (pairs : List (String × Option String)) (key : String) :
    (m.insertAll pairs).get? key = (pairs.reverse.lookup key).or (m.get? key) := by
  induction pairs generalizing m with
  | nil => rfl
  | cons pair rest ih =>
    show ((m.insertOptional pair.1 pair.2).insertAll rest).get? key = _
    rw [ih, List.reverse_cons, List.lookup_append, Option.or_assoc]
    congr 1
    obtain ⟨name, value⟩ := pair
    by_cases h : key = name
    · simp [h, get?_insertOptional_self]
    · rw [get?_insertOptional_of_ne m value h]
      simp [List.lookup_cons, beq_false_of_ne h]

theorem entries_insertAll (m : Mapping) {pairs : List (String × Option String)}
    (h : (Entries.keys (m.entries ++ pairs)).Nodup) :
    (m.insertAll pairs).entries = m.entries ++ pairs := by
  induction pairs generalizing m with
  | nil => simp [insertAll]
  | cons pair rest ih =>
    have hnew : pair.1 ∉ Entries.keys m.entries := by
      intro hm
      rw [Entries.keys, List.map_append, List.nodup_append] at h
      exact h.2.2 _ hm pair.1 (by simp) rfl
    have hins : (m.insertOptional pair.1 pair.2).entries = m.entries ++ [pair] :=
      Entries.upsert_of_not_mem pair.2 hnew
    show ((m.insertOptional pair.1 pair.2).insertAll rest).entries = _
    rw [ih _ (by simpa [hins] using h), hins, List.append_assoc]
    rfl

theorem entries_ofList {pairs : List (String × Option String)}
    (h : (Entries.keys pairs).Nodup) : (ofList pairs).entries = pairs :=
  entries_insertAll empty h

theorem get?_ofList {pairs : List (String × Option String)} (h : (Entries.keys pairs).Nodup)
    (key : String) : (ofList pairs).get? key = pairs.lookup key := by
  rw [ofList, get?_insertAll, Entries.lookup_reverse h]
  exact Option.or_none

theorem extend_eq_insertAll (m : Mapping) (vars : Bindings) :
    m.extend vars = m.insertAll (vars.entries.map fun entry => (entry.1, some entry.2)) := by
  simp [extend, insertAll, insert, List.foldl_map]

theorem get?_extend (m : Mapping) (vars : Bindings) (key : String) :
    (m.extend vars).get? key = ((vars.get? key).map some).or (m.get? key) := by
  have hlookup : ∀ entries : List (String × String),
      (entries.map fun entry => (entry.1, some entry.2)).lookup key =
        (entries.lookup key).map some := by
    intro entries
    induction entries with
    | nil => rfl
    | cons entry rest ih =>
      obtain ⟨name, value⟩ := entry
      cases h : key == name <;> simp [List.lookup_cons, h, ih]
  have hnodup : (Entries.keys (vars.entries.map fun entry => (entry.1, some entry.2))).Nodup := by
    simpa [Entries.keys, Function.comp_def] using vars.nodup_keys
  rw [extend_eq_insertAll, get?_insertAll, Entries.lookup_reverse hnodup, hlookup]
  rfl

end Mapping

open Entries (keys upsert)

theorem Entries.nodup_of_keys {κ ν : Type} {entries : List (κ × ν)} (h : (keys entries).Nodup) :
    entries.Nodup :=
  List.Pairwise.of_map Prod.fst (fun _ _ hne same => hne (congrArg Prod.fst same)) h

theorem Entries.nodup_keys_of_perm {κ ν : Type} {first second : List (κ × ν)}
    (h : first.Perm second) : (keys first).Nodup ↔ (keys second).Nodup :=
  (h.map Prod.fst).nodup_iff

theorem Entries.lookup_of_perm {κ ν : Type} [BEq κ] [LawfulBEq κ] {first second : List (κ × ν)}
    (h : first.Perm second) (hd : (keys second).Nodup) (key : κ) :
    first.lookup key = second.lookup key := by
  refine Option.ext fun value => ?_
  rw [lookup_eq_some_iff_mem ((nodup_keys_of_perm h).2 hd), lookup_eq_some_iff_mem hd, h.mem_iff]

namespace Bindings

/-- The row has every binding once, in some order. -/
def ListedBy (b : Bindings) (row : List (String × String)) : Prop := row.Perm b.entries

instance (b : Bindings) (row : List (String × String)) : Decidable (b.ListedBy row) :=
  inferInstanceAs (Decidable (row.Perm b.entries))

theorem listedBy_entries (b : Bindings) : b.ListedBy b.entries := .refl _

theorem ListedBy.lookup {b : Bindings} {row : List (String × String)} (h : b.ListedBy row)
    (key : String) : row.lookup key = b.get? key :=
  Entries.lookup_of_perm h b.nodup_keys key

theorem ListedBy.nodup_keys {b : Bindings} {row : List (String × String)} (h : b.ListedBy row) :
    (keys row).Nodup :=
  (Entries.nodup_keys_of_perm h).2 b.nodup_keys

theorem listedBy_of_lookup {b : Bindings} {row : List (String × String)} (hd : (keys row).Nodup)
    (h : ∀ key, row.lookup key = b.get? key) : b.ListedBy row := by
  refine (List.perm_ext_iff_of_nodup (Entries.nodup_of_keys hd)
    (Entries.nodup_of_keys b.nodup_keys)).2 ?_
  rintro ⟨key, value⟩
  rw [← Entries.lookup_eq_some_iff_mem hd, ← Entries.lookup_eq_some_iff_mem b.nodup_keys, h]
  rfl

theorem ListedBy.upsert {b : Bindings} {row : List (String × String)} (h : b.ListedBy row)
    (key value : String) : (b.insert key value).ListedBy (upsert key value row) := by
  refine listedBy_of_lookup (Entries.nodup_keys_upsert h.nodup_keys) fun other => ?_
  by_cases same : other = key
  · rw [same, Entries.lookup_upsert_self, get?_insert_self]
  · rw [Entries.lookup_upsert_of_ne value same, get?_insert_of_ne b value same, h.lookup]

def upsertAll (row pairs : List (String × String)) : List (String × String) :=
  pairs.foldl (fun acc pair => Entries.upsert pair.1 pair.2 acc) row

theorem ListedBy.upsertAll {b : Bindings} {row : List (String × String)} (h : b.ListedBy row)
    (pairs : List (String × String)) : (b.insertAll pairs).ListedBy (upsertAll row pairs) := by
  induction pairs generalizing b row with
  | nil => exact h
  | cons pair rest ih => exact ih (h.upsert pair.1 pair.2)

theorem insertAll_eq_overlay (b : Bindings) {upper : Bindings} {row : List (String × String)}
    (h : upper.ListedBy row) : b.insertAll row = b.overlay upper := by
  refine ext_get? fun key => ?_
  rw [get?_overlay, get?_insertAll, Entries.lookup_reverse h.nodup_keys, h.lookup]

theorem ofList_eq_of_perm {first second : List (String × String)} (h : first.Perm second)
    (hd : (keys second).Nodup) : ofList first = ofList second := by
  refine ext_get? fun key => ?_
  rw [ofList, ofList, get?_insertAll, get?_insertAll, Entries.lookup_reverse hd,
    Entries.lookup_reverse ((Entries.nodup_keys_of_perm h).2 hd), Entries.lookup_of_perm h hd]

end Bindings

def pairLe (a b : String × String) : Bool := a.1 < b.1 || a.1 == b.1 && decide (a.2 ≤ b.2)

theorem pairLe_trans (a b c : String × String) (hab : pairLe a b = true) (hbc : pairLe b c = true) :
    pairLe a c = true := by
  simp only [pairLe, Bool.or_eq_true, Bool.and_eq_true, beq_iff_eq, decide_eq_true_eq] at *
  rcases hab with hab | ⟨hab, hab'⟩
  · rcases hbc with hbc | ⟨hbc, _⟩
    · exact .inl (String.lt_trans hab hbc)
    · exact .inl (hbc ▸ hab)
  · rcases hbc with hbc | ⟨hbc, hbc'⟩
    · exact .inl (hab ▸ hbc)
    · exact .inr ⟨hab.trans hbc, String.le_trans hab' hbc'⟩

theorem pairLe_total (a b : String × String) : (pairLe a b || pairLe b a) = true := by
  simp only [pairLe, Bool.or_eq_true, Bool.and_eq_true, beq_iff_eq, decide_eq_true_eq]
  by_cases hab : a.1 < b.1
  · exact .inl (.inl hab)
  by_cases hba : b.1 < a.1
  · exact .inr (.inl hba)
  have same : a.1 = b.1 := String.le_antisymm (String.not_lt.1 hba) (String.not_lt.1 hab)
  rcases String.le_total a.2 b.2 with hle | hle
  · exact .inl (.inr ⟨same, hle⟩)
  · exact .inr (.inr ⟨same.symm, hle⟩)

theorem pairLe_antisymm (a b : String × String) (hab : pairLe a b = true)
    (hba : pairLe b a = true) : a = b := by
  simp only [pairLe, Bool.or_eq_true, Bool.and_eq_true, beq_iff_eq, decide_eq_true_eq] at hab hba
  rcases hab with hab | ⟨same, hab⟩
  · rcases hba with hba | ⟨same, _⟩
    · exact absurd hba (String.lt_asymm hab)
    · exact absurd hab (same ▸ String.lt_irrefl _)
  · rcases hba with hba | ⟨_, hba⟩
    · exact absurd hba (same ▸ String.lt_irrefl _)
    · exact Prod.ext same (String.le_antisymm hab hba)

theorem Bindings.ListedBy.mergeSort {b : Bindings} {row : List (String × String)}
    (h : b.ListedBy row) : row.mergeSort pairLe = b.entries := by
  have hsorted : b.entries.Pairwise fun x y => pairLe x y = true :=
    b.ascending.imp fun hlt => by simp [pairLe, hlt]
  exact ((row.mergeSort_perm pairLe).trans h).eq_of_pairwise
    (fun x y _ _ hxy hyx => pairLe_antisymm x y hxy hyx)
    (List.pairwise_mergeSort pairLe_trans pairLe_total row) hsorted

/-- Lays the pairs of a row over a mapping after putting them in order. -/
def Mapping.layer (m : Mapping) (row : List (String × String)) : Mapping :=
  (row.mergeSort pairLe).foldl (fun acc pair => acc.insert pair.1 pair.2) m

theorem Mapping.layer_eq_extend (m : Mapping) {vars : Bindings} {row : List (String × String)}
    (h : vars.ListedBy row) : m.layer row = m.extend vars := by
  rw [layer, h.mergeSort]
  rfl

end BuildHeader
