set_option autoImplicit false

namespace BuildHeader.Entries

variable {κ ν : Type} [BEq κ]

def keys (entries : List (κ × ν)) : List κ := entries.map Prod.fst

/-- Sets a value: a known key keeps its place, a new one comes last. -/
def upsert (key : κ) (value : ν) : List (κ × ν) → List (κ × ν)
  | [] => [(key, value)]
  | entry :: rest =>
    if entry.1 == key then (key, value) :: rest else entry :: upsert key value rest

variable [LawfulBEq κ]

theorem keys_upsert_of_mem {key : κ} {value : ν} {entries : List (κ × ν)}
    (h : key ∈ keys entries) : keys (upsert key value entries) = keys entries := by
  induction entries with
  | nil => exact absurd h List.not_mem_nil
  | cons entry rest ih =>
    unfold upsert
    split
    · rename_i same
      simp [keys, (eq_of_beq same)]
    · rename_i other
      rcases List.mem_cons.1 h with same | h
      · exact absurd (beq_iff_eq.2 same.symm) other
      · exact congrArg (entry.1 :: ·) (ih h)

theorem keys_upsert_of_not_mem {key : κ} {value : ν} {entries : List (κ × ν)}
    (h : key ∉ keys entries) : keys (upsert key value entries) = keys entries ++ [key] := by
  induction entries with
  | nil => rfl
  | cons entry rest ih =>
    have first : ¬(entry.1 == key) = true := fun same =>
      h (List.mem_cons.2 (.inl (eq_of_beq same).symm))
    rw [upsert, if_neg first]
    exact congrArg (entry.1 :: ·) (ih fun later => h (List.mem_cons_of_mem _ later))

theorem nodup_keys_upsert {key : κ} {value : ν} {entries : List (κ × ν)}
    (h : (keys entries).Nodup) : (keys (upsert key value entries)).Nodup := by
  by_cases known : key ∈ keys entries
  · rw [keys_upsert_of_mem known]
    exact h
  · rw [keys_upsert_of_not_mem known]
    exact List.nodup_append.2 ⟨h, by simp, fun a ha b hb same =>
      known (List.mem_singleton.1 hb ▸ same ▸ ha)⟩

theorem upsert_upsert (key : κ) (value value' : ν) (entries : List (κ × ν)) :
    upsert key value' (upsert key value entries) = upsert key value' entries := by
  induction entries with
  | nil => simp [upsert]
  | cons entry rest ih =>
    by_cases same : (entry.1 == key) = true
    · simp [upsert, same]
    · simp only [upsert, same, Bool.false_eq_true, if_false, ih]

theorem lookup_upsert_self (key : κ) (value : ν) (entries : List (κ × ν)) :
    (upsert key value entries).lookup key = some value := by
  induction entries with
  | nil => simp [upsert]
  | cons entry rest ih =>
    unfold upsert
    split
    · simp
    · rename_i other
      have apart : (key == entry.1) = false :=
        beq_false_of_ne fun same => other (beq_iff_eq.2 same.symm)
      rw [List.lookup_cons, apart]
      exact ih

theorem lookup_upsert_of_ne {key other : κ} (value : ν) {entries : List (κ × ν)}
    (h : other ≠ key) : (upsert key value entries).lookup other = entries.lookup other := by
  induction entries with
  | nil => simp [upsert, h]
  | cons entry rest ih =>
    unfold upsert
    split
    · rename_i same
      rw [List.lookup_cons, List.lookup_cons, eq_of_beq same, beq_false_of_ne h]
    · rw [List.lookup_cons, List.lookup_cons, ih]

end BuildHeader.Entries
