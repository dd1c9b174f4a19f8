/-!
Finite maps from names to text, held in ascending order of the names. The order comes from the
names alone, so two maps with the same bindings are equal and no history shows in a listing.
-/

set_option autoImplicit false

namespace BuildHeader

/-- Text bound to names; `ascending` makes every name occur once. -/
structure Bindings where
  entries : List (String × String) := []
  ascending : entries.Pairwise (fun a b => a.1 < b.1) := by exact .nil
  deriving DecidableEq

namespace Bindings

def empty : Bindings := {}

def isEmpty (b : Bindings) : Bool := b.entries.isEmpty

def size (b : Bindings) : Nat := b.entries.length

def get? (b : Bindings) (key : String) : Option String := b.entries.lookup key

def place (key value : String) : List (String × String) → List (String × String)
  | [] => [(key, value)]
  | entry :: rest =>
    if key < entry.1 then (key, value) :: entry :: rest
    else if key = entry.1 then (key, value) :: rest
    else entry :: place key value rest

theorem mem_place {key value : String} {entries : List (String × String)} {x : String × String}
    (h : x ∈ place key value entries) : x = (key, value) ∨ x ∈ entries := by
  induction entries with
  | nil => simpa [place] using h
  | cons entry rest ih =>
    unfold place at h
    split at h
    · simpa using h
    · split at h
      · rcases List.mem_cons.1 h with h | h
        · exact .inl h
        · exact .inr (List.mem_cons_of_mem _ h)
      · rcases List.mem_cons.1 h with h | h
        · exact .inr (h ▸ List.mem_cons_self)
        · exact (ih h).imp_right (List.mem_cons_of_mem _)

theorem ascending_place {key value : String} {entries : List (String × String)}
    (h : entries.Pairwise (fun a b => a.1 < b.1)) :
    (place key value entries).Pairwise (fun a b => a.1 < b.1) := by
  induction entries with
  | nil => simp [place]
  | cons entry rest ih =>
    obtain ⟨head, tail⟩ := List.pairwise_cons.1 h
    unfold place
    split
    · rename_i before
      refine List.pairwise_cons.2 ⟨fun x hx => ?_, h⟩
      rcases List.mem_cons.1 hx with rfl | hx
      · exact before
      · exact String.lt_trans before (head x hx)
    · split
      · rename_i same
        exact List.pairwise_cons.2 ⟨fun x hx => same ▸ head x hx, tail⟩
      · rename_i notBefore notSame
        refine List.pairwise_cons.2 ⟨fun x hx => ?_, ih tail⟩
        rcases mem_place hx with rfl | hx
        · exact String.not_le.1 fun le =>
            notBefore (String.not_le.1 fun ge => notSame (String.le_antisymm le ge))
        · exact head x hx

def insert (b : Bindings) (key value : String) : Bindings :=
  ⟨place key value b.entries, ascending_place b.ascending⟩

theorem lookup_place_self (key value : String) (entries : List (String × String)) :
    (place key value entries).lookup key = some value := by
  induction entries with
  | nil => simp [place]
  | cons entry rest ih =>
    unfold place
    split
    · simp
    · split
      · simp
      · rename_i other
        rw [List.lookup_cons, beq_false_of_ne other]
        exact ih

theorem lookup_place_of_ne {key other : String} (value : String)
    {entries : List (String × String)} (h : other ≠ key) :
    (place key value entries).lookup other = entries.lookup other := by
  induction entries with
  | nil => simp [place, h]
  | cons entry rest ih =>
    unfold place
    split
    · rw [List.lookup_cons, beq_false_of_ne h]
    · split
      · rename_i same
        rw [List.lookup_cons, List.lookup_cons, ← same, beq_false_of_ne h]
      · rw [List.lookup_cons, List.lookup_cons, ih]

theorem get?_insert_self (b : Bindings) (key value : String) :
    (b.insert key value).get? key = some value :=
  lookup_place_self key value b.entries

theorem get?_insert_of_ne (b : Bindings) {key other : String} (value : String)
    (h : other ≠ key) : (b.insert key value).get? other = b.get? other :=
  lookup_place_of_ne value h

theorem le_of_lookup {key value : String} {entry : String × String}
    {rest : List (String × String)} (h : (entry :: rest).Pairwise fun a b => a.1 < b.1)
    (found : (entry :: rest).lookup key = some value) : entry.1 ≤ key := by
  obtain ⟨before, after, split, _⟩ := List.lookup_eq_some_iff.1 found
  have member : (key, value) ∈ entry :: rest := by simp [split]
  rcases List.mem_cons.1 member with same | member
  · exact same ▸ String.le_refl key
  · exact String.not_lt.1 (String.lt_asymm ((List.pairwise_cons.1 h).1 _ member))

theorem lookup_eq_none_of_lt {key : String} {entries : List (String × String)}
    (h : ∀ entry ∈ entries, key < entry.1) : entries.lookup key = none := by
  refine List.lookup_eq_none_iff.2 fun entry member => ?_
  exact bne_iff_ne.2 (String.ne_of_lt (h entry member))

theorem entries_eq_of_lookup_eq {first second : List (String × String)}
    (hf : first.Pairwise fun a b => a.1 < b.1) (hs : second.Pairwise fun a b => a.1 < b.1)
    (h : ∀ key, first.lookup key = second.lookup key) : first = second := by
  induction first generalizing second with
  | nil =>
    cases second with
    | nil => rfl
    | cons b bs =>
      obtain ⟨name, value⟩ := b
      simpa using h name
  | cons a as ih =>
    cases second with
    | nil =>
      obtain ⟨name, value⟩ := a
      simpa using h name
    | cons b bs =>
      obtain ⟨name, value⟩ := a
      obtain ⟨other, value'⟩ := b
      -- Each first name is found in the other list, so neither list begins before the other.
      obtain rfl : name = other :=
        String.le_antisymm (le_of_lookup hf ((h other).trans List.lookup_cons_self))
          (le_of_lookup hs ((h name).symm.trans List.lookup_cons_self))
      obtain rfl : value = value' := by simpa using h name
      obtain ⟨hfirst, hf⟩ := List.pairwise_cons.1 hf
      obtain ⟨hsecond, hs⟩ := List.pairwise_cons.1 hs
      refine congrArg ((name, value) :: ·) (ih hf hs fun key => ?_)
      by_cases same : key = name
      · rw [same, lookup_eq_none_of_lt hfirst, lookup_eq_none_of_lt hsecond]
      · simpa [List.lookup_cons, beq_false_of_ne same] using h key

theorem ext_get? {a b : Bindings} (h : ∀ key, a.get? key = b.get? key) : a = b := by
  obtain ⟨first, hf⟩ := a
  obtain ⟨second, hs⟩ := b
  obtain rfl := entries_eq_of_lookup_eq hf hs h
  rfl

/-- Binds the pairs one after another, so the last pair of a name wins. -/
def insertAll (b : Bindings) (pairs : List (String × String)) : Bindings :=
  pairs.foldl (fun acc pair => acc.insert pair.1 pair.2) b

theorem get?_insertAll (b : Bindings) (pairs : List (String × String)) (key : String) :
    (b.insertAll pairs).get? key = (pairs.reverse.lookup key).or (b.get? key) := by
  induction pairs generalizing b with
  | nil => rfl
  | cons pair rest ih =>
    show ((b.insert pair.1 pair.2).insertAll rest).get? key = _
    rw [ih, List.reverse_cons, List.lookup_append, Option.or_assoc]
    congr 1
    obtain ⟨name, value⟩ := pair
    by_cases h : key = name
    · simp [h, get?_insert_self]
    · rw [get?_insert_of_ne b value h]
      simp [List.lookup_cons, beq_false_of_ne h]

def ofList (pairs : List (String × String)) : Bindings := empty.insertAll pairs

def overlay (b upper : Bindings) : Bindings := b.insertAll upper.entries

end Bindings

end BuildHeader
