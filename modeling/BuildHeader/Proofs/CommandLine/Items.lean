import BuildHeader.CommandLine.Arguments
import BuildHeader.Proofs.Script

set_option autoImplicit false

namespace BuildHeader.CommandLine

def Sets (item key value : String) : Prop :=
  key ≠ "" ∧ '=' ∉ key.toList ∧ item = key ++ "=" ++ value

def Malformed (item : String) : Prop := ∀ key value, ¬Sets item key value

def SetsLast (items : List String) (key value : String) : Prop :=
  ∃ before item after, items = before ++ item :: after ∧ Sets item key value ∧
    ∀ other ∈ after, ∀ value', ¬Sets other key value'

theorem drop_takeWhile_length {α : Type} (p : α → Bool) (l : List α) :
    l.drop (l.takeWhile p).length = l.dropWhile p := by
  induction l with
  | nil => rfl
  | cons a rest ih => cases h : p a <;> simp [h, ih]

theorem splitItem?_eq_some_iff (item key value : String) :
    splitItem? item = some (key, value) ↔ Sets item key value := by
  simp only [splitItem?, drop_takeWhile_length]
  constructor
  · intro h
    have hall := List.all_takeWhile (p := (· != '=')) (l := item.toList)
    have hhead := List.head?_dropWhile_not (· != '=') item.toList
    have happend := List.takeWhile_append_dropWhile (p := (· != '=')) (l := item.toList)
    cases hk : item.toList.takeWhile (· != '=') with
    | nil => simp [hk] at h
    | cons c name =>
      cases hd : item.toList.dropWhile (· != '=') with
      | nil => simp [hk, hd] at h
      | cons e rest =>
        simp only [hk, hd, Option.some.injEq, Prod.mk.injEq] at h hall hhead happend
        obtain ⟨rfl, rfl⟩ := h
        obtain rfl : e = '=' := by simpa using hhead
        refine ⟨by simp, ?_, ?_⟩
        · intro hm
          have := List.all_eq_true.1 hall '=' (by simpa using hm)
          simp at this
        · apply String.toList_injective
          simp [← happend]
  · rintro ⟨hne, heq, rfl⟩
    have hall : ∀ c ∈ key.toList, (c != '=') = true := fun c hc =>
      bne_iff_ne.2 fun same => heq (same ▸ hc)
    have hitem : (key ++ "=" ++ value).toList = key.toList ++ '=' :: value.toList := by simp
    rw [hitem, List.takeWhile_append_of_pos hall, List.dropWhile_append_of_pos hall]
    cases hk : key.toList with
    | nil => exact absurd (String.toList_eq_nil_iff.1 hk) hne
    | cons c name =>
      have hkey : String.ofList (c :: name) = key := by simp [← hk]
      simp [hkey]

theorem splitItem?_eq_none_iff (item : String) : splitItem? item = none ↔ Malformed item := by
  simp [Option.eq_none_iff_forall_ne_some, splitItem?_eq_some_iff, Malformed]

def valueFor? (key item : String) : Option String :=
  (splitItem? item).bind fun pair => if key == pair.1 then some pair.2 else none

theorem valueFor?_eq_some_iff (key item value : String) :
    valueFor? key item = some value ↔ Sets item key value := by
  rw [← splitItem?_eq_some_iff]
  cases h : splitItem? item with
  | none => simp [valueFor?, h]
  | some pair =>
    obtain ⟨name, value'⟩ := pair
    by_cases hk : key = name
    · simp [valueFor?, h, hk]
    · have hk' : ¬name = key := fun same => hk same.symm
      simp [valueFor?, h, hk, hk']

theorem valueFor?_eq_none_iff (key item : String) :
    valueFor? key item = none ↔ ∀ value, ¬Sets item key value := by
  simp [Option.eq_none_iff_forall_ne_some, valueFor?_eq_some_iff]

theorem splitItems_eq_ok {items : List String} {pairs : List (String × String)}
    (h : splitItems items = .ok pairs) : pairs = items.filterMap splitItem? := by
  induction items generalizing pairs with
  | nil => simpa [splitItems] using h.symm
  | cons item rest ih =>
    cases hs : splitItem? item with
    | none => simp [splitItems, hs] at h
    | some pair =>
      simp only [splitItems, hs] at h
      obtain ⟨pairs', hrest, rfl⟩ := Except.map_eq_ok_iff.1 h
      simp [hs, ← ih hrest]

theorem readVariables_eq_error_iff (items : List String) (e : InvalidItem) :
    readVariables items = .error e ↔
      ∃ before after, items = before ++ e.item :: after ∧
        (∀ item ∈ before, ¬Malformed item) ∧ Malformed e.item := by
  rw [readVariables, Except.map_eq_error_iff]
  constructor
  · intro h
    induction items with
    | nil => simp [splitItems] at h
    | cons item rest ih =>
      cases hs : splitItem? item with
      | none =>
        simp only [splitItems, hs, Except.error.injEq] at h
        subst h
        exact ⟨[], rest, rfl, by simp, (splitItem?_eq_none_iff item).1 hs⟩
      | some pair =>
        simp only [splitItems, hs, Except.map_eq_error_iff] at h
        obtain ⟨before, after, rfl, hb, hm⟩ := ih h
        have hitem : ¬Malformed item := by
          rw [← splitItem?_eq_none_iff, hs]
          exact Option.some_ne_none pair
        exact ⟨item :: before, after, rfl, List.forall_mem_cons.2 ⟨hitem, hb⟩, hm⟩
  · rintro ⟨before, after, rfl, hb, hm⟩
    induction before with
    | nil => simp [splitItems, (splitItem?_eq_none_iff e.item).2 hm]
    | cons item before ih =>
      obtain ⟨hitem, hbefore⟩ := List.forall_mem_cons.1 hb
      rw [← splitItem?_eq_none_iff, ← ne_eq, Option.ne_none_iff_exists'] at hitem
      obtain ⟨pair, hs⟩ := hitem
      simp only [List.cons_append, splitItems, hs, Except.map_eq_error_iff]
      exact ih hbefore

section Read

variable {items : List String} {vars : Bindings} (h : readVariables items = .ok vars)
include h

theorem get?_readVariables (key : String) :
    vars.get? key = items.reverse.findSome? (valueFor? key) := by
  obtain ⟨pairs, hp, rfl⟩ := Except.map_eq_ok_iff.1 h
  rw [Bindings.ofList, Bindings.get?_insertAll, splitItems_eq_ok hp, ← List.filterMap_reverse,
    List.lookup_eq_findSome?, ← List.head?_filterMap, List.filterMap_filterMap,
    List.head?_filterMap]
  exact Option.or_none

theorem get?_readVariables_eq_some_iff (key value : String) :
    vars.get? key = some value ↔ SetsLast items key value := by
  rw [get?_readVariables h, List.findSome?_eq_some_iff]
  simp only [valueFor?_eq_some_iff, valueFor?_eq_none_iff]
  constructor
  · rintro ⟨after, item, before, hr, hs, ha⟩
    have hitems : items = before.reverse ++ item :: after.reverse := by
      simpa using congrArg List.reverse hr
    exact ⟨before.reverse, item, after.reverse, hitems, hs, fun other hm =>
      ha other (List.mem_reverse.1 hm)⟩
  · rintro ⟨before, item, after, rfl, hs, ha⟩
    exact ⟨after.reverse, item, before.reverse, by simp, hs, fun other hm =>
      ha other (List.mem_reverse.1 hm)⟩

theorem get?_readVariables_eq_none_iff (key : String) :
    vars.get? key = none ↔ ∀ item ∈ items, ∀ value, ¬Sets item key value := by
  rw [get?_readVariables h, List.findSome?_eq_none_iff]
  simp [valueFor?_eq_none_iff]

end Read

def named? (item : String) : Option String := (splitItem? item).map Prod.fst

/-- The same items, those of one name in the same order. -/
structure SameTurns (first second : List String) : Prop where
  perm : second.Perm first
  turns : ∀ key, second.filter (named? · == some key) = first.filter (named? · == some key)

theorem named?_of_valueFor? {key : String} (item : String)
    (h : (valueFor? key item).isSome = true) :
    (named? item == some key) = true := by
  unfold valueFor? at h
  cases hs : splitItem? item with
  | none => simp [hs] at h
  | some pair =>
    by_cases hk : key = pair.1
    · simp [named?, hs, hk]
    · simp [hs, hk] at h

theorem findSome?_filter {α β : Type} {f : α → Option β} {p : α → Bool} {l : List α}
    (h : ∀ a, (f a).isSome = true → p a = true) : (l.filter p).findSome? f = l.findSome? f := by
  induction l with
  | nil => rfl
  | cons a rest ih =>
    cases hf : f a with
    | none => cases hp : p a <;> simp [hp, hf, ih]
    | some b => simp [h a (by simp [hf]), hf]

theorem exists_readVariables_error_iff (items : List String) :
    (∃ e, readVariables items = .error e) ↔ ∃ item ∈ items, Malformed item := by
  simp only [readVariables, Except.map_eq_error_iff]
  induction items with
  | nil => simp [splitItems]
  | cons item rest ih =>
    cases hs : splitItem? item with
    | none =>
      have hbad : Malformed item := (splitItem?_eq_none_iff item).1 hs
      exact ⟨fun _ => ⟨item, List.mem_cons_self, hbad⟩, fun _ => ⟨⟨item⟩, by simp [splitItems, hs]⟩⟩
    | some pair =>
      have hgood : ¬Malformed item := by
        rw [← splitItem?_eq_none_iff, hs]
        exact Option.some_ne_none pair
      simp only [splitItems, hs, Except.map_eq_error_iff, ih, List.mem_cons, exists_eq_or_imp,
        hgood, false_or]

theorem readVariables_error_of_perm {first second : List String} (h : second.Perm first)
    (refused : ∃ e, readVariables first = .error e) : ∃ e, readVariables second = .error e := by
  rw [exists_readVariables_error_iff] at refused ⊢
  obtain ⟨item, hm, hbad⟩ := refused
  exact ⟨item, h.mem_iff.2 hm, hbad⟩

theorem get?_readVariables_filter {items : List String} {vars : Bindings}
    (h : readVariables items = .ok vars) (key : String) :
    vars.get? key = (items.filter (named? · == some key)).reverse.findSome? (valueFor? key) := by
  rw [get?_readVariables h, ← List.filter_reverse, findSome?_filter named?_of_valueFor?]

theorem readVariables_of_sameTurns {first second : List String} (h : SameTurns first second)
    {vars : Bindings} (read : readVariables first = .ok vars) :
    readVariables second = .ok vars := by
  cases hs : readVariables second with
  | error e =>
    obtain ⟨e', he⟩ := readVariables_error_of_perm h.perm.symm ⟨e, hs⟩
    simp [read] at he
  | ok vars' =>
    refine congrArg Except.ok (Bindings.ext_get? fun key => ?_)
    rw [get?_readVariables_filter hs, get?_readVariables_filter read, h.turns]

end BuildHeader.CommandLine
