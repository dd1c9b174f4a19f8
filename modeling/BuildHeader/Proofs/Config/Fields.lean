import Mathlib.Data.List.Forall2
import BuildHeader.Config
import BuildHeader.Proofs.Mapping

set_option autoImplicit false

namespace BuildHeader.Config

open Entries (keys)
open Yaml (Document Node)

section Rows

variable {α β γ : Type}

theorem mapM_cons_eq_some_iff {f : α → Option β} {a : α} {rest : List α} {row : List β} :
    (a :: rest).mapM f = some row ↔
      ∃ b row', f a = some b ∧ rest.mapM f = some row' ∧ row = b :: row' := by
  cases ha : f a with
  | none => simp [List.mapM_cons, ha]
  | some b => cases hr : rest.mapM f <;> simp [List.mapM_cons, ha, hr, eq_comm]

theorem mapM_eq_some_iff {f : α → Option β} {l : List α} {row : List β} :
    l.mapM f = some row ↔ List.Forall₂ (fun a b => f a = some b) l row := by
  induction l generalizing row with
  | nil => simp [eq_comm]
  | cons a rest ih =>
    rw [mapM_cons_eq_some_iff]
    constructor
    · rintro ⟨b, row', ha, hrest, rfl⟩
      exact .cons ha (ih.1 hrest)
    · intro h
      cases h with
      | cons ha hrest => exact ⟨_, _, ha, ih.2 hrest, rfl⟩

theorem mapM_bind_mapM (f : α → Option β) (g : β → Option γ) (l : List α) :
    (l.mapM f).bind (·.mapM g) = l.mapM fun a => (f a).bind g := by
  induction l with
  | nil => rfl
  | cons a rest ih =>
    simp only [List.mapM_cons, ← ih]
    cases f a with
    | none => rfl
    | some b =>
      cases rest.mapM f with
      | none => cases hg : g b <;> simp [hg]
      | some row => simp

theorem map_mapM (f : α → Option β) (g : β → γ) (l : List α) :
    (l.mapM f).map (List.map g) = l.mapM fun a => (f a).map g := by
  have hpure : ∀ row : List β, row.mapM (fun b => some (g b)) = some (row.map g) :=
    fun _ => List.mapM_pure
  have hbind := mapM_bind_mapM f (fun b => some (g b)) l
  simp only [hpure] at hbind
  simp only [Option.map_eq_bind]
  exact hbind

theorem mapM_of_perm {f : α → Option β} {first second : List α} (h : first.Perm second)
    {row : List β} (hs : second.mapM f = some row) :
    ∃ row', first.mapM f = some row' ∧ row'.Perm row := by
  induction h generalizing row with
  | nil => exact ⟨row, hs, .refl row⟩
  | cons a _ ih =>
    obtain ⟨b, rest, ha, hrest, rfl⟩ := mapM_cons_eq_some_iff.1 hs
    obtain ⟨rest', hrest', hp⟩ := ih hrest
    exact ⟨b :: rest', mapM_cons_eq_some_iff.2 ⟨b, rest', ha, hrest', rfl⟩, hp.cons b⟩
  | swap a b l =>
    obtain ⟨x, rest, ha, hrest, rfl⟩ := mapM_cons_eq_some_iff.1 hs
    obtain ⟨y, rest, hb, hl, rfl⟩ := mapM_cons_eq_some_iff.1 hrest
    refine ⟨y :: x :: rest, ?_, .swap x y rest⟩
    exact mapM_cons_eq_some_iff.2 ⟨y, x :: rest, hb, mapM_cons_eq_some_iff.2 ⟨x, rest, ha, hl, rfl⟩,
      rfl⟩
  | trans _ _ ihfirst ihsecond =>
    obtain ⟨middle, hmiddle, hp⟩ := ihsecond hs
    obtain ⟨row', hrow', hp'⟩ := ihfirst hmiddle
    exact ⟨row', hrow', hp'.trans hp⟩

end Rows

def fieldNames (d : Document) (fields : List (Node × Node)) : List String :=
  fields.filterMap fun field => text? d field.1

def binding? (d : Document) (field : Node × Node) : Option (String × String) :=
  (text? d field.1).bind fun name => (text? d field.2).map fun value => (name, value)

theorem bindings?_eq (d : Document) (node : Node) :
    bindings? d node = ((fields? d node).bind (·.mapM (binding? d))).map Bindings.ofList := by
  have hbinding : binding? d = fun field => ((text? d field.1).map fun name => (name, field.2)).bind
      fun named => (text? d named.2).map fun value => (named.1, value) := by
    funext field
    cases hn : text? d field.1 <;> simp [binding?, hn]
  simp only [hbinding, ← mapM_bind_mapM]
  unfold bindings? namedFields?
  cases fields? d node with
  | none => rfl
  | some fields => exact Option.map_bind.symm

theorem bindings?_of_mapping {d : Document} {node : Node} {fields : List (Node × Node)}
    (h : d.resolve node = some (.mapping fields)) :
    bindings? d node = (fields.mapM (binding? d)).map Bindings.ofList := by
  simp [bindings?_eq, fields?, h]

theorem keys_of_mapM_binding? {d : Document} {fields : List (Node × Node)}
    {row : List (String × String)} (h : fields.mapM (binding? d) = some row) :
    keys row = fieldNames d fields := by
  induction fields generalizing row with
  | nil =>
    obtain rfl : [] = row := by simpa using h
    rfl
  | cons field rest ih =>
    obtain ⟨pair, row', hpair, hrest, rfl⟩ := mapM_cons_eq_some_iff.1 h
    obtain ⟨name, hname, hvalue⟩ := Option.bind_eq_some_iff.1 hpair
    obtain ⟨value, _, rfl⟩ := Option.map_eq_some_iff.1 hvalue
    have hkeys : keys ((name, value) :: row') = name :: keys row' := rfl
    have hnames : fieldNames d (field :: rest) = name :: fieldNames d rest :=
      List.filterMap_cons_some hname
    rw [hkeys, ih hrest, hnames]

theorem bindings?_of_perm {d : Document} {node node' : Node} {fields fields' : List (Node × Node)}
    (h : d.resolve node = some (.mapping fields)) (h' : d.resolve node' = some (.mapping fields'))
    (hp : fields'.Perm fields) (distinct : (fieldNames d fields).Nodup) :
    bindings? d node' = bindings? d node := by
  rw [bindings?_of_mapping h, bindings?_of_mapping h']
  cases hrow : fields.mapM (binding? d) with
  | none =>
    cases hrow' : fields'.mapM (binding? d) with
    | none => rfl
    | some row' =>
      obtain ⟨row, hsome, _⟩ := mapM_of_perm hp.symm hrow'
      simp [hrow] at hsome
  | some row =>
    obtain ⟨row', hrow', hrows⟩ := mapM_of_perm hp hrow
    rw [← keys_of_mapM_binding? hrow] at distinct
    simp only [hrow', Option.map_some, Bindings.ofList_eq_of_perm hrows distinct]

section Fields

variable {before after : List (String × Node)} {node node' : Node} {α : Type}

theorem readField_of_ne {name other : String} (h : other ≠ name) (absent : α)
    (read : Node → Option α) :
    readField (before ++ (other, node) :: after) name absent read =
      readField (before ++ after) name absent read := by
  simp [readField, h]

/-- A field given once is read, and one given twice is not, whatever it holds. -/
theorem readField_congr (name : String) (absent : α) {read : Node → Option α}
    (h : read node' = read node) :
    readField (before ++ (name, node') :: after) name absent read =
      readField (before ++ (name, node) :: after) name absent read := by
  simp only [readField, List.filter_append, List.filter_cons, beq_self_eq_true, if_true]
  cases before.filter (·.1 == name) with
  | nil =>
    cases after.filter (·.1 == name) with
    | nil => exact h
    | cons => rfl
  | cons first rest => cases rest <;> rfl

theorem ofFields?_congr {d : Document} (h : bindings? d node' = bindings? d node) :
    ofFields? d (before ++ ("template_vars", node') :: after) =
      ofFields? d (before ++ ("template_vars", node) :: after) := by
  simp (disch := decide) only [ofFields?, readField_of_ne,
    readField_congr "template_vars" .empty h]

end Fields

def documentOf (anchored : List Yaml.Anchored) (fields : List (Node × Node)) : Document :=
  ⟨some (.mapping fields), anchored⟩

theorem ofDocument?_of_fields (anchored : List Yaml.Anchored) (fields : List (Node × Node)) :
    ofDocument? (documentOf anchored fields) =
      (fields.mapM fun field => (text? (documentOf anchored []) field.1).map fun name =>
        (name, field.2)).bind (ofFields? (documentOf anchored [])) := rfl

/-- A configuration does not tell in which order its document has the variables. -/
theorem ofDocument?_of_reordered {anchored : List Yaml.Anchored} {before after : List (Node × Node)}
    {key node node' : Node} {fields fields' : List (Node × Node)}
    (hkey : text? (documentOf anchored []) key = some "template_vars")
    (h : (documentOf anchored []).resolve node = some (.mapping fields))
    (h' : (documentOf anchored []).resolve node' = some (.mapping fields'))
    (hp : fields'.Perm fields) (distinct : (fieldNames (documentOf anchored []) fields).Nodup) :
    ofDocument? (documentOf anchored (before ++ (key, node') :: after)) =
      ofDocument? (documentOf anchored (before ++ (key, node) :: after)) := by
  simp only [ofDocument?_of_fields, List.mapM_append, List.mapM_cons, hkey, Option.map_some]
  cases before.mapM fun field => (text? (documentOf anchored []) field.1).map fun name =>
      (name, field.2) with
  | none => rfl
  | some above =>
    cases after.mapM fun field => (text? (documentOf anchored []) field.1).map fun name =>
        (name, field.2) with
    | none => rfl
    | some below => exact ofFields?_congr (bindings?_of_perm h h' hp distinct)

end BuildHeader.Config
