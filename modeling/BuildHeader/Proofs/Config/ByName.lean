import Mathlib.Data.List.Forall2
import Mathlib.Tactic.MkIffOfInductiveProp
import BuildHeader.Proofs.Config.Fields
import BuildHeader.Proofs.Script

/-!
Configurations by the names of their fields. Each field is read from what stands under its name:
nothing gives the default, one node what it holds, and more than one is a fault. What a node holds
is the same for all nodes of one content, aliases followed.
-/

set_option autoImplicit false

namespace BuildHeader

namespace Yaml.Document

inductive ShowsAlike (R : Node → Node → Prop) : Option Node → Option Node → Prop where
  | missing : ShowsAlike R none none
  | scalar (content : Scalar) :
    ShowsAlike R (some (.scalar content)) (some (.scalar content))
  | sequence {items items' : List Node} (each : List.Forall₂ R items items') :
    ShowsAlike R (some (.sequence items)) (some (.sequence items'))
  | mapping {fields fields' : List (Node × Node)}
    (each : List.Forall₂ (fun field field' => R field.1 field'.1 ∧ R field.2 field'.2)
      fields fields') :
    ShowsAlike R (some (.mapping fields)) (some (.mapping fields'))

/-- The node of the first document has the content of the one of the second document. -/
def Alike (d d' : Document) (node node' : Node) : Prop :=
  ∃ R : Node → Node → Prop, R node node' ∧
    ∀ a a', R a a' → ShowsAlike R (d.resolve a) (d'.resolve a')

def FieldAlike (d d' : Document) (field field' : Node × Node) : Prop :=
  d.Alike d' field.1 field'.1 ∧ d.Alike d' field.2 field'.2

theorem Alike.showsAlike {d d' : Document} {node node' : Node} (h : d.Alike d' node node') :
    ShowsAlike (d.Alike d') (d.resolve node) (d'.resolve node') := by
  obtain ⟨R, hr, hstep⟩ := h
  have hbelow : ∀ a a', R a a' → d.Alike d' a a' := fun a a' ha => ⟨R, ha, hstep⟩
  have hshows := hstep node node' hr
  generalize d.resolve node = first at hshows ⊢
  generalize d'.resolve node' = second at hshows ⊢
  cases hshows with
  | missing => exact .missing
  | scalar content => exact .scalar content
  | sequence each => exact .sequence (each.imp hbelow)
  | mapping each =>
    exact .mapping (each.imp fun _ _ hf => ⟨hbelow _ _ hf.1, hbelow _ _ hf.2⟩)

end Yaml.Document

namespace Config

open Yaml (Document Node Scalar)
open Yaml.Document (FieldAlike ShowsAlike)

section Alike

variable {d d' : Document} {node node' : Node} (h : d.Alike d' node node')
include h

theorem text?_eq_of_alike : text? d node = text? d' node' := by
  have hshows := h.showsAlike
  unfold text?
  generalize d.resolve node = first at hshows ⊢
  generalize d'.resolve node' = second at hshows ⊢
  cases hshows <;> rfl

theorem char?_eq_of_alike : char? d node = char? d' node' := by
  simp only [char?, text?_eq_of_alike h]

theorem optionalText?_eq_of_alike : optionalText? d node = optionalText? d' node' := by
  have hshows := h.showsAlike
  unfold optionalText?
  generalize d.resolve node = first at hshows ⊢
  generalize d'.resolve node' = second at hshows ⊢
  cases hshows <;> rfl

theorem fields?_of_alike :
    Option.Rel (List.Forall₂ (FieldAlike d d')) (fields? d node) (fields? d' node') := by
  have hshows := h.showsAlike
  unfold fields?
  generalize d.resolve node = first at hshows ⊢
  generalize d'.resolve node' = second at hshows ⊢
  cases hshows with
  | missing => exact .none
  | scalar content =>
    cases hempty : content.plain && content.text.isEmpty with
    | true => simp [hempty]
    | false => simp [hempty]
  | sequence => exact .none
  | mapping each => exact .some each

end Alike

section FieldAlike

variable {d d' : Document}

theorem binding?_eq_of_alike {field field' : Node × Node} (h : FieldAlike d d' field field') :
    binding? d field = binding? d' field' := by
  simp only [binding?, text?_eq_of_alike h.1, text?_eq_of_alike h.2]

theorem mapM_binding?_eq_of_alike {fields fields' : List (Node × Node)}
    (h : List.Forall₂ (FieldAlike d d') fields fields') :
    fields.mapM (binding? d) = fields'.mapM (binding? d') := by
  induction h with
  | nil => rfl
  | cons hf _ ih => rw [List.mapM_cons, List.mapM_cons, binding?_eq_of_alike hf, ih]

theorem bindings?_eq_of_alike {node node' : Node} (h : d.Alike d' node node') :
    bindings? d node = bindings? d' node' := by
  rw [bindings?_eq, bindings?_eq]
  have hfields := fields?_of_alike h
  generalize fields? d node = first at hfields ⊢
  generalize fields? d' node' = second at hfields ⊢
  cases hfields with
  | none => rfl
  | some each => exact congrArg (Option.map Bindings.ofList) (mapM_binding?_eq_of_alike each)

end FieldAlike

section Readers

variable {d : Document} {node : Node}

theorem text?_eq_some_iff {text : String} : text? d node = some text ↔
    ∃ content, d.resolve node = some (.scalar content) ∧ content.text = text.toList := by
  unfold text?
  constructor
  · intro h
    split at h
    · rename_i content hresolve
      obtain rfl := Option.some.inj h
      exact ⟨content, hresolve, String.toList_ofList.symm⟩
    · cases h
  · rintro ⟨content, hresolve, htext⟩
    simp only [hresolve, htext, String.ofList_toList]

theorem char?_eq_some_iff {c : Char} : char? d node = some c ↔
    ∃ content, d.resolve node = some (.scalar content) ∧ content.text = [c] := by
  simp only [char?, Option.bind_eq_some_iff, text?_eq_some_iff]
  constructor
  · rintro ⟨text, ⟨content, hresolve, htext⟩, hchar⟩
    refine ⟨content, hresolve, htext.trans ?_⟩
    split at hchar
    · rename_i hlist
      rw [hlist, Option.some.inj hchar]
    · cases hchar
  · rintro ⟨content, hresolve, htext⟩
    exact ⟨String.ofList [c], ⟨content, hresolve, htext.trans String.toList_ofList.symm⟩, by simp⟩

/-- A plain scalar of no tag that is empty or spells null, or one of the null tag that spells it. -/
def IsNothing (content : Scalar) : Prop :=
  content.plain = true ∧
    (content.tag? = none ∧ content.text = [] ∨
      (content.tag? = none ∨ content.tag? = some nullTag) ∧
        isNull (String.ofList content.text) = true)

/-- A plain scalar of the null tag that spells something else has no value. -/
theorem optionalScalar?_eq_some_iff {content : Scalar} {value : Option String} :
    optionalScalar? content = some value ↔
      IsNothing content ∧ value = none ∨
        ¬IsNothing content ∧ ¬(content.plain = true ∧ content.tag? = some nullTag) ∧
          value = some (String.ofList content.text) := by
  obtain ⟨tag?, plain, text⟩ := content
  unfold optionalScalar? IsNothing
  cases plain with
  | false => simp [eq_comm (a := value)]
  | true =>
    cases tag? with
    | none =>
      by_cases h : text = [] ∨ isNull (String.ofList text) = true <;>
        simp [h, eq_comm (a := value)]
    | some tag =>
      by_cases h : tag = nullTag
      · cases hn : isNull (String.ofList text) <;> simp [h, hn, eq_comm (a := value)]
      · simp [h, eq_comm (a := value)]

theorem optionalText?_eq_some_iff {value : Option String} : optionalText? d node = some value ↔
    ∃ content, d.resolve node = some (.scalar content) ∧
      (IsNothing content ∧ value = none ∨
        ¬IsNothing content ∧ ¬(content.plain = true ∧ content.tag? = some nullTag) ∧
          value = some (String.ofList content.text)) := by
  unfold optionalText?
  constructor
  · intro h
    split at h
    · rename_i content hresolve
      exact ⟨content, hresolve, optionalScalar?_eq_some_iff.1 h⟩
    · cases h
  · rintro ⟨content, hresolve, h⟩
    rw [hresolve]
    exact optionalScalar?_eq_some_iff.2 h

theorem fields?_eq_some_iff {fields : List (Node × Node)} : fields? d node = some fields ↔
    d.resolve node = some (.mapping fields) ∨
      ∃ content, d.resolve node = some (.scalar content) ∧ content.plain = true ∧
        content.text = [] ∧ fields = [] := by
  unfold fields?
  constructor
  · intro h
    split at h
    · rename_i hresolve
      exact .inl (Option.some.inj h ▸ hresolve)
    · rename_i content hresolve
      split at h
      · rename_i hempty
        obtain ⟨hplain, htext⟩ := Bool.and_eq_true_iff.1 hempty
        exact .inr ⟨content, hresolve, hplain, List.isEmpty_iff.1 htext, (Option.some.inj h).symm⟩
      · cases h
    · cases h
  · rintro (hresolve | ⟨content, hresolve, hplain, htext, rfl⟩)
    · rw [hresolve]
    · simp [hresolve, hplain, htext]

def BindsTo (d : Document) (field : Node × Node) (pair : String × String) : Prop :=
  text? d field.1 = some pair.1 ∧ text? d field.2 = some pair.2

theorem binding?_eq_some_iff {field : Node × Node} {pair : String × String} :
    binding? d field = some pair ↔ BindsTo d field pair := by
  obtain ⟨name, value⟩ := pair
  simp [binding?, BindsTo, Option.bind_eq_some_iff]

theorem bindings?_eq_some_iff {b : Bindings} : bindings? d node = some b ↔
    ∃ fields row, fields? d node = some fields ∧ List.Forall₂ (BindsTo d) fields row ∧
      ∀ key, b.get? key = row.reverse.lookup key := by
  have hlookup : ∀ (row : List (String × String)) key,
      (Bindings.ofList row).get? key = row.reverse.lookup key := by
    intro row key
    rw [Bindings.ofList, Bindings.get?_insertAll]
    exact Option.or_none
  simp only [bindings?_eq, Option.map_eq_some_iff, Option.bind_eq_some_iff, mapM_eq_some_iff,
    binding?_eq_some_iff]
  constructor
  · rintro ⟨row, ⟨fields, hfields, hrow⟩, rfl⟩
    exact ⟨fields, row, hfields, hrow, hlookup row⟩
  · rintro ⟨fields, row, hfields, hrow, hb⟩
    refine ⟨row, ⟨fields, hfields, hrow⟩, Bindings.ext_get? fun key => ?_⟩
    exact (hlookup row key).trans (hb key).symm

end Readers

def nodesUnder (d : Document) (fields : List (Node × Node)) (name : String) : List Node :=
  (fields.filter fun field => text? d field.1 == some name).map Prod.snd

def Named (d : Document) (fields : List (Node × Node)) : Prop :=
  ∀ field ∈ fields, (text? d field.1).isSome = true

/-- What is read from the nodes under one name. -/
inductive ReadFrom {α : Type} (absent : α) (read : Node → Option α) : List Node → α → Prop where
  | absent : ReadFrom absent read [] absent
  | given {node : Node} {value : α} (h : read node = some value) :
    ReadFrom absent read [node] value

section Rows

variable {α : Type} {d : Document} {node : Node} {fields : List (Node × Node)}
  {rows : List (String × Node)}

theorem namedFields?_eq (h : fields? d node = some fields) :
    namedFields? d node =
      fields.mapM fun field => (text? d field.1).map fun name => (name, field.2) := by
  rw [namedFields?, h]
  rfl

theorem exists_namedFields?_iff (h : fields? d node = some fields) :
    (∃ rows, namedFields? d node = some rows) ↔ Named d fields := by
  rw [namedFields?_eq h]
  clear h
  induction fields with
  | nil => simp [Named]
  | cons field rest ih =>
    simp only [Named, List.forall_mem_cons] at ih ⊢
    rw [← ih]
    simp only [mapM_cons_eq_some_iff, Option.isSome_iff_exists, Option.map_eq_some_iff]
    constructor
    · rintro ⟨_, _, rest, ⟨name, hname, _⟩, hrest, _⟩
      exact ⟨⟨name, hname⟩, rest, hrest⟩
    · rintro ⟨⟨name, hname⟩, rest, hrest⟩
      exact ⟨_, _, rest, ⟨name, hname, rfl⟩, hrest, rfl⟩

theorem nodesUnder_eq (h : fields? d node = some fields) (hrows : namedFields? d node = some rows)
    (name : String) : nodesUnder d fields name = (rows.filter (·.1 == name)).map Prod.snd := by
  rw [namedFields?_eq h] at hrows
  clear h
  induction fields generalizing rows with
  | nil =>
    obtain rfl : [] = rows := by simpa using hrows
    rfl
  | cons field rest ih =>
    obtain ⟨row, rows, hrow, hrest, rfl⟩ := mapM_cons_eq_some_iff.1 hrows
    obtain ⟨other, hother, rfl⟩ := Option.map_eq_some_iff.1 hrow
    have hunder := ih hrest
    unfold nodesUnder at hunder ⊢
    by_cases same : other = name
    · simp [hother, same, hunder]
    · simp [hother, same, hunder]

theorem readField_eq_some_iff (rows : List (String × Node)) (name : String) (absent : α)
    (read : Node → Option α) (value : α) :
    readField rows name absent read = some value ↔
      ReadFrom absent read ((rows.filter (·.1 == name)).map Prod.snd) value := by
  unfold readField
  generalize rows.filter (·.1 == name) = given
  match given with
  | [] =>
    constructor
    · intro h
      exact Option.some.inj h ▸ .absent
    · intro h
      cases h
      rfl
  | [field] =>
    constructor
    · exact .given
    · intro h
      cases h with
      | given hread => exact hread
  | _ :: _ :: _ =>
    constructor
    · intro h
      cases h
    · intro h
      cases h

end Rows

theorem ReadFrom.length_le_one {α : Type} {absent value : α} {read : Node → Option α}
    {nodes : List Node} (h : ReadFrom absent read nodes value) : nodes.length ≤ 1 := by
  cases h with
  | absent => exact Nat.zero_le 1
  | given => exact Nat.le_refl 1

def fieldNamesKnown : List String :=
  ["template", "output", "delimiter", "author", "template_vars", "logging"]

def loggingNamesKnown : List String := ["level", "format"]

@[mk_iff decodesLogging_iff_fields]
structure DecodesLogging (d : Document) (fields : List (Node × Node)) (logging : Logging) :
    Prop where
  level : ReadFrom ({} : Logging).level (text? d) (nodesUnder d fields "level") logging.level
  format : ReadFrom ({} : Logging).format (text? d) (nodesUnder d fields "format") logging.format

@[mk_iff decodes_iff_fields]
structure Decodes (d : Document) (fields : List (Node × Node)) (config : Config) : Prop where
  template : ReadFrom defaultTemplateName (text? d) (nodesUnder d fields "template") config.template
  output : ReadFrom defaultOutputName (text? d) (nodesUnder d fields "output") config.output
  delimiter : ReadFrom Template.defaultDelimiter (char? d) (nodesUnder d fields "delimiter")
    config.delimiter
  author : ReadFrom none (optionalText? d) (nodesUnder d fields "author") config.author
  templateVars : ReadFrom .empty (bindings? d) (nodesUnder d fields "template_vars")
    config.templateVars
  logging : ReadFrom {} (logging? d) (nodesUnder d fields "logging") config.logging

theorem DecodesLogging.length_le_one {d : Document} {fields : List (Node × Node)}
    {logging : Logging} (h : DecodesLogging d fields logging) :
    ∀ name ∈ loggingNamesKnown, (nodesUnder d fields name).length ≤ 1 := by
  simp only [loggingNamesKnown, List.forall_mem_cons]
  exact ⟨h.level.length_le_one, h.format.length_le_one, by simp⟩

theorem Decodes.length_le_one {d : Document} {fields : List (Node × Node)} {config : Config}
    (h : Decodes d fields config) :
    ∀ name ∈ fieldNamesKnown, (nodesUnder d fields name).length ≤ 1 := by
  simp only [fieldNamesKnown, List.forall_mem_cons]
  exact ⟨h.template.length_le_one, h.output.length_le_one, h.delimiter.length_le_one,
    h.author.length_le_one, h.templateVars.length_le_one, h.logging.length_le_one, by simp⟩

section Decoding

variable {d : Document} {node : Node} {fields : List (Node × Node)}

theorem logging?_eq_some_iff (h : fields? d node = some fields) (logging : Logging) :
    logging? d node = some logging ↔ Named d fields ∧ DecodesLogging d fields logging := by
  rw [← exists_namedFields?_iff h]
  unfold logging?
  cases hrows : namedFields? d node with
  | none => simp
  | some rows =>
    simp only [Option.bind_eq_bind, Option.bind_some, Option.bind_eq_some_iff,
      readField_eq_some_iff, ← nodesUnder_eq h hrows]
    constructor
    · rintro ⟨level, hlevel, format, hformat, heq⟩
      obtain rfl := Option.some.inj heq
      exact ⟨⟨rows, rfl⟩, hlevel, hformat⟩
    · rintro ⟨_, hlevel, hformat⟩
      exact ⟨_, hlevel, _, hformat, rfl⟩

theorem decode_eq_some_iff (h : fields? d node = some fields) (config : Config) :
    (namedFields? d node).bind (ofFields? d) = some config ↔
      Named d fields ∧ Decodes d fields config := by
  rw [← exists_namedFields?_iff h]
  cases hrows : namedFields? d node with
  | none => simp
  | some rows =>
    simp only [Option.bind_some, ofFields?, Option.bind_eq_bind, Option.bind_eq_some_iff,
      readField_eq_some_iff, ← nodesUnder_eq h hrows]
    constructor
    · rintro ⟨template, htemplate, output, houtput, delimiter, hdelimiter, author, hauthor,
        templateVars, hvars, logging, hlogging, heq⟩
      obtain rfl := Option.some.inj heq
      exact ⟨⟨rows, rfl⟩, htemplate, houtput, hdelimiter, hauthor, hvars, hlogging⟩
    · rintro ⟨_, htemplate, houtput, hdelimiter, hauthor, hvars, hlogging⟩
      exact ⟨_, htemplate, _, houtput, _, hdelimiter, _, hauthor, _, hvars, _, hlogging, rfl⟩

end Decoding

end Config

end BuildHeader
