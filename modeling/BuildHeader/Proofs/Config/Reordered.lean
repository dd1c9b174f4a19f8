import BuildHeader.Proofs.Config.ByName

set_option autoImplicit false

namespace BuildHeader.Config

open Yaml (Document Node)
open Yaml.Document (FieldAlike)

def concerns (d : Document) (names : List String) (field : Node × Node) : Bool :=
  (text? d field.1).all names.contains

/-- Fields of these names in any order; those of other names do not count. -/
def SameFields (names : List String) (R : Node × Node → Node × Node → Prop) (d d' : Document)
    (fields fields' : List (Node × Node)) : Prop :=
  ∃ row, row.Perm (fields.filter (concerns d names)) ∧
    List.Forall₂ R row (fields'.filter (concerns d' names))

def SameSection (d d' : Document) (node node' : Node) : Prop :=
  ∃ fields fields', fields? d node = some fields ∧ fields? d' node' = some fields' ∧
    SameFields loggingNamesKnown (FieldAlike d d') d d' fields fields'

def TopFieldAlike (d d' : Document) (field field' : Node × Node) : Prop :=
  d.Alike d' field.1 field'.1 ∧
    (d.Alike d' field.2 field'.2 ∨
      text? d field.1 = some "logging" ∧ SameSection d d' field.2 field'.2)

/-- The documents have the same known fields, in any order. -/
def Reordered (d d' : Document) : Prop :=
  ∃ root root' fields fields', d.root? = some root ∧ d'.root? = some root' ∧
    fields? d root = some fields ∧ fields? d' root' = some fields' ∧
    SameFields fieldNamesKnown (TopFieldAlike d d') d d' fields fields'

theorem readFrom_congr {α : Type} {absent : α} {read read' : Node → Option α}
    {nodes nodes' row : List Node} (hp : row.Perm nodes)
    (hr : List.Forall₂ (fun node node' => read node = read' node') row nodes') (value : α) :
    ReadFrom absent read nodes value ↔ ReadFrom absent read' nodes' value := by
  cases hr with
  | nil =>
    obtain rfl := List.nil_perm.1 hp
    constructor
    · intro h
      cases h
      exact .absent
    · intro h
      cases h
      exact .absent
  | @cons node node' _ _ hread hrest =>
    cases hrest with
    | nil =>
      obtain rfl := List.singleton_perm.1 hp
      constructor
      · intro h
        cases h with
        | given hv => exact .given (hread ▸ hv)
      · intro h
        cases h with
        | given hv => exact .given (hread.trans hv)
    -- Two nodes on one side are two on the other, and neither are read.
    | cons =>
      have hlength := hp.length_eq
      constructor
      · intro h
        cases h <;> simp at hlength
      · intro h
        cases h

section SameFields

variable {names : List String} {R : Node × Node → Node × Node → Prop} {d d' : Document}
  {fields fields' : List (Node × Node)}

theorem filter_concerns {name : String} (hname : name ∈ names) (fields : List (Node × Node)) :
    (fields.filter (concerns d names)).filter (fun field => text? d field.1 == some name) =
      fields.filter fun field => text? d field.1 == some name := by
  rw [List.filter_filter]
  refine List.filter_congr fun field _ => ?_
  by_cases h : text? d field.1 = some name
  · simp [concerns, h, hname]
  · simp [h]

theorem named_filter_iff (fields : List (Node × Node)) :
    Named d (fields.filter (concerns d names)) ↔ Named d fields := by
  constructor
  · intro h field hm
    cases hc : concerns d names field with
    | true => exact h field (List.mem_filter.2 ⟨hm, hc⟩)
    | false =>
      cases ht : text? d field.1 with
      | none => simp [concerns, ht] at hc
      | some name => rfl
  · intro h field hm
    exact h field (List.mem_filter.1 hm).1

variable (hkey : ∀ field field', R field field' → text? d field.1 = text? d' field'.1)
  (h : SameFields names R d d' fields fields')
include hkey h

theorem named_iff : Named d fields ↔ Named d' fields' := by
  obtain ⟨row, hp, hr⟩ := h
  rw [← @named_filter_iff names d fields, ← @named_filter_iff names d' fields']
  have hrow : Named d row ↔ Named d (fields.filter (concerns d names)) := by
    simp only [Named, hp.mem_iff]
  rw [← hrow]
  generalize fields'.filter (concerns d' names) = row' at hr
  clear hp hrow
  induction hr with
  | nil => simp [Named]
  | cons hf _ ih =>
    simp only [Named, List.forall_mem_cons] at ih ⊢
    exact and_congr (by rw [hkey _ _ hf]) ih

theorem exists_row_under {name : String} (hname : name ∈ names) :
    ∃ row, row.Perm (nodesUnder d fields name) ∧
      List.Forall₂ (fun node node' => ∃ key key', text? d key = some name ∧
        R (key, node) (key', node')) row (nodesUnder d' fields' name) := by
  obtain ⟨row, hp, hr⟩ := h
  have hfilter := List.rel_filter (p := fun field => text? d field.1 == some name)
    (q := fun field => text? d' field.1 == some name)
    (fun field field' hf => by simp only [hkey field field' hf]) hr
  rw [filter_concerns hname] at hfilter
  refine ⟨(row.filter fun field => text? d field.1 == some name).map Prod.snd, ?_, ?_⟩
  · rw [nodesUnder, ← filter_concerns hname fields]
    exact (hp.filter _).map _
  · rw [nodesUnder, List.forall₂_map_left_iff, List.forall₂_map_right_iff]
    have hnamed : ∀ field ∈ row.filter (fun field => text? d field.1 == some name),
        text? d field.1 = some name := fun field hm => eq_of_beq (List.mem_filter.1 hm).2
    exact ((List.forall₂_and_left _ _).2 ⟨hnamed, hfilter⟩).imp fun field field' hf =>
      ⟨field.1, field'.1, hf⟩

theorem readFrom_iff {α : Type} {absent : α} {read read' : Node → Option α} {name : String}
    (hname : name ∈ names)
    (hread : ∀ key key' node node', text? d key = some name → R (key, node) (key', node') →
      read node = read' node') (value : α) :
    ReadFrom absent read (nodesUnder d fields name) value ↔
      ReadFrom absent read' (nodesUnder d' fields' name) value := by
  obtain ⟨row, hp, hr⟩ := exists_row_under hkey h hname
  refine readFrom_congr hp (hr.imp ?_) value
  rintro node node' ⟨key, key', hkey, hf⟩
  exact hread key key' node node' hkey hf

end SameFields

section Reordered

variable {d d' : Document}

theorem logging?_eq_of_sameSection {node node' : Node} (h : SameSection d d' node node') :
    logging? d node = logging? d' node' := by
  obtain ⟨fields, fields', hfields, hfields', hsame⟩ := h
  have hkey : ∀ field field', FieldAlike d d' field field' → text? d field.1 = text? d' field'.1 :=
    fun _ _ hf => text?_eq_of_alike hf.1
  have htext : ∀ name, ∀ key key' node node', text? d key = some name →
      FieldAlike d d' (key, node) (key', node') → text? d node = text? d' node' :=
    fun _ _ _ _ _ _ hf => text?_eq_of_alike hf.2
  refine Option.ext fun logging => ?_
  rw [logging?_eq_some_iff hfields, logging?_eq_some_iff hfields', named_iff hkey hsame,
    decodesLogging_iff_fields, decodesLogging_iff_fields]
  exact and_congr_right fun _ => and_congr (readFrom_iff hkey hsame (by decide) (htext _) _)
    (readFrom_iff hkey hsame (by decide) (htext _) _)

theorem sameFields_of_alike {fields fields' : List (Node × Node)}
    (h : List.Forall₂ (FieldAlike d d') fields fields') (names : List String) :
    SameFields names (FieldAlike d d') d d' fields fields' := by
  refine ⟨_, .refl _, List.rel_filter (fun field field' hf => ?_) h⟩
  simp only [concerns, text?_eq_of_alike hf.1]

theorem logging?_eq_of_alike {node node' : Node} (h : d.Alike d' node node') :
    logging? d node = logging? d' node' := by
  have hfields := fields?_of_alike h
  cases hf : fields? d node with
  | none =>
    cases hf' : fields? d' node' with
    | none => simp [logging?, namedFields?, hf, hf']
    | some fields' =>
      rw [hf, hf'] at hfields
      cases hfields
  | some fields =>
    cases hf' : fields? d' node' with
    | none =>
      rw [hf, hf'] at hfields
      cases hfields
    | some fields' =>
      rw [hf, hf'] at hfields
      cases hfields with
      | some each =>
        exact logging?_eq_of_sameSection ⟨fields, fields', hf, hf', sameFields_of_alike each _⟩

theorem text?_key_of_topFieldAlike (field field' : Node × Node)
    (h : TopFieldAlike d d' field field') : text? d field.1 = text? d' field'.1 :=
  text?_eq_of_alike h.1

theorem read_eq_of_topFieldAlike {α : Type} {read read' : Node → Option α} {name : String}
    (hne : name ≠ "logging")
    (hread : ∀ node node', d.Alike d' node node' → read node = read' node')
    (key key' node node' : Node) (hname : text? d key = some name)
    (h : TopFieldAlike d d' (key, node) (key', node')) : read node = read' node' := by
  rcases h.2 with halike | ⟨hlogging, _⟩
  · exact hread node node' halike
  · exact absurd (Option.some.inj (hname.symm.trans hlogging)) hne

theorem logging?_eq_of_topFieldAlike (key key' node node' : Node)
    (_ : text? d key = some "logging") (h : TopFieldAlike d d' (key, node) (key', node')) :
    logging? d node = logging? d' node' := by
  rcases h.2 with halike | ⟨_, hsection⟩
  · exact logging?_eq_of_alike halike
  · exact logging?_eq_of_sameSection hsection

theorem decodes_iff {fields fields' : List (Node × Node)}
    (h : SameFields fieldNamesKnown (TopFieldAlike d d') d d' fields fields') (config : Config) :
    Decodes d fields config ↔ Decodes d' fields' config := by
  have hplain : ∀ name ∈ fieldNamesKnown, name ≠ "logging" → ∀ {α : Type} {absent : α}
      {read read' : Node → Option α} (value : α),
      (∀ node node', d.Alike d' node node' → read node = read' node') →
      (ReadFrom absent read (nodesUnder d fields name) value ↔
        ReadFrom absent read' (nodesUnder d' fields' name) value) :=
    fun name hname hne _ _ _ _ value hread =>
      readFrom_iff text?_key_of_topFieldAlike h hname (read_eq_of_topFieldAlike hne hread) value
  rw [decodes_iff_fields, decodes_iff_fields]
  refine and_congr ?_ (and_congr ?_ (and_congr ?_ (and_congr ?_ (and_congr ?_ ?_))))
  · exact hplain "template" (by decide) (by decide) _ fun _ _ => text?_eq_of_alike
  · exact hplain "output" (by decide) (by decide) _ fun _ _ => text?_eq_of_alike
  · exact hplain "delimiter" (by decide) (by decide) _ fun _ _ => char?_eq_of_alike
  · exact hplain "author" (by decide) (by decide) _ fun _ _ => optionalText?_eq_of_alike
  · exact hplain "template_vars" (by decide) (by decide) _ fun _ _ => bindings?_eq_of_alike
  · exact readFrom_iff text?_key_of_topFieldAlike h (by decide) logging?_eq_of_topFieldAlike _

theorem ofDocument?_of_root {root : Node} (h : d.root? = some root) :
    ofDocument? d = (namedFields? d root).bind (ofFields? d) := by
  simp only [ofDocument?, h]

theorem ofDocument?_of_reordered_fields (h : Reordered d d') : ofDocument? d = ofDocument? d' := by
  obtain ⟨root, root', fields, fields', hroot, hroot', hfields, hfields', hsame⟩ := h
  refine Option.ext fun config => ?_
  rw [ofDocument?_of_root hroot, ofDocument?_of_root hroot', decode_eq_some_iff hfields,
    decode_eq_some_iff hfields', named_iff text?_key_of_topFieldAlike hsame, decodes_iff hsame]

theorem ofDocument?_eq_some_iff {root : Node} {fields : List (Node × Node)}
    (hroot : d.root? = some root) (hfields : fields? d root = some fields) (named : Named d fields)
    (config : Config) : ofDocument? d = some config ↔ Decodes d fields config := by
  rw [ofDocument?_of_root hroot, decode_eq_some_iff hfields]
  exact and_iff_right named

end Reordered

section Texts

variable {text : String} {d : Document} (parsed : Document.ofText text.toList = .ok d)
include parsed

theorem ofYaml_of_parsed :
    ofYaml text = match ofDocument? d with
      | none => .error (.yaml .shape)
      | some config => config.validate.map fun _ => config := by
  cases hread : ofDocument? d <;> simp only [ofYaml, parsed, hread]

theorem ofYaml_eq_ok_iff (config : Config) :
    ofYaml text = .ok config ↔ ofDocument? d = some config ∧ config.validate = .ok () := by
  rw [ofYaml_of_parsed parsed]
  cases ofDocument? d with
  | none => simp
  | some other =>
    rw [Except.map_eq_ok_iff]
    constructor
    · rintro ⟨_, hvalid, rfl⟩
      exact ⟨rfl, hvalid⟩
    · rintro ⟨hsame, hvalid⟩
      obtain rfl := Option.some.inj hsame
      exact ⟨(), hvalid, rfl⟩

theorem ofYaml_eq_error_iff (fault : Fault) :
    ofYaml text = .error fault ↔ ofDocument? d = none ∧ fault = .yaml .shape ∨
      ∃ config, ofDocument? d = some config ∧ config.validate = .error fault := by
  rw [ofYaml_of_parsed parsed]
  cases ofDocument? d with
  | none => simp [eq_comm]
  | some other => simp [Except.map_eq_error_iff]

theorem ofYaml_of_undecoded {fields : List (Node × Node)}
    (hdecodes : ∀ config, ofDocument? d = some config ↔ Decodes d fields config)
    (h : ∀ config, ¬Decodes d fields config) : ofYaml text = .error (.yaml .shape) := by
  refine (ofYaml_eq_error_iff parsed _).2 (.inl ⟨?_, rfl⟩)
  refine Option.eq_none_iff_forall_ne_some.2 fun config hsome => ?_
  exact h config ((hdecodes config).1 hsome)

end Texts

/--
Documents with the same known fields in any order, also in the logging section, and any unknown
ones are read as the same configuration or refused for the same reason. A configuration has for
each field the default or what stands under its name, and then is checked. A known field given
twice is refused, in the logging section too.
-/
theorem configuration_is_read_by_name :
    (∀ text text' d d', Document.ofText text.toList = .ok d →
      Document.ofText text'.toList = .ok d' → Reordered d d' → ofYaml text = ofYaml text') ∧
    ∀ text d root fields, Document.ofText text.toList = .ok d → d.root? = some root →
      fields? d root = some fields → Named d fields →
      (∀ config, ofYaml text = .ok config ↔ Decodes d fields config ∧ config.validate = .ok ()) ∧
      (∀ fault, ofYaml text = .error fault ↔
        (∀ config, ¬Decodes d fields config) ∧ fault = .yaml .shape ∨
          ∃ config, Decodes d fields config ∧ config.validate = .error fault) ∧
      (∀ node inner logging, fields? d node = some inner →
        (logging? d node = some logging ↔ Named d inner ∧ DecodesLogging d inner logging)) ∧
      (∀ name ∈ fieldNamesKnown, 1 < (nodesUnder d fields name).length →
        ofYaml text = .error (.yaml .shape)) ∧
      ∀ node inner, nodesUnder d fields "logging" = [node] → fields? d node = some inner →
        ∀ name ∈ loggingNamesKnown, 1 < (nodesUnder d inner name).length →
          ofYaml text = .error (.yaml .shape) := by
  refine ⟨fun text text' d d' parsed parsed' h => ?_,
    fun text d root fields parsed hroot hfields named => ?_⟩
  · rw [ofYaml_of_parsed parsed, ofYaml_of_parsed parsed', ofDocument?_of_reordered_fields h]
  have hdecodes := ofDocument?_eq_some_iff hroot hfields named
  refine ⟨fun config => ?_, fun fault => ?_, fun node inner logging hinner =>
    logging?_eq_some_iff hinner logging, fun name hname htwice => ?_,
    fun node inner hnode hinner name hname htwice => ?_⟩
  · rw [ofYaml_eq_ok_iff parsed, hdecodes]
  · simp only [ofYaml_eq_error_iff parsed, Option.eq_none_iff_forall_ne_some, ne_eq, hdecodes]
  · refine ofYaml_of_undecoded parsed hdecodes fun config hd => ?_
    exact absurd (hd.length_le_one name hname) (Nat.not_le.2 htwice)
  · refine ofYaml_of_undecoded parsed hdecodes fun config hd => ?_
    have hlogging := hd.logging
    rw [hnode] at hlogging
    cases hlogging with
    | given hread =>
      have hsection := ((logging?_eq_some_iff hinner _).1 hread).2
      exact absurd (hsection.length_le_one name hname) (Nat.not_le.2 htwice)

section

def word (text : String) : Node := .scalar { text := text.toList }

def words (pairs : List (String × String)) : Node :=
  .mapping (pairs.map fun pair => (word pair.1, word pair.2))

theorem alike_of_scalar {d d' : Document} {node node' : Node} {content : Yaml.Scalar}
    (h : d.resolve node = some (.scalar content)) (h' : d'.resolve node' = some (.scalar content)) :
    d.Alike d' node node' := by
  refine ⟨fun a a' => a = node ∧ a' = node', ⟨rfl, rfl⟩, ?_⟩
  rintro a a' ⟨rfl, rfl⟩
  rw [h, h']
  exact .scalar content

theorem alike_words (d d' : Document) (pairs : List (String × String)) :
    d.Alike d' (words pairs) (words pairs) := by
  refine ⟨fun a a' => a = a' ∧ (a = words pairs ∨ ∃ text, a = word text), ⟨rfl, .inl rfl⟩, ?_⟩
  rintro a _ ⟨rfl, rfl | ⟨text, rfl⟩⟩
  · refine .mapping (List.forall₂_same.2 fun field hm => ?_)
    obtain ⟨pair, _, rfl⟩ := List.mem_map.1 hm
    exact ⟨⟨rfl, .inr ⟨_, rfl⟩⟩, rfl, .inr ⟨_, rfl⟩⟩
  · exact .scalar _

def headerText : String :=
  "template: a.in\nlogging: \x7blevel: debug, format: compact\x7d\noutput: a.h\nauthor: ann\n" ++
    "delimiter: '%'\ntemplate_vars: \x7bmode: fast, mode: slow\x7d\n"

def variableWords : List (String × String) := [("mode", "fast"), ("mode", "slow")]

def delimiterNode : Node := .scalar { plain := false, text := ['%'] }

def headerFields : List (Node × Node) :=
  [(word "template", word "a.in"),
    (word "logging", words [("level", "debug"), ("format", "compact")]),
    (word "output", word "a.h"), (word "author", word "ann"), (word "delimiter", delimiterNode),
    (word "template_vars", words variableWords)]

/-- The same with an unknown field on each level, one of which has the value of a known field. -/
def aliasedText : String :=
  "name: &n a.in\ntemplate_vars: \x7bmode: fast, mode: slow\x7d\ndelimiter: '%'\nauthor: ann\n" ++
    "output: a.h\nlogging:\n  format: compact\n  file: x\n  level: debug\ntemplate: *n\n"

def aliasedFields : List (Node × Node) :=
  [(word "name", word "a.in"),
    (word "template_vars", words variableWords),
    (word "delimiter", delimiterNode), (word "author", word "ann"), (word "output", word "a.h"),
    (word "logging", words [("format", "compact"), ("file", "x"), ("level", "debug")]),
    (word "template", .alias 0)]

def aliasedDocument : Document := documentOf [⟨0, 0, word "a.in"⟩] aliasedFields

theorem ofText_headerText :
    Document.ofText headerText.toList = .ok (documentOf [] headerFields) :=
  Except.eq_ok_of_toOption (by decide +kernel)

theorem ofText_aliasedText : Document.ofText aliasedText.toList = .ok aliasedDocument :=
  Except.eq_ok_of_toOption (by decide +kernel)

theorem reordered_header : Reordered (documentOf [] headerFields) aliasedDocument := by
  have hsection : SameSection (documentOf [] headerFields) aliasedDocument
      (words [("level", "debug"), ("format", "compact")])
      (words [("format", "compact"), ("file", "x"), ("level", "debug")]) := by
    refine ⟨_, _, rfl, rfl, _, List.reverse_perm _, ?_⟩
    exact .cons ⟨alike_of_scalar rfl rfl, alike_of_scalar rfl rfl⟩
      (.cons ⟨alike_of_scalar rfl rfl, alike_of_scalar rfl rfl⟩ .nil)
  refine ⟨_, _, _, _, rfl, rfl, rfl, rfl, headerFields.reverse, headerFields.reverse_perm, ?_⟩
  exact .cons ⟨alike_of_scalar rfl rfl, .inl (alike_words _ _ variableWords)⟩
    (.cons ⟨alike_of_scalar rfl rfl, .inl (alike_of_scalar rfl rfl)⟩
      (.cons ⟨alike_of_scalar rfl rfl, .inl (alike_of_scalar rfl rfl)⟩
        (.cons ⟨alike_of_scalar rfl rfl, .inl (alike_of_scalar rfl rfl)⟩
          (.cons ⟨alike_of_scalar rfl rfl, .inr ⟨rfl, hsection⟩⟩
            (.cons ⟨alike_of_scalar rfl rfl, .inl (alike_of_scalar rfl rfl)⟩ .nil)))))

def doubledText : String := "output: a.h\nauthor: ann\noutput: b.h\n"

def doubledFields : List (Node × Node) :=
  [(word "output", word "a.h"), (word "author", word "ann"), (word "output", word "b.h")]

theorem ofText_doubledText :
    Document.ofText doubledText.toList = .ok (documentOf [] doubledFields) :=
  Except.eq_ok_of_toOption (by decide +kernel)

theorem header_is_read_by_name :
    ofYaml aliasedText = ofYaml headerText ∧
    ofYaml headerText = .ok { template := "a.in", output := "a.h", delimiter := '%',
                              author := some "ann", templateVars := .ofList [("mode", "slow")],
                              logging := { level := "debug", format := "compact" } } ∧
    ofYaml doubledText = .error (.yaml .shape) := by
  obtain ⟨reordered, byName⟩ := configuration_is_read_by_name
  have hnamed : Named (documentOf [] headerFields) headerFields := by
    simp only [Named, headerFields, List.forall_mem_cons]
    exact ⟨rfl, rfl, rfl, rfl, rfl, rfl, by simp⟩
  have hdoubled : Named (documentOf [] doubledFields) doubledFields := by
    simp only [Named, doubledFields, List.forall_mem_cons]
    exact ⟨rfl, rfl, rfl, by simp⟩
  refine ⟨(reordered _ _ _ _ ofText_headerText ofText_aliasedText reordered_header).symm, ?_, ?_⟩
  · refine ((byName _ _ _ _ ofText_headerText rfl rfl hnamed).1 _).2 ⟨?_, ?_⟩
    · exact ⟨.given rfl, .given rfl, .given rfl, .given (by decide +kernel),
        .given (by decide +kernel), .given rfl⟩
    · exact Except.eq_ok_of_toOption (by decide +kernel)
  · exact (byName _ _ _ _ ofText_doubledText rfl rfl hdoubled).2.2.2.1 "output" (by decide)
      (by decide +kernel)

end

end BuildHeader.Config
