import BuildHeader.Proofs.Config.Discovery
import BuildHeader.Proofs.Config.Fields

set_option autoImplicit false

namespace BuildHeader

structure Environment.AlikeBut (names : List String) (env env' : Environment) : Prop where
  home : env.home? = env'.home?
  get? : ∀ name, name ∉ names → env.get? name = env'.get? name

def Environment.logNames : List String := ["RUST_LOG", "CONFGEN_LOG_LEVEL", "CONFGEN_LOG_FORMAT"]

namespace Config

open Yaml (Document Node)

def unlogged (config : Config) : Config := { config with logging := {} }

/-- As configurations the contents differ at most in the logging. -/
def SaysAlike (content content' : ByteArray) : Prop :=
  ∀ path, (ofContent path (.ok content)).map unlogged =
    (ofContent path (.ok content')).map unlogged

section Environment

variable {env env' : Environment}

theorem standardPaths_congr (h : env.home? = env'.home?) :
    standardPaths env = standardPaths env' := by
  simp only [standardPaths, h]

theorem unlogged_withEnvironment_eq (h : env.AlikeBut Environment.logNames env')
    {config config' : Config} (hc : config.unlogged = config'.unlogged) :
    (config.withEnvironment env).unlogged = (config'.withEnvironment env').unlogged := by
  simp only [unlogged, Config.mk.injEq] at hc
  simp only [unlogged, withEnvironment, hc, h.get? "CONFGEN_AUTHOR" (by decide)]

theorem found_eq_of_environment (h : env.AlikeBut Environment.logNames env')
    (path? : Option String) (files : File.Tree) :
    found env path? files = found env' path? files := by
  simp only [found, standardPaths_congr h.home]

theorem unlogged_found_eq {place : File.Location} {content content' : ByteArray}
    {files files' : File.Tree} (h : env.AlikeBut Environment.logNames env')
    (ht : files.AlikeBut place content content' files') (halike : SaysAlike content content')
    (path? : Option String) :
    (found env path? files).map unlogged = (found env' path? files').map unlogged := by
  have hcontent : ∀ path, (ofContent path (files.read path)).map unlogged =
      (ofContent path (files'.read path)).map unlogged := by
    intro path
    rcases ht.read_eq_or path with same | ⟨hfirst, hsecond⟩
    · rw [same]
    · rw [hfirst, hsecond]
      exact halike path
  rw [found_eq_of_environment h]
  cases path? with
  | some path =>
    simp only [found, ht.isThere_eq]
    split
    · exact hcontent path
    · rfl
  | none =>
    -- The file is there on both sides, so the search stops at the same path.
    have hthere : files.isThere = files'.isThere := funext ht.isThere_eq
    have hfirst : (standardPaths env').find? files.isThere =
        (standardPaths env').find? files'.isThere := by
      rw [hthere]
    unfold found
    rw [hfirst]
    cases (standardPaths env').find? files'.isThere with
    | none => rfl
    | some path => exact hcontent path

end Environment

section Documents

/-- The names of fields, and which of their values are texts. -/
def shape (d : Document) (fields : List (Node × Node)) : List (Node × Bool) :=
  fields.map fun field => (field.1, (text? d field.2).isSome)

def readable {α : Type} (read : Node → Option α) (fields : List (String × Node)) :
    List (String × Bool) :=
  fields.map fun field => (field.1, (read field.2).isSome)

theorem filter_readable {α : Type} (read : Node → Option α) (fields : List (String × Node))
    (name : String) : readable read (fields.filter (·.1 == name)) =
      (readable read fields).filter (·.1 == name) := by
  simp only [readable, List.filter_map]
  rfl

theorem isSome_readField_eq {α : Type} {read : Node → Option α}
    {fields fields' : List (String × Node)} (h : readable read fields = readable read fields')
    (name : String) (absent : α) :
    (readField fields name absent read).isSome = (readField fields' name absent read).isSome := by
  have hfilter : readable read (fields.filter (·.1 == name)) =
      readable read (fields'.filter (·.1 == name)) := by
    rw [filter_readable, filter_readable, h]
  unfold readField
  generalize fields.filter (·.1 == name) = given at hfilter ⊢
  generalize fields'.filter (·.1 == name) = given' at hfilter ⊢
  match given, given' with
  | [], [] => rfl
  | [field], [field'] => exact congrArg Prod.snd (List.cons.inj hfilter).1
  | _ :: _ :: _, _ :: _ :: _ => rfl
  | [], _ :: _ | _ :: _, [] | [_], _ :: _ :: _ | _ :: _ :: _, [_] => simp [readable] at hfilter

theorem readable_namedFields? {d : Document} {node : Node} {fields : List (Node × Node)}
    (h : d.resolve node = some (.mapping fields)) :
    (namedFields? d node).map (readable (text? d)) =
      (shape d fields).mapM fun field => (text? d field.1).map fun name => (name, field.2) := by
  have hfields : fields? d node = some fields := by simp [fields?, h]
  rw [namedFields?, hfields, Option.bind_some, shape, List.mapM_map]
  refine (map_mapM _ _ fields).trans ?_
  simp only [Option.map_map]
  rfl

theorem isSome_logging? (d : Document) (node : Node) :
    (logging? d node).isSome = (namedFields? d node).any fun named =>
      (readField named "level" ({} : Logging).level (text? d)).isSome &&
        (readField named "format" ({} : Logging).format (text? d)).isSome := by
  unfold logging?
  cases namedFields? d node with
  | none => rfl
  | some named =>
    simp only [Option.bind_eq_bind, Option.bind_some, Option.any_some]
    cases readField named "level" ({} : Logging).level (text? d) with
    | none => rfl
    | some level => cases readField named "format" ({} : Logging).format (text? d) <;> rfl

theorem isSome_logging?_eq {d : Document} {node node' : Node} {fields fields' : List (Node × Node)}
    (h : d.resolve node = some (.mapping fields)) (h' : d.resolve node' = some (.mapping fields'))
    (hshape : shape d fields = shape d fields') :
    (logging? d node).isSome = (logging? d node').isSome := by
  have hnamed : (namedFields? d node).map (readable (text? d)) =
      (namedFields? d node').map (readable (text? d)) := by
    rw [readable_namedFields? h, readable_namedFields? h', hshape]
  rw [isSome_logging?, isSome_logging?]
  cases hfirst : namedFields? d node with
  | none =>
    have hsecond : namedFields? d node' = none := by simpa [hfirst] using hnamed.symm
    rw [hsecond]
  | some named =>
    obtain ⟨named', hsecond, hsame⟩ : ∃ named', namedFields? d node' = some named' ∧
        readable (text? d) named' = readable (text? d) named := by
      simpa [hfirst] using hnamed.symm
    rw [hsecond, Option.any_some, Option.any_some, isSome_readField_eq hsame.symm "level",
      isSome_readField_eq hsame.symm "format"]

theorem unlogged_bind_eq {α : Type} (x : Option α) {f f' : α → Option Config}
    (h : ∀ a, (f a).map unlogged = (f' a).map unlogged) :
    (x.bind f).map unlogged = (x.bind f').map unlogged := by
  cases x with
  | none => rfl
  | some a => exact h a

theorem unlogged_ofFields?_eq {d : Document} {node node' : Node}
    (h : (logging? d node).isSome = (logging? d node').isSome)
    (before after : List (String × Node)) :
    (ofFields? d (before ++ ("logging", node) :: after)).map unlogged =
      (ofFields? d (before ++ ("logging", node') :: after)).map unlogged := by
  have hsame : readable (logging? d) (before ++ ("logging", node) :: after) =
      readable (logging? d) (before ++ ("logging", node') :: after) := by
    simp [readable, h]
  have hlogging := isSome_readField_eq hsame "logging" {}
  simp (disch := decide) only [ofFields?, readField_of_ne]
  refine unlogged_bind_eq _ fun template => unlogged_bind_eq _ fun output =>
    unlogged_bind_eq _ fun delimiter => unlogged_bind_eq _ fun author =>
    unlogged_bind_eq _ fun templateVars => ?_
  generalize readField (before ++ ("logging", node) :: after) "logging" {} (logging? d) = first
    at hlogging ⊢
  generalize readField (before ++ ("logging", node') :: after) "logging" {} (logging? d) = second
    at hlogging ⊢
  cases first with
  | none =>
    cases second with
    | none => rfl
    | some logging => cases hlogging
  | some logging =>
    cases second with
    | none => cases hlogging
    | some logging => rfl

/-- Documents that differ in texts of their logging section only. -/
inductive Relogged : Document → Document → Prop where
  | logging {anchored : List Yaml.Anchored} (before after : List (Node × Node))
    {key node node' : Node} {fields fields' : List (Node × Node)}
    (named : text? (documentOf anchored []) key = some "logging")
    (first : (documentOf anchored []).resolve node = some (.mapping fields))
    (second : (documentOf anchored []).resolve node' = some (.mapping fields'))
    (texts : shape (documentOf anchored []) fields = shape (documentOf anchored []) fields') :
    Relogged (documentOf anchored (before ++ (key, node) :: after))
      (documentOf anchored (before ++ (key, node') :: after))

theorem unlogged_ofDocument?_eq {d d' : Document} (h : Relogged d d') :
    (ofDocument? d).map unlogged = (ofDocument? d').map unlogged := by
  cases h with
  | @logging anchored before after key _ _ _ _ named first second texts =>
    simp only [ofDocument?_of_fields, List.mapM_append, List.mapM_cons, named, Option.map_some]
    cases before.mapM fun field => (text? (documentOf anchored []) field.1).map fun name =>
        (name, field.2) with
    | none => rfl
    | some above =>
      cases after.mapM fun field => (text? (documentOf anchored []) field.1).map fun name =>
          (name, field.2) with
      | none => rfl
      | some below =>
        exact unlogged_ofFields?_eq (isSome_logging?_eq first second texts) above below

theorem validate_eq_of_unlogged {config config' : Config} (h : config.unlogged = config'.unlogged) :
    config.validate = config'.validate := by
  have hvalidate : ∀ config : Config, config.validate = config.unlogged.validate := fun _ => rfl
  rw [hvalidate, h, ← hvalidate]

theorem saysAlike_of_relogged {content content' : ByteArray} {text text' : String}
    {d d' : Document} (decoded : String.fromUTF8? content = some text)
    (decoded' : String.fromUTF8? content' = some text')
    (parsed : Document.ofText text.toList = .ok d) (parsed' : Document.ofText text'.toList = .ok d')
    (h : Relogged d d') : SaysAlike content content' := by
  intro path
  have hsame := unlogged_ofDocument?_eq h
  simp only [ofContent, ofYaml, decoded, decoded', parsed, parsed']
  cases hfirst : ofDocument? d with
  | none =>
    have hsecond : ofDocument? d' = none := by simpa [hfirst] using hsame.symm
    rw [hsecond]
  | some config =>
    obtain ⟨config', hsecond, hunlogged⟩ : ∃ config', ofDocument? d' = some config' ∧
        config'.unlogged = config.unlogged := by
      simpa [hfirst] using hsame.symm
    rw [hsecond]
    simp only [validate_eq_of_unlogged hunlogged.symm]
    cases config'.validate with
    | error fault => rfl
    | ok _ => exact congrArg Except.ok hunlogged.symm

end Documents

end Config

end BuildHeader
