import BuildHeader.Config
import BuildHeader.Proofs.Config.Delimiter
import BuildHeader.Proofs.File.Reading
import BuildHeader.Proofs.Script

set_option autoImplicit false

namespace BuildHeader.Config

/-- The configuration in the files, before the environment is laid over it. -/
def found (env : Environment) (path? : Option String) (files : File.Tree) :
    Except LoadError Config :=
  match path? with
  | some path =>
    if files.isThere path then ofContent path (files.read path) else .error (.notFound path)
  | none =>
    match (standardPaths env).find? files.isThere with
    | some path => ofContent path (files.read path)
    | none => .ok {}

def chosen? (env : Environment) (path? : Option String) (files : File.Tree) : Option String :=
  path?.or ((standardPaths env).find? files.isThere)

inductive Broken (files : File.Tree) (path : String) : LoadError → Prop where
  | absent (gone : files.isThere path = false) : Broken files path (.notFound path)
  | faulty {fault : File.Fault} (unread : files.read path = .error fault) :
    Broken files path (.unreadable path fault)
  | noText {content : ByteArray} (read : files.read path = .ok content)
    (undecoded : String.fromUTF8? content = none) :
    Broken files path (.unreadable path .invalidUtf8)
  | invalid {content : ByteArray} {text : String} {fault : Fault}
    (read : files.read path = .ok content) (decoded : String.fromUTF8? content = some text)
    (refused : ofYaml text = .error fault) : Broken files path (.invalid path fault)

theorem broken_of_ofContent {path : String} {files : File.Tree} {e : LoadError}
    (h : ofContent path (files.read path) = .error e) : Broken files path e := by
  cases hr : files.read path with
  | error fault =>
    simp only [ofContent, hr, Except.error.injEq] at h
    exact h ▸ .faulty hr
  | ok content =>
    cases ht : String.fromUTF8? content with
    | none =>
      simp only [ofContent, hr, ht, Except.error.injEq] at h
      exact h ▸ .noText hr ht
    | some text =>
      cases hy : ofYaml text with
      | ok config => simp [ofContent, hr, ht, hy] at h
      | error fault =>
        simp only [ofContent, hr, ht, hy, Except.mapError_error, Except.error.injEq] at h
        exact h ▸ .invalid hr ht hy

/-- Nothing but the chosen file can keep a run from its configuration. -/
theorem broken_of_found {env : Environment} {path? : Option String} {files : File.Tree}
    {e : LoadError} (h : found env path? files = .error e) :
    ∃ path, chosen? env path? files = some path ∧ Broken files path e := by
  cases path? with
  | some path =>
    refine ⟨path, rfl, ?_⟩
    cases hp : files.isThere path with
    | false =>
      simp only [found, hp, Bool.false_eq_true, if_false, Except.error.injEq] at h
      exact h ▸ .absent hp
    | true =>
      simp only [found, hp, if_true] at h
      exact broken_of_ofContent h
  | none =>
    cases hp : (standardPaths env).find? files.isThere with
    | none => simp [found, hp] at h
    | some path =>
      simp only [found, hp] at h
      exact ⟨path, hp, broken_of_ofContent h⟩

@[simp] theorem quietOn_firstThere (paths : List String) (files : File.Tree) :
    (firstThere paths).quietOn files = ⟨.ok (paths.find? files.isThere), files, [], []⟩ := by
  induction paths with
  | nil => rfl
  | cons path rest ih => cases h : files.isThere path <;> simp [firstThere, h, ih]

theorem quietOn_load (env : Environment) (path? : Option String) (files : File.Tree) :
    (load env path?).quietOn files =
      ⟨(found env path? files).map (·.withEnvironment env), files, [], []⟩ := by
  cases path? with
  | none =>
    cases h : (standardPaths env).find? files.isThere with
    | none => simp [load, choosePath, found, h, Except.map]
    | some path =>
      cases hc : ofContent path (files.read path) <;>
        simp [load, choosePath, found, h, hc, Except.map]
  | some path =>
    cases h : files.isThere path with
    | false => simp [load, choosePath, found, h, Except.map]
    | true =>
      cases hc : ofContent path (files.read path) <;>
        simp [load, choosePath, found, h, hc, Except.map]

def loaded (env : Environment) (path? : Option String) (files : File.Tree) :
    Except LoadError Config :=
  ((load env path?).actOn files).result

/-- The path to read: the one asked for, else the first standard one that is there, if any is. -/
inductive Chosen (env : Environment) (files : File.Tree) :
    Option String → Option String → Prop where
  | asked (path : String) : Chosen env files (some path) (some path)
  | standard {before after : List String} {path : String}
    (places : standardPaths env = before ++ path :: after)
    (gone : ∀ other ∈ before, files.isThere other = false) (there : files.isThere path = true) :
    Chosen env files none (some path)
  | nowhere (gone : ∀ path ∈ standardPaths env, files.isThere path = false) :
    Chosen env files none none

def Holds (files : File.Tree) (choice : Option String) (config : Config) : Prop :=
  match choice with
  | none => config = {}
  | some path => ∃ content text, files.read path = .ok content ∧
      String.fromUTF8? content = some text ∧ ofYaml text = .ok config

def overlaidNames : List String := ["CONFGEN_LOG_LEVEL", "CONFGEN_LOG_FORMAT", "CONFGEN_AUTHOR"]

theorem standardPaths_eq (env : Environment) : standardPaths env =
    match env.home? with
    | some home =>
      [File.joinPath (File.joinPath home ".confgen") "config.yaml", "confgen.yaml", "confgen.yml",
        ".confgen.yaml", ".confgen.yml"]
    | none => ["confgen.yaml", "confgen.yml", ".confgen.yaml", ".confgen.yml"] := by
  cases h : env.home? <;> simp [standardPaths, h]

section Choice

variable {env : Environment} {files : File.Tree} {path? : Option String}

theorem chosen_chosen? (env : Environment) (path? : Option String) (files : File.Tree) :
    Chosen env files path? (chosen? env path? files) := by
  cases path? with
  | some path => exact .asked path
  | none =>
    show Chosen env files none ((standardPaths env).find? files.isThere)
    cases h : (standardPaths env).find? files.isThere with
    | none => exact .nowhere fun path hm => by simpa using List.find?_eq_none.1 h path hm
    | some path =>
      obtain ⟨there, before, after, places, gone⟩ := List.find?_eq_some_iff_append.1 h
      exact .standard places (fun other hm => by simpa using gone other hm) there

theorem chosen?_of_chosen {choice : Option String} (h : Chosen env files path? choice) :
    chosen? env path? files = choice := by
  cases h with
  | asked path => rfl
  | standard places gone there =>
    refine List.find?_eq_some_iff_append.2 ⟨there, _, _, places, fun other hm => ?_⟩
    simp [gone other hm]
  | nowhere gone => exact List.find?_eq_none.2 fun path hm => by simp [gone path hm]

theorem loaded_eq_found (env : Environment) (path? : Option String) (files : File.Tree) :
    loaded env path? files = (found env path? files).map (·.withEnvironment env) :=
  congrArg Script.Transcript.result (quietOn_load env path? files)

theorem found_of_chosen {choice : Option String} (h : Chosen env files path? choice) :
    found env path? files =
      match choice with
      | none => .ok {}
      | some path =>
        if files.isThere path then ofContent path (files.read path)
        else .error (.notFound path) := by
  have hchoice := chosen?_of_chosen h
  cases h with
  | asked path => rfl
  | standard places gone there =>
    have hfirst : (standardPaths env).find? files.isThere = some _ := hchoice
    simp only [found, hfirst, there, if_true]
  | nowhere gone =>
    have hnone : (standardPaths env).find? files.isThere = none := hchoice
    simp only [found, hnone]

end Choice

theorem ofContent_eq_ok_iff (path : String) (answer : Except File.Fault ByteArray)
    (config : Config) :
    ofContent path answer = .ok config ↔ ∃ content text, answer = .ok content ∧
      String.fromUTF8? content = some text ∧ ofYaml text = .ok config := by
  cases answer with
  | error fault => simp [ofContent]
  | ok content =>
    cases h : String.fromUTF8? content with
    | none => simp [ofContent, h]
    | some text => simp [ofContent, h, Except.mapError_eq_ok_iff]

theorem found_eq_ok_iff {env : Environment} {files : File.Tree} {path? choice : Option String}
    (h : Chosen env files path? choice) (config : Config) :
    found env path? files = .ok config ↔ Holds files choice config := by
  rw [found_of_chosen h]
  cases choice with
  | none => simp [Holds, eq_comm]
  | some path =>
    simp only [Holds]
    cases hp : files.isThere path with
    | true => simp [ofContent_eq_ok_iff]
    | false =>
      have hread : ∀ content, files.read path ≠ .ok content := fun content hr => by
        simp [File.Tree.isThere_of_read hr] at hp
      simp [hread]

theorem found_congr {env env' : Environment} {files files' : File.Tree}
    {path? path?' choice : Option String} (h : Chosen env files path? choice)
    (h' : Chosen env' files' path?' choice)
    (hread : ∀ path, choice = some path → files'.read path = files.read path) :
    found env' path?' files' = found env path? files := by
  rw [found_of_chosen h, found_of_chosen h']
  cases choice with
  | none => rfl
  | some path =>
    have hr := hread path rfl
    simp only [File.Tree.isThere_eq_of_read_eq hr, hr]

theorem withEnvironment_congr {env env' : Environment}
    (h : ∀ name ∈ overlaidNames, env'.get? name = env.get? name) (config : Config) :
    config.withEnvironment env' = config.withEnvironment env := by
  simp [withEnvironment, h _ (by simp [overlaidNames] : "CONFGEN_LOG_LEVEL" ∈ overlaidNames),
    h _ (by simp [overlaidNames] : "CONFGEN_LOG_FORMAT" ∈ overlaidNames),
    h _ (by simp [overlaidNames] : "CONFGEN_AUTHOR" ∈ overlaidNames)]

theorem validate_mergeVariables (config : Config) (vars : Bindings) :
    (config.mergeVariables vars).validate = config.validate := rfl

theorem validate_withEnvironment (config : Config) (env : Environment) :
    (config.withEnvironment env).validate = config.validate := rfl

theorem validate_mergeAll (config : Config) (layers : List Bindings) :
    (layers.foldl mergeVariables config).validate = config.validate := by
  induction layers generalizing config with
  | nil => rfl
  | cons vars rest ih =>
    rw [List.foldl_cons, ih]
    exact config.validate_mergeVariables vars

theorem validate_default : ({} : Config).validate = .ok () := by
  rw [validate_eq_ok_iff]
  decide +kernel

theorem validate_of_holds {files : File.Tree} {choice : Option String} {config : Config}
    (h : Holds files choice config) : config.validate = .ok () := by
  cases choice with
  | none =>
    obtain rfl : config = {} := h
    exact validate_default
  | some path =>
    obtain ⟨_, text, _, _, hyaml⟩ := h
    exact validate_of_ofYaml hyaml

/--
Without a path the configuration is looked for in five places, or in four of them where there is no
home directory. One path is chosen. A configuration is loaded just when that path holds one, or when
there is no path and it is the default; otherwise the chosen file is to blame, whatever else there
is. The result is valid, stays so under any variables merged into it, and is the same wherever the
same path is chosen, reads the same and the same settings are laid over it.
-/
theorem loaded_from_chosen_path (env : Environment) (path? : Option String) (files : File.Tree) :
    (standardPaths env =
      match env.home? with
      | some home =>
        [File.joinPath (File.joinPath home ".confgen") "config.yaml", "confgen.yaml",
          "confgen.yml", ".confgen.yaml", ".confgen.yml"]
      | none => ["confgen.yaml", "confgen.yml", ".confgen.yaml", ".confgen.yml"]) ∧
    ∃ choice, Chosen env files path? choice ∧
      (∀ config, loaded env path? files = .ok config ↔
        ∃ own, Holds files choice own ∧ own.withEnvironment env = config) ∧
      (∀ path, choice = some path → files.isThere path = false →
        loaded env path? files = .error (.notFound path)) ∧
      (∀ e, loaded env path? files = .error e →
        ∃ path, choice = some path ∧ Broken files path e) ∧
      (∀ env' path?' files', Chosen env' files' path?' choice →
        (∀ path, choice = some path → files'.read path = files.read path) →
        (∀ name ∈ overlaidNames, env'.get? name = env.get? name) →
        loaded env' path?' files' = loaded env path? files) ∧
      ∀ config, loaded env path? files = .ok config →
        ∀ layers : List Bindings, (layers.foldl mergeVariables config).validate = .ok () := by
  have h := chosen_chosen? env path? files
  have hok : ∀ config, loaded env path? files = .ok config ↔
      ∃ own, Holds files (chosen? env path? files) own ∧ own.withEnvironment env = config :=
    fun config => by
      rw [loaded_eq_found, Except.map_eq_ok_iff]
      simp only [found_eq_ok_iff h]
  refine ⟨standardPaths_eq env, _, h, hok, fun path hpath hgone => ?_, fun e he => ?_, ?_,
    fun config hconfig layers => ?_⟩
  · rw [hpath] at h
    rw [loaded_eq_found, found_of_chosen h]
    simp [hgone, Except.map]
  · rw [loaded_eq_found, Except.map_eq_error_iff] at he
    exact broken_of_found he
  · intro env' path?' files' h' hread hsame
    rw [loaded_eq_found, loaded_eq_found, found_congr h h' hread]
    exact congrArg (Except.map · _) (funext (withEnvironment_congr hsame))
  · obtain ⟨own, hown, rfl⟩ := (hok config).1 hconfig
    rw [validate_mergeAll, validate_withEnvironment]
    exact validate_of_holds hown

def secondPlaceFiles : File.Tree where
  workingDirectory := ["work"]
  entries := [(["work", "confgen.yml"], .file "delimiter: '%'\n".toUTF8),
    (["work", ".confgen.yaml"], .file "delimiter: [".toUTF8)]

def emptyHomeFiles : File.Tree where
  workingDirectory := ["elsewhere"]
  entries := [(["elsewhere", "confgen.yml"], .file "delimiter: '%'\n".toUTF8),
    (["elsewhere", "home"], .directory)]

def homeFiles : File.Tree where
  workingDirectory := ["work"]
  entries := [(["work", "confgen.yml"], .file "delimiter: '%'\n".toUTF8),
    (["work", "home"], .directory), (["work", "home", ".confgen"], .directory),
    (["work", "home", ".confgen", "config.yaml"], .file "delimiter: '$'\n".toUTF8)]

def blockedFiles : File.Tree where
  workingDirectory := ["work"]
  entries := [(["work", "confgen.yml"], .directory),
    (["work", ".confgen.yaml"], .file "delimiter: '%'\n".toUTF8)]

theorem loaded_from_two_places :
    loaded { home? := some "home" } none homeFiles = .ok { delimiter := '$' } ∧
    loaded {} none secondPlaceFiles = .ok { delimiter := '%' } ∧
    loaded { home? := some "home" } none emptyHomeFiles = .ok { delimiter := '%' } ∧
    (([Bindings.ofList [("mode", "custom")]].foldl mergeVariables
      { delimiter := '%' }).validate = .ok ()) ∧
    ∃ e, loaded {} none blockedFiles = .error e ∧ Broken blockedFiles "confgen.yml" e := by
  have places : standardPaths {} =
      ["confgen.yaml"] ++ "confgen.yml" :: [".confgen.yaml", ".confgen.yml"] := rfl
  have homePlaces : standardPaths { home? := some "home" } =
      [] ++ "home/.confgen/config.yaml" ::
        ["confgen.yaml", "confgen.yml", ".confgen.yaml", ".confgen.yml"] := by
    decide +kernel
  have home : Chosen { home? := some "home" } homeFiles none (some "home/.confgen/config.yaml") :=
    .standard homePlaces nofun (by decide +kernel)
  have first : Chosen {} secondPlaceFiles none (some "confgen.yml") :=
    .standard places (by decide +kernel) (by decide +kernel)
  have morePlaces : standardPaths { home? := some "home" } =
      ["home/.confgen/config.yaml", "confgen.yaml"] ++ "confgen.yml" ::
        [".confgen.yaml", ".confgen.yml"] := homePlaces
  have second : Chosen { home? := some "home" } emptyHomeFiles none (some "confgen.yml") :=
    .standard morePlaces (by decide +kernel) (by decide +kernel)
  have blocked : Chosen {} blockedFiles none (some "confgen.yml") :=
    .standard places (by decide +kernel) (by decide +kernel)
  have inHome : loaded { home? := some "home" } none homeFiles = .ok { delimiter := '$' } := by
    obtain ⟨-, choice, hchoice, hok, -⟩ :=
      loaded_from_chosen_path { home? := some "home" } none homeFiles
    obtain rfl := (chosen?_of_chosen hchoice).symm.trans (chosen?_of_chosen home)
    exact (hok _).2 ⟨{ delimiter := '$' }, ⟨"delimiter: '$'\n".toUTF8, "delimiter: '$'\n", rfl,
      by decide +kernel, Except.eq_ok_of_toOption (by decide +kernel)⟩, rfl⟩
  refine ⟨inHome, ?_⟩
  obtain ⟨-, choice, hchoice, hok, -, -, hsame, hvalid⟩ :=
    loaded_from_chosen_path {} none secondPlaceFiles
  obtain rfl := (chosen?_of_chosen hchoice).symm.trans (chosen?_of_chosen first)
  have inSecond : loaded {} none secondPlaceFiles = .ok { delimiter := '%' } :=
    (hok _).2 ⟨{ delimiter := '%' }, ⟨"delimiter: '%'\n".toUTF8, "delimiter: '%'\n", rfl,
      by decide +kernel, Except.eq_ok_of_toOption (by decide +kernel)⟩, rfl⟩
  refine ⟨inSecond, ?_, hvalid _ inSecond _, ?_⟩
  · rw [hsame _ none emptyHomeFiles second _ (by decide)]
    · exact inSecond
    · rintro path h
      obtain rfl := Option.some.inj h
      rfl
  · obtain ⟨-, choice, hchoice, -, -, hfail, -⟩ := loaded_from_chosen_path {} none blockedFiles
    obtain rfl := (chosen?_of_chosen hchoice).symm.trans (chosen?_of_chosen blocked)
    have failed : loaded {} none blockedFiles = .error (.unreadable "confgen.yml" .isADirectory) :=
      rfl
    obtain ⟨path, hpath, hbroken⟩ := hfail _ failed
    obtain rfl := Option.some.inj hpath
    exact ⟨_, failed, hbroken⟩

end BuildHeader.Config
