import BuildHeader.Build.Options
import BuildHeader.Proofs.Mapping
import BuildHeader.Proofs.Mapping.History
import BuildHeader.Proofs.Script
import BuildHeader.Text.Basic

set_option autoImplicit false

namespace BuildHeader.Options

/-- The built-in value of a name; `some none` is a name that waits for a value. -/
def builtin? (o : Options) (version : Version) (host : Host) (key : String) :
    Option (Option String) :=
  match key with
  | "version" => some (some o.version)
  | "version_major" => some (some (Version.numberText version.major))
  | "version_minor" => some (some (Version.numberText version.minor))
  | "version_alter" => some (some (Version.numberText version.alter))
  | "version_build" => some (some o.buildVersion)
  | "build_time" => some o.buildTime
  | "mode" => some (some (if o.debug then "debug" else "release"))
  | "debug" => some (some (if o.debug then "1" else "0"))
  | "author" => o.author.map some
  | "aru_athor" => o.author.map some
  | "plat" => some (some host.machine.plat)
  | "arch" => some (some host.machine.arch)
  | "plat_version" => some (some host.machine.platVersion)
  | "processor" => some (some host.machine.processor)
  | "os" => some (some host.machine.os)
  | "release_user" => some (some host.releaseUser)
  | "host" => some (some host.machine.host)
  | "compiler" => some o.compiler
  | _ => none

theorem nodup_keys_builtins (o : Options) (version : Version) (host : Host) :
    (Entries.keys (o.builtins version host)).Nodup := by
  cases h : o.author <;>
    simp [builtins, authorEntries, h, Entries.keys, Host.entries]

theorem lookup_builtins (o : Options) (version : Version) (host : Host) (key : String) :
    (o.builtins version host).lookup key = o.builtin? version host key := by
  unfold builtin?
  split
  case h_19 =>
    rw [List.lookup_eq_none_iff]
    cases h : o.author <;> simp [builtins, authorEntries, Host.entries, h] <;> and_intros <;>
      assumption
  all_goals
    cases h : o.author <;> simp [builtins, authorEntries, Host.entries, List.lookup_cons, h]

theorem isIdentifier_of_builtin? {o : Options} {version : Version} {host : Host} {key : String}
    {value : Option String} (h : o.builtin? version host key = some value) :
    Text.isIdentifier key.toList = true := by
  unfold builtin? at h
  split at h
  case h_19 => cases h
  all_goals exact Text.isIdentifier_of_ascii (by decide) (by decide +kernel)

theorem builtin?_eq_unset_iff (o : Options) (version : Version) (host : Host) (key : String) :
    o.builtin? version host key = some none ↔
      key = "build_time" ∧ o.buildTime = none ∨ key = "compiler" ∧ o.compiler = none := by
  unfold builtin?
  split
  case h_19 =>
    constructor
    · intro h
      cases h
    · rintro (⟨rfl, _⟩ | ⟨rfl, _⟩) <;> contradiction
  all_goals simp

section Read

variable {o : Options} {version : Version} (hv : Version.ofText o.version = .ok version)
include hv

theorem toMapping_of_version (host : Host) : o.toMapping host =
    .ok ((Mapping.ofList (o.builtins version host)).extend o.extraVars) :=
  Except.map_eq_ok_iff.2 ⟨version, hv, rfl⟩

theorem exists_toMapping (host : Host) : ∃ vars, o.toMapping host = .ok vars :=
  ⟨_, toMapping_of_version hv host⟩

variable {host : Host} {vars : Mapping}

theorem get?_of_version (h : o.toMapping host = .ok vars) (key : String) :
    vars.get? key = ((o.extraVars.get? key).map some).or (o.builtin? version host key) := by
  obtain rfl := Except.ok.inj ((toMapping_of_version hv host).symm.trans h)
  rw [Mapping.get?_extend, Mapping.get?_ofList (nodup_keys_builtins o version host),
    lookup_builtins]

theorem entries_toMapping (he : o.extraVars = .empty) (h : o.toMapping host = .ok vars) :
    vars.entries = o.builtins version host := by
  obtain rfl := Except.ok.inj ((toMapping_of_version hv host).symm.trans h)
  rw [he]
  exact Mapping.entries_ofList (nodup_keys_builtins o version host)

end Read

theorem get?_toMapping {o : Options} {host : Host} {vars : Mapping}
    (h : o.toMapping host = .ok vars) :
    ∃ version, Version.ofText o.version = .ok version ∧ ∀ key,
      vars.get? key = ((o.extraVars.get? key).map some).or (o.builtin? version host key) := by
  obtain ⟨version, hv, _⟩ := Except.map_eq_ok_iff.1 h
  exact ⟨version, hv, get?_of_version hv h⟩

theorem toMapping_eq_error_iff {o : Options} {host : Host} {e : BuildError} :
    o.toMapping host = .error e ↔
      ∃ fault, Version.parse o.version = .error fault ∧
        .invalidVersion o.version fault.reason = e := by
  rw [toMapping, Except.map_eq_error_iff, Version.ofText, Except.mapError_eq_error_iff]

section Assembled

variable {o : Options} {host : Host} {vars : Mapping} (h : o.toMapping host = .ok vars)
include h

theorem get?_eq_unset_iff (key : String) :
    vars.get? key = some none ↔ o.extraVars.get? key = none ∧
      (key = "build_time" ∧ o.buildTime = none ∨ key = "compiler" ∧ o.compiler = none) := by
  obtain ⟨version, _, hget⟩ := get?_toMapping h
  rw [hget, ← builtin?_eq_unset_iff o version host key]
  cases o.extraVars.get? key <;> simp

/-- Build time and compiler are all that has to be supplied, as options or as extra variables. -/
theorem all_set_iff :
    (∀ entry ∈ vars.entries, entry.2.isSome = true) ↔
      (o.buildTime.isSome ∨ (o.extraVars.get? "build_time").isSome) ∧
      (o.compiler.isSome ∨ (o.extraVars.get? "compiler").isSome) := by
  rw [vars.all_isSome_iff]
  simp only [ne_eq, get?_eq_unset_iff h]
  constructor
  · intro hall
    have htime : ¬(o.extraVars.get? "build_time" = none ∧ o.buildTime = none) := fun hnone =>
      hall "build_time" ⟨hnone.1, .inl ⟨rfl, hnone.2⟩⟩
    have hcompiler : ¬(o.extraVars.get? "compiler" = none ∧ o.compiler = none) := fun hnone =>
      hall "compiler" ⟨hnone.1, .inr ⟨rfl, hnone.2⟩⟩
    simp only [Option.isSome_iff_ne_none]
    exact ⟨(Classical.not_and_iff_not_or_not.1 htime).symm,
      (Classical.not_and_iff_not_or_not.1 hcompiler).symm⟩
  · rintro ⟨htime, hcompiler⟩ key ⟨hextra, ⟨rfl, hnone⟩ | ⟨rfl, hnone⟩⟩
    · simp [hextra, hnone] at htime
    · simp [hextra, hnone] at hcompiler

end Assembled

end BuildHeader.Options

namespace BuildHeader

open Entries (keys)

namespace Options

def builtinNames (o : Options) : List String :=
  ["version", "version_major", "version_minor", "version_alter", "version_build", "build_time",
    "mode", "debug"] ++
  (if o.author.isSome then ["author", "aru_athor"] else []) ++
  ["plat", "arch", "plat_version", "processor", "os", "release_user", "host", "compiler"]

def newNames (o : Options) : List String :=
  (keys o.extraVars.entries).filter fun name => !o.builtinNames.contains name

theorem keys_builtins (o : Options) (version : Version) (host : Host) :
    keys (o.builtins version host) = o.builtinNames := by
  cases h : o.author <;> simp [builtins, builtinNames, authorEntries, Host.entries, keys, h]

theorem mem_newNames_iff (o : Options) (name : String) :
    name ∈ o.newNames ↔ name ∉ o.builtinNames ∧ (o.extraVars.get? name).isSome = true := by
  simp [newNames, Entries.mem_keys_iff, Bindings.get?, and_comm]

theorem ascending_newNames (o : Options) : o.newNames.Pairwise (· < ·) := by
  have hall : (keys o.extraVars.entries).Pairwise (· < ·) :=
    List.pairwise_map.2 o.extraVars.ascending
  exact hall.sublist List.filter_sublist

theorem keys_toMapping {o : Options} {host : Host} {vars : Mapping}
    (h : o.toMapping host = .ok vars) : keys vars.entries = o.builtinNames ++ o.newNames := by
  obtain ⟨version, _, rfl⟩ := Except.map_eq_ok_iff.1 h
  rw [Mapping.keys_extend, Mapping.entries_ofList (nodup_keys_builtins o version host),
    keys_builtins, newNames]

/--
A build has variables just when its version can be read. They are the built-in ones in their order
and then the other extra variables in theirs, every name once. An extra variable decides about the
value of its name, wherever the name stands, and only build time and compiler can lack a value.
-/
theorem variables_of_a_build (o : Options) (host : Host) :
    (∀ e, o.toMapping host = .error e ↔ Version.ofText o.version = .error e) ∧
    ∀ version, Version.ofText o.version = .ok version → ∃ vars, o.toMapping host = .ok vars ∧
      keys vars.entries = o.builtinNames ++ o.newNames ∧
      (∀ name, name ∈ o.newNames ↔
        name ∉ o.builtinNames ∧ (o.extraVars.get? name).isSome = true) ∧
      o.newNames.Pairwise (· < ·) ∧
      (∀ row, o.extraVars.ListedBy row →
        (Mapping.ofList (o.builtins version host)).layer row = vars) ∧
      (∀ key, vars.get? key =
        ((o.extraVars.get? key).map some).or (o.builtin? version host key)) ∧
      (∀ key, vars.get? key = some none ↔ o.extraVars.get? key = none ∧
        (key = "build_time" ∧ o.buildTime = none ∨ key = "compiler" ∧ o.compiler = none)) ∧
      (∀ name ∈ o.builtinNames, (keys vars.entries).idxOf name = o.builtinNames.idxOf name) ∧
      (keys vars.entries).Nodup ∧
      vars.size = o.builtinNames.length + o.newNames.length := by
  refine ⟨fun e => Except.map_eq_error_iff, fun version hv => ?_⟩
  have h := toMapping_of_version hv host
  have hkeys := keys_toMapping h
  refine ⟨_, h, hkeys, mem_newNames_iff o, ascending_newNames o,
    fun row hrow => Mapping.layer_eq_extend _ hrow, get?_of_version hv h,
    get?_eq_unset_iff h, fun name hm => ?_, Mapping.distinct _, ?_⟩
  · rw [hkeys, List.idxOf_append, if_pos hm]
  · have hlength := congrArg List.length hkeys
    simpa [keys, Mapping.size] using hlength

def ciHost : Host := ⟨⟨"linux", "x86_64", "6.1", "cpu", "Linux", "ci"⟩, "builder"⟩

/-- Two built-in names are taken over, and `author` is a new name where no author is given. -/
def overridden : Options where
  version := "1.02.3"
  extraVars := .ofList [("vendor", "acme"), ("plat", "x"), ("mode", ""), ("author", "me")]

theorem variables_of_an_overridden_build :
    Version.ofText overridden.version = .ok ⟨1, 2, 3⟩ ∧
      ∃ vars, overridden.toMapping ciHost = .ok vars ∧
        keys vars.entries = ["version", "version_major", "version_minor", "version_alter",
          "version_build", "build_time", "mode", "debug", "plat", "arch", "plat_version",
          "processor", "os", "release_user", "host", "compiler", "author", "vendor"] ∧
        vars.get? "mode" = some (some "") ∧ vars.get? "version_minor" = some (some "2") ∧
        vars.get? "compiler" = some none := by
  have hv : Version.ofText overridden.version = .ok ⟨1, 2, 3⟩ := rfl
  obtain ⟨vars, h, hkeys, _, _, _, hget, hunset, _⟩ :=
    (variables_of_a_build overridden ciHost).2 _ hv
  refine ⟨hv, vars, h, hkeys.trans (by decide), ?_, ?_, (hunset _).2 (by decide)⟩
  · rw [hget]
    decide
  · rw [hget]
    decide

end Options

end BuildHeader
