import BuildHeader.Config
import BuildHeader.Proofs.CommandLine.Items
import BuildHeader.Proofs.Mapping

set_option autoImplicit false

namespace BuildHeader

namespace Bindings

theorem ofList_append (first second : List (String × String)) :
    ofList (first ++ second) = (ofList first).overlay (ofList second) := by
  refine ext_get? fun key => ?_
  rw [get?_overlay]
  simp only [ofList, get?_insertAll, List.reverse_append, List.lookup_append, Option.or_assoc]
  rw [show empty.get? key = none from rfl, Option.none_or]

theorem overlay_overlay (b first second : Bindings) :
    (b.overlay first).overlay second = b.overlay (first.overlay second) := by
  refine ext_get? fun key => ?_
  simp only [get?_overlay, Option.or_assoc]

end Bindings

theorem Config.mergeVariables_mergeVariables (config : Config) (first second : Bindings) :
    (config.mergeVariables first).mergeVariables second =
      config.mergeVariables (first.overlay second) := by
  simp only [mergeVariables, Bindings.overlay_overlay]

namespace CommandLine

def Assigns (item : String) : Prop := '=' ∈ item.toList ∧ item.toList.head? ≠ some '='

theorem assigns_iff (item : String) : Assigns item ↔ ∃ key value, Sets item key value := by
  constructor
  · rintro ⟨hmem, hhead⟩
    obtain ⟨key, value, hitem, hkey⟩ := List.eq_append_cons_of_mem hmem
    refine ⟨String.ofList key, String.ofList value, ?_, by simpa using hkey, ?_⟩
    · intro hempty
      obtain rfl : key = [] := by simpa using congrArg String.toList hempty
      simp [hitem] at hhead
    · apply String.toList_injective
      simp [hitem]
  · rintro ⟨key, value, hne, heq, rfl⟩
    refine ⟨by simp, ?_⟩
    cases hk : key.toList with
    | nil => exact absurd (String.toList_eq_nil_iff.1 hk) hne
    | cons c name =>
      have hc : c ≠ '=' := fun same => heq (by simp [hk, same])
      simp [hk, hc]

theorem malformed_iff (item : String) : Malformed item ↔ ¬Assigns item := by
  simp [Malformed, assigns_iff]

theorem splitItems_append (first second : List String) :
    splitItems (first ++ second) =
      (splitItems first).bind fun lower => (splitItems second).map (lower ++ ·) := by
  induction first with
  | nil => cases h : splitItems second <;> simp [splitItems, Except.bind, Except.map, h]
  | cons item rest ih =>
    cases hs : splitItem? item with
    | none => simp [splitItems, hs, Except.bind]
    | some pair =>
      simp only [List.cons_append, splitItems, hs, ih]
      cases splitItems rest with
      | error e => rfl
      | ok lower => cases splitItems second <;> rfl

theorem readVariables_append (first second : List String) :
    readVariables (first ++ second) =
      (readVariables first).bind fun lower => (readVariables second).map lower.overlay := by
  rw [readVariables, splitItems_append]
  unfold readVariables
  cases splitItems first with
  | error e => rfl
  | ok lower =>
    cases splitItems second with
    | error e => rfl
    | ok upper => exact congrArg Except.ok (Bindings.ofList_append lower upper)

theorem exists_readVariables_iff (items : List String) :
    (∃ vars, readVariables items = .ok vars) ↔ ∀ item ∈ items, Assigns item := by
  rw [Except.exists_eq_ok_iff, exists_readVariables_error_iff]
  simp [malformed_iff]

theorem exists_readVariables_append_iff (first second : List String) :
    (∃ vars, readVariables (first ++ second) = .ok vars) ↔
      (∃ vars, readVariables first = .ok vars) ∧ ∃ vars, readVariables second = .ok vars := by
  simp only [exists_readVariables_iff, List.forall_mem_append]

/--
A list of items is read just when every item has an equals sign behind a first character that is
none, and the first item without one is the error otherwise. A name then has the value that the
last item of that name gives it, all that stands behind the first equals sign. A list in two parts
is read just when both parts are, as the first part with the second one laid over it, and both can
be laid over a configuration at once or in turn.
-/
theorem items_are_read_in_layers :
    (∀ items, (∃ vars, readVariables items = .ok vars) ↔ ∀ item ∈ items, Assigns item) ∧
    (∀ items e, readVariables items = .error e ↔
      ∃ before after, items = before ++ e.item :: after ∧ (∀ item ∈ before, Assigns item) ∧
        ¬Assigns e.item) ∧
    (∀ items vars, readVariables items = .ok vars → ∀ key value,
      vars.get? key = some value ↔ SetsLast items key value) ∧
    (∀ first second, (∃ vars, readVariables (first ++ second) = .ok vars) ↔
      (∃ vars, readVariables first = .ok vars) ∧ ∃ vars, readVariables second = .ok vars) ∧
    ∀ first second lower upper, readVariables first = .ok lower → readVariables second = .ok upper →
      ∃ both, readVariables (first ++ second) = .ok both ∧ both = lower.overlay upper ∧
        (∀ key, both.get? key = (upper.get? key).or (lower.get? key)) ∧
        ∀ config : Config,
          (config.mergeVariables lower).mergeVariables upper = config.mergeVariables both := by
  refine ⟨exists_readVariables_iff, fun items e => ?_, fun items vars h => ?_,
    exists_readVariables_append_iff, fun first second lower upper hfirst hsecond => ?_⟩
  · simp only [readVariables_eq_error_iff, malformed_iff, Classical.not_not]
  · exact get?_readVariables_eq_some_iff h
  · have hboth : readVariables (first ++ second) = .ok (lower.overlay upper) := by
      rw [readVariables_append, hfirst, hsecond]
      rfl
    exact ⟨_, hboth, rfl, Bindings.get?_overlay lower upper, fun config =>
      config.mergeVariables_mergeVariables lower upper⟩

theorem items_of_one_name_in_layers :
    readVariables ["url=a?b=c", "vendor=x"] = .ok (.ofList [("url", "a?b=c"), ("vendor", "x")]) ∧
    readVariables ["vendor=y", "vendor="] = .ok (.ofList [("vendor", "")]) ∧
    ∃ both, readVariables (["url=a?b=c", "vendor=x"] ++ ["vendor=y", "vendor="]) = .ok both ∧
      both.get? "url" = some "a?b=c" ∧ both.get? "vendor" = some "" ∧
      SetsLast ["url=a?b=c", "vendor=x", "vendor=y", "vendor="] "vendor" "" := by
  have hlower : readVariables ["url=a?b=c", "vendor=x"] =
      .ok (.ofList [("url", "a?b=c"), ("vendor", "x")]) :=
    Except.eq_ok_of_toOption (by decide +kernel)
  have hupper : readVariables ["vendor=y", "vendor="] = .ok (.ofList [("vendor", "")]) :=
    Except.eq_ok_of_toOption (by decide +kernel)
  obtain ⟨-, -, values, -, layers⟩ := items_are_read_in_layers
  obtain ⟨both, hboth, -, hget, -⟩ := layers _ _ _ _ hlower hupper
  have hvendor : both.get? "vendor" = some "" := by
    rw [hget]
    decide +kernel
  refine ⟨hlower, hupper, both, hboth, ?_, hvendor, (values _ _ hboth _ _).1 hvendor⟩
  rw [hget]
  decide +kernel

/-- An equals sign further on does not help an item that begins with one. -/
theorem item_without_name_is_refused :
    (∀ item ∈ ["=a=b"], ∃ i, 0 < i ∧ item.toList[i]? = some '=') ∧
      readVariables ["=a=b"] = .error ⟨"=a=b"⟩ := by
  refine ⟨fun item hm => ⟨2, by decide, ?_⟩, by rfl⟩
  obtain rfl := List.mem_singleton.1 hm
  decide

end CommandLine

end BuildHeader
