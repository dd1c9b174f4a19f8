set_option autoImplicit false

namespace BuildHeader

theorem eraseDups_filter (p : String → Bool) (names : List String) :
    (names.filter p).eraseDups = names.eraseDups.filter p := by
  cases names with
  | nil => rfl
  | cons name names =>
    have ih := eraseDups_filter p (names.filter fun other => !other == name)
    rw [List.eraseDups_cons]
    cases hp : p name with
    | true =>
      rw [List.filter_cons_of_pos hp, List.filter_cons_of_pos hp, List.eraseDups_cons, ← ih]
      simp [List.filter_filter, Bool.and_comm]
    | false =>
      have hsame : (names.filter fun other => !other == name).filter p = names.filter p := by
        rw [List.filter_filter]
        refine List.filter_congr fun other _ => ?_
        by_cases h : other = name
        · simp [h, hp]
        · simp [h]
      rw [List.filter_cons_of_neg (by simp [hp]), List.filter_cons_of_neg (by simp [hp]), ← ih,
        hsame]
termination_by names.length
decreasing_by
  have h := List.length_filter_le (fun other => !other == name) names
  simp only [List.length_cons]
  omega

theorem eraseDups_of_nodup {names : List String} (h : names.Nodup) : names.eraseDups = names := by
  induction names with
  | nil => rfl
  | cons name names ih =>
    obtain ⟨hname, hrest⟩ := List.nodup_cons.1 h
    have hkeep : names.filter (fun other => !other == name) = names :=
      List.filter_eq_self.2 fun other hm => by simpa using ne_of_mem_of_not_mem hm hname
    rw [List.eraseDups_cons, hkeep, ih hrest]

theorem eraseDups_append_filter (first second : List String) :
    (first ++ second).eraseDups =
      first.eraseDups ++ second.eraseDups.filter fun name => !first.eraseDups.contains name := by
  rw [List.eraseDups_append, List.removeAll, eraseDups_filter]
  congr 2
  funext name
  simp

def addNew (names : List String) (name : String) : List String :=
  if names.contains name then names else names ++ [name]

theorem addNew_eraseDups (names : List String) (name : String) :
    addNew names.eraseDups name = (names ++ [name]).eraseDups := by
  rw [eraseDups_append_filter, addNew]
  by_cases h : name ∈ names <;> simp [List.eraseDups_cons, h]

/-- Members that are added one by one are those of the whole without its repetitions. -/
theorem foldl_addNew (names more : List String) :
    more.foldl addNew names.eraseDups = (names ++ more).eraseDups := by
  induction more generalizing names with
  | nil => simp
  | cons name more ih => rw [List.foldl_cons, addNew_eraseDups, ih, List.append_assoc]; rfl

theorem pairwise_eraseDups_map {α : Type} (f : α → String) {before : α → α → Prop} {all : List α}
    (h : all.Pairwise before) :
    (all.map f).eraseDups.Pairwise fun first second =>
      ∃ x ∈ all, f x = first ∧ ∀ y ∈ all, f y = second → before x y := by
  -- The first member stands before all others that are kept, since its own repetitions are not.
  induction all with
  | nil => simp
  | cons x rest ih =>
    obtain ⟨hx, hrest⟩ := List.pairwise_cons.1 h
    have hothers : ∀ name ∈ (rest.map f).eraseDups.filter (fun name => !name == f x),
        name ≠ f x := fun name hm => by simpa using (List.mem_filter.1 hm).2
    rw [List.map_cons, List.eraseDups_cons, eraseDups_filter]
    refine List.pairwise_cons.2 ⟨fun second hs => ?_, ((ih hrest).filter _).imp_of_mem ?_⟩
    · refine ⟨x, List.mem_cons_self, rfl, fun y hy same => ?_⟩
      rcases List.mem_cons.1 hy with rfl | hy
      · exact absurd same.symm (hothers second hs)
      · exact hx y hy
    · rintro first second _ hs ⟨z, hz, hfirst, hlater⟩
      refine ⟨z, List.mem_cons_of_mem x hz, hfirst, fun y hy same => ?_⟩
      rcases List.mem_cons.1 hy with rfl | hy
      · exact absurd same.symm (hothers second hs)
      · exact hlater y hy same

end BuildHeader
