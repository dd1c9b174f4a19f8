import BuildHeader.Log.Filter

set_option autoImplicit false

namespace BuildHeader.Log

structure IsLevel (word : String) (threshold : Threshold) : Prop where
  plain : ∀ c ∈ word.toList, c.isAlphanum = true
  level : threshold? word.toList = some threshold

section Words

theorem ascii_of_isAlphanum {c : Char} (h : c.isAlphanum = true) :
    48 ≤ c.toNat ∧ c.toNat ≤ 122 := by
  rcases Bool.or_eq_true_iff.1 h with letter | digit
  · rcases Bool.or_eq_true_iff.1 letter with upper | lower
    · obtain ⟨low, high⟩ := of_decide_eq_true upper
      have hlow : 65 ≤ c.toNat := low
      have hhigh : c.toNat ≤ 90 := high
      omega
    · obtain ⟨low, high⟩ := Bool.and_eq_true_iff.1 lower
      have hlow : 97 ≤ c.toNat := of_decide_eq_true low
      have hhigh : c.toNat ≤ 122 := of_decide_eq_true high
      omega
  · obtain ⟨low, high⟩ := Bool.and_eq_true_iff.1 digit
    have hlow : 48 ≤ c.toNat := of_decide_eq_true low
    have hhigh : c.toNat ≤ 57 := of_decide_eq_true high
    omega

theorem isWhitespace_of_isAlphanum {c : Char} (h : c.isAlphanum = true) :
    Text.isWhitespace c = false := by
  obtain ⟨low, high⟩ := ascii_of_isAlphanum h
  simp [Text.isWhitespace, Text.Ranges.holds, Text.whitespaceRanges]
  omega

theorem trim_of_isAlphanum {word : List Char} (h : ∀ c ∈ word, c.isAlphanum = true) :
    Text.trim word = word := by
  have hdrop : ∀ l : List Char, (∀ c ∈ l, c.isAlphanum = true) →
      l.dropWhile Text.isWhitespace = l := by
    intro l hl
    cases l with
    | nil => rfl
    | cons c rest =>
      simp [isWhitespace_of_isAlphanum (hl c List.mem_cons_self)]
  have hreverse : ∀ c ∈ word.reverse, c.isAlphanum = true :=
    fun c hc => h c (List.mem_reverse.1 hc)
  rw [Text.trim, hdrop word h, hdrop _ hreverse, List.reverse_reverse]

end Words

namespace IsLevel

variable {word : String} {threshold : Threshold} (h : IsLevel word threshold)
include h

theorem ne_of_mem {c mark : Char} (hc : c ∈ word.toList) (hmark : mark.isAlphanum = false) :
    c ≠ mark := by
  rintro rfl
  simp [h.plain c hc] at hmark

theorem word_ne_nil : word.toList ≠ [] := by
  intro hnil
  have hlevel := h.level
  simp [hnil, threshold?, Text.natural?, Text.unsigned] at hlevel

theorem directive : Directive.ofText word = .ok { threshold } := by
  obtain ⟨first, rest, hword⟩ := List.exists_cons_of_ne_nil h.word_ne_nil
  have hplain := h.plain
  -- stays in the context, where simp needs it to leave the branch of the bracket
  have hfirst : first ≠ '[' := h.ne_of_mem (by simp [hword]) (by decide)
  have hstart : Directive.startsWord first = true := by
    simp [Directive.startsWord, Text.isAlphanumeric_of_ascii (hplain first (by simp [hword]))]
  have hrest : rest.takeWhile (fun c => c != '=' && c != '[') = rest := by
    have hall : ∀ c ∈ rest, (c != '=' && c != '[') = true := by
      intro c hc
      have hmem : c ∈ word.toList := by simp [hword, hc]
      simp [h.ne_of_mem hmem (by decide : '='.isAlphanum = false),
        h.ne_of_mem hmem (by decide : '['.isAlphanum = false)]
    simpa using @List.takeWhile_append_of_pos _ _ rest [] hall
  have hofWord : Directive.ofWord word.toList = { threshold } := by
    simp [Directive.ofWord, h.level]
  rw [← hofWord]
  unfold Directive.ofText
  rw [trim_of_isAlphanum h.plain, hword]
  simp [hstart, hrest]

theorem reading : FilterReading.ofText word = { filter := .upTo threshold } := by
  have hcomma : ',' ∉ word.toList := fun hc => h.ne_of_mem hc (by decide) rfl
  have hne : word ≠ "" := fun hempty => h.word_ne_nil (by simp [hempty])
  simp [FilterReading.ofText, gather, List.splitOn_eq_singleton hcomma, hne, h.directive,
    Filter.ofDirectives, Filter.upTo]

end IsLevel

/-- The settings that differ in nothing but a level show the same lines, but fewer of them. -/
theorem lines_sublist_of_le {first second : Threshold} (h : first ≤ second) (colored : Bool)
    (time : String) (events : List Event) :
    (Settings.lines ⟨colored, { filter := .upTo first }⟩ time events).Sublist
      (Settings.lines ⟨colored, { filter := .upTo second }⟩ time events) := by
  have hfilter : events.filter (Filter.upTo first).shows =
      (events.filter (Filter.upTo second).shows).filter (Filter.upTo first).shows := by
    rw [List.filter_filter]
    refine congrArg (events.filter ·) (funext fun event => ?_)
    simp only [Filter.shows_upTo]
    by_cases hf : event.level.rank ≤ first
    · simp [hf, Nat.le_trans hf h]
    · simp [hf]
  show ((events.filter (Filter.upTo first).shows).map _).Sublist
    ((events.filter (Filter.upTo second).shows).map _)
  rw [hfilter]
  exact List.filter_sublist.map _

end BuildHeader.Log
