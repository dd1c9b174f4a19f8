import BuildHeader.Script

set_option autoImplicit false

namespace Except

variable {ε ε' α β : Type}

theorem bind_eq_ok_iff {x : Except ε α} {f : α → Except ε β} {b : β} :
    x.bind f = .ok b ↔ ∃ a, x = .ok a ∧ f a = .ok b := by
  cases x <;> simp [Except.bind]

theorem bind_eq_error_iff {x : Except ε α} {f : α → Except ε β} {e : ε} :
    x.bind f = .error e ↔ x = .error e ∨ ∃ a, x = .ok a ∧ f a = .error e := by
  cases x <;> simp [Except.bind]

theorem exists_eq_ok_iff {x : Except ε α} : (∃ a, x = .ok a) ↔ ¬∃ e, x = .error e := by
  cases x <;> simp

theorem map_eq_ok_iff {x : Except ε α} {f : α → β} {b : β} :
    x.map f = .ok b ↔ ∃ a, x = .ok a ∧ f a = b := by
  cases x <;> simp [Except.map]

theorem map_eq_error_iff {x : Except ε α} {f : α → β} {e : ε} :
    x.map f = .error e ↔ x = .error e := by
  cases x <;> simp [Except.map]

@[simp] theorem mapError_ok (f : ε → ε') (a : α) : (ok a).mapError f = ok a := rfl

@[simp] theorem mapError_error (f : ε → ε') (e : ε) :
    (error e : Except ε α).mapError f = error (f e) := rfl

theorem mapError_eq_ok_iff {x : Except ε α} {f : ε → ε'} {a : α} :
    x.mapError f = .ok a ↔ x = .ok a := by
  cases x <;> simp

theorem mapError_eq_error_iff {x : Except ε α} {f : ε → ε'} {e : ε'} :
    x.mapError f = .error e ↔ ∃ cause, x = .error cause ∧ f cause = e := by
  cases x <;> simp

theorem eq_ok_of_toOption {x : Except ε α} {a : α} (h : x.toOption = some a) : x = .ok a := by
  cases x with
  | error e => cases h
  | ok b => exact congrArg Except.ok (Option.some.inj h)

end Except

namespace BuildHeader.Script

variable {ε ε' α β : Type}

def Transcript.quiet (t : Transcript ε α) : Transcript ε α := { t with events := [] }

def quietOn (files : File.Tree) (s : Script ε α) : Transcript ε α := (s.actOn files).quiet

theorem quiet_andThen (t : Transcript ε α) (next : α → File.Tree → Transcript ε β) :
    (t.andThen next).quiet = t.quiet.andThen fun result files => (next result files).quiet := by
  obtain ⟨result, files, events, lines⟩ := t
  cases result <;> rfl

@[simp] theorem quietOn_pure (result : α) (files : File.Tree) :
    (pure result : Script ε α).quietOn files = ⟨.ok result, files, [], []⟩ := rfl

@[simp] theorem quietOn_stop (failure : ε) (files : File.Tree) :
    (stop failure : Script ε α).quietOn files = ⟨.error failure, files, [], []⟩ := rfl

@[simp] theorem quietOn_bind (s : Script ε α) (f : α → Script ε β) (files : File.Tree) :
    (s >>= f).quietOn files =
      (s.quietOn files).andThen fun result files' => (f result).quietOn files' := by
  rw [quietOn, actOn_bind, quiet_andThen]
  rfl

@[simp] theorem quietOn_ofExcept (result : Except ε α) (files : File.Tree) :
    (ofExcept result).quietOn files = ⟨result, files, [], []⟩ := by
  cases result <;> rfl

@[simp] theorem quietOn_note (source : Log.Source) (level : Log.Level) (text : String)
    (files : File.Tree) :
    (note source level text : Script ε Unit).quietOn files = ⟨.ok (), files, [], []⟩ := rfl

@[simp] theorem quietOn_say (line : String) (files : File.Tree) :
    (say line : Script ε Unit).quietOn files = ⟨.ok (), files, [], [line]⟩ := rfl

@[simp] theorem quietOn_askIsThere (path : String) (files : File.Tree) :
    (askIsThere path : Script ε Bool).quietOn files = ⟨.ok (files.isThere path), files, [], []⟩ :=
  rfl

@[simp] theorem quietOn_askRead (path : String) (files : File.Tree) :
    (askRead path : Script ε _).quietOn files = ⟨.ok (files.read path), files, [], []⟩ := rfl

@[simp] theorem quietOn_askWrite (path : String) (content : ByteArray) (files : File.Tree) :
    (askWrite path content : Script ε _).quietOn files =
      match files.write path content with
      | .error fault => ⟨.ok (.error fault), files, [], []⟩
      | .ok files' => ⟨.ok (.ok ()), files', [], []⟩ := by
  cases h : files.write path content <;> simp [askWrite, quietOn, actOn, h, Transcript.quiet]

@[simp] theorem quietOn_map (f : α → β) (s : Script ε α) (files : File.Tree) :
    (f <$> s).quietOn files =
      ⟨(s.quietOn files).result.map f, (s.quietOn files).files, [], (s.quietOn files).lines⟩ := by
  rw [map_eq_pure_bind, quietOn_bind]
  cases h : s.quietOn files with
  | mk result files' events lines =>
    obtain rfl : [] = events := congrArg Transcript.events h
    cases result <;> simp [Transcript.andThen, Except.map]

@[simp] theorem quietOn_mapFailure (f : ε → ε') (s : Script ε α) (files : File.Tree) :
    (s.mapFailure f).quietOn files =
      ⟨(s.quietOn files).result.mapError f, (s.quietOn files).files, [],
        (s.quietOn files).lines⟩ := by
  induction s generalizing files with
  | done => rfl
  | stop => rfl
  | isThere path next ih => exact ih _ files
  | read path next ih => exact ih _ files
  | write path content next ih =>
    simp only [quietOn, mapFailure, actOn]
    split
    · exact ih _ files
    · rename_i files' _
      exact ih _ files'
  | log event next ih => exact ih files
  | print line next ih =>
    have h := ih files
    simp only [quietOn, Transcript.quiet, Transcript.mk.injEq] at h
    simp [quietOn, mapFailure, actOn, Transcript.quiet, h]

@[simp low] theorem andThen_lines (result : α) (files : File.Tree) (lines : List String)
    (next : α → File.Tree → Transcript ε β) :
    (⟨.ok result, files, [], lines⟩ : Transcript ε α).andThen next =
      ⟨(next result files).result, (next result files).files, (next result files).events,
        lines ++ (next result files).lines⟩ := rfl

@[simp] theorem andThen_ok (result : α) (files : File.Tree)
    (next : α → File.Tree → Transcript ε β) :
    (⟨.ok result, files, [], []⟩ : Transcript ε α).andThen next = next result files := rfl

@[simp] theorem andThen_error (failure : ε) (files : File.Tree) (events : List Log.Event)
    (lines : List String) (next : α → File.Tree → Transcript ε β) :
    (⟨.error failure, files, events, lines⟩ : Transcript ε α).andThen next =
      ⟨.error failure, files, events, lines⟩ := rfl

@[simp] theorem quietOn_forM_say (output : List String) (files : File.Tree) :
    (forM output say : Script ε PUnit).quietOn files = ⟨.ok ⟨⟩, files, [], output⟩ := by
  induction output with
  | nil => rfl
  | cons line rest ih => simp [List.forM_cons, ih]

end BuildHeader.Script
