/-!
# Reading text from left to right

A scan takes a value off the front of a text or stops with a fault. Whatever it leaves is an end of
the text it was given, so a loop whose body always takes something comes to an end: `Scan.iterate`
is the only loop that readers need.
-/

namespace TypeProfile

/-- A value read off the front of a text, with the rest of the text, or a fault. -/
structure Scan (ε α : Type) where
  run : List Char → Except ε (α × List Char)
  suffix : ∀ {text value rest}, run text = .ok (value, rest) → rest <:+ text

namespace Scan

variable {ε α β σ : Type}

/-- A scan that never succeeds without taking at least one character. -/
def Progresses (scan : Scan ε α) : Prop :=
  ∀ ⦃text value rest⦄, scan.run text = .ok (value, rest) → rest.length < text.length

instance : Monad (Scan ε) where
  pure value :=
    { run text := .ok (value, text)
      suffix := by
        rintro text value rest ⟨⟩
        exact List.suffix_refl _ }
  bind scan next :=
    { run text :=
        match scan.run text with
        | .ok (value, rest) => (next value).run rest
        | .error fault => .error fault
      suffix := by
        intro text value rest ran
        split at ran
        next first middle taken => exact ((next first).suffix ran).trans (scan.suffix taken)
        next => cases ran }

@[simp] theorem run_pure (value : α) (text : List Char) :
    (pure value : Scan ε α).run text = .ok (value, text) := rfl

theorem run_bind (scan : Scan ε α) (next : α → Scan ε β) (text : List Char) :
    (scan >>= next).run text =
      match scan.run text with
      | .ok (value, rest) => (next value).run rest
      | .error fault => .error fault := rfl

theorem run_bind_of_ok {scan : Scan ε α} {next : α → Scan ε β} {text rest : List Char} {value : α}
    (taken : scan.run text = .ok (value, rest)) :
    (scan >>= next).run text = (next value).run rest := by
  rw [run_bind, taken]

theorem run_bind_of_error {scan : Scan ε α} {next : α → Scan ε β} {text : List Char} {fault : ε}
    (stopped : scan.run text = .error fault) : (scan >>= next).run text = .error fault := by
  rw [run_bind, stopped]

theorem run_map_of_ok {scan : Scan ε α} {text rest : List Char} {value : α} (f : α → β)
    (taken : scan.run text = .ok (value, rest)) : (f <$> scan).run text = .ok (f value, rest) :=
  run_bind_of_ok taken

theorem run_map_of_error {scan : Scan ε α} {text : List Char} {fault : ε} (f : α → β)
    (stopped : scan.run text = .error fault) : (f <$> scan).run text = .error fault :=
  run_bind_of_error stopped

/-- A sequence takes something if its first part does. -/
theorem Progresses.bind {scan : Scan ε α} (progresses : scan.Progresses) (next : α → Scan ε β) :
    (scan >>= next).Progresses := by
  intro text value rest ran
  rw [run_bind] at ran
  split at ran
  next first middle taken =>
    exact Nat.lt_of_le_of_lt ((next first).suffix ran).length_le (progresses taken)
  next => cases ran

/-- A sequence takes something if its second part always does. -/
theorem Progresses.bind_right {scan : Scan ε α} {next : α → Scan ε β}
    (progresses : ∀ value, (next value).Progresses) : (scan >>= next).Progresses := by
  intro text value rest ran
  rw [run_bind] at ran
  split at ran
  next first middle taken =>
    exact Nat.lt_of_lt_of_le (progresses first ran) (scan.suffix taken).length_le
  next => cases ran

/-- Stop with a fault. -/
def fail (fault : ε) : Scan ε α where
  run _ := .error fault
  suffix := by rintro _ _ _ ⟨⟩

@[simp] theorem run_fail (fault : ε) (text : List Char) :
    (fail fault : Scan ε α).run text = .error fault := rfl

theorem fail_progresses (fault : ε) : (fail fault : Scan ε α).Progresses := by
  rintro _ _ _ ⟨⟩

/-- The value, or its fault, without taking anything. -/
def ofExcept (outcome : Except ε α) : Scan ε α where
  run text := outcome.map fun value => (value, text)
  suffix := by
    intro text value rest ran
    cases outcome with
    | error => cases ran
    | ok => cases ran; exact List.suffix_refl _

@[simp] theorem run_ofExcept (outcome : Except ε α) (text : List Char) :
    (ofExcept outcome).run text = outcome.map fun value => (value, text) := rfl

/-- The value, or a fault in its place, without taking anything. -/
def ofOption (fault : ε) : Option α → Scan ε α
  | some value => pure value
  | none => fail fault

/-- All that is left of the text, without taking it. -/
def remaining : Scan ε (List Char) where
  run text := .ok (text, text)
  suffix := by
    rintro text value rest ⟨⟩
    exact List.suffix_refl _

@[simp] theorem run_remaining (text : List Char) :
    (remaining : Scan ε (List Char)).run text = .ok (text, text) := rfl

/-- The next character. -/
def next (fault : ε) : Scan ε Char where
  run
    | [] => .error fault
    | c :: rest => .ok (c, rest)
  suffix := by
    intro text value rest ran
    cases text with
    | nil => cases ran
    | cons c text => cases ran; exact List.suffix_cons _ _

@[simp] theorem run_next_cons (fault : ε) (c : Char) (text : List Char) :
    (next fault).run (c :: text) = .ok (c, text) := rfl

theorem next_progresses (fault : ε) : (next fault).Progresses := by
  intro text value rest ran
  cases text with
  | nil => cases ran
  | cons c text => cases ran; exact Nat.lt_succ_self _

/-- The next character, or that there is none. -/
def next? : Scan ε (Option Char) where
  run
    | [] => .ok (none, [])
    | c :: rest => .ok (some c, rest)
  suffix := by
    intro text value rest ran
    cases text with
    | nil => cases ran; exact List.suffix_refl _
    | cons c text => cases ran; exact List.suffix_cons _ _

/-- The longest run of characters that all pass the test. -/
def span (test : Char → Bool) : Scan ε (List Char) where
  run text := .ok (text.takeWhile test, text.dropWhile test)
  suffix := by
    rintro text value rest ⟨⟩
    exact List.dropWhile_suffix _

@[simp] theorem run_span (test : Char → Bool) (text : List Char) :
    (span test : Scan ε (List Char)).run text =
      .ok (text.takeWhile test, text.dropWhile test) := rfl

theorem run_span_append {test : Char → Bool} {run rest : List Char} (passes : ∀ c ∈ run, test c)
    (stops : ∀ c, rest.head? = some c → test c = false) :
    (span test : Scan ε (List Char)).run (run ++ rest) = .ok (run, rest) := by
  rw [run_span, List.takeWhile_append_of_pos passes, List.dropWhile_append_of_pos passes]
  cases rest with
  | nil => simp
  | cons c rest => simp [stops c rfl]

/-- The longest run of characters that all pass the test, of which there has to be one. -/
def spanSome (fault : ε) (test : Char → Bool) : Scan ε (List Char) := do
  let run ← span test
  if run.isEmpty then fail fault else pure run

theorem run_spanSome_append {fault : ε} {test : Char → Bool} {run rest : List Char}
    (nonempty : run ≠ []) (passes : ∀ c ∈ run, test c)
    (stops : ∀ c, rest.head? = some c → test c = false) :
    (spanSome fault test).run (run ++ rest) = .ok (run, rest) := by
  rw [spanSome, run_bind_of_ok (run_span_append passes stops)]
  simp [nonempty]

theorem spanSome_progresses (fault : ε) (test : Char → Bool) :
    (spanSome fault test).Progresses := by
  intro text value rest ran
  simp only [spanSome, span, run_bind] at ran
  cases text with
  | nil => simp at ran
  | cons c text =>
      cases passes : test c with
      | false => simp [passes] at ran
      | true =>
          simp only [List.takeWhile_cons, List.dropWhile_cons, passes, ↓reduceIte,
            List.isEmpty_cons, Bool.false_eq_true, run_pure, Except.ok.injEq, Prod.mk.injEq] at ran
          rw [← ran.2]
          exact Nat.lt_succ_of_le (List.dropWhile_suffix _).length_le

/-- Takes a word if it comes next, and says whether it did. -/
def accept (word : List Char) : Scan ε Bool where
  run text := if word.isPrefixOf text then .ok (true, text.drop word.length) else .ok (false, text)
  suffix := by
    intro text value rest ran
    split at ran
    · cases ran; exact List.drop_suffix _ _
    · cases ran; exact List.suffix_refl _

theorem run_accept_append (word text : List Char) :
    (accept word : Scan ε Bool).run (word ++ text) = .ok (true, text) := by
  simp [accept]

theorem run_accept_of_head? {c : Char} {word text : List Char} (differs : text.head? ≠ some c) :
    (accept (c :: word) : Scan ε Bool).run text = .ok (false, text) := by
  cases text with
  | nil => rfl
  | cons first text =>
      have other : ¬c = first := fun same => differs (congrArg some same.symm)
      simp [accept, other]

theorem accept_true_shortens {word text rest : List Char} (nonempty : word ≠ [])
    (taken : (accept word : Scan ε Bool).run text = .ok (true, rest)) :
    rest.length < text.length := by
  simp only [accept] at taken
  split at taken
  next found =>
    cases taken
    have fits := (List.isPrefixOf_iff_prefix.mp found).length_le
    have := List.length_pos_iff.mpr nonempty
    simp only [List.length_drop]
    omega
  next => cases taken

/-- The characters that a scan takes, in place of its value. -/
def taken (scan : Scan ε α) : Scan ε (List Char) where
  run text := (scan.run text).map fun result =>
    (text.take (text.length - result.2.length), result.2)
  suffix := by
    intro text value rest ran
    cases result : scan.run text with
    | error => simp [result, Except.map] at ran
    | ok result' =>
        simp only [result, Except.map, Except.ok.injEq, Prod.mk.injEq] at ran
        rw [← ran.2]
        exact scan.suffix result

/-- The first of two scans that succeeds, both at the same place. -/
def either (first second : Scan ε α) : Scan ε α where
  run text :=
    match first.run text with
    | .ok taken => .ok taken
    | .error _ => second.run text
  suffix := by
    intro text value rest ran
    split at ran
    next taken => cases ran; exact first.suffix taken
    next => exact second.suffix ran

/-- A scan if it succeeds, and nothing taken if it does not. -/
def optional (scan : Scan ε α) : Scan ε (Option α) :=
  either (some <$> scan) (pure none)

/-- A step that takes at least one character whenever it asks for another round. -/
def Advances (step : Scan ε (σ ⊕ β)) : Prop :=
  ∀ ⦃text state rest⦄, step.run text = .ok (.inl state, rest) → rest.length < text.length

theorem Progresses.advances {step : Scan ε (σ ⊕ β)} (progresses : step.Progresses) :
    step.Advances :=
  fun _ _ _ ran => progresses ran

theorem advances_pure_inr (result : β) : (pure (.inr result) : Scan ε (σ ⊕ β)).Advances := by
  rintro _ _ _ ⟨⟩

/-- A sequence advances if its second part always does. -/
theorem Advances.bind_right {scan : Scan ε α} {next : α → Scan ε (σ ⊕ β)}
    (advances : ∀ value, (next value).Advances) : (scan >>= next).Advances := by
  intro text state rest ran
  rw [run_bind] at ran
  split at ran
  next first middle taken =>
    exact Nat.lt_of_lt_of_le (advances first ran) (scan.suffix taken).length_le
  next => cases ran

/-- A choice on a word advances if it does so without the word. -/
theorem Advances.of_accept {word : List Char} (nonempty : word ≠ [])
    {next : Bool → Scan ε (σ ⊕ β)} (advances : (next false).Advances) :
    (accept word >>= next).Advances := by
  intro text state rest ran
  rw [run_bind] at ran
  split at ran
  next taken? middle taken =>
    cases taken? with
    | true =>
        exact Nat.lt_of_le_of_lt ((next true).suffix ran).length_le
          (accept_true_shortens nonempty taken)
    | false => exact Nat.lt_of_lt_of_le (advances ran) ((accept word).suffix taken).length_le
  next => cases ran

/-- A choice on the next character advances if it does so at the end of the text. -/
theorem Advances.of_next? {next : Option Char → Scan ε (σ ⊕ β)}
    (advances : (next none).Advances) : (next? >>= next).Advances := by
  intro text state rest ran
  cases text with
  | nil => exact advances ran
  | cons c text => exact Nat.lt_succ_of_le ((next (some c)).suffix ran).length_le

/-- Repeats a step from a state on, until it comes to a result. -/
def loop (step : σ → Scan ε (σ ⊕ β)) (advances : ∀ state, (step state).Advances)
    (state : σ) (text : List Char) : Except ε (β × List Char) :=
  match taken : (step state).run text with
  | .error fault => .error fault
  | .ok (.inr result, rest) => .ok (result, rest)
  | .ok (.inl state', rest) =>
      have := advances state taken
      loop step advances state' rest
termination_by text.length

theorem loop_eq {step : σ → Scan ε (σ ⊕ β)} {advances : ∀ state, (step state).Advances}
    (state : σ) (text : List Char) :
    loop step advances state text =
      match (step state).run text with
      | .error fault => .error fault
      | .ok (.inr result, rest) => .ok (result, rest)
      | .ok (.inl state', rest) => loop step advances state' rest := by
  rw [loop]
  split <;> simp_all

theorem loop_suffix {step : σ → Scan ε (σ ⊕ β)} {advances : ∀ state, (step state).Advances}
    (state : σ) {text : List Char} {value : β} {rest : List Char}
    (ran : loop step advances state text = .ok (value, rest)) : rest <:+ text := by
  rw [loop_eq] at ran
  split at ran
  next => cases ran
  next taken => cases ran; exact (step state).suffix taken
  next state' middle taken =>
    have := advances state taken
    exact (loop_suffix state' ran).trans ((step state).suffix taken)
termination_by text.length

/-- Repeats a step until it comes to a result. -/
def iterate (step : σ → Scan ε (σ ⊕ β)) (advances : ∀ state, (step state).Advances)
    (start : σ) : Scan ε β where
  run := loop step advances start
  suffix := loop_suffix start

theorem run_iterate {step : σ → Scan ε (σ ⊕ β)} {advances : ∀ state, (step state).Advances}
    (state : σ) (text : List Char) :
    (iterate step advances state).run text =
      match (step state).run text with
      | .error fault => .error fault
      | .ok (.inr result, rest) => .ok (result, rest)
      | .ok (.inl state', rest) => (iterate step advances state').run rest :=
  loop_eq state text

end Scan

end TypeProfile
