import TypeProfile.Proofs.Json.Lexing

/-!
# Reading by tokens

What a reader does where given tokens stand at the front of the text. The rules follow the way in
which readers are put together, so the text itself does not appear any more.
-/

namespace TypeProfile.Json

variable {α β γ σ : Type}

theorem bind_eq_ok_iff {outcome : Except Fault α} {f : α → Except Fault β} {result : β} :
    outcome.bind f = .ok result ↔ ∃ value, outcome = .ok value ∧ f value = .ok result := by
  cases outcome <;> simp [Except.bind]

theorem map_eq_ok_iff {outcome : Except Fault α} {f : α → β} {result : β} :
    outcome.map f = .ok result ↔ ∃ value, outcome = .ok value ∧ f value = result := by
  cases outcome <;> simp [Except.map]

/-- Where the tokens come next, the scan takes all of them with a value, or stops with a fault. -/
def Gives (scan : Read α) (tokens : List Token) (outcome : Except Fault α) : Prop :=
  ∀ ⦃text rest⦄, Leads tokens text rest → scan.run text = outcome.map fun value => (value, rest)

namespace Gives

variable {scan : Read α} {tokens others : List Token}

theorem ofExcept (outcome : Except Fault α) : Gives (Scan.ofExcept outcome) [] outcome := by
  intro text rest hleads
  cases hleads with
  | nil => exact Scan.run_ofExcept outcome text

theorem pure (value : α) : Gives (Pure.pure value) [] (.ok value) := by
  intro text rest hleads
  cases hleads with
  | nil => exact Scan.run_pure value text

/-- A fault does not depend on what comes later. -/
theorem fail (fault : Fault) (tokens : List Token) :
    Gives (Scan.fail fault : Read α) tokens (.error fault) :=
  fun text _ _ => Scan.run_fail fault text

theorem fail_bind (fault : Fault) (next : α → Read β) (tokens : List Token) :
    Gives (Scan.fail fault >>= next) tokens (.error fault) :=
  fun _ _ _ => rfl

theorem bind {next : α → Read β} {outcome : Except Fault α} {f : α → Except Fault β}
    (hscan : Gives scan tokens outcome)
    (hnext : ∀ value, outcome = .ok value → Gives (next value) others (f value)) :
    Gives (scan >>= next) (tokens ++ others) (outcome.bind f) := by
  intro text rest hleads
  obtain ⟨middle, hfirst, hsecond⟩ := hleads.split
  have hran := hscan hfirst
  cases outcome with
  | ok value => exact (Scan.run_bind_of_ok hran).trans (hnext value rfl hsecond)
  | error fault => exact Scan.run_bind_of_error hran

/-- What follows a reader, where it does not stop. -/
theorem bind_map {next : α → Read β} {outcome : Except Fault α} {f : α → β}
    (hscan : Gives scan tokens outcome)
    (hnext : ∀ value, Gives (next value) others (.ok (f value))) :
    Gives (scan >>= next) (tokens ++ others) (outcome.map f) := by
  have hbind := hscan.bind fun value _ => hnext value
  cases outcome <;> exact hbind

theorem map (f : α → β) {outcome : Except Fault α} (hscan : Gives scan tokens outcome) :
    Gives (f <$> scan) tokens (outcome.map f) := by
  intro text rest hleads
  have hran := hscan hleads
  cases outcome with
  | ok value => exact Scan.run_map_of_ok f hran
  | error fault => exact Scan.run_map_of_error f hran

/-- What follows a token. -/
theorem token_bind {first : Token} {next : Token → Read β} {outcome : Except Fault β}
    (hnext : Gives (next first) tokens outcome) :
    Gives (token >>= next) (first :: tokens) outcome := by
  intro text rest hleads
  obtain ⟨middle, htaken, hmiddle⟩ := hleads.run_token
  rw [Scan.run_bind_of_ok htaken, hnext hmiddle]

theorem expectToken_bind {expected : Token} {next : Unit → Read β} {outcome : Except Fault β}
    (hnext : Gives (next ()) tokens outcome) :
    Gives (expectToken expected >>= next) (expected :: tokens) outcome := by
  have hexpected : Gives (expectToken expected) [expected] (.ok ()) := by
    apply Gives.token_bind
    rw [if_pos rfl]
    exact .pure ()
  exact hexpected.bind fun _ _ => hnext

theorem expectToken_bind_of_ne {expected first : Token} (hdiffers : first ≠ expected)
    (next : Unit → Read β) (tokens : List Token) :
    Gives (expectToken expected >>= next) (first :: tokens) (.error .malformed) := by
  have hexpected : Gives (expectToken expected) [first] (.error .malformed) := by
    apply Gives.token_bind
    rw [if_neg hdiffers]
    exact .fail .malformed []
  exact hexpected.bind (f := fun _ => .error .malformed) nofun

theorem acceptToken_bind {expected : Token} {next : Bool → Read β} {outcome : Except Fault β}
    (hnext : Gives (next true) tokens outcome) :
    Gives (acceptToken expected >>= next) (expected :: tokens) outcome := by
  intro text rest hleads
  obtain ⟨middle, htaken, hmiddle⟩ := hleads.run_token
  have haccept : (acceptToken expected).run text = .ok (true, middle) := by
    simp [acceptToken, htaken]
  rw [Scan.run_bind_of_ok haccept, hnext hmiddle]

/-- A token that was not asked for stays where it is. -/
theorem acceptToken_bind_of_ne {expected first : Token} (hdiffers : first ≠ expected)
    {next : Bool → Read β} {outcome : Except Fault β}
    (hnext : Gives (next false) (first :: tokens) outcome) :
    Gives (acceptToken expected >>= next) (first :: tokens) outcome := by
  intro text rest hleads
  obtain ⟨middle, htaken, -⟩ := hleads.run_token
  have haccept : (acceptToken expected).run text = .ok (false, text) := by
    simp [acceptToken, htaken, hdiffers]
  rw [Scan.run_bind_of_ok haccept, hnext hleads]

section Loops

variable {step : σ → Read (σ ⊕ β)} {advances : ∀ state, (step state).Advances} {state : σ}

theorem iterate {next : γ → σ} {outcome : Except Fault γ} {f : γ → Except Fault β}
    (hstep : Gives (step state) tokens (outcome.map fun value => .inl (next value)))
    (hnext : ∀ value, outcome = .ok value →
      Gives (Scan.iterate step advances (next value)) others (f value)) :
    Gives (Scan.iterate step advances state) (tokens ++ others) (outcome.bind f) := by
  intro text rest hleads
  obtain ⟨middle, hfirst, hsecond⟩ := hleads.split
  rw [Scan.run_iterate, hstep hfirst]
  cases outcome with
  | ok value => exact hnext value rfl hsecond
  | error fault => rfl

theorem iterate_done {outcome : Except Fault β}
    (hstep : Gives (step state) tokens (outcome.map .inr)) :
    Gives (Scan.iterate step advances state) tokens outcome := by
  intro text rest hleads
  rw [Scan.run_iterate, hstep hleads]
  cases outcome <;> rfl

end Loops

end Gives

/-- What is said where something other than the expected begins. -/
def refusal {α : Type} (found : Token) (expected : Expected) : Except Fault α :=
  match found.found? with
  | some found => .error (.misfit (.wrongType found expected))
  | none => .error .malformed

theorem refuse_gives (found : Token) (expected : Expected) (tokens : List Token) :
    Gives (refuse found expected : Read α) tokens (refusal found expected) := by
  unfold refuse refusal
  cases found.found? with
  | some found => exact .fail _ tokens
  | none => exact .fail .malformed tokens

theorem refuse_bind_gives (found : Token) (expected : Expected) (next : α → Read β)
    (tokens : List Token) :
    Gives (refuse found expected >>= next) tokens (refusal found expected) := by
  unfold refuse refusal
  cases found.found? with
  | some found => exact .fail_bind _ next tokens
  | none => exact .fail_bind .malformed next tokens

theorem refusal_bind (found : Token) (expected : Expected) (f : α → Except Fault β) :
    (refusal found expected).bind f = refusal found expected := by
  unfold refusal
  split <;> rfl

theorem refusal_ne_ok (found : Token) (expected : Expected) (value : α) :
    refusal found expected ≠ .ok value := by
  unfold refusal
  split <;> exact nofun

/-- The text of a literal, if it has one. -/
def Piece.text (pieces : List Piece) : Except Fault String :=
  match Piece.decode pieces with
  | some text => .ok (String.ofList text)
  | none => .error .malformed

theorem Piece.text_eq_ok_iff {pieces : List Piece} {text : String} :
    Piece.text pieces = .ok text ↔ Piece.decode pieces = some text.toList := by
  unfold Piece.text
  cases Piece.decode pieces with
  | none => simp
  | some letters =>
      simp only [Except.ok.injEq, Option.some.injEq]
      constructor
      · rintro rfl
        exact String.toList_ofList.symm
      · rintro rfl
        exact String.ofList_toList

theorem Piece.text_of_denotes {pieces : List Piece} {text : String}
    (hdenotes : Denotes pieces text.toList) : Piece.text pieces = .ok text :=
  text_eq_ok_iff.mpr (decode_of_denotes hdenotes)

theorem textOf_gives (pieces : List Piece) : Gives (textOf pieces) [] (Piece.text pieces) := by
  unfold textOf Piece.text
  cases Piece.decode pieces with
  | none => exact (Gives.fail .malformed []).map String.ofList
  | some text => exact (Gives.pure text).map String.ofList

/-- Whether a whole text is read is decided by its tokens. -/
theorem Codec.decode_of_gives {codec : Codec α} {tokens : List Token} {outcome : Except Fault α}
    {text : String} {blanks : List Char} (hread : Gives codec.read tokens outcome)
    (hleads : Leads tokens text.toList blanks) (hblanks : Blank blanks) :
    codec.decode text = outcome := by
  have hall : blanks.all isBlank = true := List.all_eq_true.mpr hblanks
  rw [decode, hread hleads]
  cases outcome with
  | error fault => rfl
  | ok value => exact if_pos hall

end TypeProfile.Json
