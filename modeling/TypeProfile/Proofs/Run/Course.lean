import TypeProfile.Run

/-!
# The course of a run

A run comes to its command exactly if it has settings, and the command to its result exactly if it
has a profile. Settings that were loaded have a usable layout, so it is never the renderer that
stops a run before its command.
-/

namespace TypeProfile

open CommandLine

theorem map_ok_iff {α β ε : Type} {outcome : Except ε α} {f : α → β} {value : β} :
    outcome.map f = .ok value ↔ ∃ result, outcome = .ok result ∧ f result = value := by
  cases outcome <;> simp [Except.map]

theorem map_error_iff {α β ε : Type} {outcome : Except ε α} {f : α → β} {error : ε} :
    outcome.map f = .error error ↔ outcome = .error error := by
  cases outcome <;> simp [Except.map]

theorem mapError_eq_ok_iff {α ε ε' : Type} {outcome : Except ε α} {f : ε → ε'} {value : α} :
    outcome.mapError f = .ok value ↔ outcome = .ok value := by
  cases outcome with
  | ok result =>
    constructor <;> rintro ⟨⟩ <;> rfl
  | error cause => exact ⟨nofun, nofun⟩

theorem mapError_eq_error_iff {α ε ε' : Type} {outcome : Except ε α} {f : ε → ε'} {error : ε'} :
    outcome.mapError f = .error error ↔ ∃ cause, outcome = .error cause ∧ f cause = error := by
  cases outcome with
  | ok result => exact ⟨nofun, nofun⟩
  | error cause =>
    constructor
    · rintro ⟨⟩
      exact ⟨cause, rfl, rfl⟩
    · rintro ⟨_, ⟨⟩, rfl⟩
      rfl

theorem Renderer.withLayout_of_faultless (renderer : Renderer) {layout : Layout}
    (hfaultless : layout.fault? = none) :
    renderer.withLayout layout = .ok ⟨layout, hfaultless⟩ := by
  unfold withLayout
  split
  next => rfl
  next fault hfault => rw [hfaultless] at hfault; cases hfault

namespace CommandLine.Command

/-- The source of the profile that a command is about, if it is about one. -/
def source? : Command → Option Source
  | evaluate source | render source | present source => some source
  | list => none

/-- Whether a command succeeds only if its profile has a declaration. -/
def declares : Command → Bool
  | render _ | present _ => true
  | evaluate _ | list => false

end CommandLine.Command

namespace Outcome

@[simp] theorem output_failed (failure : Failure) : (failed failure).output = "" := rfl

@[simp] theorem failure_failed (failure : Failure) : (failed failure).failure = some failure := rfl

@[simp] theorem events_failed (failure : Failure) : (failed failure).events = [] := rfl

@[simp] theorem output_after (events : List Event) (outcome : Outcome) :
    (outcome.after events).output = outcome.output := rfl

@[simp] theorem failure_after (events : List Event) (outcome : Outcome) :
    (outcome.after events).failure = outcome.failure := rfl

end Outcome

namespace Transcript

variable {environment : Environment} {verbose : Bool} {outcome : Outcome}

@[simp] theorem output_ofOutcome :
    (ofOutcome environment verbose outcome).output = outcome.output := rfl

theorem status_ofOutcome_eq_zero_iff :
    (ofOutcome environment verbose outcome).status = 0 ↔ outcome.failure = none := by
  cases hfailure : outcome.failure <;> simp [ofOutcome, hfailure]

theorem status_ofOutcome_eq_one_iff :
    (ofOutcome environment verbose outcome).status = 1 ↔ outcome.failure ≠ none := by
  cases hfailure : outcome.failure <;> simp [ofOutcome, hfailure]

end Transcript

namespace Environment

/-- Nothing stands at the path, or the text of settings that can be used. -/
def Configures (environment : Environment) (path : String) (settings : Settings) : Prop :=
  (∃ fault, environment.file path = .error fault ∧ fault.isAbsence = true) ∧ settings = default ∨
    ∃ text, environment.file path = .ok text ∧ Settings.parse text = .ok settings

/-- The source names a file that holds the profile, or no file, and then it is the usual one. -/
def Supplies (environment : Environment) (source : Source) (base : Profile) : Prop :=
  source.file = none ∧ base = default ∨
    ∃ path text, source.file = some path ∧ environment.file path = .ok text ∧
      Profile.codec.decode text = .ok base

variable {environment : Environment}

theorem settings_eq_ok_iff {path : String} {settings : Settings} :
    environment.settings path = .ok settings ↔ environment.Configures path settings := by
  unfold Environment.settings Configures
  cases environment.file path with
  | ok text => simp [mapError_eq_ok_iff]
  | error fault =>
      cases habsence : fault.isAbsence with
      | true => simpa [habsence] using eq_comm
      | false => simp [habsence]

theorem profile_eq_ok_iff {path : String} {profile : Profile} :
    environment.profile path = .ok profile ↔
      ∃ text, environment.file path = .ok text ∧ Profile.codec.decode text = .ok profile := by
  unfold Environment.profile
  cases environment.file path <;> simp [mapError_eq_ok_iff]

theorem load_of_no_file {source : Source} (hfile : source.file = none) :
    environment.load source = .ok (source.apply default) := by
  rw [load, hfile]
  rfl

theorem load_of_file {source : Source} {path : String} (hfile : source.file = some path) :
    environment.load source = (environment.profile path).map source.apply := by
  rw [load, hfile]
  rfl

theorem load_eq_ok_iff {source : Source} {profile : Profile} :
    environment.load source = .ok profile ↔
      ∃ base, environment.Supplies source base ∧ source.apply base = profile := by
  unfold Supplies
  cases hfile : source.file with
  | none => simp [load_of_no_file hfile]
  | some path => simp [load_of_file hfile, map_ok_iff, profile_eq_ok_iff]

/-- Loaded settings have a usable layout, whether there is a file or not. -/
theorem fault?_of_settings {path : String} {settings : Settings}
    (hsettings : environment.settings path = .ok settings) : settings.layout.fault? = none := by
  rcases settings_eq_ok_iff.mp hsettings with ⟨-, rfl⟩ | ⟨text, -, hparse⟩
  · exact Layout.fault?_default
  · exact Settings.fault?_of_parse hparse

/-- What a command makes of its profile. -/
def answer (environment : Environment) (format : OutputFormat) (renderer : Renderer) :
    Command → Profile → Outcome
  | .evaluate _ => .ofEvaluation format environment.coloursResults
  | .render _ => .ofRendering format renderer
  | .present _ => .ofPresentation format environment.coloursResults renderer
  | .list => fun _ => .ofListing format

theorem command_eq_withProfile {format : OutputFormat} {renderer : Renderer} {command : Command}
    {source : Source} (hsource : command.source? = some source) :
    environment.command format renderer command =
      environment.withProfile source (environment.answer format renderer command) := by
  cases command <;> cases hsource <;> rfl

theorem withProfile_of_load_error {source : Source} {failure : Failure}
    (hload : environment.load source = .error failure) (next : Profile → Outcome) :
    environment.withProfile source next = .failed failure := by
  rw [withProfile, hload]

theorem withProfile_of_load_ok {source : Source} {profile : Profile}
    (hload : environment.load source = .ok profile) (next : Profile → Outcome) :
    environment.withProfile source next =
      (next profile).after [.loaded profile.typeClass profile.enabled.length] := by
  rw [withProfile, hload]

theorem withProfile_of_supplies {source : Source} {base : Profile}
    (hsupplies : environment.Supplies source base) (next : Profile → Outcome) :
    environment.withProfile source next = (next (source.apply base)).after
      [.loaded (source.apply base).typeClass (source.apply base).enabled.length] :=
  withProfile_of_load_ok (load_eq_ok_iff.mpr ⟨base, hsupplies, rfl⟩) next

variable {invocation : Invocation}

theorem perform_of_settings_error {failure : Failure}
    (hsettings : environment.settings (environment.configurationPath invocation.configuration) =
      .error failure) :
    environment.perform invocation = .failed failure := by
  rw [perform, hsettings]

theorem perform_of_settings_ok {settings : Settings}
    (hsettings : environment.settings (environment.configurationPath invocation.configuration) =
      .ok settings) :
    environment.perform invocation =
      environment.command ((invocation.output.or settings.output).getD default)
        ⟨settings.layout, fault?_of_settings hsettings⟩ invocation.command := by
  rw [perform, hsettings]
  simp only [Renderer.withLayout_of_faultless default (fault?_of_settings hsettings)]

/-- An invocation comes to its command, or there are no settings. -/
theorem perform_cases (environment : Environment) (invocation : Invocation) :
    let path := environment.configurationPath invocation.configuration
    (∃ settings format renderer, environment.Configures path settings ∧
      environment.perform invocation = environment.command format renderer invocation.command) ∨
    (¬∃ settings, environment.Configures path settings) ∧
      ∃ failure, environment.perform invocation = .failed failure := by
  intro path
  cases hsettings : environment.settings path with
  | error failure =>
      exact .inr ⟨by simp [← settings_eq_ok_iff, hsettings], _, perform_of_settings_error hsettings⟩
  | ok settings =>
      exact .inl ⟨settings, _, _, settings_eq_ok_iff.mp hsettings, perform_of_settings_ok hsettings⟩

/-- A run whose command line is understood is what the invocation comes to. -/
theorem run_of_ofArguments {arguments : List String}
    (hread : Invocation.ofArguments arguments = .ok invocation) :
    environment.run arguments =
      .ofOutcome environment invocation.verbose (environment.perform invocation) := by
  rw [run, hread]

/-- With settings and a profile, a run is what its command makes of the profile. -/
theorem run_of_supplies {arguments : List String} {settings : Settings} {source : Source}
    {base : Profile} (hread : Invocation.ofArguments arguments = .ok invocation)
    (hconfigures : environment.Configures
      (environment.configurationPath invocation.configuration) settings)
    (hsource : invocation.command.source? = some source)
    (hsupplies : environment.Supplies source base) (renderer : Renderer)
    (hlayout : renderer.layout = settings.layout) :
    environment.run arguments = .ofOutcome environment invocation.verbose
      ((environment.answer ((invocation.output.or settings.output).getD default) renderer
        invocation.command (source.apply base)).after
          [.loaded (source.apply base).typeClass (source.apply base).enabled.length]) := by
  have hsettings := settings_eq_ok_iff.mpr hconfigures
  have hrenderer : renderer = ⟨settings.layout, fault?_of_settings hsettings⟩ := by
    cases renderer
    cases hlayout
    rfl
  rw [run_of_ofArguments hread, perform_of_settings_ok hsettings, ← hrenderer,
    command_eq_withProfile hsource, withProfile_of_supplies hsupplies]

end Environment

end TypeProfile
