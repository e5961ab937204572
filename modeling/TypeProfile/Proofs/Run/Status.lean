import TypeProfile.Proofs.Declaration.Conflict
import TypeProfile.Proofs.Run.Course

/-!
# The status of a run

Whether a run succeeds is decided by the text at the configuration path, by the profile that its
source supplies and by the conflicts of that profile. Of the commands that can fail for a conflict,
one has printed its verdicts by then.
-/

namespace TypeProfile

open CommandLine

theorem Report.text_ne_empty (report : Report) (coloured : Bool) : report.text coloured ≠ "" := by
  intro hempty
  have hlast := (String.append_eq_empty_iff.mp hempty).2
  exact absurd hlast (by decide)

namespace Outcome

variable {format : OutputFormat} {coloured : Bool} {renderer : Renderer} {profile : Profile}

theorem failure_ofRendering_eq_none_iff :
    (ofRendering format renderer profile).failure = none ↔ ¬profile.Conflicting := by
  rw [← renderer.layout.exists_declaration_iff, ← Renderer.render]
  cases hrender : renderer.render profile <;> simp [ofRendering, hrender]

theorem failure_ofPresentation :
    (ofPresentation format coloured renderer profile).failure =
      (ofRendering format renderer profile).failure := rfl

theorem failure_ofPresentation_eq_none_iff :
    (ofPresentation format coloured renderer profile).failure = none ↔ ¬profile.Conflicting := by
  rw [failure_ofPresentation, failure_ofRendering_eq_none_iff]

/-- Nothing is printed of a declaration that is refused. -/
theorem output_ofRendering_of_failure
    (hfailure : (ofRendering format renderer profile).failure ≠ none) :
    (ofRendering format renderer profile).output = "" := by
  cases hrender : renderer.render profile with
  | ok text => simp [ofRendering, hrender] at hfailure
  | error error => simp [ofRendering, hrender]

/-- The verdicts are printed whether the declaration is refused or not. -/
theorem output_ofPresentation_ne_empty :
    (ofPresentation format coloured renderer profile).output ≠ "" := by
  cases format with
  | table =>
      intro hempty
      exact profile.report.text_ne_empty coloured (String.append_eq_empty_iff.mp hempty).1
  | json => simp [ofPresentation, printed]

end Outcome

namespace Environment

variable {environment : Environment}

theorem failure_withProfile_eq_none_iff {source : Source} {next : Profile → Outcome} :
    (environment.withProfile source next).failure = none ↔
      ∃ base, environment.Supplies source base ∧ (next (source.apply base)).failure = none := by
  have hloads : (environment.withProfile source next).failure = none ↔
      ∃ profile, environment.load source = .ok profile ∧ (next profile).failure = none := by
    unfold withProfile
    cases environment.load source <;> simp
  simp [hloads, load_eq_ok_iff]

theorem failure_answer_eq_none_iff {format : OutputFormat} {renderer : Renderer}
    {command : Command} {profile : Profile} :
    (environment.answer format renderer command profile).failure = none ↔
      (command.declares = true → ¬profile.Conflicting) := by
  cases command with
  | evaluate source => simp [answer, Command.declares, Outcome.ofEvaluation]
  | render source => simp [answer, Command.declares, Outcome.failure_ofRendering_eq_none_iff]
  | present source => simp [answer, Command.declares, Outcome.failure_ofPresentation_eq_none_iff]
  | list => simp [answer, Command.declares, Outcome.ofListing]

theorem failure_command_eq_none_iff {format : OutputFormat} {renderer : Renderer}
    {command : Command} :
    (environment.command format renderer command).failure = none ↔
      ∀ source, command.source? = some source → ∃ base, environment.Supplies source base ∧
        (command.declares = true → ¬(source.apply base).Conflicting) := by
  cases hsource : command.source? with
  | none =>
      cases command <;> cases hsource
      simp [Environment.command, Outcome.ofListing]
  | some source =>
      simp [command_eq_withProfile hsource, failure_withProfile_eq_none_iff,
        failure_answer_eq_none_iff]

/-- A source that supplies no profile leaves nothing to print. -/
theorem output_withProfile_of_not_supplies {source : Source} {next : Profile → Outcome}
    (hnone : ¬∃ base, environment.Supplies source base) :
    (environment.withProfile source next).output = "" := by
  cases hload : environment.load source with
  | error failure => rw [withProfile_of_load_error hload, Outcome.output_failed]
  | ok profile =>
      obtain ⟨base, hsupplies, -⟩ := load_eq_ok_iff.mp hload
      exact absurd ⟨base, hsupplies⟩ hnone

theorem output_answer_eq_empty_iff {format : OutputFormat} {renderer : Renderer}
    {command : Command} {profile : Profile}
    (hfailure : (environment.answer format renderer command profile).failure ≠ none) :
    (environment.answer format renderer command profile).output = "" ↔
      ∀ source, command ≠ .present source := by
  cases command with
  | evaluate source => exact absurd rfl hfailure
  | render source => simp [answer, Outcome.output_ofRendering_of_failure hfailure]
  | present source => simp [answer, Outcome.output_ofPresentation_ne_empty]
  | list => exact absurd rfl hfailure

theorem output_command_eq_empty_iff {format : OutputFormat} {renderer : Renderer}
    {command : Command} (hfailure : (environment.command format renderer command).failure ≠ none) :
    (environment.command format renderer command).output = "" ↔
      ¬∃ source base, command = .present source ∧ environment.Supplies source base := by
  cases hsource : command.source? with
  | none =>
      cases command <;> cases hsource
      exact absurd rfl hfailure
  | some source =>
      -- A command to present is about no other source.
      have hown {other : Source} (hpresent : command = .present other) : other = source := by
        subst hpresent
        exact Option.some.inj hsource
      rw [command_eq_withProfile hsource] at hfailure ⊢
      by_cases hsupplies : ∃ base, environment.Supplies source base
      · obtain ⟨base, hbase⟩ := hsupplies
        rw [withProfile_of_supplies hbase] at hfailure ⊢
        rw [Outcome.output_after, output_answer_eq_empty_iff hfailure]
        constructor
        · intro hother ⟨other, _, hpresent, _⟩
          exact hother other hpresent
        · intro hnone other hpresent
          cases hown hpresent
          exact hnone ⟨source, base, hpresent, hbase⟩
      · rw [output_withProfile_of_not_supplies hsupplies, eq_self, true_iff]
        intro ⟨other, base, hpresent, hbase⟩
        cases hown hpresent
        exact hsupplies ⟨base, hbase⟩

variable {invocation : Invocation}

theorem failure_perform_eq_none_iff :
    (environment.perform invocation).failure = none ↔
      (∃ settings, environment.Configures
        (environment.configurationPath invocation.configuration) settings) ∧
      ∀ source, invocation.command.source? = some source → ∃ base,
        environment.Supplies source base ∧
          (invocation.command.declares = true → ¬(source.apply base).Conflicting) := by
  obtain ⟨settings, format, renderer, hconfigures, hperform⟩ | ⟨hnone, failure, hperform⟩ :=
    environment.perform_cases invocation
  · rw [hperform, failure_command_eq_none_iff, and_iff_right ⟨settings, hconfigures⟩]
  · simp [hperform, hnone]

theorem output_perform_eq_empty_iff
    (hfailure : (environment.perform invocation).failure ≠ none) :
    (environment.perform invocation).output = "" ↔
      ¬((∃ settings, environment.Configures
          (environment.configurationPath invocation.configuration) settings) ∧
        ∃ source base, invocation.command = .present source ∧
          environment.Supplies source base) := by
  obtain ⟨settings, format, renderer, hconfigures, hperform⟩ | ⟨hnone, failure, hperform⟩ :=
    environment.perform_cases invocation
  · rw [hperform] at hfailure ⊢
    rw [output_command_eq_empty_iff hfailure, and_iff_right ⟨settings, hconfigures⟩]
  · simp [hperform, hnone]

theorem perform_of_rejected {text : String} {error : Settings.Error}
    (htext : environment.file (environment.configurationPath invocation.configuration) = .ok text)
    (hparse : Settings.parse text = .error error) :
    environment.perform invocation = .failed (.configuration error) := by
  apply perform_of_settings_error
  rw [Environment.settings, htext]
  exact mapError_eq_error_iff.mpr ⟨error, hparse, rfl⟩

/-- The status of a run with a configuration path is decided by what stands there, by what its
source supplies and by the conflicts of the profile. A run that fails has printed nothing, unless it
had verdicts to present. A configuration that is rejected is what the run fails for, whatever it was
to do. -/
theorem run_status {arguments : List String} {path : String}
    (hread : Invocation.ofArguments arguments = .ok invocation)
    (hpath : invocation.configuration.or (environment.lookup "TYPETRAITS_CONFIG") = some path) :
    let command := invocation.command
    let transcript := environment.run arguments
    (transcript.status = 0 ↔ (∃ settings, environment.Configures path settings) ∧
      ∀ source, command.source? = some source → ∃ base, environment.Supplies source base ∧
        (command.declares = true → ¬(source.apply base).Conflicting)) ∧
    (transcript.status ≠ 0 → transcript.status = 1 ∧
      (transcript.output = "" ↔ ¬((∃ settings, environment.Configures path settings) ∧
        ∃ source base, command = .present source ∧ environment.Supplies source base))) ∧
    ∀ text error, environment.file path = .ok text → Settings.parse text = .error error →
      (environment.perform invocation).failure = some (.configuration error) ∧
        transcript = ⟨1, "", Transcript.lastLine environment.coloursResults
          (.configuration error)⟩ := by
  obtain rfl : environment.configurationPath invocation.configuration = path := by
    rw [configurationPath, hpath]
  intro command transcript
  have htranscript : transcript =
      .ofOutcome environment invocation.verbose (environment.perform invocation) :=
    run_of_ofArguments hread
  rw [htranscript]
  refine ⟨?_, fun hstatus => ?_, fun text error htext hparse => ?_⟩
  · rw [Transcript.status_ofOutcome_eq_zero_iff, failure_perform_eq_none_iff]
  · have hfailure := Transcript.status_ofOutcome_eq_zero_iff.not.mp hstatus
    exact ⟨Transcript.status_ofOutcome_eq_one_iff.mpr hfailure,
      output_perform_eq_empty_iff hfailure⟩
  · rw [perform_of_rejected htext hparse]
    exact ⟨rfl, by simp [Transcript.ofOutcome]⟩

/-- A constructor that there is no base to inherit from makes a presentation fail, but only after
the verdicts are printed. No file stands at the path of the configuration. -/
theorem run_status_of_dangling :
    let environment : Environment := {}
    let transcript := environment.run
      ["show", "--config=none.toml", "--attr", "has_inherited_default_constr"]
    transcript.status = 1 ∧ transcript.output ≠ "" := by
  intro environment transcript
  have hread : Invocation.ofArguments
      ["show", "--config=none.toml", "--attr", "has_inherited_default_constr"] =
        .ok { command := .present { flags := [.inheritedDefaultConstructor] }
              configuration := some "none.toml" } := by decide
  have hpath : (some "none.toml").or (environment.lookup "TYPETRAITS_CONFIG") =
      some "none.toml" := rfl
  obtain ⟨hstatus, hfails, -⟩ := run_status hread hpath
  have hconfigures : ∃ settings, environment.Configures "none.toml" settings :=
    ⟨default, .inl ⟨⟨.missing, rfl, rfl⟩, rfl⟩⟩
  have hsupplies : environment.Supplies { flags := [.inheritedDefaultConstructor] } default :=
    .inl ⟨rfl, rfl⟩
  have hfailed : transcript.status ≠ 0 := by
    intro hsucceeds
    obtain ⟨base, hbase, hnoconflict⟩ := (hstatus.mp hsucceeds).2 _ rfl
    obtain ⟨-, rfl⟩ | ⟨path, text, hfile, -⟩ := hbase
    · exact hnoconflict rfl (by decide)
    · cases hfile
  refine ⟨(hfails hfailed).1, fun hempty => ?_⟩
  exact (hfails hfailed).2.mp hempty ⟨hconfigures, _, _, rfl, hsupplies⟩

end Environment

end TypeProfile
