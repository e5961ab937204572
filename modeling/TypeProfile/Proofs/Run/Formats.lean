import TypeProfile.Proofs.Run.Presentation

/-!
# Two formats of one result

A command finds out the same in both formats, and only prints it differently. So whoever reads the
JSON that it prints has all that the table shows, and can write the table without running the
command again.
-/

namespace TypeProfile

open CommandLine Json

namespace Outcome

variable {coloured : Bool} {renderer : Renderer} {profile : Profile} {text : String}

theorem decode_output_ofEvaluation :
    Report.codec.decode (ofEvaluation .json coloured profile).output = .ok profile.report :=
  Report.codec_lawful.decode_printed profile.report

theorem decode_output_ofRendering (hrender : renderer.render profile = .ok text) :
    Codec.text.decode (ofRendering .json renderer profile).output = .ok text := by
  simp only [ofRendering, hrender]
  exact Codec.Lawful.text.decode_printed text

theorem output_ofRendering_table (hrender : renderer.render profile = .ok text) :
    (ofRendering .table renderer profile).output = text ++ "\n" := by
  simp only [ofRendering, hrender]

end Outcome

namespace Environment

variable {environment : Environment} {invocation : Invocation}

/-- Whether a run succeeds does not depend on the format. -/
theorem status_run_congr {first second : List String} {format other : Option OutputFormat}
    (hfirst : Invocation.ofArguments first = .ok { invocation with output := format })
    (hsecond : Invocation.ofArguments second = .ok { invocation with output := other }) :
    (environment.run first).status = 0 ↔ (environment.run second).status = 0 := by
  rw [run_of_ofArguments hfirst, run_of_ofArguments hsecond,
    Transcript.status_ofOutcome_eq_zero_iff, Transcript.status_ofOutcome_eq_zero_iff,
    failure_perform_eq_none_iff, failure_perform_eq_none_iff]

/-- If a command succeeds in one format, its results in all formats are about one profile and have
one layout. -/
theorem exists_answer {arguments : List String} {source : Source} {format : Option OutputFormat}
    (hread : Invocation.ofArguments arguments = .ok { invocation with output := format })
    (hsource : invocation.command.source? = some source)
    (hsucceeds : (environment.run arguments).status = 0) :
    ∃ (settings : Settings) (renderer : Renderer) (profile : Profile),
      environment.settings (environment.configurationPath invocation.configuration) =
        .ok settings ∧
      renderer.layout = settings.layout ∧ environment.load source = .ok profile ∧
      (invocation.command.declares = true → ¬profile.Conflicting) ∧
      ∀ others other,
        Invocation.ofArguments others = .ok { invocation with output := some other } →
        (environment.run others).output =
          (environment.answer other renderer invocation.command profile).output := by
  rw [run_of_ofArguments hread, Transcript.status_ofOutcome_eq_zero_iff,
    failure_perform_eq_none_iff] at hsucceeds
  obtain ⟨⟨settings, hconfigures⟩, hsupplied⟩ := hsucceeds
  obtain ⟨base, hsupplies, hpeaceful⟩ := hsupplied source hsource
  have hsettings := settings_eq_ok_iff.mpr hconfigures
  let renderer : Renderer := ⟨settings.layout, fault?_of_settings hsettings⟩
  refine ⟨settings, renderer, source.apply base, hsettings, rfl,
    load_eq_ok_iff.mpr ⟨base, hsupplies, rfl⟩, hpeaceful, fun others other hothers => ?_⟩
  rw [run_of_supplies hothers hconfigures hsource hsupplies renderer rfl]
  rfl

/-- What a run prints as JSON is read back as what it prints as a table: the report of the profile
that was loaded, or its declaration, whatever layout that is written with. -/
theorem run_json_shows_run_table {asTable asJson : List String}
    (htable : Invocation.ofArguments asTable = .ok { invocation with output := some .table })
    (hjson : Invocation.ofArguments asJson = .ok { invocation with output := some .json }) :
    let tabled := environment.run asTable
    let encoded := environment.run asJson
    (tabled.status = 0 ↔ encoded.status = 0) ∧
    (∀ source, invocation.command = .evaluate source → encoded.status = 0 →
      ∃ profile, environment.load source = .ok profile ∧
        Report.codec.decode encoded.output = .ok profile.report ∧
        tabled.output = profile.report.text environment.coloursResults) ∧
    ∀ source, invocation.command = .render source → encoded.status = 0 →
      ∃ settings profile text,
        environment.settings (environment.configurationPath invocation.configuration) =
          .ok settings ∧
        environment.load source = .ok profile ∧
        settings.layout.declaration profile = .ok text ∧
        Codec.text.decode encoded.output = .ok text ∧
        tabled.output = text ++ "\n" := by
  intro tabled encoded
  refine ⟨status_run_congr htable hjson, fun source hcommand hsucceeds => ?_,
    fun source hcommand hsucceeds => ?_⟩
  · have hsource : invocation.command.source? = some source := by
      rw [hcommand]
      rfl
    obtain ⟨settings, renderer, profile, -, -, hload, -, houtput⟩ :=
      exists_answer hjson hsource hsucceeds
    have htabled : tabled.output = _ := houtput asTable .table htable
    have hencoded : encoded.output = _ := houtput asJson .json hjson
    rw [hcommand, answer] at htabled hencoded
    refine ⟨profile, hload, ?_, htabled⟩
    rw [hencoded]
    exact Outcome.decode_output_ofEvaluation
  · have hsource : invocation.command.source? = some source := by
      rw [hcommand]
      rfl
    obtain ⟨settings, renderer, profile, hsettings, hlayout, hload, hpeaceful, houtput⟩ :=
      exists_answer hjson hsource hsucceeds
    have htabled : tabled.output = _ := houtput asTable .table htable
    have hencoded : encoded.output = _ := houtput asJson .json hjson
    rw [hcommand, answer] at htabled hencoded
    rw [hcommand] at hpeaceful
    obtain ⟨text, hrender⟩ := (renderer.layout.exists_declaration_iff profile).mpr (hpeaceful rfl)
    refine ⟨settings, profile, text, hsettings, hload, hlayout ▸ hrender, ?_, ?_⟩
    · rw [hencoded]
      exact Outcome.decode_output_ofRendering hrender
    · rw [htabled]
      exact Outcome.output_ofRendering_table hrender

/-- A virtual function, declared in both formats under a configuration that names the struct and
indents with a tab. -/
theorem run_json_shows_run_table_of_tab :
    let configuration := "render.struct_name=\"S\"\nrender.indent=\"\\t\""
    let environment : Environment :=
      { file := fun path => if path = "c.toml" then .ok configuration else .error .missing }
    let line (format : String) := ["-c", "c.toml", "render", "--output", format, "-ahas_virtual_mf"]
    let text := "struct S\n\x7b\n\tvirtual f();\n\x7d;"
    (environment.run (line "json")).status = 0 ∧
      Codec.text.decode (environment.run (line "json")).output = .ok text ∧
      (environment.run (line "table")).output = text ++ "\n" := by
  intro configuration environment line text
  let settings : Settings := { layout := { structName := "S", indent := "\t" } }
  let source : Source := { flags := [.virtualFunction] }
  let invocation : Invocation := { command := .render source, configuration := some "c.toml" }
  have htable : Invocation.ofArguments (line "table") =
      .ok { invocation with output := some .table } := by decide
  have hjson : Invocation.ofArguments (line "json") =
      .ok { invocation with output := some .json } := by decide
  have hparse : Settings.parse configuration = .ok settings := by
    have hread : (Settings.parse configuration).toOption = some settings := by decide +kernel
    cases hcase : Settings.parse configuration <;> simp_all [Except.toOption]
  have hconfigures : environment.Configures "c.toml" settings := .inr ⟨configuration, rfl, hparse⟩
  have hsupplies : environment.Supplies source default := .inl ⟨rfl, rfl⟩
  have hsucceeds : (environment.run (line "json")).status = 0 := by
    rw [run_of_ofArguments hjson, Transcript.status_ofOutcome_eq_zero_iff,
      failure_perform_eq_none_iff]
    refine ⟨⟨settings, hconfigures⟩, fun other hother => ?_⟩
    cases hother
    exact ⟨default, hsupplies, by decide⟩
  obtain ⟨-, -, hrenders⟩ := run_json_shows_run_table htable hjson
  obtain ⟨held, profile, declared, hheld, hload, hdeclared, hdecode, houtput⟩ :=
    hrenders source rfl hsucceeds
  cases hheld.symm.trans (settings_eq_ok_iff.mpr hconfigures)
  cases hload.symm.trans (load_eq_ok_iff.mpr ⟨default, hsupplies, rfl⟩)
  have htext : settings.layout.declaration (source.apply default) = .ok text := by decide
  cases hdeclared.symm.trans htext
  exact ⟨hsucceeds, hdecode, houtput⟩

end Environment

end TypeProfile
