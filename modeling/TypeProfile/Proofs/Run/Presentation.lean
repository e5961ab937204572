import TypeProfile.Proofs.Run.Status
import TypeProfile.Proofs.Wire.RoundTrip

/-!
# Presenting is evaluating and rendering

A presentation prints what the two other commands print, one below the other as a table and side by
side in an object as JSON, and it succeeds if rendering does. That a declaration is refused shows in
the status and, as JSON, in the output.
-/

namespace TypeProfile

open CommandLine Json

theorem Json.Value.writtenAs_printed {value : Value} (hproper : value.Proper) :
    value.tree.WrittenAs (printed value).toList := by
  refine ⟨value.prettyText 0, ['\n'], by simp [printed, pretty], written_prettyText hproper 0, ?_⟩
  simp [Blank, isBlank]

theorem Json.Codec.Lawful.decode_printed {α : Type} {codec : Codec α} (hlawful : codec.Lawful)
    (value : α) : codec.decode (printed (codec.write value)) = .ok value :=
  hlawful.decode_of_writtenAs (Value.writtenAs_printed (hlawful.proper value))

theorem Presentation.codec_lawful : Presentation.codec.Lawful := by
  refine .convert (Record.toCodec_lawful (by decide) fun key => ?_) fun _ => rfl
  cases key with
  | report => exact Report.codec_lawful
  | declaration => exact .nullable .text nofun
  | error => exact .nullable .text nofun

namespace Presentation

/-- The tree of the declaration, or null where there is none. -/
def declarationTree : Except RenderError String → Tree
  | .ok text => .string (Piece.ofText text)
  | .error _ => .null

/-- The tree of the error, or null where there is none. -/
def errorTree : Except RenderError String → Tree
  | .ok _ => .null
  | .error error => .string (Piece.ofText error.message)

theorem tree_write_ofRendered (report : Report) (declared : Except RenderError String) :
    (codec.write (.ofRendered report declared)).tree =
      .object [(Piece.ofText "report", (Report.codec.write report).tree),
        (Piece.ofText "declaration", declarationTree declared),
        (Piece.ofText "error", errorTree declared)] := by
  cases declared <;> rfl

end Presentation

namespace Transcript

/-- The output of the first run, and below an empty line that of the second, if it succeeds. -/
structure Stacks (evaluated rendered presented : Transcript) : Prop where
  success : rendered.status = 0 → presented.output = evaluated.output ++ "\n" ++ rendered.output
  failure : rendered.status ≠ 0 → presented.output = evaluated.output

/-- The values that two runs print side by side in an object, the second as null if there is none,
together with the reason for this. -/
structure Joins (evaluated rendered presented : Transcript) (report : Report)
    (declared : Except RenderError String) : Prop where
  evaluates : Report.codec.decode evaluated.output = .ok report
  renders : ∀ text, declared = .ok text → Codec.text.decode rendered.output = .ok text
  presents : Presentation.codec.decode presented.output = .ok (.ofRendered report declared)
  members : ∃ tree : Tree, tree.WrittenAs evaluated.output.toList ∧
    (∀ text, declared = .ok text →
      (Presentation.declarationTree declared).WrittenAs rendered.output.toList) ∧
    (Tree.object [(Piece.ofText "report", tree),
      (Piece.ofText "declaration", Presentation.declarationTree declared),
      (Piece.ofText "error", Presentation.errorTree declared)]).WrittenAs presented.output.toList

theorem joins_of_printed {evaluated rendered presented : Transcript} {report : Report}
    {declared : Except RenderError String}
    (hevaluated : evaluated.output = printed (Report.codec.write report))
    (hrendered : ∀ text, declared = .ok text → rendered.output = printed (.string text))
    (hpresented : presented.output =
      printed (Presentation.codec.write (.ofRendered report declared))) :
    evaluated.Joins rendered presented report declared where
  evaluates := by
    rw [hevaluated]
    exact Report.codec_lawful.decode_printed report
  renders := by
    intro text hdeclared
    rw [hrendered text hdeclared]
    exact Codec.Lawful.text.decode_printed text
  presents := by
    rw [hpresented]
    exact Presentation.codec_lawful.decode_printed _
  members := by
    refine ⟨(Report.codec.write report).tree, ?_, fun text hdeclared => ?_, ?_⟩
    · rw [hevaluated]
      exact Value.writtenAs_printed (Report.codec_lawful.proper report)
    · rw [hrendered text hdeclared, hdeclared]
      exact Value.writtenAs_printed (.string text)
    · rw [hpresented, ← Presentation.tree_write_ofRendered]
      exact Value.writtenAs_printed (Presentation.codec_lawful.proper _)

end Transcript

namespace Outcome

variable {format : OutputFormat} {coloured : Bool} {renderer : Renderer} {profile : Profile}

theorem output_ofPresentation_table :
    (ofPresentation .table coloured renderer profile).output =
      (ofEvaluation .table coloured profile).output ++
        if (ofRendering .table renderer profile).failure = none then
          "\n" ++ (ofRendering .table renderer profile).output
        else "" := by
  cases hrender : renderer.render profile <;>
    simp [ofPresentation, ofEvaluation, ofRendering, hrender, String.append_assoc]

end Outcome

namespace Transcript

variable {environment : Environment} {verbose coloured : Bool} {events : List Event}
  {renderer : Renderer} {profile : Profile}

theorem stacks_ofOutcome :
    (ofOutcome environment verbose ((Outcome.ofEvaluation .table coloured profile).after
      events)).Stacks
      (ofOutcome environment verbose ((Outcome.ofRendering .table renderer profile).after events))
      (ofOutcome environment verbose
        ((Outcome.ofPresentation .table coloured renderer profile).after events)) where
  success := by
    intro hstatus
    rw [status_ofOutcome_eq_zero_iff, Outcome.failure_after] at hstatus
    simp [Outcome.output_ofPresentation_table, hstatus, String.append_assoc]
  failure := by
    intro hstatus
    rw [ne_eq, status_ofOutcome_eq_zero_iff, Outcome.failure_after] at hstatus
    simp [Outcome.output_ofPresentation_table, hstatus]

theorem joins_ofOutcome :
    (ofOutcome environment verbose ((Outcome.ofEvaluation .json coloured profile).after
      events)).Joins
      (ofOutcome environment verbose ((Outcome.ofRendering .json renderer profile).after events))
      (ofOutcome environment verbose
        ((Outcome.ofPresentation .json coloured renderer profile).after events))
      profile.report (renderer.render profile) := by
  apply joins_of_printed
  · rfl
  · intro text hrender
    simp [Outcome.ofRendering, hrender]
  · rfl

end Transcript

namespace Environment

variable {environment : Environment} {invocation : Invocation} {source : Source}

/-- Without settings or without a profile, a command that is about a profile prints nothing. -/
theorem run_of_unsupplied {arguments : List String}
    (hread : Invocation.ofArguments arguments = .ok invocation)
    (hsource : invocation.command.source? = some source)
    (hnone : (¬∃ settings, environment.Configures
        (environment.configurationPath invocation.configuration) settings) ∨
      ¬∃ base, environment.Supplies source base) :
    (environment.run arguments).status = 1 ∧ (environment.run arguments).output = "" := by
  have hfailure : (environment.perform invocation).failure ≠ none := by
    rw [ne_eq, failure_perform_eq_none_iff]
    intro ⟨hconfigures, hsupplies⟩
    obtain ⟨base, hbase, -⟩ := hsupplies source hsource
    exact hnone.elim (· hconfigures) (· ⟨base, hbase⟩)
  rw [run_of_ofArguments hread]
  refine ⟨Transcript.status_ofOutcome_eq_one_iff.mpr hfailure, ?_⟩
  apply (output_perform_eq_empty_iff hfailure).mpr
  intro ⟨hconfigures, other, base, hcommand, hsupplies⟩
  rw [hcommand] at hsource
  cases hsource
  exact hnone.elim (· hconfigures) (· ⟨base, hsupplies⟩)

/-- Presenting a profile comes to what evaluating and rendering it come to. -/
theorem run_present {toEvaluate toRender toPresent : List String}
    (hevaluate : Invocation.ofArguments toEvaluate =
      .ok { invocation with command := .evaluate source })
    (hrender : Invocation.ofArguments toRender =
      .ok { invocation with command := .render source })
    (hpresent : Invocation.ofArguments toPresent =
      .ok { invocation with command := .present source }) :
    let path := environment.configurationPath invocation.configuration
    let evaluated := environment.run toEvaluate
    let rendered := environment.run toRender
    let presented := environment.run toPresent
    ((¬∃ settings, environment.Configures path settings) ∨
        (¬∃ base, environment.Supplies source base) →
      ∀ transcript ∈ [evaluated, rendered, presented],
        transcript.status = 1 ∧ transcript.output = "") ∧
    ∀ settings base, environment.Configures path settings → environment.Supplies source base →
      let profile := source.apply base
      let declared := settings.layout.declaration profile
      presented.status = rendered.status ∧
      (rendered.status = 0 ↔ ∃ text, declared = .ok text) ∧
      match (invocation.output.or settings.output).getD default with
      | .table => evaluated.Stacks rendered presented
      | .json => evaluated.Joins rendered presented profile.report declared := by
  intro path evaluated rendered presented
  refine ⟨fun hnone transcript hmem => ?_, fun settings base hconfigures hsupplies => ?_⟩
  · simp only [List.mem_cons, List.not_mem_nil, or_false] at hmem
    rcases hmem with rfl | rfl | rfl
    · exact run_of_unsupplied hevaluate rfl hnone
    · exact run_of_unsupplied hrender rfl hnone
    · exact run_of_unsupplied hpresent rfl hnone
  · intro profile declared
    let renderer : Renderer :=
      ⟨settings.layout, fault?_of_settings (settings_eq_ok_iff.mpr hconfigures)⟩
    -- All three are about the same profile and have the same format and layout.
    have hevaluated : evaluated = _ :=
      run_of_supplies hevaluate hconfigures rfl hsupplies renderer rfl
    have hrendered : rendered = _ :=
      run_of_supplies hrender hconfigures rfl hsupplies renderer rfl
    have hpresented : presented = _ :=
      run_of_supplies hpresent hconfigures rfl hsupplies renderer rfl
    simp only [answer] at hevaluated hrendered hpresented
    generalize (invocation.output.or settings.output).getD default = format
      at hevaluated hrendered hpresented ⊢
    rw [hevaluated, hrendered, hpresented]
    refine ⟨rfl, ?_, ?_⟩
    · rw [Transcript.status_ofOutcome_eq_zero_iff, Outcome.failure_after,
        Outcome.failure_ofRendering_eq_none_iff, ← Layout.exists_declaration_iff]
    · cases format with
      | table => exact Transcript.stacks_ofOutcome
      | json => exact Transcript.joins_ofOutcome

/-- A class with a public base, presented as JSON. There are no files. -/
theorem run_present_public_base :
    let environment : Environment := {}
    let line (word : String) := ["--output=json", word, "-a", "has_public_base_class"]
    let profile := (default : Profile).insert .publicBase
    (environment.run (line "show")).status = 0 ∧
      (environment.run (line "evaluate")).Joins (environment.run (line "render"))
        (environment.run (line "show")) profile.report
        (.ok "struct T : public Base1\n\x7b\n\x7d;") := by
  intro environment line profile
  let source : Source := { flags := [.publicBase] }
  let invocation : Invocation := { command := .list, output := some .json }
  have hevaluate : Invocation.ofArguments (line "evaluate") =
      .ok { invocation with command := .evaluate source } := by decide
  have hrender : Invocation.ofArguments (line "render") =
      .ok { invocation with command := .render source } := by decide
  have hpresent : Invocation.ofArguments (line "show") =
      .ok { invocation with command := .present source } := by decide
  have hconfigures : environment.Configures (environment.configurationPath none) default :=
    .inl ⟨⟨.missing, rfl, rfl⟩, rfl⟩
  have hsupplies : environment.Supplies source default := .inl ⟨rfl, rfl⟩
  have hdeclared : (default : Layout).declaration profile =
      .ok "struct T : public Base1\n\x7b\n\x7d;" := by decide
  obtain ⟨hsame, hsucceeds, hjoins⟩ :=
    (run_present hevaluate hrender hpresent).2 default default hconfigures hsupplies
  exact ⟨hsame.trans (hsucceeds.mpr ⟨_, hdeclared⟩), hdeclared ▸ hjoins⟩

end Environment

end TypeProfile
