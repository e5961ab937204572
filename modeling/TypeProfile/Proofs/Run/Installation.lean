import Mathlib.Data.List.Induction
import TypeProfile.Proofs.Declaration.Conflict
import TypeProfile.Proofs.Run.Course

/-!
# Usable layouts only

A layout is checked when it is put into a renderer. However renderers are made, copied and given
other layouts, none of them ends up with one that is not usable. Settings are checked when they are
read, so a run that has settings passes the check of its renderer, and nothing that happens later
blames the layout.
-/

namespace TypeProfile

open CommandLine

namespace Renderer

variable {renderer installed : Renderer} {layout : Layout}

theorem withLayout_eq_ok_iff :
    renderer.withLayout layout = .ok installed ↔
      layout.fault? = none ∧ installed.layout = layout := by
  constructor
  · intro hinstalled
    unfold withLayout at hinstalled
    split at hinstalled
    next hfaultless =>
      cases hinstalled
      exact ⟨hfaultless, rfl⟩
    next => cases hinstalled
  · rintro ⟨hfaultless, rfl⟩
    exact renderer.withLayout_of_faultless hfaultless

theorem withLayout_eq_error_iff {error : RenderError} :
    renderer.withLayout layout = .error error ↔
      ∃ fault, layout.fault? = some fault ∧ .invalidLayout fault = error := by
  unfold withLayout
  split
  next hfaultless => simp [hfaultless]
  next fault hfault => simp [hfault]

theorem render_ne_invalidLayout (renderer : Renderer) (profile : Profile) (fault : Layout.Fault) :
    renderer.render profile ≠ .error (.invalidLayout fault) := by
  rw [render, ne_eq, Layout.declaration_eq_error_iff]
  exact profile.constructorStyle_ne_invalidLayout _ fault

theorem validate_ne_invalidLayout (renderer : Renderer) (profile : Profile)
    (fault : Layout.Fault) : renderer.validate profile ≠ .error (.invalidLayout fault) := by
  rw [validate, ne_eq, map_error_iff]
  exact profile.constructorStyle_ne_invalidLayout _ fault

/-- What can be done to the renderers that there are. -/
inductive Move
  /-- One more renderer, with the usual layout. -/
  | create
  /-- One more renderer, like the one at this place. -/
  | copy (place : Nat)
  /-- Another layout for the renderer at this place. -/
  | install (place : Nat) (layout : Layout)
deriving DecidableEq, Repr

/-- The renderers after a move. One that refuses its layout is lost. -/
def move (renderers : List Renderer) : Move → List Renderer
  | .create => renderers ++ [default]
  | .copy place => renderers ++ renderers[place]?.toList
  | .install place layout => match renderers[place]? with
      | none => renderers
      | some renderer => match renderer.withLayout layout with
          | .ok installed => renderers.set place installed
          | .error _ => renderers.eraseIdx place

/-- The renderers that there are after some moves, of which there were none before. -/
def moveMany (moves : List Move) : List Renderer :=
  moves.foldl move []

/-- A renderer that was not there before a move has the usual layout, or one that was put in and is
usable. -/
theorem layout_of_mem_move {renderers : List Renderer} {step : Move}
    (hmem : renderer ∈ move renderers step) :
    renderer ∈ renderers ∨ renderer.layout = default ∨
      (∃ place, step = .install place renderer.layout) ∧ renderer.layout.fault? = none := by
  cases step with
  | create =>
      obtain hbefore | hnew := List.mem_append.mp hmem
      · exact .inl hbefore
      · rw [List.mem_singleton.mp hnew]
        exact .inr (.inl rfl)
  | copy place =>
      obtain hbefore | hcopied := List.mem_append.mp hmem
      · exact .inl hbefore
      · exact .inl (List.mem_of_getElem? (Option.mem_toList.mp hcopied))
  | install place layout =>
      simp only [move] at hmem
      split at hmem
      next => exact .inl hmem
      next held hheld =>
        split at hmem
        next installed hinstalled =>
          obtain hbefore | rfl := List.mem_or_eq_of_mem_set hmem
          · exact .inl hbefore
          · obtain ⟨hfaultless, rfl⟩ := withLayout_eq_ok_iff.mp hinstalled
            exact .inr (.inr ⟨⟨place, rfl⟩, hfaultless⟩)
        next => exact .inl (List.mem_of_mem_eraseIdx hmem)

/-- After any moves, each renderer has the usual layout or one that was put in and is usable. -/
theorem layout_of_mem_moveMany {moves : List Move} (hmem : renderer ∈ moveMany moves) :
    renderer.layout = default ∨
      (∃ place, .install place renderer.layout ∈ moves) ∧ renderer.layout.fault? = none := by
  induction moves using List.reverseRecOn with
  | nil => cases hmem
  | append_singleton moves step ih =>
      rw [moveMany, List.foldl_append] at hmem
      obtain hbefore | husual | ⟨⟨place, rfl⟩, hfaultless⟩ := layout_of_mem_move hmem
      · obtain husual | ⟨⟨place, hinstalled⟩, hfaultless⟩ := ih hbefore
        · exact .inl husual
        · exact .inr ⟨⟨place, List.mem_append_left _ hinstalled⟩, hfaultless⟩
      · exact .inl husual
      · exact .inr ⟨⟨place, List.mem_append_right _ List.mem_cons_self⟩, hfaultless⟩

theorem fault?_of_mem_moveMany {moves : List Move} (hmem : renderer ∈ moveMany moves) :
    renderer.layout.fault? = none := by
  obtain husual | ⟨-, hfaultless⟩ := layout_of_mem_moveMany hmem
  · rw [husual]
    exact Layout.fault?_default
  · exact hfaultless

/-- The layouts that a renderer can come to have are the usable ones. -/
theorem exists_moveMany_iff :
    (∃ moves, ∃ renderer ∈ moveMany moves, renderer.layout = layout) ↔ layout.fault? = none := by
  constructor
  · rintro ⟨moves, renderer, hmem, rfl⟩
    exact fault?_of_mem_moveMany hmem
  · intro hfaultless
    refine ⟨[.create, .install 0 layout], ⟨layout, hfaultless⟩, ?_, rfl⟩
    simp [moveMany, move, withLayout_of_faultless _ hfaultless]

end Renderer

namespace Outcome

variable {format : OutputFormat} {coloured : Bool} {renderer : Renderer} {profile : Profile}

/-- Something is said against a layout, as the reason of a failure or along the way. -/
def BlamesLayout (outcome : Outcome) : Prop :=
  (∃ fault, outcome.failure = some (.render (.invalidLayout fault))) ∨
    ∃ error, .layoutRejected error ∈ outcome.events

theorem blamesLayout_failed_iff {failure : Failure} :
    (failed failure).BlamesLayout ↔ ∃ fault, failure = .render (.invalidLayout fault) := by
  simp [BlamesLayout]

theorem blamesLayout_after_loaded_iff {typeClass : TypeClass} {count : Nat} {outcome : Outcome} :
    (outcome.after [.loaded typeClass count]).BlamesLayout ↔ outcome.BlamesLayout := by
  simp [BlamesLayout, after]

theorem not_blamesLayout_ofEvaluation : ¬(ofEvaluation format coloured profile).BlamesLayout := by
  simp [BlamesLayout, ofEvaluation, Profile.evaluation]

theorem layoutRejected_notMem_events (renderer : Renderer) (profile : Profile)
    (error : RenderError) : .layoutRejected error ∉ renderer.events profile := by
  simp only [Renderer.events]
  split <;> simp

theorem not_blamesLayout_ofRendering : ¬(ofRendering format renderer profile).BlamesLayout := by
  rintro (⟨fault, hfailure⟩ | ⟨error, hevent⟩)
  · cases hrender : renderer.render profile with
    | ok text => simp [ofRendering, hrender] at hfailure
    | error error =>
        simp only [ofRendering, hrender, Option.some.injEq, Failure.render.injEq] at hfailure
        exact renderer.render_ne_invalidLayout profile fault (hfailure ▸ hrender)
  · exact layoutRejected_notMem_events renderer profile error hevent

/-- A presentation fails for the reason that a rendering fails. -/
theorem not_blamesLayout_ofPresentation :
    ¬(ofPresentation format coloured renderer profile).BlamesLayout := by
  rintro (hfailure | ⟨error, hevent⟩)
  · have hrendering : ¬(ofRendering format renderer profile).BlamesLayout :=
      not_blamesLayout_ofRendering
    exact hrendering (.inl hfailure)
  · obtain hevent | hevent := List.mem_cons.mp hevent
    · cases hevent
    · exact layoutRejected_notMem_events renderer profile error hevent

end Outcome

namespace Environment

variable {environment : Environment}

theorem settings_ne_render {path : String} {error : RenderError} :
    environment.settings path ≠ .error (.render error) := by
  unfold Environment.settings
  cases environment.file path with
  | ok text => simp [mapError_eq_error_iff]
  | error fault => cases habsence : fault.isAbsence <;> simp [habsence]

theorem load_ne_render {source : Source} {error : RenderError} :
    environment.load source ≠ .error (.render error) := by
  cases hfile : source.file with
  | none => simp [load_of_no_file hfile]
  | some path =>
      rw [load_of_file hfile, ne_eq, map_error_iff, Environment.profile]
      cases environment.file path <;> simp [mapError_eq_error_iff]

theorem not_blamesLayout_command {format : OutputFormat} {renderer : Renderer}
    {command : Command} : ¬(environment.command format renderer command).BlamesLayout := by
  cases hsource : command.source? with
  | none =>
      cases command <;> cases hsource
      simp [Environment.command, Outcome.BlamesLayout, Outcome.ofListing]
  | some source =>
      rw [command_eq_withProfile hsource]
      cases hload : environment.load source with
      | error failure =>
          rw [withProfile_of_load_error hload, Outcome.blamesLayout_failed_iff]
          rintro ⟨fault, rfl⟩
          exact load_ne_render hload
      | ok profile =>
          rw [withProfile_of_load_ok hload, Outcome.blamesLayout_after_loaded_iff]
          cases command with
          | evaluate source => exact Outcome.not_blamesLayout_ofEvaluation
          | render source => exact Outcome.not_blamesLayout_ofRendering
          | present source => exact Outcome.not_blamesLayout_ofPresentation
          | list => cases hsource

/-- Whatever a run fails for, it is not that its renderer refuses the layout of its settings. -/
theorem not_blamesLayout_perform (environment : Environment) (invocation : Invocation) :
    ¬(environment.perform invocation).BlamesLayout := by
  cases hsettings : environment.settings
      (environment.configurationPath invocation.configuration) with
  | error failure =>
      rw [perform_of_settings_error hsettings, Outcome.blamesLayout_failed_iff]
      rintro ⟨fault, rfl⟩
      exact settings_ne_render hsettings
  | ok settings =>
      rw [perform_of_settings_ok hsettings]
      exact not_blamesLayout_command

end Environment

/-- A renderer that is come by in any way has a usable layout and never blames it, and every usable
layout can be had. A layout is put in if it has no fault, and is refused for its fault otherwise.
Settings that were read, and the usual ones, are put in without fail, so no run ends there. -/
theorem layout_usable_throughout :
    (∀ layout : Layout,
      (∃ moves, ∃ renderer ∈ Renderer.moveMany moves, renderer.layout = layout) ↔
        layout.fault? = none) ∧
    (∀ (renderer : Renderer) (profile : Profile) (fault : Layout.Fault),
      renderer.render profile ≠ .error (.invalidLayout fault) ∧
        renderer.validate profile ≠ .error (.invalidLayout fault)) ∧
    (∀ (renderer : Renderer) (layout : Layout),
      ((∃ installed, renderer.withLayout layout = .ok installed) ↔ layout.fault? = none) ∧
      (∀ installed, renderer.withLayout layout = .ok installed → installed.layout = layout) ∧
      ∀ error, renderer.withLayout layout = .error error ↔
        ∃ fault, layout.fault? = some fault ∧ .invalidLayout fault = error) ∧
    (∀ settings, (settings = default ∨ ∃ text, Settings.parse text = .ok settings) →
      ∃ renderer, (default : Renderer).withLayout settings.layout = .ok renderer) ∧
    ∀ (environment : Environment) (invocation : Invocation),
      (∀ fault, (environment.perform invocation).failure ≠
        some (.render (.invalidLayout fault))) ∧
      ∀ error, .layoutRejected error ∉ (environment.perform invocation).events := by
  refine ⟨fun layout => Renderer.exists_moveMany_iff, fun renderer profile fault => ?_,
    fun renderer layout => ⟨?_, fun installed hinstalled => ?_, fun error => ?_⟩,
    fun settings hread => ?_, fun environment invocation => ?_⟩
  · exact ⟨renderer.render_ne_invalidLayout profile fault,
      renderer.validate_ne_invalidLayout profile fault⟩
  · constructor
    · rintro ⟨installed, hinstalled⟩
      exact (Renderer.withLayout_eq_ok_iff.mp hinstalled).1
    · intro hfaultless
      exact ⟨⟨layout, hfaultless⟩, renderer.withLayout_of_faultless hfaultless⟩
  · exact (Renderer.withLayout_eq_ok_iff.mp hinstalled).2
  · exact Renderer.withLayout_eq_error_iff
  · have hfaultless : settings.layout.fault? = none := by
      obtain rfl | ⟨text, hparse⟩ := hread
      · exact Layout.fault?_default
      · exact Settings.fault?_of_parse hparse
    exact ⟨_, Renderer.withLayout_of_faultless default hfaultless⟩
  · have hblameless := environment.not_blamesLayout_perform invocation
    exact ⟨fun fault hfailure => hblameless (.inl ⟨fault, hfailure⟩),
      fun error hevent => hblameless (.inr ⟨error, hevent⟩)⟩

end TypeProfile
