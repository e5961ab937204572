import TypeProfile.CommandLine.Arguments
import TypeProfile.Environment
import TypeProfile.Json.Message
import TypeProfile.Listing
import TypeProfile.Presentation
import TypeProfile.Report.Text

/-!
# Runs

A run takes a command line and an environment to what is printed and an exit status. First comes
the configuration, then the profile, then the command; the first of them that fails ends the run.
What a command has printed by then stays printed.
-/

namespace TypeProfile

open CommandLine

/-- What makes a run fail. -/
inductive Failure
  | file (fault : FileFault)
  | configuration (error : Settings.Error)
  | profile (fault : Json.Fault)
  | render (error : RenderError)
deriving DecidableEq, Repr

def Failure.message : Failure → String
  | file fault => "IO error: " ++ fault.message
  | configuration error => "Configuration error: " ++ error.message
  | profile fault => "Invalid attribute set: " ++ fault.message
  | render error => "Cannot render: " ++ error.message

/-- What a command comes to. -/
structure Outcome where
  output : String := ""
  events : List Event := []
  failure : Option Failure := none
deriving DecidableEq

namespace Outcome

/-- Nothing but a failure. -/
def failed (failure : Failure) : Outcome :=
  { failure := some failure }

/-- An outcome after some events. -/
def after (events : List Event) (outcome : Outcome) : Outcome :=
  { outcome with events := events ++ outcome.events }

end Outcome

/-- The settings that a file holds. There need not be such a file. -/
def Environment.settings (environment : Environment) (path : String) : Except Failure Settings :=
  match environment.file path with
  | .ok text => (Settings.parse text).mapError .configuration
  | .error fault => if fault.isAbsence then .ok default else .error (.file fault)

/-- The profile that a file holds. -/
def Environment.profile (environment : Environment) (path : String) : Except Failure Profile :=
  match environment.file path with
  | .ok text => (Profile.codec.decode text).mapError .profile
  | .error fault => .error (.file fault)

/-- The profile that a source describes. -/
def Environment.load (environment : Environment) (source : Source) : Except Failure Profile :=
  source.apply <$> match source.file with
    | none => pure default
    | some path => environment.profile path

/-- Goes on with the profile that a source describes, if there is one. -/
def Environment.withProfile (environment : Environment) (source : Source)
    (next : Profile → Outcome) : Outcome :=
  match environment.load source with
  | .error failure => .failed failure
  | .ok profile => (next profile).after [.loaded profile.typeClass profile.enabled.length]

/-- A JSON value as the output of a command. -/
def printed (value : Json.Value) : String :=
  value.pretty ++ "\n"

/-- Evaluating a profile prints the three verdicts, and never fails. -/
def Outcome.ofEvaluation (format : OutputFormat) (coloured : Bool) (profile : Profile) :
    Outcome where
  output := match format with
    | .table => profile.report.text coloured
    | .json => printed (Report.codec.write profile.report)
  events := [profile.evaluation]

/-- Rendering a profile prints its declaration, or nothing if there is none. -/
def Outcome.ofRendering (format : OutputFormat) (renderer : Renderer) (profile : Profile) :
    Outcome where
  output := match renderer.render profile with
    | .error _ => ""
    | .ok text => match format with
        | .table => text ++ "\n"
        | .json => printed (.string text)
  events := renderer.events profile
  failure := match renderer.render profile with
    | .error error => some (.render error)
    | .ok _ => none

/-- Presenting a profile prints the verdicts, and then the declaration if there is one. -/
def Outcome.ofPresentation (format : OutputFormat) (coloured : Bool) (renderer : Renderer)
    (profile : Profile) : Outcome where
  output := match format with
    | .table => profile.report.text coloured ++ match renderer.render profile with
        | .ok text => "\n" ++ text ++ "\n"
        | .error _ => ""
    | .json => printed <| Presentation.codec.write <|
        .ofRendered profile.report (renderer.render profile)
  events := profile.evaluation :: renderer.events profile
  failure := match renderer.render profile with
    | .error error => some (.render error)
    | .ok _ => none

/-- Listing prints what is known about all attributes. -/
def Outcome.ofListing (format : OutputFormat) : Outcome where
  output := match format with
    | .table => Attribute.table Attribute.vocabulary.all ++ "\n"
    | .json => printed (Attribute.listing Attribute.vocabulary.all)

namespace Environment

variable (environment : Environment)

/-- A command under given settings. -/
def command (format : OutputFormat) (renderer : Renderer) : Command → Outcome
  | .evaluate source =>
      environment.withProfile source (.ofEvaluation format environment.coloursResults)
  | .render source => environment.withProfile source (.ofRendering format renderer)
  | .present source =>
      environment.withProfile source (.ofPresentation format environment.coloursResults renderer)
  | .list => .ofListing format

/-- What an invocation comes to. -/
def perform (invocation : Invocation) : Outcome :=
  match environment.settings (environment.configurationPath invocation.configuration) with
  | .error failure => .failed failure
  | .ok settings => match (default : Renderer).withLayout settings.layout with
      | .error error => (Outcome.failed (.render error)).after [.layoutRejected error]
      | .ok renderer =>
          environment.command ((invocation.output.or settings.output).getD default) renderer
            invocation.command

/-- The files that an invocation may look at. -/
def paths (invocation : Invocation) : List String :=
  let source? := match invocation.command with
    | .evaluate source | .render source | .present source => source.file
    | .list => none
  environment.configurationPath invocation.configuration :: source?.toList

theorem load_congr {first second : Environment} {source : Source}
    (same : ∀ path ∈ source.file, first.file path = second.file path) :
    first.load source = second.load source := by
  cases named : source.file with
  | none => simp [load, named]
  | some path => simp [load, profile, named, same path named]

/-- An invocation looks at no other files. -/
theorem perform_congr {first second : Environment} {invocation : Invocation}
    (sameVariables : first.lookup = second.lookup)
    (sameTerminal : first.onTerminal = second.onTerminal)
    (sameFiles : ∀ path ∈ first.paths invocation, first.file path = second.file path) :
    first.perform invocation = second.perform invocation := by
  have samePath : first.configurationPath = second.configurationPath := by
    funext named
    simp [configurationPath, configurationDirectory, sameVariables]
  have sameColour : first.coloursResults = second.coloursResults := by
    simp [coloursResults, isOn, isSet, isColourful, sameVariables, sameTerminal]
  have sameSettings := sameFiles _ List.mem_cons_self
  have sameCommand (format : OutputFormat) (renderer : Renderer) :
      first.command format renderer invocation.command =
        second.command format renderer invocation.command := by
    cases asked : invocation.command with
    | evaluate source | render source | present source =>
        have := load_congr fun path named =>
          sameFiles path (List.mem_cons_of_mem _ (by simpa [asked] using named))
        simp only [command, withProfile, this, sameColour]
    | list => rfl
  simp only [perform, settings, ← samePath, sameSettings, sameCommand]

end Environment

/-- What a run leaves behind. -/
structure Transcript where
  status : Nat
  output : String
  complaints : String
deriving DecidableEq, Repr

namespace Transcript

/-- How to call the program. -/
def help : String :=
  "Usage: typetraits [OPTIONS] <COMMAND>\n\n" ++
    "Commands: evaluate, render, show, attributes\n"

def version : String :=
  "typetraits 0.1.0\n"

/-- The transcript of a run that ended with its command line. -/
def ofStop (coloured : Bool) : Stop → Transcript
  | .version => ⟨0, version, ""⟩
  | .help => ⟨0, help, ""⟩
  | .usage error => ⟨2, "", error.text coloured⟩

/-- The last line of a run that failed. -/
def lastLine (coloured : Bool) (failure : Failure) : String :=
  mark coloured false ++ " " ++ failure.message ++ "\n"

/-- The transcript of a run whose command line was understood. -/
def ofOutcome (environment : Environment) (verbose : Bool) (outcome : Outcome) : Transcript where
  status := if outcome.failure.isSome then 1 else 0
  output := outcome.output
  complaints :=
    Journal.text (environment.journalFilter verbose) environment.coloursJournal outcome.events ++
      (outcome.failure.map (lastLine environment.coloursResults)).getD ""

end Transcript

/-- A run from beginning to end. -/
def Environment.run (environment : Environment) (arguments : List String) : Transcript :=
  match Invocation.ofArguments arguments with
  | .error stop => .ofStop environment.coloursUsage stop
  | .ok invocation =>
      .ofOutcome environment invocation.verbose (environment.perform invocation)

end TypeProfile
