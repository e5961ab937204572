import TypeProfile.Declaration
import TypeProfile.Report
import TypeProfile.Text.Styled

/-!
# Events

What is worth noting while a profile is worked on. An event is noted where it happens, whether it
is shown or not.
-/

namespace TypeProfile

namespace Journal

/-- How important an event is. -/
inductive Level
  | error
  | warn
  | info
  | debug
  | trace
deriving DecidableEq, Repr

namespace Level

/-- The more levels are at least as important, the higher the rank. -/
def rank : Level → Nat
  | error => 0
  | warn => 1
  | info => 2
  | debug => 3
  | trace => 4

/-- The name of a level in five columns. -/
def label : Level → String
  | error => "ERROR"
  | warn => " WARN"
  | info => " INFO"
  | debug => "DEBUG"
  | trace => "TRACE"

def style : Level → Text.Style
  | error => .red
  | warn => .yellow
  | info => .green
  | debug => .blue
  | trace => .magenta

end Level

end Journal

open Journal

/-- Something that happened. -/
inductive Event
  | loaded (typeClass : TypeClass) (enabled : Nat)
  | evaluated (report : Report) (enabled : Nat)
  | basesNamed (count : Nat)
  | constructorChosen (style : Option ConstructorStyle)
  | rendered (typeClass : TypeClass) (bytes : Nat)
  | profileRejected (error : RenderError)
  | layoutRejected (error : RenderError)
deriving DecidableEq

namespace Event

def level : Event → Level
  | profileRejected _ | layoutRejected _ => .warn
  | _ => .debug

/-- The part of the program that an event belongs to. -/
def origin : Event → String
  | loaded .. => "typetraits_cli::input"
  | evaluated .. => "typetraits_evaluator::report"
  | basesNamed _ | constructorChosen _ => "typetraits_render::fragment"
  | rendered .. | profileRejected _ | layoutRejected _ => "typetraits_render::renderer"

def message : Event → String
  | loaded .. => "loaded attribute set"
  | evaluated .. => "evaluated attribute set"
  | basesNamed _ => "built inheritance fragment"
  | constructorChosen _ => "built default-constructor fragment"
  | rendered .. => "rendered declaration"
  | profileRejected _ => "rejected attribute set"
  | layoutRejected _ => "rejected render config"

/-- How a choice of constructor is noted. -/
def choiceText : Option ConstructorStyle → String
  | none => "None"
  | some .userProvided => "Some(UserProvided)"
  | some .inherited => "Some(Inherited)"
  | some .explicit => "Some(Explicit)"

/-- What is noted with an event, by name. -/
def details : Event → List (String × String)
  | loaded typeClass enabled => [("type_class", typeClass.name), ("enabled", enabled.repr)]
  | evaluated report enabled =>
      [ ("type_class", report.typeClass.name), ("enabled", enabled.repr),
        ("aggregate", truth.name report.isAggregate),
        ("default_constructible", truth.name report.defaultConstructible),
        ("trivially_default_constructible", truth.name report.triviallyDefaultConstructible) ]
  | basesNamed count => [("base_count", count.repr)]
  | constructorChosen style => [("style", choiceText style)]
  | rendered typeClass bytes => [("type_class", typeClass.name), ("bytes", bytes.repr)]
  | profileRejected error | layoutRejected error => [("error", error.message)]

/-- An event on a line of its own. -/
def line (event : Event) (coloured : Bool) : String :=
  let detail (entry : String × String) :=
    " " ++ Text.Style.italic.paint coloured entry.1 ++
      Text.Style.dimmed.paint coloured "=" ++ entry.2
  event.level.style.paint coloured event.level.label ++ " " ++
    Text.Style.dimmed.paint coloured event.origin ++ Text.Style.dimmed.paint coloured ":" ++ " " ++
    event.message ++ String.join (event.details.map detail) ++ "\n"

end Event

/-- What happens when a profile is evaluated. -/
def Profile.evaluation (profile : Profile) : Event :=
  .evaluated profile.report profile.enabled.length

/-- What happens when a profile is rendered. -/
def Renderer.events (renderer : Renderer) (profile : Profile) : List Event :=
  let count := (renderer.layout.bases profile).length
  .basesNamed count ::
    match profile.constructorStyle count, renderer.render profile with
    | .ok style, .ok text =>
        [.constructorChosen style, .rendered profile.typeClass text.utf8ByteSize]
    | .error error, _ | _, .error error => [.profileRejected error]

end TypeProfile
