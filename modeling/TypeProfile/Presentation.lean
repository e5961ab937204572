import TypeProfile.Wire

/-!
# Presentations

The verdicts on a type side by side with a declaration of it, or with what prevents one.
-/

namespace TypeProfile

/-- A report with a declaration or an error. -/
structure Presentation where
  report : Report
  declaration : Option String
  error : Option String
deriving DecidableEq

namespace Presentation

/-- A report together with what rendering came to. -/
def ofRendered (report : Report) : Except RenderError String → Presentation
  | .ok declaration => ⟨report, some declaration, none⟩
  | .error error => ⟨report, none, some error.message⟩

inductive Key
  | report
  | declaration
  | error
deriving DecidableEq, Repr

def keys : Vocabulary Key where
  all := [.report, .declaration, .error]
  name
    | .report => "report"
    | .declaration => "declaration"
    | .error => "error"
  find_name := by intro value; cases value <;> rfl

open Json in
def record : Record Key where
  title := "Presentation"
  keys := keys
  Content
    | .report => Report
    | .declaration | .error => Option String
  codec
    | .report => Report.codec
    | .declaration | .error => Codec.text.nullable
  absent _ := none
  omitted _ := none
  closed := false

def codec : Json.Codec Presentation :=
  record.toCodec.convert (fun values => ⟨values .report, values .declaration, values .error⟩)
    fun presentation => fun
      | .report => presentation.report
      | .declaration => presentation.declaration
      | .error => presentation.error

end Presentation

end TypeProfile
