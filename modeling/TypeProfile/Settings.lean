import TypeProfile.Toml.Document
import TypeProfile.Wire

/-!
# Settings

A configuration says in which format results are printed and with which layout declarations are
written. It overrides what it names and nothing else, and its layout has to be usable.
-/

namespace TypeProfile

/-- How results are printed. -/
inductive OutputFormat
  | table
  | json
deriving DecidableEq, Repr

namespace OutputFormat

instance : Inhabited OutputFormat := ⟨table⟩

def name : OutputFormat → String
  | table => "table"
  | json => "json"

def vocabulary : Vocabulary OutputFormat where
  all := [table, json]
  name := name
  find_name := by intro value; cases value <;> rfl

def codec : Json.Codec OutputFormat :=
  .word vocabulary

end OutputFormat

/-- What a configuration says. -/
structure Settings where
  output : Option OutputFormat := none
  layout : Layout := default
deriving DecidableEq

namespace Settings

instance : Inhabited Settings := ⟨{}⟩

/-- Why a text is no configuration. -/
inductive Error
  | text (fault : Toml.Fault)
  | layout (fault : Layout.Fault)
deriving DecidableEq, Repr

def Error.message : Error → String
  | text fault => fault.message
  | layout fault => fault.message

/-- The format that a value names: a string, or a table whose only key is the format and holds
nothing. -/
def format (value : Toml.Value) : Except Toml.Fault OutputFormat :=
  let named (name : String) := match OutputFormat.vocabulary.ofName? name with
    | some format => .ok format
    | none => .error (.wrongType "output")
  match value with
  | .string name => named name
  | .table _ [(name, .array [])] => named name
  | .table _ [(name, .table _ [])] => named name
  | _ => .error (.wrongType "output")

/-- The text of a field of the layout, if there is a value for it. -/
def fieldText (field : Layout.Field) : Option Toml.Value → Except Toml.Fault String
  | none => .ok ((default : Layout).get field)
  | some (.string text) => .ok text
  | some _ => .error (.wrongType field.name)

/-- A layout in which every field that is given a value has it. -/
def layoutOf (given : Layout.Field → Option Toml.Value) : Except Toml.Fault Layout := do
  let structName ← fieldText .structName (given .structName)
  let basePrefix ← fieldText .basePrefix (given .basePrefix)
  let indent ← fieldText .indent (given .indent)
  pure { structName, basePrefix, indent }

/-- The layout that a value writes: a table, or an array that lists the fields alone. A date or a
time counts as a table that has none of the fields. -/
def layoutOfValue : Toml.Value → Except Toml.Fault Layout
  | .table _ entries => layoutOf fun field => Toml.Table.get? entries field.name
  | .array items => layoutOf fun field => items[Layout.Field.vocabulary.all.idxOf field]?
  | .moment _ => .ok default
  | _ => .error (.wrongType "render")

/-- The settings that a table writes, usable or not. Keys without a meaning are passed over. -/
def ofTable (table : Toml.Table) : Except Toml.Fault Settings := do
  let output ← (table.get? "output").mapM format
  let layout ← match table.get? "render" with
    | none => pure default
    | some value => layoutOfValue value
  pure { output, layout }

/-- The settings that a text writes. -/
def parse (text : String) : Except Error Settings :=
  match Toml.tableOf text >>= ofTable with
  | .error fault => .error (.text fault)
  | .ok settings => match settings.layout.fault? with
      | none => .ok settings
      | some fault => .error (.layout fault)

/-- Settings as JSON. -/
def toJson (settings : Settings) : Json.Value :=
  .object [("output", OutputFormat.codec.nullable.write settings.output),
    ("render", Layout.codec.write settings.layout)]

/-- The layout of settings that were read has no fault. -/
theorem fault?_of_parse {text : String} {settings : Settings}
    (parsed : parse text = .ok settings) : settings.layout.fault? = none := by
  rw [parse] at parsed
  split at parsed
  · cases parsed
  · split at parsed
    next faultless => cases parsed; exact faultless
    next => cases parsed

end Settings

end TypeProfile
