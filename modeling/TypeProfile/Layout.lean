import TypeProfile.Vocabulary
import TypeProfile.Text.Identifier
import TypeProfile.Text.Quoted

/-!
# Layouts

The names and the indentation that a declaration is written with. Any three texts make a layout;
`Layout.fault?` says what keeps one from being usable.
-/

namespace TypeProfile

/-- The names and the indentation of a declaration. -/
@[ext] structure Layout where
  structName : String := "T"
  basePrefix : String := "Base"
  indent : String := "    "
deriving DecidableEq, Repr

namespace Layout

instance : Inhabited Layout := ⟨{}⟩

inductive Field
  | structName
  | basePrefix
  | indent
deriving DecidableEq, Repr

namespace Field

def name : Field → String
  | structName => "struct_name"
  | basePrefix => "base_prefix"
  | indent => "indent"

def vocabulary : Vocabulary Field where
  all := [structName, basePrefix, indent]
  name := name
  find_name := by intro value; cases value <;> rfl

/-- Which texts may stand in a field. -/
def accepts : Field → String → Bool
  | structName | basePrefix => Text.isIdentifier
  | indent => Text.isIndentation

/-- What is said of a text that may not stand in a field. -/
def complaint : Field → String
  | structName | basePrefix => "not an identifier"
  | indent => "only spaces and tabs are allowed"

end Field

def get (layout : Layout) : Field → String
  | .structName => layout.structName
  | .basePrefix => layout.basePrefix
  | .indent => layout.indent

def ofFields (text : Field → String) : Layout where
  structName := text .structName
  basePrefix := text .basePrefix
  indent := text .indent

@[simp] theorem get_ofFields (text : Field → String) : (ofFields text).get = text := by
  funext field
  cases field <;> rfl

@[simp] theorem ofFields_get (layout : Layout) : ofFields layout.get = layout := rfl

/-- A text in a field that does not accept it. -/
structure Fault where
  field : Field
  value : String
deriving DecidableEq, Repr

def Fault.message (fault : Fault) : String :=
  "invalid render config: " ++ fault.field.name ++ " = " ++ Text.quote fault.value ++
    " (" ++ fault.field.complaint ++ ")"

/-- The first field, in the order of declaration, whose text it does not accept. -/
def fault? (layout : Layout) : Option Fault :=
  (Field.vocabulary.all.find? fun field => !field.accepts (layout.get field)).map fun field =>
    ⟨field, layout.get field⟩

/-- The name of the base class with number `n`. -/
def baseName (layout : Layout) (n : Nat) : String :=
  layout.basePrefix ++ n.repr

theorem fault?_eq_none_iff (layout : Layout) :
    layout.fault? = none ↔ ∀ field : Field, field.accepts (layout.get field) = true := by
  simp [fault?, Field.vocabulary.mem_all]

theorem fault?_default : (default : Layout).fault? = none := by
  rw [fault?_eq_none_iff]
  intro field
  cases field <;> decide

end Layout

end TypeProfile
