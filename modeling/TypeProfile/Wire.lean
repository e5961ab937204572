import TypeProfile.Json.Record
import TypeProfile.Layout
import TypeProfile.Report
import TypeProfile.Declaration.Constructor

/-!
# Profiles, verdicts and layouts as JSON

The records in which profiles are handed in and results are handed out. An attribute that is not
named is off, and no attribute may be named that does not exist. Verdicts and reports give every
key, except that reasons may be left out where there are none.
-/

namespace TypeProfile

open Json

def TypeClass.codec : Codec TypeClass :=
  .word vocabulary

def Attribute.codec : Codec Attribute :=
  .word vocabulary

def Attribute.Group.codec : Codec Attribute.Group :=
  .word vocabulary

def Attribute.Compound.codec : Codec Attribute.Compound :=
  .word vocabulary

def Criterion.codec : Codec Criterion :=
  .word vocabulary

def ConstructorStyle.codec : Codec ConstructorStyle :=
  .word vocabulary

namespace Flags

def record : Record Attribute where
  title := "Attributes"
  keys := Attribute.vocabulary
  Content _ := Bool
  codec _ := .boolean
  absent _ := some false
  omitted _ := some false
  closed := true

def codec : Codec Flags :=
  record.toCodec.convert Flags.mk Flags.get

end Flags

namespace Profile

inductive Key
  | typeClass
  | attributes
deriving DecidableEq, Repr

def keys : Vocabulary Key where
  all := [.typeClass, .attributes]
  name
    | .typeClass => "type_class"
    | .attributes => "attributes"
  find_name := by intro value; cases value <;> rfl

def record : Record Key where
  title := "AttributeSet"
  keys := keys
  Content
    | .typeClass => TypeClass
    | .attributes => Flags
  codec
    | .typeClass => TypeClass.codec
    | .attributes => Flags.codec
  absent
    | .typeClass => none
    | .attributes => some .none
  omitted
    | .typeClass => none
    | .attributes => some .none
  closed := false

def codec : Codec Profile :=
  record.toCodec.convert (fun values => ⟨values .typeClass, values .attributes⟩)
    fun profile => fun
      | .typeClass => profile.typeClass
      | .attributes => profile.flags

end Profile

namespace Reasons

def record : Record Criterion where
  title := "AggregateReasons"
  keys := Criterion.titles
  Content _ := Bool
  codec _ := .boolean
  absent _ := none
  omitted _ := none
  closed := false

def codec : Codec Reasons :=
  record.toCodec.convert Reasons.mk Reasons.get

end Reasons

namespace Verdict

inductive Key
  | typeClass
  | isAggregate
  | reasons
deriving DecidableEq, Repr

def keys : Vocabulary Key where
  all := [.typeClass, .isAggregate, .reasons]
  name
    | .typeClass => "type_class"
    | .isAggregate => "is_aggregate"
    | .reasons => "reasons"
  find_name := by intro value; cases value <;> rfl

def record : Record Key where
  title := "AggregateVerdict"
  keys := keys
  Content
    | .typeClass => TypeClass
    | .isAggregate => Bool
    | .reasons => Option Reasons
  codec
    | .typeClass => TypeClass.codec
    | .isAggregate => .boolean
    | .reasons => Reasons.codec.nullable
  absent
    | .typeClass => none
    | .isAggregate => none
    | .reasons => some none
  omitted _ := none
  closed := false

def codec : Codec Verdict :=
  record.toCodec.convert
    (fun values => ⟨values .typeClass, values .isAggregate, values .reasons⟩)
    fun verdict => fun
      | .typeClass => verdict.typeClass
      | .isAggregate => verdict.isAggregate
      | .reasons => verdict.reasons

end Verdict

namespace Report

inductive Key
  | typeClass
  | aggregate
  | defaultConstructible
  | triviallyDefaultConstructible
deriving DecidableEq, Repr

def keys : Vocabulary Key where
  all := [.typeClass, .aggregate, .defaultConstructible, .triviallyDefaultConstructible]
  name
    | .typeClass => "type_class"
    | .aggregate => "aggregate"
    | .defaultConstructible => "default_constructible"
    | .triviallyDefaultConstructible => "trivially_default_constructible"
  find_name := by intro value; cases value <;> rfl

def record : Record Key where
  title := "TraitReport"
  keys := keys
  Content
    | .typeClass => TypeClass
    | .aggregate => Verdict
    | .defaultConstructible => Bool
    | .triviallyDefaultConstructible => Bool
  codec
    | .typeClass => TypeClass.codec
    | .aggregate => Verdict.codec
    | .defaultConstructible => .boolean
    | .triviallyDefaultConstructible => .boolean
  absent _ := none
  omitted _ := none
  closed := false

def codec : Codec Report :=
  record.toCodec.convert
    (fun values => ⟨values .typeClass, values .aggregate, values .defaultConstructible,
      values .triviallyDefaultConstructible⟩)
    fun report => fun
      | .typeClass => report.typeClass
      | .aggregate => report.aggregate
      | .defaultConstructible => report.defaultConstructible
      | .triviallyDefaultConstructible => report.triviallyDefaultConstructible

end Report

namespace Layout

def record : Record Field where
  title := "RenderConfig"
  keys := Field.vocabulary
  Content _ := String
  codec _ := .text
  absent field := some ((default : Layout).get field)
  omitted field := some ((default : Layout).get field)
  closed := false

def codec : Codec Layout :=
  record.toCodec.convert ofFields get

end Layout

end TypeProfile
