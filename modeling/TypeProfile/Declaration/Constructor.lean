import TypeProfile.Layout
import TypeProfile.Profile

/-!
# The default constructor of a declaration

A declaration shows at most one default constructor, so a profile may ask for one style only, and
for an inherited constructor only if there is a base to inherit it from. These two conflicts and an
unusable layout are all that can keep a declaration from being written.
-/

namespace TypeProfile

/-- How a declaration introduces its default constructor. -/
inductive ConstructorStyle
  | userProvided
  | inherited
  | explicit
deriving DecidableEq, Repr

namespace ConstructorStyle

/-- The word for a style in encoded data. -/
def name : ConstructorStyle → String
  | userProvided => "user_provided"
  | inherited => "inherited"
  | explicit => "explicit"

/-- The word for a style in text for a reader. -/
def title : ConstructorStyle → String
  | userProvided => "user-provided"
  | style => style.name

def vocabulary : Vocabulary ConstructorStyle where
  all := [userProvided, inherited, explicit]
  name := name
  find_name := by intro value; cases value <;> rfl

/-- The attribute that asks for a style. -/
def flag : ConstructorStyle → Attribute
  | userProvided => .userProvidedDefaultConstructor
  | inherited => .inheritedDefaultConstructor
  | explicit => .explicitDefaultConstructor

end ConstructorStyle

/-- What keeps a declaration from being written. -/
inductive RenderError
  | ambiguousConstructor (styles : List ConstructorStyle)
  | danglingInheritedConstructor
  | invalidLayout (fault : Layout.Fault)
deriving DecidableEq, Repr

def RenderError.message : RenderError → String
  | ambiguousConstructor _ => "multiple default-constructor styles specified"
  | danglingInheritedConstructor => "inherited constructor specified with no base class"
  | invalidLayout fault => fault.message

namespace Profile

/-- The styles that a profile asks for, in the order of declaration. -/
def constructorStyles (profile : Profile) : List ConstructorStyle :=
  ConstructorStyle.vocabulary.all.filter fun style => profile.get style.flag

/-- The style of the default constructor in a declaration with `baseCount` bases. More than one
style is reported before a missing base. -/
def constructorStyle (profile : Profile) (baseCount : Nat) :
    Except RenderError (Option ConstructorStyle) :=
  match profile.constructorStyles with
  | [] => .ok none
  | [style] =>
      if style = .inherited ∧ baseCount = 0 then .error .danglingInheritedConstructor
      else .ok (some style)
  | styles => .error (.ambiguousConstructor styles)

end Profile

namespace Layout

/-- The line that introduces a default constructor, and nothing if there is none. -/
def constructorLine (layout : Layout) : Option ConstructorStyle → String
  | none => ""
  | some .userProvided => layout.indent ++ layout.structName ++ "() \x7b\x7d\n"
  | some .inherited =>
      layout.indent ++ "using " ++ layout.baseName 1 ++ "::" ++ layout.baseName 1 ++ ";\n"
  | some .explicit => layout.indent ++ "explicit " ++ layout.structName ++ "() = default;\n"

end Layout

end TypeProfile
