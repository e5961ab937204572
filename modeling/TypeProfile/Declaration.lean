import TypeProfile.Declaration.Base
import TypeProfile.Declaration.Constructor

/-!
# Declarations

An example declaration of a struct that shows what a profile says: its bases, its default
constructor, its virtual function and its data members. A renderer holds a layout that is known to
be usable, so that writing can fail only on what the profile asks for.
-/

namespace TypeProfile

namespace Layout

/-- The line of the virtual function, if the profile has one. -/
def virtualLine (layout : Layout) (profile : Profile) : String :=
  if profile.get .virtualFunction then layout.indent ++ "virtual f();\n" else ""

/-- The lines of the data members that the profile has. -/
def dataLines (layout : Layout) (profile : Profile) : String :=
  (if profile.get .memberInitializer then layout.indent ++ "int a = 0;\n" else "") ++
    if profile.get .initializerNeedyMember then layout.indent ++ "int& b;\n" else ""

/-- The first line: the name, and the bases if there are any. -/
def heading (layout : Layout) (profile : Profile) : String :=
  let clause := layout.baseClause profile
  "struct " ++ layout.structName ++ (if clause.isEmpty then "" else " " ++ clause)

/-- The declaration, or the conflict that prevents it. The base clause decides how many bases there
are to inherit a constructor from. -/
def declaration (layout : Layout) (profile : Profile) : Except RenderError String :=
  (profile.constructorStyle (layout.bases profile).length).map fun style =>
    layout.heading profile ++ "\n\x7b\n" ++ layout.constructorLine style ++
      layout.virtualLine profile ++ layout.dataLines profile ++ "\x7d;"

end Layout

/-- A layout without fault. -/
structure Renderer where
  layout : Layout
  faultless : layout.fault? = none

namespace Renderer

instance : Inhabited Renderer := ⟨default, Layout.fault?_default⟩

/-- A renderer with another layout, if that has no fault. What the renderer held before does not
matter. -/
def withLayout (_ : Renderer) (layout : Layout) : Except RenderError Renderer :=
  match faultless : layout.fault? with
  | none => .ok ⟨layout, faultless⟩
  | some fault => .error (.invalidLayout fault)

/-- The declaration of a profile. -/
def render (renderer : Renderer) (profile : Profile) : Except RenderError String :=
  renderer.layout.declaration profile

/-- Whether a profile has a declaration, found out without writing one. -/
def validate (_ : Renderer) (profile : Profile) : Except RenderError Unit :=
  (profile.constructorStyle profile.baseCount).map fun _ => ()

end Renderer

end TypeProfile
