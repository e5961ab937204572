import TypeProfile.Layout
import TypeProfile.Profile

/-!
# The base clause

A declaration names one base class for every inheritance attribute that is on. Bases are numbered
from one in the order in which they are named.
-/

namespace TypeProfile

/-- How a class inherits from a base. -/
inductive Inheritance
  | viaPublic
  | viaPrivate
  | viaProtected
  | viaVirtual
deriving DecidableEq, Repr

namespace Inheritance

/-- The order in which bases are named. -/
def all : List Inheritance :=
  [viaPublic, viaPrivate, viaProtected, viaVirtual]

def keyword : Inheritance → String
  | viaPublic => "public"
  | viaPrivate => "private"
  | viaProtected => "protected"
  | viaVirtual => "virtual"

def flag : Inheritance → Attribute
  | viaPublic => .publicBase
  | viaPrivate => .privateBase
  | viaProtected => .protectedBase
  | viaVirtual => .virtualBase

end Inheritance

/-- One base class of a declaration. -/
structure Base where
  inheritance : Inheritance
  name : String
deriving DecidableEq, Repr

def Base.text (base : Base) : String :=
  base.inheritance.keyword ++ " " ++ base.name

namespace Layout

/-- The base classes of a declaration. -/
def bases (layout : Layout) (profile : Profile) : List Base :=
  let inheritances := Inheritance.all.filter fun inheritance => profile.get inheritance.flag
  (inheritances.zipIdx 1).map fun entry => ⟨entry.1, layout.baseName entry.2⟩

/-- The base clause, empty if there is no base. -/
def baseClause (layout : Layout) (profile : Profile) : String :=
  match layout.bases profile with
  | [] => ""
  | bases => ": " ++ ", ".intercalate (bases.map Base.text)

end Layout

end TypeProfile
