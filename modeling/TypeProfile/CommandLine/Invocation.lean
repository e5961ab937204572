import TypeProfile.Settings

/-!
# Invocations

What a command line asks for. Profiles come from a file or from nothing, and what the command line
says of a profile is put on top of it.
-/

namespace TypeProfile.CommandLine

/-- Where the profile of a command comes from. -/
structure Source where
  file : Option String := none
  typeClass : Option TypeClass := none
  flags : List Attribute := []
deriving DecidableEq, Repr

/-- A profile with what the command line says put on top of it. No attribute can be taken off. -/
def Source.apply (source : Source) (base : Profile) : Profile :=
  { base with typeClass := source.typeClass.getD base.typeClass }.insertMany source.flags

inductive Command
  /-- The three verdicts on a profile. -/
  | evaluate (source : Source)
  /-- The declaration of a profile. -/
  | render (source : Source)
  /-- The verdicts and the declaration. -/
  | present (source : Source)
  /-- What is known about the attributes. -/
  | list
deriving DecidableEq, Repr

structure Invocation where
  command : Command
  configuration : Option String := none
  output : Option OutputFormat := none
  verbose : Bool := false
deriving DecidableEq, Repr

end TypeProfile.CommandLine
