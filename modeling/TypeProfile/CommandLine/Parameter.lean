import TypeProfile.CommandLine.Invocation
import TypeProfile.Text.Plain
import TypeProfile.Text.Styled

/-!
# Parameters and switches

The options of a command line: parameters come with a value, switches alone. Only the parameter for
attributes may be given more than once, since it adds to what was given before.
-/

namespace TypeProfile.CommandLine

/-- An option with a value. -/
inductive Parameter
  | configuration
  | output
  | typeClass
  | flag
  | file
deriving DecidableEq, Repr

/-- An option without a value. -/
inductive Switch
  | verbose
  | version
  | help
deriving DecidableEq, Repr

inductive Choice
  | parameter (parameter : Parameter)
  | switch (switch : Switch)
deriving DecidableEq, Repr

namespace Parameter

def long : Parameter → String
  | configuration => "config"
  | output => "output"
  | typeClass => "type"
  | flag => "attr"
  | file => "file"

def short : Parameter → Char
  | configuration => 'c'
  | output => 'o'
  | typeClass => 't'
  | flag => 'a'
  | file => 'f'

/-- How a usage text names a parameter and its value. -/
def usage : Parameter → String
  | configuration => "--config <CONFIG>"
  | output => "--output <OUTPUT>"
  | typeClass => "--type <TYPE_CLASS>"
  | flag => "--attr <ATTRS>"
  | file => "--file <FILE>"

end Parameter

namespace Switch

def long : Switch → String
  | verbose => "verbose"
  | version => "version"
  | help => "help"

def short : Switch → Char
  | verbose => 'v'
  | version => 'V'
  | help => 'h'

end Switch

namespace Choice

def long : Choice → String
  | parameter name => name.long
  | switch name => name.long

def short : Choice → Char
  | parameter name => name.short
  | switch name => name.short

end Choice

/-- What is wrong with a command line. -/
inductive UsageError
  | unexpected (argument : String)
  | missingCommand
  | missingValue (parameter : Parameter)
  | surplusValue (switch : Switch)
  | repeated (choice : Choice)
  | unknownFormat (text : String)
  | unknownTypeClass (error : TypeClass.NameError)
  | unknownAttribute (error : Attribute.NameError)
deriving DecidableEq, Repr

namespace UsageError

open Text

/-- An option in a complaint. -/
def literal (text : String) : String :=
  "'" ++ Style.bold.paint true text ++ "'"

/-- What was given, in a complaint. -/
def invalid (text : String) : String :=
  "'" ++ Style.yellow.paint true text ++ "'"

/-- A value that a parameter does not take. -/
def invalidValue (parameter : Parameter) (text : String) : String :=
  "invalid value " ++ invalid text ++ " for " ++ literal parameter.usage

def message : UsageError → String
  | unexpected argument => "unexpected argument " ++ invalid argument ++ " found"
  | missingCommand => "a command is required but none was given"
  | missingValue parameter =>
      "a value is required for " ++ literal parameter.usage ++ " but none was given"
  | surplusValue switch => "no value may be given for " ++ literal ("--" ++ switch.long)
  | repeated choice => literal ("--" ++ choice.long) ++ " may be given only once"
  | unknownFormat text => invalidValue .output text
  | unknownTypeClass (.unknown text) =>
      invalidValue .typeClass text ++ ": " ++ (TypeClass.NameError.unknown text).message
  | unknownAttribute (.unknown text) =>
      invalidValue .flag text ++ ": " ++ (Attribute.NameError.unknown text).message

/-- The complaint as it is printed. Without colour all escape sequences are taken out, be they those
of the styles or such as came with an argument. -/
def text (error : UsageError) (coloured : Bool) : String :=
  let complete := Style.red.paint true "error:" ++ " " ++ error.message ++
    "\n\nFor more information, try " ++ literal "--help" ++ ".\n"
  if coloured then complete else plain complete

end UsageError

/-- The options given so far. -/
structure Given where
  configuration : Option String := none
  output : Option OutputFormat := none
  typeClass : Option TypeClass := none
  flags : List Attribute := []
  file : Option String := none
  verbose : Bool := false
deriving DecidableEq, Repr

namespace Given

/-- Whether a parameter has a value that a second one may not replace. -/
def holds (given : Given) : Parameter → Bool
  | .configuration => given.configuration.isSome
  | .output => given.output.isSome
  | .typeClass => given.typeClass.isSome
  | .flag => false
  | .file => given.file.isSome

/-- One more parameter. That it is repeated is found before its value is looked at. -/
def insert (given : Given) (parameter : Parameter) (value : String) :
    Except UsageError Given :=
  if given.holds parameter then .error (.repeated (.parameter parameter))
  else match parameter with
    | .configuration => .ok { given with configuration := some value }
    | .output =>
        if value.isEmpty then .error (.missingValue .output)
        else match OutputFormat.vocabulary.ofName? value with
          | some format => .ok { given with output := some format }
          | none => .error (.unknownFormat value)
    | .typeClass => match TypeClass.parse value with
        | .ok typeClass => .ok { given with typeClass := some typeClass }
        | .error error => .error (.unknownTypeClass error)
    | .flag => match Attribute.parse value with
        | .ok flag => .ok { given with flags := given.flags ++ [flag] }
        | .error error => .error (.unknownAttribute error)
    | .file =>
        if value.isEmpty then .error (.missingValue .file)
        else .ok { given with file := some value }

end Given

end TypeProfile.CommandLine
