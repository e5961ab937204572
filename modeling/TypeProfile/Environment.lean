import TypeProfile.Journal

/-!
# Environments

What a run may find out about the world: variables, files, and whether a reader watches. A file is
looked up by its path; what its path leads to is found once and stays the same during the run.
-/

namespace TypeProfile

/-- Why a file cannot be read. -/
inductive FileFault
  | missing
  | forbidden
  | throughFile
  | directory
  | nameTooLong
  | notText
deriving DecidableEq, Repr

def FileFault.message : FileFault → String
  | missing => "No such file or directory (os error 2)"
  | forbidden => "Permission denied (os error 13)"
  | throughFile => "Not a directory (os error 20)"
  | directory => "Is a directory (os error 21)"
  | nameTooLong => "File name too long (os error 36)"
  | notText => "stream did not contain valid UTF-8"

/-- Whether there is no file at all, so that none can be meant. -/
def FileFault.isAbsence : FileFault → Bool
  | missing | throughFile | nameTooLong => true
  | _ => false

/-- The text that bytes encode. -/
def textOfBytes (bytes : ByteArray) : Except FileFault String :=
  match String.fromUTF8? bytes with
  | some text => .ok text
  | none => .error .notText

/-- What a run can see. -/
structure Environment where
  lookup : String → Option String := fun _ => none
  file : String → Except FileFault String := fun _ => .error .missing
  /-- The output goes to a terminal. -/
  onTerminal : Bool := false

namespace Environment

variable (environment : Environment)

/-- A variable is set to something, be it nothing. -/
def isSet (name : String) : Bool :=
  (environment.lookup name).isSome

/-- A variable is set to something other than zero. -/
def isOn (name : String) : Bool :=
  (environment.lookup name).any (· != "0")

/-- A variable is set, and not to the empty text. -/
def isFilled (name : String) : Bool :=
  (environment.lookup name).any fun value => !value.isEmpty

/-- A reader watches who is not said to mind colour. -/
def isColourful : Bool :=
  environment.onTerminal && environment.lookup "CLICOLOR" != some "0"

/-- Whether results are coloured. Asking for colour beats refusing it. -/
def coloursResults : Bool :=
  environment.isOn "CLICOLOR_FORCE" || (!environment.isSet "NO_COLOR" && environment.isColourful)

/-- Whether complaints about the command line are coloured. Refusing colour beats asking for it, and
whatever the variable for asking says is taken for a yes. -/
def coloursUsage : Bool :=
  !environment.isFilled "NO_COLOR" &&
    (environment.isFilled "CLICOLOR_FORCE" || environment.isColourful)

/-- Whether the journal is coloured, watched or not. -/
def coloursJournal : Bool :=
  !environment.isFilled "NO_COLOR"

/-- What is shown of the journal. A variable beats the command line if it holds a filter. -/
def journalFilter (verbose : Bool) : Journal.Filter :=
  let written := (environment.lookup "RUST_LOG").bind Journal.Filter.ofText?
  written.getD (.upTo (if verbose then .debug else .info))

/-- The directory for configurations: one that is named from the root, or one in the home. -/
def configurationDirectory : String :=
  match (environment.lookup "XDG_CONFIG_HOME").filter (·.startsWith "/") with
  | some directory => directory
  | none => (environment.lookup "HOME").getD "" ++ "/.config"

/-- The configuration to read, if the command line may name one. -/
def configurationPath (named : Option String) : String :=
  match named.or (environment.lookup "TYPETRAITS_CONFIG") with
  | some path => path
  | none => environment.configurationDirectory ++ "/typetraits/config.toml"

end Environment

end TypeProfile
