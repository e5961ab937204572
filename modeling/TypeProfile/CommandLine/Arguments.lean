import TypeProfile.CommandLine.Parameter

/-!
# Arguments

A command line has two levels: the options before the name of the command and those after it. Each
is read from left to right. A value that stands apart from its option is looked at only when the
next option or the end of the level is reached, so an argument that does not belong is reported
before a wrong value directly in front of it. What is given after the command's name comes before
what is given in front of it, in effect and in complaints.
-/

namespace TypeProfile.CommandLine

/-- The name of a command, before its options are known. -/
inductive CommandName
  | evaluate
  | render
  | present
  | list
deriving DecidableEq, Repr

/-- The command that an argument names. -/
def CommandName.ofWord? : String → Option CommandName
  | "evaluate" | "eval" => some evaluate
  | "render" => some render
  | "show" => some present
  | "attributes" => some list
  | _ => none

/-- Where on a command line an argument stands. -/
inductive Level
  | front
  | within (name : CommandName)
deriving DecidableEq, Repr

namespace Level

/-- The options that may be given at a level. -/
def choices : Level → List Choice
  | front => [.parameter .configuration, .parameter .output, .switch .verbose, .switch .help,
      .switch .version]
  | within .list => [.parameter .configuration, .parameter .output, .switch .verbose,
      .switch .help]
  | within _ => [.parameter .typeClass, .parameter .flag, .parameter .file,
      .parameter .configuration, .parameter .output, .switch .verbose, .switch .help]

def ofLong? (level : Level) (name : String) : Option Choice :=
  level.choices.find? fun choice => choice.long == name

def ofShort? (level : Level) (name : Char) : Option Choice :=
  level.choices.find? fun choice => choice.short == name

/-- The command that an argument names at a level. -/
def command? : Level → String → Option CommandName
  | front, argument => CommandName.ofWord? argument
  | within _, _ => none

end Level

/-- Why the reading of a command line ends early. -/
inductive Stop
  | usage (error : UsageError)
  | version
  | help
deriving DecidableEq, Repr

/-- What is still open about the last parameter. -/
inductive Pending
  | nothing
  /-- Its value comes next. -/
  | awaiting (parameter : Parameter)
  /-- Its value has come, but was not looked at. -/
  | holding (parameter : Parameter) (value : String)
deriving DecidableEq, Repr

/-- A level that has been read in part. -/
structure Reading where
  given : Given := {}
  pending : Pending := .nothing
deriving DecidableEq, Repr

namespace Reading

def isAwaiting (reading : Reading) : Bool :=
  match reading.pending with
  | .awaiting _ => true
  | _ => false

/-- The options given, the last one included. -/
def settle (reading : Reading) : Except Stop Given :=
  match reading.pending with
  | .nothing => .ok reading.given
  | .awaiting parameter => .error (.usage (.missingValue parameter))
  | .holding parameter value => (reading.given.insert parameter value).mapError .usage

/-- A parameter whose value has yet to come. -/
def await (reading : Reading) (parameter : Parameter) : Except Stop Reading := do
  let given ← reading.settle
  pure ⟨given, .awaiting parameter⟩

/-- A parameter that comes together with its value. -/
def attach (reading : Reading) (parameter : Parameter) (value : List Char) :
    Except Stop Reading := do
  let given ← reading.settle
  let given ← (given.insert parameter (String.ofList value)).mapError .usage
  pure ⟨given, .nothing⟩

/-- A switch. -/
def turnOn (reading : Reading) (switch : Switch) : Except Stop Reading := do
  let given ← reading.settle
  match switch with
  | .version => .error .version
  | .help => .error .help
  | .verbose =>
      if given.verbose then .error (.usage (.repeated (.switch .verbose)))
      else pure ⟨{ given with verbose := true }, .nothing⟩

/-- An option by its long name, from the text after the two dashes. -/
def long (reading : Reading) (level : Level) (text : List Char) : Except Stop Reading :=
  let name := text.takeWhile (· != '=')
  let attached := text.dropWhile (· != '=')
  match level.ofLong? (String.ofList name), attached with
  | none, _ => .error (.usage (.unexpected (String.ofList ('-' :: '-' :: text))))
  | some (.switch switch), [] => reading.turnOn switch
  | some (.switch switch), _ => .error (.usage (.surplusValue switch))
  | some (.parameter parameter), [] => reading.await parameter
  | some (.parameter parameter), _ :: value => reading.attach parameter value

/-- Options by their short names, from the text after the dash. What follows the first parameter
among them is its value. -/
def cluster (reading : Reading) (level : Level) : List Char → Except Stop Reading
  | [] => .ok reading
  | name :: text => match level.ofShort? name, text with
      | none, _ => .error (.usage (.unexpected (String.ofList ['-', name])))
      | some (.switch switch), _ => do
          let reading ← reading.turnOn switch
          cluster reading level text
      | some (.parameter parameter), [] => reading.await parameter
      | some (.parameter parameter), '=' :: value => reading.attach parameter value
      | some (.parameter parameter), value => reading.attach parameter value

/-- One more argument of a level. A single dash is no option. -/
def argument (reading : Reading) (level : Level) (text : String) : Except Stop Reading :=
  match text.toList with
  | '-' :: '-' :: name => reading.long level name
  | '-' :: name :: names => reading.cluster level (name :: names)
  | _ => match reading.pending with
      | .awaiting parameter => .ok { reading with pending := .holding parameter text }
      | _ => .error (.usage (.unexpected text))

end Reading

/-- Reads a level to its end, or to the name of a command with the arguments after it. Two dashes
end the options, and nothing may follow them. -/
def readLevel (level : Level) (reading : Reading) :
    List String → Except Stop (Reading × Option (CommandName × List String))
  | [] => .ok (reading, none)
  | text :: rest =>
      match if reading.isAwaiting then none else level.command? text with
      | some name => .ok (reading, some (name, rest))
      | none =>
          if text = "--" then match rest with
            | [] => .ok (reading, none)
            | extra :: _ => .error (.usage (.unexpected extra))
          else do
            let reading ← reading.argument level text
            readLevel level reading rest

/-- What the options at both levels ask for. -/
def Invocation.ofGiven (name : CommandName) (outer inner : Given) : Invocation where
  command :=
    let source : Source := ⟨inner.file, inner.typeClass, inner.flags⟩
    match name with
    | .evaluate => .evaluate source
    | .render => .render source
    | .present => .present source
    | .list => .list
  configuration := inner.configuration.or outer.configuration
  output := inner.output.or outer.output
  verbose := inner.verbose || outer.verbose

/-- What a command line asks for. -/
def Invocation.ofArguments (arguments : List String) : Except Stop Invocation := do
  let (outer, command) ← readLevel .front {} arguments
  match command with
  | none =>
      let _ ← outer.settle
      .error (.usage .missingCommand)
  | some (name, rest) =>
      let (inner, _) ← readLevel (.within name) {} rest
      let inner ← inner.settle
      let outer ← outer.settle
      pure (.ofGiven name outer inner)

end TypeProfile.CommandLine
