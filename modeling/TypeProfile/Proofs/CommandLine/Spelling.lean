import Mathlib.Data.List.Basic
import Mathlib.Data.Option.Basic
import TypeProfile.CommandLine.Arguments

/-!
# Spellings

A parameter and its value can be written in several ways, as one argument or as two, and parameters
can be given in any order. However this is done, a level is read as the values that it gives: what
differs is only whether the last value has been looked at, and `Reading.settle` makes up for it.
-/

namespace TypeProfile.CommandLine

/-- An argument that is not taken for an option. -/
def Plain (text : String) : Prop :=
  ∀ c rest, text.toList ≠ '-' :: c :: rest

/-- The ways to write a parameter with its value. -/
inductive Parameter.Spells (parameter : Parameter) (value : String) : List String → Prop
  | long : Spells parameter value ["--" ++ parameter.long ++ "=" ++ value]
  | longApart (hplain : Plain value) : Spells parameter value ["--" ++ parameter.long, value]
  | short : Spells parameter value ["-" ++ parameter.short.toString ++ "=" ++ value]
  | shortJoined (c : Char) (rest : List Char) (hvalue : value.toList = c :: rest) (hc : c ≠ '=') :
      Spells parameter value ["-" ++ parameter.short.toString ++ value]
  | shortApart (hplain : Plain value) :
      Spells parameter value ["-" ++ parameter.short.toString, value]

/-- Arguments that give some parameters of a level their values, one after the other. -/
inductive Spelled (level : Level) : List (Parameter × String) → List String → Prop
  | nil : Spelled level [] []
  | cons {parameter : Parameter} {value : String} {settings : List (Parameter × String)}
      {own rest : List String} (hchoice : .parameter parameter ∈ level.choices)
      (hspells : parameter.Spells value own) (hrest : Spelled level settings rest) :
      Spelled level ((parameter, value) :: settings) (own ++ rest)

namespace Level

theorem ofLong?_long {level : Level} {parameter : Parameter}
    (hchoice : .parameter parameter ∈ level.choices) :
    level.ofLong? parameter.long = some (.parameter parameter) := by
  rcases level with _ | (_ | _ | _ | _) <;> cases parameter <;>
    first | rfl | simp [choices] at hchoice

theorem ofShort?_short {level : Level} {parameter : Parameter}
    (hchoice : .parameter parameter ∈ level.choices) :
    level.ofShort? parameter.short = some (.parameter parameter) := by
  rcases level with _ | (_ | _ | _ | _) <;> cases parameter <;>
    first | rfl | simp [choices] at hchoice

/-- An argument that begins with a dash names no command. -/
theorem command?_of_dash {level : Level} {text : String} {rest : List Char}
    (htext : text.toList = '-' :: rest) : level.command? text = none := by
  cases level with
  | within name => rfl
  | front =>
      have hdash : text.toList.head? = some '-' := by rw [htext, List.head?_cons]
      change CommandName.ofWord? text = none
      unfold CommandName.ofWord?
      -- The last case is the one in which no word matches.
      split
      case h_6 => rfl
      all_goals exact absurd hdash (by decide)

end Level

namespace Reading

variable {reading : Reading} {level : Level} {parameter : Parameter} {given given' : Given}
  {value : String}

theorem isAwaiting_of_settle (hsettle : reading.settle = .ok given) :
    reading.isAwaiting = false := by
  unfold settle at hsettle
  unfold isAwaiting
  split <;> simp_all

theorem await_of_settle (hsettle : reading.settle = .ok given) (parameter : Parameter) :
    reading.await parameter = .ok ⟨given, .awaiting parameter⟩ := by
  rw [await, hsettle]
  rfl

theorem attach_of_settle (hsettle : reading.settle = .ok given)
    (hinsert : given.insert parameter value = .ok given') :
    reading.attach parameter value.toList = .ok ⟨given', .nothing⟩ := by
  rw [attach, hsettle]
  change ((given.insert parameter (String.ofList value.toList)).mapError Stop.usage).bind _ = _
  rw [String.ofList_toList, hinsert]
  rfl

theorem long_long (hchoice : .parameter parameter ∈ level.choices) :
    reading.long level parameter.long.toList = reading.await parameter := by
  have hname : parameter.long.toList.takeWhile (· != '=') = parameter.long.toList ∧
      parameter.long.toList.dropWhile (· != '=') = [] := by
    cases parameter <;> decide
  simp only [long, hname, String.ofList_toList, Level.ofLong?_long hchoice]

theorem long_attached (hchoice : .parameter parameter ∈ level.choices) (value : List Char) :
    reading.long level (parameter.long.toList ++ '=' :: value) =
      reading.attach parameter value := by
  have hapart : '=' ∉ parameter.long.toList := by cases parameter <;> decide
  have hname (c : Char) (hc : c ∈ parameter.long.toList) : (c != '=') = true :=
    bne_iff_ne.mpr fun hsame => hapart (hsame ▸ hc)
  simp [long, List.takeWhile_append_of_pos hname, List.dropWhile_append_of_pos hname,
    Level.ofLong?_long hchoice]

theorem cluster_short (hchoice : .parameter parameter ∈ level.choices) :
    reading.cluster level [parameter.short] = reading.await parameter := by
  simp [cluster, Level.ofShort?_short hchoice]

theorem cluster_attached (hchoice : .parameter parameter ∈ level.choices) (value : List Char) :
    reading.cluster level (parameter.short :: '=' :: value) = reading.attach parameter value := by
  simp [cluster, Level.ofShort?_short hchoice]

theorem cluster_joined (hchoice : .parameter parameter ∈ level.choices) {c : Char}
    (hc : c ≠ '=') (value : List Char) :
    reading.cluster level (parameter.short :: c :: value) =
      reading.attach parameter (c :: value) := by
  simp [cluster, Level.ofShort?_short hchoice, hc]

theorem argument_long {text : String} {name : List Char}
    (htext : text.toList = '-' :: '-' :: name) :
    reading.argument level text = reading.long level name := by
  simp only [argument, htext]

theorem argument_cluster {text : String} {c : Char} {names : List Char}
    (htext : text.toList = '-' :: c :: names) (hc : c ≠ '-') :
    reading.argument level text = reading.cluster level (c :: names) := by
  unfold argument
  split
  next name hname =>
    rw [htext] at hname
    cases hname
    exact absurd rfl hc
  next other others _ hname =>
    rw [htext] at hname
    cases hname
    rfl
  next _ hname => exact absurd htext (hname c names)

end Reading

/-- An argument that neither names a command nor ends the options. -/
theorem readLevel_argument {level : Level} {reading : Reading} {text : String}
    (hcommand : reading.isAwaiting = true ∨ level.command? text = none) (htext : text ≠ "--")
    (rest : List String) :
    readLevel level reading (text :: rest) =
      (reading.argument level text).bind fun next => readLevel level next rest := by
  have hnone : (if reading.isAwaiting then none else level.command? text) = none := by
    rcases hcommand with hawaiting | hnone
    · simp [hawaiting]
    · simp [hnone]
  conv => lhs; unfold readLevel
  simp only [hnone, htext, ↓reduceIte]
  rfl

section Step

variable {level : Level} {reading next : Reading} {given given' : Given} {parameter : Parameter}
  {value : String}

theorem readLevel_long {text : String} {name : List Char}
    (htext : text.toList = '-' :: '-' :: name) (hname : name ≠ [])
    (hlong : reading.long level name = .ok next) (rest : List String) :
    readLevel level reading (text :: rest) = readLevel level next rest := by
  have hends : text ≠ "--" := by
    rintro rfl
    exact hname (by simpa using htext.symm)
  rw [readLevel_argument (.inr (Level.command?_of_dash htext)) hends,
    Reading.argument_long htext, hlong]
  rfl

theorem readLevel_cluster {text : String} {names : List Char}
    (htext : text.toList = '-' :: parameter.short :: names)
    (hcluster : reading.cluster level (parameter.short :: names) = .ok next) (rest : List String) :
    readLevel level reading (text :: rest) = readLevel level next rest := by
  have hshort : parameter.short ≠ '-' := by cases parameter <;> decide
  have hends : text ≠ "--" := by
    rintro rfl
    simp [hshort.symm] at htext
  rw [readLevel_argument (.inr (Level.command?_of_dash htext)) hends,
    Reading.argument_cluster htext hshort, hcluster]
  rfl

/-- A value that stands apart is held until the next option or the end of the level. -/
theorem readLevel_value (hplain : Plain value) (rest : List String) :
    readLevel level ⟨given, .awaiting parameter⟩ (value :: rest) =
      readLevel level ⟨given, .holding parameter value⟩ rest := by
  have hends : value ≠ "--" := by
    intro hvalue
    exact hplain '-' [] (by rw [hvalue]; decide)
  have hargument : (Reading.mk given (.awaiting parameter)).argument level value =
      .ok ⟨given, .holding parameter value⟩ := by
    unfold Reading.argument
    split
    next name hname => exact absurd hname (hplain _ _)
    next c names _ hname => exact absurd hname (hplain _ _)
    next => rfl
  rw [readLevel_argument (.inl rfl) hends, hargument]
  rfl

/-- A spelled parameter is read as its value, which may not have been looked at. -/
theorem readLevel_spells {arguments : List String}
    (hchoice : .parameter parameter ∈ level.choices)
    (hspells : parameter.Spells value arguments) (hsettle : reading.settle = .ok given)
    (hinsert : given.insert parameter value = .ok given') :
    ∃ next, next.settle = .ok given' ∧
      ∀ rest, readLevel level reading (arguments ++ rest) = readLevel level next rest := by
  have hheld : (Reading.mk given (.holding parameter value)).settle = .ok given' := by
    change (given.insert parameter value).mapError Stop.usage = _
    rw [hinsert]
    rfl
  -- A value in the same argument is looked at right away, one that stands apart only later.
  have hattach := Reading.attach_of_settle hsettle hinsert
  have hawait := Reading.await_of_settle hsettle parameter
  cases hspells with
  | long =>
      have htext : ("--" ++ parameter.long ++ "=" ++ value).toList =
          '-' :: '-' :: (parameter.long.toList ++ '=' :: value.toList) := by
        simp [String.toList_append]
      have hlong := (Reading.long_attached hchoice value.toList).trans hattach
      exact ⟨_, rfl, readLevel_long htext (by simp) hlong⟩
  | longApart hplain =>
      have htext : ("--" ++ parameter.long).toList = '-' :: '-' :: parameter.long.toList := by
        simp [String.toList_append]
      have hname : parameter.long.toList ≠ [] := by cases parameter <;> decide
      have hlong := (Reading.long_long hchoice).trans hawait
      refine ⟨_, hheld, fun rest => ?_⟩
      exact (readLevel_long htext hname hlong _).trans (readLevel_value hplain rest)
  | short =>
      have htext : ("-" ++ parameter.short.toString ++ "=" ++ value).toList =
          '-' :: parameter.short :: '=' :: value.toList := by
        simp [String.toList_append]
      have hcluster := (Reading.cluster_attached hchoice value.toList).trans hattach
      exact ⟨_, rfl, readLevel_cluster htext hcluster⟩
  | shortJoined c text hvalue hc =>
      have htext : ("-" ++ parameter.short.toString ++ value).toList =
          '-' :: parameter.short :: c :: text := by
        simp [String.toList_append, hvalue]
      rw [hvalue] at hattach
      have hcluster := (Reading.cluster_joined hchoice hc text).trans hattach
      exact ⟨_, rfl, readLevel_cluster htext hcluster⟩
  | shortApart hplain =>
      have htext : ("-" ++ parameter.short.toString).toList = ['-', parameter.short] := by
        simp
      have hcluster := (Reading.cluster_short hchoice).trans hawait
      refine ⟨_, hheld, fun rest => ?_⟩
      exact (readLevel_cluster htext hcluster _).trans (readLevel_value hplain rest)

end Step

/-! ## The values given -/

/-- The values that are given for a parameter, in the order in which they are given. -/
def valuesOf (parameter : Parameter) (settings : List (Parameter × String)) : List String :=
  (settings.filter fun setting => setting.1 = parameter).map Prod.snd

theorem valuesOf_cons (parameter other : Parameter) (value : String)
    (settings : List (Parameter × String)) :
    valuesOf other ((parameter, value) :: settings) =
      (if parameter = other then [value] else []) ++ valuesOf other settings := by
  by_cases hsame : parameter = other <;> simp [valuesOf, hsame]

theorem valuesOf_append (parameter : Parameter) (first second : List (Parameter × String)) :
    valuesOf parameter (first ++ second) =
      valuesOf parameter first ++ valuesOf parameter second := by
  simp [valuesOf]

/-- A level gives no values for parameters that it does not have. -/
theorem Spelled.valuesOf_eq_nil {level : Level} {settings : List (Parameter × String)}
    {arguments : List String} (hspelled : Spelled level settings arguments) {parameter : Parameter}
    (hchoice : .parameter parameter ∉ level.choices) : valuesOf parameter settings = [] := by
  induction hspelled with
  | nil => rfl
  | cons hown _ _ ih =>
      rw [valuesOf_cons, ih, List.append_nil, if_neg]
      intro hsame
      exact hchoice (hsame ▸ hown)

theorem eq_of_toList_eq {α : Type} {first second : Option α}
    (hvalues : first.toList = second.toList) : first = second := by
  cases first <;> cases second <;> simp_all

theorem eq_none_of_toList_append {α : Type} {first second : Option α} {value : α} {more : List α}
    (hvalues : first.toList ++ value :: more = second.toList) :
    first = none ∧ second = some value := by
  cases first <;> cases second <;> simp_all

namespace Given

/-- The texts of the values that a parameter has. -/
def values (given : Given) : Parameter → List String
  | .configuration => given.configuration.toList
  | .output => (given.output.map OutputFormat.vocabulary.name).toList
  | .typeClass => (given.typeClass.map TypeClass.vocabulary.name).toList
  | .flag => given.flags.map Attribute.vocabulary.name
  | .file => given.file.toList

theorem eq_of_values {first second : Given} (hverbose : first.verbose = second.verbose)
    (hvalues : ∀ parameter, first.values parameter = second.values parameter) :
    first = second := by
  have hconfiguration := eq_of_toList_eq (hvalues .configuration)
  have houtput := Option.map_injective (fun _ _ => OutputFormat.vocabulary.name_injective)
    (eq_of_toList_eq (hvalues .output))
  have htypeClass := Option.map_injective (fun _ _ => TypeClass.vocabulary.name_injective)
    (eq_of_toList_eq (hvalues .typeClass))
  have hflags := List.map_injective_iff.mpr (fun _ _ => Attribute.vocabulary.name_injective)
    (hvalues .flag)
  have hfile := eq_of_toList_eq (hvalues .file)
  cases first
  cases second
  simp only [Given.mk.injEq]
  exact ⟨hconfiguration, houtput, htypeClass, hflags, hfile, hverbose⟩

/-- A value is taken if there is room for it, and adds to the values of its parameter alone. -/
theorem insert_of_values {given target : Given} {parameter : Parameter} {value : String}
    {more : List String} (hfile : target.file ≠ some "")
    (hvalues : given.values parameter ++ value :: more = target.values parameter) :
    ∃ next, given.insert parameter value = .ok next ∧ next.verbose = given.verbose ∧
      ∀ other, next.values other =
        given.values other ++ if parameter = other then [value] else [] := by
  cases parameter with
  | configuration =>
      obtain ⟨hnone, -⟩ := eq_none_of_toList_append hvalues
      refine ⟨{ given with configuration := some value }, by simp [insert, holds, hnone], rfl, ?_⟩
      intro other
      cases other <;> simp [values, hnone]
  | output =>
      obtain ⟨hnone, hsome⟩ := eq_none_of_toList_append hvalues
      obtain ⟨format, -, rfl⟩ := Option.map_eq_some_iff.mp hsome
      rw [Option.map_eq_none_iff] at hnone
      have hfilled : (OutputFormat.vocabulary.name format).isEmpty = false := by
        cases format <;> decide
      refine ⟨{ given with output := some format }, ?_, rfl, ?_⟩
      · simp [insert, holds, hnone, hfilled]
      · intro other
        cases other <;> simp [values, hnone]
  | typeClass =>
      obtain ⟨hnone, hsome⟩ := eq_none_of_toList_append hvalues
      obtain ⟨typeClass, -, rfl⟩ := Option.map_eq_some_iff.mp hsome
      rw [Option.map_eq_none_iff] at hnone
      refine ⟨{ given with typeClass := some typeClass }, ?_, rfl, ?_⟩
      · simp [insert, holds, hnone, TypeClass.parse]
      · intro other
        cases other <;> simp [values, hnone]
  | flag =>
      have hmem : value ∈ target.values .flag := by
        rw [← hvalues]
        simp
      obtain ⟨flag, -, rfl⟩ := List.mem_map.mp hmem
      refine ⟨{ given with flags := given.flags ++ [flag] }, ?_, rfl, ?_⟩
      · simp [insert, holds, Attribute.parse]
      · intro other
        cases other <;> simp [values]
  | file =>
      obtain ⟨hnone, hsome⟩ := eq_none_of_toList_append hvalues
      have hfilled : value.isEmpty = false := by
        rw [← Bool.not_eq_true, String.isEmpty_iff]
        rintro rfl
        exact hfile hsome
      refine ⟨{ given with file := some value }, by simp [insert, holds, hnone, hfilled], rfl, ?_⟩
      intro other
      cases other <;> simp [values, hnone]

end Given

/-- Settings that together make up what a target holds are read as this target, whatever is given
first. -/
theorem Spelled.readLevel_eq {level : Level} {settings : List (Parameter × String)}
    {arguments : List String} (hspelled : Spelled level settings arguments) {reading : Reading}
    {given target : Given} (hsettle : reading.settle = .ok given) (hfile : target.file ≠ some "")
    (hverbose : given.verbose = target.verbose)
    (hvalues : ∀ parameter,
      given.values parameter ++ valuesOf parameter settings = target.values parameter) :
    ∃ next, next.settle = .ok target ∧
      ∀ rest, readLevel level reading (arguments ++ rest) = readLevel level next rest := by
  -- What is given so far and what is still to come make up the target at every step.
  induction hspelled generalizing reading given with
  | nil =>
      have hgiven : given = target :=
        Given.eq_of_values hverbose fun parameter => by simpa [valuesOf] using hvalues parameter
      exact ⟨reading, hgiven ▸ hsettle, fun _ => rfl⟩
  | @cons parameter value settings own others hchoice hspells _ ih =>
      -- More values to come leave room for this one, see `Given.insert_of_values`.
      simp only [valuesOf_cons, ← List.append_assoc] at hvalues
      have hroom : given.values parameter ++ value :: valuesOf parameter settings =
          target.values parameter := by
        simpa using hvalues parameter
      obtain ⟨middle, hinsert, hkept, hadded⟩ := Given.insert_of_values hfile hroom
      obtain ⟨next, hnext, hown⟩ := readLevel_spells hchoice hspells hsettle hinsert
      obtain ⟨last, hlast, hothers⟩ := ih hnext (hkept.trans hverbose) fun other => by
        rw [hadded, hvalues]
      refine ⟨last, hlast, fun rest => ?_⟩
      rw [List.append_assoc, hown, hothers]

/-- Settings at the beginning of a level are read as what they give. -/
theorem Spelled.readLevel_start {level : Level} {settings : List (Parameter × String)}
    {arguments : List String} (hspelled : Spelled level settings arguments) (target : Given)
    (hfile : target.file ≠ some "") (hverbose : target.verbose = false)
    (hvalues : ∀ parameter, valuesOf parameter settings = target.values parameter) :
    ∃ next : Reading, next.settle = .ok target ∧
      ∀ rest, readLevel level {} (arguments ++ rest) = readLevel level next rest := by
  apply hspelled.readLevel_eq rfl hfile hverbose.symm
  intro parameter
  rw [← hvalues]
  cases parameter <;> rfl

/-- The command line asks for a command with the given options. Those that every command has may
stand in front of its name. -/
def Asks (name : CommandName) (given : Given) (arguments : List String) : Prop :=
  ∃ word front inner before behind, arguments = before ++ word :: behind ∧
    CommandName.ofWord? word = some name ∧ Spelled .front front before ∧
    Spelled (.within name) inner behind ∧
    ∀ parameter, valuesOf parameter (front ++ inner) = given.values parameter

/-- What an option holds is all on one side. -/
theorem eq_toList_of_append {α : Type} [DecidableEq α] {left right : List α} {whole : Option α}
    (hwhole : left ++ right = whole.toList) :
    left = (if left = [] then none else whole).toList ∧
      right = (if left = [] then whole else none).toList := by
  cases left with
  | nil => simpa using hwhole
  | cons value left => cases whole <;> simp_all

namespace Given

section Division

variable (given : Given) (front : List (Parameter × String))

/-- The options that are given in front of a command's name, if these are the settings there. -/
def outside : Given where
  configuration := if valuesOf .configuration front = [] then none else given.configuration
  output := if valuesOf .output front = [] then none else given.output

/-- The options that are left for behind the command's name. -/
def inside : Given :=
  { given with
    configuration := if valuesOf .configuration front = [] then given.configuration else none
    output := if valuesOf .output front = [] then given.output else none }

theorem ofGiven_outside_inside (name : CommandName) :
    Invocation.ofGiven name (given.outside front) (given.inside front) =
      .ofGiven name {} given := by
  have hdivided {α : Type} (option : Option α) (c : Prop) [Decidable c] :
      (if c then option else none).or (if c then none else option) = option.or none := by
    split <;> simp
  simp only [Invocation.ofGiven, outside, inside, hdivided]

variable {given front} {inner : List (Parameter × String)} {before : List String}
  (hspelled : Spelled .front front before)
  (hvalues : ∀ parameter, valuesOf parameter (front ++ inner) = given.values parameter)

include hspelled hvalues

theorem values_outside (parameter : Parameter) :
    valuesOf parameter front = (given.outside front).values parameter := by
  simp only [valuesOf_append] at hvalues
  cases parameter with
  | configuration => exact (eq_toList_of_append (hvalues .configuration)).1
  | output => simpa [values, outside, apply_ite] using (eq_toList_of_append (hvalues .output)).1
  | typeClass => exact hspelled.valuesOf_eq_nil (by decide)
  | flag => exact hspelled.valuesOf_eq_nil (by decide)
  | file => exact hspelled.valuesOf_eq_nil (by decide)

theorem values_inside (parameter : Parameter) :
    valuesOf parameter inner = (given.inside front).values parameter := by
  have hbehind (hchoice : .parameter parameter ∉ Level.front.choices) :
      valuesOf parameter inner = given.values parameter := by
    rw [← hvalues, valuesOf_append, hspelled.valuesOf_eq_nil hchoice, List.nil_append]
  simp only [valuesOf_append] at hvalues
  cases parameter with
  | configuration => exact (eq_toList_of_append (hvalues .configuration)).2
  | output => simpa [values, inside, apply_ite] using (eq_toList_of_append (hvalues .output)).2
  | typeClass => exact hbehind (by decide)
  | flag => exact hbehind (by decide)
  | file => exact hbehind (by decide)

end Division

end Given

/-- Such a command line is read as what it asks for. -/
theorem Asks.ofArguments_eq {name : CommandName} {given : Given} {arguments : List String}
    (hasks : Asks name given arguments) (hfile : given.file ≠ some "")
    (hverbose : given.verbose = false) :
    Invocation.ofArguments arguments = .ok (.ofGiven name {} given) := by
  obtain ⟨word, front, inner, before, behind, rfl, hword, hfront, hinner, hvalues⟩ := hasks
  obtain ⟨first, hfirst, hreadFront⟩ :=
    hfront.readLevel_start (given.outside front) nofun rfl (Given.values_outside hfront hvalues)
  obtain ⟨second, hsecond, hreadInner⟩ :=
    hinner.readLevel_start (given.inside front) hfile hverbose (Given.values_inside hfront hvalues)
  have hcommand : readLevel .front {} (before ++ word :: behind) =
      .ok (first, some (name, behind)) := by
    rw [hreadFront]
    conv => lhs; unfold readLevel
    simp [first.isAwaiting_of_settle hfirst, Level.command?, hword]
  have hend : readLevel (.within name) {} behind = .ok (second, none) := by
    simpa [readLevel] using hreadInner []
  rw [Invocation.ofArguments, hcommand, ← given.ofGiven_outside_inside front]
  change ((readLevel (.within name) {} behind).bind _) = _
  rw [hend]
  change second.settle.bind _ = _
  rw [hsecond]
  change first.settle.bind _ = _
  rw [hfirst]
  rfl

end TypeProfile.CommandLine
