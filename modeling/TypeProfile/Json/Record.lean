import TypeProfile.Json.Codec
import TypeProfile.Json.Skip

/-!
# Records

A record holds a value for each of its keys. It is written as an object with every key in the order
of declaration. It is read from an object with the keys in any order, or from an array that lists
the values alone, in the order of declaration. What a record holds for a key that is not given is
part of its description.
-/

namespace TypeProfile.Json

/-- The keys of a record and what is known about each of them. -/
structure Record (κ : Type) where
  title : String
  keys : Vocabulary κ
  Content : κ → Type
  codec : (key : κ) → Codec (Content key)
  /-- What is held for a key that an object leaves out. -/
  absent : (key : κ) → Option (Content key)
  /-- What is held for a key beyond the end of an array. -/
  omitted : (key : κ) → Option (Content key)
  /-- No other keys may be given. -/
  closed : Bool

namespace Record

variable {κ : Type} [DecidableEq κ] (record : Record κ)

/-- Values for some of the keys. -/
abbrev Partial : Type := (key : κ) → Option (record.Content key)

/-- Values for all keys. -/
abbrev Complete : Type := (key : κ) → record.Content key

namespace Partial

variable {record}

/-- No values yet. -/
def empty : record.Partial := fun _ => none

/-- One more value. -/
def insert (values : record.Partial) (key : κ) (value : record.Content key) : record.Partial :=
  fun other => if same : key = other then some (same ▸ value) else values other

omit [DecidableEq κ] in
/-- With a value for every key, in the order of declaration, no key is without one. -/
theorem isSome_of_find {values : record.Partial}
    (found : (record.keys.all.find? fun key => (values key).isNone) = none) (key : κ) :
    (values key).isSome := by
  have := List.find?_eq_none.mp found key (record.keys.mem_all key)
  cases present : values key with
  | none => simp [present] at this
  | some => rfl

/-- The values, with what is held for the keys not given. The first key for which nothing is held
is a fault. -/
def complete (values : record.Partial) (held : record.Partial) (missing : κ → Misfit) :
    Except Fault record.Complete :=
  let merged : record.Partial := fun key => (values key).or (held key)
  match found : record.keys.all.find? fun key => (merged key).isNone with
  | some key => .error (.misfit (missing key))
  | none => .ok fun key => (merged key).get (isSome_of_find found key)

end Partial

/-- What comes after a member: another key, or the end of the object. -/
def afterMember (values : record.Partial) :
    Read ((record.Partial × List Piece) ⊕ record.Partial) := do
  match ← token with
  | .comma => do
      match ← token with
      | .string pieces => pure (.inl (values, pieces))
      | _ => malformed
  | .closeBrace => pure (.inr values)
  | _ => malformed

/-- Takes a member whose key has been taken already. A key that is unknown to a closed record, or
that comes a second time, is a fault before its value is looked at. -/
def memberStep (state : record.Partial × List Piece) :
    Read ((record.Partial × List Piece) ⊕ record.Partial) := do
  let name ← textOf state.2
  match record.keys.ofName? name with
  | none =>
      if record.closed then Scan.fail (.misfit (.unknownKey name record.keys.names))
      else do
        expectToken .colon
        skipValue
        record.afterMember state.1
  | some key =>
      if (state.1 key).isSome then Scan.fail (.misfit (.repeatedKey name))
      else do
        expectToken .colon
        let value ← (record.codec key).read
        record.afterMember (state.1.insert key value)

theorem memberStep_progresses (state : record.Partial × List Piece) :
    (record.memberStep state).Progresses :=
  Scan.Progresses.bind_right fun name => by
    split
    · split
      · exact Scan.fail_progresses _
      · exact (expectToken_progresses .colon).bind _
    · split
      · exact Scan.fail_progresses _
      · exact (expectToken_progresses .colon).bind _

/-- What follows the opening brace of an object. -/
def readMembers : Read record.Complete := do
  let values ← do
    match ← token with
    | .closeBrace => pure Partial.empty
    | .string pieces =>
        Scan.iterate record.memberStep
          (fun state => (record.memberStep_progresses state).advances) (Partial.empty, pieces)
    | _ => malformed
  Scan.ofExcept (values.complete record.absent fun key => .missingKey (record.keys.name key))

/-- What an array of values that ends here holds. -/
def endElements (values : record.Partial) : Read record.Complete :=
  Scan.ofExcept (values.complete record.omitted fun key =>
    .wrongLength (record.keys.all.idxOf key) (.elements record.title record.keys.all.length))

/-- The values for the given keys from an array, of which some values may have been taken. -/
def readElements (taken : Bool) (values : record.Partial) : List κ → Read record.Complete
  | [] => do
      expectToken .closeBracket
      record.endElements values
  | key :: keys => do
      if ← acceptToken .closeBracket then record.endElements values
      else
        if taken then expectToken .comma else pure ()
        let value ← (record.codec key).read
        readElements true (values.insert key value) keys

/-- How a record is read and written. -/
def toCodec : Codec record.Complete where
  read := do
    match ← token with
    | .openBrace => record.readMembers
    | .openBracket => record.readElements false Partial.empty record.keys.all
    | other => refuse other (.record record.title)
  write values := .object <| record.keys.all.map fun key =>
    (record.keys.name key, (record.codec key).write (values key))

end Record

end TypeProfile.Json
