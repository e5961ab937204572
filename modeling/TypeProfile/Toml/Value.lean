/-!
# TOML values and tables

A document is a table. Tables are defined in several ways, and the way decides how a table may be
added to later: one written in braces is closed, one that a header defines may not be defined again,
and one that dotted keys define may be added to by dotted keys alone.
-/

namespace TypeProfile.Toml

/-- How a table came to be. -/
inductive Origin
  /-- Written in braces. -/
  | inline
  /-- On the way of a dotted key. -/
  | dotted
  /-- On the way of a header. -/
  | implied
  /-- By a header of its own. -/
  | headed
deriving DecidableEq, Repr

inductive Value
  | string (text : String)
  | integer (value : Int)
  | float (digits : String)
  | boolean (value : Bool)
  | moment (digits : String)
  | array (items : List Value)
  | table (origin : Origin) (entries : List (String × Value))
  /-- The tables under a repeated header. -/
  | tables (elements : List (List (String × Value)))

/-- Keys with their values, in the order of definition. -/
abbrev Table := List (String × Value)

/-- Why a text is no configuration. -/
inductive Fault
  | malformed
  | tooDeep
  | redefined (key : String)
  | wrongType (key : String)
deriving DecidableEq, Repr

/-- Faults are told apart, but one wording serves them all. -/
def Fault.message (_ : Fault) : String :=
  "TOML parse error"

namespace Table

def get? (table : Table) (key : String) : Option Value :=
  List.lookup key table

/-- The table with another value for a key. A new key comes last. -/
def insert (key : String) (value : Value) : Table → Table
  | [] => [(key, value)]
  | (other, old) :: table =>
      if other = key then (key, value) :: table else (other, old) :: insert key value table

theorem get?_insert (table : Table) (key other : String) (value : Value) :
    get? (insert key value table) other = if other = key then some value else get? table other := by
  induction table with
  | nil =>
      by_cases hit : other = key
      · simp [get?, insert, hit]
      · simp [get?, insert, List.lookup_cons, hit, beq_eq_false_iff_ne.mpr hit]
  | cons entry table ih =>
      obtain ⟨first, old⟩ := entry
      simp only [get?] at ih ⊢
      by_cases hit : other = first
      · subst hit
        by_cases same : other = key <;> simp [insert, same]
      · have miss := beq_eq_false_iff_ne.mpr hit
        by_cases same : first = key
        · subst same
          simp [insert, List.lookup_cons, hit, miss]
        · simp [insert, List.lookup_cons, same, miss, ih]

/-- Adds a key. The tables on the way to it are those of dotted keys, or new ones; a table on the
way that a header implied may be passed, but not added to. -/
def assign (path : List String) (key : String) (value : Value) (table : Table) :
    Except Fault Table :=
  match path with
  | [] => match table.get? key with
      | none => .ok (table.insert key value)
      | some _ => .error (.redefined key)
  | step :: path => match table.get? step with
      | none => do
          let inner ← assign path key value []
          pure (table.insert step (.table .dotted inner))
      | some (.table .dotted inner) => do
          let inner ← assign path key value inner
          pure (table.insert step (.table .dotted inner))
      | some (.table .implied inner) =>
          if path.isEmpty then .error (.redefined step)
          else do
            let inner ← assign path key value inner
            pure (table.insert step (.table .implied inner))
      | some (.tables elements) =>
          match path, elements.getLast? with
          | _ :: _, some inner => do
              let inner ← assign path key value inner
              pure (table.insert step (.tables (elements.dropLast ++ [inner])))
          | _, _ => .error (.redefined step)
      | some _ => .error (.redefined step)

/-- Changes the table that a header's path leads to. Of the tables under a repeated header the last
is meant. -/
def within (path : List String) (change : Table → Except Fault Table) (table : Table) :
    Except Fault Table :=
  match path with
  | [] => change table
  | step :: path => match table.get? step with
      | none => do
          let inner ← within path change []
          pure (table.insert step (.table .implied inner))
      | some (.table .inline _) => .error (.redefined step)
      | some (.table origin inner) => do
          let inner ← within path change inner
          pure (table.insert step (.table origin inner))
      | some (.tables elements) => match elements.getLast? with
          | none => .error (.redefined step)
          | some inner => do
              let inner ← within path change inner
              pure (table.insert step (.tables (elements.dropLast ++ [inner])))
      | some _ => .error (.redefined step)

end Table

end TypeProfile.Toml
