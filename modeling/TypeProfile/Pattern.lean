import TypeProfile.Pattern.Class
import TypeProfile.Text.Numeric

/-!
# Patterns

Whether a text is a pattern that can be matched. A pattern is read from left to right, with the
groups that are open kept in a list, and may not be nested too deep. What repeats has to follow
something that can be repeated; counts of repetitions are not provided for.
-/

namespace TypeProfile.Pattern

/-- A group on its way. -/
structure Frame where
  mode : Mode := {}
  /-- The branches before the last bar. -/
  branches : Items := {}
  /-- The items since, without the last one if that may be repeated. -/
  items : Items := {}
  /-- The depth of the last item, if it may be repeated. -/
  last : Option Nat := none
deriving DecidableEq, Repr

namespace Frame

/-- The items since the last bar. -/
def settled (frame : Frame) : Items :=
  match frame.last with
  | none => frame.items
  | some depth => frame.items.add depth

/-- The branches up to here. -/
def allBranches (frame : Frame) : Items :=
  frame.branches.add frame.settled.depth

/-- One more item, which may be repeated. -/
def put (frame : Frame) (depth : Nat) : Frame :=
  { frame with items := frame.settled, last := some depth }

/-- Flags for the rest of the group. -/
def setMode (frame : Frame) (mode : Mode) : Frame :=
  { frame with mode, items := frame.settled.add 0, last := none }

/-- Another branch. -/
def branch (frame : Frame) : Frame :=
  { mode := frame.mode, branches := frame.allBranches }

/-- The last item repeated, if it may be. -/
def repeat? (frame : Frame) : Option Frame :=
  frame.last.map fun depth => { frame with last := some (depth + 1) }

end Frame

/-- Where a pattern has come to: the groups that are open, and the names given to groups. -/
structure Progress where
  inner : Frame := {}
  outer : List Frame := []
  names : List (List Char) := []
deriving DecidableEq, Repr

namespace Progress

def mode (progress : Progress) : Mode :=
  progress.inner.mode

/-- Inside a new group. -/
def enter (progress : Progress) (mode : Mode) : Progress :=
  { progress with inner := { mode }, outer := progress.inner :: progress.outer }

/-- After an item. -/
def put (progress : Progress) (depth : Nat) : Progress :=
  { progress with inner := progress.inner.put depth }

/-- After the end of a group. -/
def leave? (progress : Progress) : Option Progress :=
  match progress.outer with
  | [] => none
  | inner :: outer =>
      some { progress with inner := inner.put (progress.inner.allBranches.depth + 1), outer }

end Progress

/-- A name of a group begins with a letter or underscore; digits, points and brackets may follow. -/
def isGroupName : List Char → Bool
  | [] => false
  | first :: rest =>
      (first == '_' || Text.isAlphabetic first) &&
        rest.all fun c => c == '_' || c == '.' || c == '[' || c == ']' || Text.isAlphanumeric c

/-- A group with a name, after the bracket before the name. -/
def namedGroup (progress : Progress) : Read Progress := do
  let name ← Scan.span (· != '>')
  require (← Scan.accept ['>'])
  require (isGroupName name && !progress.names.contains name)
  pure { progress.enter progress.mode with names := name :: progress.names }

/-- A group after its parenthesis, or flags for the rest of the group around them. -/
def group (progress : Progress) : Read Progress := do
  progress.mode.gap
  if ← Scan.accept ['?', 'P', '<'] then namedGroup progress
  else if ← Scan.accept ['?', '<'] then namedGroup progress
  else if ← Scan.accept ['?'] then
    let (mode, isGroup) ← Flags.read progress.mode
    pure (if isGroup then progress.enter mode
      else { progress with inner := progress.inner.setMode mode })
  else pure (progress.enter progress.mode)

/-- One more item, or the end of the pattern, with its depth as the result. -/
def step (progress : Progress) : Read (Progress ⊕ Nat) := do
  progress.mode.gap
  match ← Scan.next? with
  | none =>
      if progress.outer.isEmpty then pure (.inr progress.inner.allBranches.depth) else malformed
  | some '(' => Sum.inl <$> group progress
  | some ')' => Sum.inl <$> Scan.ofOption () progress.leave?
  | some '|' => pure (.inl { progress with inner := progress.inner.branch })
  | some '?' | some '*' | some '+' =>
      let _ ← Scan.accept ['?']
      let inner ← Scan.ofOption () progress.inner.repeat?
      pure (.inl { progress with inner })
  | some '{' => malformed
  | some '[' => (fun depth => Sum.inl (progress.put depth)) <$> bracketed progress.mode
  | some '.' =>
      require progress.mode.isUnicode
      pure (.inl (progress.put 0))
  | some c =>
      require (progress.mode.admits (← atom progress.mode c))
      pure (.inl (progress.put 0))

theorem step_advances (progress : Progress) : (step progress).Advances := by
  refine .bind_right fun _ => .of_next? ?_
  by_cases closed : progress.outer.isEmpty
  · rw [if_pos closed]
    exact Scan.advances_pure_inr _
  · rw [if_neg closed]
    exact (Scan.fail_progresses ()).advances

/-- A whole pattern, with its depth. -/
def whole : Read Nat :=
  Scan.iterate step step_advances {}

def isWellFormed (text : List Char) : Bool :=
  match whole.run text with
  | .ok (depth, _) => depth ≤ deepestNesting
  | .error _ => false

end TypeProfile.Pattern
