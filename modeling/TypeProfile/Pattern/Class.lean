import TypeProfile.Pattern.Atom
import TypeProfile.Pattern.Nesting

/-!
# Classes of characters in a pattern

A class stands in square brackets and lists its members: characters, ranges of them, and other
classes, with operations between them.
-/

namespace TypeProfile.Pattern

/-- The classes of ASCII characters that have names. -/
def classNames : List String :=
  [ "alnum", "alpha", "ascii", "blank", "cntrl", "digit", "graph", "lower", "print", "punct",
    "space", "upper", "word", "xdigit" ]

/-- A named class after its first bracket, and whether it is negated. -/
def namedClass : Read Bool := do
  require (← Scan.accept [':'])
  let isNegated ← Scan.accept ['^']
  let name ← Scan.span (· != ':')
  require (← Scan.accept [':', ']'])
  require (classNames.contains (String.ofList name))
  pure isNegated

/-- A class on its way: the depth of what stands in front of the last operation, if there is one,
and the members since. -/
structure ClassFrame where
  operand : Option Nat := none
  members : Items := {}
deriving DecidableEq, Repr

namespace ClassFrame

def depth (frame : ClassFrame) : Nat :=
  match frame.operand with
  | none => frame.members.depth
  | some operand => max operand frame.members.depth + 1

/-- One more member. -/
def put (frame : ClassFrame) (depth : Nat) : ClassFrame :=
  { frame with members := frame.members.add depth }

/-- After an operation. -/
def operated (frame : ClassFrame) : ClassFrame :=
  { operand := some frame.depth }

end ClassFrame

/-- The classes that are open. -/
structure ClassProgress where
  inner : ClassFrame
  outer : List ClassFrame := []
deriving DecidableEq, Repr

/-- What may come first in a class, after its bracket: a circumflex, which negates it, and hyphens
or a bracket as members. -/
def classStart (mode : Mode) : Read ClassFrame := do
  mode.gap
  if ← Scan.accept ['^'] then require mode.isUnicode
  mode.gap
  let hyphens ← Scan.span (· == '-')
  mode.gap
  let bracket ← if hyphens.isEmpty then Scan.accept [']'] else pure false
  let count := hyphens.length + bracket.toNat
  require (count == 0 || mode.admitsMember (.char '-' false))
  pure { members := ⟨count, 0⟩ }

/-- A member of a class by its first character. -/
def member (mode : Mode) (first : Char) : Read Atom :=
  if first == '\\' then escaped mode else pure (.char first false)

/-- A member of a class, or a range if a hyphen follows that is neither the last of the class nor
the first of two. -/
def memberOrRange (mode : Mode) (first : Char) : Read Unit := do
  let low ← member mode first
  require (mode.admitsMember low)
  mode.gap
  if ← isRangeAhead then
    let _ ← Scan.next ()
    mode.gap
    let high ← member mode (← Scan.next ())
    require (mode.admitsMember high)
    match low, high with
    | .char low _, .char high _ => require (low ≤ high)
    | _, _ => malformed
where
  isRangeAhead : Read Bool := do
    match ← Scan.remaining with
    | '-' :: after =>
        let next := (mode.afterGap after).head?
        pure (next != some ']' && next != some '-')
    | _ => pure false

/-- One more member, operation or bracket. The depth of the outermost class is the result. -/
def classStep (mode : Mode) (progress : ClassProgress) : Read (ClassProgress ⊕ Nat) := do
  mode.gap
  match ← Scan.next? with
  | none => malformed
  | some ']' =>
      let depth := progress.inner.depth + 1
      match progress.outer with
      | [] => pure (.inr depth)
      | inner :: outer => pure (.inl { inner := inner.put depth, outer })
  | some '[' =>
      match ← Scan.optional namedClass with
      | some isNegated =>
          require (if mode.isUnicode then !mode.ignoresCase else !isNegated)
          pure (.inl { progress with inner := progress.inner.put 0 })
      | none =>
          let inner ← classStart mode
          pure (.inl { inner, outer := progress.inner :: progress.outer })
  | some c =>
      let isOperation ← if c == '&' || c == '-' || c == '~' then Scan.accept [c] else pure false
      if isOperation then pure (.inl { progress with inner := progress.inner.operated })
      else
        memberOrRange mode c
        pure (.inl { progress with inner := progress.inner.put 0 })

theorem classStep_advances (mode : Mode) (progress : ClassProgress) :
    (classStep mode progress).Advances :=
  .bind_right fun _ => .of_next? (Scan.fail_progresses ()).advances

/-- The depth of a class after its first bracket. -/
def bracketed (mode : Mode) : Read Nat := do
  let inner ← classStart mode
  Scan.iterate (classStep mode) (classStep_advances mode) { inner }

end TypeProfile.Pattern
