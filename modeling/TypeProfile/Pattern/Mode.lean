import TypeProfile.Text.Scan
import TypeProfile.Text.WhiteSpace

/-!
# Modes of a pattern

A pattern is a regular expression. How its characters are read depends on flags, which may be set
for a group or from some place in it on. Classes and cases of characters beyond ASCII are not
known, so a pattern that needs them is malformed, and so is one that bytes other than text may
match.
-/

namespace TypeProfile.Pattern

/-- A scan of a pattern, which may be malformed. -/
abbrev Read := Scan Unit

def malformed {α : Type} : Read α :=
  Scan.fail ()

def require (holds : Bool) : Read Unit :=
  if holds then pure () else malformed

/-- The flags that matter to whether a pattern is well formed. -/
structure Mode where
  ignoresCase : Bool := false
  /-- The text is taken by characters of Unicode, not by bytes. -/
  isUnicode : Bool := true
  /-- White space and comments in the pattern mean nothing. -/
  isSpaced : Bool := false
deriving DecidableEq, Repr

/-- The rest of a pattern after white space and comments. A comment ends with its line. -/
def gapDropped (inComment : Bool) : List Char → List Char
  | [] => []
  | c :: text =>
      if inComment then gapDropped (c != '\n') text
      else if c == '#' then gapDropped true text
      else if Text.isWhiteSpace c then gapDropped false text
      else c :: text

theorem gapDropped_suffix (inComment : Bool) (text : List Char) :
    gapDropped inComment text <:+ text := by
  induction text generalizing inComment with
  | nil => exact List.suffix_refl _
  | cons c text ih =>
      unfold gapDropped
      split
      · exact (ih _).trans (List.suffix_cons _ _)
      · split
        · exact (ih _).trans (List.suffix_cons _ _)
        · split
          · exact (ih _).trans (List.suffix_cons _ _)
          · exact List.suffix_refl _

namespace Mode

/-- What is left of a text after what means nothing. -/
def afterGap (mode : Mode) (text : List Char) : List Char :=
  if mode.isSpaced then gapDropped false text else text

/-- Passes over what means nothing. -/
def gap (mode : Mode) : Read Unit where
  run text := .ok ((), mode.afterGap text)
  suffix := by
    rintro text value rest ⟨⟩
    unfold afterGap
    split
    · exact gapDropped_suffix _ _
    · exact List.suffix_refl _

end Mode

/-- The flags that a group may begin with, all of one letter. -/
def flagLetters : List Char :=
  ['i', 'm', 's', 'U', 'u', 'R', 'x']

/-- Flags on their way: those after a hyphen are cleared. -/
structure Flags where
  mode : Mode
  given : List Char := []
  areCleared : Bool := false
  /-- The hyphen was the last. -/
  isDangling : Bool := false
deriving DecidableEq, Repr

namespace Flags

/-- One more flag. None may be given twice. -/
def add? (flags : Flags) (letter : Char) : Option Flags :=
  if !flagLetters.contains letter || flags.given.contains letter then none
  else
    let mode := match letter with
      | 'i' => { flags.mode with ignoresCase := !flags.areCleared }
      | 'u' => { flags.mode with isUnicode := !flags.areCleared }
      | 'x' => { flags.mode with isSpaced := !flags.areCleared }
      | _ => flags.mode
    some { flags with mode, given := letter :: flags.given, isDangling := false }

/-- One more flag, the hyphen, or the end of the flags: a colon if a group follows, a parenthesis if
they stand alone. -/
def step (flags : Flags) : Read (Flags ⊕ Mode × Bool) := do
  match ← Scan.next? with
  | none => malformed
  | some ':' => if flags.isDangling then malformed else pure (.inr (flags.mode, true))
  | some ')' =>
      if flags.isDangling || flags.given.isEmpty then malformed
      else pure (.inr (flags.mode, false))
  | some '-' =>
      if flags.areCleared then malformed
      else pure (.inl { flags with areCleared := true, isDangling := true })
  | some letter =>
      match flags.add? letter with
      | some longer => pure (.inl longer)
      | none => malformed

theorem step_advances (flags : Flags) : flags.step.Advances :=
  .of_next? (Scan.fail_progresses ()).advances

/-- The flags of a group, and whether the group follows. -/
def read (mode : Mode) : Read (Mode × Bool) :=
  Scan.iterate step step_advances { mode }

end Flags

end TypeProfile.Pattern
