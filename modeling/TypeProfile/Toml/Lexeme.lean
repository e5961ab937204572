import TypeProfile.Text.Hex
import TypeProfile.Text.Scan
import TypeProfile.Toml.Value

/-!
# Blanks, comments, keys and strings

The parts of a TOML text below its values. Where a part is told by its first character, that
character has been taken before the part is read.
-/

namespace TypeProfile.Toml

/-- A scan of TOML text. -/
abbrev Read := Scan Fault

def malformed {α : Type} : Read α :=
  Scan.fail .malformed

def anyChar : Read Char :=
  Scan.next .malformed

/-- A word that has to come next. -/
def expect (word : List Char) : Read Unit := do
  if ← Scan.accept word then pure () else malformed

def isBlank (c : Char) : Bool :=
  c == ' ' || c == '\t'

/-- Characters that may stand in comments, and in strings unless they have a meaning there: no
control but the tab. -/
def isPlain (c : Char) : Bool :=
  c == '\t' || (0x20 ≤ c.toNat && c.toNat != 0x7f)

def isBareKeyChar (c : Char) : Bool :=
  c.isAlphanum || c == '-' || c == '_'

def blanks : Read Unit := do
  let _ ← Scan.span isBlank
  pure ()

/-- A line break, with or without a carriage return, if it comes next. -/
def acceptNewline : Read Bool := do
  if ← Scan.accept ['\n'] then pure true else Scan.accept ['\r', '\n']

/-- A comment up to the end of its line, if one comes next. -/
def comment : Read Unit := do
  if ← Scan.accept ['#'] then
    let _ ← Scan.span isPlain
    pure ()
  else pure ()

/-- What may follow on a line that is complete. -/
def lineEnd : Read Unit := do
  blanks
  comment
  if ← acceptNewline then pure ()
  else if (← Scan.remaining).isEmpty then pure ()
  else malformed

/-- One more line that holds nothing, or the blanks before anything else. -/
def gapStep (_ : Unit) : Read (Unit ⊕ Unit) := do
  blanks
  if ← Scan.accept ['#'] then
    let _ ← Scan.span isPlain
    if ← acceptNewline then pure (.inl ()) else malformed
  else if ← Scan.accept ['\n'] then pure (.inl ())
  else if ← Scan.accept ['\r', '\n'] then pure (.inl ())
  else pure (.inr ())

theorem gapStep_advances (state : Unit) : (gapStep state).Advances :=
  .bind_right fun _ => .of_accept (by simp) <| .of_accept (by simp) <| .of_accept (by simp) <|
    Scan.advances_pure_inr ()

/-- Blanks, line breaks and comments between the items of an array. -/
def gap : Read Unit :=
  Scan.iterate gapStep gapStep_advances ()

/-- The number that so many digits in base sixteen write. -/
def hexNumber : Nat → Nat → Read Nat
  | 0, value => pure value
  | count + 1, value => do
      let digit ← Scan.ofOption .malformed (Text.hexValue? (← anyChar))
      hexNumber count (16 * value + digit)

/-- The character with a number, if there is one. -/
def charOfNumber (value : Nat) : Read Char :=
  if Nat.isValidChar value then pure (Char.ofNat value) else malformed

/-- What follows the backslash of an escape, from its first character on. -/
def escapeFrom (c : Char) : Read Char :=
  match c with
  | 'b' => pure '\x08'
  | 't' => pure '\t'
  | 'n' => pure '\n'
  | 'f' => pure '\x0c'
  | 'r' => pure '\r'
  | '"' => pure '"'
  | '\\' => pure '\\'
  | 'u' => do charOfNumber (← hexNumber 4 0)
  | 'U' => do charOfNumber (← hexNumber 8 0)
  | _ => malformed

/-- One more character of a string in double quotes. What was read is in reverse. -/
def basicStep (text : List Char) : Read (List Char ⊕ List Char) := do
  let c ← anyChar
  match c with
  | '"' => pure (.inr text.reverse)
  | '\\' => do
      let escaped ← escapeFrom (← anyChar)
      pure (.inl (escaped :: text))
  | _ => if isPlain c then pure (.inl (c :: text)) else malformed

theorem basicStep_advances (text : List Char) : (basicStep text).Advances :=
  ((Scan.next_progresses _).bind _).advances

/-- The rest of a string on one line in double quotes. -/
def basicString : Read (List Char) :=
  Scan.iterate basicStep basicStep_advances []

/-- One more character of a string in single quotes, in which nothing has a meaning. -/
def literalStep (text : List Char) : Read (List Char ⊕ List Char) := do
  let c ← anyChar
  match c with
  | '\'' => pure (.inr text.reverse)
  | _ => if isPlain c then pure (.inl (c :: text)) else malformed

theorem literalStep_advances (text : List Char) : (literalStep text).Advances :=
  ((Scan.next_progresses _).bind _).advances

/-- The rest of a string on one line in single quotes. -/
def literalString : Read (List Char) :=
  Scan.iterate literalStep literalStep_advances []

/-- What a run of quotes means inside a string of several lines: one or two belong to the text, and
of more the last three end it, with at most two before them. -/
def quoteRun (quote : Char) (text : List Char) : Read (List Char ⊕ List Char) := do
  let more ← Scan.span (· == quote)
  let count := more.length + 1
  if count < 3 then pure (.inl (List.replicate count quote ++ text))
  else if count ≤ 5 then pure (.inr (List.replicate (count - 3) quote ++ text).reverse)
  else malformed

/-- A line break inside a string of several lines, from its first character on. -/
def lineBreakFrom (c : Char) (text : List Char) : Read (List Char ⊕ List Char) := do
  if c = '\r' then expect ['\n'] else pure ()
  pure (.inl ('\n' :: text))

/-- One more blank or line break after a backslash that ends a line. -/
def foldStep (_ : Unit) : Read (Unit ⊕ Unit) := do
  if ← Scan.accept [' '] then pure (.inl ())
  else if ← Scan.accept ['\t'] then pure (.inl ())
  else if ← Scan.accept ['\n'] then pure (.inl ())
  else if ← Scan.accept ['\r', '\n'] then pure (.inl ())
  else pure (.inr ())

theorem foldStep_advances (state : Unit) : (foldStep state).Advances :=
  .of_accept (by simp) <| .of_accept (by simp) <| .of_accept (by simp) <| .of_accept (by simp) <|
    Scan.advances_pure_inr ()

/-- A backslash at the end of a line joins the line with the next text, blanks left out. -/
def lineFold : Read Unit := do
  blanks
  if ← acceptNewline then Scan.iterate foldStep foldStep_advances () else malformed

/-- One more part of a string over several lines in double quotes. -/
def longBasicStep (text : List Char) : Read (List Char ⊕ List Char) := do
  let c ← anyChar
  match c with
  | '"' => quoteRun '"' text
  | '\\' => do
      let ahead := (← Scan.remaining).head?
      if ahead.any (fun c => isBlank c || c == '\n' || c == '\r') then
        lineFold
        pure (.inl text)
      else
        let escaped ← escapeFrom (← anyChar)
        pure (.inl (escaped :: text))
  | '\n' | '\r' => lineBreakFrom c text
  | _ => if isPlain c then pure (.inl (c :: text)) else malformed

theorem longBasicStep_advances (text : List Char) : (longBasicStep text).Advances :=
  ((Scan.next_progresses _).bind _).advances

/-- The rest of a string over several lines in double quotes. A line break that comes first does
not belong to the text. -/
def longBasicString : Read (List Char) := do
  let _ ← acceptNewline
  Scan.iterate longBasicStep longBasicStep_advances []

/-- One more part of a string over several lines in single quotes. -/
def longLiteralStep (text : List Char) : Read (List Char ⊕ List Char) := do
  let c ← anyChar
  match c with
  | '\'' => quoteRun '\'' text
  | '\n' | '\r' => lineBreakFrom c text
  | _ => if isPlain c then pure (.inl (c :: text)) else malformed

theorem longLiteralStep_advances (text : List Char) : (longLiteralStep text).Advances :=
  ((Scan.next_progresses _).bind _).advances

/-- The rest of a string over several lines in single quotes. -/
def longLiteralString : Read (List Char) := do
  let _ ← acceptNewline
  Scan.iterate longLiteralStep longLiteralStep_advances []

/-- One key, from its first character on. -/
def simpleKeyFrom (c : Char) : Read String :=
  match c with
  | '"' => String.ofList <$> basicString
  | '\'' => String.ofList <$> literalString
  | _ =>
      if isBareKeyChar c then do
        let rest ← Scan.span isBareKeyChar
        pure (String.ofList (c :: rest))
      else malformed

/-- A key with the keys that lead to it. -/
structure KeyPath where
  parents : List String
  key : String
deriving DecidableEq, Repr

/-- One key of a dotted key, from its first character on. The keys before it are in reverse. -/
def keyPathFrom (parents : List String) (c : Char) : Read (List String ⊕ KeyPath) := do
  let key ← simpleKeyFrom c
  blanks
  if ← Scan.accept ['.'] then pure (.inl (key :: parents))
  else pure (.inr ⟨parents.reverse, key⟩)

def keyPathStep (parents : List String) : Read (List String ⊕ KeyPath) := do
  blanks
  let c ← anyChar
  keyPathFrom parents c

theorem keyPathStep_advances (parents : List String) : (keyPathStep parents).Advances :=
  .bind_right fun _ => ((Scan.next_progresses _).bind _).advances

/-- The greatest number of keys in a dotted key, and one more than the greatest number of brackets
and braces around a value. -/
def depthLimit : Nat := 80

/-- A dotted key, from its first character on. -/
def keyPath (c : Char) : Read KeyPath := do
  let path ← do
    match ← keyPathFrom [] c with
    | .inr path => pure path
    | .inl parents => Scan.iterate keyPathStep keyPathStep_advances parents
  if path.parents.length + 1 < depthLimit then pure path else Scan.fail .tooDeep

end TypeProfile.Toml
