import TypeProfile.Toml.Number

/-!
# Documents

A document is a sequence of statements, each on lines of its own: entries, which give a value to a
key, and headings, which say what table the entries after them belong to. `tableOf` reads a whole
text and puts every entry into its table.
-/

namespace TypeProfile.Toml

/-- A value for a key. -/
structure Entry where
  path : KeyPath
  value : Value

/-- The table that the entries of a section belong to. -/
inductive Heading
  /-- The table itself. -/
  | table (path : KeyPath)
  /-- A further element of a list of tables. -/
  | element (path : KeyPath)
deriving DecidableEq, Repr

/-- A heading with the entries under it. -/
structure Section where
  heading : Heading
  entries : List Entry

namespace Table

/-- Adds entries, none of which may have been there. -/
def fill (entries : List Entry) (table : Table) : Except Fault Table :=
  entries.foldlM (fun table entry => assign entry.path.parents entry.path.key entry.value table)
    table

/-- Adds a section. A table may have one heading, before or after those of the tables within it. -/
def addSection (table : Table) (part : Section) : Except Fault Table :=
  match part.heading with
  | .table ⟨parents, key⟩ => table.within parents fun parent =>
      match parent.get? key with
      | none => do
          let inner ← fill part.entries []
          pure (parent.insert key (.table .headed inner))
      | some (.table .implied inner) => do
          let inner ← fill part.entries inner
          pure (parent.insert key (.table .headed inner))
      | some _ => .error (.redefined key)
  | .element ⟨parents, key⟩ => table.within parents fun parent =>
      match parent.get? key with
      | none => do
          let element ← fill part.entries []
          pure (parent.insert key (.tables [element]))
      | some (.tables elements) => do
          let element ← fill part.entries []
          pure (parent.insert key (.tables (elements ++ [element])))
      | some _ => .error (.redefined key)

end Table

/-- The rest of a string in double quotes, on one line or over several. -/
def doubleQuoted : Read Value := do
  let text ← if ← Scan.accept ['"', '"'] then longBasicString else basicString
  pure (.string (String.ofList text))

/-- The rest of a string in single quotes, on one line or over several. -/
def singleQuoted : Read Value := do
  let text ← if ← Scan.accept ['\'', '\''] then longLiteralString else literalString
  pure (.string (String.ofList text))

/-- The rest of a word, which stands for a value. -/
def word (rest : List Char) (value : Value) : Read Value := do
  expect rest
  pure value

/-- One more item of an array. Those before it are in reverse. -/
def arrayStep (item : Read Value) (items : List Value) : Read (List Value ⊕ List Value) := do
  let value ← item
  gap
  if ← Scan.accept [','] then
    gap
    if ← Scan.accept [']'] then pure (.inr (value :: items).reverse)
    else pure (.inl (value :: items))
  else
    expect [']']
    pure (.inr (value :: items).reverse)

theorem arrayStep_advances (item : Read Value) (items : List Value) :
    (arrayStep item items).Advances :=
  .bind_right fun _ => .bind_right fun _ => .of_accept (by simp) <| .bind_right fun _ =>
    Scan.advances_pure_inr _

/-- The rest of an array. A comma may stand after its last item. -/
def array (item : Read Value) : Read Value := do
  gap
  if ← Scan.accept [']'] then pure (.array [])
  else .array <$> Scan.iterate (arrayStep item) (arrayStep_advances item) []

/-- A key with its value, from the first character of the key on. -/
def entryFrom (value : Read Value) (c : Char) : Read Entry := do
  let path ← keyPath c
  expect ['=']
  blanks
  let value ← value
  pure ⟨path, value⟩

/-- One more entry of a table in braces. Those before it are in reverse. -/
def inlineTableStep (value : Read Value) (entries : List Entry) :
    Read (List Entry ⊕ List Entry) := do
  blanks
  let entry ← entryFrom value (← anyChar)
  blanks
  if ← Scan.accept [','] then pure (.inl (entry :: entries))
  else
    expect ['\x7d']
    pure (.inr (entry :: entries).reverse)

theorem inlineTableStep_advances (value : Read Value) (entries : List Entry) :
    (inlineTableStep value entries).Advances :=
  .bind_right fun _ => .bind_right fun _ => .bind_right fun _ => .bind_right fun _ =>
    .of_accept (by simp) <| .bind_right fun _ => Scan.advances_pure_inr _

/-- The rest of a table in braces, which stands on one line. -/
def inlineTable (value : Read Value) : Read Value := do
  blanks
  if ← Scan.accept ['\x7d'] then pure (.table .inline [])
  else
    let entries ← Scan.iterate (inlineTableStep value) (inlineTableStep_advances value) []
    let table ← Scan.ofExcept (Table.fill entries [])
    pure (.table .inline table)

/-- A value, with a reader for what an opening bracket or brace begins. -/
def valueWith (nested : Char → Read Value) : Read Value := do
  let ahead := (← Scan.remaining).head?
  if ahead.any (fun c => c == '+' || c == '-' || c.isDigit) then numeric
  else
    let c ← anyChar
    match c with
    | '"' => doubleQuoted
    | '\'' => singleQuoted
    | '[' | '\x7b' => nested c
    | 't' => word ['r', 'u', 'e'] (.boolean true)
    | 'f' => word ['a', 'l', 's', 'e'] (.boolean false)
    | 'i' => word ['n', 'f'] (.float "inf")
    | 'n' => word ['a', 'n'] (.float "nan")
    | _ => malformed

/-- A value that is nested no deeper than so many brackets and braces. -/
def value : Nat → Read Value
  | 0 => valueWith fun _ => Scan.fail .tooDeep
  | depth + 1 => valueWith fun c =>
      if c = '[' then array (value depth) else inlineTable (value depth)

/-- A statement of a document. -/
inductive Statement
  | entry (entry : Entry)
  | heading (heading : Heading)

/-- The rest of a heading, in one or two pairs of brackets. -/
def headingFrom : Read Heading := do
  if ← Scan.accept ['['] then
    blanks
    let path ← keyPath (← anyChar)
    expect [']', ']']
    pure (.element path)
  else
    blanks
    let path ← keyPath (← anyChar)
    expect [']']
    pure (.table path)

/-- One more line that holds something, or a line without. The statements so far are in reverse. -/
def lineStep (statements : List Statement) : Read (List Statement ⊕ List Statement) := do
  blanks
  match ← Scan.next? with
  | none => pure (.inr statements.reverse)
  | some '\n' => pure (.inl statements)
  | some '\r' => do
      expect ['\n']
      pure (.inl statements)
  | some '#' => do
      let _ ← Scan.span isPlain
      lineEnd
      pure (.inl statements)
  | some '[' => do
      let heading ← headingFrom
      lineEnd
      pure (.inl (.heading heading :: statements))
  | some c => do
      let entry ← entryFrom (value (depthLimit - 1)) c
      lineEnd
      pure (.inl (.entry entry :: statements))

theorem lineStep_advances (statements : List Statement) : (lineStep statements).Advances :=
  .bind_right fun _ => .of_next? (Scan.advances_pure_inr _)

/-- All statements of a text. A byte order mark may come first. -/
def statements : Read (List Statement) := do
  let _ ← Scan.accept ['\ufeff']
  Scan.iterate lineStep lineStep_advances []

/-- Statements put into order: the entries before any heading, then the sections. -/
structure Document where
  entries : List Entry
  sections : List Section

namespace Document

/-- A document with one more statement before all others. -/
def cons (statement : Statement) (document : Document) : Document :=
  match statement with
  | .entry entry => { document with entries := entry :: document.entries }
  | .heading heading => ⟨[], ⟨heading, document.entries⟩ :: document.sections⟩

def ofStatements (statements : List Statement) : Document :=
  statements.foldr cons ⟨[], []⟩

/-- What the document defines. -/
def table (document : Document) : Except Fault Table := do
  let top ← Table.fill document.entries []
  document.sections.foldlM Table.addSection top

end Document

/-- The table that a text writes. -/
def tableOf (text : String) : Except Fault Table := do
  let (statements, _) ← statements.run text.toList
  (Document.ofStatements statements).table

end TypeProfile.Toml
