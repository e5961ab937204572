import TypeProfile.Proofs.Toml.Spelling

/-!
# Ways to write statements

A document has one statement on a line, with blanks before and after it. Empty lines and comments
may stand anywhere between the lines. Only keys without dots and values that are strings are
considered here.
-/

namespace TypeProfile.Toml

/-- The ways to write a line break. -/
def newlines : List (List Char) :=
  [['\n'], ['\r', '\n']]

/-- A line break stands before the rest of the text, or the text is at its end. -/
inductive Breaks : List Char → List Char → Prop
  | newline {newline : List Char} (hnewline : newline ∈ newlines) (rest : List Char) :
      Breaks (newline ++ rest) rest
  | final : Breaks [] []

/-- What may stand between a statement and the rest of the text, which begins on another line. -/
inductive EndsLine : List Char → List Char → Prop
  | plain {gap text rest : List Char} (hgap : Blank gap) (hbreak : Breaks text rest) :
      EndsLine (gap ++ text) rest
  | comment {gap remark text rest : List Char} (hgap : Blank gap)
      (hremark : ∀ c ∈ remark, isPlain c = true) (hbreak : Breaks text rest) :
      EndsLine (gap ++ '#' :: (remark ++ text)) rest

/-- The entry that gives a text to a key. -/
def Entry.ofText (key text : String) : Entry :=
  ⟨⟨[], key⟩, .string text⟩

/-- The ways to write a statement. -/
inductive Statement.Spells : Statement → List Char → Prop
  | entry {key text : String} {c : Char} {others before after spelling : List Char}
      (hkey : SpellsKey key c others) (hbefore : Blank before) (hafter : Blank after)
      (htext : SpellsAll text.toList spelling) :
      Spells (.entry (.ofText key text))
        (c :: (others ++ (before ++ '=' :: (after ++ '"' :: (spelling ++ ['"'])))))
  | heading {key : String} {c : Char} {others before after : List Char}
      (hkey : SpellsKey key c others) (hbefore : Blank before) (hafter : Blank after) :
      Spells (.heading (.table ⟨[], key⟩)) ('[' :: (before ++ c :: (others ++ (after ++ [']']))))

/-- The ways to write statements one after another. -/
inductive Writes : List Statement → List Char → Prop
  | done {gap : List Char} (hgap : Blank gap) : Writes [] gap
  | empty {gap newline rest : List Char} {statements : List Statement} (hgap : Blank gap)
      (hnewline : newline ∈ newlines) (hrest : Writes statements rest) :
      Writes statements (gap ++ (newline ++ rest))
  | comment {gap remark text rest : List Char} {statements : List Statement} (hgap : Blank gap)
      (hremark : ∀ c ∈ remark, isPlain c = true) (hbreak : Breaks text rest)
      (hrest : Writes statements rest) : Writes statements (gap ++ '#' :: (remark ++ text))
  | statement {gap line text rest : List Char} {statement : Statement}
      {statements : List Statement} (hgap : Blank gap) (hline : statement.Spells line)
      (hend : EndsLine text rest) (hrest : Writes statements rest) :
      Writes (statement :: statements) (gap ++ (line ++ text))

/-! ## Ends of lines -/

theorem mem_newlines_iff {newline : List Char} :
    newline ∈ newlines ↔ newline = ['\n'] ∨ newline = ['\r', '\n'] := by
  simp [newlines]

theorem Breaks.head? {text rest : List Char} (hbreak : Breaks text rest) {c : Char}
    (hhead : text.head? = some c) : c = '\n' ∨ c = '\r' := by
  cases hbreak with
  | newline hnewline rest =>
      rcases mem_newlines_iff.mp hnewline with rfl | rfl
      · exact .inl (Option.some.inj hhead).symm
      · exact .inr (Option.some.inj hhead).symm
  | final => cases hhead

/-- A test that no line break passes stops before one. -/
theorem Breaks.stops {text rest : List Char} (hbreak : Breaks text rest) {test : Char → Bool}
    (hfeed : test '\n' = false) (hreturn : test '\r' = false) (c : Char)
    (hhead : text.head? = some c) : test c = false := by
  rcases hbreak.head? hhead with rfl | rfl
  · exact hfeed
  · exact hreturn

theorem Breaks.head?_ne {text rest : List Char} (hbreak : Breaks text rest) {c : Char}
    (hfeed : c ≠ '\n') (hreturn : c ≠ '\r') : text.head? ≠ some c := by
  intro hhead
  rcases hbreak.head? hhead with hsame | hsame
  · exact hfeed hsame
  · exact hreturn hsame

theorem run_comment {remark text rest : List Char} (hremark : ∀ c ∈ remark, isPlain c = true)
    (hbreak : Breaks text rest) : comment.run ('#' :: (remark ++ text)) = .ok ((), text) := by
  have haccept : (Scan.accept ['#'] : Read Bool).run ('#' :: (remark ++ text)) =
      .ok (true, remark ++ text) := Scan.run_accept_append ['#'] _
  rw [comment, Scan.run_bind_of_ok haccept]
  exact Scan.run_bind_of_ok (Scan.run_span_append hremark (hbreak.stops rfl rfl))

theorem run_comment_of_head? {text : List Char} (hhead : text.head? ≠ some '#') :
    comment.run text = .ok ((), text) :=
  Scan.run_bind_of_ok (Scan.run_accept_of_head? hhead)

theorem run_acceptNewline {newline : List Char} (hnewline : newline ∈ newlines)
    (rest : List Char) : acceptNewline.run (newline ++ rest) = .ok (true, rest) := by
  rcases mem_newlines_iff.mp hnewline with rfl | rfl <;> rfl

/-- The last part of the end of a line. -/
theorem run_break {text rest : List Char} (hbreak : Breaks text rest) :
    (do
      if ← acceptNewline then pure ()
      else if (← Scan.remaining).isEmpty then pure ()
      else malformed : Read Unit).run text = .ok ((), rest) := by
  cases hbreak with
  | newline hnewline rest => exact Scan.run_bind_of_ok (run_acceptNewline hnewline rest)
  | final => rfl

theorem run_lineEnd {text rest : List Char} (hend : EndsLine text rest) :
    lineEnd.run text = .ok ((), rest) := by
  cases hend with
  | plain hgap hbreak =>
      have hhash := hbreak.head?_ne (c := '#') nofun nofun
      rw [lineEnd, Scan.run_bind_of_ok (run_blanks hgap (hbreak.stops rfl rfl)),
        Scan.run_bind_of_ok (run_comment_of_head? hhash)]
      exact run_break hbreak
  | comment hgap hremark hbreak =>
      rw [lineEnd, Scan.run_bind_of_ok (run_blanks_cons hgap rfl _),
        Scan.run_bind_of_ok (run_comment hremark hbreak)]
      exact run_break hbreak

theorem EndsLine.head?_ne {text rest : List Char} (hend : EndsLine text rest) :
    text.head? ≠ some '"' := by
  cases hend with
  | plain hgap hbreak => exact hgap.head?_append_ne rfl (hbreak.head?_ne nofun nofun)
  | comment hgap hremark hbreak => exact hgap.head?_append_ne rfl nofun

/-! ## Statements -/

theorem run_expect (c : Char) (text : List Char) : (expect [c]).run (c :: text) = .ok ((), text) :=
  Scan.run_bind_of_ok (Scan.run_accept_append [c] text)

/-- A string is a value at any depth. -/
theorem run_value {text spelling rest : List Char} (hspells : SpellsAll text spelling)
    (hrest : rest.head? ≠ some '"') (depth : Nat) :
    (value depth).run ('"' :: (spelling ++ '"' :: rest)) =
      .ok (.string (String.ofList text), rest) := by
  have hread (nested : Char → Read Value) :
      (valueWith nested).run ('"' :: (spelling ++ '"' :: rest)) =
        .ok (.string (String.ofList text), rest) :=
    run_doubleQuoted hspells hrest
  cases depth with
  | zero => exact hread _
  | succ depth => exact hread _

theorem run_entryFrom {key text : String} {c : Char} {others before after spelling : List Char}
    (hkey : SpellsKey key c others) (hbefore : Blank before) (hafter : Blank after)
    (htext : SpellsAll text.toList spelling) (depth : Nat) {rest : List Char}
    (hrest : rest.head? ≠ some '"') :
    (entryFrom (value depth) c).run
      (others ++ (before ++ '=' :: (after ++ '"' :: (spelling ++ '"' :: rest)))) =
        .ok (.ofText key text, rest) := by
  have hequals : EndsKey '=' := ⟨rfl, rfl, nofun⟩
  have hvalue := run_value htext hrest depth
  rw [String.ofList_toList] at hvalue
  rw [entryFrom, Scan.run_bind_of_ok (run_keyPath hkey hbefore hequals _),
    Scan.run_bind_of_ok (run_expect '=' _), Scan.run_bind_of_ok (run_blanks_cons hafter rfl _),
    Scan.run_bind_of_ok hvalue]
  rfl

theorem run_headingFrom {key : String} {c : Char} {others before after : List Char}
    (hkey : SpellsKey key c others) (hbefore : Blank before) (hafter : Blank after)
    (rest : List Char) :
    headingFrom.run (before ++ c :: (others ++ (after ++ ']' :: rest))) =
      .ok (.table ⟨[], key⟩, rest) := by
  have hbracket : EndsKey ']' := ⟨rfl, rfl, nofun⟩
  have hfirst : c ≠ '[' := hkey.first_ne rfl (by decide)
  have hsingle : (before ++ c :: (others ++ (after ++ ']' :: rest))).head? ≠ some '[' :=
    hbefore.head?_append_ne rfl (by simpa using hfirst)
  rw [headingFrom, Scan.run_bind_of_ok (Scan.run_accept_of_head? hsingle)]
  have hblanks := run_blanks_cons hbefore hkey.isBlank_first (others ++ (after ++ ']' :: rest))
  have hpath := run_keyPath hkey hafter hbracket rest
  exact (Scan.run_bind_of_ok hblanks).trans <|
    (Scan.run_bind_of_ok hpath).trans (Scan.run_bind_of_ok (run_expect ']' rest))

/-! ## Documents -/

theorem run_next? (c : Char) (text : List Char) :
    (Scan.next? : Read (Option Char)).run (c :: text) = .ok (some c, text) := rfl

section Steps

variable {gap remark text rest : List Char} (taken : List Statement) (hgap : Blank gap)

include hgap

theorem run_lineStep_done : (lineStep taken).run gap = .ok (.inr taken.reverse, []) := by
  have hblanks : blanks.run (gap ++ []) = .ok ((), []) := run_blanks hgap nofun
  rw [List.append_nil] at hblanks
  exact Scan.run_bind_of_ok hblanks

theorem run_lineStep_empty {newline : List Char} (hnewline : newline ∈ newlines) :
    (lineStep taken).run (gap ++ (newline ++ rest)) = .ok (.inl taken, rest) := by
  rcases mem_newlines_iff.mp hnewline with rfl | rfl <;> exact Scan.run_bind_of_ok (run_blanks_cons hgap rfl _)

theorem run_lineStep_comment (hremark : ∀ c ∈ remark, isPlain c = true)
    (hbreak : Breaks text rest) :
    (lineStep taken).run (gap ++ '#' :: (remark ++ text)) = .ok (.inl taken, rest) := by
  have hspan : (Scan.span isPlain : Read (List Char)).run (remark ++ text) = .ok (remark, text) :=
    Scan.run_span_append hremark (hbreak.stops rfl rfl)
  have hend := run_lineEnd (.plain blank_nil hbreak)
  rw [lineStep, Scan.run_bind_of_ok (run_blanks_cons hgap rfl _),
    Scan.run_bind_of_ok (run_next? '#' _)]
  exact (Scan.run_bind_of_ok hspan).trans (Scan.run_bind_of_ok hend)

theorem run_lineStep_statement {line : List Char} {statement : Statement}
    (hline : statement.Spells line) (hend : EndsLine text rest) :
    (lineStep taken).run (gap ++ (line ++ text)) = .ok (.inl (statement :: taken), rest) := by
  have hrest := run_lineEnd hend
  cases hline with
  | @entry key value c others before after spelling hkey hbefore hafter htext =>
      have hentry := run_entryFrom hkey hbefore hafter htext (depthLimit - 1) hend.head?_ne
      simp only [List.append_assoc, List.cons_append, List.nil_append]
      rw [lineStep, Scan.run_bind_of_ok (run_blanks_cons hgap hkey.isBlank_first _),
        Scan.run_bind_of_ok (run_next? c _)]
      -- No key begins with a character that another kind of line begins with.
      split
      next hnone => cases hnone
      next hfeed => exact absurd (Option.some.inj hfeed) (hkey.first_ne rfl (by decide))
      next hreturn => exact absurd (Option.some.inj hreturn) (hkey.first_ne rfl (by decide))
      next hhash => exact absurd (Option.some.inj hhash) (hkey.first_ne rfl (by decide))
      next hbracket => exact absurd (Option.some.inj hbracket) (hkey.first_ne rfl (by decide))
      next hkeyed =>
        cases hkeyed
        exact (Scan.run_bind_of_ok hentry).trans (Scan.run_bind_of_ok hrest)
  | heading hkey hbefore hafter =>
      have hheading := run_headingFrom hkey hbefore hafter text
      simp only [List.append_assoc, List.cons_append, List.nil_append]
      rw [lineStep, Scan.run_bind_of_ok (run_blanks_cons hgap rfl _),
        Scan.run_bind_of_ok (run_next? '[' _)]
      exact (Scan.run_bind_of_ok hheading).trans (Scan.run_bind_of_ok hrest)

end Steps

theorem run_lines {statements : List Statement} {text : List Char}
    (hwrites : Writes statements text) (taken : List Statement) :
    (Scan.iterate lineStep lineStep_advances taken).run text =
      .ok (taken.reverse ++ statements, []) := by
  induction hwrites generalizing taken with
  | done hgap =>
      rw [Scan.run_iterate, run_lineStep_done taken hgap, List.append_nil]
  | empty hgap hnewline hrest ih =>
      rw [Scan.run_iterate, run_lineStep_empty taken hgap hnewline]
      exact ih taken
  | comment hgap hremark hbreak hrest ih =>
      rw [Scan.run_iterate, run_lineStep_comment taken hgap hremark hbreak]
      exact ih taken
  | @statement gap line text rest statement statements hgap hline hend hrest ih =>
      rw [Scan.run_iterate, run_lineStep_statement taken hgap hline hend]
      simpa using ih (statement :: taken)

/-- No statement begins with a byte order mark, and neither does anything around it. -/
theorem Writes.head?_ne {statements : List Statement} {text : List Char}
    (hwrites : Writes statements text) : text.head? ≠ some '\ufeff' := by
  cases hwrites with
  | @done gap hgap =>
      rw [← List.append_nil text]
      exact hgap.head?_append_ne rfl nofun
  | empty hgap hnewline hrest =>
      apply hgap.head?_append_ne rfl
      exact (Breaks.newline hnewline _).head?_ne (by decide) (by decide)
  | comment hgap hremark hbreak hrest => exact hgap.head?_append_ne rfl (by simp)
  | statement hgap hline hend hrest =>
      apply hgap.head?_append_ne rfl
      cases hline with
      | entry hkey hbefore hafter htext =>
          have hfirst := hkey.first_ne (d := '\ufeff') rfl (by decide)
          simpa using hfirst
      | heading hkey hbefore hafter => simp

/-- In whatever way statements are written, they are what reading finds. -/
theorem run_statements {statements : List Statement} {text : List Char}
    (hwrites : Writes statements text) :
    Toml.statements.run text = .ok (statements, []) :=
  (Scan.run_bind_of_ok (Scan.run_accept_of_head? hwrites.head?_ne)).trans (run_lines hwrites [])

end TypeProfile.Toml
