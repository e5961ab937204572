import Mathlib.Data.List.DropRight
import TypeProfile.Proofs.Text.Separation
import TypeProfile.Text.Ruled

/-!
# Reading a ruled table

The width of a column is that of its longest text, over the heading and all rows, so every text fits
and all lines of a table come out equally long. Rules and lines of cells take turns. A line of cells
that is split at its bars gives the texts back, each with blanks around it.
-/

namespace TypeProfile.Text

/-! ## Cells -/

/-- A text without the blanks at its ends. -/
def trimBlanks (text : List Char) : List Char :=
  (text.dropWhile (· == ' ')).rdropWhile (· == ' ')

/-- What stands before, between and behind the bars of a line, without blanks around it. -/
def cellsIn (line : List Char) : List String :=
  (line.splitOn '|').map fun piece => String.ofList (trimBlanks piece)

/-- A text that can be read back from a cell. -/
structure Legible (text : String) : Prop where
  bar_notMem : '|' ∉ text.toList
  lineBreak_notMem : '\n' ∉ text.toList
  trimmed : trimBlanks text.toList = text.toList

/-- Whether characters can be read back from a cell. -/
def isLegible (text : List Char) : Bool :=
  !text.contains '|' && !text.contains '\n' && trimBlanks text == text

theorem legible_ofList {text : List Char} (hlegible : isLegible text = true) :
    Legible (String.ofList text) := by
  simp only [isLegible, Bool.and_eq_true, Bool.not_eq_true', List.contains_eq_mem,
    decide_eq_false_iff_not, beq_iff_eq] at hlegible
  obtain ⟨⟨hbar, hbreak⟩, htrimmed⟩ := hlegible
  rw [← String.toList_ofList (l := text)] at hbar hbreak htrimmed
  exact ⟨hbar, hbreak, htrimmed⟩

theorem trimBlanks_cons (text : List Char) : trimBlanks (' ' :: text) = trimBlanks text := rfl

theorem trimBlanks_append {text blanks : List Char}
    (hblanks : ∀ c ∈ blanks, (c == ' ') = true) :
    trimBlanks (text ++ blanks) = trimBlanks text := by
  rw [trimBlanks, trimBlanks, List.dropWhile_append]
  split
  next hempty =>
    rw [List.isEmpty_iff.mp hempty, List.dropWhile_eq_nil_iff.mpr hblanks]
  next =>
    rw [List.rdropWhile, List.rdropWhile, List.reverse_append, List.dropWhile_append_of_pos]
    intro c hc
    exact hblanks c (List.mem_reverse.mp hc)

theorem toList_pushn (text : String) (c : Char) (n : Nat) :
    (text.pushn c n).toList = text.toList ++ List.replicate n c := by
  rw [String.pushn_eq_repeat_push]
  induction n with
  | zero => simp [Nat.repeat]
  | succ n ih => rw [Nat.repeat, String.toList_push, ih, List.append_assoc, List.replicate_succ']

theorem toList_padRight (width : Nat) (text : String) :
    (padRight width text).toList = text.toList ++ List.replicate (width - text.length) ' ' :=
  toList_pushn text ' ' _

/-- What stands between two bars. -/
def cellText (cell : Nat × String) : List Char :=
  ' ' :: ((padRight cell.1 cell.2).toList ++ [' '])

theorem mem_cellText {cell : Nat × String} {c : Char} (hc : c ∈ cellText cell) :
    c = ' ' ∨ c ∈ cell.2.toList := by
  simp only [cellText, toList_padRight, List.mem_cons, List.mem_append, List.mem_replicate,
    List.not_mem_nil, or_false] at hc
  tauto

theorem trimBlanks_cellText {cell : Nat × String} (hcell : Legible cell.2) :
    trimBlanks (cellText cell) = cell.2.toList := by
  have hblanks (n : Nat) : ∀ c ∈ List.replicate n ' ', (c == ' ') = true := by
    intro c hc
    rw [List.eq_of_mem_replicate hc]
    rfl
  have hlast : ∀ c ∈ [' '], (c == ' ') = true := hblanks 1
  rw [cellText, trimBlanks_cons, trimBlanks_append hlast, toList_padRight,
    trimBlanks_append (hblanks _), hcell.trimmed]

/-! ## Lines of cells -/

theorem toList_ruledLine (cells : List (Nat × String)) :
    (ruledLine cells).toList = (cells.map cellText).flatMap ('|' :: ·) ++ ['|'] := by
  simp [ruledLine, cellText, String.toList_join, List.flatMap_map]

theorem cellsIn_ruledLine {cells : List (Nat × String)} (hcells : ∀ cell ∈ cells, Legible cell.2) :
    cellsIn (ruledLine cells).toList = "" :: (cells.map Prod.snd ++ [""]) := by
  have hfree : ∀ part ∈ cells.map cellText, '|' ∉ part := by
    intro part hpart hbar
    obtain ⟨cell, hcell, rfl⟩ := List.mem_map.mp hpart
    rcases mem_cellText hbar with hblank | hbar
    · cases hblank
    · exact (hcells cell hcell).bar_notMem hbar
  have hsplit : (ruledLine cells).toList.splitOn '|' = [] :: (cells.map cellText ++ [[]]) := by
    rw [toList_ruledLine]
    exact splitOn_marked List.not_mem_nil hfree
  have hread : (cells.map cellText).map (fun piece => String.ofList (trimBlanks piece)) =
      cells.map Prod.snd := by
    rw [List.map_map]
    apply List.map_congr_left
    intro cell hcell
    exact (congrArg String.ofList (trimBlanks_cellText (hcells cell hcell))).trans
      String.ofList_toList
  rw [cellsIn, hsplit, List.map_cons, List.map_append, hread]
  rfl

theorem lineBreak_notMem_ruledLine {cells : List (Nat × String)}
    (hcells : ∀ cell ∈ cells, Legible cell.2) : '\n' ∉ (ruledLine cells).toList := by
  rw [toList_ruledLine, List.mem_append, List.mem_flatMap]
  rintro (⟨part, hpart, hbreak⟩ | hbreak)
  · obtain ⟨cell, hcell, rfl⟩ := List.mem_map.mp hpart
    rcases List.mem_cons.mp hbreak with hbar | hbreak
    · cases hbar
    · rcases mem_cellText hbreak with hblank | hbreak
      · cases hblank
      · exact (hcells cell hcell).lineBreak_notMem hbreak
  · revert hbreak
    decide

/-! ## Rules -/

/-- A line of dashes and crosses, with a cross at either end. -/
structure IsRule (line : List Char) : Prop where
  starts : line.head? = some '+'
  ends : line.getLast? = some '+'
  dash_or_cross : ∀ c ∈ line, c = '-' ∨ c = '+'

theorem toList_rule (widths : List Nat) :
    (rule widths).toList =
      widths.flatMap (fun width => '+' :: List.replicate (width + 2) '-') ++ ['+'] := by
  simp [rule, String.toList_join, List.flatMap_map, toList_pushn]

theorem isRule_rule (widths : List Nat) : IsRule (rule widths).toList where
  starts := by
    rw [toList_rule]
    cases widths <;> rfl
  ends := by rw [toList_rule, List.getLast?_concat]
  dash_or_cross := by
    intro c hc
    rw [toList_rule, List.mem_append, List.mem_flatMap] at hc
    rcases hc with ⟨width, -, hc⟩ | hc
    · rcases List.mem_cons.mp hc with rfl | hc
      · exact .inr rfl
      · exact .inl (List.eq_of_mem_replicate hc)
    · exact .inr (List.mem_singleton.mp hc)

theorem IsRule.lineBreak_notMem {line : List Char} (hrule : IsRule line) : '\n' ∉ line := by
  intro hbreak
  rcases hrule.dash_or_cross _ hbreak with hdash | hcross
  · cases hdash
  · cases hcross

/-! ## Widths -/

theorem foldl_max_le_iff {α : Type} {measure : α → Nat} {rows : List α} {least bound : Nat} :
    rows.foldl (fun width row => max width (measure row)) least ≤ bound ↔
      least ≤ bound ∧ ∀ row ∈ rows, measure row ≤ bound := by
  induction rows generalizing least with
  | nil => simp
  | cons row rows ih =>
      rw [List.foldl_cons, ih, Nat.max_le, List.forall_mem_cons, and_assoc]

variable {α : Type}

namespace Column

/-- The texts of a column, from the top. -/
def texts (column : Column α) (rows : List α) : List String :=
  column.heading :: rows.map column.cell

/-- A column is as wide as it has to be, and no wider. -/
theorem width_le_iff {column : Column α} {rows : List α} {bound : Nat} :
    column.width rows ≤ bound ↔ ∀ text ∈ column.texts rows, text.length ≤ bound := by
  rw [width, foldl_max_le_iff, texts, List.forall_mem_cons, List.forall_mem_map]

theorem length_le_width {column : Column α} {rows : List α} {text : String}
    (htext : text ∈ column.texts rows) : text.length ≤ column.width rows :=
  width_le_iff.mp le_rfl text htext

theorem legible_of_mem_texts {column : Column α} {rows : List α}
    (hheading : Legible column.heading) (hcell : ∀ row, Legible (column.cell row)) :
    ∀ text ∈ column.texts rows, Legible text := by
  intro text htext
  rcases List.mem_cons.mp htext with rfl | htext
  · exact hheading
  · obtain ⟨row, -, rfl⟩ := List.mem_map.mp htext
    exact hcell row

end Column

theorem length_padRight {width : Nat} {text : String} (hfits : text.length ≤ width) :
    (padRight width text).length = width := by
  rw [padRight, String.length_pushn]
  omega

/-- Where all texts fit, a line of cells is as long as a rule. -/
theorem length_ruledLine {cells : List (Nat × String)}
    (hfits : ∀ cell ∈ cells, cell.2.length ≤ cell.1) :
    (ruledLine cells).length = (rule (cells.map Prod.fst)).length := by
  have hcell : ∀ cell ∈ cells, ("| " ++ padRight cell.1 cell.2 ++ " ").length =
      ("+".pushn '-' (cell.1 + 2)).length := by
    intro cell hmem
    rw [String.length_append, String.length_append, length_padRight (hfits cell hmem),
      String.length_pushn]
    have hopen : "| ".length = 2 := rfl
    have hclose : " ".length = 1 := rfl
    have hcross : "+".length = 1 := rfl
    omega
  rw [ruledLine, rule, String.length_append, String.length_append, String.length_join,
    String.length_join, List.map_map, List.map_map, List.map_map]
  exact congrArg (fun lengths => lengths.sum + 1) (List.map_congr_left hcell)

/-! ## Rules and lines of cells in turn -/

/-- Items with the same one before, between and behind them. -/
def fenced {β : Type} (fence : β) (items : List β) : List β :=
  fence :: items.flatMap fun item => [item, fence]

section Fenced

variable {β : Type} {fence : β} {items : List β}

theorem fenced_cons (fence item : β) (items : List β) :
    fenced fence (item :: items) = fence :: item :: fenced fence items := rfl

theorem mem_fenced {item : β} (hitem : item ∈ fenced fence items) :
    item = fence ∨ item ∈ items := by
  induction items with
  | nil => exact .inl (List.mem_singleton.mp hitem)
  | cons first items ih =>
      rw [fenced_cons, List.mem_cons, List.mem_cons] at hitem
      rcases hitem with rfl | rfl | hitem
      · exact .inl rfl
      · exact .inr List.mem_cons_self
      · exact (ih hitem).imp_right (List.mem_cons_of_mem first)

theorem length_fenced : (fenced fence items).length = 2 * items.length + 1 := by
  induction items with
  | nil => rfl
  | cons item items ih =>
      rw [fenced_cons, List.length_cons, List.length_cons, ih, List.length_cons]
      omega

theorem getElem?_fenced_even {i : Nat} (hi : i ≤ items.length) :
    (fenced fence items)[2 * i]? = some fence := by
  induction items generalizing i with
  | nil =>
      obtain rfl := Nat.le_zero.mp hi
      rfl
  | cons item items ih =>
      cases i with
      | zero => rfl
      | succ i => exact ih (Nat.le_of_succ_le_succ hi)

theorem getElem?_fenced_odd (i : Nat) : (fenced fence items)[2 * i + 1]? = items[i]? := by
  induction items generalizing i with
  | nil => rfl
  | cons item items ih =>
      cases i with
      | zero => rfl
      | succ i => exact ih i

end Fenced

/-! ## Tables -/

/-- What the lines of cells show of each column: first its heading, then its cell in every row. -/
def contents (rows : List α) : List (Column α → String) :=
  Column.heading :: rows.map fun row column => column.cell row

/-- The rule of a table. -/
def tableRule (columns : List (Column α)) (rows : List α) : String :=
  rule (columns.map fun column => column.width rows)

/-- A line of cells in a table. -/
def tableLine (columns : List (Column α)) (rows : List α) (content : Column α → String) : String :=
  ruledLine (columns.map fun column => (column.width rows, content column))

theorem ruledLines_eq (columns : List (Column α)) (rows : List α) :
    ruledLines columns rows =
      fenced (tableRule columns rows) ((contents rows).map (tableLine columns rows)) := by
  simp [ruledLines, fenced, contents, tableRule, tableLine, List.map_map, List.flatMap_map,
    Function.comp_def]

theorem content_mem_texts {rows : List α} {content : Column α → String}
    (hcontent : content ∈ contents rows) (column : Column α) :
    content column ∈ column.texts rows := by
  rcases List.mem_cons.mp hcontent with rfl | hcontent
  · exact List.mem_cons_self
  · obtain ⟨row, hrow, rfl⟩ := List.mem_map.mp hcontent
    exact List.mem_cons_of_mem _ (List.mem_map_of_mem hrow)

/-- All lines of a table are of one length. -/
theorem length_of_mem_ruledLines {columns : List (Column α)} {rows : List α} {line : String}
    (hline : line ∈ ruledLines columns rows) :
    line.length = (tableRule columns rows).length := by
  rw [ruledLines_eq] at hline
  rcases mem_fenced hline with rfl | hline
  · rfl
  · obtain ⟨content, hcontent, rfl⟩ := List.mem_map.mp hline
    rw [tableLine, length_ruledLine, List.map_map]
    · rfl
    · intro cell hcell
      obtain ⟨column, -, rfl⟩ := List.mem_map.mp hcell
      exact Column.length_le_width (content_mem_texts hcontent column)

variable {columns : List (Column α)} {rows : List α}
  (hlegible : ∀ column ∈ columns, ∀ text ∈ column.texts rows, Legible text)

include hlegible

theorem legible_of_mem_line {content : Column α → String} (hcontent : content ∈ contents rows) :
    ∀ cell ∈ columns.map (fun column => (column.width rows, content column)), Legible cell.2 := by
  intro cell hcell
  obtain ⟨column, hcolumn, rfl⟩ := List.mem_map.mp hcell
  exact hlegible column hcolumn _ (content_mem_texts hcontent column)

theorem cellsIn_tableLine {content : Column α → String} (hcontent : content ∈ contents rows) :
    cellsIn (tableLine columns rows content).toList = "" :: (columns.map content ++ [""]) := by
  rw [tableLine, cellsIn_ruledLine (legible_of_mem_line hlegible hcontent), List.map_map]
  rfl

/-- The lines of a table are those between its line breaks. -/
theorem splitOn_ruledTable :
    (ruledTable columns rows).toList.splitOn '\n' =
      (ruledLines columns rows).map String.toList := by
  have hbreak : "\n".toList = ['\n'] := rfl
  rw [ruledTable, String.toList_intercalate, hbreak]
  apply List.splitOn_intercalate
  · intro line hline
    obtain ⟨text, htext, rfl⟩ := List.mem_map.mp hline
    rw [ruledLines_eq] at htext
    rcases mem_fenced htext with rfl | htext
    · exact (isRule_rule _).lineBreak_notMem
    · obtain ⟨content, hcontent, rfl⟩ := List.mem_map.mp htext
      exact lineBreak_notMem_ruledLine (legible_of_mem_line hlegible hcontent)
  · rw [ruledLines_eq]
    exact List.cons_ne_nil _ _

theorem length_splitOn_ruledTable :
    ((ruledTable columns rows).toList.splitOn '\n').length = 2 * rows.length + 3 := by
  rw [splitOn_ruledTable hlegible, List.length_map, ruledLines_eq, length_fenced, List.length_map,
    contents, List.length_cons, List.length_map]
  omega

theorem length_of_mem_splitOn_ruledTable {line : List Char}
    (hline : line ∈ (ruledTable columns rows).toList.splitOn '\n') :
    line.length = (tableRule columns rows).length := by
  rw [splitOn_ruledTable hlegible] at hline
  obtain ⟨text, htext, rfl⟩ := List.mem_map.mp hline
  rw [String.length_toList, length_of_mem_ruledLines htext]

theorem getElem?_splitOn_ruledTable_even {i : Nat} (hi : i ≤ rows.length + 1) :
    ((ruledTable columns rows).toList.splitOn '\n')[2 * i]? =
      some (tableRule columns rows).toList := by
  rw [splitOn_ruledTable hlegible, List.getElem?_map, ruledLines_eq, getElem?_fenced_even]
  · rfl
  · simpa [contents] using hi

theorem getElem?_splitOn_ruledTable_odd (i : Nat) :
    ((ruledTable columns rows).toList.splitOn '\n')[2 * i + 1]?.map cellsIn =
      (contents rows)[i]?.map fun content => "" :: (columns.map content ++ [""]) := by
  rw [splitOn_ruledTable hlegible, List.getElem?_map, ruledLines_eq, getElem?_fenced_odd,
    List.getElem?_map]
  cases hcontent : (contents rows)[i]? with
  | none => rfl
  | some content =>
      exact congrArg some (cellsIn_tableLine hlegible (List.mem_of_getElem? hcontent))

end TypeProfile.Text
