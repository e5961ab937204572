import TypeProfile.Listing
import TypeProfile.Proofs.Text.Ruled

/-!
# The table of attributes

Whatever attributes are listed, in whatever order and however often, their table is rectangular, and
every name, group and description can be read out of it again in its place.
-/

namespace TypeProfile.Attribute

/-- No heading, name, group or description has a bar or a line break in it, or a blank at either
end. -/
theorem legible_texts (flags : List Attribute) :
    ∀ column ∈ columns, ∀ text ∈ column.texts flags, Text.Legible text := by
  have hname (flag : Attribute) : Text.Legible flag.name := by
    cases flag <;> exact Text.legible_ofList (by decide)
  have hgroup (flag : Attribute) : Text.Legible flag.group.title := by
    cases flag.group <;> exact Text.legible_ofList (by decide)
  have hdescription (flag : Attribute) : Text.Legible flag.description := by
    cases flag <;> exact Text.legible_ofList (by decide)
  simp only [columns, List.forall_mem_cons, List.not_mem_nil, false_implies, implies_true,
    and_true]
  exact ⟨Text.Column.legible_of_mem_texts (Text.legible_ofList (by decide)) hname,
    Text.Column.legible_of_mem_texts (Text.legible_ofList (by decide)) hgroup,
    Text.Column.legible_of_mem_texts (Text.legible_ofList (by decide)) hdescription⟩

/-- The lines of a table, counted from zero: all of one length, the same rule on every even line,
the headings on the first odd line and what is known of the attributes on the others, one line for
each in the given order. Nothing stands before the first bar or behind the last. -/
theorem table_legible (flags : List Attribute) :
    let lines := (table flags).toList.splitOn '\n'
    lines.length = 2 * flags.length + 3 ∧
    (∃ length, ∀ line ∈ lines, line.length = length) ∧
    (∃ rule, Text.IsRule rule ∧ ∀ i ≤ flags.length + 1, lines[2 * i]? = some rule) ∧
    lines[1]?.map Text.cellsIn = some ["", "name", "group", "description", ""] ∧
    ∀ i : Nat, lines[2 * i + 3]?.map Text.cellsIn =
      flags[i]?.map fun flag => ["", flag.name, flag.group.title, flag.description, ""] := by
  intro lines
  have hlegible := legible_texts flags
  have hlength : ∀ line ∈ lines, line.length = (Text.tableRule columns flags).length :=
    fun line hline => Text.length_of_mem_splitOn_ruledTable hlegible hline
  have hrule : ∀ i ≤ flags.length + 1,
      lines[2 * i]? = some (Text.tableRule columns flags).toList :=
    fun i hi => Text.getElem?_splitOn_ruledTable_even hlegible hi
  refine ⟨Text.length_splitOn_ruledTable hlegible, ⟨_, hlength⟩,
    ⟨_, Text.isRule_rule _, hrule⟩, ?_, ?_⟩
  · exact Text.getElem?_splitOn_ruledTable_odd hlegible 0
  · intro i
    have hline := Text.getElem?_splitOn_ruledTable_odd hlegible (i + 1)
    rw [Text.contents, List.getElem?_cons_succ, List.getElem?_map, Option.map_map] at hline
    exact hline

example : table [] =
    "+------+-------+-------------+\n" ++
    "| name | group | description |\n" ++
    "+------+-------+-------------+" := by decide

end TypeProfile.Attribute
