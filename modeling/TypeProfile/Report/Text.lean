import TypeProfile.Report
import TypeProfile.Text.Styled

/-!
# Reports for a reader

One line for each verdict, with a mark for yes or no, and below the first verdict a line for each
thing that speaks against it.
-/

namespace TypeProfile

open Text

/-- The mark for yes or no. -/
def mark (coloured holds : Bool) : String :=
  if holds then Style.green.paint coloured "✓" else Style.red.paint coloured "✗"

namespace Report

/-- A report over several lines, each with a line break at its end. -/
def text (report : Report) (coloured : Bool) : String :=
  let reason line := "    - " ++ Style.dimmed.paint coloured line ++ "\n"
  "Type: " ++ Style.bold.paint coloured report.typeClass.name ++ "\n" ++
    mark coloured report.isAggregate ++ " aggregate\n" ++
    String.join (report.aggregate.explain.map reason) ++
    mark coloured report.defaultConstructible ++ " default constructible\n" ++
    mark coloured report.triviallyDefaultConstructible ++ " trivially default constructible\n"

end Report

end TypeProfile
