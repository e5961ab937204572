import TypeProfile.Journal.Filter

/-!
# Journals

A journal is what a filter shows of the events of a run, in the order in which they happened.
-/

namespace TypeProfile.Journal

/-- The events that a filter shows, one on a line. -/
def text (filter : Filter) (coloured : Bool) (events : List Event) : String :=
  String.join ((events.filter filter.shows).map (·.line coloured))

@[simp] theorem text_nil (filter : Filter) (coloured : Bool) : text filter coloured [] = "" := rfl

end TypeProfile.Journal
