import TypeProfile.Attribute
import TypeProfile.Json.Value
import TypeProfile.Text.Ruled

/-!
# Listings of attributes

What is known about some attributes, as a table or as JSON. Both have the same columns.
-/

namespace TypeProfile.Attribute

/-- What a listing says of an attribute. -/
def columns : List (Text.Column Attribute) :=
  [⟨"name", name⟩, ⟨"group", fun flag => flag.group.title⟩, ⟨"description", description⟩]

/-- The table of some attributes, in the given order. -/
def table (flags : List Attribute) : String :=
  Text.ruledTable columns flags

/-- The listing of some attributes as JSON, in the given order. -/
def listing (flags : List Attribute) : Json.Value :=
  .array <| flags.map fun flag =>
    .object <| columns.map fun column => (column.heading, .string (column.cell flag))

end TypeProfile.Attribute
