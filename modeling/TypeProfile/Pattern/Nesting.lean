/-!
# Nesting

How deep a pattern is nested. Lists of one item are no level of their own.
-/

namespace TypeProfile.Pattern

/-- A list of items, as far as its depth goes. -/
structure Items where
  count : Nat := 0
  deepest : Nat := 0
deriving DecidableEq, Repr

namespace Items

/-- One more item. -/
def add (items : Items) (depth : Nat) : Items :=
  ⟨items.count + 1, max items.deepest depth⟩

def depth (items : Items) : Nat :=
  if items.count ≤ 1 then items.deepest else items.deepest + 1

@[simp] theorem depth_singleton (depth : Nat) : (Items.add {} depth).depth = depth := by
  simp [add, Items.depth]

/-- No item is deeper than the list. -/
theorem le_depth_add (items : Items) (depth : Nat) : depth ≤ (items.add depth).depth := by
  have bound : depth ≤ max items.deepest depth := Nat.le_max_right _ _
  by_cases single : (items.add depth).count ≤ 1
  · rwa [Items.depth, if_pos single]
  · rw [Items.depth, if_neg single]
    exact Nat.le_succ_of_le bound

end Items

/-- The deepest nesting of patterns that can be matched. -/
def deepestNesting : Nat := 250

end TypeProfile.Pattern
