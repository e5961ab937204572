import TypeProfile.Declaration.Constructor
import TypeProfile.Proofs.Layout
import TypeProfile.Proofs.Text.Quoted

/-!
# What is said of unusable layouts

The text at fault may hold anything: line breaks, controls, quotes, words that look like the rest of
the message. The message that reports it is one line of printable characters all the same, and it
tells the field and the text apart from those of any other fault.
-/

namespace TypeProfile

namespace Layout

attribute [ext] Fault

namespace Fault

theorem toList_message (fault : Fault) :
    fault.message.toList = "invalid render config: ".toList ++ (fault.field.name.toList ++
      (" = ".toList ++ ((Text.quote fault.value).toList ++
        (" (" ++ fault.field.complaint ++ ")").toList))) := by
  unfold message
  simp only [String.toList_append, List.append_assoc]

/-- The words of a message around the text at fault are plain ASCII. -/
theorem isPrintable_of_mem_message (fault : Fault) {c : Char} (hc : c ∈ fault.message.toList) :
    Text.isPrintable c = true := by
  have hopening : "invalid render config: ".toList.all Text.isPlainAscii = true := by decide
  have hname : fault.field.name.toList.all Text.isPlainAscii = true := by
    cases fault.field <;> decide
  have hmark : " = ".toList.all Text.isPlainAscii = true := by decide
  have hcomplaint : (" (" ++ fault.field.complaint ++ ")").toList.all Text.isPlainAscii = true := by
    cases fault.field <;> decide
  simp only [toList_message, List.mem_append] at hc
  rcases hc with hc | hc | hc | hc | hc
  · exact Text.isPrintable_of_mem_word hopening hc
  · exact Text.isPrintable_of_mem_word hname hc
  · exact Text.isPrintable_of_mem_word hmark hc
  · exact Text.isPrintable_of_mem_quote hc
  · exact Text.isPrintable_of_mem_word hcomplaint hc

/-- The field ends at the first blank, and its text where the quotes close. -/
theorem message_injective : Function.Injective message := by
  intro first second hsame
  have hlists := congrArg String.toList hsame
  rw [toList_message, toList_message] at hlists
  have hfree (field : Field) : ∀ c ∈ field.name.toList, (c != ' ') = true := by
    apply List.all_eq_true.mp
    cases field <;> decide
  obtain ⟨hname, hrest⟩ := Text.append_inj_of_head? (hfree first.field) (by rintro c ⟨⟩; rfl)
    (hfree second.field) (by rintro c ⟨⟩; rfl) (List.append_cancel_left hlists)
  have hfield := Field.vocabulary.name_injective (String.toList_injective hname)
  obtain ⟨hvalue, -⟩ := Text.quote_append_inj (List.append_cancel_left hrest)
  exact Fault.ext hfield hvalue

end Fault

/-- Whatever stands in a layout that is not accepted, the message that says so is a single line
without controls. Two such messages are equal exactly if the same field is at fault in both layouts
and has the same text in it. -/
theorem refusal_legible {layout : Layout} {fault : Fault} (hfault : layout.fault? = some fault) :
    (∀ c ∈ (RenderError.invalidLayout fault).message.toList,
      Text.isControl c = false ∧ c ∉ Text.lineBreaks) ∧
    ∀ (other : Layout) (otherFault : Fault), other.fault? = some otherFault →
      ((RenderError.invalidLayout otherFault).message = (RenderError.invalidLayout fault).message ↔
        otherFault.field = fault.field ∧
          other.get otherFault.field = layout.get fault.field) := by
  constructor
  · intro c hc
    have hprintable : Text.isPrintable c = true := fault.isPrintable_of_mem_message hc
    exact ⟨Text.isControl_of_isPrintable hprintable,
      Text.notMem_lineBreaks_of_isPrintable hprintable⟩
  · intro other otherFault hother
    obtain ⟨hvalue, -, -⟩ := fault?_eq_some_iff.mp hfault
    obtain ⟨hotherValue, -, -⟩ := fault?_eq_some_iff.mp hother
    rw [RenderError.message, RenderError.message, Fault.message_injective.eq_iff, ← hvalue,
      ← hotherValue]
    constructor
    · rintro rfl
      exact ⟨rfl, rfl⟩
    · rintro ⟨hfield, htext⟩
      exact Fault.ext hfield htext

/-- A line separator in a name, and a name that spells the escape of one. -/
theorem refusal_legible_of_lineSeparator :
    let broken : Layout := { structName := "T\u2028\"" }
    let spelled : Layout := { structName := "T\\u\x7b2028\x7d\"" }
    let brokenError := RenderError.invalidLayout ⟨.structName, broken.structName⟩
    let spelledError := RenderError.invalidLayout ⟨.structName, spelled.structName⟩
    (broken.fault? = some ⟨.structName, broken.structName⟩ ∧
      spelled.fault? = some ⟨.structName, spelled.structName⟩) ∧
    (∀ c ∈ brokenError.message.toList, Text.isControl c = false ∧ c ∉ Text.lineBreaks) ∧
    spelledError.message ≠ brokenError.message := by
  intro broken spelled brokenError spelledError
  have hbroken : broken.fault? = some ⟨.structName, broken.structName⟩ := by decide
  have hspelled : spelled.fault? = some ⟨.structName, spelled.structName⟩ := by decide
  obtain ⟨hline, htold⟩ := refusal_legible hbroken
  refine ⟨⟨hbroken, hspelled⟩, hline, ?_⟩
  rw [ne_eq, htold spelled _ hspelled]
  decide

end Layout

end TypeProfile
