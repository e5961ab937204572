import TypeProfile.Json.Message
import TypeProfile.Proofs.Wire.Decoding

/-!
# Words in every place where they are read

The name of an attribute is read from a command line, as a string of JSON and as a key of JSON. All
three places know the same words, in whatever way JSON writes them, and refuse any other word by
its name. The same holds of the names of classifications, which are never keys.
-/

namespace TypeProfile

namespace Json

/-- Words as a message lists them. -/
def listed (words : List String) : String :=
  ", ".intercalate (words.map ticked)

/-- The text is one of the ways to write the word as a string. -/
def Quotes (word text : String) : Prop :=
  ∃ pieces, Piece.Denotes pieces word.toList ∧ (Tree.string pieces).WrittenAs text.toList

/-- The text is one of the ways to write an object with the word as its only key and true as the
value. -/
def Switches (word text : String) : Prop :=
  ∃ pieces, Piece.Denotes pieces word.toList ∧
    (Tree.object [(pieces, .boolean true)]).WrittenAs text.toList

theorem quotes_compact (word : String) : Quotes word (Value.string word).compact :=
  ⟨Piece.ofText word, Piece.denotes_ofText word, Value.writtenAs_compact (.string word)⟩

theorem switches_pretty (word : String) :
    Switches word (Value.object [(word, .boolean true)]).pretty := by
  have hproper : (Value.object [(word, .boolean true)]).Proper :=
    .object (List.forall_mem_singleton.mpr (.boolean true))
  exact ⟨Piece.ofText word, Piece.denotes_ofText word, Value.writtenAs_pretty hproper⟩

section ManyWords

variable {known : List String} (hmany : 2 < known.length)
include hmany

theorem alternatives_of_many (kind : String) :
    alternatives kind known = "expected one of " ++ listed known := by
  match known, hmany with
  | _ :: _ :: _ :: _, _ => rfl

theorem Misfit.message_unknownWord (word : String) :
    (unknownWord word known).message =
      "unknown variant `" ++ word ++ "`, expected one of " ++ listed known := by
  -- The equations of `message` take long to derive, hence no rewriting with them.
  change "unknown variant " ++ ticked word ++ ", " ++ alternatives "variant" known = _
  have hstart : "unknown variant `" = "unknown variant " ++ "`" := rfl
  have hend : "`, expected one of " = "`" ++ ", " ++ "expected one of " := rfl
  simp only [ticked, alternatives_of_many hmany, hstart, hend, String.append_assoc]

theorem Misfit.message_unknownKey (word : String) :
    (unknownKey word known).message =
      "unknown field `" ++ word ++ "`, expected one of " ++ listed known := by
  change "unknown field " ++ ticked word ++ ", " ++ alternatives "field" known = _
  have hstart : "unknown field `" = "unknown field " ++ "`" := rfl
  have hend : "`, expected one of " = "`" ++ ", " ++ "expected one of " := rfl
  simp only [ticked, alternatives_of_many hmany, hstart, hend, String.append_assoc]

end ManyWords

/-- A quoted word is read as what it names, and otherwise refused as unknown. -/
theorem Codec.decode_word {α : Type} (words : Vocabulary α) {word text : String}
    (hquotes : Quotes word text) :
    (Codec.word words).decode text =
      match words.ofName? word with
      | some value => .ok value
      | none => .error (.misfit (.unknownWord word words.names)) := by
  obtain ⟨pieces, hdenotes, hwritten⟩ := hquotes
  obtain ⟨blanks, hleads, hblanks⟩ := hwritten.leads
  rw [decode_of_gives (Tree.word_gives words (.string pieces)) hleads hblanks, Tree.toWord,
    Piece.toWord, Piece.text_of_denotes hdenotes]
  rfl

theorem Codec.decode_word_eq_ok_iff {α : Type} (words : Vocabulary α) {word text : String}
    (hquotes : Quotes word text) {value : α} :
    (Codec.word words).decode text = .ok value ↔ words.name value = word := by
  rw [decode_word words hquotes, ← words.ofName?_eq_some_iff]
  cases words.ofName? word <;> simp

end Json

open Json

namespace Flags

theorem ofMembers_of_unknown {pieces : List Piece} {word : String}
    (htext : Piece.text pieces = .ok word) (hunknown : Attribute.vocabulary.ofName? word = .none)
    (tree : Tree) (members : List (List Piece × Tree)) :
    record.ofMembers content ((pieces, tree) :: members) =
      .error (.misfit (.unknownKey word Attribute.vocabulary.names)) := by
  have hkey : record.keys.ofName? word = .none := hunknown
  have htake : record.take content .empty (pieces, tree) =
      .error (.misfit (.unknownKey word Attribute.vocabulary.names)) := by
    rw [Record.take, htext]
    simp only [Except.bind, Record.takeNamed, hkey]
    rfl
  rw [Record.ofMembers, Record.takeAll, htake]
  rfl

theorem ofMembers_of_known {pieces : List Piece} {flag : Attribute}
    (hkey : record.keyOf? pieces = some flag) (value : Bool) :
    record.ofMembers content [(pieces, .boolean value)] = .ok (none.set flag value).get := by
  refine Record.ofMembers_eq_ok_iff.mpr ⟨fun member hmem => ?_, fun other => ?_⟩
  · obtain rfl := List.mem_singleton.mp hmem
    exact Record.admits_of_known hkey
  · by_cases hsame : other = flag
    · subst hsame
      refine .inr ⟨.boolean value, Record.given_cons_of_eq hkey _ _, ?_⟩
      rw [get_set, if_pos rfl]
      rfl
    · have hother : record.keyOf? pieces ≠ some other := by
        rw [hkey]
        simpa using Ne.symm hsame
      refine .inl ⟨Record.given_cons_of_ne hother _ _, ?_⟩
      simp [get_set, hsame, record]

/-- A switch of an attribute is read as the flags with this attribute alone on. A key that is no
attribute is refused before its value is looked at. -/
theorem decode_switch {word text : String} (hswitches : Switches word text) :
    codec.decode text =
      match Attribute.vocabulary.ofName? word with
      | some flag => .ok (none.set flag true)
      | .none => .error (.misfit (.unknownKey word Attribute.vocabulary.names)) := by
  obtain ⟨pieces, hdenotes, hwritten⟩ := hswitches
  obtain ⟨blanks, hleads, hblanks⟩ := hwritten.leads
  have htext := Piece.text_of_denotes hdenotes
  have harray (items : List Tree) : Tree.object [(pieces, .boolean true)] ≠ .array items := nofun
  rw [Codec.decode_of_gives (codec_gives harray) hleads hblanks, ofTree, Record.ofTree]
  cases hword : Attribute.vocabulary.ofName? word with
  | none =>
      rw [ofMembers_of_unknown htext hword]
      rfl
  | some flag =>
      have hkey : record.keyOf? pieces = some flag := (Record.keyOf?_of_text htext).trans hword
      rw [ofMembers_of_known hkey]
      rfl

theorem decode_switch_iff {word text : String} (hswitches : Switches word text)
    {flag : Attribute} :
    (∃ flags, codec.decode text = .ok flags ∧ ∀ other, flags.get other = true ↔ other = flag) ↔
      flag.name = word := by
  have hname : Attribute.vocabulary.ofName? word = some flag ↔ flag.name = word :=
    Attribute.vocabulary.ofName?_eq_some_iff
  rw [decode_switch hswitches, ← hname]
  cases Attribute.vocabulary.ofName? word with
  | none => simp
  | some found =>
      simp only [Except.ok.injEq, exists_eq_left', get_set, get_none, Option.some.injEq]
      constructor
      · intro honly
        exact (honly found).mp (by simp)
      · rintro rfl other
        by_cases hsame : other = found <;> simp [hsame]

end Flags

theorem Attribute.parse_eq_ok_iff {word : String} {flag : Attribute} :
    parse word = .ok flag ↔ flag.name = word := by
  have hname : vocabulary.ofName? word = some flag ↔ flag.name = word :=
    vocabulary.ofName?_eq_some_iff
  rw [parse, ← hname]
  cases vocabulary.ofName? word <;> simp

theorem TypeClass.parse_eq_ok_iff {word : String} {typeClass : TypeClass} :
    parse word = .ok typeClass ↔ typeClass.name = word := by
  have hname : vocabulary.ofName? word = some typeClass ↔ typeClass.name = word :=
    vocabulary.ofName?_eq_some_iff
  rw [parse, ← hname]
  cases vocabulary.ofName? word <;> simp

end TypeProfile
