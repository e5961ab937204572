import Mathlib.Data.List.Nodup
import TypeProfile.Proofs.Json.Layouts
import TypeProfile.Proofs.Json.Members
import TypeProfile.Proofs.Json.Outcome

/-!
# Reading what was written

A codec is lawful if reading undoes writing. Each way of building a codec keeps this, so it has to
be shown only for the parts.
-/

namespace TypeProfile.Json

variable {α β : Type}

/-- Reading the tree of a written value gives this value again. -/
structure Codec.Lawful (codec : Codec α) : Prop where
  proper : ∀ value, (codec.write value).Proper
  reads : ∀ value, Gives codec.read (codec.write value).tree.tokens (.ok value)

namespace Codec

theorem Lawful.decode_of_writtenAs {codec : Codec α} (hlawful : codec.Lawful) {value : α}
    {text : String} (hwritten : (codec.write value).tree.WrittenAs text.toList) :
    codec.decode text = .ok value := by
  obtain ⟨blanks, hleads, hblanks⟩ := hwritten.leads
  exact decode_of_gives (hlawful.reads value) hleads hblanks

theorem Lawful.decode_compact {codec : Codec α} (hlawful : codec.Lawful) (value : α) :
    codec.decode (codec.write value).compact = .ok value :=
  hlawful.decode_of_writtenAs (Value.writtenAs_compact (hlawful.proper value))

theorem Lawful.decode_pretty {codec : Codec α} (hlawful : codec.Lawful) (value : α) :
    codec.decode (codec.write value).pretty = .ok value :=
  hlawful.decode_of_writtenAs (Value.writtenAs_pretty (hlawful.proper value))

theorem Lawful.boolean : Codec.boolean.Lawful where
  proper value := .boolean value
  reads value := Tree.boolean_gives (.boolean value)

theorem Lawful.text : Codec.text.Lawful where
  proper value := .string value
  reads value := by
    have htext : Piece.text (Piece.ofText value) = .ok value :=
      Piece.text_eq_ok_iff.mpr (Piece.decode_ofText value)
    exact .token_bind (htext ▸ textOf_gives (Piece.ofText value))

theorem Lawful.word (words : Vocabulary α) : (Codec.word words).Lawful where
  proper value := .string _
  reads value := by
    let name := Piece.ofText (words.name value)
    have hword : (Tree.string name).toWord words = .ok value :=
      Tree.toWord_eq_ok_iff.mpr ⟨name, Piece.decode_ofText _, .inl rfl⟩
    exact hword ▸ Tree.word_gives words (.string name)

theorem Lawful.nullable {codec : Codec α} (hlawful : codec.Lawful)
    (hnull : ∀ value, (codec.write value).tree.firstToken ≠ .null) : codec.nullable.Lawful where
  proper
    | none => .null
    | some value => hlawful.proper value
  reads
    | none => .acceptToken_bind (.pure none)
    | some value => by
        have hreads := (hlawful.reads value).map some
        obtain ⟨others, htokens⟩ := (codec.write value).tree.exists_tokens_eq
        change Gives _ (codec.write value).tree.tokens _
        rw [htokens] at hreads ⊢
        exact .acceptToken_bind_of_ne (hnull value) hreads

theorem Lawful.convert {codec : Codec α} (hlawful : codec.Lawful) {into : α → β} {back : β → α}
    (hinverse : ∀ value, into (back value) = value) : (codec.convert into back).Lawful where
  proper value := hlawful.proper (back value)
  reads value := by
    have hreads := (hlawful.reads (back value)).map into
    rwa [Except.map, hinverse value] at hreads

end Codec

namespace Record

variable {κ : Type} [DecidableEq κ] {record : Record κ}

omit [DecidableEq κ] in
theorem keyOf?_ofText (key : κ) :
    record.keyOf? (Piece.ofText (record.keys.name key)) = some key := by
  simp [keyOf?]

/-- Among the members that are written, each key has one. -/
theorem given_written (hnodup : record.keys.all.Nodup) (tree : κ → Tree) (key : κ) :
    record.given key (record.keys.all.map fun other =>
      (Piece.ofText (record.keys.name other), tree other)) = [tree key] := by
  have hcount := List.count_eq_one_of_mem hnodup (record.keys.mem_all key)
  have hfilter : record.keys.all.filter (fun other => decide (other = key)) = [key] := by
    rw [List.filter_eq, hcount, List.replicate_one]
  rw [given, List.filter_map, List.map_map]
  simp [Function.comp_def, keyOf?_ofText, hfilter]

theorem toCodec_lawful (hnodup : record.keys.all.Nodup)
    (hlawful : ∀ key, (record.codec key).Lawful) : record.toCodec.Lawful where
  proper values := by
    apply Value.Proper.object
    intro member hmem
    obtain ⟨key, -, rfl⟩ := List.mem_map.mp hmem
    exact (hlawful key).proper (values key)
  reads values := by
    let tree (key : κ) : Tree := ((record.codec key).write (values key)).tree
    let members := record.keys.all.map fun key => (Piece.ofText (record.keys.name key), tree key)
    have htree : (record.toCodec.write values).tree = .object members := by
      simp [toCodec, Value.tree, Value.memberTrees_eq_map, members, tree]
    -- Only the members that were written have to be read, so their content may be given outright.
    have hreads : Reads (fun key _ => .ok (values key)) members := by
      intro member hmem key hkey
      obtain ⟨other, -, rfl⟩ := List.mem_map.mp hmem
      rw [keyOf?_ofText] at hkey
      cases hkey
      exact (hlawful key).reads (values key)
    have hread := toCodec_gives hreads
    have hmembers : record.ofMembers (fun key _ => .ok (values key)) members = .ok values := by
      refine ofMembers_eq_ok_iff.mpr ⟨fun member hmem => ?_, fun key => ?_⟩
      · obtain ⟨key, -, rfl⟩ := List.mem_map.mp hmem
        exact admits_of_known (keyOf?_ofText key)
      · exact .inr ⟨tree key, given_written hnodup tree key, rfl⟩
    rw [hmembers] at hread
    rw [htree]
    exact hread

end Record

end TypeProfile.Json
