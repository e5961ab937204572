import Mathlib.Data.List.Forall2
import Mathlib.Data.List.Nodup
import TypeProfile.Proofs.Json.Unfinished
import TypeProfile.Proofs.Wire.Words

/-!
# Switches one after another

An object of switches is read from left to right, and every key is looked at before its value. A key
that names no attribute, or one that was named before, is therefore reported whatever follows it, be
it JSON or not.
-/

namespace TypeProfile

open Json

theorem Json.Misfit.message_repeatedKey (name : String) :
    (repeatedKey name).message = "duplicate field `" ++ name ++ "`" := by
  change "duplicate field " ++ ticked name = _
  have hstart : "duplicate field `" = "duplicate field " ++ "`" := rfl
  simp only [ticked, hstart, String.append_assoc]

namespace Flags

variable {switches : List (Attribute × Bool)} {members : List (List Piece × Tree)}
  {key front : String}

/-- Switches under the names of their attributes. -/
def named (switches : List (Attribute × Bool)) : List (String × Tree) :=
  switches.map fun switch => (switch.1.name, .boolean switch.2)

/-- The text is one of the ways to write an object that begins with the switches and then comes to
the key. It ends with the key. -/
def WritesUpTo (switches : List (Attribute × Bool)) (key front : String) : Prop :=
  ∃ members pieces, Tree.Lists (named switches) members ∧ Piece.Denotes pieces key.toList ∧
    Written (.openBrace :: Tree.upToKey pieces members) front.toList

/-! ## What the switches say -/

/-- Switches as the record takes them. -/
def entries (switches : List (Attribute × Bool)) : List (Attribute × Tree) :=
  switches.map fun switch => (switch.1, .boolean switch.2)

theorem named_eq_map_entries (switches : List (Attribute × Bool)) :
    named switches = (entries switches).map fun entry => (record.keys.name entry.1, entry.2) := by
  rw [entries, List.map_map]
  rfl

theorem map_fst_entries (switches : List (Attribute × Bool)) :
    (entries switches).map Prod.fst = switches.map Prod.fst := by
  rw [entries, List.map_map]
  rfl

theorem content_of_mem_entries {get : Attribute → Bool}
    (hget : ∀ switch ∈ switches, get switch.1 = switch.2) :
    ∀ entry ∈ entries switches, content entry.1 entry.2 = .ok (get entry.1) := by
  intro entry hentry
  obtain ⟨switch, hswitch, rfl⟩ := List.mem_map.mp hentry
  exact content_eq_ok_iff.mpr (congrArg Tree.boolean (hget switch hswitch).symm)

/-- Switches of distinct attributes do not contradict each other. -/
theorem exists_get (hdistinct : (switches.map Prod.fst).Nodup) :
    ∃ get : Attribute → Bool, ∀ switch ∈ switches, get switch.1 = switch.2 := by
  refine ⟨fun flag => decide ((flag, true) ∈ switches), fun switch hswitch => ?_⟩
  obtain ⟨flag, value⟩ := switch
  cases value with
  | true => exact decide_eq_true hswitch
  | false =>
      refine decide_eq_false fun hother => ?_
      have hsame := List.inj_on_of_nodup_map hdistinct hother hswitch rfl
      cases hsame

/-- After switches of distinct attributes a value is held for these. -/
theorem takeAll_named (hlists : Tree.Lists (named switches) members)
    (hdistinct : (switches.map Prod.fst).Nodup) :
    ∃ held, record.takeAll content .empty members = .ok held ∧
      ∀ flag, (held flag).isSome = true ↔ flag ∈ switches.map Prod.fst := by
  obtain ⟨get, hget⟩ := exists_get hdistinct
  rw [named_eq_map_entries] at hlists
  rw [← map_fst_entries] at hdistinct ⊢
  refine ⟨_, Record.takeAll_of_lists hlists hdistinct (content_of_mem_entries hget)
    fun _ _ => rfl, fun flag => ?_⟩
  by_cases hflag : flag ∈ (entries switches).map Prod.fst
  · refine iff_of_true ?_ hflag
    rw [if_pos hflag]
    rfl
  · refine iff_of_false ?_ hflag
    rw [if_neg hflag]
    exact Bool.false_ne_true

/-! ## A key at fault -/

/-- A key at fault is reported whatever follows it. -/
theorem decode_of_keyMisfit? (hdistinct : (switches.map Prod.fst).Nodup)
    (hfront : WritesUpTo switches key front) {misfit : Misfit}
    (hmisfit : ∀ held : record.Partial,
      (∀ flag, (held flag).isSome = true ↔ flag ∈ switches.map Prod.fst) →
      record.keyMisfit? held key = some misfit)
    (rest : String) : codec.decode (front ++ rest) = .error (.misfit misfit) := by
  obtain ⟨members, pieces, hlists, hkey, hwritten⟩ := hfront
  obtain ⟨held, htaken, hheld⟩ := takeAll_named hlists hdistinct
  have hgives := Record.toCodec_gives_misfit (fun member _ _ _ => member.2.boolean_gives)
    htaken (Piece.text_of_denotes hkey) (hmisfit held hheld)
  have hleads := Tree.leads_upToKey hwritten rest.toList
  rw [← String.toList_append] at hleads
  exact Codec.decode_of_gives_error (hgives.map Flags.mk) hleads

/-- Where an object of switches comes to a key that no attribute has, or that one of the attributes
before it has, this is the answer, and nothing after the key matters. -/
theorem decode_upToKey (hdistinct : (switches.map Prod.fst).Nodup)
    (hfront : WritesUpTo switches key front) :
    ((∀ flag : Attribute, flag.name ≠ key) →
      ∃ misfit, (∀ rest, codec.decode (front ++ rest) = .error (.misfit misfit)) ∧
        misfit.message = "unknown field `" ++ key ++ "`, expected one of " ++
          listed Attribute.vocabulary.names) ∧
    ∀ switch ∈ switches, switch.1.name = key →
      ∃ misfit, (∀ rest, codec.decode (front ++ rest) = .error (.misfit misfit)) ∧
        misfit.message = "duplicate field `" ++ key ++ "`" := by
  constructor
  · intro hunknown
    have hnone : record.keys.ofName? key = .none :=
      Attribute.vocabulary.ofName?_eq_none_iff.mpr hunknown
    have hmany : 2 < Attribute.vocabulary.names.length := by decide
    refine ⟨_, decode_of_keyMisfit? hdistinct hfront fun held hheld => ?_,
      Misfit.message_unknownKey hmany key⟩
    rw [Record.keyMisfit?, hnone]
    rfl
  · rintro switch hswitch rfl
    have hknown : record.keys.ofName? switch.1.name = some switch.1 :=
      Attribute.vocabulary.ofName?_name switch.1
    refine ⟨_, decode_of_keyMisfit? hdistinct hfront fun held hheld => ?_,
      Misfit.message_repeatedKey switch.1.name⟩
    have hsome := (hheld switch.1).mpr (List.mem_map_of_mem hswitch)
    simp only [Record.keyMisfit?, hknown, hsome, if_true]

/-- Switches and then the key, all on one line and without blanks. -/
def compactUpTo (switches : List (Attribute × Bool)) (key : String) : List Char :=
  switches.flatMap (fun switch =>
    literal switch.1.name ++ ':' :: ((truth.name switch.2).toList ++ [','])) ++ literal key

theorem writesUpTo_compact (switches : List (Attribute × Bool)) (key : String) :
    WritesUpTo switches key (String.ofList ('\x7b' :: compactUpTo switches key)) := by
  let members := switches.map fun switch =>
    (Piece.ofText switch.1.name, Tree.boolean switch.2)
  have hlists : Tree.Lists (named switches) members := by
    rw [Tree.Lists, named, List.forall₂_map_left_iff, List.forall₂_map_right_iff,
      List.forall₂_same]
    exact fun switch _ => ⟨Piece.denotes_ofText switch.1.name, rfl⟩
  have hwritten : Written (Tree.upToKey (Piece.ofText key) members) (compactUpTo switches key) := by
    simp only [members, compactUpTo]
    clear hlists members
    induction switches with
    | nil => exact Value.written_literal key
    | cons switch switches ih =>
        have hvalue : Written [.boolean switch.2] (truth.name switch.2).toList :=
          .singleton (.boolean _)
        have hmember := (Value.written_literal switch.1.name).append
          (Written.cons_char .colon (hvalue.append (Written.cons_char .comma ih)))
        simpa [Tree.upToKey, Tree.tokens] using hmember
  refine ⟨members, Piece.ofText key, hlists, Piece.denotes_ofText key, ?_⟩
  rw [String.toList_ofList]
  exact .cons_char .openBrace hwritten

/-- One switch, and then its own name again or a name that no attribute has. -/
theorem decode_upToKey_of_virtualFunction :
    (∃ misfit,
      (∀ rest, codec.decode ("\x7b\"has_virtual_mf\":true,\"has_virtual_mf\"" ++ rest) =
        .error (.misfit misfit)) ∧
      misfit.message = "duplicate field `has_virtual_mf`") ∧
    (∀ flag : Attribute, flag.name ≠ "size") ∧
    ∃ misfit,
      (∀ rest, codec.decode ("\x7b\"has_virtual_mf\":true,\"size\"" ++ rest) =
        .error (.misfit misfit)) ∧
      misfit.message = "unknown field `size`, expected one of " ++
        listed Attribute.vocabulary.names := by
  let switches : List (Attribute × Bool) := [(.virtualFunction, true)]
  have hdistinct : (switches.map Prod.fst).Nodup := by decide
  have hsize : ∀ flag : Attribute, flag.name ≠ "size" := by
    intro flag
    cases flag <;> decide
  obtain ⟨-, hrepeated⟩ := decode_upToKey hdistinct (writesUpTo_compact switches "has_virtual_mf")
  obtain ⟨hunknown, -⟩ := decode_upToKey hdistinct (writesUpTo_compact switches "size")
  exact ⟨hrepeated (.virtualFunction, true) List.mem_cons_self rfl, hsize, hunknown hsize⟩

end Flags

end TypeProfile
