import TypeProfile.Proofs.Json.Elements
import TypeProfile.Proofs.Wire.Switches

/-!
# Profiles without keys

A profile can be written as an array: the classification, and after it the switches as an array of
their own, in the order in which the attributes are declared. Switches at the end may be left out,
and so may all of them. The same profile is read from an object that gives each of the switches
under the name of its attribute.
-/

namespace TypeProfile

open Json

namespace Flags

/-- The switches that a tree is read as, be it an object or an array. -/
def ofValue (tree : Tree) : Except Fault Flags :=
  (record.ofValue content tree).map Flags.mk

theorem ofValue_gives (tree : Tree) : Gives codec.read tree.tokens (ofValue tree) :=
  (Record.ofValue_gives (fun _ tree => tree.boolean_gives) tree).map Flags.mk

/-- Switches in the order of declaration; those beyond the end of the list are off. -/
def ofBits (bits : List Bool) : Flags :=
  ⟨fun flag => bits.getD flag.index false⟩

/-- The first attributes, in the order of declaration, with their switches. -/
def placed (bits : List Bool) : List (Attribute × Bool) :=
  Attribute.vocabulary.all.zip bits

variable {bits : List Bool}

theorem nodup_all : Attribute.vocabulary.all.Nodup := by decide

theorem get_ofBits {place : Nat} {flag : Attribute}
    (hplace : Attribute.vocabulary.all[place]? = some flag) :
    (ofBits bits).get flag = bits.getD place false := by
  obtain ⟨hlt, rfl⟩ := List.getElem?_eq_some_iff.mp hplace
  have hindex : Attribute.vocabulary.all[place].index = place :=
    nodup_all.idxOf_getElem place hlt
  simp only [ofBits, hindex]

theorem get_ofBits_of_mem {switch : Attribute × Bool} (hswitch : switch ∈ placed bits) :
    (ofBits bits).get switch.1 = switch.2 := by
  obtain ⟨place, hplace⟩ := List.mem_iff_getElem?.mp hswitch
  obtain ⟨hflag, hbit⟩ := List.getElem?_zip_eq_some.mp hplace
  rw [get_ofBits hflag, List.getD_eq_getElem?_getD, hbit, Option.getD_some]

theorem get_ofBits_of_notMem {flag : Attribute}
    (hflag : flag ∉ Attribute.vocabulary.all.take bits.length) :
    (ofBits bits).get flag = false := by
  obtain ⟨place, hplace⟩ := List.mem_iff_getElem?.mp (Attribute.vocabulary.mem_all flag)
  have hbeyond : bits.length ≤ place := by
    refine Nat.le_of_not_lt fun hshort => hflag (List.mem_iff_getElem?.mpr ⟨place, ?_⟩)
    exact (List.getElem?_take_of_lt hshort).trans hplace
  rw [get_ofBits hplace, List.getD_eq_getElem?_getD, List.getElem?_eq_none hbeyond,
    Option.getD_none]

theorem ofValue_array (hlength : bits.length ≤ Attribute.vocabulary.all.length) :
    ofValue (.array (bits.map .boolean)) = .ok (ofBits bits) := by
  have hread : record.ofItems content .empty record.keys.all (bits.map .boolean) =
      .ok (ofBits bits).get := by
    refine (Record.ofItems_eq_ok_iff nodup_all).mpr
      ⟨?_, fun entry hentry => ?_, fun flag hflag => ?_⟩
    · rwa [List.length_map]
    · rw [List.zip_map_right] at hentry
      obtain ⟨⟨flag, bit⟩, hbit, rfl⟩ := List.mem_map.mp hentry
      exact content_eq_ok_iff.mpr (congrArg Tree.boolean (get_ofBits_of_mem hbit).symm)
    · rw [List.length_map] at hflag
      exact congrArg some (get_ofBits_of_notMem hflag).symm
  exact congrArg (Except.map Flags.mk) hread

theorem length_le_of_ofValue_array {flags : Flags}
    (hread : ofValue (.array (bits.map .boolean)) = .ok flags) :
    bits.length ≤ Attribute.vocabulary.all.length := by
  obtain ⟨get, hitems, -⟩ := map_eq_ok_iff.mp hread
  obtain ⟨hlength, -, -⟩ := (Record.ofItems_eq_ok_iff nodup_all).mp hitems
  rwa [List.length_map] at hlength

theorem map_fst_placed (bits : List Bool) :
    (placed bits).map Prod.fst = Attribute.vocabulary.all.take bits.length := by
  rw [placed, List.zip_eq_zip_take_min, List.map_fst_zip (by simp), Nat.min_comm,
    ← List.take_eq_take_min]

theorem ofValue_object {switches : List (List Piece × Tree)}
    (hholds : Tree.Holds (named (placed bits)) switches) :
    ofValue (.object switches) = .ok (ofBits bits) := by
  have hkeys : (entries (placed bits)).map Prod.fst = Attribute.vocabulary.all.take bits.length :=
    (map_fst_entries _).trans (map_fst_placed bits)
  have hread : record.ofMembers content switches = .ok (ofBits bits).get := by
    rw [named_eq_map_entries] at hholds
    refine Record.ofMembers_of_holds hholds ?_
      (content_of_mem_entries fun _ => get_ofBits_of_mem) fun flag hflag => ?_
    · rw [hkeys]
      exact nodup_all.sublist (List.take_sublist _ _)
    · rw [hkeys] at hflag
      exact congrArg some (get_ofBits_of_notMem hflag).symm
  exact congrArg (Except.map Flags.mk) hread

end Flags

namespace Profile

/-- What the value of a key is read as, be it an object or an array. -/
def part : (key : Key) → Tree → Except Fault (record.Content key)
  | .typeClass, tree => tree.toWord TypeClass.vocabulary
  | .attributes, tree => Flags.ofValue tree

theorem decode_of_writtenAs {tree : Tree} {text : String} (hwritten : tree.WrittenAs text.toList) :
    codec.decode text = (record.ofValue part tree).map fun values =>
      ⟨values .typeClass, values .attributes⟩ := by
  obtain ⟨blanks, hleads, hblanks⟩ := hwritten.leads
  have hread : Gives record.toCodec.read tree.tokens (record.ofValue part tree) := by
    apply Record.ofValue_gives
    rintro (_ | _) tree
    · exact tree.word_gives TypeClass.vocabulary
    · exact Flags.ofValue_gives tree
  exact Codec.decode_of_gives (hread.map _) hleads hblanks

variable {typeClass : TypeClass} {classification : Tree} {bits : List Bool} {text : String}

theorem nodup_keys : record.keys.all.Nodup := by decide

theorem decode_array_of_le (hclass : TypeClass.Named typeClass classification)
    (hwritten : (Tree.array [classification, .array (bits.map .boolean)]).WrittenAs text.toList)
    (hlength : bits.length ≤ Attribute.vocabulary.all.length) :
    codec.decode text = .ok ⟨typeClass, .ofBits bits⟩ := by
  let profile : Profile := ⟨typeClass, .ofBits bits⟩
  have hread : record.ofItems part .empty record.keys.all
      [classification, .array (bits.map .boolean)] = .ok profile.fields := by
    refine (Record.ofItems_eq_ok_iff nodup_keys).mpr ⟨Nat.le_refl _, ?_, ?_⟩
    · exact List.forall_mem_cons.mpr ⟨TypeClass.toWord_of_named hclass,
        List.forall_mem_singleton.mpr (Flags.ofValue_array hlength)⟩
    · intro key hkey
      exact absurd (record.keys.mem_all key) hkey
  exact (decode_of_writtenAs hwritten).trans (congrArg _ hread)

theorem length_le_of_decode_array {profile : Profile}
    (hwritten : (Tree.array [classification, .array (bits.map .boolean)]).WrittenAs text.toList)
    (hdecode : codec.decode text = .ok profile) :
    bits.length ≤ Attribute.vocabulary.all.length := by
  rw [decode_of_writtenAs hwritten] at hdecode
  obtain ⟨final, hitems, -⟩ := map_eq_ok_iff.mp hdecode
  obtain ⟨-, hparts, -⟩ := (Record.ofItems_eq_ok_iff nodup_keys).mp hitems
  exact Flags.length_le_of_ofValue_array (hparts (.attributes, _) (.tail _ (.head _)))

theorem decode_array_single (hclass : TypeClass.Named typeClass classification)
    (hwritten : (Tree.array [classification]).WrittenAs text.toList) :
    codec.decode text = .ok (ofTypeClass typeClass) := by
  have hread : record.ofItems part .empty record.keys.all [classification] =
      .ok (ofTypeClass typeClass).fields := by
    refine (Record.ofItems_eq_ok_iff nodup_keys).mpr ⟨Nat.le_succ _, ?_, ?_⟩
    · exact List.forall_mem_singleton.mpr (TypeClass.toWord_of_named hclass)
    · rintro (_ | _) hkey
      · exact absurd (.head _) hkey
      · rfl
  exact (decode_of_writtenAs hwritten).trans (congrArg _ hread)

theorem decode_named {switches members : List (List Piece × Tree)}
    (hclass : TypeClass.Named typeClass classification)
    (hswitches : Tree.Holds (Flags.named (Flags.placed bits)) switches)
    (hmembers : Tree.Holds [("type_class", classification), ("attributes", .object switches)]
      members)
    (hwritten : (Tree.object members).WrittenAs text.toList) :
    codec.decode text = .ok ⟨typeClass, .ofBits bits⟩ := by
  let profile : Profile := ⟨typeClass, .ofBits bits⟩
  let entries : List (Key × Tree) :=
    [(.typeClass, classification), (.attributes, .object switches)]
  have hread : record.ofMembers part members = .ok profile.fields := by
    have hholds : Tree.Holds (entries.map fun entry => (record.keys.name entry.1, entry.2))
      members := hmembers
    refine Record.ofMembers_of_holds hholds nodup_keys ?_ ?_
    · exact List.forall_mem_cons.mpr ⟨TypeClass.toWord_of_named hclass,
        List.forall_mem_singleton.mpr (Flags.ofValue_object hswitches)⟩
    · intro key hkey
      exact absurd (record.keys.mem_all key) hkey
  exact (decode_of_writtenAs hwritten).trans (congrArg _ hread)

end Profile

end TypeProfile
