import TypeProfile.Proofs.Json.Layouts
import TypeProfile.Proofs.Json.Naming
import TypeProfile.Proofs.Json.Outcome
import TypeProfile.Wire

/-!
# Which objects are read as a profile

The classification is given once, and the attributes at most once, as an object of switches. How the
text writes the object, in which order its members come, and what other keys it has make no
difference.
-/

namespace TypeProfile

open Json

/-- The ways to name a classification: its name, or an object with the name as its only key and null
as the value. -/
inductive TypeClass.Named (typeClass : TypeClass) : Tree → Prop
  | plain {pieces : List Piece} (hname : Piece.Denotes pieces (vocabulary.name typeClass).toList) :
      Named typeClass (.string pieces)
  | keyed {pieces : List Piece} (hname : Piece.Denotes pieces (vocabulary.name typeClass).toList) :
      Named typeClass (.object [(pieces, .null)])

/-- Members that are switches: each has the name of an attribute and a boolean value, and no name
comes twice. -/
structure Flags.Fits (members : List (List Piece × Tree)) : Prop where
  known : ∀ member ∈ members, ∃ flag value,
    Piece.Denotes member.1 (Attribute.vocabulary.name flag).toList ∧ member.2 = .boolean value
  once : ∀ flag values,
    Given (Attribute.vocabulary.name flag) members values → values.length ≤ 1

/-- Members of an object that is a profile. -/
structure Profile.Fits (members : List (List Piece × Tree)) : Prop where
  typeClass : ∃ value typeClass, Given "type_class" members [value] ∧
    TypeClass.Named typeClass value
  attributes : Given "attributes" members [] ∨
    ∃ flags, Given "attributes" members [.object flags] ∧ Flags.Fits flags

/-- The members say about the profile what it says itself. -/
structure Profile.Describes (members : List (List Piece × Tree)) (profile : Profile) : Prop where
  typeClass : ∃ value, Given "type_class" members [value] ∧
    TypeClass.Named profile.typeClass value
  get_eq_true_iff : ∀ flag, profile.get flag = true ↔
    ∃ flags, Given "attributes" members [.object flags] ∧
      Given (Attribute.vocabulary.name flag) flags [.boolean true]

namespace TypeClass

theorem toWord_of_named {tree : Tree} {typeClass : TypeClass} (hnamed : Named typeClass tree) :
    tree.toWord vocabulary = .ok typeClass := by
  rw [Tree.toWord_eq_ok_iff]
  rcases hnamed with hname | hname
  · exact ⟨_, Piece.decode_of_denotes hname, .inl rfl⟩
  · exact ⟨_, Piece.decode_of_denotes hname, .inr rfl⟩

theorem toWord_eq_ok_iff {tree : Tree} (hnarrow : tree.Narrow) {typeClass : TypeClass} :
    tree.toWord vocabulary = .ok typeClass ↔ Named typeClass tree := by
  refine ⟨fun hword => ?_, toWord_of_named⟩
  obtain ⟨pieces, hdecode, rfl | rfl⟩ := Tree.toWord_eq_ok_iff.mp hword
  · exact .plain (Piece.denotes_of_decode (hnarrow pieces List.mem_cons_self) hdecode)
  · obtain ⟨hkey, -⟩ := hnarrow.member List.mem_cons_self
    exact .keyed (Piece.denotes_of_decode hkey hdecode)

end TypeClass

namespace Flags

/-- What the value of a switch is read as. -/
def content (flag : Attribute) (tree : Tree) : Except Fault (record.Content flag) :=
  tree.toBool

theorem content_eq_ok_iff {flag : Attribute} {tree : Tree} {value : Bool} :
    content flag tree = .ok value ↔ tree = .boolean value :=
  Tree.toBool_eq_ok_iff

/-- The switches that a tree is read as. -/
def ofTree (tree : Tree) : Except Fault Flags :=
  (record.ofTree content tree).map Flags.mk

theorem codec_gives {tree : Tree} (harray : ∀ items, tree ≠ .array items) :
    Gives codec.read tree.tokens (ofTree tree) :=
  (Record.ofTree_gives harray fun _ _ member _ _ _ => member.2.boolean_gives).map Flags.mk

theorem given_iff {members : List (List Piece × Tree)}
    (hnarrow : ∀ member ∈ members, Piece.Narrow member.1) (flag : Attribute) (values : List Tree) :
    Given (Attribute.vocabulary.name flag) members values ↔ values = record.given flag members := by
  change Given (record.keys.name flag) members values ↔ _
  exact Record.given_iff hnarrow

theorem fits_of_ofMembers {members : List (List Piece × Tree)}
    (hnarrow : ∀ member ∈ members, Piece.Narrow member.1) {get : Attribute → Bool}
    (hread : record.ofMembers content members = .ok get) :
    Fits members ∧ ∀ flag, get flag = true ↔
      Given (Attribute.vocabulary.name flag) members [.boolean true] := by
  obtain ⟨hadmits, hflags⟩ := Record.ofMembers_eq_ok_iff.mp hread
  refine ⟨⟨fun member hmem => ?_, fun flag values hvalues => ?_⟩, fun flag => ?_⟩
  · obtain ⟨flag, hkey⟩ := Option.isSome_iff_exists.mp ((hadmits member hmem).2 rfl)
    have htree : member.2 ∈ record.given flag members :=
      Record.mem_given.mpr ⟨member, hmem, hkey, rfl⟩
    refine ⟨flag, get flag, (Record.keyOf?_eq_some_iff (hnarrow member hmem)).mp hkey, ?_⟩
    rcases hflags flag with ⟨hnone, -⟩ | ⟨tree, hone, hvalue⟩
    · rw [hnone] at htree
      cases htree
    · rw [hone, List.mem_singleton] at htree
      rw [htree]
      exact content_eq_ok_iff.mp hvalue
  · rw [(given_iff hnarrow flag values).mp hvalues]
    rcases hflags flag with ⟨hnone, -⟩ | ⟨tree, hone, -⟩
    · simp [hnone]
    · simp [hone]
  · rw [given_iff hnarrow]
    rcases hflags flag with ⟨hnone, hvalue⟩ | ⟨tree, hone, hvalue⟩
    · have hoff : get flag = false := (Option.some.inj hvalue).symm
      simp [hnone, hoff]
    · have htree : tree = .boolean (get flag) := content_eq_ok_iff.mp hvalue
      simp only [hone, htree, List.cons.injEq, Tree.boolean.injEq, and_true]
      exact eq_comm

theorem ofMembers_of_fits {members : List (List Piece × Tree)}
    (hnarrow : ∀ member ∈ members, Piece.Narrow member.1) (hfits : Fits members)
    {get : Attribute → Bool} (hget : ∀ flag, get flag = true ↔
      Given (Attribute.vocabulary.name flag) members [.boolean true]) :
    record.ofMembers content members = .ok get := by
  refine Record.ofMembers_eq_ok_iff.mpr ⟨fun member hmem => ?_, fun flag => ?_⟩
  · obtain ⟨flag, value, hname, -⟩ := hfits.known member hmem
    exact Record.admits_of_known ((Record.keyOf?_eq_some_iff (hnarrow member hmem)).mpr hname)
  · -- How often the name of a switch comes is all that the switch needs to know.
    have hon := hget flag
    have honce := hfits.once flag _ ((given_iff hnarrow flag _).mpr rfl)
    rw [given_iff hnarrow] at hon
    match hvalues : record.given flag members with
    | [] =>
        have hoff : get flag = false := by simpa [hvalues] using hon
        exact .inl ⟨rfl, congrArg some hoff.symm⟩
    | [tree] =>
        have hmem : tree ∈ record.given flag members := by simp [hvalues]
        obtain ⟨member, hmember, -, rfl⟩ := Record.mem_given.mp hmem
        obtain ⟨-, value, -, hvalue⟩ := hfits.known member hmember
        have hsame : get flag = value := by
          rw [Bool.eq_iff_iff, hon, hvalues, hvalue]
          simp only [List.cons.injEq, Tree.boolean.injEq, and_true]
          exact eq_comm
        exact .inr ⟨member.2, rfl, content_eq_ok_iff.mpr (hsame ▸ hvalue)⟩
    | first :: second :: trees =>
        rw [hvalues] at honce
        simp at honce

theorem ofTree_eq_ok_iff {tree : Tree} (hnarrow : tree.Narrow) {flags : Flags} :
    ofTree tree = .ok flags ↔
      ∃ members, tree = .object members ∧ Fits members ∧ ∀ flag, flags.get flag = true ↔
        Given (Attribute.vocabulary.name flag) members [.boolean true] := by
  apply Iff.trans map_eq_ok_iff
  constructor
  · rintro ⟨get, htree, rfl⟩
    obtain ⟨members, rfl, hread⟩ := Record.ofTree_eq_ok_iff.mp htree
    exact ⟨members, rfl, fits_of_ofMembers (fun _ hmem => (hnarrow.member hmem).1) hread⟩
  · rintro ⟨members, rfl, hfits, hget⟩
    exact ⟨flags.get, ofMembers_of_fits (fun _ hmem => (hnarrow.member hmem).1) hfits hget, rfl⟩

end Flags

namespace Profile

/-- What a profile holds for a key. -/
def fields (profile : Profile) : record.Complete
  | .typeClass => profile.typeClass
  | .attributes => profile.flags

/-- What the value of a key is read as. -/
def content : (key : Key) → Tree → Except Fault (record.Content key)
  | .typeClass, tree => tree.toWord TypeClass.vocabulary
  | .attributes, tree => Flags.ofTree tree

theorem codec_gives {members : List (List Piece × Tree)}
    (harray : ∀ member ∈ members, record.keyOf? member.1 = some .attributes →
      ∀ items, member.2 ≠ .array items) :
    Gives codec.read (Tree.object members).tokens
      ((record.ofMembers content members).map fun values =>
        ⟨values .typeClass, values .attributes⟩) := by
  refine (Record.toCodec_gives fun member hmem key hkey => ?_).map _
  cases key with
  | typeClass => exact member.2.word_gives TypeClass.vocabulary
  | attributes => exact Flags.codec_gives (harray member hmem hkey)

section Members

variable {members : List (List Piece × Tree)} (hnarrow : (Tree.object members).Narrow)

include hnarrow

theorem given_iff (key : Key) (values : List Tree) :
    Given (record.keys.name key) members values ↔ values = record.given key members :=
  Record.given_iff fun _ hmem => (hnarrow.member hmem).1

theorem given_typeClass_iff (values : List Tree) :
    Given "type_class" members values ↔ values = record.given .typeClass members :=
  given_iff hnarrow .typeClass values

theorem given_attributes_iff (values : List Tree) :
    Given "attributes" members values ↔ values = record.given .attributes members :=
  given_iff hnarrow .attributes values

theorem narrow_of_given {key : Key} {tree : Tree} (hgiven : record.given key members = [tree]) :
    tree.Narrow := by
  have hmem : tree ∈ record.given key members := by simp [hgiven]
  obtain ⟨member, hmember, -, rfl⟩ := Record.mem_given.mp hmem
  exact (hnarrow.member hmember).2

/-- The classification has to be given. -/
theorem typeClass_iff {typeClass : TypeClass} :
    (record.given .typeClass members = [] ∧ record.absent .typeClass = some typeClass ∨
        ∃ tree, record.given .typeClass members = [tree] ∧
          content .typeClass tree = .ok typeClass) ↔
      ∃ value, Given "type_class" members [value] ∧ TypeClass.Named typeClass value := by
  constructor
  · rintro (⟨-, habsent⟩ | ⟨tree, hone, hvalue⟩)
    · cases habsent
    · refine ⟨tree, (given_typeClass_iff hnarrow _).mpr hone.symm, ?_⟩
      exact (TypeClass.toWord_eq_ok_iff (narrow_of_given hnarrow hone)).mp hvalue
  · rintro ⟨tree, hgiven, hnamed⟩
    have hone := ((given_typeClass_iff hnarrow _).mp hgiven).symm
    exact .inr ⟨tree, hone,
      (TypeClass.toWord_eq_ok_iff (narrow_of_given hnarrow hone)).mpr hnamed⟩

/-- Without attributes every switch is off. -/
theorem attributes_iff {flags : Flags} :
    (record.given .attributes members = [] ∧ record.absent .attributes = some flags ∨
        ∃ tree, record.given .attributes members = [tree] ∧
          content .attributes tree = .ok flags) ↔
      (Given "attributes" members [] ∨
          ∃ switches, Given "attributes" members [.object switches] ∧ Flags.Fits switches) ∧
        ∀ flag, flags.get flag = true ↔
          ∃ switches, Given "attributes" members [.object switches] ∧
            Given (Attribute.vocabulary.name flag) switches [.boolean true] := by
  simp only [given_attributes_iff hnarrow]
  constructor
  · rintro (⟨hnone, habsent⟩ | ⟨tree, hone, hvalue⟩)
    · obtain rfl : Flags.none = flags := Option.some.inj habsent
      exact ⟨.inl hnone.symm, fun flag => by simp [hnone]⟩
    · obtain ⟨switches, rfl, hfits, hget⟩ :=
        (Flags.ofTree_eq_ok_iff (narrow_of_given hnarrow hone)).mp hvalue
      exact ⟨.inr ⟨switches, hone.symm, hfits⟩, fun flag => by simp [hone, hget]⟩
  · rintro ⟨hnone | ⟨switches, hone, hfits⟩, hget⟩
    · have hoff : Flags.none = flags := by
        apply Flags.ext
        funext flag
        have hget : flags.get flag = false := by simpa [← hnone] using hget flag
        exact hget.symm
      exact .inl ⟨hnone.symm, congrArg some hoff⟩
    · have hread : Flags.ofTree (.object switches) = .ok flags := by
        refine (Flags.ofTree_eq_ok_iff (narrow_of_given hnarrow hone.symm)).mpr
          ⟨switches, rfl, hfits, fun flag => ?_⟩
        simpa [← hone] using hget flag
      exact .inr ⟨.object switches, hone.symm, hread⟩

theorem ofMembers_eq_ok_iff {final : record.Complete}
    (hkeys : ∀ member ∈ members, ∃ name : String, Piece.Denotes member.1 name.toList) :
    record.ofMembers content members = .ok final ↔
      Fits members ∧ Describes members ⟨final .typeClass, final .attributes⟩ := by
  rw [Record.ofMembers_eq_ok_iff]
  constructor
  · rintro ⟨-, hgiven⟩
    obtain ⟨value, hvalue, hnamed⟩ := (typeClass_iff hnarrow).mp (hgiven .typeClass)
    obtain ⟨hattributes, hget⟩ := (attributes_iff hnarrow).mp (hgiven .attributes)
    exact ⟨⟨⟨value, _, hvalue, hnamed⟩, hattributes⟩, ⟨⟨value, hvalue, hnamed⟩, hget⟩⟩
  · rintro ⟨hfits, hdescribes⟩
    refine ⟨fun member hmem => ?_, fun key => ?_⟩
    · obtain ⟨name, hname⟩ := hkeys member hmem
      exact ⟨⟨name, Piece.text_of_denotes hname⟩, nofun⟩
    · cases key with
      | typeClass => exact (typeClass_iff hnarrow).mpr hdescribes.typeClass
      | attributes =>
          exact (attributes_iff hnarrow).mpr ⟨hfits.attributes, hdescribes.get_eq_true_iff⟩

end Members

/-- What a text of an object is read as does not depend on how the object is written. -/
theorem decode_of_written {members : List (List Piece × Tree)} {text : String}
    (hwritten : (Tree.object members).WrittenAs text.toList)
    (harray : ∀ items, Tree.array items ∉ record.given .attributes members) :
    codec.decode text = (record.ofMembers content members).map fun values =>
      ⟨values .typeClass, values .attributes⟩ := by
  obtain ⟨blanks, hleads, hblanks⟩ := hwritten.leads
  refine Codec.decode_of_gives (codec_gives fun member hmem hkey items hvalue => ?_) hleads hblanks
  exact harray items (Record.mem_given.mpr ⟨member, hmem, hkey, hvalue⟩)

theorem decode_eq_ok_iff {members : List (List Piece × Tree)} {text : String}
    (hwritten : (Tree.object members).WrittenAs text.toList)
    (hkeys : ∀ member ∈ members, ∃ name : String, Piece.Denotes member.1 name.toList)
    (harray : ∀ items, Tree.array items ∉ record.given .attributes members) {profile : Profile} :
    codec.decode text = .ok profile ↔ Fits members ∧ Describes members profile := by
  rw [decode_of_written hwritten harray, map_eq_ok_iff]
  constructor
  · rintro ⟨final, hread, rfl⟩
    exact (ofMembers_eq_ok_iff hwritten.narrow hkeys).mp hread
  · intro hprofile
    exact ⟨profile.fields, (ofMembers_eq_ok_iff hwritten.narrow hkeys).mpr hprofile, rfl⟩

/-- Members that fit describe a profile. -/
theorem exists_describes {members : List (List Piece × Tree)} (hfits : Fits members) :
    ∃ profile, Describes members profile := by
  classical
  obtain ⟨value, typeClass, hvalue, hnamed⟩ := hfits.typeClass
  let flags : Flags := ⟨fun flag => decide (∃ switches,
    Given "attributes" members [.object switches] ∧
      Given (Attribute.vocabulary.name flag) switches [.boolean true])⟩
  exact ⟨⟨typeClass, flags⟩, ⟨value, hvalue, hnamed⟩, fun flag => decide_eq_true_iff⟩

/-- However an object is written, it is read as a profile exactly if its members fit, and then as
the profile that they describe. Members with other names make no difference. -/
theorem decode_object {members : List (List Piece × Tree)} {text : String}
    (hwritten : (Tree.object members).WrittenAs text.toList)
    (hkeys : ∀ member ∈ members, ∃ name : String, Piece.Denotes member.1 name.toList)
    (harray : ∀ member ∈ members, Piece.Denotes member.1 "attributes".toList →
      ∀ items, member.2 ≠ .array items) :
    ((∃ profile, codec.decode text = .ok profile) ↔ Fits members) ∧
      (∀ profile, codec.decode text = .ok profile → Describes members profile) ∧
      ∀ more other, Extends ["type_class", "attributes"] members more →
        (Tree.object more).WrittenAs other.toList → codec.decode other = codec.decode text := by
  have hgiven (items : List Tree) : Tree.array items ∉ record.given .attributes members := by
    intro hmem
    obtain ⟨member, hmember, hkey, hvalue⟩ := Record.mem_given.mp hmem
    have hnarrow := (hwritten.narrow.member hmember).1
    exact harray member hmember ((Record.keyOf?_eq_some_iff hnarrow).mp hkey) items hvalue
  refine ⟨⟨?_, fun hfits => ?_⟩, fun profile hdecode => ?_, fun more other hextends hother => ?_⟩
  · rintro ⟨profile, hdecode⟩
    exact ((decode_eq_ok_iff hwritten hkeys hgiven).mp hdecode).1
  · obtain ⟨profile, hdescribes⟩ := exists_describes hfits
    exact ⟨profile, (decode_eq_ok_iff hwritten hkeys hgiven).mpr ⟨hfits, hdescribes⟩⟩
  · exact ((decode_eq_ok_iff hwritten hkeys hgiven).mp hdecode).2
  · have hextends : Extends record.keys.names members more := hextends
    rw [decode_of_written hwritten hgiven, decode_of_written hother,
      Record.ofMembers_of_extends hextends rfl]
    simpa only [Record.given_of_extends hextends] using hgiven

/-- An object over several lines, with a member that no profile has. -/
theorem decode_noted_object :
    ∃ profile, codec.decode (Value.object [("note", .array [.null]), ("type_class", .string "void"),
      ("attributes", .object [("has_virtual_mf", .boolean true)])]).pretty = .ok profile ∧
        profile.get .virtualFunction = true := by
  let switches := [(Piece.ofText "has_virtual_mf", Tree.boolean true)]
  let members := [(Piece.ofText "note", Tree.array [.null]),
    (Piece.ofText "type_class", .string (Piece.ofText "void")),
    (Piece.ofText "attributes", .object switches)]
  have hproper : (Value.object [("note", .array [.null]), ("type_class", .string "void"),
      ("attributes", .object [("has_virtual_mf", .boolean true)])]).Proper := by
    apply Value.Proper.object
    simp only [List.forall_mem_cons, List.not_mem_nil, false_implies, implies_true, and_true]
    refine ⟨.array ?_, .string "void", .object ?_⟩
    · exact List.forall_mem_singleton.mpr .null
    · exact List.forall_mem_singleton.mpr (.boolean true)
  have hwritten : (Tree.object members).WrittenAs _ := Value.writtenAs_pretty hproper
  have hclass : Given "type_class" members [.string (Piece.ofText "void")] :=
    .miss (Piece.not_denotes_ofText (by decide)) (.hit (Piece.denotes_ofText _)
      (.miss (Piece.not_denotes_ofText (by decide)) .nil))
  have hattributes : Given "attributes" members [.object switches] :=
    .miss (Piece.not_denotes_ofText (by decide)) (.miss (Piece.not_denotes_ofText (by decide))
      (.hit (Piece.denotes_ofText _) .nil))
  have hfits : Fits members := by
    refine ⟨⟨_, .void, hclass, .plain (Piece.denotes_ofText _)⟩,
      .inr ⟨switches, hattributes, ?_, fun flag values hvalues => ?_⟩⟩
    · exact List.forall_mem_singleton.mpr
        ⟨.virtualFunction, true, Piece.denotes_ofText _, rfl⟩
    · change Given _ [(_, _)] values at hvalues
      rcases hvalues with _ | ⟨-, ⟨⟩⟩ | ⟨-, ⟨⟩⟩ <;> simp
  have hkeys : ∀ member ∈ members, ∃ name : String, Piece.Denotes member.1 name.toList := by
    simp only [members, List.forall_mem_cons]
    exact ⟨⟨_, Piece.denotes_ofText _⟩, ⟨_, Piece.denotes_ofText _⟩, ⟨_, Piece.denotes_ofText _⟩,
      nofun⟩
  have harray : ∀ member ∈ members, Piece.Denotes member.1 "attributes".toList →
      ∀ items, member.2 ≠ .array items := by
    simp only [members, List.forall_mem_cons]
    exact ⟨fun hname => absurd hname (Piece.not_denotes_ofText (by decide)), nofun, nofun, nofun⟩
  obtain ⟨hiff, hdescribes, -⟩ := decode_object hwritten hkeys harray
  obtain ⟨profile, hdecode⟩ := hiff.mpr hfits
  exact ⟨profile, hdecode, ((hdescribes profile hdecode).get_eq_true_iff .virtualFunction).mpr
    ⟨switches, hattributes, .hit (Piece.denotes_ofText _) .nil⟩⟩

end Profile

end TypeProfile
