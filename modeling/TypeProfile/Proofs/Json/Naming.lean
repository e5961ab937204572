import TypeProfile.Proofs.Json.Members

/-!
# Members by name

A member has a name if its literal has a text. In a tree that can be written, the member that a
record takes for a key is the one with the name of this key, in whatever way the name is written.
-/

namespace TypeProfile.Json

/-- The values that the members give for a name, in the order of the members. -/
inductive Given (name : String) : List (List Piece × Tree) → List Tree → Prop
  | nil : Given name [] []
  | hit {pieces : List Piece} {value : Tree} {members : List (List Piece × Tree)}
      {values : List Tree} (hname : Piece.Denotes pieces name.toList)
      (hmembers : Given name members values) :
      Given name ((pieces, value) :: members) (value :: values)
  | miss {pieces : List Piece} {value : Tree} {members : List (List Piece × Tree)}
      {values : List Tree} (hname : ¬Piece.Denotes pieces name.toList)
      (hmembers : Given name members values) : Given name ((pieces, value) :: members) values

/-- The members with any number of others between them, none of which has one of the names. -/
inductive Extends (names : List String) :
    List (List Piece × Tree) → List (List Piece × Tree) → Prop
  | nil : Extends names [] []
  | keep (member : List Piece × Tree) {members more : List (List Piece × Tree)}
      (hmembers : Extends names members more) : Extends names (member :: members) (member :: more)
  | add {pieces : List Piece} {name : String} (hname : Piece.Denotes pieces name.toList)
      (hother : name ∉ names) (value : Tree) {members more : List (List Piece × Tree)}
      (hmembers : Extends names members more) : Extends names members ((pieces, value) :: more)

/-! ## Literals of a tree that can be written -/

theorem Written.narrow {tokens : List Token} {text : List Char} (hwritten : Written tokens text)
    {pieces : List Piece} (hmem : .string pieces ∈ tokens) : Piece.Narrow pieces := by
  induction hwritten with
  | nil => cases hmem
  | cons hblanks hspells htext ih =>
      rcases List.mem_cons.mp hmem with rfl | htail
      · cases hspells with
        | string hspells => exact hspells.narrow
      · exact ih htail

namespace Tree

/-- Every literal in the tree is one that can be written. -/
def Narrow (tree : Tree) : Prop :=
  ∀ pieces, .string pieces ∈ tree.tokens → Piece.Narrow pieces

theorem WrittenAs.narrow {tree : Tree} {text : List Char} (hwritten : tree.WrittenAs text) :
    tree.Narrow := by
  obtain ⟨body, blanks, -, hbody, -⟩ := hwritten
  exact fun pieces hmem => hbody.narrow hmem

theorem mem_moreMembers {pieces : List Piece} {value : Tree}
    {members : List (List Piece × Tree)} (hmem : (pieces, value) ∈ members) :
    .string pieces ∈ moreMembers members ∧ value.tokens ⊆ moreMembers members := by
  induction members with
  | nil => cases hmem
  | cons member members ih =>
      obtain ⟨key, first⟩ := member
      rw [moreMembers]
      rcases List.mem_cons.mp hmem with hhead | htail
      · cases hhead
        exact ⟨by simp, fun token htoken => by simp [htoken]⟩
      · obtain ⟨hkey, hvalue⟩ := ih htail
        exact ⟨by simp [hkey], fun token htoken => by simp [hvalue htoken]⟩

theorem moreMembers_subset (members : List (List Piece × Tree)) :
    moreMembers members ⊆ .comma :: (object members).tokens := by
  cases members with
  | nil => simp [moreMembers, tokens]
  | cons member members =>
      obtain ⟨key, value⟩ := member
      intro token htoken
      rw [moreMembers] at htoken
      rcases List.mem_cons.mp htoken with rfl | hmore
      · exact List.mem_cons_self
      · exact List.mem_cons_of_mem _ (List.mem_cons_of_mem _ hmore)

theorem Narrow.member {members : List (List Piece × Tree)} (hnarrow : (object members).Narrow)
    {pieces : List Piece} {value : Tree} (hmem : (pieces, value) ∈ members) :
    Piece.Narrow pieces ∧ value.Narrow := by
  have hmore {literal : List Piece} (hliteral : .string literal ∈ moreMembers members) :
      Piece.Narrow literal := by
    rcases List.mem_cons.mp (moreMembers_subset members hliteral) with hcomma | htoken
    · cases hcomma
    · exact hnarrow literal htoken
  obtain ⟨hkey, hvalue⟩ := mem_moreMembers hmem
  exact ⟨hmore hkey, fun literal hliteral => hmore (hvalue hliteral)⟩

end Tree

theorem Piece.text_eq_ok_iff_denotes {pieces : List Piece} (hnarrow : Narrow pieces)
    {name : String} : Piece.text pieces = .ok name ↔ Denotes pieces name.toList := by
  rw [text_eq_ok_iff, decode_eq_some_iff hnarrow]

/-! ## Keys by name -/

namespace Record

variable {κ : Type} {record : Record κ}

theorem keyOf?_eq_some_iff {pieces : List Piece} (hnarrow : Piece.Narrow pieces) {key : κ} :
    record.keyOf? pieces = some key ↔ Piece.Denotes pieces (record.keys.name key).toList := by
  rw [← Piece.text_eq_ok_iff_denotes hnarrow]
  constructor
  · intro hkey
    obtain ⟨name, htext⟩ := exists_text_of_keyOf? hkey
    rw [keyOf?_of_text htext] at hkey
    rwa [record.keys.ofName?_eq_some_iff.mp hkey]
  · intro htext
    rw [keyOf?_of_text htext, record.keys.ofName?_name]

variable [DecidableEq κ]

theorem given_iff {members : List (List Piece × Tree)} {key : κ} {values : List Tree}
    (hnarrow : ∀ member ∈ members, Piece.Narrow member.1) :
    Given (record.keys.name key) members values ↔ values = record.given key members := by
  induction members generalizing values with
  | nil =>
      refine ⟨fun hgiven => ?_, fun hvalues => ?_⟩
      · cases hgiven
        rfl
      · rw [hvalues]
        exact .nil
  | cons member members ih =>
      obtain ⟨pieces, value⟩ := member
      obtain ⟨hfirst, hrest⟩ := List.forall_mem_cons.mp hnarrow
      have hname : record.keyOf? pieces = some key ↔
          Piece.Denotes pieces (record.keys.name key).toList := keyOf?_eq_some_iff hfirst
      -- By rule, a member with the name cannot be passed over.
      by_cases hkey : record.keyOf? pieces = some key
      · rw [given_cons_of_eq hkey]
        constructor
        · rintro (_ | ⟨-, hgiven⟩ | ⟨hmiss, -⟩)
          · rw [(ih hrest).mp hgiven]
          · exact absurd (hname.mp hkey) hmiss
        · rintro rfl
          exact .hit (hname.mp hkey) ((ih hrest).mpr rfl)
      · rw [given_cons_of_ne hkey]
        constructor
        · rintro (_ | ⟨hhit, -⟩ | ⟨-, hgiven⟩)
          · exact absurd (hname.mpr hhit) hkey
          · exact (ih hrest).mp hgiven
        · intro hvalues
          exact .miss (fun hhit => hkey (hname.mpr hhit)) ((ih hrest).mpr hvalues)

omit [DecidableEq κ] in
theorem keyOf?_of_other {pieces : List Piece} {name : String}
    (hname : Piece.Denotes pieces name.toList) (hother : name ∉ record.keys.names) :
    record.keyOf? pieces = none := by
  rw [keyOf?_of_text (Piece.text_of_denotes hname), record.keys.ofName?_eq_none_iff]
  exact fun key hsame => hother (record.keys.mem_names_iff.mpr ⟨key, hsame⟩)

section Extended

variable {members more : List (List Piece × Tree)}
  (hextends : Extends record.keys.names members more)

include hextends

theorem given_of_extends (key : κ) : record.given key more = record.given key members := by
  induction hextends with
  | nil => rfl
  | keep member hmembers ih =>
      obtain ⟨pieces, value⟩ := member
      by_cases hkey : record.keyOf? pieces = some key
      · rw [given_cons_of_eq hkey, given_cons_of_eq hkey, ih]
      · rw [given_cons_of_ne hkey, given_cons_of_ne hkey, ih]
  | add hname hother value hmembers ih =>
      rw [given_cons_of_ne (by simp [keyOf?_of_other hname hother]), ih]

/-- An open record takes nothing from members with other names. -/
theorem takeAll_of_extends (hopen : record.closed = false)
    (content : (key : κ) → Tree → Except Fault (record.Content key)) (values : record.Partial) :
    record.takeAll content values more = record.takeAll content values members := by
  induction hextends generalizing values with
  | nil => rfl
  | keep member hmembers ih => simp only [takeAll, ih]
  | @add pieces name hname hother value members more hmembers ih =>
      have hadmits : record.Admits pieces :=
        ⟨⟨name, Piece.text_of_denotes hname⟩, by simp [hopen]⟩
      rw [takeAll, take_of_unknown hadmits (keyOf?_of_other hname hother)]
      exact ih values

theorem ofMembers_of_extends (hopen : record.closed = false)
    (content : (key : κ) → Tree → Except Fault (record.Content key)) :
    record.ofMembers content more = record.ofMembers content members := by
  rw [ofMembers, ofMembers, takeAll_of_extends hextends hopen content]

end Extended

end Record

end TypeProfile.Json
