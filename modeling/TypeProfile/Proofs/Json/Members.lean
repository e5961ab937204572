import TypeProfile.Json.Record
import TypeProfile.Proofs.Json.Tree

/-!
# Members of an object

What a record takes from the members of an object, first in the order of reading and then key by
key. How the value of a single key is read is left open.
-/

namespace TypeProfile.Json

/-- The members are the entries in their order, each under some spelling of its name. -/
def Tree.Lists (entries : List (String × Tree)) (members : List (List Piece × Tree)) : Prop :=
  List.Forall₂ (fun entry member =>
    Piece.Denotes member.1 entry.1.toList ∧ member.2 = entry.2) entries members

namespace Record

variable {κ : Type} [DecidableEq κ] (record : Record κ)

/-- The key that a literal names. -/
def keyOf? (pieces : List Piece) : Option κ :=
  (Piece.decode pieces).bind fun text => record.keys.ofName? (String.ofList text)

/-- The literal may stand before a value: it has a text, which a closed record knows. -/
def Admits (pieces : List Piece) : Prop :=
  (∃ name, Piece.text pieces = .ok name) ∧ (record.closed = true → (record.keyOf? pieces).isSome)

/-- The values that the members give for a key. -/
def given (key : κ) (members : List (List Piece × Tree)) : List Tree :=
  (members.filter fun member => record.keyOf? member.1 = some key).map Prod.snd

variable (content : (key : κ) → Tree → Except Fault (record.Content key))

/-- The values held after a member with this name, if it is admitted. -/
def takeNamed (values : record.Partial) (tree : Tree) (name : String) :
    Except Fault record.Partial :=
  match record.keys.ofName? name with
  | none =>
      if record.closed then .error (.misfit (.unknownKey name record.keys.names)) else .ok values
  | some key =>
      if (values key).isSome then .error (.misfit (.repeatedKey name))
      else (content key tree).map (values.insert key)

/-- The values held after one more member. -/
def take (values : record.Partial) (member : List Piece × Tree) : Except Fault record.Partial :=
  (Piece.text member.1).bind (record.takeNamed content values member.2)

/-- The values held after all of the members. -/
def takeAll (values : record.Partial) : List (List Piece × Tree) → Except Fault record.Partial
  | [] => .ok values
  | member :: members =>
      (record.take content values member).bind fun values => takeAll values members

/-- The record that an object with these members is read as. -/
def ofMembers (members : List (List Piece × Tree)) : Except Fault record.Complete :=
  (record.takeAll content Partial.empty members).bind fun values =>
    values.complete record.absent fun key => .missingKey (record.keys.name key)

/-- The record that a tree other than an array is read as. -/
def ofTree : Tree → Except Fault record.Complete
  | .object members => record.ofMembers content members
  | other => refusal other.firstToken (.record record.title)

variable {record content}

/-! ## Reading members -/

/-- The values of the members are read as the content of their keys. -/
def Reads (content : (key : κ) → Tree → Except Fault (record.Content key))
    (members : List (List Piece × Tree)) : Prop :=
  ∀ member ∈ members, ∀ key, record.keyOf? member.1 = some key →
    Gives (record.codec key).read member.2.tokens (content key member.2)

omit [DecidableEq κ] in
theorem keyOf?_of_text {pieces : List Piece} {name : String}
    (htext : Piece.text pieces = .ok name) :
    record.keyOf? pieces = record.keys.ofName? name := by
  rw [keyOf?, Piece.text_eq_ok_iff.mp htext, Option.bind_some, String.ofList_toList]

theorem memberStep_gives (values : record.Partial) {pieces : List Piece} {tree : Tree}
    (hreads : ∀ key, record.keyOf? pieces = some key →
      Gives (record.codec key).read tree.tokens (content key tree))
    {others : List Token}
    {result : record.Partial → (record.Partial × List Piece) ⊕ record.Partial}
    (hafter : ∀ values, Gives (record.afterMember values) others (.ok (result values))) :
    Gives (record.memberStep (values, pieces)) (.colon :: (tree.tokens ++ others))
      ((record.take content values (pieces, tree)).map result) := by
  have houtcome : (record.take content values (pieces, tree)).map result =
      (Piece.text pieces).bind fun name =>
        (record.takeNamed content values tree name).map result := by
    unfold take
    cases Piece.text pieces <;> rfl
  rw [houtcome]
  apply (textOf_gives pieces).bind
  intro name htext
  unfold takeNamed
  cases hkey : record.keys.ofName? name with
  | none =>
      -- An open record passes over the value and holds what it held before.
      by_cases hclosed : record.closed = true
      · simp only [hclosed, if_true]
        exact .fail _ _
      · simp only [hclosed]
        exact .expectToken_bind ((Tree.skipValue_gives tree).bind fun _ _ => hafter values)
  | some key =>
      by_cases hheld : (values key).isSome = true
      · simp only [hheld, if_true]
        exact .fail _ _
      · have hvalue := hreads key (by rw [keyOf?_of_text htext, hkey])
        have hread := hvalue.bind_map fun value => hafter (values.insert key value)
        have hinsert : ((content key tree).map (values.insert key)).map result =
            (content key tree).map fun value => result (values.insert key value) := by
          cases content key tree <;> rfl
        simp only [hheld, Bool.false_eq_true, if_false, hinsert]
        exact .expectToken_bind hread

omit [DecidableEq κ] in
theorem afterMember_gives_done (values : record.Partial) :
    Gives (record.afterMember values) [.closeBrace] (.ok (.inr values)) :=
  .token_bind (.pure _)

omit [DecidableEq κ] in
theorem afterMember_gives_next (values : record.Partial) (pieces : List Piece) :
    Gives (record.afterMember values) [.comma, .string pieces] (.ok (.inl (values, pieces))) :=
  .token_bind (.token_bind (.pure _))

theorem iterate_memberStep_gives {members : List (List Piece × Tree)} {values : record.Partial}
    {pieces : List Piece} {tree : Tree} (hreads : Reads content ((pieces, tree) :: members)) :
    Gives
      (Scan.iterate record.memberStep
        (fun state => (record.memberStep_progresses state).advances) (values, pieces))
      (.colon :: (tree.tokens ++ Tree.moreMembers members))
      (record.takeAll content values ((pieces, tree) :: members)) := by
  have hfirst := hreads (pieces, tree) List.mem_cons_self
  induction members generalizing values pieces tree with
  | nil =>
      have hstep := memberStep_gives values hfirst afterMember_gives_done
      have hsingle : record.takeAll content values [(pieces, tree)] =
          record.take content values (pieces, tree) := by
        rw [takeAll]
        cases record.take content values (pieces, tree) <;> rfl
      rw [hsingle, Tree.moreMembers]
      exact .iterate_done hstep
  | cons member members ih =>
      obtain ⟨name, next⟩ := member
      have hrest : Reads content ((name, next) :: members) :=
        fun member hmem => hreads member (List.mem_cons_of_mem _ hmem)
      have hstep := memberStep_gives values hfirst fun values => afterMember_gives_next values name
      have hloop := hstep.iterate fun values _ =>
        @ih values name next hrest (hrest (name, next) List.mem_cons_self)
      rw [takeAll, Tree.moreMembers]
      simpa using hloop

theorem toCodec_gives {members : List (List Piece × Tree)} (hreads : Reads content members) :
    Gives record.toCodec.read (Tree.object members).tokens (record.ofMembers content members) := by
  cases members with
  | nil =>
      apply Gives.token_bind
      apply Gives.token_bind
      have hempty : Gives (pure Partial.empty) [] (.ok (Partial.empty : record.Partial)) :=
        .pure Partial.empty
      exact hempty.bind fun values _ => .ofExcept _
  | cons member members =>
      obtain ⟨pieces, tree⟩ := member
      apply Gives.token_bind
      apply Gives.token_bind
      rw [← List.append_nil (Token.colon :: _)]
      exact (iterate_memberStep_gives hreads).bind fun values _ => .ofExcept _

theorem ofTree_gives {tree : Tree} (harray : ∀ items, tree ≠ .array items)
    (hreads : ∀ members, tree = .object members → Reads content members) :
    Gives record.toCodec.read tree.tokens (record.ofTree content tree) := by
  cases tree with
  | object members => exact toCodec_gives (hreads members rfl)
  | array items => exact absurd rfl (harray items)
  | _ => exact .token_bind (refuse_gives _ _ _)

theorem ofTree_eq_ok_iff {tree : Tree} {final : record.Complete} :
    record.ofTree content tree = .ok final ↔
      ∃ members, tree = .object members ∧ record.ofMembers content members = .ok final := by
  cases tree <;> simp [ofTree, refusal_ne_ok]

/-! ## Key by key -/

omit [DecidableEq κ] in
theorem exists_text_of_keyOf? {pieces : List Piece} {key : κ}
    (hkey : record.keyOf? pieces = some key) : ∃ name, Piece.text pieces = .ok name := by
  obtain ⟨text, hdecode, -⟩ := Option.bind_eq_some_iff.mp hkey
  exact ⟨String.ofList text, by simp [Piece.text, hdecode]⟩

theorem Partial.insert_self (values : record.Partial) (key : κ) (value : record.Content key) :
    values.insert key value key = some value := by
  simp [Partial.insert]

theorem Partial.insert_of_ne (values : record.Partial) {key other : κ} (hdiffers : key ≠ other)
    (value : record.Content key) : values.insert key value other = values other := by
  simp [Partial.insert, hdiffers]

theorem given_cons_of_eq {key : κ} {pieces : List Piece} (hkey : record.keyOf? pieces = some key)
    (tree : Tree) (members : List (List Piece × Tree)) :
    record.given key ((pieces, tree) :: members) = tree :: record.given key members := by
  simp [given, hkey]

theorem given_cons_of_ne {key : κ} {pieces : List Piece} (hkey : record.keyOf? pieces ≠ some key)
    (tree : Tree) (members : List (List Piece × Tree)) :
    record.given key ((pieces, tree) :: members) = record.given key members := by
  simp [given, hkey]

theorem mem_given {key : κ} {members : List (List Piece × Tree)} {tree : Tree} :
    tree ∈ record.given key members ↔
      ∃ member ∈ members, record.keyOf? member.1 = some key ∧ member.2 = tree := by
  simp [given, and_assoc]

theorem take_of_unknown {pieces : List Piece} (hadmits : record.Admits pieces)
    (hkey : record.keyOf? pieces = none) (values : record.Partial) (tree : Tree) :
    record.take content values (pieces, tree) = .ok values := by
  obtain ⟨⟨name, htext⟩, hclosed⟩ := hadmits
  have hopen : record.closed = false := by
    cases hrecord : record.closed with
    | false => rfl
    | true => simpa [hkey] using hclosed hrecord
  rw [keyOf?_of_text htext] at hkey
  simp [take, takeNamed, htext, hkey, hopen, Except.bind]

theorem take_of_known {pieces : List Piece} {key : κ} (hkey : record.keyOf? pieces = some key)
    (values : record.Partial) (tree : Tree) :
    record.take content values (pieces, tree) =
      if (values key).isSome then .error (.misfit (.repeatedKey (record.keys.name key)))
      else (content key tree).map (values.insert key) := by
  obtain ⟨name, htext⟩ := exists_text_of_keyOf? hkey
  rw [keyOf?_of_text htext] at hkey
  obtain rfl := record.keys.ofName?_eq_some_iff.mp hkey
  simp [take, takeNamed, htext, Except.bind]

omit [DecidableEq κ] in
theorem admits_of_known {pieces : List Piece} {key : κ} (hkey : record.keyOf? pieces = some key) :
    record.Admits pieces :=
  ⟨exists_text_of_keyOf? hkey, fun _ => by simp [hkey]⟩

theorem admits_of_take {values final : record.Partial} {pieces : List Piece} {tree : Tree}
    (htake : record.take content values (pieces, tree) = .ok final) : record.Admits pieces := by
  obtain ⟨name, htext, hnamed⟩ := bind_eq_ok_iff.mp htake
  refine ⟨⟨name, htext⟩, fun hclosed => ?_⟩
  rw [keyOf?_of_text htext]
  cases hname : record.keys.ofName? name with
  | some key => rfl
  | none => simp [takeNamed, hname, hclosed] at hnamed

/-- What is held for a key after the values given for it: no second value is taken. -/
def settle {α : Type} (content : Tree → Except Fault α) :
    Option α → List Tree → Option (Option α)
  | held, [] => some held
  | some _, _ :: _ => none
  | none, tree :: trees =>
      (content tree).toOption.bind fun value => settle content (some value) trees

theorem settle_insert {values : record.Partial} {members : List (List Piece × Tree)}
    {pieces : List Piece} {tree : Tree} {key : κ} {value : record.Content key}
    (hkey : record.keyOf? pieces = some key) (hfree : values key = none)
    (hcontent : content key tree = .ok value) (other : κ) :
    settle (content other) (values other) (record.given other ((pieces, tree) :: members)) =
      settle (content other) (values.insert key value other) (record.given other members) := by
  by_cases hsame : key = other
  · subst hsame
    rw [given_cons_of_eq hkey, hfree, settle, hcontent, Partial.insert_self]
    rfl
  · rw [Partial.insert_of_ne values hsame, given_cons_of_ne (by simp [hkey, hsame])]

/-- Members of different keys do not meet. -/
theorem takeAll_eq_ok_iff {values final : record.Partial} {members : List (List Piece × Tree)} :
    record.takeAll content values members = .ok final ↔
      (∀ member ∈ members, record.Admits member.1) ∧
        ∀ key, settle (content key) (values key) (record.given key members) = some (final key) := by
  induction members generalizing values with
  | nil => simp [takeAll, given, settle, funext_iff]
  | cons member members ih =>
      obtain ⟨pieces, tree⟩ := member
      rw [takeAll, bind_eq_ok_iff]
      cases hkey : record.keyOf? pieces with
      | none =>
          have hgiven (key : κ) : record.given key ((pieces, tree) :: members) =
              record.given key members := given_cons_of_ne (by simp [hkey]) tree members
          simp only [hgiven, List.forall_mem_cons, and_assoc]
          constructor
          · rintro ⟨middle, htake, hrest⟩
            have hadmits := admits_of_take htake
            rw [take_of_unknown hadmits hkey] at htake
            obtain rfl := Except.ok.inj htake
            exact ⟨hadmits, ih.mp hrest⟩
          · rintro ⟨hadmits, hrest⟩
            exact ⟨values, take_of_unknown hadmits hkey values tree, ih.mpr hrest⟩
      | some key =>
          -- A value held already, or one that cannot be read, leaves nothing on either side.
          have hself := given_cons_of_eq hkey tree members
          simp only [take_of_known hkey, List.forall_mem_cons, admits_of_known hkey, true_and]
          cases hheld : values key with
          | some held =>
              refine ⟨by simp, fun hsettled => ?_⟩
              have hrepeated := hsettled.2 key
              rw [hself, hheld] at hrepeated
              cases hrepeated
          | none =>
              cases hcontent : content key tree with
              | error fault =>
                  refine ⟨by simp [Except.map], fun hsettled => ?_⟩
                  have hunread := hsettled.2 key
                  rw [hself, hheld, settle, hcontent] at hunread
                  cases hunread
              | ok value =>
                  simpa [settle_insert hkey hheld hcontent, Except.map] using
                    @ih (values.insert key value)

theorem settle_none_eq_some_iff {α : Type} {content : Tree → Except Fault α} {trees : List Tree}
    {held : Option α} :
    settle content none trees = some held ↔
      trees = [] ∧ held = none ∨ ∃ tree value, trees = [tree] ∧ content tree = .ok value ∧
        held = some value := by
  match trees with
  | [] => simp [settle, eq_comm]
  | [tree] => cases hcontent : content tree <;> simp [settle, hcontent, Except.toOption, eq_comm]
  | first :: second :: trees =>
      cases hcontent : content first <;> simp [settle, hcontent, Except.toOption]

omit [DecidableEq κ] in
theorem Partial.complete_eq_ok_iff {values held : record.Partial} {missing : κ → Misfit}
    {final : record.Complete} :
    values.complete held missing = .ok final ↔
      ∀ key, (values key).or (held key) = some (final key) := by
  unfold Partial.complete
  simp only
  split
  next key hfound =>
    have hmissing := List.find?_some hfound
    refine ⟨nofun, fun hall => ?_⟩
    simp [hall key] at hmissing
  next hfound =>
    rw [Except.ok.injEq, funext_iff]
    apply forall_congr'
    intro key
    exact (Option.eq_some_iff_get_eq.trans ⟨fun hget => hget.2, fun hget => ⟨_, hget⟩⟩).symm

/-- An object is read as a record exactly when each key is given once, or never if something is held
for it then. -/
theorem ofMembers_eq_ok_iff {members : List (List Piece × Tree)} {final : record.Complete} :
    record.ofMembers content members = .ok final ↔
      (∀ member ∈ members, record.Admits member.1) ∧
        ∀ key, record.given key members = [] ∧ record.absent key = some (final key) ∨
          ∃ tree, record.given key members = [tree] ∧ content key tree = .ok (final key) := by
  simp only [ofMembers, bind_eq_ok_iff, takeAll_eq_ok_iff, Partial.complete_eq_ok_iff]
  constructor
  · rintro ⟨values, ⟨hadmits, hsettled⟩, hfinal⟩
    refine ⟨hadmits, fun key => ?_⟩
    have hkey := hfinal key
    rcases settle_none_eq_some_iff.mp (hsettled key) with
      ⟨hnone, hvalue⟩ | ⟨tree, value, hone, hcontent, hvalue⟩
    · rw [hvalue] at hkey
      exact .inl ⟨hnone, hkey⟩
    · rw [hvalue] at hkey
      cases hkey
      exact .inr ⟨tree, hone, hcontent⟩
  · rintro ⟨hadmits, hgiven⟩
    -- The values held after the members are those of the keys that have been given.
    let values : record.Partial := fun key =>
      if (record.given key members).isEmpty then none else some (final key)
    refine ⟨values, ⟨hadmits, fun key => settle_none_eq_some_iff.mpr ?_⟩, fun key => ?_⟩
    · rcases hgiven key with ⟨hnone, -⟩ | ⟨tree, hone, hcontent⟩
      · exact .inl ⟨hnone, by simp [values, hnone]⟩
      · exact .inr ⟨tree, final key, hone, hcontent, by simp [values, hone]⟩
    · rcases hgiven key with ⟨hnone, habsent⟩ | ⟨tree, hone, -⟩
      · simp [values, hnone, habsent]
      · simp [values, hone]

/-! ## Members that are all taken -/

omit [DecidableEq κ] in
theorem keyOf?_of_denotes {pieces : List Piece} {key : κ}
    (hname : Piece.Denotes pieces (record.keys.name key).toList) :
    record.keyOf? pieces = some key :=
  (keyOf?_of_text (Piece.text_of_denotes hname)).trans (record.keys.ofName?_name key)

/-- Members of distinct keys are all taken, whatever order they have. -/
theorem takeAll_of_lists {entries : List (κ × Tree)} {members : List (List Piece × Tree)}
    {values : record.Partial} {final : record.Complete}
    (hlists : Tree.Lists (entries.map fun entry => (record.keys.name entry.1, entry.2)) members)
    (hdistinct : (entries.map Prod.fst).Nodup)
    (hcontent : ∀ entry ∈ entries, content entry.1 entry.2 = .ok (final entry.1))
    (hfree : ∀ key ∈ entries.map Prod.fst, values key = none) :
    record.takeAll content values members =
      .ok fun key => if key ∈ entries.map Prod.fst then some (final key) else values key := by
  induction entries generalizing members values with
  | nil =>
      cases hlists
      rfl
  | cons entry entries ih =>
      rcases hlists with _ | @⟨_, member, _, members, ⟨hname, htree⟩, hlists⟩
      obtain ⟨key, tree⟩ := entry
      obtain ⟨pieces, value⟩ := member
      obtain rfl : value = tree := htree
      obtain ⟨hnew, hdistinct⟩ := List.nodup_cons.mp hdistinct
      obtain ⟨hvalue, hcontent⟩ := List.forall_mem_cons.mp hcontent
      obtain ⟨hheld, hfree⟩ := List.forall_mem_cons.mp hfree
      have htake : record.take content values (pieces, value) =
          .ok (values.insert key (final key)) := by
        rw [take_of_known (keyOf?_of_denotes hname), hheld, hvalue]
        rfl
      have hrest (other) (hother : other ∈ entries.map Prod.fst) :
          values.insert key (final key) other = none := by
        rw [Partial.insert_of_ne values (ne_of_mem_of_not_mem hother hnew).symm]
        exact hfree other hother
      rw [takeAll, htake, Except.bind, ih hlists hdistinct hcontent hrest]
      refine congrArg Except.ok (funext fun other => ?_)
      by_cases hsame : key = other
      · subst hsame
        have hlisted : key ∈ ((key, value) :: entries).map Prod.fst := List.mem_cons_self
        rw [if_neg hnew, Partial.insert_self, if_pos hlisted]
      · have hlisted : other ∈ ((key, value) :: entries).map Prod.fst ↔
            other ∈ entries.map Prod.fst := List.mem_cons.trans (or_iff_right (Ne.symm hsame))
        simp only [Partial.insert_of_ne values hsame, hlisted]

end Record

end TypeProfile.Json
