import Mathlib.Data.List.Forall2
import TypeProfile.Proofs.Json.Members

/-!
# Values without their keys

What a record takes from the values of an array, which stand for its keys in the order of
declaration. Keys beyond the end of the array keep what is held for them, and there may be no values
beyond the last key. The same record comes from an object that gives each of these values under its
key.
-/

namespace TypeProfile.Json

/-- The members are these entries in any order, each under some spelling of its name. -/
def Tree.Holds (entries : List (String × Tree)) (members : List (List Piece × Tree)) : Prop :=
  ∃ ordered, Lists entries ordered ∧ ordered.Perm members

theorem Tree.holds_ofText (entries : List (String × Tree)) :
    Holds entries (entries.map fun entry => (Piece.ofText entry.1, entry.2)) := by
  refine ⟨_, ?_, .refl _⟩
  rw [Lists, List.forall₂_map_right_iff, List.forall₂_same]
  exact fun entry _ => ⟨Piece.denotes_ofText entry.1, rfl⟩

namespace Record

variable {κ : Type} [DecidableEq κ] (record : Record κ)
  (content : (key : κ) → Tree → Except Fault (record.Content key))

/-- The record with the values that are held so far, and with those of an array for the keys that
are left. -/
def ofItems (values : record.Partial) : List κ → List Tree → Except Fault record.Complete
  | _, [] => values.complete record.omitted fun key =>
      .wrongLength (record.keys.all.idxOf key) (.elements record.title record.keys.all.length)
  | [], _ :: _ => .error .malformed
  | key :: keys, item :: items =>
      (content key item).bind fun value => ofItems (values.insert key value) keys items

/-- The record that a tree is read as, of whatever kind the tree is. -/
def ofValue : Tree → Except Fault record.Complete
  | .array items => record.ofItems content .empty record.keys.all items
  | tree => record.ofTree content tree

variable {record content}

/-! ## Reading an array -/

theorem endElements_gives (values : record.Partial) :
    Gives (record.endElements values) [] (values.complete record.omitted fun key =>
      .wrongLength (record.keys.all.idxOf key)
        (.elements record.title record.keys.all.length)) :=
  .ofExcept _

section Reading

variable (hreads : ∀ key tree, Gives (record.codec key).read (Tree.tokens tree) (content key tree))

include hreads

/-- Values after the first, each with a comma before it. -/
theorem readElements_gives (values : record.Partial) (keys : List κ) (items : List Tree) :
    Gives (record.readElements true values keys) (Tree.moreItems items)
      (record.ofItems content values keys items) := by
  have hcomma : Token.comma ≠ .closeBracket := nofun
  induction keys generalizing values items with
  | nil =>
      cases items with
      | nil => exact .expectToken_bind (endElements_gives values)
      | cons item items => exact .expectToken_bind_of_ne hcomma _ _
  | cons key keys ih =>
      cases items with
      | nil => exact .acceptToken_bind (endElements_gives values)
      | cons item items =>
          apply Gives.acceptToken_bind_of_ne hcomma
          apply Gives.expectToken_bind
          exact (hreads key item).bind fun value _ => ih (values.insert key value) items

theorem toCodec_gives_items (items : List Tree) :
    Gives record.toCodec.read (Tree.array items).tokens
      (record.ofItems content .empty record.keys.all items) := by
  cases items with
  | nil =>
      apply Gives.token_bind
      cases record.keys.all with
      | nil => exact .expectToken_bind (endElements_gives _)
      | cons key keys => exact .acceptToken_bind (endElements_gives _)
  | cons item items =>
      apply Gives.token_bind
      -- Before its first value an array has no comma, and no value begins with the closing bracket.
      obtain ⟨others, htokens⟩ := item.exists_tokens_eq
      have hopen : item.firstToken ≠ .closeBracket := by cases item <;> exact nofun
      cases record.keys.all with
      | nil =>
          rw [htokens]
          exact .expectToken_bind_of_ne hopen _ _
      | cons key keys =>
          have hread := (hreads key item).bind fun value _ =>
            readElements_gives hreads (Partial.empty.insert key value) keys items
          rw [htokens] at hread ⊢
          exact .acceptToken_bind_of_ne hopen hread

theorem ofValue_gives (tree : Tree) :
    Gives record.toCodec.read tree.tokens (record.ofValue content tree) := by
  cases tree with
  | array items => exact toCodec_gives_items hreads items
  | _ => exact ofTree_gives nofun fun _ _ member _ key _ => hreads key member.2

end Reading

/-! ## Place by place -/

/-- An array is read as a record exactly when it has no value too many, each of its values is that
of the key in the same place, and something is held for the other keys. -/
theorem ofItems_eq_ok_iff {values : record.Partial} {final : record.Complete} {keys : List κ}
    {items : List Tree} (hdistinct : keys.Nodup) :
    record.ofItems content values keys items = .ok final ↔
      items.length ≤ keys.length ∧
        (∀ entry ∈ keys.zip items, content entry.1 entry.2 = .ok (final entry.1)) ∧
        ∀ key ∉ keys.take items.length, (values key).or (record.omitted key) =
          some (final key) := by
  induction keys generalizing values items with
  | nil => cases items <;> simp [ofItems, Partial.complete_eq_ok_iff]
  | cons key keys ih =>
      cases items with
      | nil => simp [ofItems, Partial.complete_eq_ok_iff]
      | cons item items =>
          obtain ⟨hnew, hdistinct⟩ := List.nodup_cons.mp hdistinct
          have hrest (other : κ) (hother : key ≠ other) (value : record.Content key) :
              values.insert key value other = values other :=
            Partial.insert_of_ne values hother value
          rw [ofItems, bind_eq_ok_iff]
          simp only [ih hdistinct, List.length_cons, Nat.add_le_add_iff_right, List.zip_cons_cons,
            List.take_succ_cons, List.mem_cons, forall_eq_or_imp, not_or]
          constructor
          · rintro ⟨value, hvalue, hlength, hitems, hothers⟩
            have hself := hothers key fun hmem => hnew (List.mem_of_mem_take hmem)
            rw [Partial.insert_self, Option.some_or, Option.some.injEq] at hself
            subst hself
            refine ⟨hlength, ⟨hvalue, hitems⟩, fun other hother => ?_⟩
            rw [← hrest other (Ne.symm hother.1) (final key)]
            exact hothers other hother.2
          · rintro ⟨hlength, ⟨hvalue, hitems⟩, hothers⟩
            refine ⟨final key, hvalue, hlength, hitems, fun other hother => ?_⟩
            by_cases hsame : key = other
            · subst hsame
              rw [Partial.insert_self, Option.some_or]
            · rw [hrest other hsame]
              exact hothers other ⟨Ne.symm hsame, hother⟩

/-! ## Members in any order -/

theorem given_perm {members others : List (List Piece × Tree)} (hperm : members.Perm others)
    (key : κ) : (record.given key members).Perm (record.given key others) :=
  (hperm.filter _).map _

theorem ofMembers_perm {members others : List (List Piece × Tree)} (hperm : members.Perm others)
    {final : record.Complete} (hread : record.ofMembers content members = .ok final) :
    record.ofMembers content others = .ok final := by
  rw [ofMembers_eq_ok_iff] at hread ⊢
  obtain ⟨hadmits, hgiven⟩ := hread
  refine ⟨fun member hmem => hadmits member (hperm.mem_iff.mpr hmem), fun key => ?_⟩
  have hvalues : (record.given key members).Perm (record.given key others) := given_perm hperm key
  rcases hgiven key with ⟨hnone, habsent⟩ | ⟨tree, hone, hvalue⟩
  · rw [hnone] at hvalues
    exact .inl ⟨hvalues.nil_eq.symm, habsent⟩
  · rw [hone] at hvalues
    exact .inr ⟨tree, List.perm_singleton.mp hvalues.symm, hvalue⟩

/-- An object with a value under each of the given keys is read as the record with these values, and
with what is held for the other keys. -/
theorem ofMembers_of_holds {entries : List (κ × Tree)} {members : List (List Piece × Tree)}
    {final : record.Complete}
    (hholds : Tree.Holds (entries.map fun entry => (record.keys.name entry.1, entry.2)) members)
    (hdistinct : (entries.map Prod.fst).Nodup)
    (hgiven : ∀ entry ∈ entries, content entry.1 entry.2 = .ok (final entry.1))
    (habsent : ∀ key ∉ entries.map Prod.fst, record.absent key = some (final key)) :
    record.ofMembers content members = .ok final := by
  obtain ⟨ordered, hordered, hperm⟩ := hholds
  apply ofMembers_perm hperm
  have hfree : ∀ key ∈ entries.map Prod.fst, (Partial.empty : record.Partial) key = none :=
    fun _ _ => rfl
  rw [ofMembers, takeAll_of_lists hordered hdistinct hgiven hfree]
  refine Partial.complete_eq_ok_iff.mpr fun key => ?_
  by_cases hkey : key ∈ entries.map Prod.fst
  · simp [hkey]
  · simp only [hkey, if_false]
    exact habsent key hkey

end Record

end TypeProfile.Json
