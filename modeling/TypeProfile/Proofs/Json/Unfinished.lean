import TypeProfile.Proofs.Json.Members

/-!
# Objects that break off

A record looks at a key before it looks at anything after it. So where an object begins with members
that are taken and comes to a key that is at fault, this fault is the answer, whatever follows the
key.
-/

namespace TypeProfile.Json

/-- What stands in an object after its brace and up to a key: the members before the key, each with
a comma, and the key itself. -/
def Tree.upToKey (key : List Piece) : List (List Piece × Tree) → List Token
  | [] => [.string key]
  | (name, value) :: members =>
      .string name :: .colon :: (value.tokens ++ .comma :: upToKey key members)

namespace Tree

theorem follows_upToKey (key : List Piece) (members : List (List Piece × Tree)) :
    Follows (upToKey key members) := by
  induction members with
  | nil => exact .cons rfl .nil
  | cons member members ih =>
      obtain ⟨name, value⟩ := member
      have hcomma : Follows (.comma :: upToKey key members) := .cons rfl ih.apart
      have hcolon : Follows (.colon :: (value.tokens ++ .comma :: upToKey key members)) :=
        .cons rfl (apart_tokens hcomma value)
      exact .cons rfl hcolon.apart

theorem getLast?_upToKey (key : List Piece) (members : List (List Piece × Tree)) :
    (upToKey key members).getLast? = some (.string key) := by
  induction members with
  | nil => rfl
  | cons member members ih => simp [upToKey, List.getLast?_cons, List.getLast?_append, ih]

/-- Whatever comes after the key does not change what stands before it. -/
theorem leads_upToKey {key : List Piece} {members : List (List Piece × Tree)} {text : List Char}
    (hwritten : Written (.openBrace :: upToKey key members) text) (rest : List Char) :
    Leads (.openBrace :: upToKey key members) (text ++ rest) rest := by
  have hapart := (follows_upToKey key members).apart_cons .openBrace
  refine hwritten.leads hapart fun last hlast hnumber => ?_
  rw [List.getLast?_cons, getLast?_upToKey] at hlast
  cases hlast
  cases hnumber

end Tree

/-- A fault does not depend on what follows the tokens that show it. -/
theorem Codec.decode_of_gives_error {α : Type} {codec : Codec α} {tokens : List Token}
    {fault : Fault} {text : String} {rest : List Char}
    (hread : Gives codec.read tokens (.error fault)) (hleads : Leads tokens text.toList rest) :
    codec.decode text = .error fault := by
  rw [decode, hread hleads]
  rfl

namespace Record

variable {κ : Type} [DecidableEq κ] {record : Record κ}
  {content : (key : κ) → Tree → Except Fault (record.Content key)}

/-- What is wrong with a key before its value has been looked at: it is unknown to a closed record,
or a value is held for it. -/
def keyMisfit? (record : Record κ) (values : record.Partial) (name : String) : Option Misfit :=
  match record.keys.ofName? name with
  | none => if record.closed then some (.unknownKey name record.keys.names) else none
  | some key => if (values key).isSome then some (.repeatedKey name) else none

theorem memberStep_gives_misfit {values : record.Partial} {pieces : List Piece} {name : String}
    {misfit : Misfit} (htext : Piece.text pieces = .ok name)
    (hmisfit : record.keyMisfit? values name = some misfit) :
    Gives (record.memberStep (values, pieces)) [] (.error (.misfit misfit)) := by
  have hname := textOf_gives pieces
  rw [htext] at hname
  apply hname.bind (f := fun _ => .error (.misfit misfit))
  rintro _ ⟨⟩
  cases hkey : record.keys.ofName? name with
  | none =>
      by_cases hclosed : record.closed = true
      · simp only [keyMisfit?, hkey, hclosed, if_true] at hmisfit
        cases hmisfit
        simp only [hclosed, if_true]
        exact .fail _ []
      · simp [keyMisfit?, hkey, hclosed] at hmisfit
  | some key =>
      by_cases hheld : (values key).isSome = true
      · simp only [keyMisfit?, hkey, hheld, if_true] at hmisfit
        cases hmisfit
        simp only [hheld, if_true]
        exact .fail _ []
      · simp [keyMisfit?, hkey, hheld] at hmisfit

/-- The members are taken one by one, and the key at fault is looked at after the last of them. -/
theorem iterate_memberStep_gives_misfit {members : List (List Piece × Tree)}
    {values held : record.Partial} {pieces : List Piece} {name : String} {misfit : Misfit}
    (hreads : Reads content members)
    (htaken : record.takeAll content values members = .ok held)
    (htext : Piece.text pieces = .ok name)
    (hmisfit : record.keyMisfit? held name = some misfit) :
    ∃ first tokens, Tree.upToKey pieces members = .string first :: tokens ∧
      Gives
        (Scan.iterate record.memberStep
          (fun state => (record.memberStep_progresses state).advances) (values, first))
        tokens (.error (.misfit misfit)) := by
  induction members generalizing values with
  | nil =>
      cases htaken
      exact ⟨pieces, [], rfl, .iterate_done (memberStep_gives_misfit htext hmisfit)⟩
  | cons member members ih =>
      obtain ⟨key, value⟩ := member
      obtain ⟨next, htake, hrest⟩ := bind_eq_ok_iff.mp htaken
      obtain ⟨first, tokens, htokens, hloop⟩ :=
        ih (fun member hmem => hreads member (List.mem_cons_of_mem _ hmem)) hrest
      have hstep := memberStep_gives values (hreads (key, value) List.mem_cons_self)
        fun values => afterMember_gives_next values first
      rw [htake] at hstep
      have hgives := hstep.iterate (f := fun _ => .error (.misfit misfit)) <| by
        rintro _ ⟨⟩
        exact hloop
      refine ⟨key, _, rfl, ?_⟩
      rw [htokens]
      simpa [Except.bind] using hgives

/-- A key at fault is the answer for any object that begins with it after members that are taken. -/
theorem toCodec_gives_misfit {members : List (List Piece × Tree)} {pieces : List Piece}
    {name : String} {held : record.Partial} {misfit : Misfit} (hreads : Reads content members)
    (htaken : record.takeAll content Partial.empty members = .ok held)
    (htext : Piece.text pieces = .ok name)
    (hmisfit : record.keyMisfit? held name = some misfit) :
    Gives record.toCodec.read (.openBrace :: Tree.upToKey pieces members)
      (.error (.misfit misfit)) := by
  obtain ⟨first, tokens, htokens, hloop⟩ :=
    iterate_memberStep_gives_misfit hreads htaken htext hmisfit
  rw [htokens]
  apply Gives.token_bind
  apply Gives.token_bind
  rw [← List.append_nil tokens]
  exact hloop.bind (f := fun _ => .error (.misfit misfit)) nofun

end Record

end TypeProfile.Json
