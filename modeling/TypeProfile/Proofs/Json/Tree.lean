import TypeProfile.Json.Skip
import TypeProfile.Proofs.Json.Reading

/-!
# Trees of values

The grammar of values as trees. A tree keeps what every way of writing it has in common: the parts
of its numbers, the pieces of its literals, and the order of items and members.
-/

namespace TypeProfile.Json

/-- A value with its members in the order in which they are written. -/
inductive Tree
  | null
  | boolean (value : Bool)
  | number (value : Number)
  | string (pieces : List Piece)
  | array (items : List Tree)
  | object (members : List (List Piece × Tree))

namespace Tree

mutual

def tokens : Tree → List Token
  | null => [.null]
  | boolean value => [.boolean value]
  | number value => [.number value]
  | string pieces => [.string pieces]
  | array [] => [.openBracket, .closeBracket]
  | array (item :: items) => .openBracket :: (item.tokens ++ moreItems items)
  | object [] => [.openBrace, .closeBrace]
  | object ((key, value) :: members) =>
      .openBrace :: .string key :: .colon :: (value.tokens ++ moreMembers members)

/-- What stands after an item, up to the end of the array. -/
def moreItems : List Tree → List Token
  | [] => [.closeBracket]
  | item :: items => .comma :: (item.tokens ++ moreItems items)

/-- What stands after a member, up to the end of the object. -/
def moreMembers : List (List Piece × Tree) → List Token
  | [] => [.closeBrace]
  | (key, value) :: members =>
      .comma :: .string key :: .colon :: (value.tokens ++ moreMembers members)

end

/-- The token that a tree begins with. -/
def firstToken : Tree → Token
  | null => .null
  | boolean value => .boolean value
  | number value => .number value
  | string pieces => .string pieces
  | array _ => .openBracket
  | object _ => .openBrace

theorem exists_tokens_eq (tree : Tree) : ∃ others, tree.tokens = tree.firstToken :: others := by
  cases tree with
  | array items => cases items <;> exact ⟨_, rfl⟩
  | object members => cases members <;> exact ⟨_, rfl⟩
  | _ => exact ⟨_, rfl⟩

theorem tokens_ne_nil (tree : Tree) : tree.tokens ≠ [] := by
  obtain ⟨others, htokens⟩ := tree.exists_tokens_eq
  rw [htokens]
  exact List.cons_ne_nil _ others

/-- The text is one of the ways to write the tree, with blanks wherever they may stand. -/
def WrittenAs (tree : Tree) (text : List Char) : Prop :=
  ∃ body blanks, text = body ++ blanks ∧ Written tree.tokens body ∧ Blank blanks

end Tree

/-! ## Numbers stand apart -/

/-- Tokens that may stand after a number. -/
structure Follows (tokens : List Token) : Prop where
  apart : Apart tokens
  head : ∀ token, tokens.head? = some token → token.isNumber = false

theorem Follows.cons {token : Token} {tokens : List Token} (hnumber : token.isNumber = false)
    (htokens : Apart tokens) : Follows (token :: tokens) where
  apart := by
    cases tokens with
    | nil => exact .singleton token
    | cons second tokens =>
        refine .cons (fun hfirst => ?_) htokens
        rw [hnumber] at hfirst
        cases hfirst
  head := by
    rintro first ⟨⟩
    exact hnumber

/-- Anything may stand before what may stand after a number. -/
theorem Follows.apart_cons {tokens : List Token} (hfollows : Follows tokens) (token : Token) :
    Apart (token :: tokens) := by
  cases tokens with
  | nil => exact .singleton token
  | cons second tokens => exact .cons (fun _ => hfollows.head second rfl) hfollows.apart

namespace Tree

-- What follows a tree is carried along, since a number at its end meets what comes there.
mutual

theorem apart_tokens {more : List Token} (hmore : Follows more) :
    (tree : Tree) → Apart (tree.tokens ++ more)
  | null => hmore.apart_cons _
  | boolean _ => hmore.apart_cons _
  | number _ => hmore.apart_cons _
  | string _ => hmore.apart_cons _
  | array [] => (Follows.cons rfl (hmore.apart_cons _)).apart
  | array (item :: items) => by
      have hitems := follows_moreItems hmore items
      simpa [tokens] using (Follows.cons rfl (apart_tokens hitems item)).apart
  | object [] => (Follows.cons rfl (hmore.apart_cons _)).apart
  | object ((key, value) :: members) => by
      have hmembers := follows_moreMembers hmore members
      have hvalue : Follows (.colon :: (value.tokens ++ (moreMembers members ++ more))) :=
        .cons rfl (apart_tokens hmembers value)
      have hkey : Follows
          (.string key :: .colon :: (value.tokens ++ (moreMembers members ++ more))) :=
        .cons rfl hvalue.apart
      simpa [tokens] using hkey.apart_cons .openBrace

theorem follows_moreItems {more : List Token} (hmore : Follows more) :
    (items : List Tree) → Follows (moreItems items ++ more)
  | [] => .cons rfl hmore.apart
  | item :: items => by
      have hitems := follows_moreItems hmore items
      simpa [moreItems] using Follows.cons rfl (apart_tokens hitems item)

theorem follows_moreMembers {more : List Token} (hmore : Follows more) :
    (members : List (List Piece × Tree)) → Follows (moreMembers members ++ more)
  | [] => .cons rfl hmore.apart
  | (key, value) :: members => by
      have hmembers := follows_moreMembers hmore members
      have hvalue : Follows (.colon :: (value.tokens ++ (moreMembers members ++ more))) :=
        .cons rfl (apart_tokens hmembers value)
      simpa [moreMembers] using Follows.cons rfl (hvalue.apart_cons (.string key))

end

/-- A way of writing a tree is a text of its tokens with blanks after them. -/
theorem WrittenAs.leads {tree : Tree} {text : List Char} (hwritten : tree.WrittenAs text) :
    ∃ blanks, Leads tree.tokens text blanks ∧ Blank blanks := by
  obtain ⟨body, blanks, rfl, hbody, hblanks⟩ := hwritten
  have hapart := apart_tokens ⟨.nil, nofun⟩ tree
  rw [List.append_nil] at hapart
  refine ⟨blanks, hbody.leads hapart fun _ _ _ => ?_, hblanks⟩
  cases blanks with
  | nil => exact Number.ends_nil
  | cons c blanks =>
      exact Number.ends_cons (continues_of_isBlank (hblanks c List.mem_cons_self)) blanks

end Tree

/-! ## Passing over a tree -/

/-- The tokens lead from one position to another, and not to the end before the last of them. -/
inductive Passes : Position → List Token → Position → Prop
  | last {start stop : Position} {token : Token} (hadvance : start.advance token = some stop) :
      Passes start [token] stop
  | step {start next stop : Position} {token : Token} {tokens : List Token}
      (hadvance : start.advance token = some next) (hopen : next.atEnd = false)
      (htokens : Passes next tokens stop) : Passes start (token :: tokens) stop

namespace Passes

theorem trans {start middle stop : Position} {first second : List Token}
    (hfirst : Passes start first middle) (hopen : middle.atEnd = false)
    (hsecond : Passes middle second stop) : Passes start (first ++ second) stop := by
  induction hfirst with
  | last hadvance => exact .step hadvance hopen hsecond
  | step hadvance hnext htokens ih => exact .step hadvance hnext (ih hopen hsecond)

theorem gives {start stop : Position} {tokens : List Token} (hpasses : Passes start tokens stop)
    (hend : stop.atEnd = true) :
    Gives (Scan.iterate skipStep (fun state => (skipStep_progresses state).advances) start) tokens
      (.ok ()) := by
  induction hpasses with
  | @last start stop token hadvance =>
      apply Gives.iterate_done
      apply Gives.token_bind
      simp only [hadvance, hend, if_true]
      exact .pure _
  | @step start next stop token tokens hadvance hopen htokens ih =>
      have hstep : Gives (skipStep start) [token] ((Except.ok ()).map fun _ => .inl next) := by
        apply Gives.token_bind
        simp only [hadvance, hopen]
        exact .pure _
      exact hstep.iterate fun _ _ => ih hend

end Passes

/-- A value may come at the position, inside the open brackets. -/
def ExpectsValue (position : Position) (brackets : List Bracket) : Prop :=
  ∀ token, token ≠ .closeBracket → position.advance token = Position.beginValue brackets token

theorem expectsValue_value (brackets : List Bracket) : ExpectsValue ⟨.value, brackets⟩ brackets :=
  fun _ _ => rfl

theorem expectsValue_valueOrEnd (brackets : List Bracket) :
    ExpectsValue ⟨.valueOrEnd, .array :: brackets⟩ (.array :: brackets) := by
  intro token hdiffers
  cases token with
  | closeBracket => contradiction
  | _ => rfl

namespace Tree

-- The brackets that are open around a tree stay open, so only those of the tree itself are counted.
mutual

theorem passes_tokens {position : Position} {brackets : List Bracket}
    (hvalue : ExpectsValue position brackets) :
    (tree : Tree) → Passes position tree.tokens ⟨.done, brackets⟩
  | null => .last (hvalue _ nofun)
  | boolean _ => .last (hvalue _ nofun)
  | number _ => .last (hvalue _ nofun)
  | string _ => .last (hvalue _ nofun)
  | array [] => .step (hvalue _ nofun) rfl (.last rfl)
  | array (item :: items) =>
      .step (hvalue _ nofun) rfl
        ((passes_tokens (expectsValue_valueOrEnd _) item).trans rfl (passes_moreItems items))
  | object [] => .step (hvalue _ nofun) rfl (.last rfl)
  | object ((_, value) :: members) =>
      .step (hvalue _ nofun) rfl (.step rfl rfl (.step rfl rfl
        ((passes_tokens (expectsValue_value _) value).trans rfl (passes_moreMembers members))))

theorem passes_moreItems {brackets : List Bracket} : (items : List Tree) →
    Passes ⟨.done, .array :: brackets⟩ (moreItems items) ⟨.done, brackets⟩
  | [] => .last rfl
  | item :: items =>
      .step rfl rfl
        ((passes_tokens (expectsValue_value _) item).trans rfl (passes_moreItems items))

theorem passes_moreMembers {brackets : List Bracket} : (members : List (List Piece × Tree)) →
    Passes ⟨.done, .object :: brackets⟩ (moreMembers members) ⟨.done, brackets⟩
  | [] => .last rfl
  | (_, value) :: members =>
      .step rfl rfl (.step rfl rfl (.step rfl rfl
        ((passes_tokens (expectsValue_value _) value).trans rfl (passes_moreMembers members))))

end

/-- Every value can be passed over, of any kind and nested to any depth. -/
theorem skipValue_gives (tree : Tree) : Gives skipValue tree.tokens (.ok ()) :=
  (passes_tokens (expectsValue_value []) tree).gives rfl

end Tree

end TypeProfile.Json
