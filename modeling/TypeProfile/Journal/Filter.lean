import TypeProfile.Journal.Event
import TypeProfile.Pattern.Value
import TypeProfile.Text.Bytes

/-!
# Filters

A filter decides which events are shown. It is a list of rules, each with a threshold for the events
that it applies to; of the rules that apply to an event the most specific one counts. An event that
no rule applies to is not shown.

In writing, rules are separated by commas, and a rule is one of

    level    origin    origin=level    origin[span]=level    origin[{detail}]=level
    origin[span{detail=value}]=level

where the origin may be left out before a bracket, and the level after one.
-/

namespace TypeProfile.Journal

/-- What is shown: nothing, or all events up to a level. -/
inductive Threshold
  | off
  | upTo (greatest : Level)
deriving DecidableEq, Repr

namespace Threshold

def shows : Threshold → Level → Bool
  | off, _ => false
  | upTo greatest, level => level.rank ≤ greatest.rank

/-- The threshold with a number, which may have zeros in front. -/
def ofDigits? (digits : List Char) : Option Threshold :=
  match digits.dropWhile (· == '0') with
  | [] => if digits.isEmpty then none else some off
  | ['1'] => some (upTo .error)
  | ['2'] => some (upTo .warn)
  | ['3'] => some (upTo .info)
  | ['4'] => some (upTo .debug)
  | ['5'] => some (upTo .trace)
  | _ => none

/-- The threshold that a word names, in letters of either case or as a number. -/
def ofWord? (word : List Char) : Option Threshold :=
  match String.ofList (word.map Char.toLower) with
  | "off" => some off
  | "error" => some (upTo .error)
  | "warn" => some (upTo .warn)
  | "info" => some (upTo .info)
  | "debug" => some (upTo .debug)
  | "trace" => some (upTo .trace)
  | _ => match word with
      | '+' :: digits => ofDigits? digits
      | digits => ofDigits? digits

/-- The threshold after an equals sign. If nothing is there, everything is shown. -/
def ofEnding? (ending : List Char) : Option Threshold :=
  if ending.isEmpty then some (upTo .trace) else ofWord? ending

end Threshold

/-- The threshold for some of the events. -/
structure Rule where
  /-- What the origin of an event begins with. -/
  origin : Option String := none
  /-- The name of something that is noted with an event. -/
  detail : Option String := none
  /-- A span around the event is asked for, or a detail of one. There are no spans. -/
  needsSpan : Bool := false
  threshold : Threshold := .upTo .trace
deriving DecidableEq, Repr

namespace Rule

def applies (rule : Rule) (event : Event) : Bool :=
  !rule.needsSpan &&
    rule.origin.all (fun start => start.toList.isPrefixOf event.origin.toList) &&
    rule.detail.all fun name => name == "message" || event.details.any (·.1 == name)

/-- A rule without conditions applies to all events. -/
@[simp] theorem applies_mk_threshold (threshold : Threshold) (event : Event) :
    ({ threshold } : Rule).applies event = true := rfl

/-- Whether a rule gives way to a later one that applies as well: one with a longer origin, or with
the same and a detail that does not come first by name. Any detail comes after none. -/
def yieldsTo (rule later : Rule) : Bool :=
  let length (rule : Rule) := (rule.origin.getD "").length
  length rule < length later ||
    length rule == length later && rule.detail.getD "" ≤ later.detail.getD ""

/-- The condition that a field in braces writes: the name of a detail, or an equals sign and what to
compare its value with. Only spans are asked for values. -/
def ofField? (field : List Char) : Option Rule :=
  let detail := some (String.ofList (field.takeWhile (· != '=')))
  match field.dropWhile (· != '=') with
  | [] => if field.isEmpty then none else some { detail }
  | _ :: value =>
      if Pattern.isValue (value.takeWhile (· != '=')) then some { detail, needsSpan := true }
      else none

/-- The conditions that stand after an opening bracket, and what follows the closing one. A piece
between two ends of the text is cut out by the function given. -/
def ofBracket? (piece : List Char → List Char → Option (List Char)) (text : List Char) :
    Option (Rule × List Char) := do
  let spanEnd := text.dropWhile fun c => c != ']' && c != '{'
  let hasSpan := !(← piece text spanEnd).isEmpty
  match spanEnd with
  | ']' :: rest => some ({ needsSpan := true }, rest)
  | '{' :: inner =>
      let fieldEnd := inner.dropWhile (· != '}')
      let rule ← ofField? (← piece inner fieldEnd)
      match fieldEnd with
      | '}' :: ']' :: rest => some ({ rule with needsSpan := rule.needsSpan || hasSpan }, rest)
      | _ => none
  | _ => none

/-- What a rule may begin with, white space aside. -/
def startsRule (c : Char) : Bool :=
  c == '[' || c == '-' || c == ':' || c == '_' || Text.isAlphanumeric c

/-- The rule that a part of a filter writes. It is divided up without the white space at its ends,
but each piece is taken from the whole part at the place that the piece has in the rest. White space
in front so moves all pieces forward; a piece that then begins or ends inside a character is not
there. -/
def ofText? (part : List Char) : Option Rule := do
  let text := Text.trim part
  let place (rest : List Char) := Text.byteSize text - Text.byteSize rest
  let piece (first second : List Char) := Text.between? (place first) (place second) part
  if !text.head?.any startsRule then none
  else match text.dropWhile fun c => c != '=' && c != '[' with
    | [] =>
        match Threshold.ofWord? part with
        | some threshold => some { threshold }
        | none => some { origin := some (String.ofList part) }
    | nameEnd => do
        let name ← piece text nameEnd
        let (conditions, rest) ← match nameEnd with
          | '[' :: inner => ofBracket? piece inner
          | _ => some ({}, nameEnd)
        let rule : Rule :=
          if name.isEmpty then conditions
          else { conditions with origin := some (String.ofList name) }
        match rest with
        | [] => some rule
        | '=' :: ending =>
            let (_, ending) ← Text.splitAtByte? (place ending) part
            let threshold ← Threshold.ofEnding? ending
            some { rule with threshold }
        | _ => none

end Rule

/-- Rules, of which later ones replace equally specific earlier ones. -/
structure Filter where
  rules : List Rule
deriving DecidableEq, Repr

namespace Filter

/-- The filter that shows all events up to a level. -/
def upTo (greatest : Level) : Filter :=
  ⟨[{ threshold := .upTo greatest }]⟩

/-- The one of two rules that counts, if there is a first one. -/
def prefer (best : Option Rule) (rule : Rule) : Option Rule :=
  match best with
  | none => some rule
  | some best => if best.yieldsTo rule then some rule else some best

/-- The rule that counts for an event. -/
def rule? (filter : Filter) (event : Event) : Option Rule :=
  (filter.rules.filter (·.applies event)).foldl prefer none

def shows (filter : Filter) (event : Event) : Bool :=
  (filter.rule? event).any fun rule => rule.threshold.shows event.level

/-- The filter that a text writes. Parts without any text are passed over; if there are no others,
errors are shown. -/
def ofText? (text : String) : Option Filter :=
  match ((text.splitOn ",").filter (· != "")).mapM fun part => Rule.ofText? part.toList with
  | none => none
  | some [] => some (upTo .error)
  | some rules => some ⟨rules⟩

@[simp] theorem shows_upTo (greatest : Level) (event : Event) :
    (upTo greatest).shows event = decide (event.level.rank ≤ greatest.rank) := rfl

theorem foldl_prefer_mem {rules : List Rule} {best : Option Rule} {rule : Rule}
    (chosen : rules.foldl prefer best = some rule) : rule ∈ rules ∨ best = some rule := by
  induction rules generalizing best with
  | nil => exact .inr chosen
  | cons first rules ih =>
      rcases ih chosen with later | now
      · exact .inl (List.mem_cons_of_mem first later)
      · unfold prefer at now
        split at now
        next => cases now; exact .inl List.mem_cons_self
        next =>
          split at now
          next => cases now; exact .inl List.mem_cons_self
          next => exact .inr now

/-- The rule that counts is one of the filter's that apply. -/
theorem mem_and_applies_of_rule? {filter : Filter} {event : Event} {rule : Rule}
    (counts : filter.rule? event = some rule) :
    rule ∈ filter.rules ∧ rule.applies event = true := by
  rcases foldl_prefer_mem counts with found | absurd
  · exact List.mem_filter.mp found
  · cases absurd

end Filter

end TypeProfile.Journal
