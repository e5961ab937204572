/-!
# Text in colour

Terminals take the look of a text from escape sequences around it. Where colour is off a text
is left alone.
-/

namespace TypeProfile.Text

inductive Style
  | bold
  | dimmed
  | italic
  | red
  | green
  | yellow
  | blue
  | magenta
deriving DecidableEq, Repr

namespace Style

/-- The number of a style in an escape sequence. -/
def code : Style → String
  | bold => "1"
  | dimmed => "2"
  | italic => "3"
  | red => "31"
  | green => "32"
  | yellow => "33"
  | blue => "34"
  | magenta => "35"

/-- A text in a style, if there is colour. -/
def paint (style : Style) (coloured : Bool) (text : String) : String :=
  if coloured then "\x1b[" ++ style.code ++ "m" ++ text ++ "\x1b[0m" else text

@[simp] theorem paint_false (style : Style) (text : String) : style.paint false text = text := rfl

end Style

end TypeProfile.Text
