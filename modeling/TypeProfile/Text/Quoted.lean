import TypeProfile.Text.Hex
import TypeProfile.Text.Printable

/-!
# Quoted text

A text between double quotes, on one line and without anything invisible in it: the quote and the
backslash get a backslash, four controls have a letter of their own, and what is not printable
is written as its code point.
-/

namespace TypeProfile.Text

/-- How a character is written between quotes. -/
def quoteChar (c : Char) : List Char :=
  match c with
  | '"' => ['\\', '"']
  | '\\' => ['\\', '\\']
  | '\t' => ['\\', 't']
  | '\r' => ['\\', 'r']
  | '\n' => ['\\', 'n']
  | '\x00' => ['\\', '0']
  | _ =>
      if isPrintable c then [c]
      else '\\' :: 'u' :: '\x7b' :: hexDigits c.toNat ++ ['\x7d']

def quote (text : String) : String :=
  String.ofList ('"' :: text.toList.flatMap quoteChar ++ ['"'])

end TypeProfile.Text
