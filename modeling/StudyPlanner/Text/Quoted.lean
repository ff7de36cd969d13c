import StudyPlanner.Text.Printable
import StudyPlanner.Text.Hex
/-!
# Quoted text in messages

Error messages show a text between double quotes, so that blanks, controls and invisible
characters can be seen. Inside the quotes

* the backslash and the double quote are preceded by a backslash;
* NUL, tab, carriage return and line feed are written `\0`, `\t`, `\r`, `\n`;
* a character that extends a grapheme, or is not printable, is written `\u{h}` with `h`
  its code point in lower-case hexadecimal without leading zeros;
* every other character, the apostrophe included, stands for itself.

`quote` is the only function; `escapeChar` gives one character's written form.
-/

namespace StudyPlanner.Text

/-- The lower-case hexadecimal digits of a number, without leading zeros. -/
def hexDigits (n : Nat) : List Char :=
  (Nat.toDigits 16 n)

/-- How one character is written inside quotes. -/
def escapeChar (c : Char) : List Char :=
  if c = '\x00' then ['\\', '0']
  else if c = '\t' then ['\\', 't']
  else if c = '\r' then ['\\', 'r']
  else if c = '\n' then ['\\', 'n']
  else if c = '\\' then ['\\', '\\']
  else if c = '"' then ['\\', '"']
  else if extendsGrapheme c || !isPrintable c then
    ['\\', 'u', '\x7b'] ++ hexDigits c.toNat ++ ['\x7d']
  else [c]

/-- A text between double quotes, with the characters that could not be seen escaped. -/
def quote (s : String) : String :=
  String.ofList ('"' :: s.toList.flatMap escapeChar ++ ['"'])

end StudyPlanner.Text
