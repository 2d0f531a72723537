import DenoBridge.Text.Glyph
import DenoBridge.Text.Printable

/-! # Quoted texts

    A text inside quotation marks, for messages: single quotes unless the
    text holds single quotes and no double ones.  The mark in use and the
    backslash are written with a backslash before them; tabs, line feeds and
    carriage returns by letter; everything else that cannot be shown by its
    code in two, four or eight hexadecimal digits.
-/

namespace DenoBridge.Text

/-- The last `width` hexadecimal digits of a number. -/
def hexDigits : Nat → Nat → List Char
  | 0, _ => []
  | width + 1, n => hexDigits width (n / 16) ++ [Nat.digitChar (n % 16)]

/-- A code as an escape of the shortest kind that holds it. -/
def escapeCode (code : Nat) : List Char :=
  if code ≤ 0xff then '\\' :: 'x' :: hexDigits 2 code
  else if code ≤ 0xffff then '\\' :: 'u' :: hexDigits 4 code
  else '\\' :: 'U' :: hexDigits 8 code

/-- One glyph between quotation marks of the given kind. -/
def quoteGlyph (mark : Char) : Glyph → List Char
  | .half code => escapeCode code
  | .char c =>
    if c = mark ∨ c = '\\' then ['\\', c]
    else if c = '\t' then ['\\', 't']
    else if c = '\n' then ['\\', 'n']
    else if c = '\r' then ['\\', 'r']
    else if isPrintable c then [c]
    else escapeCode c.toNat

/-- The quotation mark for a text. -/
def quoteMark (text : List Glyph) : Char :=
  if text.contains (.char '\'') && !text.contains (.char '"') then '"' else '\''

/-- The text between quotation marks. -/
def quoteGlyphs (text : List Glyph) : String :=
  let mark := quoteMark text
  String.ofList (mark :: text.flatMap (quoteGlyph mark) ++ [mark])

/-- The string between quotation marks. -/
def quote (text : String) : String :=
  quoteGlyphs (Glyph.ofString text)

end DenoBridge.Text
