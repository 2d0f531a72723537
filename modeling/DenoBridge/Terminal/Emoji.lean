import DenoBridge.Terminal.EmojiNames
import DenoBridge.Text.Blank
import DenoBridge.Text.LowerCase

/-! # Emoji by name

    A name between two colons stands for an emoji.  The name may end in a
    hyphen and the form that is wanted; its case does not count.  A name that
    nobody knows stays as it is, with both of its colons.
-/

namespace DenoBridge.Terminal.Emoji

/-- The forms that can be asked for, with the selectors that ask for them. -/
def forms : List (String × Char) :=
  [("-emoji", '\ufe0f'), ("-text", '\ufe0e')]

/-- A code without the form that is wanted, and the selector of that form. -/
def splitForm (code : List Char) : List Char × List Char :=
  match forms.find? fun form => form.1.toList.isSuffixOf code with
  | some (suffix, selector) => (code.take (code.length - suffix.length), [selector])
  | none => (code, [])

/-- The text that a code stands for, if it is known. -/
def find? (code : List Char) : Option (List Char) :=
  let (name, selector) := splitForm code
  (emojiNames.lookup (String.ofList (Text.lower name))).map fun text => text.toList ++ selector

/-- The text with `code`, which followed a colon and ended in one, replaced
    when it is known. -/
def expand (code : List Char) : List Char :=
  (find? code).getD (':' :: code ++ [':'])

/-- The rest of a text with its emoji.  After a colon `pending` holds the
    characters that may become a code. -/
def replaceAfter : Option (List Char) → List Char → List Char
  | none, [] => []
  | none, ':' :: rest => replaceAfter (some []) rest
  | none, c :: rest => c :: replaceAfter none rest
  | some pending, [] => ':' :: pending
  | some pending, c :: rest =>
    if c = ':' then expand pending ++ replaceAfter none rest
    else if Text.isBlank c then ':' :: pending ++ c :: replaceAfter none rest
    else replaceAfter (some (pending ++ [c])) rest

/-- A text with the emoji that its codes stand for. -/
def replace (text : List Char) : List Char :=
  replaceAfter none text

end DenoBridge.Terminal.Emoji
