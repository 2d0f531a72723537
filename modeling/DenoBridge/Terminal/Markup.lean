import DenoBridge.Terminal.Emoji
import DenoBridge.Terminal.Handler
import DenoBridge.Terminal.StyledText
import DenoBridge.Terminal.Theme

/-! # Markup

    Tags in square brackets give styles to the text that they enclose: an
    opening tag describes a style, a closing tag ends the innermost one or the
    one that it names.  Backslashes before a tag stand for half as many of
    them, and an odd one keeps the tag from being read.  Codes of emoji are
    read in the text between tags.
-/

namespace DenoBridge.Terminal.Markup

/-! ## Section 1: Tags -/

/-- A tag: its name, and what follows the first equals sign in it. -/
structure Tag where
  name : List Char
  argument : Option (List Char)
  deriving Repr, DecidableEq

/-- A tag as it is written. -/
def Tag.text (tag : Tag) : String :=
  match tag.argument with
  | none => s!"[{String.ofList tag.name}]"
  | some argument => s!"[{String.ofList tag.name}={String.ofList argument}]"

/-- The tag with the given text between its brackets. -/
def Tag.ofText (text : List Char) : Tag :=
  let (name, argument) := Text.cutAt (· == '=') text
  ⟨name, argument⟩

/-- Can a tag begin with the character? -/
def startsTag (c : Char) : Bool :=
  ('a' ≤ c && c ≤ 'z') || c == '#' || c == '/' || c == '@'

/-- The text of the tag that a bracket opens and what follows the tag. -/
def tagAfter? (rest : List Char) : Option (List Char × List Char) :=
  let (inside, after) := Text.cutAt (fun c => c == ']' || c == '[') rest
  match inside, after, rest[inside.length]? with
  | first :: _, some after, some ']' => if startsTag first then some (inside, after) else none
  | _, _, _ => none

theorem length_of_tagAfter? {rest inside after : List Char}
    (h : tagAfter? rest = some (inside, after)) : after.length < rest.length := by
  simp only [tagAfter?] at h
  split at h
  · split at h
    · rename_i hafter _ _
      simp only [Option.some.injEq, Prod.mk.injEq] at h
      exact Text.length_of_cutAt (hafter.trans (congrArg some h.2))
    · simp at h
  · simp at h

/-! ## Section 2: Tokens -/

/-- What a text in markup is made of. -/
inductive Token where
  | text (text : List Char)
  /-- A tag, with the position of its first character. -/
  | tag (position : Nat) (tag : Tag)
  deriving Repr, DecidableEq

/-- A text before other tokens, unless it is empty. -/
def textBefore (text : List Char) (rest : List Token) : List Token :=
  if text.isEmpty then rest else .text text :: rest

/-- The tokens of a text from a position on.  `before` is the text since the
    last token, and `slashes` counts the backslashes after that. -/
def tokensAfter (position : Nat) (before : List Char) (slashes : Nat) (text : List Char) :
    List Token :=
  match text with
  | [] => textBefore (before ++ List.replicate slashes '\\') []
  | '\\' :: rest => tokensAfter (position + 1) before (slashes + 1) rest
  | c :: rest =>
    match _h : if c = '[' then tagAfter? rest else none with
    | some (inside, after) =>
      let next := tokensAfter (position + inside.length + 2) [] 0 after
      let tag :=
        if slashes % 2 = 1 then .text ('[' :: inside ++ [']']) else .tag position (.ofText inside)
      textBefore before (textBefore (List.replicate (slashes / 2) '\\') (tag :: next))
    | none =>
      tokensAfter (position + 1) (before ++ List.replicate slashes '\\' ++ [c]) 0 rest
termination_by text.length
decreasing_by
  · simp
  · split at _h
    · have := length_of_tagAfter? _h
      simp only [List.length_cons]
      omega
    · simp at _h
  · simp

/-- The tokens of a text. -/
def tokens (text : List Char) : List Token :=
  tokensAfter 0 [] 0 text

/-! ## Section 3: Spans of styles -/

/-- Why a text is no markup. -/
inductive Fault where
  /-- A closing tag names no tag that is open. -/
  | unmatched (tag : Tag) (position : Nat)
  /-- A closing tag stands where no tag is open. -/
  | nothingOpen (position : Nat)
  /-- A colour's mixture cannot be read. -/
  | numeral (fault : Numeral.Fault)
  /-- A closing tag ends a handler that makes no sense. -/
  | handler (fault : Handler.Fault)
  deriving Repr, DecidableEq

/-- The wording of a fault. -/
def Fault.message : Fault → String
  | .unmatched tag position =>
    s!"closing tag '{tag.text}' at position {position} doesn't match any open tag"
  | .nothingOpen position => s!"closing tag '[/]' at position {position} has nothing to close"
  | .numeral fault => fault.message
  | .handler fault => fault.message

/-- A tag that is open since a position in the text. -/
structure OpenTag where
  start : Nat
  name : String
  argument : Option (List Char)
  deriving Repr, DecidableEq

/-- What was read so far. -/
structure Progress where
  text : List Char
  /-- The tags that are open, the innermost one first. -/
  openTags : List OpenTag
  /-- The spans of the tags that were closed, the last one first. -/
  spans : List StyledText.Span

/-- What a reader of styles found, as a fault of the markup if it failed. -/
def styleResult : Except Numeral.Fault α → Except Fault α
  | .ok a => .ok a
  | .error fault => .error (.numeral fault)

/-- Does the tag attach a handler?  Its name then begins with an at sign. -/
def OpenTag.isHandler (tag : OpenTag) : Bool :=
  tag.name.toList.head? = some '@'

/-- The style that a tag describes; there is none behind a name that makes no
    sense, and none of a handler. -/
def OpenTag.style (tag : OpenTag) : Except Fault Style :=
  if tag.isHandler then .ok .plain
  else
    let text :=
      match tag.argument with
      | none => tag.name.toList
      | some argument => tag.name.toList ++ ' ' :: argument
    match Theme.style? (String.ofList text) with
    | some style => .ok style
    | none => (styleResult (Style.read text)).map fun style => style.getD .plain

/-- The progress after a tag was closed here. -/
def Progress.close (s : Progress) (tag : OpenTag) (openTags : List OpenTag) :
    Except Fault Progress := do
  return { s with
    openTags := openTags
    spans := ⟨tag.start, s.text.length, ← tag.style⟩ :: s.spans }

/-- What is wrong with the handler that a tag attaches, if it attaches one. -/
def OpenTag.fault? (tag : OpenTag) : Option Fault :=
  match tag.isHandler, tag.argument with
  | true, some (c :: rest) => (Handler.fault? (c :: rest)).map .handler
  | _, _ => none

/-- The progress after a closing tag for a tag. -/
def Progress.closeWritten (s : Progress) (tag : OpenTag) (openTags : List OpenTag) :
    Except Fault Progress :=
  match tag.fault? with
  | some fault => .error fault
  | none => s.close tag openTags

/-- A backslash before a bracket is not shown. -/
def unescape : List Char → List Char
  | '\\' :: '[' :: rest => '[' :: unescape rest
  | c :: rest => c :: unescape rest
  | [] => []

/-- The progress after a closing tag with a name, or without one. -/
def Progress.closeNamed (s : Progress) (position : Nat) (tag : Tag) : Except Fault Progress :=
  match Text.trim (tag.name.drop 1) with
  | [] =>
    match s.openTags with
    | [] => .error (.nothingOpen position)
    | innermost :: others => s.closeWritten innermost others
  | name => do
    let name ← styleResult (Style.normalText name)
    match s.openTags.find? (·.name == name) with
    | none => .error (.unmatched tag position)
    | some found => s.closeWritten found (s.openTags.eraseP (·.name == name))

/-- The progress after a token. -/
def Progress.add (emoji : Bool) (s : Progress) : Token → Except Fault Progress
  | .text text =>
    let text := unescape text
    .ok { s with text := s.text ++ shown (if emoji then Emoji.replace text else text) }
  | .tag position tag =>
    if tag.name.head? = some '/' then s.closeNamed position tag
    else do
      let name ← styleResult (Style.normalText tag.name)
      return { s with openTags := ⟨s.text.length, name, tag.argument⟩ :: s.openTags }

/-- The progress after every open tag was closed. -/
def Progress.closeAll (s : Progress) : Except Fault Progress :=
  s.openTags.foldlM (fun s tag => s.close tag []) s

/-! ## Section 4: Styled texts -/

/-- The spans in the order in which they lie over each other: by their
    starts, and of two that start together the one that ends later is below. -/
def layers (s : Progress) : List StyledText.Span :=
  s.spans.mergeSort fun a b => a.start ≤ b.start

/-- The styled text that a text in markup writes. -/
def read (emoji : Bool) (text : List Char) : Except Fault StyledText := do
  let s ← (tokens text).foldlM (Progress.add emoji) ⟨[], [], []⟩
  let s ← s.closeAll
  return (StyledText.ofText s.text .plain).aboveSpans (layers s)

end DenoBridge.Terminal.Markup
