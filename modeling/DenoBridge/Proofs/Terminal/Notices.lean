import DenoBridge.Notice
import DenoBridge.Proofs.Text.Split

/-! # Notices on a screen

    A notice whose message has no tabs, line feeds or characters that are never
    shown is one line: its sign, if signs are wanted, and the message, in the
    colour of the notice (`Notice.display_eq_line`).  A screen without columns
    shows no notice at all (`Notice.display_eq_empty`).
-/

namespace DenoBridge

open Terminal

namespace Terminal

variable {text more : List Char} {style : Style} {count : Nat}

/-! ## Section 1: Texts of one line -/

/-- A screen shows the text as it is, in one line. -/
def IsOneLine (text : List Char) : Prop :=
  '\n' ∉ text ∧ '\t' ∉ text ∧ ∀ c ∈ text, isDropped c = false

theorem isOneLine_append_iff : IsOneLine (text ++ more) ↔ IsOneLine text ∧ IsOneLine more := by
  simp only [IsOneLine, List.mem_append, not_or, or_imp, forall_and]
  constructor
  · intro h
    exact ⟨⟨h.1.1, h.2.1.1, h.2.2.1⟩, h.1.2, h.2.1.2, h.2.2.2⟩
  · intro h
    exact ⟨⟨h.1.1, h.2.1⟩, ⟨h.1.2.1, h.2.2.1⟩, h.1.2.2, h.2.2.2⟩

theorem IsOneLine.shown_eq (h : IsOneLine text) : shown text = text := by
  unfold shown
  rw [List.filter_eq_self]
  intro c hc
  simp [h.2.2 c hc]

namespace StyledText

theorem cut_ofText (h : text.length ≤ count) :
    (ofText text style).cut count = (ofText text style, []) := by
  unfold ofText cut
  rw [if_pos h]
  rfl

theorem plain_ofText (text : List Char) (style : Style) : (ofText text style).plain = text :=
  List.append_nil text

theorem lines_ofText (h : '\n' ∉ text) :
    (ofText text style).lines = [ofText text style] := by
  unfold lines
  rw [plain_ofText, Text.pieces_of_not_mem h]
  show [(((ofText text style).cut (text.length + 1)).1.cut text.length).1] = _
  rw [cut_ofText (Nat.le_succ _), cut_ofText (Nat.le_refl _)]

theorem expandTabs_ofText (h : '\t' ∉ text) :
    (ofText text style).expandTabs = ofText text style := by
  unfold expandTabs
  rw [plain_ofText, Text.pieces_of_not_mem h]
  rfl

theorem display_ofText (text : List Char) (style : Style) (depth : Option Depth) :
    (ofText text style).display depth = style.wrap depth (String.ofList text) := by
  simp [ofText, display, String.join]

end StyledText

end Terminal

/-! ## Section 2: Notices -/

namespace Notice

variable {screen : Screen} {message : String}

/-- What a notice says: its message, behind its sign if signs are wanted. -/
def text (notice : Notice) (emoji : Bool) (message : String) : String :=
  if emoji then notice.sign ++ message else message

/-- A notice as a line of a screen. -/
def line (notice : Notice) (screen : Screen) (emoji : Bool) (message : String) : String :=
  notice.style.wrap screen.depth (notice.text emoji message) ++ "\n"

theorem isOneLine_sign (notice : Notice) : IsOneLine notice.sign.toList := by
  cases notice with
  | info => exact ⟨by decide, by decide, by decide⟩
  | success => exact ⟨by decide, by decide, by decide⟩
  | warning => exact ⟨by decide, by decide, by decide⟩
  | failure => exact ⟨by decide, by decide, by decide⟩

theorem isOneLine_text (h : IsOneLine message.toList) (notice : Notice) (emoji : Bool) :
    IsOneLine (notice.text emoji message).toList := by
  cases emoji with
  | false => exact h
  | true =>
    show IsOneLine (notice.sign ++ message).toList
    rw [String.toList_append, isOneLine_append_iff]
    exact ⟨notice.isOneLine_sign, h⟩

theorem lines_eq (h : IsOneLine message.toList) (notice : Notice) (emoji : Bool) :
    notice.lines emoji message =
      [StyledText.ofText (notice.text emoji message).toList notice.style] := by
  have htext := isOneLine_text h notice emoji
  unfold lines
  show (StyledText.ofText (shown (notice.text emoji message).toList) notice.style).lines.map _ = _
  rw [htext.shown_eq, StyledText.lines_ofText htext.1, List.map_singleton,
    StyledText.expandTabs_ofText htext.2.1]

theorem display_eq_line (h : IsOneLine message.toList) (hcolumns : screen.columns ≠ 0)
    (hcoloured : screen.colourless = false) (notice : Notice) (emoji : Bool) :
    notice.display screen emoji message = notice.line screen emoji message := by
  unfold display Screen.display line
  rw [if_neg hcolumns, hcoloured, lines_eq h]
  simp [displayLines, StyledText.display_ofText, String.join]

theorem display_eq_empty (hcolumns : screen.columns = 0) (notice : Notice) (emoji : Bool)
    (message : String) : notice.display screen emoji message = "" :=
  if_pos hcolumns

end Notice

end DenoBridge
