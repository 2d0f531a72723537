import Mathlib.Logic.Relation
import DenoBridge.Proofs.Path.Descent

/-! # Respelling a path

    One path has many spellings.  Behind the first character that is no slash,
    a slash too many, a single dot and a name with a `..` after it add nothing;
    neither does a slash at the end, nor what leads back to where the text
    starts (`Respells`).

    Main statement: two texts have the same normal form exactly when such steps
    lead from one to the other (`spelled_eq_iff`).  Every step keeps the normal
    form (`Respells.spelled_eq`), and the steps lead from any text to one long
    spelling of its normal form (`respelled_long`).
-/

namespace DenoBridge

namespace Path

/-! ## Section 1: Respelling a text -/

/-- The text goes on behind its leading slashes. -/
def GoesOn (text : List Char) : Prop :=
  ∃ c ∈ text, c ≠ '/'

/-- One redundant part of a text is left out, or written another way. -/
inductive Respells : List Char → List Char → Prop where
  | slash {front : List Char} (rest : List Char) : GoesOn front →
      Respells (front ++ '/' :: '/' :: rest) (front ++ '/' :: rest)
  | dot {front : List Char} (rest : List Char) : GoesOn front →
      Respells (front ++ '/' :: '.' :: '/' :: rest) (front ++ '/' :: rest)
  | climb {front : List Char} {name : String} (rest : List Char) : GoesOn front → IsOrdinary name →
      Respells (front ++ '/' :: (name.toList ++ '/' :: '.' :: '.' :: '/' :: rest))
        (front ++ '/' :: rest)
  | trailing {front : List Char} : GoesOn front → Respells (front ++ ['/']) front
  /-- The letter of a drive may stand in either case. -/
  | drive {text : List Char} : Respells text (raiseDrive text)
  /-- Three leading slashes, or more, are one. -/
  | leading {n : Nat} {text : List Char} : text.head? ≠ some '/' →
      Respells (List.replicate (n + 3) '/' ++ text) ('/' :: text)
  /-- A path may start with a dot, unless this would hide the letter of a drive. -/
  | start {anchor : Anchor} {text : List Char} : text.head? ≠ some '/' →
      (anchor = .relative → text ≠ [] ∧ raiseDrive text = text) →
      Respells (anchor.text.toList ++ '.' :: '/' :: text) (anchor.text.toList ++ text)
  /-- The place above a root is the root. -/
  | top {anchor : Anchor} {text : List Char} : anchor ≠ .relative →
      Respells (anchor.text.toList ++ '.' :: '.' :: '/' :: text)
        (anchor.text.toList ++ '.' :: '/' :: text)

/-- Steps in either direction lead from one text to the other. -/
def Respelled : List Char → List Char → Prop :=
  Relation.EqvGen Respells

/-- The path that a text spells, in normal form. -/
def spelled (text : List Char) : Path :=
  (ofChars (raiseDrive text)).collapse

variable {anchor : Anchor} {front rest text a b : List Char} {stack : List String} {name : String}

/-! ## Section 2: A step keeps the normal form -/

theorem namesOf_dot (rest : List Char) : namesOf ('.' :: '/' :: rest) = namesOf rest :=
  namesOf_append ['.'] rest

theorem namesOf_dotDot (rest : List Char) :
    namesOf ('.' :: '.' :: '/' :: rest) = ".." :: namesOf rest :=
  namesOf_append ['.', '.'] rest

theorem namesOf_climb (h : IsOrdinary name) (rest : List Char) :
    namesOf (name.toList ++ '/' :: '.' :: '.' :: '/' :: rest) = name :: ".." :: namesOf rest := by
  rw [namesOf_append, namesOf_of_isName h.isName, namesOf_dotDot]
  rfl

theorem namesOf_leading (n : Nat) (text : List Char) :
    namesOf (List.replicate n '/' ++ text) = namesOf text := by
  induction n with
  | zero => rfl
  | succ n ih => rw [List.replicate_succ, List.cons_append, namesOf_slash, ih]

/-- Where a text goes on, its leading slashes end there. -/
theorem anchorOf_append (h : GoesOn front) (rest : List Char) :
    anchorOf (front ++ rest) = anchorOf front := by
  have hlead : (front ++ rest).takeWhile (· == '/') = front.takeWhile (· == '/') := by
    obtain ⟨c, hc, hslash⟩ := h
    induction front with
    | nil => cases hc
    | cons d more ih =>
      by_cases hd : d = '/'
      · subst hd
        have hmore : c ∈ more := List.mem_of_ne_of_mem hslash hc
        simp [ih hmore]
      · simp [hd]
  rw [anchorOf, hlead, anchorOf]

theorem anchorOf_leading (n : Nat) (h : text.head? ≠ some '/') :
    anchorOf (List.replicate n '/' ++ text) = .ofSlashes n := by
  have hslashes : ∀ c ∈ List.replicate n '/', c = '/' := fun c hc => List.eq_of_mem_replicate hc
  rw [anchorOf, (takeWhile_slashes hslashes h).1, List.length_replicate]

theorem GoesOn.raise (h : GoesOn front) : GoesOn (raiseDrive front) := by
  rcases raiseDrive_eq front with hkept | ⟨letter, more, -, -, hraised⟩
  · rw [hkept]
    exact h
  · rw [hraised]
    exact ⟨':', by simp, by decide⟩

@[simp]
theorem raiseDrive_raiseDrive (text : List Char) :
    raiseDrive (raiseDrive text) = raiseDrive text := by
  rcases raiseDrive_eq text with hkept | ⟨letter, more, hletter, -, hraised⟩
  · rw [hkept, hkept]
  · have hupper : isLowerLetter letter.toUpper = false :=
      lowerLetter_cases (P := fun c => isLowerLetter c.toUpper = false) (by decide) hletter
    rw [hraised]
    simp [raiseDrive, hupper]

theorem raiseDrive_anchor (h : anchor = .relative → raiseDrive text = text) :
    raiseDrive (anchor.text.toList ++ text) = anchor.text.toList ++ text := by
  cases anchor with
  | relative => exact h rfl
  | root => exact raiseDrive_slash text
  | doubleRoot => exact raiseDrive_slash ('/' :: text)

/-- What stands behind a slash only adds its names. -/
theorem spelled_append (h : GoesOn front) (rest : List Char) :
    spelled (front ++ '/' :: rest) = collapse ⟨anchorOf (raiseDrive front),
      namesOf (raiseDrive front) ++ namesOf rest⟩ := by
  rw [spelled, ofChars, raiseDrive_append_slash, anchorOf_append h.raise, namesOf_append]

theorem spelled_anchor (hdrive : anchor = .relative → raiseDrive text = text)
    (h : text.head? ≠ some '/') :
    spelled (anchor.text.toList ++ text) = collapse ⟨anchor, namesOf text⟩ := by
  rw [spelled, raiseDrive_anchor hdrive, ofChars, anchorOf_text anchor h, namesOf_anchor]

/-- A climb takes the ordinary name in front of it away, whatever stands
    further to the front. -/
theorem collapse_climb (anchor : Anchor) (before after : List String) (h : name ≠ "..") :
    collapse ⟨anchor, before ++ name :: ".." :: after⟩ = collapse ⟨anchor, before ++ after⟩ := by
  have hclimb (stack : List String) : push anchor (push anchor stack name) ".." = stack := by
    simp [push, h]
  simp only [collapse, List.foldl_append, List.foldl_cons, hclimb]

theorem collapse_top (hanchor : anchor ≠ .relative) (names : List String) :
    collapse ⟨anchor, ".." :: names⟩ = collapse ⟨anchor, names⟩ := by
  have htop : push anchor [] ".." = [] := by
    simp [push, hanchor]
  simp only [collapse, List.foldl_cons, htop]

theorem Respells.spelled_eq (h : Respells a b) : spelled a = spelled b := by
  cases h with
  | slash rest hfront => rw [spelled_append hfront, spelled_append hfront, namesOf_slash]
  | dot rest hfront => rw [spelled_append hfront, spelled_append hfront, namesOf_dot]
  | climb rest hfront hname =>
    rw [spelled_append hfront, spelled_append hfront, namesOf_climb hname]
    exact collapse_climb _ _ _ hname.ne_dotDot
  | trailing hfront =>
    have hnone : namesOf [] = [] := rfl
    rw [spelled_append hfront, hnone, List.append_nil]
    rfl
  | drive => rw [spelled, spelled, raiseDrive_raiseDrive]
  | @leading n text htext =>
    have hraised : raiseDrive (List.replicate (n + 3) '/' ++ text) =
        List.replicate (n + 3) '/' ++ text := by
      rw [List.replicate_succ, List.cons_append, raiseDrive_slash]
    rw [spelled, ofChars, hraised, anchorOf_leading _ htext, namesOf_leading]
    exact (@spelled_anchor .root text (by simp) htext).symm
  | start htext hstart =>
    rw [spelled_anchor (fun hrel => (hstart hrel).2) htext, spelled_anchor _ (by simp), namesOf_dot]
    exact fun _ => raiseDrive_append_slash ['.'] _
  | top hanchor =>
    rw [spelled_anchor (fun hrel => absurd hrel hanchor) (by simp),
      spelled_anchor (fun hrel => absurd hrel hanchor) (by simp), namesOf_dotDot, namesOf_dot]
    exact collapse_top hanchor _

theorem Respells.respelled (h : Respells a b) : Respelled a b :=
  .rel _ _ h

theorem Respelled.symm (h : Respelled a b) : Respelled b a :=
  Relation.EqvGen.symm _ _ h

theorem Respelled.trans {c : List Char} (h : Respelled a b) (hnext : Respelled b c) :
    Respelled a c :=
  Relation.EqvGen.trans _ _ _ h hnext

theorem Respelled.spelled_eq (h : Respelled a b) : spelled a = spelled b := by
  induction h with
  | rel _ _ hstep => exact hstep.spelled_eq
  | refl _ => rfl
  | symm _ _ _ ih => exact ih.symm
  | trans _ _ _ _ _ ihfirst ihsecond => exact ihfirst.trans ihsecond

/-! ## Section 3: The long spelling -/

/-- A spelling that starts with a dot and ends each name with a slash, so that
    names can be put behind it as they come. -/
def long (path : Path) : List Char :=
  path.anchor.text.toList ++ '.' :: '/' :: path.names.flatMap fun name => name.toList ++ ['/']

theorem long_concat (anchor : Anchor) (names : List String) (name : String) :
    long ⟨anchor, names ++ [name]⟩ = long ⟨anchor, names⟩ ++ (name.toList ++ ['/']) := by
  simp [long]

/-- Whatever follows a long spelling stands behind a slash. -/
theorem exists_front_of_long (path : Path) :
    ∃ front, GoesOn front ∧ path.long = front ++ ['/'] := by
  obtain ⟨anchor, names⟩ := path
  rcases List.eq_nil_or_concat names with rfl | ⟨before, last, rfl⟩
  · refine ⟨anchor.text.toList ++ ['.'], ⟨'.', by simp, by decide⟩, ?_⟩
    simp [long]
  · refine ⟨long ⟨anchor, before⟩ ++ last.toList, ⟨'.', by simp [long], by decide⟩, ?_⟩
    rw [List.concat_eq_append, long_concat, List.append_assoc]

/-- Behind a long spelling, one more name and a slash have the effect of one
    push. -/
theorem respelled_push (hstack : ∀ above ∈ stack, IsName above) (hname : IsName name)
    (rest : List Char) :
    Respelled (long ⟨anchor, stack.reverse⟩ ++ (name.toList ++ '/' :: rest))
      (long ⟨anchor, (push anchor stack name).reverse⟩ ++ rest) := by
  have hadd : long ⟨anchor, stack.reverse⟩ ++ (name.toList ++ '/' :: rest) =
      long ⟨anchor, (name :: stack).reverse⟩ ++ rest := by
    rw [List.reverse_cons, long_concat]
    simp
  by_cases hup : name = ".."
  · subst hup
    cases stack with
    | nil =>
      by_cases hrel : anchor = .relative
      · have hpush : push anchor [] ".." = [".."] := by simp [push, hrel]
        rw [hadd, hpush]
        exact .refl _
      · -- Below a root the leading dot goes, then the climb turns into it.
        have hpush : push anchor [] ".." = [] := by simp [push, hrel]
        have hstart : Respells (anchor.text.toList ++ '.' :: '/' :: '.' :: '.' :: '/' :: rest)
            (anchor.text.toList ++ '.' :: '.' :: '/' :: rest) :=
          .start (by simp) fun h => absurd h hrel
        have htop : Respells (anchor.text.toList ++ '.' :: '.' :: '/' :: rest)
            (anchor.text.toList ++ '.' :: '/' :: rest) := .top hrel
        rw [hpush]
        simpa [long] using hstart.respelled.trans htop.respelled
    | cons top below =>
      by_cases htop : top = ".."
      · have hpush : push anchor (top :: below) ".." = ".." :: top :: below := by
          simp [push, htop]
        rw [hadd, hpush]
        exact .refl _
      · have hpush : push anchor (top :: below) ".." = below := by simp [push, htop]
        obtain ⟨front, hfront, hlong⟩ := exists_front_of_long ⟨anchor, below.reverse⟩
        have hclimb := Respells.climb rest hfront ⟨hstack top (by simp), htop⟩
        rw [hpush, List.reverse_cons, long_concat, hlong]
        simpa using hclimb.respelled
  · rw [hadd, push_of_ne anchor stack hup]
    exact .refl _

theorem respelled_piece {piece : List Char} (hslash : '/' ∉ piece)
    (hstack : ∀ above ∈ stack, IsName above) (rest : List Char) :
    Respelled (long ⟨anchor, stack.reverse⟩ ++ (piece ++ '/' :: rest))
      (long ⟨anchor, ((namesOf piece).foldl (push anchor) stack).reverse⟩ ++ rest) := by
  obtain ⟨front, hfront, hlong⟩ := exists_front_of_long ⟨anchor, stack.reverse⟩
  have hnone : namesOf [] = [] ∧ namesOf ['.'] = [] := by decide
  by_cases hempty : piece = []
  · have hstep := Respells.slash rest hfront
    rw [hempty, hnone.1, List.foldl_nil, hlong]
    simpa using hstep.respelled
  by_cases hdot : piece = ['.']
  · have hstep := Respells.dot rest hfront
    rw [hdot, hnone.2, List.foldl_nil, hlong]
    simpa using hstep.respelled
  have hname : IsName (String.ofList piece) := by
    refine ⟨?_, ?_, by simpa using hslash⟩
    · simpa [String.ext_iff] using hempty
    · simpa [String.ext_iff] using hdot
  have hnames : namesOf piece = [String.ofList piece] := by
    simpa using namesOf_of_isName hname
  rw [hnames]
  simpa using respelled_push hstack hname rest

/-- Behind a long spelling, a text that is empty or ends in a slash has the
    effect of pushing all its names. -/
theorem respelled_pieces (pieces : List (List Char)) (hslash : ∀ piece ∈ pieces, '/' ∉ piece)
    (hstack : ∀ above ∈ stack, IsName above) :
    let text := pieces.flatMap fun piece => piece ++ ['/']
    Respelled (long ⟨anchor, stack.reverse⟩ ++ text)
      (long ⟨anchor, ((namesOf text).foldl (push anchor) stack).reverse⟩) := by
  -- The stack is what was read so far; one piece is read at a time.
  induction pieces generalizing stack with
  | nil =>
    have hnone : namesOf [] = [] := rfl
    simp only [List.flatMap_nil, List.append_nil, hnone, List.foldl_nil]
    exact .refl _
  | cons piece more ih =>
    intro text
    have hpiece : '/' ∉ piece := hslash piece (by simp)
    have hmore : ∀ other ∈ more, '/' ∉ other := fun other h => hslash other (by simp [h])
    have htext : text = piece ++ '/' :: more.flatMap fun piece => piece ++ ['/'] := by
      simp [text]
    have hnext : ∀ above ∈ (namesOf piece).foldl (push anchor) stack, IsName above := by
      intro above habove
      rcases mem_foldl_push _ habove with h | h
      · exact hstack above h
      · exact isName_of_mem_namesOf h
    rw [htext, namesOf_append, List.foldl_append]
    exact (respelled_piece hpiece hstack _).trans (ih hmore hnext)

/-- A text is its leading slashes and what follows them. -/
theorem exists_leading (text : List Char) :
    ∃ n rest, text = List.replicate n '/' ++ rest ∧ rest.head? ≠ some '/' := by
  induction text with
  | nil => exact ⟨0, [], rfl, by simp⟩
  | cons c rest ih =>
    by_cases hc : c = '/'
    · obtain ⟨n, after, hrest, hafter⟩ := ih
      exact ⟨n + 1, after, by rw [hc, hrest]; rfl, hafter⟩
    · exact ⟨0, c :: rest, rfl, by simpa using hc⟩

/-- The leading slashes of a text can be those of its anchor. -/
theorem respelled_anchor (n : Nat) (h : text.head? ≠ some '/') :
    Respelled (List.replicate n '/' ++ text) ((Anchor.ofSlashes n).text.toList ++ text) := by
  match n with
  | 0 => exact .refl _
  | 1 => exact .refl _
  | 2 => exact .refl _
  | n + 3 =>
    have hroot : Anchor.ofSlashes (n + 3) = .root := rfl
    rw [hroot]
    exact (Respells.leading h).respelled

theorem eq_zero_of_ofSlashes {n : Nat} (h : Anchor.ofSlashes n = .relative) : n = 0 := by
  match n with
  | 0 => rfl
  | 1 => cases h
  | 2 => cases h
  | n + 3 => cases h

theorem raiseDrive_ne_nil (h : text ≠ []) : raiseDrive text ≠ [] := by
  rcases raiseDrive_eq text with hkept | ⟨letter, more, -, -, hraised⟩
  · rw [hkept]
    exact h
  · rw [hraised]
    simp

/-- Steps lead from a text to the long spelling of its normal form. -/
theorem respelled_long (h : text ≠ []) : Respelled text (spelled text).long := by
  -- First the drive and the leading slashes, then a dot in front and a slash behind.
  obtain ⟨n, rest, htext, hrest⟩ := exists_leading (raiseDrive text)
  have hraised : Respelled text (List.replicate n '/' ++ rest) := by
    rw [← htext]
    exact Respells.drive.respelled
  have hstart : Anchor.ofSlashes n = .relative → rest ≠ [] ∧ raiseDrive rest = rest := by
    intro hrel
    obtain rfl : n = 0 := eq_zero_of_ofSlashes hrel
    obtain rfl : raiseDrive text = rest := htext
    exact ⟨raiseDrive_ne_nil h, raiseDrive_raiseDrive text⟩
  have hspelled : spelled text = collapse ⟨.ofSlashes n, namesOf (rest ++ ['/'])⟩ := by
    have hnone : namesOf [] = [] := rfl
    rw [spelled, ofChars, htext, anchorOf_leading n hrest, namesOf_leading, namesOf_append, hnone,
      List.append_nil]
  have hdot : Respelled ((Anchor.ofSlashes n).text.toList ++ '.' :: '/' :: rest)
      ((Anchor.ofSlashes n).text.toList ++ rest) := (Respells.start hrest hstart).respelled
  have hslash : Respelled ((Anchor.ofSlashes n).text.toList ++ '.' :: '/' :: rest ++ ['/'])
      ((Anchor.ofSlashes n).text.toList ++ '.' :: '/' :: rest) :=
    (Respells.trailing ⟨'.', by simp, by decide⟩).respelled
  -- What is then behind the dot is pushed piece by piece.
  have hpieces := @respelled_pieces (.ofSlashes n) [] (Text.pieces '/' rest)
    (Text.sep_not_mem_of_mem_pieces '/' rest) (by simp)
  have hlong : Respelled ((Anchor.ofSlashes n).text.toList ++ '.' :: '/' :: rest ++ ['/'])
      (spelled text).long := by
    rw [hspelled]
    simpa [Text.flatMap_pieces, long, collapse] using hpieces
  exact hraised.trans <| (respelled_anchor n hrest).trans <| hdot.symm.trans <|
    hslash.symm.trans hlong

/-- Two texts have the same normal form exactly when steps lead from one to the
    other. -/
theorem spelled_eq_iff (ha : a ≠ []) (hb : b ≠ []) : spelled a = spelled b ↔ Respelled a b := by
  constructor
  · intro h
    have hmeet : Respelled a (spelled b).long := h ▸ respelled_long ha
    exact hmeet.trans (respelled_long hb).symm
  · intro h
    exact h.spelled_eq

end Path

end DenoBridge
