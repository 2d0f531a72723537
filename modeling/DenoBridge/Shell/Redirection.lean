import DenoBridge.Shell.State

/-! # Redirections

    A redirection leads a stream to a file, to another stream or to a text, or
    closes it.  Main statement: a stream that is led somewhere leads there, and
    no other stream is touched (`channel?_lead`, `channel?_lead_of_ne`).
-/

namespace DenoBridge.Shell

/-! ## Section 1: Streams -/

namespace State

theorem channel?_lead (s : State) (stream : Nat) (channel : Channel) :
    (s.lead stream (some channel)).channel? stream = some channel := by
  simp [channel?, lead]

theorem channel?_closed (s : State) (stream : Nat) :
    (s.lead stream none).channel? stream = none := by
  simp only [channel?, lead, List.lookup_eq_none_iff]
  intro entry hentry
  have hother : entry.1 ≠ stream := by
    simp only [Option.map_none, Option.toList_none, List.nil_append, List.mem_filter] at hentry
    simpa using hentry.2
  simpa using Ne.symm hother

theorem channel?_lead_of_ne (s : State) (stream other : Nat) (channel : Option Channel)
    (h : other ≠ stream) : (s.lead stream channel).channel? other = s.channel? other := by
  have hfilter : ∀ streams : Streams,
      (streams.filter (·.1 ≠ stream)).lookup other = streams.lookup other := by
    intro streams
    induction streams with
    | nil => rfl
    | cons entry rest ih =>
      obtain ⟨number, found⟩ := entry
      by_cases hnumber : number = stream
      · have hother : (other == stream) = false := by simpa using h
        simpa [List.lookup_cons, hnumber, hother] using ih
      · simp only [ne_eq, hnumber, not_false_eq_true, decide_true, List.filter_cons_of_pos,
          List.lookup_cons]
        split
        · rfl
        · exact ih
  have hother : (other == stream) = false := by simpa using h
  cases channel with
  | none => exact hfilter s.streams
  | some found =>
    simp only [channel?, lead, Option.map_some, Option.toList_some, List.singleton_append,
      List.lookup_cons, hother]
    exact hfilter s.streams

end State

/-! ## Section 2: Files -/

/-- The stream that the path of a device stands for. -/
def deviceStream? (path : List Char) : Option Nat :=
  match String.ofList path with
  | "/dev/stdin" => some 0
  | "/dev/stdout" => some 1
  | "/dev/stderr" => some 2
  | text =>
    let number := path.drop "/dev/fd/".length
    if text.startsWith "/dev/fd/" && !number.isEmpty && number.all Char.isDigit then
      some (Digits.value number)
    else none

/-- Does the direction need something to be there? -/
def Direction.reads (direction : Direction) : Bool :=
  direction = .input

/-- What its owner must be permitted to do with a device that is opened in the
    direction. -/
def Direction.ownerBits : Direction → Nat
  | .input => FileSystem.ownerReadBit
  | .update => FileSystem.ownerReadBit + FileSystem.ownerWriteBit
  | _ => FileSystem.ownerWriteBit

/-- Why a target cannot be opened. -/
def openComplaint (direction : Direction) (path : List Char) (cause : Errno) : List Char :=
  let verb := if direction.reads then "open" else "create"
  let reason :=
    match cause with
    | .noEntry | .notDirectory =>
      if direction.reads then "No such file" else "Directory nonexistent"
    | cause => cause.message
  "cannot ".toList ++ verb.toList ++ ' ' :: path ++ ": ".toList ++ reason.toList

/-- Opens the file at a place, with what stands there. -/
def openAt (s : State) (direction : Direction) (place : Place) :
    Option Node → Except Errno (Channel × State)
  | some .directory => if direction.reads then .ok (.nowhere, s) else .error .isDirectory
  | some (.file mode _) =>
    match direction with
    | .create =>
      if s.options.keepsFiles then .error .exists
      else .ok (emptied mode)
    | .overwrite => .ok (emptied mode)
    | .append => .ok (s.openFile place true)
    | _ => .ok (s.openFile place false)
  | some (.sink mode) =>
    if mode &&& direction.ownerBits = direction.ownerBits then .ok (.nowhere, s)
    else .error .accessDenied
  | some _ => .ok (.nowhere, s)
  | none =>
    if direction.reads then .error .noEntry
    else
      let made : State :=
        { s with files := s.files.put place (.file s.newMode []) }
      .ok (made.openFile place (decide (direction = Direction.append)))
where
  /-- The file without its content. -/
  emptied (mode : Nat) : Channel × State :=
    { s with files := s.files.put place (.file mode []) }.openFile place false

/-- Opens the target of a redirection; an error says why it is not opened. -/
def openTarget (s : State) (direction : Direction) (path : List Char) :
    Except (List Char) (Channel × State) :=
  match (deviceStream? path).map s.channel? with
  | some (some channel) => .ok (channel, s)
  | some none => .error (openComplaint direction path .noEntry)
  | none =>
    let asksForDirectory := !direction.reads && path.getLast? = some '/'
    let place := s.files.locate s.directory (toName (dropSlashes path)) true
    match place with
    | .error cause => .error (openComplaint direction path cause)
    | .ok place =>
      let opened :=
        if asksForDirectory then .error .isDirectory
        else openAt s direction place (s.files.get? place)
      match opened with
      | .error cause => .error (openComplaint direction path cause)
      | .ok opened => .ok opened
where
  /-- The path without slashes at its end, if a file is made there. -/
  dropSlashes (path : List Char) : List Char :=
    if direction.reads then path
    else
      match Text.dropTail (· == '/') path with
      | [] => path
      | shorter => shorter

/-! ## Section 3: Redirections -/

/-- A redirection whose target is known. -/
inductive Opening where
  | target (stream : Nat) (direction : Direction) (text : List Char)
  | document (stream : Nat) (word : Word)

/-- Leads a stream to a text. -/
def leadToText (stream : Nat) (text : List Char) : Act Unit :=
  modify fun s =>
    let (channel, s) := s.openPipe (toBytes text)
    s.lead stream (some channel)

/-- Leads a stream to a target.  `speaker` stands before a message. -/
def leadTo (line : Nat) (speaker : List Char) (stream : Nat) (direction : Direction)
    (text : List Char) : Act Unit := do
  let s ← get
  if direction = .duplicate then
    if text = ['-'] then set (s.lead stream none)
    else if Digits.value text ≠ stream then
      match s.channel? (Digits.value text) with
      | some channel => set (s.lead stream (some channel))
      | none => fail line (speaker ++ text ++ ": Bad file descriptor".toList)
  else
    match openTarget s direction text with
    | .ok (channel, s) => set (s.lead stream (some channel))
    | .error complaint => fail line (speaker ++ complaint)

end DenoBridge.Shell
