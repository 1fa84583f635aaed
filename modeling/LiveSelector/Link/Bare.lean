import LiveSelector.Link.Basic
import LiveSelector.Text.Word

namespace LiveSelector.Link

/-!
Links without a label: URLs of pages and files, and paths that end in the extension of a page.
The scan goes through a line from left to right, takes the longest link at the first place where
one begins, and goes on behind it.
-/

/-- Characters that end a URL. -/
def endsUrl (c : Char) : Bool :=
  Text.isBlank c || c ∈ ['<', '>', '"', '\'', '\x60', ')']

def isPathChar (c : Char) : Bool :=
  Text.isWord c || c ∈ ['.', '/', '\\', ':', '~', '-']

/-- How a URL of a page or a file begins. -/
def urlStarts : List (List Char) :=
  ["http://".toList, "https://".toList, "file://".toList]

/-- The URL at the start of a text, one of whose beginnings is given. -/
def urlAfter? (start text : List Char) : Option (List Char) :=
  if start.isPrefixOf text then
    match (text.drop start.length).takeWhile fun c => !endsUrl c with
    | [] => none
    | rest => some (start ++ rest)
  else none

/-- The URL at the start of a text. -/
def urlHere? (text : List Char) : Option (List Char) :=
  urlStarts.findSome? fun start => urlAfter? start text

/-- Whether a text does not go on with a word character. -/
def endsWord : List Char → Bool
  | [] => true
  | c :: _ => !Text.isWord c

/-- The number of characters of a page's extension at the start of a text, the whole word. -/
def extensionHere? : List Char → Option Nat
  | '.' :: 'h' :: 't' :: 'm' :: 'l' :: rest => if endsWord rest then some 5 else none
  | '.' :: 'h' :: 't' :: 'm' :: rest => if endsWord rest then some 4 else none
  | _ => none

/-- The number of path characters at the start of a text up to the last page's extension that
only path characters precede. -/
def extensionReach? : List Char → Option Nat
  | [] => none
  | c :: rest =>
    if isPathChar c then
      match extensionReach? rest with
      | some length => some (length + 1)
      | none => extensionHere? (c :: rest)
    else none

/-- The path at the start of a text; something stands before its extension. -/
def pathHere? : List Char → Option (List Char)
  | [] => none
  | c :: rest =>
    if isPathChar c then (extensionReach? rest).map fun length => c :: rest.take length else none

/-- The link at the start of a text. -/
def bareHere? (text : List Char) : Option (List Char) :=
  match urlHere? text with
  | some url => some url
  | none => pathHere? text

/-- A link found in a line and what follows it there. -/
structure Found where
  chars : List Char
  after : List Char
  deriving DecidableEq

/-- The links in a line after some characters of it have been passed over. -/
def foundFrom : Nat → List Char → List Found
  | _, [] => []
  | skip + 1, _ :: rest => foundFrom skip rest
  | 0, c :: rest =>
    match bareHere? (c :: rest) with
    | some chars => ⟨chars, (c :: rest).drop chars.length⟩ :: foundFrom (chars.length - 1) rest
    | none => foundFrom 0 rest

/-- The reach of an extension at every place of a text and at its end. -/
def extensionReaches : List Char → List (Option Nat)
  | [] => [none]
  | c :: rest =>
    let behind := extensionReaches rest
    let here :=
      if isPathChar c then
        match behind.headD none with
        | some length => some (length + 1)
        | none => extensionHere? (c :: rest)
      else none
    here :: behind

theorem extensionReaches_headD (text : List Char) :
    (extensionReaches text).headD none = extensionReach? text := by
  induction text with
  | nil => rfl
  | cons c rest ih => simp only [extensionReaches, extensionReach?, List.headD_cons, ih]

/-- The links in a line after some characters of it have been passed over, the reaches at its
places being known. -/
def foundWith : Nat → List Char → List (Option Nat) → List Found
  | _, [], _ => []
  | skip + 1, _ :: rest, reaches => foundWith skip rest reaches.tail
  | 0, c :: rest, reaches =>
    let path :=
      if isPathChar c then (reaches.tail.headD none).map fun length => c :: rest.take length
      else none
    match (urlHere? (c :: rest)).or path with
    | some chars =>
      ⟨chars, (c :: rest).drop chars.length⟩ :: foundWith (chars.length - 1) rest reaches.tail
    | none => foundWith 0 rest reaches.tail

/-- Known reaches find the same links, and need only one pass for all places. -/
theorem foundWith_eq (skip : Nat) (text : List Char) :
    foundWith skip text (extensionReaches text) = foundFrom skip text := by
  induction text generalizing skip with
  | nil => cases skip <;> rfl
  | cons c rest ih =>
      have tail : (extensionReaches (c :: rest)).tail = extensionReaches rest := rfl
      cases skip with
      | succ skip => simp only [foundWith, foundFrom, tail, ih]
      | zero =>
          have path : (if isPathChar c then
              (extensionReach? rest).map fun length => c :: rest.take length else none) =
              pathHere? (c :: rest) := rfl
          have link :
              (urlHere? (c :: rest)).or (pathHere? (c :: rest)) = bareHere? (c :: rest) := by
            cases url : urlHere? (c :: rest) <;> simp [bareHere?, url]
          simp only [foundWith, foundFrom, tail, extensionReaches_headD, ih, path, link]

/-- Whether what follows a link makes it part of a selector. -/
def continuesSelector : List Char → Bool
  | c :: _ => c ∈ ['{', '[', '@', '|']
  | [] => false

/-- The links without a label in a line, those that are parts of selectors left out. -/
def bareLinks (line : List Char) : List Link :=
  ((foundWith 0 line (extensionReaches line)).filter fun found =>
    !continuesSelector found.after).map fun found => bare (.ofList found.chars)

theorem bareLinks_eq (line : List Char) :
    bareLinks line =
      ((foundFrom 0 line).filter fun found => !continuesSelector found.after).map
        fun found => bare (.ofList found.chars) := by
  rw [bareLinks, foundWith_eq]

end LiveSelector.Link
