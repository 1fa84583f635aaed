import LiveSelector.Text.Pieces

namespace LiveSelector

/-!
File paths.  A path keeps its text as written; what it names is read off its components, which
pass over repeated slashes, a slash at the end and every dot that does not stand first.
-/

/-- A path, as written. -/
structure FilePath where
  chars : List Char
  deriving DecidableEq

/-- One step of a path. -/
inductive Component where
  | root
  | current
  | up
  | name (chars : List Char)
  deriving DecidableEq

namespace FilePath

def ofText (text : String) : FilePath :=
  ⟨text.toList⟩

def text (path : FilePath) : String :=
  .ofList path.chars

instance : Inhabited FilePath := ⟨⟨[]⟩⟩

@[simp] theorem text_ofText (text : String) : (ofText text).text = text := by
  simp [ofText, FilePath.text]

@[simp] theorem ofText_text (path : FilePath) : ofText path.text = path := by
  simp [ofText, FilePath.text]

/-- Different paths have different texts. -/
theorem text_inj {first second : FilePath} : first.text = second.text ↔ first = second :=
  ⟨fun same => by rw [← ofText_text first, same, ofText_text], fun same => by rw [same]⟩

/-- The number of bytes of characters in UTF-8. -/
def byteCount : List Char → Nat
  | [] => 0
  | c :: rest => c.utf8Size + byteCount rest

def isAbsolute (path : FilePath) : Bool :=
  path.chars.head? == some '/'

/-- The pieces between slashes, empty ones included. -/
def segments (path : FilePath) : List (List Char) :=
  Text.pieces '/' path.chars

/-- A segment that names nothing unless it stands first. -/
def isIdle (segment : List Char) : Bool :=
  segment = [] || segment = ['.']

/-- The step that a segment after the first makes. -/
def component? (segment : List Char) : Option Component :=
  if isIdle segment then none
  else if segment = ['.', '.'] then some .up
  else some (.name segment)

/-- The step that the first segment makes. -/
def firstComponent? (path : FilePath) (segment : List Char) : Option Component :=
  if segment = [] then (if path.isAbsolute then some .root else none)
  else if segment = ['.'] then some .current
  else component? segment

/-- The steps of a path.  Paths with equal components name the same place. -/
def components (path : FilePath) : List Component :=
  match path.segments with
  | [] => []
  | first :: rest => (path.firstComponent? first).toList ++ rest.filterMap component?

/-- Segments without the idle ones at their end; the first one always stays. -/
def dropIdleEnd : List (List Char) → List (List Char)
  | [] => []
  | first :: rest => first :: trimIdle rest
where
  /-- Segments without the idle ones at their end. -/
  trimIdle : List (List Char) → List (List Char)
  | [] => []
  | segment :: rest =>
    match trimIdle rest with
    | [] => if isIdle segment then [] else [segment]
    | kept => segment :: kept

/-- The path that the first segments of a path make up. -/
def ofSegments (segments : List (List Char)) : FilePath :=
  if segments = [[]] then ⟨['/']⟩ else ⟨Text.joinPieces '/' segments⟩

/-- The path of the directory that holds what a path names: everything before the last step.
Roots and the empty path have none. -/
def parent? (path : FilePath) : Option FilePath :=
  match dropIdleEnd path.segments with
  | [] => none
  | [first] => if first = [] then none else some ⟨[]⟩
  | segments => some (ofSegments (dropIdleEnd segments.dropLast))

/-- The last step of a path, if it is a name. -/
def fileName? (path : FilePath) : Option (List Char) :=
  match (dropIdleEnd path.segments).getLast? with
  | some segment => if isIdle segment || segment = ['.', '.'] then none else some segment
  | none => none

/-- A path followed from a directory: an absolute path stands alone, and any other goes after
the directory's text with one slash between them. -/
def join (directory path : FilePath) : FilePath :=
  if path.isAbsolute then path
  else if directory.chars = [] || directory.chars.getLast? = some '/' then
    ⟨directory.chars ++ path.chars⟩
  else ⟨directory.chars ++ '/' :: path.chars⟩

/-- A path with its last name replaced; a path that ends in no name has the name added. -/
def withFileName (path : FilePath) (name : List Char) : FilePath :=
  match path.fileName? with
  | some _ => ((path.parent?).getD ⟨[]⟩).join ⟨name⟩
  | none => path.join ⟨name⟩

/-- What follows the last dot of a file name.  A name whose only dot stands first has none. -/
def extension? (path : FilePath) : Option (List Char) :=
  match path.fileName? with
  | none => none
  | some name =>
    match (Text.pieces '.' name).reverse with
    | [] | [_] => none
    | [_, []] => none
    | last :: _ => some last

end FilePath

end LiveSelector
