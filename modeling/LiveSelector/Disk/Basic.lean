import LiveSelector.FilePath

namespace LiveSelector

/-!
A disk: a tree of directories and files with a working directory in it.  Places are found by
walking a path's names, and every walk that fails says why.  Main statement: setting the node at
one place changes what stands there and nothing else.
-/

/-- Why a disk refuses an operation. -/
inductive DiskError where
  | notFound
  | busy
  | alreadyExists
  | notDirectory
  | isDirectory
  | invalidArgument
  | nameTooLong
  | nulInName
  | notText
  deriving DecidableEq

/-- The system's wording of a refusal. -/
def DiskError.message : DiskError → String
  | .notFound => "No such file or directory (os error 2)"
  | .busy => "Device or resource busy (os error 16)"
  | .alreadyExists => "File exists (os error 17)"
  | .notDirectory => "Not a directory (os error 20)"
  | .isDirectory => "Is a directory (os error 21)"
  | .invalidArgument => "Invalid argument (os error 22)"
  | .nameTooLong => "File name too long (os error 36)"
  | .nulInName => "file name contained an unexpected NUL byte"
  | .notText => "stream did not contain valid UTF-8"

/-- What a file holds: a text, or bytes that are no text. -/
inductive Content where
  | text (text : String)
  | raw (bytes : List UInt8)
  deriving DecidableEq

inductive Node where
  | file (content : Content)
  | directory
  deriving DecidableEq

/-- The names that lead from the root to a node. -/
abbrev Place := List (List Char)

/-- The node first listed at a place. -/
def findNode (place : Place) : List (Place × Node) → Option Node
  | [] => none
  | (here, node) :: rest => if here = place then some node else findNode place rest

/-- Nodes with one put at a place, the earlier one there replaced. -/
def assignNode (place : Place) (node : Node) : List (Place × Node) → List (Place × Node)
  | [] => [(place, node)]
  | (here, old) :: rest =>
    if here = place then (place, node) :: rest else (here, old) :: assignNode place node rest

theorem findNode_assignNode {place other : Place} {node : Node} (nodes : List (Place × Node)) :
    findNode other (assignNode place node nodes) =
      if place = other then some node else findNode other nodes := by
  induction nodes with
  | nil => simp [assignNode, findNode]
  | cons entry rest ih =>
      obtain ⟨here, old⟩ := entry
      simp only [assignNode]
      split
      · rename_i same
        subst same
        simp only [findNode]
        split <;> rfl
      · rename_i distinct
        simp only [findNode, ih]
        split
        · rename_i found
          subst found
          simp [Ne.symm distinct]
        · rfl

/-- A disk.  The working directory and the directories above it always exist; every other node
is listed. -/
structure Disk where
  workingDirectory : Place
  nodes : List (Place × Node)
  deriving DecidableEq

namespace Disk

def node? (disk : Disk) (place : Place) : Option Node :=
  if place.isPrefixOf disk.workingDirectory then some .directory
  else findNode place disk.nodes

def file? (disk : Disk) (place : Place) : Option Content :=
  match disk.node? place with
  | some (.file content) => some content
  | _ => none

def isDirectoryAt (disk : Disk) (place : Place) : Bool :=
  disk.node? place = some .directory

/-- A disk with a node put at a place. -/
def set (disk : Disk) (place : Place) (node : Node) : Disk :=
  { disk with nodes := assignNode place node disk.nodes }

theorem node?_set {disk : Disk} {place other : Place} {node : Node}
    (listed : place.isPrefixOf disk.workingDirectory = false) :
    (disk.set place node).node? other = if place = other then some node else disk.node? other := by
  unfold node? set
  by_cases same : place = other
  · subst same
    simp [listed, findNode_assignNode]
  · simp [findNode_assignNode, same]

def longestName : Nat := 255

/-- Every path has fewer bytes than this. -/
def pathLimit : Nat := 4096

/-- The place that a name leads to from a directory. -/
def enter (disk : Disk) (place : Place) (name : List Char) : Except DiskError Place :=
  if name = ['.'] then .ok place
  else if name = ['.', '.'] then .ok place.dropLast
  else if FilePath.byteCount name > longestName then .error .nameTooLong
  else
    match disk.node? (place ++ [name]) with
    | some _ => .ok (place ++ [name])
    | none => .error .notFound

/-- The place that names lead to.  A file is a place to end at, not to pass through. -/
def walk (disk : Disk) (place : Place) : List (List Char) → Except DiskError Place
  | [] => .ok place
  | name :: rest =>
    if disk.isDirectoryAt place then
      match disk.enter place name with
      | .ok next => disk.walk next rest
      | .error reason => .error reason
    else .error .notDirectory

/-- Where the walk along a path begins. -/
def start (disk : Disk) (path : FilePath) : Place :=
  if path.isAbsolute then [] else disk.workingDirectory

def names (path : FilePath) : List (List Char) :=
  path.segments.filter (· ≠ [])

/-- Whether a path says by a slash at its end that it names a directory. -/
def endsInSlash (path : FilePath) : Bool :=
  path.chars.getLast? == some '/'

/-- The refusal of a path that no walk is begun for. -/
def refusal? (path : FilePath) : Option DiskError :=
  if '\x00' ∈ path.chars then some .nulInName
  else if path.chars = [] then some .notFound
  else if FilePath.byteCount path.chars ≥ pathLimit then some .nameTooLong
  else none

/-- The place of the node that a path names. -/
def resolve (disk : Disk) (path : FilePath) : Except DiskError Place :=
  match refusal? path with
  | some reason => .error reason
  | none =>
    match disk.walk (disk.start path) (names path) with
    | .error reason => .error reason
    | .ok place =>
      if endsInSlash path && !disk.isDirectoryAt place then .error .notDirectory else .ok place

/-- The directory that holds what a path names, and the name in it; no name for a path that
leads to the root. -/
def parentPlace (disk : Disk) (path : FilePath) : Except DiskError (Place × Option (List Char)) :=
  match refusal? path with
  | some reason => .error reason
  | none =>
    match disk.walk (disk.start path) (names path).dropLast with
    | .error reason => .error reason
    | .ok place =>
      if disk.isDirectoryAt place then .ok (place, (names path).getLast?) else .error .notDirectory

end Disk

end LiveSelector
