import LiveSelector.Disk.Basic
import LiveSelector.Text.Utf8

namespace LiveSelector

/-!
Reading and writing files.  Writing is atomic: the directories are made first, and then the new
file takes the old one's place in one step, so a failed write leaves every file as it was and at
most new directories behind.
-/

namespace Disk

/-- The text of the file that a path names. -/
def readText (disk : Disk) (path : FilePath) : Except DiskError String :=
  match disk.resolve path with
  | .error reason => .error reason
  | .ok place =>
    match disk.node? place with
    | some (.file (.text text)) => .ok text
    | some (.file (.raw _)) => .error .notText
    | some .directory => .error .isDirectory
    | none => .error .notFound

/-- Whether a path names a node. -/
def hasNode (disk : Disk) (path : FilePath) : Bool :=
  match disk.resolve path with
  | .ok _ => true
  | .error _ => false

/-- Whether a path names a directory. -/
def hasDirectory (disk : Disk) (path : FilePath) : Bool :=
  match disk.resolve path with
  | .ok place => disk.isDirectoryAt place
  | .error _ => false

/-- A name that stands for a directory that exists. -/
def isDotName (name : List Char) : Bool :=
  name = ['.'] || name = ['.', '.']

def newDirectoryPlace (disk : Disk) (path : FilePath) : Except DiskError Place :=
  match disk.parentPlace path with
  | .error reason => .error reason
  | .ok (_, none) => .error .alreadyExists
  | .ok (place, some name) =>
    if isDotName name then .error .alreadyExists
    else if FilePath.byteCount name > longestName then .error .nameTooLong
    else if (disk.node? (place ++ [name])).isSome then .error .alreadyExists
    else .ok (place ++ [name])

/-- A disk with one more directory. -/
def makeDirectory (disk : Disk) (path : FilePath) : Except DiskError Disk :=
  match disk.newDirectoryPlace path with
  | .error reason => .error reason
  | .ok place => .ok (disk.set place .directory)

/-- A disk with a directory and those above it made, for a path of at most `depth` steps.  What
was made stays when a later step fails. -/
def makeDirectoriesWithin : Nat → Disk → FilePath → Disk × Except DiskError Unit
  | 0, disk, _ => (disk, .ok ())
  | depth + 1, disk, path =>
    match path.parent? with
    | none => (disk, .ok ())
    | some parent =>
      match disk.makeDirectory path with
      | .ok made => (made, .ok ())
      | .error .notFound =>
        match makeDirectoriesWithin depth disk parent with
        | (made, .error reason) => (made, .error reason)
        | (made, .ok ()) =>
          match made.makeDirectory path with
          | .ok whole => (whole, .ok ())
          | .error reason =>
            if made.hasDirectory path then (made, .ok ()) else (made, .error reason)
      | .error reason =>
        if disk.hasDirectory path then (disk, .ok ()) else (disk, .error reason)

/-- A disk with a directory and those above it made. -/
def makeDirectories (disk : Disk) (path : FilePath) : Disk × Except DiskError Unit :=
  makeDirectoriesWithin (path.chars.length + 1) disk path

/-- The place at which a file can be put in one step. -/
def filePlace (disk : Disk) (path : FilePath) : Except DiskError Place :=
  if '\x00' ∈ path.chars then .error .invalidArgument
  else
    match disk.parentPlace path with
    | .error reason => .error reason
    | .ok (_, none) => .error .busy
    | .ok (place, some name) =>
      if isDotName name then .error .busy
      else if FilePath.byteCount name > longestName then .error .nameTooLong
      else if endsInSlash path then .error .notDirectory
      else if disk.isDirectoryAt (place ++ [name]) then .error .isDirectory
      else .ok (place ++ [name])

/-- A disk with a file put where a path leads, in place of the file there. -/
def replaceFile (disk : Disk) (path : FilePath) (content : Content) : Except DiskError Disk :=
  match disk.filePlace path with
  | .error reason => .error reason
  | .ok place => .ok (disk.set place (.file content))

/-- The directory in which a path's file is made. -/
def homeDirectory (path : FilePath) : FilePath :=
  match path.parent? with
  | some parent => if parent.chars = [] then ⟨['.']⟩ else parent
  | none => ⟨['.']⟩

def writeAtomic (disk : Disk) (path : FilePath) (content : Content) :
    Disk × Except DiskError Unit :=
  match disk.makeDirectories (homeDirectory path) with
  | (made, .error reason) => (made, .error reason)
  | (made, .ok ()) =>
    match made.replaceFile path content with
    | .ok written => (written, .ok ())
    | .error reason => (made, .error reason)

/-- A disk after someone else has written a file; nothing happens where that fails. -/
def put (disk : Disk) (path : FilePath) (content : Content) : Disk :=
  (disk.writeAtomic path content).1

/-- A disk after someone else has made a directory. -/
def putDirectory (disk : Disk) (path : FilePath) : Disk :=
  (disk.makeDirectories path).1

/-- A disk after someone else has removed a file, or a directory with everything in it. -/
def remove (disk : Disk) (path : FilePath) : Disk :=
  match disk.resolve path with
  | .error _ => disk
  | .ok place => { disk with nodes := disk.nodes.filter fun entry => !place.isPrefixOf entry.1 }

/-- The files below the working directory, each with the text of its path from there. -/
def filesBelow (disk : Disk) : List (String × Content) :=
  disk.nodes.filterMap fun (place, node) =>
    match node with
    | .file content =>
      if disk.workingDirectory.isPrefixOf place then
        some (.ofList (Text.joinPieces '/' (place.drop disk.workingDirectory.length)), content)
      else none
    | .directory => none

/-- What bytes hold as a file. -/
def contentOfBytes (bytes : List UInt8) : Content :=
  match Text.decode? bytes with
  | some text => .text text
  | none => .raw bytes

/-- Why the walk along names given as bytes fails, one of them being no text: every name on the
disk is text. -/
def foreignWalk (disk : Disk) (place : Place) : List (List UInt8) → DiskError
  | [] => .notFound
  | [] :: rest => disk.foreignWalk place rest
  | name :: rest =>
    if disk.isDirectoryAt place then
      match Text.decode? name with
      | none => if name.length > longestName then .nameTooLong else .notFound
      | some text =>
        match disk.enter place text.toList with
        | .error reason => reason
        | .ok next => disk.foreignWalk next rest
    else .notDirectory

/-- Byte strings between slashes. -/
def byteSegments : List UInt8 → List (List UInt8)
  | [] => [[]]
  | b :: rest =>
    if b = 47 then [] :: byteSegments rest
    else
      match byteSegments rest with
      | [] => [[b]]
      | first :: others => (b :: first) :: others

/-- Why nothing can be read at an absolute path that is no text. -/
def foreignRefusal (disk : Disk) (path : List UInt8) : DiskError :=
  if 0 ∈ path then .nulInName
  else if path.length ≥ pathLimit then .nameTooLong
  else disk.foreignWalk [] (byteSegments path)

end Disk

end LiveSelector
