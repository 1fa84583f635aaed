import LiveSelector.FilePath
import LiveSelector.Text.Blank
import LiveSelector.Url.Parse

namespace LiveSelector

/-!
Links: where the page is that a selector is written for.  A link's target is a URL or a path; what
is no URL is a path, and a path is followed from a base directory if there is one.
-/

/-- A link, with the label in angle brackets that it was given. -/
structure Link where
  tag : Option String
  target : String
  deriving DecidableEq

/-- Where a link leads. -/
inductive LinkKind where
  | file (path : FilePath)
  /-- A file whose path is no text. -/
  | foreignFile (bytes : List UInt8)
  | remote (url : Url)
  deriving DecidableEq

/-- Why a link leads nowhere. -/
inductive LinkError where
  | empty
  | unsupportedScheme (scheme : String)
  | invalidFileUrl (target : String)
  deriving DecidableEq

def LinkError.message : LinkError → String
  | .empty => "link is empty"
  | .unsupportedScheme scheme => "unsupported scheme '" ++ scheme ++ "'"
  | .invalidFileUrl target => "'" ++ target ++ "' is not a valid file URL"

namespace Link

/-- A link without a label. -/
def bare (target : String) : Link :=
  ⟨none, target⟩

/-- A link as it is shown among others. -/
def label (link : Link) : String :=
  match link.tag with
  | some tag => tag ++ " " ++ link.target
  | none => link.target

/-- A path followed from a base directory. -/
def fromBase (base : Option FilePath) (path : FilePath) : FilePath :=
  match base with
  | some directory => if path.isAbsolute then path else directory.join path
  | none => path

/-- The file that a file URL names. -/
def fileKind (target : String) (url : Url) : Except LinkError LinkKind :=
  match url.localPath? with
  | none => .error (.invalidFileUrl target)
  | some bytes =>
    match Text.decode? bytes with
    | some text => .ok (.file (.ofText text))
    | none => .ok (.foreignFile bytes)

/-- Where a URL leads; a scheme of one letter is the drive of a path. -/
def urlKind (target : String) (url : Url) : Except LinkError LinkKind :=
  if url.scheme = "http" || url.scheme = "https" then .ok (.remote url)
  else if url.scheme = "file" then fileKind target url
  else if url.scheme.utf8ByteSize = 1 then .ok (.file (.ofText target))
  else .error (.unsupportedScheme url.scheme)

/-- Where a link leads from a base directory; blanks around its target do not count. -/
def kind (link : Link) (base : Option FilePath) : Except LinkError LinkKind :=
  let target := Text.trim link.target
  if target = "" then .error .empty
  else
    match Url.parse? target with
    | some url => urlKind target url
    | none => .ok (.file (fromBase base (.ofText target)))

end Link

end LiveSelector
