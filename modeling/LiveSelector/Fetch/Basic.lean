import LiveSelector.Config.Basic
import LiveSelector.Disk.Files
import LiveSelector.Link.Basic
import LiveSelector.Data.Table

namespace LiveSelector

/-!
Fetching pages.  A file is read from the disk, anything else is asked for by its URL; a failure is
reported with the link and its cause.
-/

/-- Why a page cannot be fetched. -/
inductive FetchCause where
  | link (reason : LinkError)
  | io (reason : DiskError)
  | status (code : Nat)
  | transport (text : String)
  | tooLarge (limit : Nat)
  deriving DecidableEq

def FetchCause.message : FetchCause → String
  | .link reason => reason.message
  | .io reason => reason.message
  | .status code => "HTTP status " ++ .ofList (Nat.toDigits 10 code)
  | .transport text => text
  | .tooLarge limit => "response larger than " ++ .ofList (Nat.toDigits 10 limit) ++ " bytes"

structure FetchError where
  link : String
  cause : FetchCause
  deriving DecidableEq

def FetchError.message (error : FetchError) : String :=
  "cannot download html from " ++ error.link ++ ": " ++ error.cause.message

/-- What answers requests by URL. -/
abbrev Web := Url → Except FetchCause String

namespace Web

/-- The web that no request reaches. -/
def unreachable : Web := fun _ => .error (.transport "unreachable")

/-- The web in which no page is found. -/
def vacant : Web := fun _ => .error (.status 404)

end Web

/-- What stands at a place that a link leads to. -/
def LinkKind.fetch (disk : Disk) (web : Web) : LinkKind → Except FetchCause String
  | .file path => (disk.readText path).mapError .io
  | .foreignFile bytes => .error (.io (disk.foreignRefusal bytes))
  | .remote url => web url

namespace Link

/-- What stands where a link leads to from a base directory. -/
def fetchCause (link : Link) (disk : Disk) (web : Web) (base : Option FilePath) :
    Except FetchCause String :=
  match link.kind base with
  | .error reason => .error (.link reason)
  | .ok kind => kind.fetch disk web

/-- The text of the page that a link leads to. -/
def fetch (link : Link) (disk : Disk) (web : Web) (base : Option FilePath) :
    Except FetchError String :=
  (link.fetchCause disk web base).mapError fun cause => ⟨link.target, cause⟩

end Link

/-- Answers that are known for some targets. -/
abbrev PageTable := Table (Except FetchCause String)

/-- A page as it was fetched, with the link that its fetcher gives for it. -/
structure FetchedContent where
  link : Link
  html : String
  deriving DecidableEq

/-- The text of the page that a link leads to, known answers coming first. -/
def PageTable.text (pages : PageTable) (link : Link) (disk : Disk) (web : Web)
    (base : Option FilePath) : Except FetchError String :=
  match pages.get? link.target with
  | some answer => answer.mapError fun cause => ⟨link.target, cause⟩
  | none => link.fetch disk web base

/-- The page that a link leads to, with the very link that was asked for. -/
def PageTable.fetch (pages : PageTable) (link : Link) (disk : Disk) (web : Web)
    (base : Option FilePath) : Except FetchError FetchedContent :=
  (pages.text link disk web base).map fun html => ⟨link, html⟩

end LiveSelector
