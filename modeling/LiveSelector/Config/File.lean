import LiveSelector.Config.Basic
import LiveSelector.Config.Suggestion
import LiveSelector.Disk.Files
import LiveSelector.Text.Lines
import LiveSelector.Text.Search
import LiveSelector.Toml.Reader

namespace LiveSelector.Config

/-!
Settings files.  A file names any of the known keys; what it leaves out keeps its default, and
what it names in vain is reported with the line on which the key's text first appears.
-/

/-- The text of a value. -/
def stringOf? : Toml → Option String
  | .string value => some (.ofList value)
  | _ => none

/-- The number of a value that is an integer and not negative. -/
def countOf? : Toml → Option Nat
  | .integer value => if 0 ≤ value then some value.toNat else none
  | _ => none

/-- A setting read from the value of its key; it has its default where the value is missing. -/
def setting {α : Type} (read : Toml → Option α) (default : α) : Option Toml → Option α
  | none => some default
  | some value => read value

/-- A section: named settings, settings in order, or none at all. -/
inductive Section where
  | named (members : Toml.Members)
  | ordered (items : List Toml)
  | unnamed

/-- A section as it is written; a date counts as one without known keys. -/
def sectionOf? : Toml → Option Section
  | .table _ members => some (.named members)
  | .array items | .tables items => some (.ordered items)
  | .moment => some .unnamed
  | _ => none

/-- The value of a section's setting that has a name and a place in the order. -/
def Section.value? (key : List Char) (index : Nat) : Section → Option Toml
  | .named members => Toml.find? key members
  | .ordered items => items[index]?
  | .unnamed => none

def timeoutKey : List Char := "timeout_secs".toList
def userAgentKey : List Char := "user_agent".toList
def levelKey : List Char := "level".toList
def languageKey : List Char := "language_id".toList
def suffixKey : List Char := "output_suffix".toList
def limitKey : List Char := "link_scan_limit".toList
def fetchKey : List Char := "fetch".toList
def logKey : List Char := "log".toList

def fetchOf? (value : Toml) : Option FetchSettings := do
  let part ← sectionOf? value
  let timeoutSecs ← setting countOf? ({} : FetchSettings).timeoutSecs (part.value? timeoutKey 0)
  let userAgent ← setting stringOf? ({} : FetchSettings).userAgent (part.value? userAgentKey 1)
  some { timeoutSecs, userAgent }

def logOf? (value : Toml) : Option LogSettings := do
  let part ← sectionOf? value
  let level ← setting stringOf? ({} : LogSettings).level (part.value? levelKey 0)
  some { level }

def ofMembers? (members : Toml.Members) : Option Config := do
  let languageId ← setting stringOf? default.languageId (Toml.find? languageKey members)
  let outputSuffix ← setting stringOf? default.outputSuffix (Toml.find? suffixKey members)
  let linkScanLimit ← setting countOf? default.linkScanLimit (Toml.find? limitKey members)
  let fetch ← setting fetchOf? default.fetch (Toml.find? fetchKey members)
  let log ← setting logOf? default.log (Toml.find? logKey members)
  some { languageId, outputSuffix, linkScanLimit, fetch, log }

/-- The name under which a date is known where a section is expected. -/
def momentKey : List Char := "$__toml_private_datetime".toList

/-- The keys of a section that are none of its settings. -/
def unknownInSection (known : List (List Char)) (value : Toml) : List (List Char) :=
  match sectionOf? value with
  | some (.named members) => (members.map (·.1)).filter (· ∉ known)
  | some .unnamed => [momentKey]
  | _ => []

/-- The keys that a member of a file names in vain. -/
def unknownInMember (member : List Char × Toml) : List (List Char) :=
  if member.1 = fetchKey then unknownInSection [timeoutKey, userAgentKey] member.2
  else if member.1 = logKey then unknownInSection [levelKey] member.2
  else if member.1 ∈ [languageKey, suffixKey, limitKey] then []
  else [member.1]

def unknownKeys (members : Toml.Members) : List (List Char) :=
  members.flatMap unknownInMember

/-- A remark on a key that is not known. -/
structure Warning where
  key : String
  file : FilePath
  /-- The line, counted from one, on which the key's text first appears. -/
  line : Option Nat
  suggestion : Option String
  deriving DecidableEq

/-- The number, counted from one, of the first line that holds a text. -/
def lineHolding? (content needle : List Char) : Option Nat :=
  ((Text.readLines content).findIdx? (Text.occursIn needle)).map (· + 1)

/-- The name that a key goes by: what follows its last dot. -/
def lastPiece (key : List Char) : List Char :=
  (Text.pieces '.' key).getLastD []

/-- The remark on an unknown key. -/
def warningFor (file : FilePath) (content key : List Char) : Warning :=
  let name := lastPiece key
  { key := .ofList name, file, line := lineHolding? content name, suggestion := suggest? name }

/-- Why settings cannot be loaded. -/
inductive LoadError where
  | unreadable (reason : DiskError)
  | invalid (file : FilePath)
  deriving DecidableEq

def LoadError.message : LoadError → String
  | .unreadable reason => "IO error: " ++ reason.message
  | .invalid file => "invalid config in " ++ file.text ++ ": "

/-- The settings that a text gives, with its unknown keys. -/
def ofText? (content : List Char) : Option (Config × List (List Char)) :=
  match Toml.read? content with
  | none => none
  | some members => (ofMembers? members).map fun config => (config, unknownKeys members)

/-- The settings in a file, with remarks on its unknown keys. -/
def loadWithWarnings (disk : Disk) (file : FilePath) : Except LoadError (Config × List Warning) :=
  match disk.readText file with
  | .error reason => .error (.unreadable reason)
  | .ok content =>
    match ofText? content.toList with
    | none => .error (.invalid file)
    | some (config, keys) => .ok (config, keys.map (warningFor file content.toList))

/-- The settings in a file. -/
def load (disk : Disk) (file : FilePath) : Except LoadError Config :=
  (loadWithWarnings disk file).map (·.1)

end LiveSelector.Config
