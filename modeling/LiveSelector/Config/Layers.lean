import LiveSelector.Config.File
import LiveSelector.Text.Blank
import LiveSelector.Text.LowerCase

namespace LiveSelector.Config

/-!
Layers of settings: overrides from the environment, then the first of the project's and the
user's file that loads, then the defaults.  Files are not mixed: what the chosen file leaves out
has its default.
-/

/-- The values of the variables that override settings, where they are set. -/
structure Overrides where
  language : Option String := none
  outputSuffix : Option String := none
  fetchTimeout : Option String := none
  logLevel : Option String := none
  deriving DecidableEq

/-- A text without blanks around it, if anything is left. -/
def solidText? (text : String) : Option String :=
  if Text.trim text = "" then none else some (Text.trim text)

/-- Numbers of seconds lie below this bound. -/
def secondsBound : Nat := Nat.pow 2 64

/-- The number of seconds that a text spells, a plus sign before it allowed. -/
def seconds? (text : String) : Option Nat :=
  let digits :=
    match Text.trimChars text.toList with
    | '+' :: rest => rest
    | rest => rest
  if digits ≠ [] && digits.all Char.isDigit then
    let value := digits.foldl (fun value c => value * 10 + (c.toNat - 48)) 0
    if value < secondsBound then some value else none
  else none

/-- Settings with every usable override in place of its own setting. -/
def withOverrides (config : Config) (overrides : Overrides) : Config :=
  { languageId := (overrides.language.bind solidText?).getD config.languageId
    outputSuffix :=
      (overrides.outputSuffix.filter fun suffix => suffix ≠ "").getD config.outputSuffix
    linkScanLimit := config.linkScanLimit
    fetch :=
      { config.fetch with
        timeoutSecs := (overrides.fetchTimeout.bind seconds?).getD config.fetch.timeoutSecs }
    log :=
      { level := ((overrides.logLevel.bind solidText?).map Text.lowerCase).getD config.log.level } }

/-- Where a project keeps its settings, from its root. -/
def projectFile : FilePath := .ofText ".temme/config.toml"

/-- Where a user's settings are, from the directory of all settings. -/
def userFile : FilePath := .ofText "temme-live/config.toml"

/-- The settings in a file, if it is there and loads. -/
def loadIfPresent? (disk : Disk) (file : FilePath) : Option Config :=
  if disk.hasNode file then (load disk file).toOption else none

def firstLoaded? (disk : Disk) (files : List FilePath) : Option Config :=
  files.findSome? (loadIfPresent? disk)

/-- The settings for a project, the user's settings being kept under a directory. -/
def resolve (disk : Disk) (root userDirectory : Option FilePath) (overrides : Overrides) : Config :=
  let files :=
    (root.map fun directory => directory.join projectFile).toList ++
      (userDirectory.map fun directory => directory.join userFile).toList
  ((firstLoaded? disk files).getD default).withOverrides overrides

end LiveSelector.Config
