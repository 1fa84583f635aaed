namespace LiveSelector

/-!
Settings and their defaults.
-/

/-- How pages are retrieved. -/
structure FetchSettings where
  timeoutSecs : Nat := 30
  userAgent : String := "temme-live/0.1.0"
  deriving DecidableEq

structure LogSettings where
  level : String := "info"
  deriving DecidableEq

structure Config where
  /-- The language of selector documents. -/
  languageId : String := "temme"
  /-- What is added to a selector's file name to name its output. -/
  outputSuffix : String := ".json"
  /-- How many links a scan takes at most. -/
  linkScanLimit : Nat := 100
  fetch : FetchSettings := {}
  log : LogSettings := {}
  deriving DecidableEq

namespace Config

/-- The settings that hold where nothing else is said. -/
def default : Config := {}

instance : Inhabited Config := ⟨default⟩

end Config

end LiveSelector
