import LiveSelector.Text.EditDistance
import LiveSelector.Text.Utf8

namespace LiveSelector.Config

/-!
Suggestions for misspelled keys: the known key nearest to the one written, if two edits of bytes
suffice.
-/

def knownKeys : List String :=
  ["language_id", "output_suffix", "link_scan_limit", "fetch", "timeout_secs", "user_agent", "log",
    "level"]

/-- A suggested key is at most this many edits away. -/
def suggestionReach : Nat := 2

/-- The number of edits between the bytes of two keys. -/
def keyDistance (key other : List Char) : Nat :=
  Text.tableDistance (Text.encode key) (Text.encode other)

/-- The nearest of two keys with their distances; the earlier one if neither is nearer. -/
def nearer (best : Option (String × Nat)) (key : String) (distance : Nat) : Option (String × Nat) :=
  match best with
  | none => some (key, distance)
  | some (kept, least) => if distance < least then some (key, distance) else some (kept, least)

def nearest? (key : List Char) (candidates : List String) : Option (String × Nat) :=
  candidates.foldl (fun best candidate => nearer best candidate (keyDistance key candidate.toList))
    none

/-- The known key that a key may have been meant for. -/
def suggest? (key : List Char) : Option String :=
  match nearest? key knownKeys with
  | some (candidate, distance) => if distance ≤ suggestionReach then some candidate else none
  | none => none

end LiveSelector.Config
