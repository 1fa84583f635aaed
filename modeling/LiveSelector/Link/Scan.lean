import LiveSelector.Link.Bare
import LiveSelector.Link.Tagged
import LiveSelector.Text.Lines

namespace LiveSelector.Link

/-!
All links of a text.  Where any line has a tagged link only tagged links count, at most one a
line; otherwise all links without a label do.  A scan takes the first ones up to a limit.
-/

/-- The links that a scan has taken, and whether it left any out. -/
structure Scan where
  links : List Link
  truncated : Bool
  deriving DecidableEq

/-- The first links up to a limit. -/
def Scan.ofLinks (limit : Nat) (links : List Link) : Scan :=
  ⟨links.take limit, limit < links.length⟩

def taggedOf (lines : List (List Char)) : List Link :=
  lines.filterMap tagged?

/-- The links without a label of lines. -/
def bareOf (lines : List (List Char)) : List Link :=
  lines.flatMap bareLinks

def allLinks (text : List Char) : List Link :=
  let lines := Text.readLines text
  if (taggedOf lines).isEmpty then bareOf lines else taggedOf lines

/-- Links taken one by one until one more would pass the limit. -/
def takeCapped (limit : Nat) : List Link → Scan
  | [] => ⟨[], false⟩
  | link :: rest =>
    match limit with
    | 0 => ⟨[], true⟩
    | more + 1 =>
      let scan := takeCapped more rest
      ⟨link :: scan.links, scan.truncated⟩

theorem takeCapped_eq (limit : Nat) (links : List Link) :
    takeCapped limit links = Scan.ofLinks limit links := by
  induction links generalizing limit with
  | nil => simp [takeCapped, Scan.ofLinks]
  | cons link rest ih =>
      cases limit with
      | zero => simp [takeCapped, Scan.ofLinks]
      | succ more => simp [takeCapped, Scan.ofLinks, ih]

/-- The links of a text up to a limit.  Links without a label are looked for only where the scan
for tagged ones has come to its end with none. -/
def extract (text : List Char) (limit : Nat) : Scan :=
  let lines := Text.readLines text
  let scan := takeCapped limit (taggedOf lines)
  if scan.links.isEmpty && !scan.truncated then takeCapped limit (bareOf lines) else scan

end LiveSelector.Link
