namespace LiveSelector.Text

/-!
Edit distance: the least number of insertions, deletions and substitutions of single items that
turn one sequence into another.  `editDistance` follows the definition.  `tableDistance?` fills a
table of the distances between the starts of both sequences, of which it keeps two rows: it needs
only the product of the lengths many steps, and has no answer if a place is looked up that is not in
its row.
-/

variable {α : Type} [DecidableEq α]

/-- What it costs to put one item in the place of another. -/
def substitutionCost (x y : α) : Nat :=
  if x = y then 0 else 1

/-- The least number of edits that turn one sequence into another. -/
def editDistance : List α → List α → Nat
  | [], ys => ys.length
  | x :: xs, [] => (x :: xs).length
  | x :: xs, y :: ys =>
    min (min (editDistance xs (y :: ys) + 1) (editDistance (x :: xs) ys + 1))
      (editDistance xs ys + substitutionCost x y)
termination_by xs ys => xs.length + ys.length

theorem editDistance_nil_right (xs : List α) : editDistance xs [] = xs.length := by
  cases xs <;> simp [editDistance]

/-- Two rows of the table: the last one that is finished, and the one that is being filled. -/
structure Rows where
  finished : Array Nat
  current : Array Nat

/-- The row of the empty sequence, and one to be filled. -/
def Rows.first (width : Nat) : Rows where
  finished := (List.range (width + 1)).toArray
  current := Array.replicate (width + 1) 0

/-- A row with a new value in one place. -/
def writeCell? (row : Array Nat) (place value : Nat) : Option (Array Nat) :=
  if within : place < row.size then some (row.set place value within) else none

/-- The current row with its cell behind an item of the other sequence, which comes with the number
of items before it. -/
def fillCell? (x : α) (finished current : Array Nat) (item : α × Nat) : Option (Array Nat) := do
  let above ← finished[item.2 + 1]?
  let beside ← current[item.2]?
  let corner ← finished[item.2]?
  writeCell? current (item.2 + 1)
    (min (min (above + 1) (beside + 1)) (corner + substitutionCost x item.1))

/-- The rows after one more item.  The row that it fills is copied over the finished one, which must
be as long. -/
def fillRow? (ys : List α) (rows : Rows) (item : α × Nat) : Option Rows := do
  let begun ← writeCell? rows.current 0 (item.2 + 1)
  let filled ← ys.zipIdx.foldlM (fillCell? item.1 rows.finished) begun
  if rows.finished.size = filled.size then some ⟨filled, filled⟩ else none

/-- The distance that the table gives. -/
def tableDistance? (xs ys : List α) : Option Nat :=
  if xs = ys then some 0
  else do
    let rows ← xs.zipIdx.foldlM (fillRow? ys) (.first ys.length)
    rows.finished[ys.length]?

/-- The distance that the table gives; it always gives one. -/
def tableDistance (xs ys : List α) : Nat :=
  (tableDistance? xs ys).getD 0

end LiveSelector.Text
