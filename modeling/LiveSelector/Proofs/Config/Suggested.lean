import LiveSelector.Config.Suggestion
import LiveSelector.Proofs.Text.Rows
import Mathlib.Data.List.Induction

namespace LiveSelector.Config

/-! Which known key is suggested for another one.  Going through the candidates keeps the first of
the nearest so far; it is suggested if no more edits of bytes lead to it than a suggestion may
take. -/

variable {key : List Char} {candidates : List String} {candidate other : String}

/-- The least number of edits of bytes that lead from a key to a candidate. -/
def editsTo (key : List Char) (candidate : String) : Nat :=
  keyDistance key candidate.toList

theorem isLeast_editsTo (key : List Char) (candidate : String) :
    IsLeast {count | Text.Edits count (Text.encode key) (Text.encode candidate.toList)}
      (editsTo key candidate) := by
  rw [editsTo, keyDistance, Text.tableDistance_eq]
  exact Text.isLeast_editDistance _ _

/-- No candidate is nearer than this one, and none before it is as near. -/
def IsNearest (key : List Char) (candidates : List String) (candidate : String) : Prop :=
  ∃ earlier later, candidates = earlier ++ candidate :: later ∧
    (∀ other ∈ earlier, editsTo key candidate < editsTo key other) ∧
    ∀ other ∈ later, editsTo key candidate ≤ editsTo key other

theorem IsNearest.mem (nearest : IsNearest key candidates candidate) : candidate ∈ candidates := by
  obtain ⟨earlier, later, rfl, _⟩ := nearest
  simp

theorem IsNearest.le (nearest : IsNearest key candidates candidate) (among : other ∈ candidates) :
    editsTo key candidate ≤ editsTo key other := by
  obtain ⟨earlier, later, rfl, before, behind⟩ := nearest
  rcases List.mem_append.mp among with early | late
  · exact Nat.le_of_lt (before other early)
  · rcases List.mem_cons.mp late with same | late
    · exact Nat.le_of_eq (by rw [same])
    · exact behind other late

/-- Of two candidates that nothing is nearer than, the one before the other would not be as near. -/
theorem IsNearest.unique (one : IsNearest key candidates candidate)
    (another : IsNearest key candidates other) : candidate = other := by
  have far := one.le another.mem
  have near := another.le one.mem
  obtain ⟨earlier, later, rfl, before, _⟩ := one
  obtain ⟨front, back, cut, ahead, _⟩ := another
  rcases List.append_eq_append_iff.mp cut with ⟨between, rfl, tail⟩ | ⟨between, rfl, tail⟩
  · cases between with
    | nil => exact (List.cons.inj tail).1
    | cons first rest =>
        have first : candidate = first := (List.cons.inj tail).1
        have less := ahead candidate (by simp [first])
        omega
  · cases between with
    | nil => exact (List.cons.inj tail).1.symm
    | cons first rest =>
        have first : other = first := (List.cons.inj tail).1
        have less := before other (by simp [first])
        omega

theorem nearest?_concat (key : List Char) (front : List String) (last : String) :
    nearest? key (front ++ [last]) = nearer (nearest? key front) last (editsTo key last) := by
  simp [nearest?, List.foldl_append, editsTo]

theorem nearest?_nonempty (key : List Char) (candidates : List String)
    (nonempty : candidates ≠ []) :
    ∃ candidate, nearest? key candidates = some (candidate, editsTo key candidate) ∧
      IsNearest key candidates candidate := by
  induction candidates using List.reverseRecOn with
  | nil => exact absurd rfl nonempty
  | append_singleton front last ih =>
      rw [nearest?_concat]
      by_cases empty : front = []
      · subst empty
        exact ⟨last, rfl, [], [], rfl, by simp, by simp⟩
      · obtain ⟨kept, found, nearest⟩ := ih empty
        rw [found]
        simp only [nearer]
        split
        · rename_i less
          exact ⟨last, rfl, front, [], rfl,
            fun other among => Nat.lt_of_lt_of_le less (nearest.le among), by simp⟩
        · rename_i notLess
          obtain ⟨earlier, later, rfl, before, behind⟩ := nearest
          refine ⟨kept, rfl, earlier, later ++ [last], by simp, before, fun other among => ?_⟩
          rcases List.mem_append.mp among with late | newest
          · exact behind other late
          · rw [List.mem_singleton.mp newest]
            exact Nat.le_of_not_lt notLess

/-- A known key is suggested if and only if two edits of bytes at most lead to it, no known key is
nearer, and none listed before it is as near; nothing is suggested if and only if every known key is
three edits away or more. -/
theorem suggest?_nearest (key : List Char) :
    (∀ candidate, IsLeast
        {count | Text.Edits count (Text.encode key) (Text.encode candidate.toList)}
        (editsTo key candidate)) ∧
      (∀ candidate, suggest? key = some candidate ↔
        editsTo key candidate ≤ 2 ∧ IsNearest key knownKeys candidate) ∧
      (suggest? key = none ↔ ∀ candidate ∈ knownKeys, 3 ≤ editsTo key candidate) := by
  obtain ⟨nearest, found, isNearest⟩ := nearest?_nonempty key knownKeys (by decide)
  have answer : suggest? key =
      if editsTo key nearest ≤ 2 then some nearest else none := by
    rw [suggest?, found]
    rfl
  refine ⟨isLeast_editsTo key, fun candidate => ?_, ?_⟩
  · rw [answer]
    constructor
    · intro suggested
      split at suggested
      · rename_i near
        cases suggested
        exact ⟨near, isNearest⟩
      · cases suggested
    · intro ⟨near, known⟩
      have same := isNearest.unique known
      subst same
      rw [if_pos near]
  · rw [answer]
    constructor
    · intro nothing candidate among
      split at nothing
      · cases nothing
      · have bound := isNearest.le among
        omega
    · intro far
      have bound := far nearest isNearest.mem
      rw [if_neg (by omega)]

end LiveSelector.Config
