import LiveSelector.Disk.Basic

namespace LiveSelector

/-! Paths and their parents.  A parent's text is a start of its path's text, both begin at the same
place, and the names along the parent are the first of the names along the path. -/

/-- A directory is what a path names, or lies above it. -/
inductive FilePath.Above (path : FilePath) : FilePath → Prop where
  | self : Above path path
  | parent {inner outer : FilePath} (above : Above path inner)
      (found : inner.parent? = some outer) : Above path outer

namespace FilePath

open Text

variable {path parent directory : FilePath} {segments kept rest : List (List Char)}

theorem Above.of_parent? (above : parent.Above directory) (found : path.parent? = some parent) :
    path.Above directory := by
  induction above with
  | self => exact .parent .self found
  | parent _ next ih => exact .parent ih next

theorem byteCount_append (front back : List Char) :
    byteCount (front ++ back) = byteCount front + byteCount back := by
  induction front with
  | nil => simp [byteCount]
  | cons c rest ih => simp only [List.cons_append, byteCount, ih, Nat.add_assoc]

theorem trimIdle_append (segments : List (List Char)) :
    ∃ idle, segments = dropIdleEnd.trimIdle segments ++ idle ∧
      ∀ segment ∈ idle, isIdle segment = true := by
  induction segments with
  | nil => exact ⟨[], rfl, by simp⟩
  | cons segment rest ih =>
      obtain ⟨idle, whole, all⟩ := ih
      simp only [dropIdleEnd.trimIdle]
      cases trimmed : dropIdleEnd.trimIdle rest with
      | nil =>
          rw [trimmed, List.nil_append] at whole
          simp only
          split
          · rename_i here
            refine ⟨segment :: rest, rfl, ?_⟩
            rw [whole]
            exact List.forall_mem_cons.mpr ⟨here, all⟩
          · refine ⟨rest, rfl, ?_⟩
            rw [whole]
            exact all
      | cons first others =>
          rw [trimmed] at whole
          refine ⟨idle, ?_, all⟩
          simp only [List.cons_append]
          rw [← List.cons_append, ← whole]

theorem trimIdle_last {last : List Char}
    (ends : (dropIdleEnd.trimIdle segments).getLast? = some last) : isIdle last = false := by
  induction segments with
  | nil => simp [dropIdleEnd.trimIdle] at ends
  | cons segment rest ih =>
      simp only [dropIdleEnd.trimIdle] at ends
      cases trimmed : dropIdleEnd.trimIdle rest with
      | nil =>
          rw [trimmed] at ends
          simp only at ends
          split at ends
          · simp at ends
          · rename_i solid
            simp only [List.getLast?_singleton, Option.some.injEq] at ends
            rw [← ends]
            simpa using solid
      | cons first others =>
          rw [trimmed] at ends ih
          simp only [List.getLast?_cons_cons] at ends
          exact ih ends

theorem dropIdleEnd_append (segments : List (List Char)) :
    ∃ idle, segments = dropIdleEnd segments ++ idle ∧
      ∀ segment ∈ idle, isIdle segment = true := by
  cases segments with
  | nil => exact ⟨[], rfl, by simp⟩
  | cons first rest =>
      obtain ⟨idle, whole, all⟩ := trimIdle_append rest
      refine ⟨idle, ?_, all⟩
      rw [dropIdleEnd, List.cons_append, ← whole]

theorem mem_of_mem_dropIdleEnd {segment : List Char} (inside : segment ∈ dropIdleEnd segments) :
    segment ∈ segments := by
  obtain ⟨idle, whole, _⟩ := dropIdleEnd_append segments
  rw [whole]
  exact List.mem_append_left idle inside

theorem dropIdleEnd_ne_nil (nonempty : segments ≠ []) : dropIdleEnd segments ≠ [] := by
  cases segments with
  | nil => exact absurd rfl nonempty
  | cons first rest => simp [dropIdleEnd]

theorem dropIdleEnd_last (many : 1 < (dropIdleEnd segments).length) :
    ∃ front last, dropIdleEnd segments = front ++ [last] ∧ front ≠ [] ∧ isIdle last = false := by
  cases segments with
  | nil => simp [dropIdleEnd] at many
  | cons first rest =>
      have present : dropIdleEnd.trimIdle rest ≠ [] := by
        intro empty
        simp [dropIdleEnd, empty] at many
      have ends := List.getLast?_eq_some_getLast present
      obtain ⟨middle, trimmed⟩ := List.getLast?_eq_some_iff.mp ends
      refine ⟨first :: middle, _, ?_, by simp, trimIdle_last ends⟩
      rw [dropIdleEnd, List.cons_append, ← trimmed]

/-- What a path with a parent is made up of: the parent's segments and more, not all of them
empty. -/
theorem parent?_segments (found : path.parent? = some parent) (nonempty : parent.chars ≠ []) :
    ∃ kept rest, kept ≠ [] ∧ path.segments = kept ++ rest ∧ (∃ name ∈ rest, name ≠ []) ∧
      parent = ofSegments kept := by
  obtain ⟨idle, whole, _⟩ := dropIdleEnd_append path.segments
  simp only [parent?] at found
  split at found
  · contradiction
  · split at found
    · contradiction
    · cases found
      exact absurd rfl nonempty
  · rename_i notEmpty notSingle
    cases found
    have many : 1 < (dropIdleEnd path.segments).length := by
      cases trimmed : dropIdleEnd path.segments with
      | nil => exact absurd trimmed notEmpty
      | cons first rest =>
          cases rest with
          | nil => exact absurd trimmed (notSingle first)
          | cons second more => simp
    obtain ⟨front, last, parts, present, solid⟩ := dropIdleEnd_last many
    obtain ⟨dots, above, _⟩ := dropIdleEnd_append front
    refine ⟨dropIdleEnd front, dots ++ [last] ++ idle, dropIdleEnd_ne_nil present, ?_, ?_, ?_⟩
    · rw [whole, parts]
      conv => lhs; rw [above]
      simp only [List.append_assoc]
    · refine ⟨last, by simp, ?_⟩
      rintro rfl
      simp [isIdle] at solid
    · rw [parts, List.dropLast_concat]

theorem segments_clean {name : List Char} (member : name ∈ path.segments) : '/' ∉ name :=
  separator_not_mem_pieces member

theorem chars_of_segments (whole : path.segments = segments) :
    path.chars = joinPieces '/' segments := by
  rw [← whole, FilePath.segments, joinPieces_pieces]

theorem parent?_prefix (found : path.parent? = some parent) (nonempty : parent.chars ≠ []) :
    ∃ more, path.chars = parent.chars ++ more := by
  obtain ⟨kept, rest, present, whole, ⟨name, member, _⟩, rfl⟩ := parent?_segments found nonempty
  have chars := chars_of_segments whole
  rw [joinPieces_append present (List.ne_nil_of_mem member)] at chars
  simp only [ofSegments]
  split
  · rename_i root
    rw [root] at chars
    exact ⟨joinPieces '/' rest, chars⟩
  · exact ⟨_, chars⟩

/-- Both begin at the root, or both at the working directory. -/
theorem isAbsolute_parent? (found : path.parent? = some parent) (nonempty : parent.chars ≠ []) :
    parent.isAbsolute = path.isAbsolute := by
  obtain ⟨more, chars⟩ := parent?_prefix found nonempty
  obtain ⟨first, others, same⟩ := List.exists_cons_of_ne_nil nonempty
  simp only [isAbsolute, chars, same, List.cons_append, List.head?_cons]

end FilePath

namespace Disk

open FilePath

variable {path parent : FilePath}

theorem names_parent? (found : path.parent? = some parent) (nonempty : parent.chars ≠ []) :
    ∃ more, more ≠ [] ∧ names path = names parent ++ more := by
  obtain ⟨kept, rest, present, whole, ⟨name, member, solid⟩, rfl⟩ :=
    parent?_segments found nonempty
  have along : names (ofSegments kept) = kept.filter (· ≠ []) := by
    simp only [ofSegments]
    split
    · rename_i root
      rw [root]
      decide
    · have clean : ∀ piece ∈ kept, '/' ∉ piece := by
        intro piece inside
        have along : piece ∈ path.segments := by
          rw [whole]
          exact List.mem_append_left rest inside
        exact segments_clean along
      rw [names, FilePath.segments, Text.pieces_joinPieces present clean]
  refine ⟨rest.filter (· ≠ []), ?_, ?_⟩
  · exact List.ne_nil_of_mem (List.mem_filter.mpr ⟨member, by simpa using solid⟩)
  · rw [along, names, whole, List.filter_append]

theorem refusal?_front {front more : List Char} (accepted : refusal? ⟨front ++ more⟩ = none)
    (nonempty : front ≠ []) : refusal? ⟨front⟩ = none := by
  simp only [refusal?] at accepted
  rw [byteCount_append] at accepted
  split at accepted
  · contradiction
  · rename_i clean
    split at accepted
    · contradiction
    · split at accepted
      · contradiction
      · rename_i short
        have cleanFront : '\x00' ∉ front := fun member =>
          clean (List.mem_append_left more member)
        have shortFront : ¬ byteCount front ≥ pathLimit := by omega
        rw [refusal?, if_neg cleanFront, if_neg nonempty, if_neg shortFront]

theorem refusal?_parent? (found : path.parent? = some parent) (nonempty : parent.chars ≠ [])
    (accepted : refusal? path = none) : refusal? parent = none := by
  obtain ⟨more, chars⟩ := parent?_prefix found nonempty
  have whole : refusal? ⟨parent.chars ++ more⟩ = none := by rw [← chars, accepted]
  exact refusal?_front whole nonempty

end Disk

end LiveSelector
