import LiveSelector.Proofs.Disk.Parents
import LiveSelector.Proofs.Disk.Walking

namespace LiveSelector

/-! Paths of files.  A walk goes through directories only, so what can be read lies at the end of a
path that ends in a name: not in a slash, not in a dot and not on the way up. -/

/-- A path ends in a name after the segments before it. -/
structure FilePath.EndsIn (path : FilePath) (front : List (List Char)) (name : List Char) : Prop where
  whole : path.segments = front ++ [name]
  solid : FilePath.isIdle name = false
  notUp : name ≠ ['.', '.']

def FilePath.NamesFile (path : FilePath) : Prop :=
  ∃ front name, path.EndsIn front name

namespace FilePath.EndsIn

variable {path : FilePath} {front : List (List Char)} {name : List Char}

theorem nonempty (ends : path.EndsIn front name) : name ≠ [] := by
  rintro rfl
  have solid := ends.solid
  simp [isIdle] at solid

theorem not_dot (ends : path.EndsIn front name) : name ≠ ['.'] := by
  rintro rfl
  have solid := ends.solid
  simp [isIdle] at solid

theorem clean (ends : path.EndsIn front name) : '/' ∉ name := by
  have member : name ∈ path.segments := by
    rw [ends.whole]
    simp
  exact segments_clean member

theorem chars (ends : path.EndsIn front name) :
    path.chars = Text.joinPieces '/' (front ++ [name]) :=
  chars_of_segments ends.whole

end FilePath.EndsIn

namespace Disk

variable {disk : Disk} {path : FilePath} {place next above : Place} {text : String}
variable {names : List (List Char)} {name : List Char}

theorem names_of_segments {front : List (List Char)} (whole : path.segments = front ++ [name])
    (nonempty : name ≠ []) : Disk.names path = front.filter (· ≠ []) ++ [name] := by
  simp [Disk.names, whole, nonempty]

/-- Every directory above a place is there. -/
def Rooted (disk : Disk) (place : Place) : Prop :=
  ∀ above, above <+: place → disk.isDirectoryAt above = true

theorem rooted_start : disk.Rooted (disk.start path) := by
  intro above under
  have inside : above.isPrefixOf disk.workingDirectory = true := by
    simp only [start] at under
    split at under
    · rw [List.prefix_nil.mp under]
      rfl
    · exact List.isPrefixOf_iff_prefix.mpr under
  simp [isDirectoryAt, node?, inside]

theorem rooted_follow (rooted : disk.Rooted place)
    (directory : disk.isDirectoryAt (follow place name) = true) :
    disk.Rooted (follow place name) := by
  simp only [follow] at directory ⊢
  split
  · exact rooted
  · rename_i notDot
    rw [if_neg notDot] at directory
    split
    · exact fun above under => rooted above (under.trans (List.dropLast_prefix place))
    · rename_i notUp
      rw [if_neg notUp] at directory
      intro above under
      rcases List.prefix_concat_iff.mp under with rfl | inside
      · exact directory
      · exact rooted above inside

/-- A walk that ends at a directory has come through the directories above it. -/
theorem rooted_walk (rooted : disk.Rooted place) (walked : disk.walk place names = .ok next)
    (directory : disk.isDirectoryAt next = true) : disk.Rooted next := by
  induction names generalizing place with
  | nil =>
      cases walked
      exact rooted
  | cons name rest ih =>
      simp only [walk] at walked
      split at walked
      · cases entered : disk.enter place name with
        | error reason => simp [entered] at walked
        | ok middle =>
            rw [entered] at walked
            have here := enter_place entered
            subst here
            -- Whether or not the walk goes on, the place it has come to is a directory.
            have passed : disk.isDirectoryAt (follow place name) = true := by
              cases rest with
              | nil =>
                  cases walked
                  exact directory
              | cons later others =>
                  simp only [walk] at walked
                  split at walked
                  · assumption
                  · contradiction
            exact ih (rooted_follow rooted passed) walked
      · contradiction

theorem readText_file (read : disk.readText path = .ok text) :
    ∃ place, disk.walk (disk.start path) (Disk.names path) = .ok place ∧
      disk.isDirectoryAt place = false ∧ endsInSlash path = false ∧ path.chars ≠ [] := by
  simp only [readText, resolve] at read
  cases refused : refusal? path with
  | some reason => simp [refused] at read
  | none =>
      have nonempty : path.chars ≠ [] := by
        intro empty
        simp [refusal?, empty] at refused
      cases walked : disk.walk (disk.start path) (Disk.names path) with
      | error reason => simp [refused, walked] at read
      | ok place =>
          simp only [refused, walked] at read
          cases slash : endsInSlash path && !disk.isDirectoryAt place with
          | true => simp [slash] at read
          | false =>
              simp only [slash, Bool.false_eq_true, if_false] at read
              have file : disk.isDirectoryAt place = false := by
                cases found : disk.node? place with
                | none => simp [isDirectoryAt, found]
                | some node =>
                    cases node with
                    | file content => simp [isDirectoryAt, found]
                    | directory => simp [found] at read
              refine ⟨place, rfl, file, ?_, nonempty⟩
              simpa [file] using slash

theorem readText_namesFile (read : disk.readText path = .ok text) : path.NamesFile := by
  obtain ⟨place, walked, file, noSlash, nonempty⟩ := readText_file read
  have present := Text.pieces_ne_nil '/' path.chars
  obtain ⟨front, name, whole⟩ : ∃ front name, path.segments = front ++ [name] :=
    ⟨_, _, (List.dropLast_concat_getLast present).symm⟩
  have written := FilePath.chars_of_segments whole
  have named : name ≠ [] := by
    rintro rfl
    cases front with
    | nil => exact nonempty written
    | cons first rest =>
        rw [Text.joinPieces_append (by simp) (by simp)] at written
        simp [endsInSlash, written, Text.joinPieces] at noSlash
  rw [names_of_segments whole named] at walked
  obtain ⟨middle, reached, directory, entered⟩ := walk_concat walked
  have rooted : disk.Rooted middle := rooted_walk rooted_start reached directory
  have here := enter_place entered
  have notDot : name ≠ ['.'] := by
    rintro rfl
    have same : place = middle := by simpa [follow] using here
    rw [same, directory] at file
    contradiction
  have notUp : name ≠ ['.', '.'] := by
    rintro rfl
    have same : place = middle.dropLast := by simpa [follow] using here
    rw [same, rooted _ (List.dropLast_prefix middle)] at file
    contradiction
  exact ⟨front, name, whole, by simp [FilePath.isIdle, named, notDot], notUp⟩

theorem names_append (front back : List Char) :
    Disk.names ⟨front ++ '/' :: back⟩ = Disk.names ⟨front⟩ ++ Disk.names ⟨back⟩ := by
  simp only [Disk.names, FilePath.segments, Text.pieces_append_separator, List.filter_append]

theorem start_append {front : List Char} (nonempty : front ≠ []) (more : List Char) :
    disk.start ⟨front ++ more⟩ = disk.start ⟨front⟩ := by
  cases front with
  | nil => exact absurd rfl nonempty
  | cons c rest => rfl

/-- What can be read lies below a directory at every slash of its path. -/
theorem hasDirectory_of_readText {front back : List Char}
    (read : disk.readText ⟨front ++ '/' :: back⟩ = .ok text) (nonempty : front ≠ []) :
    disk.hasDirectory ⟨front⟩ = true := by
  obtain ⟨before, name, ends⟩ := readText_namesFile read
  obtain ⟨place, walked, _, _, _⟩ := readText_file read
  have more : Disk.names ⟨back⟩ ≠ [] := by
    have present := List.getLast?_eq_some_getLast (Text.pieces_ne_nil '/' back)
    have last := congrArg List.getLast? ends.whole
    rw [FilePath.segments, Text.pieces_append_separator, List.getLast?_append, present,
      List.getLast?_concat, Option.some_or, ← present] at last
    have inside : name ∈ Disk.names ⟨back⟩ :=
      List.mem_filter.mpr ⟨List.mem_of_getLast? last, by simpa using ends.nonempty⟩
    exact List.ne_nil_of_mem inside
  have accepted : refusal? ⟨front ++ '/' :: back⟩ = none := by
    cases refused : refusal? ⟨front ++ '/' :: back⟩ with
    | none => rfl
    | some reason => simp [readText, resolve, refused] at read
  rw [names_append, start_append nonempty, walk_append] at walked
  refine hasDirectory_iff.mpr ⟨refusal?_front accepted nonempty, ?_⟩
  cases reached : disk.walk (disk.start ⟨front⟩) (Disk.names ⟨front⟩) with
  | error reason => simp [reached] at walked
  | ok middle =>
      refine ⟨middle, rfl, ?_⟩
      cases directory : disk.isDirectoryAt middle with
      | true => rfl
      | false => simp [reached, walk_of_not_directory directory more] at walked

end Disk

end LiveSelector
