import LiveSelector.Proofs.Disk.Writing

namespace LiveSelector.Disk

/-! Walks.  A walk goes on from a directory only, and a walk on one disk is one on every disk that
has the same nodes and directories and more. -/

variable {before after disk : Disk} {path : FilePath} {content : Content}
variable {place next : Place} {name : List Char} {names front back : List (List Char)}
variable {reason : DiskError}

/-- Every walk on the one disk is one on the other. -/
structure Keeps (before after : Disk) : Prop where
  sameRoot : after.workingDirectory = before.workingDirectory
  nodes : ∀ place, (before.node? place).isSome = true → (after.node? place).isSome = true
  directories : ∀ place, before.isDirectoryAt place = true → after.isDirectoryAt place = true

theorem Grows.keeps (grown : Grows before after) : Keeps before after := by
  refine ⟨grown.sameRoot, fun place present => ?_, fun place => grown.isDirectoryAt⟩
  obtain ⟨node, found⟩ := Option.isSome_iff_exists.mp present
  rw [grown.kept place node found]
  rfl

theorem keeps_set_file (content : Content) (free : disk.node? place ≠ some .directory) :
    Keeps disk (disk.set place (.file content)) := by
  have listed := listed_of_not_directory free
  refine ⟨rfl, fun other present => ?_, fun other directory => ?_⟩
  · rw [node?_set listed]
    split
    · rfl
    · exact present
  · simp only [isDirectoryAt, decide_eq_true_eq] at directory ⊢
    rw [node?_set listed, if_neg]
    · exact directory
    · rintro rfl
      exact free directory

theorem Keeps.enter (kept : Keeps before after) (entered : before.enter place name = .ok next) :
    after.enter place name = .ok next := by
  simp only [Disk.enter] at entered ⊢
  split
  · rw [if_pos ‹_›] at entered
    exact entered
  · rw [if_neg ‹_›] at entered
    split
    · rw [if_pos ‹_›] at entered
      exact entered
    · rw [if_neg ‹_›] at entered
      split
      · rw [if_pos ‹_›] at entered
        exact entered
      · rw [if_neg ‹_›] at entered
        cases found : before.node? (place ++ [name]) with
        | none => simp [found] at entered
        | some node =>
            have present := kept.nodes (place ++ [name]) (by rw [found]; rfl)
            obtain ⟨other, same⟩ := Option.isSome_iff_exists.mp present
            rw [found] at entered
            rw [same]
            exact entered

theorem Keeps.walk (kept : Keeps before after) (walked : before.walk place names = .ok next) :
    after.walk place names = .ok next := by
  induction names generalizing place with
  | nil => exact walked
  | cons name rest ih =>
      simp only [Disk.walk] at walked ⊢
      split at walked
      · rename_i directory
        rw [if_pos (kept.directories place directory)]
        cases entered : before.enter place name with
        | error reason => simp [entered] at walked
        | ok middle =>
            rw [entered] at walked
            rw [kept.enter entered]
            exact ih walked
      · contradiction

theorem Keeps.start (kept : Keeps before after) (path : FilePath) :
    after.start path = before.start path := by
  simp only [Disk.start, kept.sameRoot]

theorem walk_append :
    disk.walk place (front ++ back) =
      match disk.walk place front with
      | .error reason => .error reason
      | .ok middle => disk.walk middle back := by
  induction front generalizing place with
  | nil => rfl
  | cons name rest ih =>
      simp only [List.cons_append, walk]
      split
      · cases disk.enter place name with
        | error reason => rfl
        | ok middle => exact ih
      · rfl

theorem walk_of_not_directory (blocked : disk.isDirectoryAt place = false) (more : names ≠ []) :
    disk.walk place names = .error .notDirectory := by
  cases names with
  | nil => exact absurd rfl more
  | cons name rest => simp [walk, blocked]

theorem start_isDirectoryAt : disk.isDirectoryAt (disk.start path) = true := by
  simp only [start]
  split
  · simp [isDirectoryAt, node?]
  · simp [isDirectoryAt, node?]

theorem hasDirectory_iff :
    disk.hasDirectory path = true ↔
      refusal? path = none ∧ ∃ place, disk.walk (disk.start path) (Disk.names path) = .ok place ∧
        disk.isDirectoryAt place = true := by
  simp only [hasDirectory, resolve]
  cases refused : refusal? path with
  | some reason => simp
  | none =>
      cases walked : disk.walk (disk.start path) (Disk.names path) with
      | error reason => simp
      | ok place =>
          cases directory : disk.isDirectoryAt place with
          | true => simp [directory]
          | false =>
              cases endsInSlash path
              · simp [directory]
              · simp [directory]

theorem Keeps.hasDirectory (kept : Keeps before after) (there : before.hasDirectory path = true) :
    after.hasDirectory path = true := by
  obtain ⟨accepted, place, walked, directory⟩ := hasDirectory_iff.mp there
  refine hasDirectory_iff.mpr ⟨accepted, place, ?_, kept.directories place directory⟩
  rw [kept.start]
  exact kept.walk walked

theorem walk_concat (walked : disk.walk place (front ++ [name]) = .ok next) :
    ∃ middle, disk.walk place front = .ok middle ∧ disk.isDirectoryAt middle = true ∧
      disk.enter middle name = .ok next := by
  rw [walk_append] at walked
  cases reached : disk.walk place front with
  | error reason => simp [reached] at walked
  | ok middle =>
      simp only [reached, Disk.walk] at walked
      split at walked
      · rename_i directory
        refine ⟨middle, rfl, directory, ?_⟩
        cases entered : disk.enter middle name with
        | error reason => simp [entered] at walked
        | ok last =>
            rw [entered] at walked
            exact walked
      · contradiction

theorem enter_of_dot (disk : Disk) (place : Place) (dot : isDotName name = true) :
    ∃ next, disk.enter place name = .ok next := by
  simp only [Disk.enter]
  split
  · exact ⟨_, rfl⟩
  · rename_i notDot
    have up : name = ['.', '.'] := by simpa [isDotName, notDot] using dot
    rw [if_pos up]
    exact ⟨_, rfl⟩

theorem enter_of_ordinary (ordinary : isDotName name = false) :
    disk.enter place name =
      if FilePath.byteCount name > longestName then .error .nameTooLong
      else if (disk.node? (place ++ [name])).isSome then .ok (place ++ [name])
      else .error .notFound := by
  simp only [isDotName, Bool.or_eq_false_iff, decide_eq_false_iff_not] at ordinary
  rw [Disk.enter, if_neg ordinary.1, if_neg ordinary.2]
  cases found : disk.node? (place ++ [name]) with
  | none => simp only [Option.isSome_none, Bool.false_eq_true, if_false]
  | some node => simp only [Option.isSome_some, if_true]

theorem parentPlace_of_no_names (accepted : refusal? path = none)
    (nowhere : Disk.names path = []) :
    disk.parentPlace path = .ok (disk.start path, none) := by
  simp only [parentPlace, accepted, nowhere, List.dropLast_nil, Disk.walk,
    start_isDirectoryAt, if_true, List.getLast?_nil]

theorem parentPlace_concat (disk : Disk) (accepted : refusal? path = none)
    (whole : Disk.names path = front ++ [name]) :
    disk.parentPlace path =
      match disk.walk (disk.start path) front with
      | .error reason => .error reason
      | .ok middle =>
        if disk.isDirectoryAt middle then .ok (middle, some name) else .error .notDirectory := by
  simp only [Disk.parentPlace]
  cases reached : disk.walk (disk.start path) front with
  | error reason => simp only [accepted, whole, List.dropLast_concat, reached]
  | ok middle => simp only [accepted, whole, List.dropLast_concat, List.getLast?_concat, reached]

theorem Keeps.parentPlace (kept : Keeps before after) {last : Option (List Char)}
    (located : before.parentPlace path = .ok (place, last)) :
    after.parentPlace path = .ok (place, last) := by
  simp only [Disk.parentPlace] at located ⊢
  cases accepted : refusal? path with
  | some reason => simp [accepted] at located
  | none =>
      rw [accepted] at located
      cases reached : before.walk (before.start path) (Disk.names path).dropLast with
      | error reason => simp [reached] at located
      | ok middle =>
          cases directory : before.isDirectoryAt middle with
          | false => simp [reached, directory] at located
          | true =>
              simp only [reached, directory, if_true] at located
              simp only [kept.start, kept.walk reached, kept.directories middle directory, if_true]
              exact located

end LiveSelector.Disk
