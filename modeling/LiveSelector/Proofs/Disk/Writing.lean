import LiveSelector.Disk.Files
import LiveSelector.Proofs.Disk.Parents

namespace LiveSelector.Disk

/-! What a write does to the files of a disk.  A path stands for one place, whether or not anything
is there yet; a write that succeeds puts its content at that place and leaves every other file
alone, and a write that fails leaves all files alone.  Directories may appear either way. -/

variable {before middle after disk : Disk} {path parent : FilePath} {content : Content}
variable {place next : Place} {name : List Char} {reason : DiskError}

/-- Where a name leads when nothing is in the way. -/
def follow (place : Place) (name : List Char) : Place :=
  if name = ['.'] then place
  else if name = ['.', '.'] then place.dropLast
  else place ++ [name]

/-- The place that a path stands for. -/
def placeOf (disk : Disk) (path : FilePath) : Place :=
  (names path).foldl follow (disk.start path)

/-- What the file that a path stands for holds. -/
def fileAt (disk : Disk) (path : FilePath) : Option Content :=
  disk.file? (disk.placeOf path)

/-- The one disk has the nodes of the other and, where that has none, at most directories. -/
structure Grows (before after : Disk) : Prop where
  sameRoot : after.workingDirectory = before.workingDirectory
  kept : ∀ place node, before.node? place = some node → after.node? place = some node
  added : ∀ place, before.node? place = none →
    after.node? place = none ∨ after.node? place = some .directory

theorem Grows.refl (disk : Disk) : Grows disk disk :=
  ⟨rfl, fun _ _ found => found, fun _ absent => .inl absent⟩

theorem Grows.trans (first : Grows before middle) (second : Grows middle after) :
    Grows before after := by
  refine ⟨second.sameRoot.trans first.sameRoot, ?_, ?_⟩
  · intro place node found
    exact second.kept place node (first.kept place node found)
  · intro place absent
    rcases first.added place absent with still | made
    · exact second.added place still
    · exact .inr (second.kept place _ made)

theorem Grows.file? (grown : Grows before after) (place : Place) :
    after.file? place = before.file? place := by
  simp only [Disk.file?]
  cases found : before.node? place with
  | some node => rw [grown.kept place node found]
  | none =>
      rcases grown.added place found with absent | made
      · rw [absent]
      · rw [made]

theorem Grows.isDirectoryAt (grown : Grows before after)
    (directory : before.isDirectoryAt place = true) : after.isDirectoryAt place = true := by
  simp only [Disk.isDirectoryAt, decide_eq_true_eq] at directory ⊢
  exact grown.kept place _ directory

theorem placeOf_congr (same : after.workingDirectory = before.workingDirectory) (path : FilePath) :
    after.placeOf path = before.placeOf path := by
  simp only [placeOf, start, same]

theorem Grows.placeOf (grown : Grows before after) (path : FilePath) :
    after.placeOf path = before.placeOf path :=
  placeOf_congr grown.sameRoot path

/-- A node can be put wherever no directory has to be kept. -/
theorem listed_of_not_directory (other : disk.node? place ≠ some .directory) :
    place.isPrefixOf disk.workingDirectory = false := by
  cases above : place.isPrefixOf disk.workingDirectory with
  | false => rfl
  | true => exact absurd (by simp [node?, above]) other

theorem grows_set_directory (absent : disk.node? place = none) :
    Grows disk (disk.set place .directory) := by
  have listed : place.isPrefixOf disk.workingDirectory = false :=
    listed_of_not_directory (by simp [absent])
  refine ⟨rfl, ?_, ?_⟩
  · intro other node found
    rw [node?_set listed, if_neg, found]
    rintro rfl
    simp [absent] at found
  · intro other missing
    rw [node?_set listed]
    split
    · exact .inr rfl
    · exact .inl missing

theorem file?_set_file (other : disk.node? place ≠ some .directory) (query : Place) :
    (disk.set place (.file content)).file? query =
      if place = query then some content else disk.file? query := by
  simp only [Disk.file?]
  rw [node?_set (listed_of_not_directory other)]
  by_cases here : place = query
  · simp [here]
  · simp [here]

theorem enter_place (entered : disk.enter place name = .ok next) : next = follow place name := by
  simp only [enter] at entered
  simp only [follow]
  split at entered
  · cases entered
    rw [if_pos ‹_›]
  · rw [if_neg ‹_›]
    split at entered
    · cases entered
      rw [if_pos ‹_›]
    · rw [if_neg ‹_›]
      split at entered
      · contradiction
      · split at entered <;> cases entered
        rfl

theorem walk_place {names : List (List Char)} (walked : disk.walk place names = .ok next) :
    next = names.foldl follow place := by
  induction names generalizing place with
  | nil => cases walked; rfl
  | cons name rest ih =>
      simp only [walk] at walked
      split at walked
      · cases entered : disk.enter place name with
        | error reason => simp [entered] at walked
        | ok middle =>
            rw [entered] at walked
            rw [List.foldl_cons, ← enter_place entered]
            exact ih walked
      · contradiction

theorem parentPlace_place {last : Option (List Char)}
    (found : disk.parentPlace path = .ok (place, last)) :
    place = (names path).dropLast.foldl follow (disk.start path) ∧ last = (names path).getLast? := by
  simp only [parentPlace] at found
  split at found
  · contradiction
  · cases walked : disk.walk (disk.start path) (names path).dropLast with
    | error reason => simp [walked] at found
    | ok place =>
        rw [walked] at found
        simp only at found
        split at found
        · cases found
          exact ⟨walk_place walked, rfl⟩
        · contradiction

theorem follow_of_not_dot (ordinary : isDotName name = false) :
    follow place name = place ++ [name] := by
  simp only [isDotName, Bool.or_eq_false_iff, decide_eq_false_iff_not] at ordinary
  simp [follow, ordinary.1, ordinary.2]

theorem placeOf_of_parentPlace (located : disk.parentPlace path = .ok (place, some name))
    (ordinary : isDotName name = false) : place ++ [name] = disk.placeOf path := by
  obtain ⟨home, last⟩ := parentPlace_place located
  obtain ⟨front, whole⟩ := List.getLast?_eq_some_iff.mp last.symm
  rw [whole, List.dropLast_concat] at home
  rw [placeOf, whole, List.foldl_append, ← home]
  exact (follow_of_not_dot ordinary).symm

/-- A file can be put where an ordinary name leads, unless a directory is there. -/
theorem filePlace_iff :
    disk.filePlace path = .ok place ↔
      '\x00' ∉ path.chars ∧ endsInSlash path = false ∧ disk.isDirectoryAt place = false ∧
        ∃ home name, disk.parentPlace path = .ok (home, some name) ∧ place = home ++ [name] ∧
          isDotName name = false ∧ ¬ FilePath.byteCount name > longestName := by
  unfold filePlace
  by_cases foreign : '\x00' ∈ path.chars
  · simp [foreign]
  · rcases located : disk.parentPlace path with reason | ⟨home, none | name⟩
    · simp [foreign]
    · simp [foreign]
    · simp only [if_neg foreign]
      constructor
      · intro found
        cases dot : isDotName name with
        | true => simp [dot] at found
        | false =>
            by_cases long : FilePath.byteCount name > longestName
            · simp [dot, long] at found
            · cases slash : endsInSlash path with
              | true => simp [dot, long, slash] at found
              | false =>
                  cases taken : disk.isDirectoryAt (home ++ [name]) with
                  | true => simp [dot, long, slash, taken] at found
                  | false =>
                      simp only [dot, slash, taken, Bool.false_eq_true, if_false, if_neg long]
                        at found
                      cases found
                      exact ⟨foreign, rfl, taken, home, name, rfl, rfl, dot, long⟩
      · rintro ⟨_, slash, free, _, _, same, rfl, dot, long⟩
        cases same
        simp only [dot, slash, free, Bool.false_eq_true, if_false, if_neg long]

theorem filePlace_place (found : disk.filePlace path = .ok place) :
    place = disk.placeOf path ∧ disk.node? place ≠ some .directory := by
  obtain ⟨_, _, free, home, name, located, rfl, ordinary, _⟩ := filePlace_iff.mp found
  exact ⟨placeOf_of_parentPlace located ordinary, by simpa [Disk.isDirectoryAt] using free⟩

theorem newDirectoryPlace_place (found : disk.newDirectoryPlace path = .ok place) :
    place = disk.placeOf path ∧ disk.node? place = none := by
  simp only [newDirectoryPlace] at found
  split at found
  · contradiction
  · contradiction
  · rename_i home name located
    split at found
    · contradiction
    · rename_i ordinary
      split at found
      · contradiction
      · split at found
        · contradiction
        · rename_i free
          cases found
          exact ⟨placeOf_of_parentPlace located (by simpa using ordinary), by simpa using free⟩

theorem makeDirectory_ok (made : disk.makeDirectory path = .ok after) :
    disk.node? (disk.placeOf path) = none ∧ after = disk.set (disk.placeOf path) .directory := by
  simp only [makeDirectory] at made
  cases located : disk.newDirectoryPlace path with
  | error reason => simp [located] at made
  | ok place =>
      rw [located] at made
      cases made
      obtain ⟨rfl, absent⟩ := newDirectoryPlace_place located
      exact ⟨absent, rfl⟩

theorem makeDirectory_grows (made : disk.makeDirectory path = .ok after) : Grows disk after := by
  obtain ⟨absent, rfl⟩ := makeDirectory_ok made
  exact grows_set_directory absent

/-- What comes of making a path's directory and directories above it, one after the other. -/
inductive Makes (path : FilePath) (before : Disk) : Disk → Prop where
  | nothing : Makes path before before
  | next {middle after : Disk} {directory : FilePath} (earlier : Makes path before middle)
      (above : path.Above directory) (made : middle.makeDirectory directory = .ok after) :
      Makes path before after

namespace Makes

theorem grows (made : Makes path before after) : Grows before after := by
  induction made with
  | nothing => exact .refl before
  | next _ _ made ih => exact ih.trans (makeDirectory_grows made)

theorem of_parent? (made : Makes parent before after) (found : path.parent? = some parent) :
    Makes path before after := by
  induction made with
  | nothing => exact .nothing
  | next _ above made ih => exact .next ih (above.of_parent? found) made

/-- What is new is a directory above the path. -/
theorem added (made : Makes path before after) (absent : before.node? place = none)
    (present : after.node? place ≠ none) :
    after.node? place = some .directory ∧
      ∃ directory, path.Above directory ∧ place = before.placeOf directory := by
  induction made with
  | nothing => exact absurd absent present
  | @next middle after directory earlier above made ih =>
      obtain ⟨free, same⟩ := makeDirectory_ok made
      have listed : (middle.placeOf directory).isPrefixOf middle.workingDirectory = false :=
        listed_of_not_directory (by simp [free])
      rw [same, node?_set listed] at present ⊢
      rw [earlier.grows.placeOf] at present ⊢
      by_cases here : before.placeOf directory = place
      · exact ⟨if_pos here, directory, above, here.symm⟩
      · rw [if_neg here] at present ⊢
        exact ih present

end Makes

theorem makeDirectoriesWithin_makes (disk : Disk) (path : FilePath) (depth : Nat) :
    Makes path disk (makeDirectoriesWithin depth disk path).1 := by
  induction depth generalizing path with
  | zero => exact .nothing
  | succ depth ih =>
      simp only [makeDirectoriesWithin]
      cases found : path.parent? with
      | none => exact .nothing
      | some parent =>
          simp only
          split
          · rename_i whole made
            exact .next .nothing .self made
          · have above := (ih parent).of_parent? found
            split
            · rename_i made reason failed
              rw [failed] at above
              exact above
            · rename_i made done
              rw [done] at above
              split
              · rename_i whole finished
                exact .next above .self finished
              · split <;> exact above
          · split <;> exact .nothing

/-- A write makes directories and then either puts its file where its path leads or fails. -/
theorem writeAtomic_cases (disk : Disk) (path : FilePath) (content : Content) :
    ∃ made, Makes (homeDirectory path) disk made ∧
      ((∃ reason, disk.writeAtomic path content = (made, .error reason)) ∨
        made.node? (disk.placeOf path) ≠ some .directory ∧
          disk.writeAtomic path content =
            (made.set (disk.placeOf path) (.file content), .ok ())) := by
  have above := makeDirectoriesWithin_makes disk (homeDirectory path)
    ((homeDirectory path).chars.length + 1)
  simp only [writeAtomic, makeDirectories]
  rcases making : makeDirectoriesWithin _ disk (homeDirectory path) with ⟨made, reason | done⟩
  · rw [making] at above
    exact ⟨made, above, .inl ⟨reason, rfl⟩⟩
  · rw [making] at above
    refine ⟨made, above, ?_⟩
    unfold replaceFile
    cases located : made.filePlace path with
    | error reason => exact .inl ⟨reason, by simp only [located]⟩
    | ok place =>
        obtain ⟨here, free⟩ := filePlace_place located
        rw [above.grows.placeOf] at here
        subst here
        exact .inr ⟨free, by simp only [located]⟩

theorem writeAtomic_workingDirectory (disk : Disk) (path : FilePath) (content : Content) :
    (disk.writeAtomic path content).1.workingDirectory = disk.workingDirectory := by
  obtain ⟨made, above, ⟨reason, failed⟩ | ⟨_, written⟩⟩ := writeAtomic_cases disk path content
  · rw [failed]
    exact above.grows.sameRoot
  · rw [written]
    exact above.grows.sameRoot

theorem writeAtomic_error_makes (failed : disk.writeAtomic path content = (after, .error reason)) :
    Makes (homeDirectory path) disk after := by
  obtain ⟨made, above, ⟨_, same⟩ | ⟨_, written⟩⟩ := writeAtomic_cases disk path content
  · cases failed.symm.trans same
    exact above
  · cases failed.symm.trans written

theorem writeAtomic_error_file? (failed : disk.writeAtomic path content = (after, .error reason))
    (query : Place) : after.file? query = disk.file? query :=
  (writeAtomic_error_makes failed).grows.file? query

theorem writeAtomic_ok_file? (written : disk.writeAtomic path content = (after, .ok ()))
    (query : Place) :
    after.file? query = if disk.placeOf path = query then some content else disk.file? query := by
  obtain ⟨made, above, ⟨_, failed⟩ | ⟨free, same⟩⟩ := writeAtomic_cases disk path content
  · cases written.symm.trans failed
  · cases written.symm.trans same
    rw [file?_set_file free, above.grows.file?]

theorem writeAtomic_file?_of_ne {query : Place} (other : disk.placeOf path ≠ query) :
    (disk.writeAtomic path content).1.file? query = disk.file? query := by
  rcases written : disk.writeAtomic path content with ⟨after, reason | done⟩
  · exact writeAtomic_error_file? written query
  · rw [writeAtomic_ok_file? written, if_neg other]

theorem writeAtomic_ok_fileAt (written : disk.writeAtomic path content = (after, .ok ())) :
    after.fileAt path = some content := by
  have sameRoot : after.workingDirectory = disk.workingDirectory := by
    rw [← writeAtomic_workingDirectory disk path content, written]
  rw [fileAt, placeOf_congr sameRoot, writeAtomic_ok_file? written, if_pos rfl]

theorem writeAtomic_error_fileAt (failed : disk.writeAtomic path content = (after, .error reason))
    (other : FilePath) : after.fileAt other = disk.fileAt other := by
  have sameRoot : after.workingDirectory = disk.workingDirectory := by
    rw [← writeAtomic_workingDirectory disk path content, failed]
  rw [fileAt, placeOf_congr sameRoot, writeAtomic_error_file? failed, fileAt]

end LiveSelector.Disk
