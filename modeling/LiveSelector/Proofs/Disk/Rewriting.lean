import LiveSelector.Proofs.Disk.Directories

namespace LiveSelector.Disk

/-! Writing the same file twice.  Where a write has succeeded its content is read, and another write
succeeds and puts its own content in that place; one of the same content finds the disk as it has to
leave it.  If the first write fails the second one, of the same content, fails as well, though it may
be refused for another reason: directories that the first one made before it failed can be in the
second one's way. -/

variable {before after disk : Disk} {path : FilePath} {content : Content} {place : Place}
variable {name : List Char} {text : String} {reason : DiskError}

theorem Keeps.filePlace (kept : Keeps before after) (located : before.filePlace path = .ok place)
    (free : after.isDirectoryAt place = false) : after.filePlace path = .ok place := by
  obtain ⟨clean, plain, _, home, name, above, here, ordinary, short⟩ := filePlace_iff.mp located
  exact filePlace_iff.mpr
    ⟨clean, plain, free, home, name, kept.parentPlace above, here, ordinary, short⟩

theorem parentPlace_walk (found : disk.parentPlace path = .ok (place, some name)) :
    refusal? path = none ∧ ∃ front, names path = front ++ [name] ∧
      disk.walk (disk.start path) front = .ok place ∧ disk.isDirectoryAt place = true := by
  have last := (parentPlace_place found).2
  obtain ⟨front, whole⟩ := List.getLast?_eq_some_iff.mp last.symm
  cases accepted : refusal? path with
  | some reason => simp [parentPlace, accepted] at found
  | none =>
      rw [parentPlace_concat disk accepted whole] at found
      cases reached : disk.walk (disk.start path) front with
      | error reason => simp [reached] at found
      | ok middle =>
          cases directory : disk.isDirectoryAt middle with
          | false => simp [reached, directory] at found
          | true =>
              simp only [reached, directory, if_true] at found
              cases found
              exact ⟨rfl, front, whole, reached, directory⟩

/-- A path leads to what stands where its file can be put. -/
theorem resolve_of_filePlace (located : disk.filePlace path = .ok place)
    (present : (disk.node? place).isSome = true) : disk.resolve path = .ok place := by
  obtain ⟨_, plain, _, home, name, above, rfl, ordinary, short⟩ := filePlace_iff.mp located
  obtain ⟨accepted, front, whole, reached, directory⟩ := parentPlace_walk above
  have entered : disk.enter home name = .ok (home ++ [name]) := by
    rw [enter_of_ordinary ordinary, if_neg short, if_pos present]
  have walked : disk.walk (disk.start path) (names path) = .ok (home ++ [name]) := by
    rw [whole, walk_append, reached]
    simp only [walk, directory, if_true, entered]
  simp only [resolve, accepted, walked, plain, Bool.false_and, Bool.false_eq_true, if_false]

theorem assignNode_twice {first second : Node} (nodes : List (Place × Node)) :
    assignNode place second (assignNode place first nodes) = assignNode place second nodes := by
  induction nodes with
  | nil => simp [assignNode]
  | cons entry rest ih =>
      obtain ⟨here, old⟩ := entry
      simp only [assignNode]
      split
      · simp [assignNode]
      · rename_i distinct
        simp [assignNode, distinct, ih]

theorem set_twice {first second : Node} :
    (disk.set place first).set place second = disk.set place second := by
  simp only [set, assignNode_twice]

/-- Where a write has succeeded its content stands, and everything is there for another one. -/
theorem writeAtomic_ok_made (written : disk.writeAtomic path content = (after, .ok ())) :
    ∃ (made : Disk) (place : Place), after = made.set place (.file content) ∧
      after.node? place = some (.file content) ∧ after.filePlace path = .ok place ∧
      after.isMade (homeDirectory path) = true := by
  simp only [writeAtomic, makeDirectories] at written
  rcases making : makeDirectoriesWithin _ disk (homeDirectory path) with ⟨made, reason | done⟩
  · rw [making] at written
    cases written
  · rw [making] at written
    simp only [replaceFile] at written
    cases located : made.filePlace path with
    | error reason => simp [located] at written
    | ok place =>
        rw [located] at written
        cases written
        have free := (filePlace_place located).2
        have kept := keeps_set_file content free
        have here : (made.set place (.file content)).node? place = some (.file content) := by
          rw [node?_set (listed_of_not_directory free), if_pos rfl]
        have file : (made.set place (.file content)).isDirectoryAt place = false := by
          simp [isDirectoryAt, here]
        exact ⟨made, place, rfl, here, kept.filePlace located file,
          kept.isMade (isMade_of_makeDirectoriesWithin making)⟩

theorem writeAtomic_ok_readText (written : disk.writeAtomic path (.text text) = (after, .ok ())) :
    after.readText path = .ok text := by
  obtain ⟨made, place, _, here, located, _⟩ := writeAtomic_ok_made written
  have resolved := resolve_of_filePlace located (by rw [here]; rfl)
  simp only [readText, resolved, here]

theorem writeAtomic_over_ok (written : disk.writeAtomic path content = (after, .ok ()))
    (other : Content) : ∃ last, after.writeAtomic path other = (last, .ok ()) := by
  obtain ⟨made, place, _, _, located, there⟩ := writeAtomic_ok_made written
  exact ⟨after.set place (.file other), by
    simp only [writeAtomic, makeDirectories, makeDirectoriesWithin_made there, replaceFile, located]⟩

theorem writeAtomic_again_ok (written : disk.writeAtomic path content = (after, .ok ())) :
    after.writeAtomic path content = (after, .ok ()) := by
  obtain ⟨made, place, same, _, located, there⟩ := writeAtomic_ok_made written
  simp only [writeAtomic, makeDirectories, makeDirectoriesWithin_made there, replaceFile, located]
  rw [same, set_twice]

theorem writeAtomic_again_error
    (failed : disk.writeAtomic path content = (after, .error reason)) :
    ∃ again, after.writeAtomic path content = (after, .error again) ∧ reason.Recurs again := by
  simp only [writeAtomic, makeDirectories] at failed
  rcases making : makeDirectoriesWithin _ disk (homeDirectory path) with ⟨made, early | done⟩
  · rw [making] at failed
    cases failed
    obtain ⟨again, stuck, recurs⟩ := makeDirectoriesWithin_again making
    exact ⟨again, by simp only [writeAtomic, makeDirectories, stuck], recurs⟩
  · rw [making] at failed
    simp only at failed
    cases replaced : made.replaceFile path content with
    | ok whole => simp [replaced] at failed
    | error late =>
        rw [replaced] at failed
        cases failed
        have there := isMade_of_makeDirectoriesWithin making
        refine ⟨reason, ?_, .inl rfl⟩
        simp only [writeAtomic, makeDirectories, makeDirectoriesWithin_made there, replaced]

end LiveSelector.Disk
