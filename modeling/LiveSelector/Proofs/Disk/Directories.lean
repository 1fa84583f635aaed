import LiveSelector.Proofs.Disk.Parents
import LiveSelector.Proofs.Disk.Walking

namespace LiveSelector

/-! Making directories.  A directory that is there is not made again, one that has been made is
there, and where directories cannot be made a second attempt stops as well, with nothing more
made. -/

/-- How the refusal of a write may read when the write is repeated. -/
def DiskError.Recurs (first again : DiskError) : Prop :=
  again = first ∨ first = .alreadyExists ∧ again = .notDirectory

theorem DiskError.Recurs.trans {first second third : DiskError} (early : first.Recurs second)
    (late : second.Recurs third) : first.Recurs third := by
  rcases early with rfl | ⟨taken, rfl⟩
  · exact late
  · rcases late with rfl | ⟨wrong, _⟩
    · exact .inr ⟨taken, rfl⟩
    · contradiction

namespace Disk

variable {after disk made : Disk} {path parent : FilePath} {place : Place} {name : List Char}
variable {reason : DiskError}

theorem makeDirectory_located (located : disk.parentPlace path = .ok (place, some name)) :
    disk.makeDirectory path =
      if isDotName name then .error .alreadyExists
      else if FilePath.byteCount name > longestName then .error .nameTooLong
      else if (disk.node? (place ++ [name])).isSome then .error .alreadyExists
      else .ok (disk.set (place ++ [name]) .directory) := by
  simp only [makeDirectory, newDirectoryPlace, located]
  by_cases dot : isDotName name = true
  · simp only [if_pos dot]
  · by_cases long : FilePath.byteCount name > longestName
    · simp only [if_neg dot, if_pos long]
    · by_cases taken : (disk.node? (place ++ [name])).isSome = true
      · simp only [if_neg dot, if_neg long, if_pos taken]
      · simp only [if_neg dot, if_neg long, if_neg taken]

theorem makeDirectory_of_walk (accepted : refusal? path = none)
    (walked : disk.walk (disk.start path) (names path) = .ok place) :
    disk.makeDirectory path = .error .alreadyExists := by
  rcases List.eq_nil_or_concat (names path) with nowhere | ⟨front, last, whole⟩
  · simp only [makeDirectory, newDirectoryPlace, parentPlace_of_no_names accepted nowhere]
  · rw [List.concat_eq_append] at whole
    rw [whole] at walked
    obtain ⟨middle, reached, inside, entered⟩ := walk_concat walked
    have located : disk.parentPlace path = .ok (middle, some last) := by
      simp only [parentPlace_concat disk accepted whole, reached, inside, if_true]
    rw [makeDirectory_located located]
    cases dot : isDotName last with
    | true => rfl
    | false =>
        rw [enter_of_ordinary dot] at entered
        split at entered
        · contradiction
        · rename_i short
          split at entered
          · rename_i present
            simp only [Bool.false_eq_true, if_false, if_neg short, if_pos present]
          · contradiction

theorem makeDirectory_of_hasDirectory (there : disk.hasDirectory path = true) :
    disk.makeDirectory path = .error .alreadyExists := by
  obtain ⟨accepted, place, walked, _⟩ := hasDirectory_iff.mp there
  exact makeDirectory_of_walk accepted walked

theorem makeDirectory_of_parentPlace (blocked : disk.parentPlace path = .error reason) :
    disk.makeDirectory path = .error reason := by
  simp only [makeDirectory, newDirectoryPlace, blocked]

/-- Where the walk along a path is stopped, the path is refused for the same reason, if it is
refused at all. -/
theorem makeDirectory_of_stopped {refusal : DiskError} (accepted : refusal? path = none)
    (stopped : disk.walk (disk.start path) (names path) = .error reason)
    (refused : disk.makeDirectory path = .error refusal) : refusal = reason := by
  rcases List.eq_nil_or_concat (names path) with nowhere | ⟨front, last, whole⟩
  · simp [nowhere, walk] at stopped
  · rw [List.concat_eq_append] at whole
    rw [whole, walk_append] at stopped
    have located := parentPlace_concat disk accepted whole
    cases reached : disk.walk (disk.start path) front with
    | error early =>
        simp only [reached, Except.error.injEq] at stopped located
        rw [makeDirectory_of_parentPlace located] at refused
        cases refused
        exact stopped
    | ok middle =>
        simp only [reached] at stopped located
        cases inside : disk.isDirectoryAt middle with
        | false =>
            simp only [inside, walk, Bool.false_eq_true, if_false, Except.error.injEq]
              at stopped located
            rw [makeDirectory_of_parentPlace located] at refused
            cases refused
            exact stopped
        | true =>
            simp only [inside, if_true] at located
            simp only [walk, inside, if_true] at stopped
            rw [makeDirectory_located located] at refused
            cases dot : isDotName last with
            | true =>
                obtain ⟨next, entered⟩ := enter_of_dot disk middle dot
                simp [entered] at stopped
            | false =>
                rw [enter_of_ordinary dot] at stopped
                by_cases long : FilePath.byteCount last > longestName
                · simp only [if_pos long, Except.error.injEq] at stopped
                  simp only [dot, Bool.false_eq_true, if_false, if_pos long,
                    Except.error.injEq] at refused
                  rw [← stopped, refused]
                · by_cases present : (disk.node? (middle ++ [last])).isSome = true
                  · simp [long, present] at stopped
                  · simp [dot, long, present] at refused

theorem makeDirectory_made (made : disk.makeDirectory path = .ok after) :
    refusal? path = none ∧ ∃ front last place, names path = front ++ [last] ∧
      disk.walk (disk.start path) front = .ok place ∧ disk.isDirectoryAt place = true ∧
      isDotName last = false ∧ ¬ FilePath.byteCount last > longestName ∧
      disk.node? (place ++ [last]) = none ∧ after = disk.set (place ++ [last]) .directory := by
  cases accepted : refusal? path with
  | some reason => simp [makeDirectory, newDirectoryPlace, parentPlace, accepted] at made
  | none =>
      rcases List.eq_nil_or_concat (names path) with nowhere | ⟨front, last, whole⟩
      · simp [makeDirectory, newDirectoryPlace, parentPlace_of_no_names accepted nowhere] at made
      · rw [List.concat_eq_append] at whole
        have located := parentPlace_concat disk accepted whole
        cases reached : disk.walk (disk.start path) front with
        | error reason =>
            rw [reached] at located
            rw [makeDirectory_of_parentPlace located] at made
            contradiction
        | ok middle =>
            cases inside : disk.isDirectoryAt middle with
            | false =>
                simp only [reached, inside, Bool.false_eq_true, if_false] at located
                rw [makeDirectory_of_parentPlace located] at made
                contradiction
            | true =>
                simp only [reached, inside, if_true] at located
                rw [makeDirectory_located located] at made
                refine ⟨rfl, front, last, middle, whole, reached, inside, ?_⟩
                split at made
                · contradiction
                · rename_i dot
                  split at made
                  · contradiction
                  · rename_i short
                    split at made
                    · contradiction
                    · rename_i free
                      cases made
                      exact ⟨by simpa using dot, short, by simpa using free, rfl⟩

theorem hasDirectory_of_makeDirectory (made : disk.makeDirectory path = .ok after) :
    after.hasDirectory path = true := by
  have kept := (makeDirectory_grows made).keeps
  obtain ⟨accepted, front, last, place, whole, reached, inside, ordinary, short, free, same⟩ :=
    makeDirectory_made made
  have listed : (place ++ [last]).isPrefixOf disk.workingDirectory = false :=
    listed_of_not_directory (by simp [free])
  have there : after.node? (place ++ [last]) = some .directory := by
    rw [same, node?_set listed, if_pos rfl]
  refine hasDirectory_iff.mpr ⟨accepted, place ++ [last], ?_, by simp [isDirectoryAt, there]⟩
  rw [kept.start, whole, walk_append, kept.walk reached]
  simp only [walk, kept.directories place inside, if_true, enter_of_ordinary ordinary,
    if_neg short, there, Option.isSome_some]

theorem start_parent? (found : path.parent? = some parent) (nonempty : parent.chars ≠ []) :
    disk.start path = disk.start parent := by
  rw [start, start, FilePath.isAbsolute_parent? found nonempty]

/-- The walk to the directory that is to hold a path's last name goes along the path's parent. -/
theorem parentPlace_under (disk : Disk) (found : path.parent? = some parent)
    (nonempty : parent.chars ≠ []) (accepted : refusal? path = none) :
    ∃ rest, disk.parentPlace path =
      match disk.walk (disk.start parent) (Disk.names parent ++ rest) with
      | .error reason => .error reason
      | .ok place =>
        if disk.isDirectoryAt place then .ok (place, (Disk.names path).getLast?)
        else .error .notDirectory := by
  obtain ⟨more, present, whole⟩ := names_parent? found nonempty
  refine ⟨more.dropLast, ?_⟩
  have along : (Disk.names path).dropLast = Disk.names parent ++ more.dropLast := by
    rw [whole, List.dropLast_append_of_ne_nil present]
  simp only [Disk.parentPlace]
  cases reached : disk.walk (disk.start parent) (Disk.names parent ++ more.dropLast) with
  | error reason => simp only [accepted, along, start_parent? found nonempty, reached]
  | ok middle => simp only [accepted, along, start_parent? found nonempty, reached]

/-- Where the parent can be neither made nor found, the path cannot be made either. -/
theorem makeDirectory_under (found : path.parent? = some parent) (nonempty : parent.chars ≠ [])
    (accepted : refusal? path = none) (failed : disk.makeDirectory parent = .error reason)
    (missing : disk.hasDirectory parent = false) :
    ∃ again, disk.makeDirectory path = .error again ∧ reason.Recurs again := by
  have acceptedParent := refusal?_parent? found nonempty accepted
  obtain ⟨rest, located⟩ := parentPlace_under disk found nonempty accepted
  rw [walk_append] at located
  cases walked : disk.walk (disk.start parent) (names parent) with
  | ok place =>
      -- The parent is there, but it is no directory: it exists, and nothing can be below it.
      have blocked : disk.isDirectoryAt place = false := by
        cases directory : disk.isDirectoryAt place with
        | false => rfl
        | true =>
            rw [hasDirectory_iff.mpr ⟨acceptedParent, place, walked, directory⟩] at missing
            contradiction
      have refused : disk.parentPlace path = .error .notDirectory := by
        rw [located, walked]
        cases rest with
        | nil => simp [walk, blocked]
        | cons name more => simp [walk_of_not_directory blocked]
      rw [makeDirectory_of_walk acceptedParent walked] at failed
      cases failed
      exact ⟨.notDirectory, makeDirectory_of_parentPlace refused, .inr ⟨rfl, rfl⟩⟩
  | error stopped =>
      have refused : disk.parentPlace path = .error stopped := by rw [located, walked]
      refine ⟨stopped, makeDirectory_of_parentPlace refused, .inl ?_⟩
      exact (makeDirectory_of_stopped acceptedParent walked failed).symm

theorem hasDirectory_parent? (found : path.parent? = some parent) (nonempty : parent.chars ≠ [])
    (there : disk.hasDirectory path = true) : disk.hasDirectory parent = true := by
  obtain ⟨accepted, place, walked, _⟩ := hasDirectory_iff.mp there
  obtain ⟨more, present, whole⟩ := names_parent? found nonempty
  rw [whole, walk_append, start_parent? found nonempty] at walked
  cases reached : disk.walk (disk.start parent) (Disk.names parent) with
  | error reason => simp [reached] at walked
  | ok middle =>
      rw [reached] at walked
      refine hasDirectory_iff.mpr ⟨refusal?_parent? found nonempty accepted, middle, reached, ?_⟩
      cases directory : disk.isDirectoryAt middle with
      | true => rfl
      | false =>
          simp only [walk_of_not_directory directory present] at walked
          contradiction

/-- Whether there is nothing to make of a path: it names a directory, or it is the root or
empty. -/
def isMade (disk : Disk) (path : FilePath) : Bool :=
  path.parent?.isNone || disk.hasDirectory path

theorem makeDirectoriesWithin_made (there : disk.isMade path = true) (depth : Nat) :
    makeDirectoriesWithin depth disk path = (disk, .ok ()) := by
  cases depth with
  | zero => rfl
  | succ depth =>
      simp only [makeDirectoriesWithin]
      cases found : path.parent? with
      | none => rfl
      | some parent =>
          simp only [isMade, found, Option.isNone_some, Bool.false_or] at there
          simp only [makeDirectory_of_hasDirectory there, there, if_true]

section Levels

variable {depth : Nat}

theorem makeDirectoriesWithin_first (found : path.parent? = some parent)
    (whole : disk.makeDirectory path = .ok after) :
    makeDirectoriesWithin (depth + 1) disk path = (after, .ok ()) := by
  simp only [makeDirectoriesWithin, found, whole]

theorem makeDirectoriesWithin_refused (found : path.parent? = some parent)
    (refused : disk.makeDirectory path = .error reason) (other : reason ≠ .notFound) :
    makeDirectoriesWithin (depth + 1) disk path =
      if disk.hasDirectory path then (disk, .ok ()) else (disk, .error reason) := by
  cases reason with
  | notFound => exact absurd rfl other
  | _ => simp only [makeDirectoriesWithin, found, refused]

theorem makeDirectoriesWithin_notFound (found : path.parent? = some parent)
    (refused : disk.makeDirectory path = .error .notFound) :
    makeDirectoriesWithin (depth + 1) disk path =
      match makeDirectoriesWithin depth disk parent with
      | (made, .error reason) => (made, .error reason)
      | (made, .ok ()) =>
        match made.makeDirectory path with
        | .ok whole => (whole, .ok ())
        | .error reason =>
          if made.hasDirectory path then (made, .ok ()) else (made, .error reason) := by
  rw [makeDirectoriesWithin]
  rcases above : makeDirectoriesWithin depth disk parent with ⟨made, reason | done⟩
  · simp only [found, refused, above]
  · cases last : made.makeDirectory path with
    | ok whole => simp only [found, refused, above, last]
    | error reason => simp only [found, refused, above, last]

theorem isMade_of_makeDirectoriesWithin
    (made : makeDirectoriesWithin (depth + 1) disk path = (after, .ok ())) :
    after.isMade path = true := by
  cases found : path.parent? with
  | none => simp [isMade, found]
  | some parent =>
      have there : after.hasDirectory path = true := by
        cases alone : disk.makeDirectory path with
        | ok whole =>
            rw [makeDirectoriesWithin_first found alone] at made
            cases made
            exact hasDirectory_of_makeDirectory alone
        | error reason =>
            by_cases absent : reason = .notFound
            · subst absent
              rw [makeDirectoriesWithin_notFound found alone] at made
              split at made
              · cases made
              · split at made
                · rename_i whole again
                  cases made
                  exact hasDirectory_of_makeDirectory again
                · split at made <;> cases made
                  assumption
            · rw [makeDirectoriesWithin_refused found alone absent] at made
              split at made <;> cases made
              assumption
      simp [isMade, there]

/-- Where making directories fails with nothing made, the path itself is refused. -/
theorem makeDirectory_of_stuck
    (stuck : makeDirectoriesWithin depth disk path = (disk, .error reason)) :
    disk.hasDirectory path = false ∧ path.chars ≠ [] ∧
      ∃ refusal, disk.makeDirectory path = .error refusal ∧
        (refusal ≠ .notFound → refusal = reason) := by
  cases depth with
  | zero => cases stuck
  | succ depth =>
      cases found : path.parent? with
      | none => simp [makeDirectoriesWithin, found] at stuck
      | some parent =>
          refine ⟨?_, ?_, ?_⟩
          · cases there : disk.hasDirectory path with
            | false => rfl
            | true =>
                have made : disk.isMade path = true := by simp [isMade, there]
                rw [makeDirectoriesWithin_made made] at stuck
                cases stuck
          · intro empty
            cases path
            cases empty
            contradiction
          · cases alone : disk.makeDirectory path with
            | ok whole =>
                rw [makeDirectoriesWithin_first found alone] at stuck
                cases stuck
            | error refusal =>
                refine ⟨refusal, rfl, fun other => ?_⟩
                rw [makeDirectoriesWithin_refused found alone other] at stuck
                split at stuck <;> cases stuck
                rfl

theorem accepted_of_notFound (found : path.parent? = some parent)
    (refused : disk.makeDirectory path = .error .notFound) : refusal? path = none := by
  cases refusal : refusal? path with
  | none => rfl
  | some reason =>
      have same : reason = .notFound := by
        simpa [makeDirectory, newDirectoryPlace, parentPlace, refusal] using refused
      subst same
      simp only [refusal?] at refusal
      split at refusal
      · cases refusal
      · split at refusal
        · rename_i empty
          cases path
          cases empty
          contradiction
        · split at refusal <;> cases refusal

/-- Making directories again fails again, with nothing more made. -/
theorem makeDirectoriesWithin_again
    (failed : makeDirectoriesWithin depth disk path = (made, .error reason)) :
    ∃ again, makeDirectoriesWithin depth made path = (made, .error again) ∧
      reason.Recurs again := by
  induction depth generalizing path reason with
  | zero => cases failed
  | succ depth ih =>
      have first := failed
      cases found : path.parent? with
      | none => simp [makeDirectoriesWithin, found] at failed
      | some parent =>
          cases alone : disk.makeDirectory path with
          | ok whole =>
              rw [makeDirectoriesWithin_first found alone] at failed
              cases failed
          | error early =>
              by_cases absent : early = .notFound
              · subst absent
                have accepted := accepted_of_notFound found alone
                rw [makeDirectoriesWithin_notFound found alone] at failed
                rcases above : makeDirectoriesWithin depth disk parent with ⟨below, stop | done⟩
                · rw [above] at failed
                  cases failed
                  obtain ⟨next, stuck, recurs⟩ := ih above
                  obtain ⟨missing, nonempty, refusal, refused, known⟩ :=
                    makeDirectory_of_stuck stuck
                  obtain ⟨last, blocked, follows⟩ :=
                    makeDirectory_under found nonempty accepted refused missing
                  by_cases gone : last = .notFound
                  · subst gone
                    refine ⟨next, ?_, recurs⟩
                    rw [makeDirectoriesWithin_notFound found blocked, stuck]
                  · have other : refusal ≠ .notFound := by
                      rintro rfl
                      rcases follows with same | ⟨wrong, _⟩
                      · exact gone same
                      · contradiction
                    rw [known other] at follows
                    refine ⟨last, ?_, recurs.trans follows⟩
                    rw [makeDirectoriesWithin_refused found blocked gone, if_neg]
                    intro there
                    rw [hasDirectory_parent? found nonempty there] at missing
                    contradiction
                · rw [above] at failed
                  simp only at failed
                  cases second : below.makeDirectory path with
                  | ok whole => simp [second] at failed
                  | error late =>
                      rw [second] at failed
                      simp only at failed
                      split at failed
                      · cases failed
                      · rename_i missing
                        cases failed
                        refine ⟨reason, ?_, .inl rfl⟩
                        by_cases gone : reason = .notFound
                        · subst gone
                          have there : makeDirectoriesWithin depth made parent =
                              (made, .ok ()) := by
                            cases depth with
                            | zero => rfl
                            | succ depth =>
                                exact makeDirectoriesWithin_made
                                  (isMade_of_makeDirectoriesWithin above) _
                          simp only [makeDirectoriesWithin_notFound found second, there, second,
                            if_neg missing]
                        · rw [makeDirectoriesWithin_refused found second gone, if_neg missing]
              · -- Nothing has been made, so everything happens as it did.
                rw [makeDirectoriesWithin_refused found alone absent] at failed
                split at failed <;> cases failed
                exact ⟨reason, first, .inl rfl⟩

end Levels

theorem Keeps.isMade (kept : Keeps disk after) (there : disk.isMade path = true) :
    after.isMade path = true := by
  simp only [Disk.isMade, Bool.or_eq_true] at there ⊢
  rcases there with above | directory
  · exact .inl above
  · exact .inr (kept.hasDirectory directory)

end Disk

end LiveSelector
