import LiveSelector.Proofs.Output.Companion

namespace LiveSelector.FilePath

/-! Companions and their paths.  Where a path ends in a name, slashes and dots behind the name
change neither its steps nor its companion, so both are read off the segments up to the name.  The
companion then lies in the path's directory under the longer name, and its steps give the path's
steps back. -/

open Text

variable {path other : FilePath} {front others : List (List Char)} {name : List Char}
variable {suffix : String}

/-- A path without the idle segments at its end. -/
def trimmed (path : FilePath) : FilePath :=
  ⟨joinPieces '/' (dropIdleEnd path.segments)⟩

theorem segments_trimmed : path.trimmed.segments = dropIdleEnd path.segments := by
  have clean : ∀ piece ∈ dropIdleEnd path.segments, '/' ∉ piece :=
    fun piece inside => segments_clean (mem_of_mem_dropIdleEnd inside)
  exact pieces_joinPieces (dropIdleEnd_ne_nil (pieces_ne_nil '/' path.chars)) clean

theorem parent?_trimmed : path.trimmed.parent? = path.parent? := by
  simp only [parent?, segments_trimmed, dropIdleEnd_dropIdleEnd]

example : (ofText "a//b/./").parent? = (ofText "a//b").parent? := by decide +kernel

theorem fileName?_trimmed : path.trimmed.fileName? = path.fileName? := by
  simp only [fileName?, segments_trimmed, dropIdleEnd_dropIdleEnd]

theorem companion_trimmed (named : path.fileName? = some name) :
    path.trimmed.companion suffix = path.companion suffix := by
  simp only [companion, withFileName, fileName?_trimmed, parent?_trimmed, named]

theorem endsIn_trimmed (named : path.fileName? = some name) :
    ∃ front, path.trimmed.EndsIn front name := by
  simp only [fileName?] at named
  cases last : (dropIdleEnd path.segments).getLast? with
  | none => simp [last] at named
  | some segment =>
      rw [last] at named
      simp only at named
      split at named
      · contradiction
      · rename_i plain
        cases named
        simp only [Bool.or_eq_true, decide_eq_true_eq, not_or] at plain
        obtain ⟨front, whole⟩ := List.getLast?_eq_some_iff.mp last
        exact ⟨front, segments_trimmed.trans whole, by simpa using plain.1, plain.2⟩

/-- The steps along segments that others follow. -/
def steps : List (List Char) → List Component
  | [] => []
  | first :: rest =>
    (if first = [] then [.root] else if first = ['.'] then [.current]
      else (component? first).toList) ++ rest.filterMap component?

theorem component?_name (solid : isIdle name = false) (notUp : name ≠ ['.', '.']) :
    component? name = some (.name name) := by
  simp [component?, solid, notUp]

theorem filterMap_idle {idle : List (List Char)} (all : ∀ segment ∈ idle, isIdle segment = true) :
    idle.filterMap component? = [] := by
  refine List.filterMap_eq_nil_iff.mpr fun segment inside => ?_
  simp [component?, all segment inside]

theorem steps_dropIdleEnd (front : List (List Char)) : steps (dropIdleEnd front) = steps front := by
  cases front with
  | nil => rfl
  | cons first rest =>
      obtain ⟨idle, whole, all⟩ := trimIdle_append rest
      have same : rest.filterMap component? =
          (dropIdleEnd.trimIdle rest).filterMap component? := by
        conv => lhs; rw [whole, List.filterMap_append, filterMap_idle all, List.append_nil]
      rw [dropIdleEnd, steps, steps, same]

theorem components_of_segments (whole : path.segments = front ++ name :: others)
    (solid : isIdle name = false) (notUp : name ≠ ['.', '.']) :
    path.components = steps front ++ .name name :: others.filterMap component? := by
  have step := component?_name solid notUp
  cases front with
  | nil =>
      have nonempty : name ≠ [] ∧ name ≠ ['.'] := by simpa [isIdle] using solid
      rw [List.nil_append] at whole
      simp [components, whole, firstComponent?, nonempty, step, steps]
  | cons first rest =>
      have begins := isAbsolute_of_segments whole (by simp)
      simp only [components, whole, List.cons_append, firstComponent?, begins, steps,
        List.filterMap_append, List.filterMap_cons, step, List.append_assoc]
      split
      · simp_all
      · split <;> simp_all

/-- The steps of a path end in its name, whatever idle segments it is written with. -/
theorem components_trimmed (ends : path.trimmed.EndsIn front name) :
    path.components = steps front ++ [.name name] := by
  obtain ⟨idle, parts, all⟩ := dropIdleEnd_append path.segments
  rw [← segments_trimmed, ends.whole, List.append_assoc, List.singleton_append] at parts
  rw [components_of_segments parts ends.solid ends.notUp, filterMap_idle all]

theorem parent?_companion (ends : path.EndsIn front name) (plain : '/' ∉ suffix.toList) :
    (path.companion suffix).parent? = path.parent? ∧
      (path.companion suffix).fileName? = some (name ++ suffix.toList) := by
  have longer := ends.companion plain
  refine ⟨?_, longer.fileName?⟩
  rw [longer.parent?, ends.parent?, dropIdleEnd_dropIdleEnd]
  cases front with
  | nil => rfl
  | cons first rest => rfl

/-- The suffix goes to the name up to its first slash; what follows is the same for every path. -/
theorem components_companion {first : List Char} (ends : path.trimmed.EndsIn front name)
    (cut : pieces '/' suffix.toList = first :: others) :
    (path.companion suffix).components =
      steps front ++ .name (name ++ first) :: others.filterMap component? := by
  have named : path.fileName? = some name := fileName?_trimmed.symm.trans ends.fileName?
  have whole := ends.companion_segments suffix
  rw [pieces_append_clean ends.clean cut, companion_trimmed named] at whole
  obtain ⟨solid, notUp⟩ := ends.append first
  rw [components_of_segments whole solid notUp, steps_dropIdleEnd]

theorem append_name_inj {above below others : List Component} {name other : List Char}
    (more : List Char) :
    above ++ .name (name ++ more) :: others = below ++ .name (other ++ more) :: others ↔
      above ++ [.name name] = below ++ [.name other] := by
  rw [List.append_cons above, List.append_cons below, List.append_left_inj,
    List.append_singleton_inj, List.append_singleton_inj, Component.name.injEq,
    Component.name.injEq, List.append_left_inj]

/-- A companion lies beside its path under the longer name, and two paths share one only if they
have the same steps. -/
theorem companion_beside (suffix : String) :
    (∀ (path : FilePath) (name : List Char), '/' ∉ suffix.toList → path.fileName? = some name →
      (path.companion suffix).parent? = path.parent? ∧
        (path.companion suffix).fileName? = some (name ++ suffix.toList)) ∧
    ∀ (path other : FilePath) (name another : List Char), path.fileName? = some name →
      other.fileName? = some another →
      ((path.companion suffix).components = (other.companion suffix).components ↔
        path.components = other.components) := by
  constructor
  · intro path name plain named
    obtain ⟨front, ends⟩ := endsIn_trimmed named
    have beside := parent?_companion ends plain
    rw [companion_trimmed named, parent?_trimmed] at beside
    exact beside
  · intro path other name another named other_named
    obtain ⟨above, ends⟩ := endsIn_trimmed named
    obtain ⟨below, other_ends⟩ := endsIn_trimmed other_named
    obtain ⟨first, others, cut⟩ :=
      List.exists_cons_of_ne_nil (pieces_ne_nil '/' suffix.toList)
    rw [components_companion ends cut, components_companion other_ends cut,
      components_trimmed ends, components_trimmed other_ends]
    exact append_name_inj first

theorem companion_of_dotted_path :
    ((ofText "a//./s.temme/.").companion ".json").parent? = some (ofText "a") ∧
      ((ofText "a//./s.temme/.").companion ".json").fileName? = some "s.temme.json".toList ∧
      ((ofText "a//./s.temme/.").companion ".json").components =
        ((ofText "a/s.temme").companion ".json").components ∧
      ((ofText "a//./s.temme/.").companion ".json").components ≠
        ((ofText "../a/s.temme").companion ".json").components := by
  obtain ⟨beside, shared⟩ := companion_beside ".json"
  have named : (ofText "a//./s.temme/.").fileName? = some "s.temme".toList := by decide +kernel
  have plain_named : (ofText "a/s.temme").fileName? = some "s.temme".toList := by decide +kernel
  have upper_named : (ofText "../a/s.temme").fileName? = some "s.temme".toList := by
    decide +kernel
  obtain ⟨parent, name⟩ := beside _ _ (by decide +kernel) named
  refine ⟨parent.trans (by decide +kernel), name, ?_, ?_⟩
  · exact (shared _ _ _ _ named plain_named).mpr (by decide +kernel)
  · exact fun same => absurd ((shared _ _ _ _ named upper_named).mp same) (by decide +kernel)

end LiveSelector.FilePath
