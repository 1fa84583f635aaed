import LiveSelector.Output
import LiveSelector.Proofs.Disk.Reading

namespace LiveSelector

/-! Companions of paths.  A path that ends in a name has its companion in the same directory, the
name of which is the path's with the suffix added.  With a suffix that is not empty the two are
different paths; they stand for different places if the suffix is part of a name. -/

namespace FilePath

open Text

variable {path : FilePath} {front kept : List (List Char)} {name first : List Char}
variable {suffix : String}

theorem trimIdle_concat (solid : isIdle name = false) (front : List (List Char)) :
    dropIdleEnd.trimIdle (front ++ [name]) = front ++ [name] := by
  induction front with
  | nil => simp [dropIdleEnd.trimIdle, solid]
  | cons first rest ih =>
      rw [List.cons_append, dropIdleEnd.trimIdle, ih]
      cases rest with
      | nil => rfl
      | cons second others => rfl

theorem dropIdleEnd_concat (solid : isIdle name = false) (front : List (List Char)) :
    dropIdleEnd (front ++ [name]) = front ++ [name] := by
  cases front with
  | nil => rfl
  | cons first rest => rw [List.cons_append, dropIdleEnd, trimIdle_concat solid]

theorem isAbsolute_of_segments {rest : List (List Char)} (whole : path.segments = first :: rest)
    (more : rest ≠ []) : path.isAbsolute = decide (first = []) := by
  have chars := chars_of_segments whole
  obtain ⟨second, others, same⟩ := List.exists_cons_of_ne_nil more
  rw [same, joinPieces] at chars
  · cases first with
    | nil => simp [isAbsolute, chars]
    | cons c letters =>
        have clean : '/' ∉ c :: letters := segments_clean (by rw [whole]; exact List.mem_cons_self)
        simp only [List.mem_cons, not_or] at clean
        simp [isAbsolute, chars, Ne.symm clean.1]
  · simp

theorem getLast?_joinPieces {last : List Char} (nonempty : last ≠ []) (front : List (List Char)) :
    (joinPieces '/' (front ++ [last])).getLast? = last.getLast? := by
  cases front with
  | nil => rfl
  | cons first rest =>
      rw [joinPieces_append (by simp) (by simp), joinPieces, List.getLast?_append,
        List.getLast?_cons_of_ne_nil nonempty]
      obtain ⟨letter, found⟩ := Option.isSome_iff_exists.mp (List.getLast?_isSome.mpr nonempty)
      rw [found]
      rfl

/-- Only the root's segments end in nothing once the idle ones are gone. -/
theorem last_of_trimmed (present : kept ≠ []) (trimmed : dropIdleEnd kept = kept)
    (notRoot : kept ≠ [[]]) : ∃ above last, kept = above ++ [last] ∧ last ≠ [] := by
  by_cases many : 1 < (dropIdleEnd kept).length
  · obtain ⟨above, last, parts, _, solid⟩ := dropIdleEnd_last many
    refine ⟨above, last, by rw [← parts, trimmed], ?_⟩
    rintro rfl
    simp [isIdle] at solid
  · obtain ⟨only, rest, parts⟩ := List.exists_cons_of_ne_nil present
    have single : rest = [] := by
      rw [trimmed, parts] at many
      simpa using many
    refine ⟨[], only, by rw [parts, single, List.nil_append], ?_⟩
    rintro rfl
    exact notRoot (by rw [parts, single])

theorem join_ofSegments (present : kept ≠ []) (clean : ∀ piece ∈ kept, '/' ∉ piece)
    (trimmed : dropIdleEnd kept = kept) {chars : List Char} (relative : chars.head? ≠ some '/') :
    ((ofSegments kept).join ⟨chars⟩).segments = kept ++ pieces '/' chars := by
  have ordinary : (⟨chars⟩ : FilePath).isAbsolute = false := by
    simpa [isAbsolute] using relative
  by_cases root : kept = [[]]
  · simp [root, ofSegments, join, ordinary, FilePath.segments, pieces]
  · have directory : ofSegments kept = ⟨joinPieces '/' kept⟩ := by simp [ofSegments, root]
    obtain ⟨above, last, parts, solid⟩ := last_of_trimmed present trimmed root
    have lastClean : '/' ∉ last := clean last (by simp [parts])
    have ending := getLast?_joinPieces solid above
    rw [← parts] at ending
    -- The directory's text ends in a name, so a slash goes between.
    have nonempty : joinPieces '/' kept ≠ [] := by
      intro empty
      rw [empty] at ending
      exact solid (List.getLast?_eq_none_iff.mp ending.symm)
    have noSlash : (joinPieces '/' kept).getLast? ≠ some '/' := by
      rw [ending]
      intro slash
      exact lastClean (List.mem_of_getLast? slash)
    have joined : ((ofSegments kept).join ⟨chars⟩).segments =
        pieces '/' (joinPieces '/' kept ++ '/' :: chars) := by
      simp [directory, join, ordinary, nonempty, noSlash, FilePath.segments]
    rw [joined, pieces_append_separator, pieces_joinPieces present clean]

theorem trimIdle_trimIdle (segments : List (List Char)) :
    dropIdleEnd.trimIdle (dropIdleEnd.trimIdle segments) = dropIdleEnd.trimIdle segments := by
  rcases List.eq_nil_or_concat (dropIdleEnd.trimIdle segments) with empty | ⟨front, last, whole⟩
  · rw [empty]
    rfl
  · rw [List.concat_eq_append] at whole
    have solid : isIdle last = false := trimIdle_last (by rw [whole, List.getLast?_concat])
    rw [whole]
    exact trimIdle_concat solid front

theorem dropIdleEnd_dropIdleEnd (segments : List (List Char)) :
    dropIdleEnd (dropIdleEnd segments) = dropIdleEnd segments := by
  cases segments with
  | nil => rfl
  | cons first rest => rw [dropIdleEnd, dropIdleEnd, trimIdle_trimIdle]

namespace EndsIn

theorem head?_append (ends : path.EndsIn front name) (more : List Char) :
    (name ++ more).head? ≠ some '/' := by
  obtain ⟨c, letters, whole⟩ := List.exists_cons_of_ne_nil ends.nonempty
  have clean := ends.clean
  rw [whole, List.mem_cons, not_or] at clean
  simp [whole, Ne.symm clean.1]

theorem fileName? (ends : path.EndsIn front name) : path.fileName? = some name := by
  simp [FilePath.fileName?, ends.whole, dropIdleEnd_concat ends.solid, ends.solid, ends.notUp]

/-- The directory that holds what a path names. -/
theorem parent? (ends : path.EndsIn front name) :
    path.parent? = some (if front = [] then ⟨[]⟩ else ofSegments (dropIdleEnd front)) := by
  simp only [FilePath.parent?, ends.whole, dropIdleEnd_concat ends.solid]
  cases front with
  | nil => simp [ends.nonempty]
  | cons first rest =>
      cases rest with
      | nil => rfl
      | cons second others =>
          change some (ofSegments (dropIdleEnd (first :: second :: others ++ [name]).dropLast)) = _
          rw [List.dropLast_concat]
          rfl

example : (ofText "//x").parent? = some (ofText "/") := by decide +kernel

/-- A name with more behind it is a name. -/
theorem append (ends : path.EndsIn front name) (more : List Char) :
    isIdle (name ++ more) = false ∧ name ++ more ≠ ['.', '.'] := by
  have nonempty : name ++ more ≠ [] := by simp [ends.nonempty]
  have notDot : name ++ more ≠ ['.'] := by
    intro dot
    rcases List.append_eq_singleton_iff.mp dot with ⟨empty, _⟩ | ⟨dot, _⟩
    · exact ends.nonempty empty
    · exact ends.not_dot dot
  refine ⟨by simp [isIdle, nonempty, notDot], ?_⟩
  intro up
  rcases List.append_eq_cons_iff.mp up with ⟨empty, _⟩ | ⟨letters, begins, rest⟩
  · exact ends.nonempty empty
  · rcases List.append_eq_singleton_iff.mp rest.symm with ⟨none, _⟩ | ⟨one, _⟩
    · exact ends.not_dot (by rw [begins, none])
    · exact ends.notUp (by rw [begins, one])

/-- The companion is where the path is, under the longer name. -/
theorem companion_segments (ends : path.EndsIn front name) (suffix : String) :
    (path.companion suffix).segments =
      dropIdleEnd front ++ pieces '/' (name ++ suffix.toList) := by
  have relative := ends.head?_append suffix.toList
  simp only [companion, withFileName, ends.fileName?, ends.parent?, Option.getD_some]
  cases front with
  | nil =>
      have ordinary : (⟨name ++ suffix.toList⟩ : FilePath).isAbsolute = false := by
        simpa [isAbsolute] using relative
      simp [join, ordinary, FilePath.segments, dropIdleEnd]
  | cons first rest =>
      have clean : ∀ piece ∈ dropIdleEnd (first :: rest), '/' ∉ piece := by
        intro piece inside
        have along : piece ∈ path.segments := by
          rw [ends.whole]
          exact List.mem_append_left [name] (mem_of_mem_dropIdleEnd inside)
        exact segments_clean along
      rw [if_neg (by simp)]
      exact join_ofSegments (dropIdleEnd_ne_nil (by simp)) clean (dropIdleEnd_dropIdleEnd _) relative

/-- A suffix that is part of a name goes to the name. -/
theorem companion (ends : path.EndsIn front name) (plain : '/' ∉ suffix.toList) :
    (path.companion suffix).EndsIn (dropIdleEnd front) (name ++ suffix.toList) := by
  have clean : '/' ∉ name ++ suffix.toList := by simp [ends.clean, plain]
  have whole := ends.companion_segments suffix
  rw [pieces_eq_singleton clean] at whole
  exact ⟨whole, (ends.append suffix.toList).1, (ends.append suffix.toList).2⟩

theorem companion_ne (ends : path.EndsIn front name) (longer : suffix ≠ "") :
    path.companion suffix ≠ path := by
  intro same
  have whole := ends.companion_segments suffix
  rw [same, ends.whole] at whole
  obtain ⟨idle, parts, all⟩ := dropIdleEnd_append front
  obtain ⟨head, others, cut⟩ :=
    List.exists_cons_of_ne_nil (pieces_ne_nil '/' suffix.toList)
  have both : dropIdleEnd front ++ (idle ++ [name]) =
      dropIdleEnd front ++ (name ++ head) :: others := by
    rw [← pieces_append_clean ends.clean cut, ← whole, ← List.append_assoc, ← parts]
  have along : idle ++ [name] = (name ++ head) :: others := List.append_cancel_left both
  cases idle with
  | nil =>
      rw [List.nil_append, List.cons.injEq] at along
      have empty : suffix.toList = [] := by
        have joined := joinPieces_pieces '/' suffix.toList
        rw [cut, ← along.2] at joined
        simpa [joinPieces, ← joined] using along.1
      exact longer (String.toList_eq_nil_iff.mp empty)
  | cons segment rest =>
      rw [List.cons_append, List.cons.injEq] at along
      have still : isIdle (name ++ head) = true := by
        rw [← along.1]
        exact all segment (by simp)
      have solid := ends.solid
      simp only [isIdle, Bool.or_eq_true, Bool.or_eq_false_iff, decide_eq_true_eq,
        decide_eq_false_iff_not, List.append_eq_nil_iff] at still solid
      rcases still with ⟨empty, _⟩ | dot
      · exact solid.1 empty
      · rcases List.append_eq_singleton_iff.mp dot with ⟨empty, _⟩ | ⟨dot, _⟩
        · exact solid.1 empty
        · exact solid.2 dot

theorem isAbsolute_companion (ends : path.EndsIn front name) (suffix : String) :
    (path.companion suffix).isAbsolute = path.isAbsolute := by
  have whole := ends.companion_segments suffix
  cases front with
  | nil =>
      have relative : ∀ more, (name ++ more).head? ≠ some '/' := ends.head?_append
      have here := relative []
      have there := relative suffix.toList
      have chars := ends.chars
      rw [List.nil_append, joinPieces] at chars
      have longer : (path.companion suffix).chars = name ++ suffix.toList := by
        rw [chars_of_segments whole]
        simp only [dropIdleEnd, List.nil_append, joinPieces_pieces]
      rw [List.append_nil] at here
      rw [isAbsolute, isAbsolute, chars, longer, beq_eq_false_iff_ne.mpr here,
        beq_eq_false_iff_ne.mpr there]
  | cons first rest =>
      have above : path.segments = first :: (rest ++ [name]) := ends.whole
      rw [isAbsolute_of_segments above (by simp)]
      rw [dropIdleEnd, List.cons_append] at whole
      exact isAbsolute_of_segments whole
        (List.append_ne_nil_of_right_ne_nil _ (pieces_ne_nil '/' _))

end EndsIn

end FilePath

namespace Disk

open FilePath

variable {disk : Disk} {path : FilePath} {front : List (List Char)} {name : List Char}
variable {suffix : String} {place : Place}

theorem follow_idle {idle : List (List Char)} (all : ∀ segment ∈ idle, isIdle segment = true) :
    (idle.filter (· ≠ [])).foldl follow place = place := by
  induction idle with
  | nil => rfl
  | cons segment rest ih =>
      obtain ⟨here, later⟩ := List.forall_mem_cons.mp all
      simp only [isIdle, Bool.or_eq_true, decide_eq_true_eq] at here
      rcases here with rfl | rfl
      · exact ih later
      · exact ih later

theorem placeOf_endsIn (ends : path.EndsIn front name) :
    disk.placeOf path = (front.filter (· ≠ [])).foldl follow (disk.start path) ++ [name] := by
  have ordinary : isDotName name = false := by simp [isDotName, ends.not_dot, ends.notUp]
  rw [placeOf, names_of_segments ends.whole ends.nonempty, List.foldl_append]
  exact follow_of_not_dot ordinary

/-- A longer name in the same directory. -/
theorem placeOf_companion (ends : path.EndsIn front name) (plain : '/' ∉ suffix.toList) :
    disk.placeOf (path.companion suffix) =
      (front.filter (· ≠ [])).foldl follow (disk.start path) ++ [name ++ suffix.toList] := by
  have longer := ends.companion plain
  have start : disk.start (path.companion suffix) = disk.start path := by
    simp only [Disk.start, ends.isAbsolute_companion]
  obtain ⟨idle, parts, all⟩ := dropIdleEnd_append front
  have home : (front.filter (· ≠ [])).foldl follow (disk.start path) =
      ((dropIdleEnd front).filter (· ≠ [])).foldl follow (disk.start path) := by
    conv => lhs; rw [parts, List.filter_append, List.foldl_append, follow_idle all]
  rw [placeOf_endsIn longer, start, home]

/-- A suffix that is part of a name gives another place. -/
theorem placeOf_companion_ne (disk : Disk) (ends : path.EndsIn front name)
    (plain : '/' ∉ suffix.toList) (longer : suffix ≠ "") :
    disk.placeOf (path.companion suffix) ≠ disk.placeOf path := by
  rw [placeOf_companion ends plain, placeOf_endsIn ends]
  intro same
  have names := List.append_cancel_left same
  simp only [List.cons.injEq, and_true, List.append_right_eq_self] at names
  exact longer (String.toList_eq_nil_iff.mp names)

/-- A suffix that goes up again gives another path to the same place. -/
example : placeOf ⟨[], []⟩ ((ofText "s.temme").companion "x/../s.temme") =
    placeOf ⟨[], []⟩ (ofText "s.temme") := by decide +kernel

end Disk

end LiveSelector
