import LiveSelector.Proofs.Text.Punycode
import LiveSelector.Url.Host

namespace LiveSelector.Url

/-! Domain names are written in ASCII.  A text in ASCII spells the name in its small letters, and
what is written for a label spells that label again; so a name whose labels can be read back spells
itself. -/

variable {label name text : List Char} {labels : List (List Char)}

/-- A label that can be read back from its written form. -/
def Readable (label : List Char) : Prop :=
  isAscii label = true ∨
    (writtenMark.isPrefixOf label = false ∧ Text.normalForm label = label ∧
      (Text.Punycode.encode label).length ≤ writtenLimit)

theorem isAscii_encode (label : List Char) : isAscii (Text.Punycode.encode label) = true :=
  List.all_eq_true.mpr fun c member =>
    decide_eq_true (Text.Punycode.encode_plain label c member).1

theorem isAscii_writtenLabel (label : List Char) : isAscii (writtenLabel label) = true := by
  unfold writtenLabel
  split
  · assumption
  · have mark : isAscii writtenMark = true := by decide
    have encoded := isAscii_encode label
    simp only [isAscii, List.all_append, Bool.and_eq_true] at *
    exact ⟨mark, encoded⟩

theorem dot_not_mem_writtenLabel (clean : '.' ∉ label) : '.' ∉ writtenLabel label := by
  unfold writtenLabel
  split
  · exact clean
  · intro member
    rcases List.mem_append.mp member with mark | encoded
    · exact absurd mark (by decide)
    · rcases (Text.Punycode.encode_plain label _ encoded).2 with own | hyphen | letter
      · exact clean own
      · exact absurd hyphen (by decide)
      · exact absurd letter (by decide)

/-- The written form of a label spells what the label does. -/
theorem spelledLabel?_writtenLabel (readable : Readable label) :
    spelledLabel? (writtenLabel label) = spelledLabel? label := by
  unfold writtenLabel
  split
  · rfl
  · rename_i beyond
    rcases readable with ascii | ⟨bare, normal, short⟩
    · exact absurd ascii beyond
    · have marked : writtenMark.isPrefixOf (writtenMark ++ Text.Punycode.encode label) = true :=
        List.isPrefixOf_iff_prefix.mpr (List.prefix_append _ _)
      have plain : isAscii label = false := Bool.eq_false_iff.mpr beyond
      rw [spelledLabel?, if_pos marked, List.drop_left, readLabel?]
      simp only [isAscii_encode, short, Text.Punycode.decode?_encode, plain, bare, normal]
      cases wide : isWideLabel label <;> simp [spelledLabel?, bare, plain, wide]

theorem labelsFit_written (readable : ∀ label ∈ labels, Readable label) :
    labelsFit (labels.map writtenLabel) = labelsFit labels := by
  have spelled : (labels.map writtenLabel).mapM spelledLabel? = labels.mapM spelledLabel? := by
    induction labels with
    | nil => rfl
    | cons label rest ih =>
        obtain ⟨first, others⟩ := List.forall_mem_cons.mp readable
        rw [List.map_cons, List.mapM_cons, List.mapM_cons, spelledLabel?_writtenLabel first,
          ih others]
  rw [labelsFit, labelsFit, spelled]

/-- The labels that a text spells, as they stand before they are written. -/
def labelsOf? (text : List Char) : Option (List (List Char)) :=
  (Text.decode? (decodeEscapes (Text.encode text))).bind (nameLabels? ·.toList)

/-- A name is made of the labels that the text spells. -/
theorem domain?_eq_some (spelled : domain? text = some name) :
    ∃ labels, labelsOf? text = some labels ∧
      name = Text.joinPieces '.' (labels.map writtenLabel) ∧ name ≠ [] ∧
      (∀ c ∈ name, forbiddenInDomain c = false) ∧ labelsFit labels = true := by
  unfold domain? at spelled
  split at spelled
  · cases spelled
  · rename_i labels read
    dsimp only at spelled
    split at spelled
    · cases spelled
    · rename_i fits
      cases spelled
      simp only [Bool.or_eq_true, not_or, List.any_eq_true, not_exists, List.isEmpty_iff,
        Bool.not_eq_true', Bool.not_eq_false] at fits
      exact ⟨labels, read, rfl, fits.1.1, fun c member =>
        Bool.eq_false_iff.mpr fun forbidden => fits.1.2 c ⟨member, forbidden⟩, fits.2⟩

/-- Every character of a domain name is in ASCII and may stand in one. -/
theorem domain?_plain (spelled : domain? text = some name) :
    ∀ c ∈ name, c.toNat < 0x80 ∧ forbiddenInDomain c = false := by
  obtain ⟨labels, -, rfl, -, allowed, -⟩ := domain?_eq_some spelled
  intro c member
  refine ⟨?_, allowed c member⟩
  rcases Text.mem_joinPieces member with rfl | ⟨piece, among, inside⟩
  · decide
  · obtain ⟨label, -, rfl⟩ := List.mem_map.mp among
    exact of_decide_eq_true (List.all_eq_true.mp (isAscii_writtenLabel label) c inside)

example : domain? "münchen.de".toList = some "xn--mnchen-3ya.de".toList := by
  decide +kernel

theorem decodeEscapes_cons {byte : UInt8} (ordinary : byte ≠ 37) (rest : List UInt8) :
    decodeEscapes (byte :: rest) = byte :: decodeEscapes rest := by
  match rest with
  | [] => rfl
  | [_] => rfl
  | _ :: _ :: _ => rw [decodeEscapes, if_neg ordinary]

theorem partsFrom_ascii {byte : UInt8} (ascii : byte < 0x80) (rest : List UInt8) :
    Text.partsFrom none (byte :: rest) =
      .char (Char.ofNat byte.toNat) :: Text.partsFrom none rest := by
  rw [Text.partsFrom, Text.openChar, if_pos ascii]
  rfl

theorem toNat_byte {c : Char} (ascii : c.toNat < 0x80) :
    (UInt8.ofNat c.toNat).toNat = c.toNat := by
  simp [Nat.mod_eq_of_lt (show c.toNat < 256 by omega)]

theorem encode_cons_ascii {c : Char} (ascii : c.toNat < 0x80) (rest : List Char) :
    Text.encode (c :: rest) = UInt8.ofNat c.toNat :: Text.encode rest := by
  have byte : String.utf8EncodeChar c = [UInt8.ofNat c.toNat] := if_pos (Nat.le_of_lt_succ ascii)
  rw [Text.encode, List.flatMap_cons, byte]
  rfl

/-- A text in ASCII without escapes is what its bytes are. -/
theorem decode?_decodeEscapes (plain : ∀ c ∈ text, c.toNat < 0x80 ∧ c ≠ '%') :
    Text.decode? (decodeEscapes (Text.encode text)) = some (.ofList text) := by
  have parts : Text.wholeText? (Text.partsFrom none (decodeEscapes (Text.encode text))) =
      some text := by
    induction text with
    | nil => rfl
    | cons c rest ih =>
        obtain ⟨⟨ascii, ordinary⟩, others⟩ := List.forall_mem_cons.mp plain
        have value := toNat_byte ascii
        have small : UInt8.ofNat c.toNat < 0x80 := by
          rw [UInt8.lt_iff_toNat_lt, value]
          exact ascii
        have letter : UInt8.ofNat c.toNat ≠ 37 := by
          intro equal
          have code := congrArg UInt8.toNat equal
          rw [value] at code
          exact ordinary (Char.toNat_inj.mp code)
        rw [encode_cons_ascii ascii, decodeEscapes_cons letter, partsFrom_ascii small, Text.wholeText?, ih others,
          value, Char.ofNat_toNat]
        rfl
  rw [Text.decode?, Text.textParts, parts]
  rfl

theorem mapM_nameText?_ascii (ascii : ∀ c ∈ text, c.toNat < 0x80) :
    text.mapM nameText? = some (text.map fun c => [c.toLower]) := by
  induction text with
  | nil => rfl
  | cons c rest ih =>
      obtain ⟨first, others⟩ := List.forall_mem_cons.mp ascii
      have letter : nameText? c = some [c.toLower] := if_pos first
      rw [List.mapM_cons, letter, ih others]
      rfl

theorem toLower_ascii {c : Char} (ascii : c.toNat < 0x80) : c.toLower.toNat < 0x80 := by
  have all : ∀ code ∈ List.range 0x80, (Char.ofNat code).toLower.toNat < 0x80 := by
    decide +kernel
  have small := all c.toNat (List.mem_range.mpr ascii)
  rwa [Char.ofNat_toNat] at small

theorem nameLabels?_ascii (ascii : ∀ c ∈ text, c.toNat < 0x80) :
    nameLabels? text = some (Text.pieces '.' (text.map Char.toLower)) := by
  have lowered : ∀ c ∈ text.map Char.toLower, c.toNat < 0x80 := by
    simpa using fun c member => toLower_ascii (ascii c member)
  have flat : (text.map fun c => [c.toLower]).flatten = text.map Char.toLower := by
    rw [← List.flatMap_def, ← List.map_eq_flatMap]
  rw [nameLabels?, mapM_nameText?_ascii ascii, Option.map_some, flat,
    Text.normalForm_ascii lowered]

/-- A text in ASCII without escapes spells the name in its small letters, or none. -/
theorem domain?_ascii (plain : ∀ c ∈ text, c.toNat < 0x80 ∧ c ≠ '%') :
    domain? text =
      let name := text.map Char.toLower
      if name.isEmpty || name.any forbiddenInDomain || !labelsFit (Text.pieces '.' name) then none
      else some name := by
  have ascii : ∀ c ∈ text, c.toNat < 0x80 := fun c member => (plain c member).1
  have written : (Text.pieces '.' (text.map Char.toLower)).map writtenLabel =
      Text.pieces '.' (text.map Char.toLower) := by
    have each : ∀ label ∈ Text.pieces '.' (text.map Char.toLower), writtenLabel label = label := by
      refine fun label among => if_pos (List.all_eq_true.mpr fun c inside => ?_)
      have found : c ∈ Text.joinPieces '.' (Text.pieces '.' (text.map Char.toLower)) :=
        Text.mem_joinPieces_of_mem among inside
      rw [Text.joinPieces_pieces] at found
      obtain ⟨letter, member, rfl⟩ := List.mem_map.mp found
      exact decide_eq_true (toLower_ascii (ascii letter member))
    rw [List.map_congr_left each, List.map_id']
  have read : (Text.decode? (decodeEscapes (Text.encode text))).bind (nameLabels? ·.toList) =
      some (Text.pieces '.' (text.map Char.toLower)) := by
    rw [decode?_decodeEscapes plain, Option.bind_some, String.toList_ofList,
      nameLabels?_ascii ascii]
  rw [domain?, read]
  simp only [written, Text.joinPieces_pieces]

theorem labelsOf?_clean (read : labelsOf? text = some labels) :
    labels ≠ [] ∧ ∀ label ∈ labels, '.' ∉ label := by
  obtain ⟨chars, -, named⟩ := Option.bind_eq_some_iff.mp read
  obtain ⟨texts, -, rfl⟩ := Option.map_eq_some_iff.mp named
  exact ⟨Text.pieces_ne_nil _ _, fun label member => Text.separator_not_mem_pieces member⟩

/-- A name in small letters whose labels can be read back spells itself. -/
theorem domain?_again (spelled : domain? text = some name)
    (readable : ∀ labels, labelsOf? text = some labels → ∀ label ∈ labels, Readable label)
    (small : name.map Char.toLower = name) : domain? name = some name := by
  obtain ⟨labels, read, joined, solid, allowed, fits⟩ := domain?_eq_some spelled
  obtain ⟨present, clean⟩ := labelsOf?_clean read
  have plain : ∀ c ∈ name, c.toNat < 0x80 ∧ c ≠ '%' := by
    intro c member
    obtain ⟨ascii, permitted⟩ := domain?_plain spelled c member
    refine ⟨ascii, ?_⟩
    rintro rfl
    exact absurd permitted (by decide)
  have pieces : Text.pieces '.' name = labels.map writtenLabel := by
    rw [joined]
    refine Text.pieces_joinPieces (by simpa using present) fun piece member => ?_
    obtain ⟨label, among, rfl⟩ := List.mem_map.mp member
    exact dot_not_mem_writtenLabel (clean label among)
  have refused : name.any forbiddenInDomain = false := by
    simpa using allowed
  rw [domain?_ascii plain]
  simp only [small, pieces, labelsFit_written (readable labels read), fits, refused]
  simp [solid]

end LiveSelector.Url
