import LiveSelector.Text.Punycode
import Mathlib.Data.List.InsertIdx
import Mathlib.Data.List.TakeDrop

namespace LiveSelector.Text.Punycode

/-! Written forms stand for the texts that they are written for.  A distance is read back whatever
follows its digits.  Then the writer and the reader keep step: what is known of the text on one side
is what has been put in on the other, and the next character goes to the same place in both. -/

variable {bias code place sum : Nat} {text rest chars : List Char}
variable {known others : List (Char × Nat)} {item next : Char × Nat}

/-- What is known of a text stands in the order of the text. -/
def InOrder (known : List (Char × Nat)) : Prop :=
  known.Pairwise (·.2 < ·.2)

/-- Where a character goes among those known. -/
def indexIn (known : List (Char × Nat)) (item : Char × Nat) : Nat :=
  (known.takeWhile (·.2 < item.2)).length

/-- What is known with one character more. -/
def putIn (known : List (Char × Nat)) (item : Char × Nat) : List (Char × Nat) :=
  known.insertIdx (indexIn known item) item

/-- The sum at which the reader puts a character in: a round through all places for each code point
passed, and then the place. -/
def sumTo (known : List (Char × Nat)) (code : Nat) (item : Char × Nat) : Nat :=
  (item.1.toNat - code) * (known.length + 1) + indexIn known item

/-- A character is not in front of the place that the one before it was put in at. -/
def Due (known : List (Char × Nat)) (code place : Nat) (item : Char × Nat) : Prop :=
  code < item.1.toNat ∨ (code = item.1.toNat ∧ place ≤ indexIn known item)

theorem digit?_digitChar {value : Nat} (small : value < 36) :
    digit? (digitChar value) = some value := by
  have all : ∀ value ∈ List.range 36, digit? (digitChar value) = some value := by decide
  exact all value (List.mem_range.mpr small)

theorem digitChar_plain {value : Nat} (small : value < 36) :
    (digitChar value).toNat < 0x80 ∧ (digitChar value).isAlphanum = true := by
  have all : ∀ value ∈ List.range 36,
      (digitChar value).toNat < 0x80 ∧ (digitChar value).isAlphanum = true := by decide
  exact all value (List.mem_range.mpr small)

theorem distanceDigits_plain (bias place distance : Nat) :
    ∀ c ∈ distanceDigits bias place distance, c.toNat < 0x80 ∧ c.isAlphanum = true := by
  fun_induction distanceDigits bias place distance with
  | case1 place distance limit ends =>
      have bound : limit ≤ 26 := threshold_le bias place
      intro c member
      rw [List.mem_singleton.mp member]
      exact digitChar_plain (by omega)
  | case2 place distance limit goes ih =>
      have bound : limit ≤ 26 := threshold_le bias place
      have digit := Nat.mod_lt (distance - limit) (show 0 < 36 - limit by omega)
      exact List.forall_mem_cons.mpr ⟨digitChar_plain (by omega), ih⟩

/-- Digits are read as the distance that they were written for. -/
theorem readDistance?_distanceDigits (bias place distance weight sum : Nat) (rest : List Char) :
    readDistance? bias place weight sum (distanceDigits bias place distance ++ rest) =
      some (sum + distance * weight, rest) := by
  fun_induction distanceDigits bias place distance generalizing weight sum with
  | case1 place distance limit ends =>
      have bound : limit ≤ 26 := threshold_le bias place
      simp only [List.cons_append, List.nil_append, readDistance?,
        digit?_digitChar (show distance < 36 by omega)]
      exact if_pos ends
  | case2 place distance limit goes ih =>
      have bound : limit ≤ 26 := threshold_le bias place
      have digit := Nat.mod_lt (distance - limit) (show 0 < 36 - limit by omega)
      have whole : (distance - limit) % (36 - limit) +
          (distance - limit) / (36 - limit) * (36 - limit) = distance - limit :=
        Nat.mod_add_div' _ _
      have lasts : ¬ limit + (distance - limit) % (36 - limit) < threshold bias place := by
        change ¬ _ < limit
        omega
      have value := digit?_digitChar (show limit + (distance - limit) % (36 - limit) < 36 by omega)
      simp only [List.cons_append, readDistance?, value, if_neg lasts, ih]
      generalize (distance - limit) % (36 - limit) = low at whole
      generalize (distance - limit) / (36 - limit) = high at whole
      have parts : distance = limit + low + high * (36 - limit) := by omega
      have total : distance * weight = (limit + low) * weight + high * (weight * (36 - limit)) := by
        rw [parts, Nat.add_mul, Nat.mul_assoc, Nat.mul_comm (36 - limit)]
      rw [total, ← Nat.add_assoc]

theorem putIn_cons_of_lt {first : Char × Nat} {rest : List (Char × Nat)}
    (before : first.2 < item.2) : putIn (first :: rest) item = first :: putIn rest item := by
  simp [putIn, indexIn, before]

theorem putIn_cons_of_not_lt {first : Char × Nat} {rest : List (Char × Nat)}
    (behind : ¬ first.2 < item.2) : putIn (first :: rest) item = item :: first :: rest := by
  simp [putIn, indexIn, behind]

theorem indexIn_le (known : List (Char × Nat)) (item : Char × Nat) :
    indexIn known item ≤ known.length :=
  (List.takeWhile_sublist _).length_le

theorem putIn_perm (known : List (Char × Nat)) (item : Char × Nat) :
    (putIn known item).Perm (item :: known) :=
  List.perm_insertIdx item known (indexIn_le known item)

theorem putIn_append_perm (known others : List (Char × Nat)) (item : Char × Nat) :
    (putIn known item ++ others).Perm (known ++ item :: others) :=
  ((putIn_perm known item).append_right others).trans List.perm_middle.symm

theorem InOrder.putIn (order : InOrder known) (apart : ∀ other ∈ known, other.2 ≠ item.2) :
    InOrder (putIn known item) := by
  induction known with
  | nil => exact List.pairwise_singleton _ _
  | cons first rest ih =>
      obtain ⟨least, rest_order⟩ := List.pairwise_cons.mp order
      obtain ⟨first_apart, rest_apart⟩ := List.forall_mem_cons.mp apart
      by_cases before : first.2 < item.2
      · rw [putIn_cons_of_lt before]
        refine List.pairwise_cons.mpr ⟨fun other member => ?_, ih rest_order rest_apart⟩
        rcases List.mem_cons.mp ((putIn_perm rest item).mem_iff.mp member) with rfl | member
        · exact before
        · exact least other member
      · rw [putIn_cons_of_not_lt before]
        have behind : item.2 < first.2 := by omega
        refine List.pairwise_cons.mpr ⟨fun other member => ?_, order⟩
        rcases List.mem_cons.mp member with rfl | member
        · exact behind
        · exact Nat.lt_trans behind (least other member)

/-- A character behind another one in the text goes behind it among those known. -/
theorem indexIn_lt_putIn (behind : item.2 < next.2) :
    indexIn known item < indexIn (putIn known item) next := by
  induction known with
  | nil => simp [indexIn, putIn, behind]
  | cons first rest ih =>
      by_cases before : first.2 < item.2
      · have passed : first.2 < next.2 := Nat.lt_trans before behind
        rw [putIn_cons_of_lt before]
        simpa [indexIn, before, passed] using ih
      · rw [putIn_cons_of_not_lt before]
        simp [indexIn, before, behind]

theorem Due.code_le (due : Due known code place item) : code ≤ item.1.toNat := by
  rcases due with above | ⟨same, -⟩
  · exact Nat.le_of_lt above
  · exact Nat.le_of_eq same

theorem Due.place_le (due : Due known code place item) (room : place ≤ known.length) :
    place ≤ sumTo known code item := by
  unfold sumTo
  rcases due with above | ⟨-, behind⟩
  · have round : known.length + 1 ≤ (item.1.toNat - code) * (known.length + 1) :=
      Nat.le_mul_of_pos_left _ (by omega)
    omega
  · omega

theorem Due.sumTo_div (due : Due known code place item) :
    code + sumTo known code item / (known.length + 1) = item.1.toNat := by
  have index := Nat.lt_succ_of_le (indexIn_le known item)
  have low := due.code_le
  rw [sumTo, Nat.add_comm (_ * _), Nat.add_mul_div_right _ _ (Nat.succ_pos _),
    Nat.div_eq_of_lt index]
  omega

theorem sumTo_mod (known : List (Char × Nat)) (code : Nat) (item : Char × Nat) :
    sumTo known code item % (known.length + 1) = indexIn known item := by
  have index := Nat.lt_succ_of_le (indexIn_le known item)
  rw [sumTo, Nat.add_comm (_ * _), Nat.add_mul_mod_self_right, Nat.mod_eq_of_lt index]

theorem written_cons (known others : List (Char × Nat)) (bias code place : Nat)
    (item : Char × Nat) :
    written known bias code place (item :: others) =
      distanceDigits bias 36 (sumTo known code item - place) ++
        written (putIn known item)
          (nextBias (sumTo known code item - place) (known.length + 1) (place == 0))
          item.1.toNat (indexIn known item + 1) others := rfl

theorem putIn?_of_read (read : readDistance? bias 36 1 place text = some (sum, rest))
    (valid : (code + sum / (chars.length + 1)).isValidChar) :
    putIn? chars bias code place text =
      putIn? (chars.insertIdx (sum % (chars.length + 1))
          (Char.ofNat (code + sum / (chars.length + 1))))
        (nextBias (sum - place) (chars.length + 1) (place == 0))
        (code + sum / (chars.length + 1)) (sum % (chars.length + 1) + 1) rest := by
  have digits : text ≠ [] := by
    rintro rfl
    cases read
  rw [putIn?, if_neg digits]
  split
  · rename_i failed
    rw [read] at failed
    cases failed
  · rename_i found
    rw [read] at found
    cases found
    exact if_pos valid

/-- The reader puts in the character that the writer wrote. -/
theorem putIn?_written_cons (bias : Nat) (others : List (Char × Nat))
    (due : Due known code place item) (room : place ≤ known.length) :
    ∃ after, putIn? (known.map (·.1)) bias code place
        (written known bias code place (item :: others)) =
      putIn? ((putIn known item).map (·.1)) after item.1.toNat (indexIn known item + 1)
        (written (putIn known item) after item.1.toNat (indexIn known item + 1) others) := by
  have length : (known.map (·.1)).length = known.length := List.length_map _
  have whole : place + (sumTo known code item - place) * 1 = sumTo known code item := by
    rw [Nat.mul_one, Nat.add_sub_of_le (due.place_le room)]
  have read := readDistance?_distanceDigits bias 36 (sumTo known code item - place) 1 place
    (written (putIn known item)
      (nextBias (sumTo known code item - place) (known.length + 1) (place == 0))
      item.1.toNat (indexIn known item + 1) others)
  rw [whole, ← written_cons] at read
  have valid : (code + sumTo known code item / ((known.map (·.1)).length + 1)).isValidChar := by
    rw [length, due.sumTo_div]
    exact item.1.valid
  refine ⟨nextBias (sumTo known code item - place) (known.length + 1) (place == 0), ?_⟩
  rw [putIn?_of_read read valid, length, due.sumTo_div, sumTo_mod, Char.ofNat_toNat, putIn,
    List.map_insertIdx]

/-- Characters in the order in which they are written, each one due when it is. -/
theorem putIn?_written (due : ∀ item ∈ others, Due known code place item)
    (sorted : others.Pairwise (comesFirst · ·)) (apart : (others.map (·.2)).Nodup)
    (room : place ≤ known.length) :
    putIn? (known.map (·.1)) bias code place (written known bias code place others) =
      some ((others.foldl putIn known).map (·.1)) := by
  induction others generalizing known bias code place with
  | nil => rw [written, putIn?, if_pos rfl, List.foldl_nil]
  | cons item others ih =>
      obtain ⟨first, others_sorted⟩ := List.pairwise_cons.mp sorted
      obtain ⟨alone, others_apart⟩ := List.nodup_cons.mp apart
      -- The place counted from is now behind the character just put in, where the next one of the
      -- same code point goes.
      have others_due : ∀ next ∈ others,
          Due (putIn known item) item.1.toNat (indexIn known item + 1) next := by
        intro next member
        have order := first next member
        simp only [comesFirst, Bool.or_eq_true, Bool.and_eq_true, decide_eq_true_eq] at order
        rcases order with above | ⟨same, behind⟩
        · exact Or.inl above
        · have other : item.2 ≠ next.2 :=
            fun equal => alone (List.mem_map.mpr ⟨next, member, equal.symm⟩)
          exact Or.inr ⟨congrArg Char.toNat same, indexIn_lt_putIn (by omega)⟩
      have others_room : indexIn known item + 1 ≤ (putIn known item).length := by
        rw [(putIn_perm known item).length_eq]
        exact Nat.succ_le_succ (indexIn_le known item)
      obtain ⟨after, step⟩ := putIn?_written_cons bias others (due item List.mem_cons_self) room
      rw [step, ih others_due others_sorted others_apart others_room, List.foldl_cons]

theorem foldl_putIn_perm (known others : List (Char × Nat)) :
    (others.foldl putIn known).Perm (known ++ others) := by
  induction others generalizing known with
  | nil => simp
  | cons item others ih =>
      exact (ih (putIn known item)).trans (putIn_append_perm known others item)

theorem InOrder.foldl_putIn (order : InOrder known)
    (apart : ((known ++ others).map (·.2)).Nodup) :
    InOrder (others.foldl Punycode.putIn known) := by
  induction others generalizing known with
  | nil => exact order
  | cons item others ih =>
      have item_apart : ∀ other ∈ known, other.2 ≠ item.2 := by
        have places : ((item :: (known ++ others)).map (·.2)).Nodup :=
          (List.perm_middle.map _).nodup_iff.mp apart
        intro other member equal
        exact (List.nodup_cons.mp places).1
          (List.mem_map.mpr ⟨other, List.mem_append_left _ member, equal⟩)
      exact ih (order.putIn item_apart)
        (((putIn_append_perm known others item).map (·.2)).nodup_iff.mpr apart)

theorem inOrder_zipIdx (text : List Char) : InOrder text.zipIdx := by
  have places : (text.zipIdx.map (·.2)).Pairwise (· < ·) := by
    rw [List.zipIdx_map_snd]
    exact List.pairwise_lt_range'
  exact List.pairwise_map.mp places

theorem comesFirst_total (a b : Char × Nat) : (comesFirst a b || comesFirst b a) = true := by
  simp only [comesFirst, Bool.or_eq_true, Bool.and_eq_true, decide_eq_true_eq]
  rcases Nat.lt_trichotomy a.1.toNat b.1.toNat with below | same | above
  · exact Or.inl (Or.inl below)
  · have same : a.1 = b.1 := Char.toNat_inj.mp same
    rcases Nat.le_total a.2 b.2 with front | behind
    · exact Or.inl (Or.inr ⟨same, front⟩)
    · exact Or.inr (Or.inr ⟨same.symm, behind⟩)
  · exact Or.inr (Or.inl above)

theorem comesFirst_trans (a b c : Char × Nat) (first : comesFirst a b = true)
    (second : comesFirst b c = true) : comesFirst a c = true := by
  simp only [comesFirst, Bool.or_eq_true, Bool.and_eq_true, decide_eq_true_eq] at *
  rcases first with first | ⟨same, first⟩ <;> rcases second with second | ⟨same', second⟩
  · exact Or.inl (Nat.lt_trans first second)
  · exact Or.inl (same' ▸ first)
  · exact Or.inl (same ▸ second)
  · exact Or.inr ⟨same.trans same', Nat.le_trans first second⟩

/-- The characters of a text in ASCII, with their places. -/
def plain (text : List Char) : List (Char × Nat) :=
  text.zipIdx.filter (·.1.toNat < 0x80)

/-- The other characters of a text, in the order in which they are written. -/
def wide (text : List Char) : List (Char × Nat) :=
  (text.zipIdx.filter (fun item => !decide (item.1.toNat < 0x80))).mergeSort comesFirst

theorem encode_eq (text : List Char) :
    encode text =
      (if (plain text).isEmpty then [] else (plain text).map (·.1) ++ ['-']) ++
        written (plain text) 72 128 0 (wide text) := by
  rw [encode, List.partition_eq_filter_filter]
  rfl

theorem plain_append_wide_perm (text : List Char) :
    (plain text ++ wide text).Perm text.zipIdx :=
  ((List.mergeSort_perm _ comesFirst).append_left (plain text)).trans
    (List.filter_append_perm _ text.zipIdx)

theorem places_nodup (text : List Char) : ((plain text ++ wide text).map (·.2)).Nodup := by
  rw [((plain_append_wide_perm text).map (·.2)).nodup_iff, List.zipIdx_map_snd]
  exact List.nodup_range'

/-- The characters beyond ASCII, put in among the others, give the text. -/
theorem foldl_putIn_plain (text : List Char) :
    ((wide text).foldl putIn (plain text)).map (·.1) = text := by
  have order := inOrder_zipIdx text
  have plain_order : InOrder (plain text) := List.Pairwise.filter _ order
  have result : (wide text).foldl putIn (plain text) = text.zipIdx :=
    ((foldl_putIn_perm _ _).trans (plain_append_wide_perm text)).eq_of_pairwise
      (fun a b _ _ front behind => absurd front (Nat.lt_asymm behind))
      (plain_order.foldl_putIn (places_nodup text)) order
  rw [result, List.zipIdx_map_fst]

theorem putIn?_written_wide (text : List Char) :
    putIn? ((plain text).map (·.1)) 72 128 0 (written (plain text) 72 128 0 (wide text)) =
      some text := by
  have due : ∀ item ∈ wide text, Due (plain text) 128 0 item := by
    intro item member
    have beyond : 128 ≤ item.1.toNat := by
      simpa using (List.mem_filter.mp ((List.mergeSort_perm _ _).mem_iff.mp member)).2
    rcases Nat.lt_or_eq_of_le beyond with above | same
    · exact Or.inl above
    · exact Or.inr ⟨same, Nat.zero_le _⟩
  have sorted : (wide text).Pairwise (comesFirst · ·) :=
    List.pairwise_mergeSort comesFirst_trans comesFirst_total _
  have places : ((wide text).map (·.2)).Nodup := by
    have all := places_nodup text
    rw [List.map_append] at all
    exact (List.nodup_append.mp all).2.1
  rw [putIn?_written due sorted places (Nat.zero_le _), foldl_putIn_plain]

/-- Behind the last hyphen of a written form stand letters and figures alone. -/
theorem written_plain (known others : List (Char × Nat)) (bias code place : Nat) :
    ∀ c ∈ written known bias code place others, c.toNat < 0x80 ∧ c.isAlphanum = true := by
  induction others generalizing known bias code place with
  | nil => exact fun c member => nomatch member
  | cons item others ih =>
      intro c member
      rcases List.mem_append.mp member with digit | digit
      · exact distanceDigits_plain _ _ _ c digit
      · exact ih _ _ _ _ c digit

theorem mem_plain {c : Char} (member : c ∈ (plain text).map (·.1)) : c ∈ text ∧ c.toNat < 0x80 := by
  obtain ⟨item, kept, rfl⟩ := List.mem_map.mp member
  obtain ⟨placed, ascii⟩ := List.mem_filter.mp kept
  have found : item.1 ∈ text.zipIdx.map (·.1) := List.mem_map_of_mem placed
  rw [List.zipIdx_map_fst] at found
  exact ⟨found, of_decide_eq_true ascii⟩

/-- A written form is in ASCII, and besides letters, figures and hyphens it holds only characters of
the text. -/
theorem encode_plain (text : List Char) :
    ∀ c ∈ encode text, c.toNat < 0x80 ∧ (c ∈ text ∨ c = '-' ∨ c.isAlphanum = true) := by
  intro c member
  rw [encode_eq] at member
  rcases List.mem_append.mp member with front | back
  · split at front
    · cases front
    · rcases List.mem_append.mp front with first | hyphen
      · exact ⟨(mem_plain first).2, Or.inl (mem_plain first).1⟩
      · rw [List.mem_singleton.mp hyphen]
        exact ⟨by decide, Or.inr (Or.inl rfl)⟩
  · obtain ⟨ascii, letter⟩ := written_plain _ _ _ _ _ c back
    exact ⟨ascii, Or.inr (Or.inr letter)⟩

/-- The last hyphen of a text is found behind everything without one. -/
theorem span_reverse (digits : ∀ c ∈ text, c ≠ '-') (chars : List Char)
    (ends : ∀ c ∈ chars.head?, c = '-') :
    (text.reverse ++ chars).span (· ≠ '-') = (text.reverse, chars) := by
  have passed : ∀ c ∈ text.reverse, decide (c ≠ '-') = true := fun c member =>
    decide_eq_true (digits c (List.mem_reverse.mp member))
  rw [List.span_eq_takeWhile_dropWhile, List.takeWhile_append_of_pos passed,
    List.dropWhile_append_of_pos passed]
  cases chars with
  | nil => simp
  | cons first others => simp [ends first rfl]

theorem decode?_digits (digits : ∀ c ∈ text, c ≠ '-') :
    decode? text = putIn? [] 72 128 0 text := by
  have span := span_reverse digits [] nofun
  rw [List.append_nil] at span
  rw [decode?, span]

theorem decode?_hyphen (some_known : chars ≠ []) (digits : ∀ c ∈ text, c ≠ '-') :
    decode? (chars ++ '-' :: text) = putIn? chars 72 128 0 text := by
  have reversed : (chars ++ '-' :: text).reverse = text.reverse ++ '-' :: chars.reverse := by simp
  have span := span_reverse digits ('-' :: chars.reverse) (by simp)
  rw [decode?, reversed, span]
  cases known : chars.reverse with
  | nil => exact absurd (List.reverse_eq_nil_iff.mp known) some_known
  | cons last before =>
      simp only [← known, List.reverse_reverse]

/-- A text is what its written form stands for. -/
theorem decode?_encode (text : List Char) : decode? (encode text) = some text := by
  have digits : ∀ c ∈ written (plain text) 72 128 0 (wide text), c ≠ '-' := by
    rintro c member rfl
    exact absurd (written_plain _ _ _ _ _ _ member).2 (by decide)
  rw [encode_eq]
  by_cases none_known : plain text = []
  · have read := putIn?_written_wide text
    rw [none_known] at read digits ⊢
    exact (decode?_digits digits).trans read
  · have some_known : (plain text).map (·.1) ≠ [] := by simpa using none_known
    rw [if_neg (by simpa using none_known), List.append_assoc, List.singleton_append,
      decode?_hyphen some_known digits, putIn?_written_wide]

end LiveSelector.Text.Punycode
