import LiveSelector.Proofs.Url.Schemes
import Mathlib.Data.List.TakeDrop

namespace LiveSelector.Url

/-! Authorities of special URLs.  The part between the slashes and the path of a special URL says
where the URL leads: behind the login, if there is one, it names a host, and behind the host it
spells a port or nothing.  A text with a special scheme spells a URL if and only if its authority
does so, whatever follows the authority. -/

variable {scheme : String} {authority place text rest digits : List Char}

/-- An authority without its login. -/
def behindLogin (authority : List Char) : List Char :=
  match cutLogin? authority with
  | some (_, place) => place
  | none => authority

/-- Digits spell a port, or there are none. -/
def SpellsPort (digits : List Char) : Prop :=
  digits = [] ∨ ∃ port ∈ numberIn? 10 digits, port < portLimit

/-- An authority says where a URL leads. -/
def SaysWhere (authority : List Char) : Prop :=
  (specialHost? (splitHost false (behindLogin authority)).1).isSome = true ∧
    SpellsPort (splitHost false (behindLogin authority)).2.tail

instance : Decidable (SpellsPort digits) :=
  inferInstanceAs (Decidable (_ ∨ _))

instance : Decidable (SaysWhere authority) :=
  inferInstanceAs (Decidable (_ ∧ _))

/-- The authority in a text that begins with a special scheme. -/
def authorityOf (target : String) : List Char :=
  let behind := ((readable target).dropWhile (· ≠ ':')).tail
  (splitAuthority .special (behind.dropWhile (isSlash .special))).1

theorem cutLogin?_mem {login : List Char} (cut : cutLogin? authority = some (login, place)) :
    ∀ c ∈ place, c ∈ authority := by
  simp only [cutLogin?, List.span_eq_takeWhile_dropWhile] at cut
  split at cut
  · cases cut
  · rename_i after _ before found
    cases cut
    obtain ⟨rfl, _⟩ := Prod.mk.inj found
    intro c member
    exact List.mem_reverse.mp (List.takeWhile_sublist _ |>.subset (List.mem_reverse.mp member))

theorem behindLogin_mem : ∀ c ∈ behindLogin authority, c ∈ authority := by
  unfold behindLogin
  split
  · rename_i cut
    exact cutLogin?_mem cut
  · exact fun _ member => member

theorem splitHost_append (bracketed : Bool) (text : List Char) :
    (splitHost bracketed text).1 ++ (splitHost bracketed text).2 = text := by
  induction text generalizing bracketed with
  | nil => rfl
  | cons c rest ih =>
      simp only [splitHost]
      split
      · rfl
      · simp only [List.cons_append, ih]

theorem port?_isSome_iff (scheme : String) :
    (port? scheme digits).isSome = true ↔ SpellsPort digits := by
  simp only [port?, SpellsPort]
  split
  · simp [*]
  · rename_i some
    cases read : numberIn? 10 digits with
    | none => simp [some]
    | some port =>
        by_cases fits : port < portLimit
        · simp [fits]
        · simp [some, fits]

theorem splitAuthority_clean (text : List Char) : '\\' ∉ (splitAuthority .special text).1 := by
  rw [splitAuthority, List.span_eq_takeWhile_dropWhile]
  intro member
  have passed := List.mem_takeWhile_imp member
  revert passed
  decide

/-- The login of an authority and what is behind it.  Nothing may stand between a login and a
path. -/
def loginAndPlace? (authority rest : List Char) : Option (List Char × List Char) :=
  match cutLogin? authority with
  | none => some ([], authority)
  | some ([], place) => if place = [] && rest ≠ [] then none else some ([], place)
  | some (login, place) => some (login, place)

/-- An authority from its login and what is behind it. -/
def placed? (scheme : String) (login place rest : List Char) : Option (Authority × List Char) := do
  let (username, password) := loginParts login
  let (hostText, after) := splitHost false place
  let host ← host? (schemeKind scheme) hostText
  if host.isNone && (!after.isEmpty || !username.isEmpty || !password.isEmpty) then none
  let (digits, behind) := after.tail.span (· ≠ '\\')
  let port ← port? scheme digits
  some (⟨username, password, host, port⟩, behind ++ rest)

theorem authority?_eq (scheme : String) (text : List Char) :
    authority? scheme text =
      (loginAndPlace? (splitAuthority (schemeKind scheme) text).1
        (splitAuthority (schemeKind scheme) text).2).bind fun parts =>
          placed? scheme parts.1 parts.2 (splitAuthority (schemeKind scheme) text).2 := by
  simp only [authority?, loginAndPlace?]
  generalize splitAuthority (schemeKind scheme) text = whole
  cases cut : cutLogin? whole.1 with
  | none => rfl
  | some parts =>
      obtain ⟨login, place⟩ := parts
      cases login with
      | nil =>
          by_cases refused : (place = [] && whole.2 ≠ []) = true
          · simp only [refused, if_true]
            rfl
          · simp only [refused]
            rfl
      | cons c others => rfl

theorem loginAndPlace?_place {login : List Char}
    (cut : loginAndPlace? authority rest = some (login, place)) :
    place = behindLogin authority := by
  simp only [loginAndPlace?] at cut
  simp only [behindLogin]
  cases parts : cutLogin? authority with
  | none =>
      rw [parts] at cut
      cases cut
      rfl
  | some pair =>
      obtain ⟨before, after⟩ := pair
      rw [parts] at cut
      cases before with
      | nil =>
          simp only at cut
          split at cut
          · cases cut
          · cases cut
            rfl
      | cons c others =>
          cases cut
          rfl

theorem placed?_isSome_iff (special : schemeKind scheme = .special) (clean : '\\' ∉ place)
    (login rest : List Char) :
    (placed? scheme login place rest).isSome = true ↔
      (specialHost? (splitHost false place).1).isSome = true ∧
        SpellsPort (splitHost false place).2.tail := by
  have solid : ∀ c ∈ (splitHost false place).2.tail, c ≠ '\\' := by
    rintro c member rfl
    apply clean
    rw [← splitHost_append false place]
    exact List.mem_append_right _ (List.mem_of_mem_tail member)
  have whole : (splitHost false place).2.tail.span (· ≠ '\\') =
      ((splitHost false place).2.tail, []) := by
    rw [List.span_eq_takeWhile_dropWhile, List.takeWhile_eq_self_iff.mpr (by simpa using solid),
      List.dropWhile_eq_nil_iff.mpr (by simpa using solid)]
  rw [← port?_isSome_iff scheme]
  simp only [placed?, special, host?, whole]
  cases specialHost? (splitHost false place).1 with
  | none => simp
  | some host =>
      cases port? scheme (splitHost false place).2.tail with
      | none => simp
      | some port => simp

theorem not_saysWhere_of_refused (refused : loginAndPlace? authority rest = none) :
    ¬ SaysWhere authority := by
  simp only [loginAndPlace?] at refused
  split at refused
  · cases refused
  · rename_i place cut
    split at refused
    · rename_i nothing
      have empty : place = [] := by
        simp only [Bool.and_eq_true, decide_eq_true_eq] at nothing
        exact nothing.1
      have front : behindLogin authority = [] := by simp only [behindLogin, cut, empty]
      rintro ⟨host, _⟩
      rw [front] at host
      exact absurd host (by decide +kernel)
    · cases refused
  · cases refused

theorem authority?_isSome_iff (special : schemeKind scheme = .special) (text : List Char) :
    (authority? scheme text).isSome = true ↔ SaysWhere (splitAuthority .special text).1 := by
  have clean := splitAuthority_clean text
  rw [authority?_eq, special]
  generalize splitAuthority .special text = whole at clean ⊢
  cases cut : loginAndPlace? whole.1 whole.2 with
  | none => simp [not_saysWhere_of_refused cut]
  | some parts =>
      have behind := loginAndPlace?_place cut
      have solid : '\\' ∉ parts.2 := fun member =>
        clean (behindLogin_mem '\\' (behind ▸ member))
      rw [Option.bind_some, placed?_isSome_iff special solid, SaysWhere, behind]

theorem special?_isSome (scheme : String) (text : List Char) :
    (special? scheme text).isSome =
      (authority? scheme (text.dropWhile (isSlash .special))).isSome := by
  simp only [special?]
  cases authority? scheme (text.dropWhile (isSlash .special)) with
  | none => rfl
  | some parts => rfl

theorem Begins.behind (begins : Begins scheme text rest) :
    (text.dropWhile (· ≠ ':')).tail = rest := by
  obtain ⟨letter, name, rfl, alpha, all, _⟩ := begins
  have solid : ∀ c ∈ letter :: name, c ≠ ':' := by
    have whole : ∀ c ∈ letter :: name, isSchemeChar c = true :=
      List.forall_mem_cons.mpr ⟨isSchemeChar_of_isAlpha alpha, all⟩
    rintro c member rfl
    exact absurd (whole ':' member) (by decide)
  rw [List.dropWhile_append_of_pos (by simpa using solid)]
  simp

/-- A text that begins with a special scheme spells a URL if and only if its authority says where it
leads. -/
theorem parse?_isSome_iff {target : String} (begins : Begins scheme (readable target) rest)
    (special : schemeKind scheme = .special) :
    (parse? target).isSome = true ↔ SaysWhere (authorityOf target) := by
  rw [parse?_of_special begins special, special?_isSome, authority?_isSome_iff special,
    authorityOf, begins.behind]

end LiveSelector.Url
