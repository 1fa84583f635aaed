import LiveSelector.Link.Basic

namespace LiveSelector

/-! Links with and without a base directory.  The base matters to links that spell no URL, and to
them only as the directory that a relative path is followed from: it never decides whether a link
leads anywhere. -/

open Text (trim)

variable {link : Link} {directory : FilePath}

/-- A kind found without a base directory, once there is one.  The paths of URLs stay. -/
def LinkKind.under (isUrl : Bool) (directory : FilePath) : LinkKind → LinkKind
  | .file path => .file (if isUrl || path.isAbsolute then path else directory.join path)
  | .foreignFile bytes => .foreignFile bytes
  | .remote url => .remote url

theorem LinkKind.under_url (directory : FilePath) (kind : LinkKind) :
    kind.under true directory = kind := by
  cases kind <;> rfl

namespace Link

/-- Whether a link spells a URL, blanks around its target aside. -/
def isUrl (link : Link) : Bool :=
  (Url.parse? (trim link.target)).isSome

theorem kind_some (link : Link) (directory : FilePath) :
    link.kind (some directory) = (link.kind none).map (·.under link.isUrl directory) := by
  simp only [kind, isUrl]
  split
  · rfl
  · cases read : Url.parse? (trim link.target) with
    | none =>
        simp only [fromBase, Except.map, LinkKind.under, Option.isSome_none, Bool.false_or]
    | some url =>
        simp only [Option.isSome_some, LinkKind.under_url]
        cases urlKind (trim link.target) url with
        | error reason => rfl
        | ok kind => rfl

/-- Only the paths of files depend on the base directory. -/
theorem kind_eq_iff {answer : Except LinkError LinkKind}
    (noFile : ∀ path, answer ≠ .ok (.file path)) :
    link.kind none = answer ↔ link.kind (some directory) = answer := by
  rw [kind_some]
  cases link.kind none with
  | error reason => rfl
  | ok kind =>
      cases kind with
      | file path =>
          exact ⟨fun same => absurd same.symm (noFile path),
            fun same => absurd same.symm (noFile _)⟩
      | foreignFile bytes => rfl
      | remote url => rfl

/-- A link leads somewhere from every base directory, and without one. -/
def Leads (link : Link) : Prop :=
  ∀ base, ∃ kind, link.kind base = .ok kind

theorem leads_of_kind {kind : LinkKind} (known : link.kind none = .ok kind) : link.Leads := by
  intro base
  cases base with
  | none => exact ⟨kind, known⟩
  | some directory => exact ⟨_, by rw [kind_some, known, Except.map]⟩

end Link

end LiveSelector
