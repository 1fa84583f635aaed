import LiveSelector.Fetch.Basic
import LiveSelector.Proofs.Disk.Reading
import LiveSelector.Proofs.Link.Leads
import LiveSelector.Proofs.Url.Authorities

namespace LiveSelector.Link

/-! Web links.  A target that begins like a web link leads to the web if its authority says where,
and then no disk has a part in what is fetched.  Any other such target spells no URL, and a target
that spells no URL is a path: it is looked for on the disk, below a directory that goes by the
scheme and its colon. -/

open Text (trim)
open Url (Begins SaysWhere authorityOf readable schemeKind)

variable {link : Link} {scheme target : String} {base : Option FilePath} {front : List Char}

/-- Following a path from a base directory puts the same characters before it however it goes on. -/
theorem fromBase_front (nonempty : front ≠ []) (base : Option FilePath) :
    ∃ before, ∀ more, fromBase base ⟨front ++ more⟩ = ⟨before ++ front ++ more⟩ := by
  have start : ∀ more, FilePath.isAbsolute ⟨front ++ more⟩ = FilePath.isAbsolute ⟨front⟩ := by
    intro more
    cases front with
    | nil => exact absurd rfl nonempty
    | cons c rest => rfl
  cases base with
  | none => exact ⟨[], fun more => rfl⟩
  | some directory =>
      simp only [fromBase, FilePath.join, start]
      split
      · exact ⟨[], fun more => rfl⟩
      · split
        · exact ⟨directory.chars, fun more => by rw [List.append_assoc]⟩
        · exact ⟨directory.chars ++ ['/'], fun more => by simp⟩

theorem solid_of_web (member : scheme ∈ webSchemes) (web : webStart scheme <+: target.toList) :
    target ≠ "" := by
  rintro rfl
  exact (solid_of_mem_urlStarts (webStart_mem member)).1 (List.prefix_nil.mp web)

theorem kind_of_web_url {url : Url} (member : url.scheme ∈ webSchemes)
    (solid : trim link.target ≠ "") (read : Url.parse? (trim link.target) = some url) :
    link.kind base = .ok (.remote url) := by
  rw [kind_of_url solid read]
  rcases List.mem_pair.mp member with same | same
  · simp [urlKind, same]
  · simp [urlKind, same]

theorem parse?_web_isSome_iff (member : scheme ∈ webSchemes)
    (web : webStart scheme <+: target.toList) :
    (Url.parse? target).isSome = true ↔ SaysWhere (authorityOf target) := by
  obtain ⟨_, begins⟩ := begins_web member web
  exact Url.parse?_isSome_iff begins (schemeKind_web member)

theorem scheme_of_web {url : Url} (member : scheme ∈ webSchemes)
    (web : webStart scheme <+: target.toList) (read : Url.parse? target = some url) :
    url.scheme = scheme := by
  obtain ⟨_, begins⟩ := begins_web member web
  obtain ⟨_, own⟩ := Url.parse?_begins read
  exact (own.unique begins).1

theorem readText_of_fetch {disk : Disk} {answers : Web} {path : FilePath} {html : String}
    (leads : link.kind base = .ok (.file path))
    (fetched : link.fetch disk answers base = .ok html) :
    disk.readText path = .ok html := by
  simp only [Link.fetch, fetchCause, leads, LinkKind.fetch] at fetched
  cases read : disk.readText path with
  | error reason =>
      rw [read] at fetched
      cases fetched
  | ok text =>
      rw [read] at fetched
      cases fetched
      rfl

theorem hasDirectory_of_web_path {disk : Disk} {html : String}
    (web : webStart scheme <+: target.toList)
    (read : disk.readText (fromBase base (.ofText target)) = .ok html) :
    disk.hasDirectory (fromBase base (.ofText (scheme ++ ":"))) = true := by
  obtain ⟨rest, whole⟩ := web
  have named : (scheme ++ ":").toList ≠ [] := by simp
  obtain ⟨before, follows⟩ := fromBase_front named base
  have split : target.toList = (scheme ++ ":").toList ++ '/' :: '/' :: rest := by
    rw [← whole, webStart]
    simp
  have directory :
      fromBase base (.ofText (scheme ++ ":")) = ⟨before ++ (scheme ++ ":").toList⟩ := by
    simpa [FilePath.ofText] using follows []
  rw [FilePath.ofText, split, follows] at read
  rw [directory]
  exact Disk.hasDirectory_of_readText read (by simp)

end LiveSelector.Link
