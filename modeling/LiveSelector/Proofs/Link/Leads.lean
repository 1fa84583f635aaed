import LiveSelector.Proofs.Link.Forms
import LiveSelector.Proofs.Link.Scanning
import LiveSelector.Proofs.Text.Trimming
import LiveSelector.Proofs.Url.Schemes

namespace LiveSelector.Link

/-! Where the links of a scan lead.  What a scan takes for a path may begin like a URL, for a path
may hold colons: it leads nowhere if what stands before the first colon is a scheme that no page is
fetched by.  A web link always leads somewhere. -/

open Text (isBlank isWord readLines trim)
open Url (Begins readable schemeKind)

variable {text chars rest : List Char} {link : Link} {found : Found} {base : Option FilePath}
variable {limit : Nat} {scheme target : String} {url : Url}

/-- Pages are fetched neither by such a scheme nor from a drive of its name. -/
def IsForeign (scheme : String) : Prop :=
  scheme ≠ "http" ∧ scheme ≠ "https" ∧ scheme.utf8ByteSize ≠ 1

/-- Why a target with a foreign scheme leads nowhere, if it does not. -/
def refusal (scheme target : String) : LinkError :=
  if scheme = "file" then .invalidFileUrl target else .unsupportedScheme scheme

theorem urlKind_cases (target : String) (url : Url) :
    (∃ kind, urlKind target url = .ok kind) ∨
      IsForeign url.scheme ∧ urlKind target url = .error (refusal url.scheme target) := by
  simp only [urlKind, refusal]
  split
  · exact .inl ⟨_, rfl⟩
  · rename_i other
    have notWeb : url.scheme ≠ "http" ∧ url.scheme ≠ "https" := by simpa using other
    split
    · rename_i file
      have long : url.scheme.utf8ByteSize ≠ 1 := by
        rw [file]
        decide
      simp only [fileKind]
      split
      · exact .inr ⟨⟨notWeb.1, notWeb.2, long⟩, rfl⟩
      · split
        · exact .inl ⟨_, rfl⟩
        · exact .inl ⟨_, rfl⟩
    · split
      · exact .inl ⟨_, rfl⟩
      · exact .inr ⟨⟨notWeb.1, notWeb.2, ‹_›⟩, rfl⟩

theorem kind_of_url (solid : trim link.target ≠ "")
    (read : Url.parse? (trim link.target) = some url) :
    link.kind base = urlKind (trim link.target) url := by
  simp only [kind, if_neg solid, read]

theorem kind_of_no_url (solid : trim link.target ≠ "")
    (none : Url.parse? (trim link.target) = none) :
    link.kind base = .ok (.file (fromBase base (.ofText (trim link.target)))) := by
  simp only [kind, if_neg solid, none]

/-- A link that is not blank leads somewhere unless it begins with a foreign scheme. -/
theorem kind_cases (solid : trim link.target ≠ "") (base : Option FilePath) :
    (∃ kind, link.kind base = .ok kind) ∨
      ∃ scheme rest, Begins scheme (readable (trim link.target)) rest ∧ IsForeign scheme ∧
        link.kind base = .error (refusal scheme (trim link.target)) := by
  cases read : Url.parse? (trim link.target) with
  | none => exact .inl ⟨_, kind_of_no_url solid read⟩
  | some url =>
      rw [kind_of_url solid read]
      rcases urlKind_cases (trim link.target) url with leads | ⟨foreign, refused⟩
      · exact .inl leads
      · obtain ⟨rest, begins⟩ := Url.parse?_begins read
        exact .inr ⟨url.scheme, rest, begins, foreign, refused⟩

theorem unknown_of_other (other : schemeKind scheme = .other) :
    scheme ∉ ["http", "https", "file"] := by
  intro known
  have all : ∀ scheme ∈ ["http", "https", "file"], schemeKind scheme ≠ .other := by decide
  exact all scheme known other

/-- A scheme that is not special leads nowhere without two slashes behind it, drives aside. -/
theorem kind_of_plain (solid : trim link.target ≠ "")
    (begins : Begins scheme (readable (trim link.target)) rest) (other : schemeKind scheme = .other)
    (long : scheme.utf8ByteSize ≠ 1) (plain : ¬ "//".toList <+: rest) (base : Option FilePath) :
    link.kind base = .error (.unsupportedScheme scheme) := by
  obtain ⟨url, read⟩ := Option.isSome_iff_exists.mp (Url.parse?_of_plain begins other plain)
  obtain ⟨behind, own⟩ := Url.parse?_begins read
  obtain ⟨rfl, rfl⟩ := begins.unique own
  have unknown := unknown_of_other other
  simp only [List.mem_cons, List.not_mem_nil, or_false, not_or] at unknown
  obtain ⟨notHttp, notHttps, notFile⟩ := unknown
  rw [kind_of_url solid read]
  simp [urlKind, notHttp, notHttps, notFile, long]

/-! ### What a scan takes -/

theorem high_of_isPathChar {c : Char} (path : isPathChar c = true) : ¬ c.toNat ≤ 0x20 := by
  intro low
  have all : ∀ point ≤ 0x20, isPathChar (Char.ofNat point) = false := by decide
  have here := all c.toNat low
  rw [Char.ofNat_toNat, path] at here
  cases here

theorem solid_of_endsUrl {c : Char} (goesOn : endsUrl c = false) : isBlank c = false := by
  simp only [endsUrl, Bool.or_eq_false_iff] at goesOn
  exact goesOn.1

theorem solid_of_isPathChar {c : Char} (path : isPathChar c = true) : isBlank c = false := by
  by_contra blank
  have ends : endsUrl c = true := by simp [endsUrl, Bool.not_eq_false _ ▸ blank]
  rw [isPathChar_eq_false_of_endsUrl ends] at path
  cases path

theorem trim_of_solid (solid : ∀ c ∈ target.toList, isBlank c = false) : trim target = target := by
  have trims : Text.Trims target.toList target.toList :=
    ⟨⟨[], [], by simp⟩, fun c first => solid c (List.mem_of_head? first),
      fun c last => solid c (List.mem_of_getLast? last)⟩
  rw [trim, trims.trimChars, String.ofList_toList]

/-- A link that a scan takes is a URL or a path as it stands in its line. -/
theorem form_of_mem_extract (untagged : ∀ line ∈ readLines text, tagged? line = none)
    (taken : link ∈ (extract text limit).links) :
    ∃ found : Found, link.target.toList = found.chars ∧ (found.IsUrl ∨ found.IsPath) := by
  have member := mem_allLinks_of_mem_extract taken
  rw [allLinks_of_untagged untagged] at member
  obtain ⟨line, _, inLine⟩ := List.mem_flatMap.mp member
  rw [bareLinks_eq] at inLine
  obtain ⟨found, kept, rfl⟩ := List.mem_map.mp inLine
  obtain ⟨there, plain⟩ := List.mem_filter.mp kept
  have form := form_of_mem_foundFrom there (by simpa using plain)
  exact ⟨found, String.toList_ofList, form.imp_right And.left⟩

theorem solid_of_mem_urlStarts {start : List Char} (member : start ∈ urlStarts) :
    start ≠ [] ∧ ∀ c ∈ start, isBlank c = false ∧ ¬ c.toNat ≤ 0x20 := by
  have all : ∀ start ∈ urlStarts, start ≠ [] ∧
      start.all (fun c => !isBlank c && !decide (c.toNat ≤ 0x20)) = true := by decide
  obtain ⟨nonempty, solid⟩ := all start member
  refine ⟨nonempty, fun c inside => ?_⟩
  simpa using List.all_eq_true.mp solid c inside

theorem Found.IsUrl.solid (url : found.IsUrl) :
    found.chars ≠ [] ∧ ∀ c ∈ found.chars, isBlank c = false := by
  obtain ⟨start, member, rest, written, nonempty, goesOn, _⟩ := url
  rw [written]
  refine ⟨by simp [nonempty], fun c inside => ?_⟩
  rcases List.mem_append.mp inside with front | back
  · exact ((solid_of_mem_urlStarts member).2 c front).1
  · exact solid_of_endsUrl (goesOn c back)

theorem Found.IsPath.solid (path : found.IsPath) :
    found.chars ≠ [] ∧ ∀ c ∈ found.chars, isBlank c = false := by
  obtain ⟨all, name, nonempty, extension, _, written⟩ := path
  exact ⟨by simp [written, nonempty], fun c inside => solid_of_isPathChar (all c inside)⟩

/-- The schemes of web links. -/
def webSchemes : List String :=
  ["http", "https"]

theorem isForeign_web (member : scheme ∈ webSchemes) : ¬ IsForeign scheme := by
  rintro ⟨notHttp, notHttps, _⟩
  rcases List.mem_pair.mp member with rfl | rfl
  · exact notHttp rfl
  · exact notHttps rfl

theorem schemeKind_web (member : scheme ∈ webSchemes) : schemeKind scheme = .special := by
  have all : ∀ scheme ∈ webSchemes, schemeKind scheme = .special := by decide
  exact all scheme member

/-- How the targets of web links begin. -/
def webStart (scheme : String) : List Char :=
  scheme.toList ++ "://".toList

theorem begins_webStart (member : scheme ∈ webSchemes) (rest : List Char) :
    Begins scheme (webStart scheme ++ rest) ("//".toList ++ rest) := by
  rcases List.mem_pair.mp member with rfl | rfl
  · exact ⟨'h', "ttp".toList, rfl, by decide, List.all_eq_true.mp (by decide), by decide⟩
  · exact ⟨'h', "ttps".toList, rfl, by decide, List.all_eq_true.mp (by decide), by decide⟩

theorem webStart_mem (member : scheme ∈ webSchemes) : webStart scheme ∈ urlStarts := by
  have all : ∀ scheme ∈ webSchemes, webStart scheme ∈ urlStarts := by decide
  exact all scheme member

theorem webStart_of_mem_urlStarts {start : List Char} (member : start ∈ urlStarts)
    (page : start ≠ "file://".toList) : ∃ scheme ∈ webSchemes, start = webStart scheme := by
  simp only [urlStarts, List.mem_cons, List.not_mem_nil, or_false] at member
  rcases member with rfl | rfl | rfl
  · exact ⟨"http", by decide, by decide⟩
  · exact ⟨"https", by decide, by decide⟩
  · exact absurd rfl page

theorem begins_web (member : scheme ∈ webSchemes) (web : webStart scheme <+: target.toList) :
    ∃ rest, Begins scheme (readable target) rest := by
  obtain ⟨nonempty, solid⟩ := solid_of_mem_urlStarts (webStart_mem member)
  obtain ⟨kept, whole⟩ := Url.readable_append (fun c inside => (solid c inside).2) nonempty web
  exact ⟨_, whole ▸ begins_webStart member kept⟩

/-- What a scan takes is a web link or is read as it stands, the URLs of files aside. -/
theorem readable_of_form (written : target.toList = found.chars)
    (form : found.IsUrl ∨ found.IsPath) (page : ¬ "file://".toList <+: target.toList) :
    (∃ scheme ∈ webSchemes, webStart scheme <+: target.toList) ∨
      readable target = target.toList := by
  rcases form with ⟨start, member, rest, same, _⟩ | path
  · have begins : start <+: target.toList := ⟨rest, by rw [written, same]⟩
    obtain ⟨scheme, web, rfl⟩ := webStart_of_mem_urlStarts member fun file => page (file ▸ begins)
    exact .inl ⟨scheme, web, begins⟩
  · refine .inr (Url.readable_of_solid fun c inside => high_of_isPathChar (path.1 c ?_))
    exact written ▸ inside

theorem solid_of_form (written : target.toList = found.chars) (form : found.IsUrl ∨ found.IsPath) :
    target ≠ "" ∧ ∀ c ∈ target.toList, isBlank c = false := by
  have ⟨nonempty, solid⟩ : found.chars ≠ [] ∧ ∀ c ∈ found.chars, isBlank c = false :=
    form.elim Found.IsUrl.solid Found.IsPath.solid
  refine ⟨?_, written ▸ solid⟩
  rintro rfl
  exact nonempty written.symm

theorem begins_of_readable (web : (∃ scheme ∈ webSchemes, webStart scheme <+: target.toList) ∨
    readable target = target.toList) (begins : Begins scheme (readable target) rest)
    (foreign : IsForeign scheme) : Begins scheme target.toList rest := by
  rcases web with ⟨own, member, front⟩ | same
  · obtain ⟨_, web⟩ := begins_web member front
    obtain ⟨rfl, _⟩ := begins.unique web
    exact absurd foreign (isForeign_web member)
  · rwa [same] at begins

/-- A link that a scan takes leads somewhere unless it is the URL of a file or begins with a foreign
scheme.  No link leads anywhere that begins with a scheme that is not special and no two slashes
behind it. -/
theorem leads_of_mem_extract (untagged : ∀ line ∈ readLines text, tagged? line = none)
    (taken : link ∈ (extract text limit).links) (page : ¬ "file://".toList <+: link.target.toList)
    (base : Option FilePath) :
    ((∃ kind, link.kind base = .ok kind) ∨
        ∃ scheme rest, Begins scheme link.target.toList rest ∧ IsForeign scheme ∧
          link.kind base = .error (refusal scheme link.target)) ∧
      ∀ scheme rest, Begins scheme link.target.toList rest → schemeKind scheme = .other →
        scheme.utf8ByteSize ≠ 1 → ¬ "//".toList <+: rest →
          link.kind base = .error (.unsupportedScheme scheme) := by
  obtain ⟨found, written, form⟩ := form_of_mem_extract untagged taken
  obtain ⟨nonempty, solid⟩ := solid_of_form written form
  have trimmed : trim link.target = link.target := trim_of_solid solid
  have read := readable_of_form written form page
  have there : trim link.target ≠ "" := by rwa [trimmed]
  constructor
  · rcases kind_cases there base with leads | ⟨scheme, rest, begins, foreign, refused⟩
    · exact .inl leads
    · rw [trimmed] at begins refused
      exact .inr ⟨scheme, rest, begins_of_readable read begins foreign, foreign, refused⟩
  · intro scheme rest begins other long plain
    rcases read with ⟨own, member, front⟩ | same
    · obtain ⟨kept, whole⟩ := front
      obtain ⟨rfl, _⟩ := begins.unique (whole ▸ begins_webStart member kept)
      rw [schemeKind_web member] at other
      cases other
    · have whole : readable (trim link.target) = link.target.toList := by rw [trimmed, same]
      exact kind_of_plain there (whole ▸ begins) other long plain base

theorem candidates_lead :
    let text := "p.html or http://a.b/ or a-b:8080/q.html".toList
    let page := bare "p.html"
    let named := bare "a-b:8080/q.html"
    ((∀ line ∈ readLines text, tagged? line = none) ∧ page ∈ (extract text 2).links ∧
        ¬ "file://".toList <+: page.target.toList ∧ ∃ kind, page.kind none = .ok kind) ∧
      named ∈ (extract text 3).links ∧ ¬ "file://".toList <+: named.target.toList ∧
        Begins "a-b" named.target.toList "8080/q.html".toList ∧
        schemeKind "a-b" = .other ∧ "a-b".utf8ByteSize ≠ 1 ∧
        ¬ "//".toList <+: "8080/q.html".toList ∧
        named.kind (some ⟨"d".toList⟩) = .error (.unsupportedScheme "a-b") := by
  intro text page named
  have untagged : ∀ line ∈ readLines text, tagged? line = none := by decide
  have first : page ∈ (extract text 2).links := by decide
  have second : named ∈ (extract text 3).links := by decide
  have noFile : ¬ "file://".toList <+: page.target.toList := by decide
  have notFile : ¬ "file://".toList <+: named.target.toList := by decide
  have begins : Begins "a-b" named.target.toList "8080/q.html".toList :=
    ⟨'a', "-b".toList, by decide, by decide, List.all_eq_true.mp (by decide), by decide⟩
  have other : schemeKind "a-b" = .other := by decide
  refine ⟨⟨untagged, first, noFile, ?_⟩, second, notFile, begins, other, by decide, by decide, ?_⟩
  · rcases (leads_of_mem_extract untagged first noFile none).1 with leads | ⟨_, _, refused, _⟩
    · exact leads
    · obtain ⟨letter, name, whole, _, solid, _⟩ := refused
      have colon : ':' ∈ page.target.toList := by rw [whole]; simp
      exact absurd colon (by decide)
  · exact (leads_of_mem_extract untagged second notFile (some ⟨"d".toList⟩)).2 "a-b"
      "8080/q.html".toList begins other (by decide) (by decide)

/-- A host with a port is taken for a path and refused as a scheme. -/
theorem host_with_port_refused :
    let text := "see localhost:8080/page.html".toList
    let link := bare "localhost:8080/page.html"
    (∀ line ∈ readLines text, tagged? line = none) ∧ (extract text 1).links = [link] ∧
      ¬ "file://".toList <+: link.target.toList ∧
      link.kind none = .error (.unsupportedScheme "localhost") := by
  decide +kernel

end LiveSelector.Link
