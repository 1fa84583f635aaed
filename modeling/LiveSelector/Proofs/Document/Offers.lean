import LiveSelector.Document.CodeAction
import Mathlib.Data.List.Basic
import LiveSelector.Proofs.Link.Tagged

namespace LiveSelector

/-! What a document offers line by line.  The actions are looked up by the lines of the document, the
links of a scan by the lines that a reader takes; both come to the same links. -/

open Text (dropReturn)

theorem CodeAction.forLink_links (link : Link) :
    ((forLink link).map CodeAction.link).eraseDups = [link] := by
  simp [forLink, List.eraseDups_cons]

theorem CodeAction.forLink_injective {one other : Link} (same : forLink one = forLink other) :
    one = other :=
  congrArg CodeAction.link (List.cons.inj same).1

namespace Link

/-- A line that a reader takes has the tagged link of the piece that it is made of. -/
theorem endedLines_tagged? (row : List (List Char)) (line : Nat) :
    (Text.endedLines row)[line]?.bind tagged? = (row[line]?.map dropReturn).bind tagged? := by
  induction row generalizing line with
  | nil => rfl
  | cons piece rest ih =>
      cases rest with
      | nil =>
          -- The last piece is a line only if it is not empty, and an empty one has no tag.
          cases line with
          | zero =>
              cases piece with
              | nil => rfl
              | cons c others => exact (tagged?_dropReturn (c :: others)).symm
          | succ line => cases piece <;> rfl
      | cons next others =>
          cases line with
          | zero => rfl
          | succ line => exact ih line

end Link

namespace Document

variable {document : Document} {languageId : String}

/-- The link that a scan of the text finds on a line. -/
def scannedAt? (document : Document) (line : Nat) : Option Link :=
  (Text.readLines document.text.toList)[line]?.bind Link.tagged?

theorem scannedAt?_eq (document : Document) (line : Nat) :
    document.scannedAt? line = document.taggedAt? line :=
  Link.endedLines_tagged? (rawLines document.text) line

/-- The links of the actions on a line, each once. -/
def offers (document : Document) (languageId : String) (line : Nat) : List Link :=
  ((document.codeActions line languageId).map CodeAction.link).eraseDups

theorem codeActions_eq (selector : document.languageId = languageId) (line : Nat) :
    document.codeActions line languageId =
      match document.taggedAt? line with
      | some link => CodeAction.forLink link
      | none => [] := by
  rw [codeActions, if_pos selector]
  rfl

theorem offers_eq (selector : document.languageId = languageId) (line : Nat) :
    document.offers languageId line = (document.taggedAt? line).toList := by
  rw [offers, codeActions_eq selector]
  cases document.taggedAt? line with
  | none => rfl
  | some link => exact CodeAction.forLink_links link

theorem codeActions_eq_forLink_iff {link : Link} (selector : document.languageId = languageId)
    (line : Nat) :
    document.codeActions line languageId = CodeAction.forLink link ↔
      document.taggedAt? line = some link := by
  rw [codeActions_eq selector]
  cases document.taggedAt? line with
  | none => simp [CodeAction.forLink]
  | some found =>
      simp only [Option.some.injEq]
      exact ⟨CodeAction.forLink_injective, congrArg CodeAction.forLink⟩

theorem codeActions_eq_nil_iff (selector : document.languageId = languageId) (line : Nat) :
    document.codeActions line languageId = [] ↔ document.taggedAt? line = none := by
  rw [codeActions_eq selector]
  cases document.taggedAt? line <;> simp [CodeAction.forLink]

/-- A scan that leaves no tagged link out takes, from line to line, the links that the actions are
for. -/
theorem extract_offers {limit : Nat} (selector : document.languageId = languageId)
    (tagged : document.taggedLines ≠ []) (few : document.taggedLines.length ≤ limit) :
    Link.extract document.text.toList limit =
        ⟨(List.range document.lineCount).flatMap (document.offers languageId), false⟩ ∧
      ∀ line, (document.codeActions line languageId = [] ↔ document.scannedAt? line = none) ∧
        ∀ link, document.codeActions line languageId = CodeAction.forLink link ↔
          document.scannedAt? line = some link := by
  refine ⟨?_, fun line => ?_⟩
  · have offered : (List.range document.lineCount).flatMap (document.offers languageId) =
        Link.taggedOf (Text.readLines document.text.toList) := by
      rw [funext (offers_eq selector), ← List.filterMap_eq_flatMap_toList, filterMap_taggedAt?]
    rw [← taggedLines_length] at few
    have found : Link.taggedOf (Text.readLines document.text.toList) ≠ [] := by
      intro none
      have empty := taggedLines_length document
      rw [none] at empty
      exact tagged (List.length_eq_zero_iff.mp empty.symm)
    rw [Link.extract_eq, Link.allLinks_of_ne_nil found, offered, Link.Scan.ofLinks,
      List.take_of_length_le few, decide_eq_false (Nat.not_lt.mpr few)]
  · rw [scannedAt?_eq]
    exact ⟨codeActions_eq_nil_iff selector line, fun link => codeActions_eq_forLink_iff selector line⟩

/-- A stray carriage return, both ends of a line and an empty last line. -/
theorem mixed_line_ends_offered :
    let document : Document :=
      ⟨⟨"s.temme"⟩, none, "temme", "<a>\rx.html\r\r\n\r\n<b> y.html\n<c>\r\n<d> z\r\n"⟩
    Link.extract document.text.toList 3 =
        ⟨(List.range document.lineCount).flatMap (document.offers "temme"), false⟩ ∧
      (Link.extract document.text.toList 3).links.length = 3 := by
  intro document
  have selector : document.languageId = "temme" := rfl
  have few : document.taggedLines.length ≤ 3 := by decide +kernel
  exact ⟨(extract_offers selector (by decide +kernel) few).1, by decide +kernel⟩

end Document

end LiveSelector
