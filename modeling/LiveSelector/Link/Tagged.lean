import LiveSelector.Link.Basic

namespace LiveSelector.Link

/-!
Tagged links: a label in angle brackets and after it the target, which runs to the end of the
text.  The first label that a target follows on the rest of its line counts.
-/

def isAngle (c : Char) : Bool :=
  c == '<' || c == '>'

/-- The link of a text that begins with a label.  The target is what follows the label and its
blanks; it is not empty and has no line end in it. -/
def taggedHere? : List Char → Option Link
  | '<' :: rest =>
    match rest.dropWhile fun c => !isAngle c with
    | '>' :: after =>
      let target := Text.trimStart after
      if target = [] || '\n' ∈ target then none
      else
        some ⟨some (.ofList ('<' :: (rest.takeWhile fun c => !isAngle c) ++ ['>'])),
          .ofList (Text.trimEnd target)⟩
    | _ => none
  | _ => none

def tagged? : List Char → Option Link
  | [] => none
  | c :: rest =>
    match taggedHere? (c :: rest) with
    | some link => some link
    | none => tagged? rest

end LiveSelector.Link
