import LiveSelector.Data.Table
import LiveSelector.Document.Diagnostic

namespace LiveSelector

/-!
The diagnostics that are shown, for each document that has any.
-/

structure DiagnosticStore where
  entries : Table (List Diagnostic)

namespace DiagnosticStore

def empty : DiagnosticStore := ⟨.empty⟩

instance : Inhabited DiagnosticStore := ⟨empty⟩

/-- The diagnostics of a document. -/
def get (store : DiagnosticStore) (document : DocumentId) : List Diagnostic :=
  (store.entries.get? document.text).getD []

/-- A store without the diagnostics of a document. -/
def clear (store : DiagnosticStore) (document : DocumentId) : DiagnosticStore :=
  ⟨store.entries.erase document.text⟩

/-- A store with the diagnostics of a document replaced. -/
def set (store : DiagnosticStore) (document : DocumentId) (diagnostics : List Diagnostic) :
    DiagnosticStore :=
  match diagnostics with
  | [] => store.clear document
  | first :: rest => ⟨store.entries.insert document.text (first :: rest)⟩

/-- The documents that have diagnostics, in ascending order. -/
def documents (store : DiagnosticStore) : List DocumentId :=
  store.entries.keys.map DocumentId.mk

def isEmpty (store : DiagnosticStore) : Bool :=
  store.entries.isEmpty

@[simp] theorem get_empty (document : DocumentId) : empty.get document = [] := rfl

@[simp] theorem get_clear {store : DiagnosticStore} {document other : DocumentId} :
    (store.clear document).get other = if document = other then [] else store.get other := by
  cases document
  cases other
  simp only [get, clear, Table.get?_erase, DocumentId.mk.injEq]
  split <;> rfl

@[simp] theorem get_set {store : DiagnosticStore} {document other : DocumentId}
    {diagnostics : List Diagnostic} :
    (store.set document diagnostics).get other =
      if document = other then diagnostics else store.get other := by
  cases diagnostics with
  | nil => exact get_clear
  | cons first rest =>
      cases document
      cases other
      simp only [get, set, Table.get?_insert, DocumentId.mk.injEq]
      split <;> rfl

theorem mem_documents {store : DiagnosticStore} {document : DocumentId} :
    document ∈ store.documents ↔ (store.entries.get? document.text).isSome = true := by
  rw [← Table.mem_keys_iff]
  cases document
  simp [documents]

/-- A document is listed after its diagnostics have been replaced if there are any. -/
theorem mem_documents_set {store : DiagnosticStore} {document other : DocumentId}
    {diagnostics : List Diagnostic} :
    other ∈ (store.set document diagnostics).documents ↔
      if document = other then diagnostics ≠ [] else other ∈ store.documents := by
  cases document
  cases other
  cases diagnostics with
  | nil =>
      simp only [mem_documents, set, clear, Table.get?_erase, DocumentId.mk.injEq]
      split <;> simp
  | cons first rest =>
      simp only [mem_documents, set, Table.get?_insert, DocumentId.mk.injEq]
      split <;> simp

end DiagnosticStore

end LiveSelector
