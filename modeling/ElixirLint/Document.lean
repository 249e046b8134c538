import ElixirLint.Uri

/-!
# Documents

What an editor has open: the identity of the document, the language the editor takes it for, and its text.
-/

namespace ElixirLint

/-- An open document. -/
structure Document where
  /-- The identity of the document. -/
  uri : DocumentUri
  /-- The name of the language in the editor. -/
  languageId : String
  /-- The whole text. -/
  text : String
  deriving DecidableEq, Repr

namespace Document

/-- The name that editors have for the language that is linted. -/
def elixir : String := "elixir"

/-- Whether a document is one that can be linted. -/
def isElixir (d : Document) : Bool := d.languageId == elixir

end Document

end ElixirLint
