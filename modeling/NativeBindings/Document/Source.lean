import NativeBindings.Document.Json
import NativeBindings.Document.Toml
import NativeBindings.FileTree

/-!
# Documents and their notations

A document is TOML, which is text, or JSON, which is bytes. The extension of a file tells which.
-/

namespace NativeBindings.Document

/-- A document in its notation. -/
inductive Source
  | toml (content : String)
  | json (content : List UInt8)
  deriving DecidableEq, Repr

namespace Source

/-- The format of a document. -/
def format : Source → Format
  | toml _ => .toml
  | json _ => .json

/-- The value that a document holds, if it is well formed. -/
def value? : Source → Option Value
  | toml content => Toml.read content
  | json content => Json.read content

/-- The document in a file: JSON if the extension is `json`, and TOML otherwise, which has to be
text. -/
def ofFile (tree : FileTree) (path : Path) : Except Failure Source := do
  let content ← (tree.read path).mapError (.inputOutput (.reading path))
  if path.extension? = some "json" then return json content
  else
    let text ← (Utf8.text content).mapError fun fault => .config (.notText path fault)
    return toml text

end Source

end NativeBindings.Document
