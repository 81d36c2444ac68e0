import Relata.Files
import Relata.Server.Retrieval
import Relata.Settings.Basic

/-!
# Loading a model

The model of a run comes from a file or from a server. A file holds a text in the model language or
a payload; a payload is a JSON object, and no text in the language starts with a brace.

## Main definitions

* `LoadError` — why there is no model.
* `Model.ofContent`, `Model.ofFile` — the model in a file.
* `Settings.loadModel` — the model that settings name.
-/

namespace Relata

/-- Why there is no model. -/
inductive LoadError
  | read (path : String) (error : FileError)
  | noSource
  | fetch (error : FetchError)
  | model (error : ModelError)
  deriving DecidableEq, Repr, Inhabited

/-- The wording of the error. -/
def LoadError.message : LoadError → String
  | read path e => "failed to read " ++ path ++ ": " ++ e.message
  | noSource => "no model source configured; set store_id and api_url, or model_file"
  | fetch e => e.message
  | model e => e.message

/-- Whether a text starts with a brace behind blanks. -/
def startsWithBrace (text : String) : Bool :=
  (Text.trimStart text.toList).head? = some '\x7b'

namespace Model

/-- The valid model in the content of a file. -/
def ofContent (content : String) : Except ModelError Model :=
  if startsWithBrace content then ofJson content else ofLanguage content

/-- The valid model in a file. -/
def ofFile (fs : Files) (path : String) : Except LoadError Model := do
  let content ← (fs.readText path).mapError (.read path)
  (ofContent content).mapError .model

end Model

/-- The valid model that settings name. -/
def Settings.loadModel (s : Settings) (fs : Files) (server : Server) : Except LoadError Model :=
  match s.modelSource? with
  | none => .error .noSource
  | some (.file path) => Model.ofFile fs path
  | some (.server apiUrl storeId modelId) =>
    (ModelQuery.fetch ⟨apiUrl, storeId, modelId, s.apiToken⟩ server).mapError .fetch

end Relata
