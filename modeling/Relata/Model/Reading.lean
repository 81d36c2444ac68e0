import Relata.Language.Parse
import Relata.Payload.Conversion
import Relata.Validation

/-!
# Reading valid models

A model is read from a text in the model language or from a payload, and is then validated.

## Main definitions

* `ModelError` — why there is no valid model.
* `Model.validate` — refuses a model with problems.
* `Model.ofLanguage`, `Model.ofPayload`, `Model.ofJson` — valid models.
-/

namespace Relata

/-- Why there is no valid model. -/
inductive ModelError
  | parse (error : ParseError)
  | payloadText (error : PayloadTextError)
  | payload (problem : PayloadProblem)
  /-- Every problem of an invalid model. -/
  | invalid (problems : List Problem)
  /-- A list of payloads could not be read. -/
  | payloadList (reason : String)
  deriving DecidableEq, Repr, Inhabited

/-- What is wrong with the model, without the common introduction. -/
def ModelError.reason : ModelError → String
  | parse e => e.display
  | payloadText e => e.message
  | payload p => p.message
  | invalid ps => "; ".intercalate (ps.map Problem.message)
  | payloadList reason => "invalid model list payload: " ++ reason

/-- The wording of the error. -/
def ModelError.message (e : ModelError) : String :=
  "malformed authorization model: " ++ e.reason

namespace Model

/-- Refuses a model with problems. -/
def validate (m : Model) : Except ModelError Unit :=
  match m.problems with
  | [] => .ok ()
  | p :: ps => .error (.invalid (p :: ps))

/-- A model that is valid. -/
def validated (m : Model) : Except ModelError Model :=
  m.validate.map fun _ => m

/-- The valid model that a text in the model language describes. -/
def ofLanguage (text : String) : Except ModelError Model :=
  ((Model.parse text).mapError .parse) >>= validated

/-- The valid model that a payload describes. -/
def ofPayload (p : ModelPayload) : Except ModelError Model :=
  (p.model.mapError .payload) >>= validated

/-- The payload that a text holds, as part of reading a model. -/
def payloadOfJson (text : String) : Except ModelError ModelPayload :=
  (ModelPayload.ofText text).mapError .payloadText

/-- The valid model that a payload text describes. -/
def ofJson (text : String) : Except ModelError Model :=
  payloadOfJson text >>= ofPayload

end Model

end Relata
