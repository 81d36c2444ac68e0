import Relata.Model.Reading
import Relata.Server.Address
import Relata.Server.Status

/-!
# Models from a server

A server keeps the models of its stores. One request gets one model: the one with a given id, or
the first one of the list that starts with the latest. The request and the reading of the reply are
functions; what lies between them is the server's.

## Main definitions

* `ModelQuery` — which model is wanted, from where.
* `Request`, `Reply`, `Server` — what goes to a server and what comes back.
* `ModelQuery.request`, `ModelQuery.ofReply` — the request, and the model in the reply.
* `ModelQuery.fetch` — both, with a server between them.
-/

namespace Relata

/-! ### Requests and replies -/

/-- A request for what stands at an address. -/
structure Request where
  address : Address
  /-- What allows the sender to ask. -/
  authorization : Option String
  deriving DecidableEq, Repr, Inhabited

/-- What comes back. -/
inductive Reply
  /-- There is no server. -/
  | refused
  | answered (status : Status) (body : String)
  deriving DecidableEq, Repr, Inhabited

/-- A server, as what it replies. -/
abbrev Server := Request → Reply

/-- Why there is no reply to read. -/
inductive RequestFault
  | noScheme
  /-- The text is no address for another reason, or the token cannot be sent. -/
  | unusable
  /-- The scheme is not that of a web server. -/
  | scheme (address : Address)
  | refused (address : Address)
  deriving DecidableEq, Repr, Inhabited

/-- The wording of the fault. -/
def RequestFault.message : RequestFault → String
  | noScheme | unusable => "builder error"
  | scheme a => "builder error for url (" ++ a.text ++ ")"
  | refused a => "error sending request for url (" ++ a.text ++ ")"

/-- What is behind the fault. -/
def RequestFault.causes : RequestFault → List String
  | noScheme => ["relative URL without a base"]
  | unusable => []
  | scheme _ => ["URL scheme is not allowed"]
  | refused _ =>
    ["client error (Connect)", "tcp connect error", "Connection refused (os error 111)"]

/-- Why a server gives no model. -/
inductive FetchError
  | request (url : String) (fault : RequestFault)
  | status (url : String) (status : Status) (body : String)
  | noModels (storeId : String)
  | model (error : ModelError)
  deriving DecidableEq, Repr, Inhabited

/-- The wording of the error. -/
def FetchError.message : FetchError → String
  | request url fault => "request to " ++ url ++ " failed: " ++ fault.message
  | status url s body => url ++ " returned " ++ s.text ++ ": " ++ body
  | noModels storeId => "store " ++ storeId ++ " has no authorization models"
  | model e => e.message

/-! ### Queries -/

/-- Which model is wanted, from where. -/
structure ModelQuery where
  apiUrl : String
  storeId : String
  /-- The id of the model; the latest one is wanted if there is none. -/
  modelId : Option String
  token : Option String
  deriving DecidableEq, Repr, Inhabited

/-- A list of models, of which only the payloads count. -/
def modelListShape : Json.Shape (List ModelPayload) :=
  ⟨"struct ListModelsResponse",
    [Json.field "authorization_models" .defaulted (Json.Reader.list ModelPayload.shape.read)
      fun _ v => v], []⟩

/-- Whether a character may stand in a token. -/
def isTokenChar (c : Char) : Bool := c = '\t' || (0x20 ≤ c.toNat && c.toNat ≠ 0x7f)

namespace ModelQuery

/-- The address of the server without slashes at its end. -/
def base (q : ModelQuery) : String :=
  String.ofList (q.apiUrl.toList.reverse.dropWhile (· = '/')).reverse

/-- What is asked for. -/
def url (q : ModelQuery) : String :=
  q.base ++ "/stores/" ++ q.storeId ++ "/authorization-models" ++
    (q.modelId.map ("/" ++ ·)).getD "?page_size=1"

/-- The request of a query. -/
def request (q : ModelQuery) : Except FetchError Request := do
  let fail {α : Type} (fault : RequestFault) : Except FetchError α := .error (.request q.url fault)
  match Address.ofText? q.url with
  | none => fail (if Address.hasScheme q.url then .unusable else .noScheme)
  | some address =>
    if address.host.isNone then fail (.scheme address)
    else if q.token.any fun t => !t.toList.all isTokenChar then fail .unusable
    else if address.scheme ≠ "http" && address.scheme ≠ "https" then fail (.scheme address)
    else return ⟨address, q.token.map ("Bearer " ++ ·)⟩

/-- The payload in the answer to a query. -/
def ofBody (q : ModelQuery) (body : String) : Except FetchError ModelPayload :=
  match q.modelId with
  | some _ => (Model.payloadOfJson body).mapError .model
  | none => do
    let found ← (Json.Document.decode body modelListShape.read).mapError
      fun reason => .model (.payloadList reason)
    match found with
    | [] => throw (.noModels q.storeId)
    | p :: _ => return p

/-- The valid model in the reply to a request. -/
def ofReply (q : ModelQuery) (sent : Request) : Reply → Except FetchError Model
  | .refused => .error (.request q.url (.refused sent.address))
  | .answered status body =>
    if !status.isSuccess then .error (.status q.url status body)
    else do
      let payload ← q.ofBody body
      (Model.ofPayload payload).mapError .model

/-- The model that a server gives. -/
def fetch (q : ModelQuery) (server : Server) : Except FetchError Model := do
  let sent ← q.request
  q.ofReply sent (server sent)

end ModelQuery

end Relata
