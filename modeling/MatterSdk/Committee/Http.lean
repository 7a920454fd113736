import Mathlib.Data.List.DropRight
import MatterSdk.Committee.Python
import MatterSdk.Committee.TypeScript

/-!
# The bundled HTTP transports

`UrllibTransport` of the Python client and `FetchTransport` of the TypeScript one, over whatever an
exchange with a node can come to.  The decoders of the two languages are parameters.
-/

namespace MatterSdk

/-- An HTTP stack whose exchanges come to an `α`. -/
structure Http (ω α : Type) where
  get : String → ω → α × ω
  post : String → PartialDecryptRequest → ω → α × ω

/-- An endpoint without its trailing slashes, and a path. -/
def nodeUrl (endpoint path : String) : String :=
  String.ofList (endpoint.toList.rdropWhile (· = '/')) ++ path

/-- A transport that makes something of each exchange. -/
def Http.transport {ω α τ η ρ : Type} (http : Http ω α) (health : String → α → Except τ η)
    (answer : String → α → Except τ ρ) : Transport ω τ η ρ where
  health endpoint w :=
    match http.get (nodeUrl endpoint "/health") w with
    | (outcome, w') => (health endpoint outcome, w')
  partialDecrypt endpoint request w :=
    match http.post (nodeUrl endpoint "/partial-decrypt") request w with
    | (outcome, w') => (answer endpoint outcome, w')

def tooLarge (endpoint : String) (maxResponseBytes : ℕ) : String :=
  "response from " ++ endpoint ++ " exceeded " ++ toString maxResponseBytes ++ " bytes"

namespace Python

/-- What `urlopen` comes to: an exception, or a response whose connection may break with one after
the bytes of `body`. -/
inductive Opened where
  | urlError (text : String)
  | httpError (code : ℕ) (text : String)
  | raised (exception : String)
  | response (body : Bytes) (breaks : Option String)

/-- `resp.read(amount)`. -/
def read (body : Bytes) (breaks : Option String) (amount : ℕ) : Except String Bytes :=
  match breaks with
  | some exception => if body.length < amount then .error exception else .ok (body.take amount)
  | none => .ok (body.take amount)

section Urllib

-- `loads` is `json.loads(body.decode())`, which fails with the name of an exception.
variable (loads : Bytes → Except String Value) (maxResponseBytes : ℕ)

/-- `_read_json`. -/
def readJson (endpoint : String) (body : Bytes) (breaks : Option String) : Except Failure Value :=
  match read body breaks (maxResponseBytes + 1) with
  | .error exception => .error (.raised exception)
  | .ok body =>
    if maxResponseBytes < body.length then .error (.decryptError (tooLarge endpoint maxResponseBytes))
    else (loads body).mapError .raised

/-- `health`, once the exchange is over. -/
def receiveHealth (endpoint : String) : Opened → Except Failure Value
  | .urlError text | .httpError _ text =>
    .error (.decryptError ("health from " ++ endpoint ++ ": " ++ text))
  | .raised exception => .error (.raised exception)
  | .response body breaks => readJson loads maxResponseBytes endpoint body breaks

/-- `partial_decrypt`, once the exchange is over. -/
def receiveAnswer (endpoint : String) : Opened → Except Failure Value
  | .httpError code _ =>
    .error (.decryptError ("partial-decrypt " ++ toString code ++ " from " ++ endpoint))
  | .urlError text => .error (.decryptError ("partial-decrypt from " ++ endpoint ++ ": " ++ text))
  | .raised exception => .error (.raised exception)
  | .response body breaks => readJson loads maxResponseBytes endpoint body breaks

/-- The exchange fails as the transport expects, or its body is a JSON value that is `Fine`. -/
def Opened.Gives (Fine : Value → Prop) : Opened → Prop
  | .urlError _ | .httpError _ _ => True
  | .raised _ => False
  | .response body breaks =>
    match read body breaks (maxResponseBytes + 1) with
    | .error _ => False
    | .ok body => maxResponseBytes < body.length ∨ ∃ value, loads body = .ok value ∧ Fine value

variable {loads maxResponseBytes} {Fine : Value → Prop} {endpoint : String} {outcome : Opened}

end Urllib

end Python

namespace TypeScript

/-- What `fetch` comes to: a rejection, or a response whose stream may fail after its `chunks`. -/
inductive Fetched where
  | rejected (reason : String)
  | response (status : ℕ) (contentLength : Number) (chunks : List Bytes) (breaks : Option String)

section Fetch

-- `parse` is `JSON.parse(new TextDecoder().decode(body))`, which fails with the message of an error.
variable (parse : Bytes → Except String Value) (maxResponseBytes : ℕ)

/-- The loop over the chunks of a body. -/
def readChunks (endpoint : String) (breaks : Option String) :
    List Bytes → Bytes → Except String Bytes
  | [], body =>
    match breaks with
    | some reason => .error reason
    | none => .ok body
  | chunk :: rest, body =>
    if maxResponseBytes < body.length + chunk.length then
      .error (tooLarge endpoint maxResponseBytes)
    else readChunks endpoint breaks rest (body ++ chunk)

/-- `readJson`. -/
def readJson (endpoint : String) (contentLength : Number) (chunks : List Bytes)
    (breaks : Option String) : Except String Value :=
  if Number.lt (.ofNat maxResponseBytes) contentLength then
    .error (tooLarge endpoint maxResponseBytes)
  else
    match readChunks maxResponseBytes endpoint breaks chunks [] with
    | .error reason => .error reason
    | .ok body => parse body

/-- `health` and `partialDecrypt`, once `fetch` has settled. -/
def receive (path endpoint : String) : Fetched → Except String Value
  | .rejected reason => .error reason
  | .response status contentLength chunks breaks =>
    if 200 ≤ status ∧ status ≤ 299 then
      readJson parse maxResponseBytes endpoint contentLength chunks breaks
    else .error (path ++ " " ++ toString status ++ " from " ++ endpoint)

/-- A value that the body of a success response within the bound parses to is `Fine`. -/
def Fetched.Gives (Fine : Value → Prop) : Fetched → Prop
  | .rejected _ => True
  | .response status contentLength chunks breaks =>
    200 ≤ status ∧ status ≤ 299 → ¬ Number.lt (.ofNat maxResponseBytes) contentLength →
      breaks = none → chunks.flatten.length ≤ maxResponseBytes →
      ∀ value, parse chunks.flatten = .ok value → Fine value

variable {parse maxResponseBytes} {Fine : Value → Prop} {endpoint path : String}

end Fetch

end TypeScript

end MatterSdk
