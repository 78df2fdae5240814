import SyntheticMarket.Field
import SyntheticMarket.Json.Reader

/-! Requests and responses, and the values that a request carries. -/

namespace SyntheticMarket

inductive Method where
  | get
  | post
  | put
  | delete
deriving DecidableEq, Repr

/-- A request; its query is a list of names and values, both as the client meant them. -/
structure Request where
  method : Method
  path : String
  query : List (String × String)
  body : String
deriving DecidableEq, Repr

inductive Body where
  | json (value : Json)
  | text (value : String)

structure Response where
  status : Nat
  body : Body

namespace Response

def ok (value : Json) : Response := { status := 200, body := .json value }

def note (status : Nat) (name text : String) : Response :=
  { status, body := .json (.record [(name, .text text)]) }

def notFound : Response := note 404 "detail" "Not Found"

def methodNotAllowed : Response := note 405 "detail" "Method Not Allowed"

def unreadableBody : Response := note 400 "detail" "There was an error parsing the body"

def notReadyText : String := "Server not ready"

def notReady : Response := note 503 "error" notReadyText

def serverError : Response := { status := 500, body := .text "Internal Server Error" }

/-- The client is sent to the same path without its closing slash. -/
def redirected : Response := { status := 307, body := .text "" }

def place : Place → Json
  | .name name => .text name
  | .index index => .whole index

def problem (problem : Problem) : Json :=
  .record [("loc", .list (problem.path.map place)), ("type", .text problem.mismatch.name)]

def refused (problems : List Problem) : Response :=
  { status := 422, body := .json (.record [("detail", .list (problems.map problem))]) }

end Response

namespace Request

/-- A value of the query; of several under one name the last one counts. -/
def param? (request : Request) (name : String) : Option String := request.query.reverse.lookup name

def reading {β : Type} (name : String) (value : Except Mismatch β) : Reading β :=
  .ofField [.name "query", .name name] value

def text (request : Request) (name : String) : Reading String :=
  reading name
    (match request.param? name with
      | none => .error .missing
      | some text => .ok text)

def whole (request : Request) (name : String) : Reading Int :=
  reading name
    (match request.param? name with
      | none => .error .missing
      | some text => Field.wholeOfText text)

/-- A whole number from one on, or none if the query does not name it. -/
def count? (request : Request) (name : String) : Reading (Option Int) :=
  reading name
    (match request.param? name with
      | none => .ok none
      | some text =>
        match Field.wholeOfText text with
        | .error mismatch => .error mismatch
        | .ok count => if count < 1 then .error .belowMinimum else .ok (some count))

end Request

end SyntheticMarket
