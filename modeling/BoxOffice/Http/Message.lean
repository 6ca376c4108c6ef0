import BoxOffice.Json.Value

/-!
Requests and responses. A request's target names a path, perhaps followed by a query; its body
is bytes. A response's body is a JSON value, plain text or nothing.
-/

namespace BoxOffice.Http

structure Request where
  method : String
  target : String
  headers : List (String × String)
  body : List UInt8
  deriving DecidableEq

namespace Request

def header? (r : Request) (name : String) : Option String :=
  (r.headers.find? fun h => h.1.toLower = name.toLower).map (·.2)

/-- A target from its path on: the scheme and the host of an absolute target are passed
over. -/
def fromPath : List Char → List Char
  | ':' :: '/' :: '/' :: rest => rest.dropWhile fun c => c ≠ '/' ∧ c ≠ '?'
  | c :: rest => if c = '/' ∨ c = '?' then c :: rest else fromPath rest
  | [] => []

def address (r : Request) : List Char := fromPath (r.target.toList.takeWhile (· ≠ '#'))

def path (r : Request) : List Char := r.address.takeWhile (· ≠ '?')

def query (r : Request) : List Char := (r.address.dropWhile (· ≠ '?')).drop 1

end Request

inductive Body
  | empty
  | json (v : Json.Value)
  | text (s : String)

structure Response where
  status : Nat
  headers : List (String × String)
  body : Body

namespace Response

def ofBody (status : Nat) (body : Body) : Response :=
  let headers := match body with
    | .empty => []
    | .json _ => [("content-type", "application/json")]
    | .text _ => [("content-type", "text/plain; charset=utf-8")]
  ⟨status, headers, body⟩

def withHeaders (r : Response) (headers : List (String × String)) : Response :=
  { r with headers := r.headers ++ headers }

def withoutBody (r : Response) : Response := { r with body := .empty }

end Response

end BoxOffice.Http
