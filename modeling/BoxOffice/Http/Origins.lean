import BoxOffice.Text.Blank

/-!
Origins that may read responses. They are configured as a list of texts between commas. Blank
entries and entries that cannot stand in a header are passed over; when no entry is left, every
origin is admitted.
-/

namespace BoxOffice.Http

inductive Origins
  | any
  | only (origins : List String)
  deriving DecidableEq

namespace Origins

/-- What may stand in the value of a header: no control character but the tab. -/
def isHeaderText (cs : List Char) : Bool :=
  cs.all fun c => c = '\t' || (0x20 ≤ c.toNat && c.toNat ≠ 0x7F)

def entries (list : String) : List String :=
  (((Text.pieces ',' list.toList).map Text.trimChars).filter fun entry =>
    entry ≠ [] && isHeaderText entry).map String.ofList

def localList : String := "http://localhost:3000,http://localhost:5173"

/-- The origins that a list admits. A list with an asterisk among its entries is refused: it
names no origin. -/
def ofList? (list : String) : Option Origins :=
  match entries list with
  | [] => some .any
  | origins => if origins.contains "*" then none else some (.only origins)

def grant (origins : Origins) (origin : Option String) : List (String × String) :=
  match origins, origin with
  | .any, _ => [("access-control-allow-origin", "*")]
  | .only origins, some origin =>
    if origins.contains origin then [("access-control-allow-origin", origin)] else []
  | .only _, none => []

end Origins

end BoxOffice.Http
