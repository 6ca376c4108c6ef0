/-!
Texts that should name a status and do not.
-/

namespace BoxOffice

structure UnknownStatus where
  /-- What the status would be of. -/
  kind : String
  value : String
  deriving DecidableEq

def UnknownStatus.message (unknown : UnknownStatus) : String :=
  "unknown " ++ unknown.kind ++ " status '" ++ unknown.value ++ "'"

def findNamed {α : Type} (kind : String) (values : List α) (name : α → String) (value : String) :
    Except UnknownStatus α :=
  match values.find? (name · = value) with
  | some a => .ok a
  | none => .error ⟨kind, value⟩

end BoxOffice
