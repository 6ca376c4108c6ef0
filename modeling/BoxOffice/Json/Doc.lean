import BoxOffice.Json.Token

/-!
The tree of a JSON text, as far as the text is JSON. Where it stops being JSON the tree has a
`broken` place, the last one of every array or object that is open there, so a reader that
walks the tree in order meets the same problem first as one that walks the text.

The tree is built by a machine with one step for each token. Its stack holds the arrays and
objects that are open.
-/

namespace BoxOffice.Json

inductive Doc
  | broken
  | null
  | bool (b : Bool)
  | number (n : Numeral)
  | text (contents : Option String)
  | array (items : List Doc)
  /-- A key is `none` where its string has no contents, and where there is no string at all. In
  the latter case its value is broken. -/
  | object (members : List (Option String × Doc))

namespace Doc

inductive Frame
  | array (items : List Doc)
  /-- The key is that of the member to come. -/
  | object (members : List (Option String × Doc)) (key : Option String)

/-- What the machine waits for: a value, an item or the end of an empty array, what follows a
value, a key or the end of an empty object, another key, or the colon after a key. -/
inductive Awaited
  | value
  | firstItem
  | separator
  | firstKey
  | key
  | colon
  deriving DecidableEq

def Frame.push (d : Doc) : Frame → Frame
  | .array items => .array (d :: items)
  | .object members key => .object ((key, d) :: members) none

def Frame.close : Frame → Doc
  | .array items => .array items.reverse
  | .object members _ => .object members.reverse

/-- The tree with a last value in every open array and object. -/
def closeAll (d : Doc) : List Frame → Doc
  | [] => d
  | frame :: frames => closeAll (frame.push d).close frames

def ofToken? : Token → Option Doc
  | .null => some .null
  | .bool b => some (.bool b)
  | .number n => some (.number n)
  | .text s => some (.text s)
  | _ => none

/-- Where a token leads: to more tokens with a stack, to a complete value, or to a stop. -/
inductive Move
  | goOn (frames : List Frame) (awaited : Awaited)
  | complete (d : Doc) (frames : List Frame)
  | stop (d : Doc) (frames : List Frame)

def moveAtValue (frames : List Frame) : Token → Move
  | .beginArray => .goOn (.array [] :: frames) .firstItem
  | .beginObject => .goOn (.object [] none :: frames) .firstKey
  | token =>
    match ofToken? token with
    | some d => .complete d frames
    | none => .stop .broken frames

def moveAtKey (members : List (Option String × Doc)) (frames : List Frame) : Token → Move
  | .text s => .goOn (.object members s :: frames) .colon
  | _ => .stop .broken (.object members none :: frames)

def move (awaited : Awaited) (frames : List Frame) (token : Token) : Move :=
  match awaited, frames with
  | .value, _ => moveAtValue frames token
  | .firstItem, frame :: rest =>
    if token = .endArray then .complete frame.close rest else moveAtValue frames token
  | .separator, .array items :: rest =>
    if token = .comma then .goOn frames .value
    else if token = .endArray then .complete (Frame.array items).close rest
    else .stop .broken frames
  | .separator, .object members key :: rest =>
    if token = .comma then .goOn frames .key
    else if token = .endObject then .complete (Frame.object members key).close rest
    else .stop .broken frames
  | .firstKey, .object members key :: rest =>
    if token = .endObject then .complete (Frame.object members key).close rest
    else moveAtKey members rest token
  | .key, .object members _ :: rest => moveAtKey members rest token
  | .colon, _ => if token = .colon then .goOn frames .value else .stop .broken frames
  | _, _ => .stop .broken frames

/-- Runs the machine: the tree of the first value, and the tokens after it. -/
def build (frames : List Frame) (awaited : Awaited) : List Token → Doc × List Token
  | [] => (closeAll .broken frames, [])
  | token :: tokens =>
    match move awaited frames token with
    | .goOn frames awaited => build frames awaited tokens
    | .complete d [] => (d, tokens)
    | .complete d (frame :: frames) => build (frame.push d :: frames) .separator tokens
    | .stop d frames => (closeAll d frames, tokens)

def ofTokens (tokens : List Token) : Doc × List Token := build [] .value tokens

mutual

/-- Nothing is broken in a value, so it can be passed over. -/
def isWhole : Doc → Bool
  | .broken => false
  | .array items => areWhole items
  | .object members => membersWhole members
  | _ => true

def areWhole : List Doc → Bool
  | [] => true
  | d :: ds => d.isWhole && areWhole ds

def membersWhole : List (Option String × Doc) → Bool
  | [] => true
  | (_, d) :: ms => d.isWhole && membersWhole ms

end

end Doc

end BoxOffice.Json
