/-!
Media types: a type and a subtype of token characters, perhaps with a suffix after a plus sign,
and parameters whose values may be quoted. Only whether a media type is one of JSON matters
here.
-/

namespace BoxOffice.Http.MediaType

/-- The characters of which names and unquoted values are made. -/
def isTokenChar (c : Char) : Bool := c.isAlphanum || "!#$%&'*+-.^_`|~".toList.contains c

/-- The characters that may stand between quotes, besides the quote that ends them. -/
def isQuotedChar (c : Char) : Bool := 0x20 ≤ c.toNat && c.toNat < 0x7F

/-- Where a reader of parameters stands: before a name, in a name, after the equals sign, in a
value, after an opening quote, in a quoted value, or after a closing quote. -/
inductive Place
  | beforeName
  | inName
  | beforeValue
  | inValue
  | quoteOpened
  | inQuotes
  | quoteClosed
  deriving DecidableEq

def Place.next? : Place → Char → Option Place
  | .beforeName, c =>
    if c = ' ' then some .beforeName else if isTokenChar c then some .inName else none
  | .inName, c =>
    if isTokenChar c then some .inName else if c = '=' then some .beforeValue else none
  | .beforeValue, c =>
    if c = '"' then some .quoteOpened else if isTokenChar c then some .inValue else none
  | .inValue, c =>
    if isTokenChar c then some .inValue else if c = ';' then some .beforeName else none
  | .quoteOpened, c => if isQuotedChar c then some .inQuotes else none
  | .inQuotes, c =>
    if c = '"' then some .quoteClosed else if isQuotedChar c then some .inQuotes else none
  | .quoteClosed, c =>
    if c = ';' then some .beforeName else if c = ' ' then some .quoteClosed else none

def Place.isEnd : Place → Bool
  | .beforeName | .beforeValue | .inValue | .quoteClosed => true
  | .inName | .quoteOpened | .inQuotes => false

def areParameters (cs : List Char) : Bool := (cs.foldlM Place.next? .beforeName).any Place.isEnd

/-- A subtype cut at its last plus sign; one at its very start does not count. -/
def cutSuffix (subtype : List Char) : List Char × Option (List Char) :=
  let suffix := (subtype.reverse.takeWhile (· ≠ '+')).reverse
  let front := subtype.take (subtype.length - suffix.length - 1)
  if suffix.length < subtype.length ∧ front ≠ [] then (front, some suffix) else (subtype, none)

def lower (cs : List Char) : List Char := cs.map Char.toLower

/-- Whether a text is a media type of JSON: `application/json`, or an application type with
that suffix. -/
def isJson (text : String) : Bool :=
  let cs := text.toList
  let type := cs.takeWhile (· ≠ '/')
  let rest := (cs.dropWhile (· ≠ '/')).drop 1
  let subtype := rest.takeWhile (· ≠ ';')
  let parameters := (rest.dropWhile (· ≠ ';')).drop 1
  let (name, suffix) := cutSuffix (lower subtype)
  let json := "json".toList
  lower type = "application".toList && subtype.all isTokenChar && areParameters parameters &&
    (name = json || suffix = some json)

end BoxOffice.Http.MediaType
