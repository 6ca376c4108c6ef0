import BoxOffice.Http.Site
import BoxOffice.IpAddress
import BoxOffice.Text.Blank

/-!
Settings: what the service is told by named texts. A text that is absent or blank leaves its
setting at the default. All texts are read before any value is compared with its bounds.
-/

namespace BoxOffice

inductive LogFormat
  | pretty
  | json
  deriving DecidableEq

structure Settings where
  databaseUrl : String
  maxConnections : Nat
  acquireTimeoutSeconds : Nat
  host : IpAddress
  port : Nat
  production : Bool
  allowedOrigins : Option String
  sweepIntervalSeconds : Nat
  sweepSize : Int
  shutdownGraceSeconds : Nat
  logLevel : String
  logFormat : LogFormat
  deriving DecidableEq

namespace Settings

/-- Why a text does not give a setting. -/
inductive Reason
  | unknownFormat
  | invalidDigit
  | tooLarge
  | tooSmall
  | notAnAddress
  | notPositive
  | outOfBounds
  deriving DecidableEq

def Reason.message : Reason → String
  | .unknownFormat => "expected 'pretty' or 'json'"
  | .invalidDigit => "invalid digit found in string"
  | .tooLarge => "number too large to fit in target type"
  | .tooSmall => "number too small to fit in target type"
  | .notAnAddress => "invalid IP address syntax"
  | .notPositive => "must be positive"
  | .outOfBounds => "must be between 1 and 1000"

structure Flaw where
  key : String
  value : String
  reason : Reason
  deriving DecidableEq

def Flaw.message (f : Flaw) : String :=
  f.key ++ " has invalid value '" ++ f.value ++ "': " ++ f.reason.message

/-- The numbers that a setting can hold. -/
structure Width where
  least : Int
  most : Int

def Width.unsigned (bits : Nat) : Width := ⟨0, Nat.pow 2 bits - 1⟩

def Width.signed (bits : Nat) : Width := ⟨-Nat.pow 2 (bits - 1), Nat.pow 2 (bits - 1) - 1⟩

/-- Appends digits to a number, each away from zero, while it fits. -/
def readDigits (width : Width) (negative : Bool) (n : Int) : List Char → Except Reason Int
  | [] => .ok n
  | c :: cs =>
    match Text.digit? c with
    | none => .error .invalidDigit
    | some d =>
      let next := if negative then n * 10 - d else n * 10 + d
      if next < width.least then .error .tooSmall
      else if width.most < next then .error .tooLarge
      else readDigits width negative next cs

/-- Reads a number with an optional sign; a minus sign only where negative numbers fit. -/
def readNumber (width : Width) (cs : List Char) : Except Reason Int :=
  let (negative, digits) := match cs with
    | '+' :: rest => (false, rest)
    | '-' :: rest => if width.least < 0 then (true, rest) else (false, cs)
    | _ => (false, cs)
  if digits = [] then .error .invalidDigit else readDigits width negative 0 digits

def given (lookup : String → Option String) (key : String) : Option String :=
  (lookup key).filter fun value => Text.trim value ≠ ""

/-- Reads a setting that is given, without blanks around it. -/
def readGiven {α : Type} (lookup : String → Option String) (key : String) (default : α)
    (parse : List Char → Except Reason α) : Except Flaw α :=
  match given lookup key with
  | none => .ok default
  | some value =>
    match parse (Text.trimChars value.toList) with
    | .ok a => .ok a
    | .error reason => .error ⟨key, value, reason⟩

def readNat (lookup : String → Option String) (key : String) (default bits : Nat) :
    Except Flaw Nat :=
  readGiven lookup key default fun cs => (readNumber (.unsigned bits) cs).map Int.toNat

def readHost (cs : List Char) : Except Reason IpAddress :=
  match IpAddress.ofChars? cs with
  | some ip => .ok ip
  | none => .error .notAnAddress

/-- The format is compared as it is given, blanks included. -/
def readFormat (lookup : String → Option String) : Except Flaw LogFormat :=
  match given lookup "LOG_FORMAT" with
  | none | some "pretty" => .ok .pretty
  | some "json" => .ok .json
  | some other => .error ⟨"LOG_FORMAT", other, .unknownFormat⟩

def read (lookup : String → Option String) : Except Flaw Settings := do
  let logFormat ← readFormat lookup
  let maxConnections ← readNat lookup "DATABASE_MAX_CONNECTIONS" 10 32
  let acquireTimeoutSeconds ← readNat lookup "DATABASE_ACQUIRE_TIMEOUT_SECS" 5 64
  let host ← readGiven lookup "SERVER_HOST" (.v4 0 0 0 0) readHost
  let port ← readNat lookup "SERVER_PORT" 3001 16
  let sweepIntervalSeconds ← readNat lookup "EXPIRY_INTERVAL_SECS" 60 64
  let sweepSize ← readGiven lookup "EXPIRY_BATCH_SIZE" 500 (readNumber (.signed 64))
  let shutdownGraceSeconds ← readNat lookup "SHUTDOWN_GRACE_SECS" 10 64
  let production := (given lookup "RUST_ENV").map fun value => value.toLower == "production"
  return {
    databaseUrl := (given lookup "DATABASE_URL").getD "postgres://localhost/inventory"
    maxConnections := maxConnections
    acquireTimeoutSeconds := acquireTimeoutSeconds
    host := host
    port := port
    production := production.getD false
    allowedOrigins := given lookup "CORS_ALLOWED_ORIGINS"
    sweepIntervalSeconds := sweepIntervalSeconds
    sweepSize := sweepSize
    shutdownGraceSeconds := shutdownGraceSeconds
    logLevel := (given lookup "LOG_LEVEL").getD "info"
    logFormat := logFormat }

def check (s : Settings) : Except Flaw Unit :=
  if s.maxConnections = 0 then .error ⟨"DATABASE_MAX_CONNECTIONS", "0", .notPositive⟩
  else if s.port = 0 then .error ⟨"SERVER_PORT", "0", .notPositive⟩
  else if s.sweepIntervalSeconds = 0 then .error ⟨"EXPIRY_INTERVAL_SECS", "0", .notPositive⟩
  else if s.sweepSize < 1 ∨ 1000 < s.sweepSize then
    .error ⟨"EXPIRY_BATCH_SIZE", String.ofList (Text.signedDecimal s.sweepSize), .outOfBounds⟩
  else .ok ()

def ofLookup (lookup : String → Option String) : Except Flaw Settings := do
  let settings ← read lookup
  settings.check
  return settings

def site? (s : Settings) : Option Http.Site :=
  Http.Site.build? s.production s.allowedOrigins

end Settings

end BoxOffice
