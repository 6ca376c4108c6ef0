import BoxOffice.Proofs.Forms
import BoxOffice.Proofs.Hosts
import BoxOffice.Settings

/-!
Settings read from texts. A number is digits with an optional sign that fits its width; it may still
be out of the bounds of its setting, which is looked at only when all texts have been read. What is
accepted, what it sets, and which text is blamed first are told here for every lookup.
-/

namespace BoxOffice.Settings

open Text

/-! ### Numbers -/

/-- One or more decimal digits, and the number that they denote. -/
def IsNumeral (cs : List Char) (k : Nat) : Prop :=
  ∃ ds, cs.mapM digit? = some ds ∧ ds ≠ [] ∧ k = ofDigits 10 ds

/-- Digits with an optional sign; a minus sign only where it is admitted. -/
inductive Signed (minus : Prop) : List Char → Int → Prop
  | plain {cs : List Char} {k : Nat} (numeral : IsNumeral cs k) : Signed minus cs k
  | plus {cs : List Char} {k : Nat} (numeral : IsNumeral cs k) : Signed minus ('+' :: cs) k
  | minus {cs : List Char} {k : Nat} (admitted : minus) (numeral : IsNumeral cs k) :
    Signed minus ('-' :: cs) (-k)

namespace Width

def Fits (w : Width) (n : Int) : Prop := w.least ≤ n ∧ n ≤ w.most

instance (w : Width) (n : Int) : Decidable (w.Fits n) :=
  inferInstanceAs (Decidable (w.least ≤ n ∧ n ≤ w.most))

structure Denotes (w : Width) (cs : List Char) (n : Int) : Prop where
  signed : Signed (w.least < 0) cs n
  fits : w.Fits n

end Width

variable {w : Width} {negative : Bool} {k k' : Nat} {n : Int} {cs : List Char}

def away (negative : Bool) (k : Nat) : Int := if negative then -k else k

@[simp] theorem away_false (k : Nat) : away false k = k := rfl

@[simp] theorem away_true (k : Nat) : away true k = -k := rfl

theorem away_append (negative : Bool) (k d : Nat) :
    (if negative then away negative k * 10 - d else away negative k * 10 + d) =
      away negative (k * 10 + d) := by
  cases negative
  · simp
  · simp only [away_true, if_true]
    omega

theorem Width.Fits.nearer (fits : w.Fits (away negative k')) (zero : w.Fits 0) (le : k ≤ k') :
    w.Fits (away negative k) := by
  obtain ⟨least, most⟩ := zero
  obtain ⟨least', most'⟩ := fits
  cases negative
  · simp only [away_false] at least' most'
    exact ⟨by simp only [away_false]; omega, by simp only [away_false]; omega⟩
  · simp only [away_true] at least' most'
    exact ⟨by simp only [away_true]; omega, by simp only [away_true]; omega⟩

theorem readDigits_cons {c : Char} {d : Nat} (digit : digit? c = some d) :
    readDigits w negative (away negative k) (c :: cs) =
      if away negative (k * 10 + d) < w.least then .error .tooSmall
      else if w.most < away negative (k * 10 + d) then .error .tooLarge
      else readDigits w negative (away negative (k * 10 + d)) cs := by
  rw [readDigits, digit]
  simp only [away_append]

/-- Digits are appended as far as they go, if the number that comes of it fits. -/
theorem readDigits_eq_ok_iff (zero : w.Fits 0) (start : w.Fits (away negative k)) :
    readDigits w negative (away negative k) cs = .ok n ↔
      ∃ ds, cs.mapM digit? = some ds ∧ n = away negative (ds.foldl (fun k d => k * 10 + d) k) ∧
        w.Fits n := by
  induction cs generalizing k with
  | nil =>
    constructor
    · intro read
      obtain rfl := Except.ok.inj read
      exact ⟨[], rfl, rfl, start⟩
    · rintro ⟨ds, digits, rfl, -⟩
      obtain rfl := Option.some.inj digits
      rfl
  | cons c cs ih =>
    cases digit : digit? c with
    | none =>
      have unread : readDigits w negative (away negative k) (c :: cs) = .error .invalidDigit := by
        rw [readDigits, digit]
      have noDigits : (c :: cs).mapM digit? = none := by
        rw [List.mapM_cons, digit]
        rfl
      simp [unread, noDigits]
    | some d =>
      have digits_iff (ds : List Nat) : (c :: cs).mapM digit? = some ds ↔
          ∃ others, cs.mapM digit? = some others ∧ ds = d :: others := by
        rw [List.mapM_cons, digit]
        cases cs.mapM digit? <;> simp [eq_comm]
      have larger (others : List Nat) : k * 10 + d ≤
          others.foldl (fun k d => k * 10 + d) (k * 10 + d) := by
        rw [foldl_digits]
        exact Nat.le_add_right_of_le (Nat.le_mul_of_pos_right _ (Nat.pow_pos (by decide)))
      rw [readDigits_cons digit]
      by_cases next : w.Fits (away negative (k * 10 + d))
      · rw [if_neg (not_lt.2 next.1), if_neg (not_lt.2 next.2), ih next]
        constructor
        · rintro ⟨others, read, rfl, fits⟩
          exact ⟨d :: others, (digits_iff _).2 ⟨others, read, rfl⟩, rfl, fits⟩
        · rintro ⟨ds, read, rfl, fits⟩
          obtain ⟨others, rest, rfl⟩ := (digits_iff ds).1 read
          exact ⟨others, rest, rfl, fits⟩
      · constructor
        · intro read
          split at read
          · cases read
          split at read
          · cases read
          next above below => exact absurd ⟨not_lt.1 above, not_lt.1 below⟩ next
        · rintro ⟨ds, read, rfl, fits⟩
          obtain ⟨others, -, rfl⟩ := (digits_iff ds).1 read
          exact absurd (fits.nearer zero (larger others)) next

theorem readUnsigned_eq_ok_iff (zero : w.Fits 0) (negative : Bool) :
    (if cs = [] then .error .invalidDigit else readDigits w negative 0 cs) = Except.ok n ↔
      ∃ k, IsNumeral cs k ∧ n = away negative k ∧ w.Fits n := by
  have start : (0 : Int) = away negative 0 := by cases negative <;> rfl
  by_cases none : cs = []
  · subst none
    rw [if_pos rfl]
    constructor
    · exact fun read => (nomatch read)
    · rintro ⟨_, ⟨ds, read, some, -⟩, -⟩
      exact absurd (Option.some.inj read).symm some
  · rw [if_neg none, start, readDigits_eq_ok_iff zero (start ▸ zero)]
    constructor
    · rintro ⟨ds, read, rfl, fits⟩
      refine ⟨_, ⟨ds, read, ?_, rfl⟩, rfl, fits⟩
      rintro rfl
      exact none (List.length_eq_zero_iff.1 (length_of_mapM read).symm)
    · rintro ⟨_, ⟨ds, read, -, rfl⟩, rfl, fits⟩
      exact ⟨ds, read, rfl, fits⟩

theorem IsNumeral.digit_head {c : Char} (numeral : IsNumeral (c :: cs) k) : digit? c ≠ none := by
  obtain ⟨ds, read, -⟩ := numeral
  intro none
  rw [List.mapM_cons, none] at read
  cases read

/-- Numbers are read from exactly these texts. -/
theorem readNumber_eq_ok_iff (zero : w.Fits 0) : readNumber w cs = .ok n ↔ w.Denotes cs n := by
  by_cases plus : ∃ rest, cs = '+' :: rest
  · obtain ⟨rest, rfl⟩ := plus
    have read : readNumber w ('+' :: rest) =
        if rest = [] then .error .invalidDigit else readDigits w false 0 rest := rfl
    rw [read, readUnsigned_eq_ok_iff zero false]
    constructor
    · rintro ⟨k, numeral, rfl, fits⟩
      exact ⟨.plus numeral, fits⟩
    · rintro ⟨signed, fits⟩
      cases signed with
      | plain numeral => exact absurd rfl numeral.digit_head
      | plus numeral => exact ⟨_, numeral, rfl, fits⟩
  by_cases minus : (∃ rest, cs = '-' :: rest) ∧ w.least < 0
  · obtain ⟨⟨rest, rfl⟩, admitted⟩ := minus
    have read : readNumber w ('-' :: rest) =
        if rest = [] then .error .invalidDigit else readDigits w true 0 rest := by
      simp only [readNumber, if_pos admitted]
    rw [read, readUnsigned_eq_ok_iff zero true]
    constructor
    · rintro ⟨k, numeral, rfl, fits⟩
      exact ⟨.minus admitted numeral, fits⟩
    · rintro ⟨signed, fits⟩
      cases signed with
      | plain numeral => exact absurd rfl numeral.digit_head
      | minus _ numeral => exact ⟨_, numeral, rfl, fits⟩
  · have read : readNumber w cs =
        if cs = [] then .error .invalidDigit else readDigits w false 0 cs := by
      by_cases signed : ∃ rest, cs = '-' :: rest
      · obtain ⟨rest, rfl⟩ := signed
        have unsigned : ¬w.least < 0 := fun admitted => minus ⟨⟨rest, rfl⟩, admitted⟩
        simp only [readNumber, if_neg unsigned]
      · rw [readNumber]
        · exact fun rest same => plus ⟨rest, same⟩
        · exact fun rest same => signed ⟨rest, same⟩
    rw [read, readUnsigned_eq_ok_iff zero false]
    constructor
    · rintro ⟨k, numeral, rfl, fits⟩
      exact ⟨.plain numeral, fits⟩
    · rintro ⟨signed, fits⟩
      cases signed with
      | plain numeral => exact ⟨_, numeral, rfl, fits⟩
      | plus => exact absurd ⟨_, rfl⟩ plus
      | minus admitted => exact absurd ⟨⟨_, rfl⟩, admitted⟩ minus

/-! ### Lookups -/

section Lookups

variable {lookup : String → Option String} {key value : String} {f : Flaw}

def Unset (lookup : String → Option String) (key : String) : Prop :=
  ∀ value, lookup key = some value → Blank value.toList

def Gives (lookup : String → Option String) (key value : String) : Prop :=
  lookup key = some value ∧ ¬Blank value.toList

/-- What a setting is: what its text means, or its default without one. -/
inductive Sets {α : Type} (lookup : String → Option String) (key : String) (default : α)
    (Means : String → α → Prop) : α → Prop
  | default (unset : Unset lookup key) : Sets lookup key default Means default
  | given {value : String} {a : α} (gives : Gives lookup key value) (means : Means value a) :
    Sets lookup key default Means a

theorem trim_eq_iff : trim value = "" ↔ Blank value.toList := by
  rw [trim, ← trimChars_eq_nil_iff, String.ofList_eq_empty_iff]

theorem given_cases (lookup : String → Option String) (key : String) :
    (given lookup key = none ∧ Unset lookup key) ∨
      ∃ value, given lookup key = some value ∧ Gives lookup key value := by
  unfold given Unset Gives
  cases lookup key with
  | none => exact .inl ⟨rfl, fun _ found => (nomatch found)⟩
  | some value =>
    by_cases blank : Blank value.toList
    · refine .inl ⟨Option.filter_some_neg (by simp [trim_eq_iff, blank]), fun _ found => ?_⟩
      obtain rfl := Option.some.inj found
      exact blank
    · exact .inr ⟨value, Option.filter_some_pos (by simp [trim_eq_iff, blank]), rfl, blank⟩

variable {α : Type} {default a : α} {Means : String → α → Prop}
  {parse : List Char → Except Reason α}

theorem sets_of_given (unset : given lookup key = none → a = default)
    (means : ∀ value, given lookup key = some value → Means value a) :
    Sets lookup key default Means a := by
  rcases given_cases lookup key with ⟨none, absent⟩ | ⟨value, given, gives⟩
  · rw [unset none]
    exact .default absent
  · exact .given gives (means value given)

theorem Sets.eq_default_or_gives (sets : Sets lookup key default Means a) :
    a = default ∨ ∃ value, Gives lookup key value ∧ Means value a := by
  cases sets with
  | default => exact .inl rfl
  | given gives means => exact .inr ⟨_, gives, means⟩

theorem Sets.means_of_gives (sets : Sets lookup key default Means a)
    (gives : Gives lookup key value) : Means value a := by
  cases sets with
  | default unset => exact absurd (unset value gives.1) gives.2
  | given gives' means =>
    obtain rfl := Option.some.inj (gives.1.symm.trans gives'.1)
    exact means

theorem sets_of_readGiven (read : readGiven lookup key default parse = .ok a) :
    Sets lookup key default (fun value a => parse (trimChars value.toList) = .ok a) a := by
  unfold readGiven at read
  rcases given_cases lookup key with ⟨none, unset⟩ | ⟨value, given, gives⟩
  · rw [none] at read
    obtain rfl := Except.ok.inj read
    exact .default unset
  · rw [given] at read
    cases parsed : parse (trimChars value.toList) with
    | ok b =>
      simp only [parsed] at read
      obtain rfl := Except.ok.inj read
      exact .given gives parsed
    | error reason =>
      simp only [parsed] at read
      cases read

theorem gives_of_readGiven (read : readGiven lookup key default parse = .error f) :
    f.key = key ∧ Gives lookup key f.value ∧ ∀ a, parse (trimChars f.value.toList) ≠ .ok a := by
  unfold readGiven at read
  rcases given_cases lookup key with ⟨none, unset⟩ | ⟨value, given, gives⟩
  · rw [none] at read
    cases read
  · rw [given] at read
    cases parsed : parse (trimChars value.toList) with
    | ok b =>
      simp only [parsed] at read
      cases read
    | error reason =>
      simp only [parsed] at read
      obtain rfl := Except.error.inj read
      refine ⟨rfl, gives, fun a same => ?_⟩
      have impossible := parsed.symm.trans same
      cases impossible

end Lookups

/-! ### Variables -/

inductive Number
  | maxConnections
  | acquireTimeout
  | port
  | sweepInterval
  | sweepSize
  | shutdownGrace
  deriving DecidableEq

namespace Number

def key : Number → String
  | .maxConnections => "DATABASE_MAX_CONNECTIONS"
  | .acquireTimeout => "DATABASE_ACQUIRE_TIMEOUT_SECS"
  | .port => "SERVER_PORT"
  | .sweepInterval => "EXPIRY_INTERVAL_SECS"
  | .sweepSize => "EXPIRY_BATCH_SIZE"
  | .shutdownGrace => "SHUTDOWN_GRACE_SECS"

def width : Number → Width
  | .maxConnections => .unsigned 32
  | .acquireTimeout | .sweepInterval | .shutdownGrace => .unsigned 64
  | .port => .unsigned 16
  | .sweepSize => .signed 64

def default : Number → Int
  | .maxConnections | .shutdownGrace => 10
  | .acquireTimeout => 5
  | .port => 3001
  | .sweepInterval => 60
  | .sweepSize => 500

def Proper : Number → Int → Prop
  | .maxConnections, n | .port, n | .sweepInterval, n => 1 ≤ n
  | .sweepSize, n => 1 ≤ n ∧ n ≤ 1000
  | .acquireTimeout, _ | .shutdownGrace, _ => True

instance (number : Number) (n : Int) : Decidable (number.Proper n) :=
  match number with
  | .maxConnections | .port | .sweepInterval => inferInstanceAs (Decidable (1 ≤ n))
  | .sweepSize => inferInstanceAs (Decidable (1 ≤ n ∧ n ≤ 1000))
  | .acquireTimeout | .shutdownGrace => inferInstanceAs (Decidable True)

def reason : Number → Reason
  | .sweepSize => .outOfBounds
  | _ => .notPositive

def value (s : Settings) : Number → Int
  | .maxConnections => s.maxConnections
  | .acquireTimeout => s.acquireTimeoutSeconds
  | .port => s.port
  | .sweepInterval => s.sweepIntervalSeconds
  | .sweepSize => s.sweepSize
  | .shutdownGrace => s.shutdownGraceSeconds

def flaw (number : Number) (n : Int) : Flaw :=
  ⟨number.key, String.ofList (signedDecimal n), number.reason⟩

/-- The numbers with bounds, in the order in which these are looked at. -/
def bounded : List Number := [.maxConnections, .port, .sweepInterval, .sweepSize]

theorem fits_zero (number : Number) : number.width.Fits 0 := by
  cases number <;> decide

theorem fits_default (number : Number) : number.width.Fits number.default := by
  cases number <;> decide

theorem proper_default (number : Number) : number.Proper number.default := by
  cases number <;> decide

end Number

inductive Variable
  | logFormat
  | host
  | number (number : Number)
  deriving DecidableEq

namespace Variable

def key : Variable → String
  | .logFormat => "LOG_FORMAT"
  | .host => "SERVER_HOST"
  | .number n => n.key

def all : List Variable :=
  [.logFormat, .number .maxConnections, .number .acquireTimeout, .host, .number .port,
    .number .sweepInterval, .number .sweepSize, .number .shutdownGrace]

theorem mem_all (v : Variable) : v ∈ all := by
  rcases v with _ | _ | number
  · decide
  · decide
  · cases number <;> decide

end Variable

/-- The formats of the log, as they are given, blanks included. -/
def MeansFormat (value : String) (format : LogFormat) : Prop :=
  value = "pretty" ∧ format = .pretty ∨ value = "json" ∧ format = .json

def MeansHost (value : String) (ip : IpAddress) : Prop :=
  IpAddress.Denotes (trimChars value.toList) ip

def Number.Means (number : Number) (value : String) (n : Int) : Prop :=
  number.width.Denotes (trimChars value.toList) n

namespace Variable

def Reads (v : Variable) (value : String) : Prop :=
  match v with
  | .logFormat => ∃ format, MeansFormat value format
  | .host => ∃ ip, MeansHost value ip
  | .number n => ∃ m, n.Means value m

/-- The text can be read, and what it means is within its bounds. -/
def Admits (v : Variable) (value : String) : Prop :=
  match v with
  | .number n => ∃ m, n.Means value m ∧ n.Proper m
  | v => v.Reads value

end Variable

/-! ### Reading -/

structure Holds (lookup : String → Option String) (s : Settings) : Prop where
  databaseUrl : Sets lookup "DATABASE_URL" "postgres://localhost/inventory"
    (fun value url => url = value) s.databaseUrl
  host : Sets lookup "SERVER_HOST" (.v4 0 0 0 0) MeansHost s.host
  production : Sets lookup "RUST_ENV" false
    (fun value production => production = true ↔ value.toLower = "production") s.production
  allowedOrigins : Sets lookup "CORS_ALLOWED_ORIGINS" none
    (fun value list => list = some value) s.allowedOrigins
  logLevel : Sets lookup "LOG_LEVEL" "info" (fun value level => level = value) s.logLevel
  logFormat : Sets lookup "LOG_FORMAT" .pretty MeansFormat s.logFormat
  number : ∀ number : Number, Sets lookup number.key number.default number.Means (number.value s)

variable {lookup : String → Option String} {f : Flaw} {s : Settings}

def flawOf {α : Type} : Except Flaw α → Option Flaw
  | .ok _ => none
  | .error f => some f

def Number.read (lookup : String → Option String) (number : Number) : Except Flaw Int :=
  readGiven lookup number.key number.default (readNumber number.width)

def Variable.flaw? (lookup : String → Option String) : Variable → Option Flaw
  | .logFormat => flawOf (readFormat lookup)
  | .host => flawOf (readGiven lookup "SERVER_HOST" (.v4 0 0 0 0) readHost)
  | .number n => flawOf (n.read lookup)

/-- An unsigned number is read like any other. -/
theorem readNat_eq (lookup : String → Option String) (key : String) (default bits : Nat) :
    readNat lookup key default bits =
      (readGiven lookup key (default : Int) (readNumber (.unsigned bits))).map Int.toNat := by
  unfold readNat readGiven
  cases given lookup key with
  | none => rfl
  | some value =>
    simp only []
    cases readNumber (.unsigned bits) (trimChars value.toList) <;> rfl

theorem Number.sets_of_read {number : Number} {n : Int} (read : number.read lookup = .ok n) :
    Sets lookup number.key number.default number.Means n := by
  cases sets_of_readGiven read with
  | default unset => exact .default unset
  | given gives means => exact .given gives ((readNumber_eq_ok_iff number.fits_zero).1 means)

theorem flawOf_map {α β : Type} (g : α → β) (result : Except Flaw α) :
    flawOf (result.map g) = flawOf result := by
  cases result <;> rfl

theorem Number.sets_of_readNat {number : Number} {bits default k : Nat}
    (width : number.width = .unsigned bits) (same : number.default = default)
    (read : readNat lookup number.key default bits = .ok k) :
    Sets lookup number.key number.default number.Means k := by
  rw [readNat_eq, ← width, ← same, ← Number.read] at read
  cases found : number.read lookup with
  | error f =>
    rw [found] at read
    cases read
  | ok n =>
    rw [found] at read
    have sets := number.sets_of_read found
    have nonneg : 0 ≤ n := by
      cases sets with
      | default => rw [same]; exact Int.natCast_nonneg _
      | given gives means =>
        have least := means.fits.1
        rwa [width] at least
    obtain rfl := Except.ok.inj read
    rwa [Int.toNat_of_nonneg nonneg]

theorem Number.flaw?_eq {number : Number} {bits default : Nat}
    (width : number.width = .unsigned bits) (same : number.default = default) :
    (Variable.number number).flaw? lookup = flawOf (readNat lookup number.key default bits) := by
  rw [readNat_eq, flawOf_map, ← width, ← same]
  rfl

theorem sets_of_readFormat {format : LogFormat} (read : readFormat lookup = .ok format) :
    Sets lookup "LOG_FORMAT" .pretty MeansFormat format := by
  unfold readFormat at read
  split at read
  next none =>
    obtain rfl := Except.ok.inj read
    exact sets_of_given (fun _ => rfl) fun _ given => by simp [none] at given
  next pretty =>
    obtain rfl := Except.ok.inj read
    exact sets_of_given (fun _ => rfl) fun _ given =>
      .inl ⟨Option.some.inj (given.symm.trans pretty), rfl⟩
  next json =>
    obtain rfl := Except.ok.inj read
    exact sets_of_given (fun none => by simp [none] at json) fun _ given =>
      .inr ⟨Option.some.inj (given.symm.trans json), rfl⟩
  next => cases read

theorem readHost_eq_ok_iff {cs : List Char} {ip : IpAddress} :
    readHost cs = .ok ip ↔ IpAddress.Denotes cs ip := by
  rw [← IpAddress.ofChars?_eq_some_iff, readHost]
  cases IpAddress.ofChars? cs <;> simp

theorem sets_of_readHost {ip : IpAddress}
    (read : readGiven lookup "SERVER_HOST" (.v4 0 0 0 0) readHost = .ok ip) :
    Sets lookup "SERVER_HOST" (.v4 0 0 0 0) MeansHost ip := by
  cases sets_of_readGiven read with
  | default unset => exact .default unset
  | given gives means => exact .given gives (readHost_eq_ok_iff.1 means)

/-- Either a first variable is refused, or the settings hold. -/
def Comes (lookup : String → Option String) (result : Except Flaw Settings) (vs : List Variable) :
    Prop :=
  (∃ f, result = .error f ∧ vs.findSome? (·.flaw? lookup) = some f) ∨
    ∃ s, result = .ok s ∧ vs.findSome? (·.flaw? lookup) = none ∧ s.Holds lookup

theorem Comes.bind {α : Type} {x : Except Flaw α} {g : α → Except Flaw Settings}
    {vs : List Variable} (v : Variable) (flaw : v.flaw? lookup = flawOf x)
    (next : ∀ a, x = .ok a → Comes lookup (g a) vs) : Comes lookup (x >>= g) (v :: vs) := by
  cases x with
  | error f => exact .inl ⟨f, rfl, by rw [List.findSome?_cons, flaw]; rfl⟩
  | ok a =>
    unfold Comes
    rw [List.findSome?_cons, flaw]
    exact next a rfl

theorem comes_read (lookup : String → Option String) : Comes lookup (read lookup) Variable.all := by
  unfold read Variable.all
  refine .bind .logFormat rfl fun _ readFormat => ?_
  refine .bind (.number .maxConnections) (Number.flaw?_eq rfl rfl) fun _ readConnections => ?_
  refine .bind (.number .acquireTimeout) (Number.flaw?_eq rfl rfl) fun _ readTimeout => ?_
  refine .bind .host rfl fun _ readHost => ?_
  refine .bind (.number .port) (Number.flaw?_eq rfl rfl) fun _ readPort => ?_
  refine .bind (.number .sweepInterval) (Number.flaw?_eq rfl rfl) fun _ readInterval => ?_
  refine .bind (.number .sweepSize) rfl fun _ readSize => ?_
  refine .bind (.number .shutdownGrace) (Number.flaw?_eq rfl rfl) fun _ readGrace => ?_
  refine .inr ⟨_, rfl, rfl, ?_⟩
  exact {
    databaseUrl := sets_of_given (fun none => by rw [none]; rfl) fun _ given => by rw [given]; rfl
    host := sets_of_readHost readHost
    production := sets_of_given (fun none => by rw [none]; rfl) fun _ given => by
      rw [given]
      exact beq_iff_eq
    allowedOrigins := sets_of_given (fun none => none) fun _ given => given
    logLevel := sets_of_given (fun none => by rw [none]; rfl) fun _ given => by rw [given]; rfl
    logFormat := sets_of_readFormat readFormat
    number := fun number => by
      cases number with
      | maxConnections => exact Number.sets_of_readNat rfl rfl readConnections
      | acquireTimeout => exact Number.sets_of_readNat rfl rfl readTimeout
      | port => exact Number.sets_of_readNat rfl rfl readPort
      | sweepInterval => exact Number.sets_of_readNat rfl rfl readInterval
      | sweepSize => exact Number.sets_of_read readSize
      | shutdownGrace => exact Number.sets_of_readNat rfl rfl readGrace }

/-! ### The first flaw -/

theorem Number.means_iff {number : Number} {value : String} {n : Int} :
    number.Means value n ↔ readNumber number.width (trimChars value.toList) = .ok n :=
  (readNumber_eq_ok_iff number.fits_zero).symm

theorem Number.Means.unique {number : Number} {value : String} {n n' : Int}
    (means : number.Means value n) (means' : number.Means value n') : n = n' :=
  Except.ok.inj ((Number.means_iff.1 means).symm.trans (Number.means_iff.1 means'))

def Variable.Readable (lookup : String → Option String) (v : Variable) : Prop :=
  ∀ value, Gives lookup v.key value → v.Reads value

theorem flawOf_eq_none_iff {α : Type} {result : Except Flaw α} :
    flawOf result = none ↔ ∃ a, result = .ok a := by
  cases result <;> simp [flawOf]

theorem flawOf_eq_some_iff {α : Type} {result : Except Flaw α} :
    flawOf result = some f ↔ result = .error f := by
  cases result <;> simp [flawOf]

theorem Variable.readable_of_flaw? {v : Variable} (fine : v.flaw? lookup = none) :
    v.Readable lookup := by
  intro value gives
  cases v with
  | logFormat =>
    obtain ⟨format, read⟩ := flawOf_eq_none_iff.1 fine
    exact ⟨format, (sets_of_readFormat read).means_of_gives gives⟩
  | host =>
    obtain ⟨ip, read⟩ := flawOf_eq_none_iff.1 fine
    exact ⟨ip, (sets_of_readHost read).means_of_gives gives⟩
  | number number =>
    obtain ⟨n, read⟩ := flawOf_eq_none_iff.1 fine
    exact ⟨n, (number.sets_of_read read).means_of_gives gives⟩

theorem gives_of_readFormat (read : readFormat lookup = .error f) :
    f.key = "LOG_FORMAT" ∧ Gives lookup "LOG_FORMAT" f.value ∧
      ∀ format, ¬MeansFormat f.value format := by
  unfold readFormat at read
  split at read
  · cases read
  · cases read
  · cases read
  next other notPretty notJson found =>
    obtain rfl := Except.error.inj read
    rcases given_cases lookup "LOG_FORMAT" with ⟨none, -⟩ | ⟨value, given, gives⟩
    · rw [none] at found
      cases found
    · obtain rfl := Option.some.inj (given.symm.trans found)
      refine ⟨rfl, gives, ?_⟩
      rintro format (⟨rfl, -⟩ | ⟨rfl, -⟩)
      · exact notPretty rfl
      · exact notJson rfl

/-- A flaw names its variable and the text that is given for it. -/
theorem Variable.gives_of_flaw? {v : Variable} (flaw : v.flaw? lookup = some f) :
    f.key = v.key ∧ Gives lookup v.key f.value ∧ ¬v.Reads f.value := by
  cases v with
  | logFormat =>
    obtain ⟨key, gives, not⟩ := gives_of_readFormat (flawOf_eq_some_iff.1 flaw)
    exact ⟨key, gives, fun ⟨format, means⟩ => not format means⟩
  | host =>
    obtain ⟨key, gives, not⟩ := gives_of_readGiven (flawOf_eq_some_iff.1 flaw)
    exact ⟨key, gives, fun ⟨ip, means⟩ => not ip (readHost_eq_ok_iff.2 means)⟩
  | number number =>
    obtain ⟨key, gives, not⟩ := gives_of_readGiven (flawOf_eq_some_iff.1 flaw)
    exact ⟨key, gives, fun ⟨n, means⟩ => not n (Number.means_iff.1 means)⟩

theorem Number.flaw_zero {number : Number} (reason : number.reason = .notPositive) :
    number.flaw 0 = ⟨number.key, "0", .notPositive⟩ := by
  have zero : signedDecimal 0 = ['0'] := by
    rw [signedDecimal, if_neg (by decide), decimal, Int.natAbs_zero, decimalDigits,
      if_pos (by decide)]
    rfl
  rw [flaw, zero, reason]

theorem find?_cons_eq_ite {α : Type} (p : α → Prop) [DecidablePred p] (a : α) (as : List α) :
    (a :: as).find? (fun a => p a) = if p a then some a else as.find? fun a => p a := by
  by_cases found : p a <;> simp [found]

/-- The bounds are compared in their order. -/
theorem check_eq (s : Settings) : s.check =
    match Number.bounded.find? fun number => ¬number.Proper (number.value s) with
    | some number => .error (number.flaw (number.value s))
    | none => .ok () := by
  have positive (k : Nat) : ¬1 ≤ (k : Int) ↔ k = 0 := by omega
  have connections : ¬Number.maxConnections.Proper (Number.maxConnections.value s) ↔
      s.maxConnections = 0 := positive _
  have port : ¬Number.port.Proper (Number.port.value s) ↔ s.port = 0 := positive _
  have interval : ¬Number.sweepInterval.Proper (Number.sweepInterval.value s) ↔
      s.sweepIntervalSeconds = 0 := positive _
  have size : ¬Number.sweepSize.Proper (Number.sweepSize.value s) ↔
      s.sweepSize < 1 ∨ 1000 < s.sweepSize := by
    show ¬(1 ≤ s.sweepSize ∧ s.sweepSize ≤ 1000) ↔ _
    omega
  have blamed (number : Number) (reason : number.reason = .notPositive)
      (zero : number.value s = 0) : (⟨number.key, "0", .notPositive⟩ : Flaw) =
        number.flaw (number.value s) := by
    rw [zero, Number.flaw_zero reason]
  simp only [Number.bounded, find?_cons_eq_ite, List.find?_nil, connections, port, interval, size,
    check]
  split_ifs with noConnections noPort noInterval outOfBounds
  · exact congrArg Except.error (blamed .maxConnections rfl (Int.natCast_eq_zero.2 noConnections))
  · exact congrArg Except.error (blamed .port rfl (Int.natCast_eq_zero.2 noPort))
  · exact congrArg Except.error (blamed .sweepInterval rfl (Int.natCast_eq_zero.2 noInterval))
  · rfl
  · rfl

/-- The first flaw of a lookup: a text that cannot be read or, when all can, a number that is out of
its bounds. -/
inductive FirstFlaw (lookup : String → Option String) : Flaw → Prop
  | unread {before after : List Variable} {v : Variable} {f : Flaw}
    (order : Variable.all = before ++ v :: after) (others : ∀ u ∈ before, u.Readable lookup)
    (key : f.key = v.key) (gives : Gives lookup v.key f.value) (not : ¬v.Reads f.value) :
    FirstFlaw lookup f
  | outOfBounds {before after : List Number} {number : Number} {value : String} {n : Int}
    (readable : ∀ v : Variable, v.Readable lookup)
    (order : Number.bounded = before ++ number :: after)
    (others : ∀ other ∈ before, ∀ value n, Gives lookup other.key value → other.Means value n →
      other.Proper n)
    (gives : Gives lookup number.key value) (means : number.Means value n)
    (not : ¬number.Proper n) : FirstFlaw lookup (number.flaw n)

structure Exact (lookup : String → Option String) : Prop where
  /-- There are settings when each variable is absent, blank or admitted. -/
  accepted_iff : (∃ s, ofLookup lookup = .ok s) ↔
    ∀ (v : Variable) (value : String), lookup v.key = some value →
      Blank value.toList ∨ v.Admits value
  holds : ∀ s, ofLookup lookup = .ok s →
    s.Holds lookup ∧ ∀ number : Number, number.Proper (number.value s)
  firstFlaw : ∀ f, ofLookup lookup = .error f → FirstFlaw lookup f

/-- A number that is out of its bounds is given. -/
theorem Holds.gives_of_not_proper (holds : s.Holds lookup) {number : Number}
    (not : ¬number.Proper (number.value s)) :
    ∃ value, Gives lookup number.key value ∧ number.Means value (number.value s) := by
  rcases (holds.number number).eq_default_or_gives with same | given
  · exact absurd (same ▸ number.proper_default) not
  · exact given

theorem ofLookup_cases (lookup : String → Option String) :
    (∃ f, ofLookup lookup = .error f ∧ FirstFlaw lookup f) ∨
      ∃ s, ofLookup lookup = .ok s ∧ s.Holds lookup ∧
        ∀ number : Number, number.Proper (number.value s) := by
  rcases comes_read lookup with ⟨f, failed, first⟩ | ⟨s, read, none, holds⟩
  · obtain ⟨before, v, after, order, flaw, others⟩ := List.findSome?_eq_some_iff.1 first
    obtain ⟨key, gives, not⟩ := Variable.gives_of_flaw? flaw
    refine .inl ⟨f, ?_, .unread order (fun u member => ?_) key gives not⟩
    · rw [ofLookup, failed]
      rfl
    · exact Variable.readable_of_flaw? (others u member)
  · have run : ofLookup lookup = s.check >>= fun _ => .ok s := by
      rw [ofLookup, read]
      rfl
    have readable (v : Variable) : v.Readable lookup :=
      Variable.readable_of_flaw? (List.findSome?_eq_none_iff.1 none v (Variable.mem_all v))
    rw [run, check_eq]
    cases found : Number.bounded.find? fun number => ¬number.Proper (number.value s) with
    | none =>
      refine .inr ⟨s, rfl, holds, fun number => ?_⟩
      by_cases member : number ∈ Number.bounded
      · simpa using List.find?_eq_none.1 found number member
      · cases number with
        | acquireTimeout | shutdownGrace => trivial
        | _ => exact absurd (by decide) member
    | some number =>
      obtain ⟨not, before, after, order, others⟩ := List.find?_eq_some_iff_append.1 found
      have improper : ¬number.Proper (number.value s) := by simpa using not
      obtain ⟨value, gives, means⟩ := holds.gives_of_not_proper improper
      refine .inl ⟨_, rfl, .outOfBounds readable order (fun other member value n gives means => ?_)
        gives means improper⟩
      have same := ((holds.number other).means_of_gives gives).unique means
      have proper := others other member
      rw [← same]
      simpa using proper

theorem Variable.Admits.reads {v : Variable} {value : String} (admits : v.Admits value) :
    v.Reads value := by
  cases v with
  | number =>
    obtain ⟨n, means, -⟩ := admits
    exact ⟨n, means⟩
  | _ => exact admits

theorem not_firstFlaw (admitted : ∀ (v : Variable) (value : String), lookup v.key = some value →
    Blank value.toList ∨ v.Admits value) : ¬FirstFlaw lookup f := by
  have admits {v : Variable} {value : String} (gives : Gives lookup v.key value) :
      v.Admits value := (admitted v value gives.1).resolve_left gives.2
  intro flaw
  cases flaw with
  | unread _ _ _ gives not => exact not (admits gives).reads
  | @outOfBounds _ _ number _ _ _ _ _ gives means not =>
    obtain ⟨n, means', proper⟩ := admits (v := .number number) gives
    exact not (means'.unique means ▸ proper)

theorem Holds.admits (holds : s.Holds lookup)
    (proper : ∀ number : Number, number.Proper (number.value s)) {v : Variable} {value : String}
    (gives : Gives lookup v.key value) : v.Admits value := by
  cases v with
  | logFormat => exact ⟨_, holds.logFormat.means_of_gives gives⟩
  | host => exact ⟨_, holds.host.means_of_gives gives⟩
  | number number => exact ⟨_, (holds.number number).means_of_gives gives, proper number⟩

/-- What comes of a lookup is exact: which texts are accepted, what they set, and which is blamed
first. -/
theorem settings_exact (lookup : String → Option String) : Exact lookup := by
  rcases ofLookup_cases lookup with ⟨f, failed, first⟩ | ⟨s, made, holds, proper⟩
  · refine ⟨⟨fun ⟨s, made⟩ => ?_, fun admitted => ?_⟩, fun s made => ?_, fun f' failed' => ?_⟩
    · cases failed.symm.trans made
    · exact absurd first (not_firstFlaw admitted)
    · cases failed.symm.trans made
    · obtain rfl := Except.error.inj (failed.symm.trans failed')
      exact first
  · refine ⟨⟨fun _ v value found => ?_, fun _ => ⟨s, made⟩⟩, fun s' made' => ?_, fun f failed => ?_⟩
    · exact or_iff_not_imp_left.2 fun some => holds.admits proper ⟨found, some⟩
    · obtain rfl := Except.ok.inj (made.symm.trans made')
      exact ⟨holds, proper⟩
    · cases made.symm.trans failed

/-- A number out of its bounds is not blamed while a later text cannot be read. -/
example : ((ofLookup fun key =>
    if key = "EXPIRY_BATCH_SIZE" then some " -0 "
    else if key = "SHUTDOWN_GRACE_SECS" then some "soon"
    else none).mapError (·.key)).map (·.port) = .error "SHUTDOWN_GRACE_SECS" := rfl

end BoxOffice.Settings
