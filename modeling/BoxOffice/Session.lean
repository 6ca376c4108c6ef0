import BoxOffice.Http.Site
import BoxOffice.Sweeper

/-!
Sessions: a desk together with its site, its sweepers and the time that they know. What happens
in a session is a list of steps; each step leaves an account of what it led to.
-/

namespace BoxOffice

structure Session where
  desk : Desk
  /-- Absent when the origins that it should admit are refused. -/
  site : Option Http.Site
  /-- The milliseconds that have been waited. -/
  elapsed : Nat
  sweepers : List Sweeper
  /-- How many of the published events stand in the accounts of the steps so far. -/
  accounted : Nat

namespace Session

inductive Step
  | operate (op : Operation)
  /-- Moves the clock by a number of milliseconds. -/
  | advance (milliseconds : Int)
  | access (a : Store.Access)
  | request (r : Http.Request)
  | wait (milliseconds : Nat)
  /-- A step whose contents could not be read; nothing happens. -/
  | unreadable
  /-- Steps while a sweeper is at work, and the milliseconds that it is given in the end to come
  to rest. -/
  | underSweeper (interval : Nat) (size : Int) (grace : Nat) (steps : List Step)

inductive Outcome
  | answer (result : Except Refusal Answer)
  | reply (r : Store.Reply)
  | response (r : Http.Response)
  | unreadable
  /-- The step cannot be taken: there is no site, or no such moment. -/
  | failed
  /-- What each step under a sweeper led to, with the events it published and the classes after
  it. -/
  | accounts (steps : List (Outcome × List Event × Option (List TicketClass)))

/-- What a step led to, the events published since the account before it, and the classes after
it. -/
abbrev Account := Outcome × List Event × Option (List TicketClass)

def ticketClasses (s : Session) : Option (List TicketClass) :=
  s.desk.store.map (·.ticketClasses.rows)

def account (s : Session) (outcome : Outcome) : Account × Session :=
  let published := s.desk.publisher.published
  ((outcome, published.drop s.accounted, s.ticketClasses),
    { s with accounted := published.length })

def wait (s : Session) (milliseconds : Nat) : Session :=
  let time := s.elapsed + milliseconds
  { s with
    desk := s.desk.sweeps ((Sweeper.schedules time s.sweepers).map (·.size))
    elapsed := time
    sweepers := s.sweepers.map (·.after time) }

def operate (s : Session) (op : Operation) : Outcome × Session :=
  let (answer, desk) := op.run s.desk
  (.answer answer, { s with desk := desk })

def advance (s : Session) (milliseconds : Int) : Outcome × Session :=
  match s.desk.now.shift? milliseconds with
  | some now => s.operate (.setClock now)
  | none => (.failed, s)

def access (s : Session) (a : Store.Access) : Outcome × Session :=
  match s.desk.store with
  | none => (.reply (.one (.error .noStore)), s)
  | some store =>
    let (reply, store) := a.run store
    (.reply reply, { s with desk := { s.desk with store := some store } })

def request (s : Session) (r : Http.Request) : Outcome × Session :=
  match s.site with
  | none => (.failed, s)
  | some site =>
    let (response, desk) := site.serve s.desk r
    (.response response, { s with desk := desk })

def hire (s : Session) (interval : Nat) (size : Int) : Session :=
  { s with sweepers := s.sweepers ++ [.start interval size s.elapsed] }

/-- Lets the last sweeper go, at once or with time to come to rest. In that time the others get
to work: those that have not swept since they were set up make their first sweep. -/
def dismiss (s : Session) (grace : Nat) : Session :=
  let s := { s with sweepers := s.sweepers.dropLast }
  if grace = 0 then s else s.wait 0

mutual

def take (s : Session) : Step → Outcome × Session
  | .operate op => s.operate op
  | .advance milliseconds => s.advance milliseconds
  | .access a => s.access a
  | .request r => s.request r
  | .wait milliseconds => (.answer (.ok .done), s.wait milliseconds)
  | .unreadable => (.unreadable, s)
  | .underSweeper interval size grace steps =>
    let (accounts, s) := takeAll (s.hire interval size) steps
    (.accounts accounts, s.dismiss grace)

def takeAll (s : Session) : List Step → List Account × Session
  | [] => ([], s)
  | step :: steps =>
    let (outcome, next) := take s step
    let (account, next) := next.account outcome
    let (accounts, last) := takeAll next steps
    (account :: accounts, last)

end

def start (store : Option Store) (now : Instant) (ids : List Uuid) (production : Bool)
    (allowedOrigins : Option String) : Session where
  desk := ⟨store, now, .ofList ids, ⟨false, []⟩⟩
  site := Http.Site.build? production allowedOrigins
  elapsed := 0
  sweepers := []
  accounted := 0

end Session

end BoxOffice
