import BoxOffice.Answer
import BoxOffice.Store.Capacity

/-!
Transactions: steps on a store that take effect together or not at all. A step that is refused
has no effect and does not end its transaction.

Steps write to the store itself, one after the other. A transaction therefore keeps the store as
it was before the first of them, and puts it back in the end unless it was committed.
-/

namespace BoxOffice.Store

inductive Step
  | ticketClass (id : Uuid)
  | updateTicketClass (c : TicketClass)
  | claim (id : Uuid) (quantity : Quantity)
  | giveBack (id : Uuid) (quantity : Quantity)
  | settle (id : Uuid) (quantity : Quantity)
  /-- Claims from a class as it was seen before. -/
  | claimSeen (seen : TicketClass) (quantity : Quantity)
  /-- Looks a class up and claims from it. -/
  | claimFound (id : Uuid) (quantity : Quantity)
  | giveBackFound (id : Uuid) (quantity : Quantity)
  | settleFound (id : Uuid) (quantity : Quantity)
  | insertReservation (r : Reservation)
  | reservationsOf (order : Uuid)
  | firstOverdue (now : Instant) (limit : Int)
  | mark (ids : List Uuid) (status : Reservation.Status) (now : Instant)
  | deleteReservationsOf (order : Uuid)
  deriving DecidableEq

/-- The answer of a step that only tells whether its guard held. -/
def guarded (s : Store) (next : Option Store) : Except Refusal Answer × Store :=
  (.ok (.flag next.isSome), next.getD s)

/-- The answer of a step that gives nothing back. -/
def silent (s : Store) : Except Refusal Store → Except Refusal Answer × Store
  | .ok next => (.ok .done, next)
  | .error refusal => (.error refusal, s)

def counted (result : Nat × Store) : Except Refusal Answer × Store :=
  (.ok (.count result.1), result.2)

def Step.run (s : Store) : Step → Except Refusal Answer × Store
  | .ticketClass id => (.ok (.ticketClass (s.ticketClass? id)), s)
  | .updateTicketClass c => s.silent (s.updateTicketClass c)
  | .claim id quantity => s.guarded (s.claim? id quantity)
  | .giveBack id quantity => s.guarded (s.giveBack? id quantity)
  | .settle id quantity => s.guarded (s.settle? id quantity)
  | .claimSeen seen quantity => s.silent (s.claim seen quantity)
  | .claimFound id quantity => s.silent (s.ticketClass id >>= fun c => s.claim c quantity)
  | .giveBackFound id quantity => s.silent (s.giveBack id quantity)
  | .settleFound id quantity => s.silent (s.settle id quantity)
  | .insertReservation r => s.silent (s.insertReservation r)
  | .reservationsOf order => (.ok (.reservations (s.reservationsOf order)), s)
  | .firstOverdue now limit => (.ok (.reservations (s.firstOverdue now limit)), s)
  | .mark ids status now => counted (s.mark status now ids)
  | .deleteReservationsOf order => counted (s.deleteReservationsOf order)

structure Transaction where
  /-- The store as it has been written to so far. -/
  store : Store
  /-- The store as it was at the start; it is given up when the transaction is committed. -/
  before : Option Store
  deriving DecidableEq

namespace Transaction

def start (s : Store) : Transaction := ⟨s, some s⟩

def take (t : Transaction) (step : Step) : Except Refusal Answer × Transaction :=
  let (answer, s) := step.run t.store
  (answer, { t with store := s })

def takeAll (t : Transaction) : List Step → List (Except Refusal Answer) × Transaction
  | [] => ([], t)
  | step :: steps =>
    let (answer, t) := t.take step
    let (answers, t) := takeAll t steps
    (answer :: answers, t)

def commit (t : Transaction) : Transaction := { t with before := none }

def finish (t : Transaction) : Store := t.before.getD t.store

end Transaction

/-- Runs a transaction. What it did is kept only if it is committed. -/
def transact (s : Store) (steps : List Step) (commit : Bool) :
    List (Except Refusal Answer) × Store :=
  let (answers, t) := (Transaction.start s).takeAll steps
  (answers, (if commit then t.commit else t).finish)

inductive Access
  | insertTicketClass (c : TicketClass)
  | ticketClass (id : Uuid)
  | deleteTicketClass (id : Uuid)
  | history (order : Uuid)
  | transaction (steps : List Step) (commit : Bool)
  deriving DecidableEq

/-- A transaction has an answer for each of its steps, and all else one answer. -/
inductive Reply
  | one (answer : Except Refusal Answer)
  | each (answers : List (Except Refusal Answer))

def Access.run (s : Store) : Access → Reply × Store
  | .insertTicketClass c => let (answer, s) := s.silent (s.insertTicketClass c); (.one answer, s)
  | .ticketClass id => (.one (.ok (.ticketClass (s.ticketClass? id))), s)
  | .deleteTicketClass id =>
    match s.deleteTicketClass id with
    | .ok (found, s) => (.one (.ok (.flag found)), s)
    | .error refusal => (.one (.error refusal), s)
  | .history order => (.one (.ok (.reservations (s.history order))), s)
  | .transaction steps commit => let (answers, s) := s.transact steps commit; (.each answers, s)

def Access.runAll (s : Store) : List Access → List Reply × Store
  | [] => ([], s)
  | access :: accesses =>
    let (reply, s) := access.run s
    let (replies, s) := runAll s accesses
    (reply :: replies, s)

end BoxOffice.Store
