import BoxOffice.Operation

/-!
Checked sums. Quantities are 32-bit numbers, and most of their sums and differences are made
without looking whether the result is in range. Here the steps of a store and the services of a
desk are set out once more, with every sum and every difference checked: as soon as one of them
leaves the range there is no result at all, not even a refusal. Where there is a result, it is that
of a store or a desk that never had to wrap a number around.

The sums by which the lines of a request are merged are checked by the services themselves, and one
that leaves the range is an ordinary answer of theirs; those are as they were.
-/

namespace BoxOffice

def Quantity.minus? (a b : Quantity) : Option Quantity := ofInt? (a.toInt - b.toInt)

namespace TicketClass

open Quantity (plus? minus?)

def available? (c : TicketClass) : Option Quantity := do
  minus? (← minus? c.total c.reserved) c.sold

def taken? (c : TicketClass) : Option Quantity := plus? c.reserved c.sold

def claim? (c : TicketClass) (quantity : Quantity) : Option TicketClass := do
  return { c with reserved := ← plus? c.reserved quantity }

def giveBack? (c : TicketClass) (quantity : Quantity) : Option TicketClass := do
  return { c with reserved := max (← minus? c.reserved quantity) 0 }

def settle? (c : TicketClass) (quantity : Quantity) : Option TicketClass := do
  return { c with reserved := ← minus? c.reserved quantity, sold := ← plus? c.sold quantity }

end TicketClass

/-- What is refused or has a result, unless a sum leaves the range. -/
abbrev Checked := ExceptT Refusal Option

/-! ### Steps of a store -/

namespace Store.Checked

def claim? (s : Store) (id : Uuid) (quantity : Quantity) : Option (Option Store) :=
  match s.ticketClass? id with
  | some c => do
    if quantity ≤ (← c.available?) then return some (s.putTicketClass (← c.claim? quantity))
    else return none
  | none => return none

def giveBack? (s : Store) (id : Uuid) (quantity : Quantity) : Option (Option Store) :=
  match s.ticketClass? id with
  | some c => do return some (s.putTicketClass (← c.giveBack? quantity))
  | none => return none

def settle? (s : Store) (id : Uuid) (quantity : Quantity) : Option (Option Store) :=
  match s.ticketClass? id with
  | some c => do
    if quantity ≤ c.reserved then return some (s.putTicketClass (← c.settle? quantity))
    else return none
  | none => return none

def claim (s : Store) (seen : TicketClass) (quantity : Quantity) : Checked Store := do
  let available ← seen.available?
  let shortage := Refusal.insufficientStock seen.id quantity available
  if available < quantity then throw shortage
  match ← claim? s seen.id quantity with
  | some s => return s
  | none => throw shortage

def giveBack (s : Store) (id : Uuid) (quantity : Quantity) : Checked Store := do
  match ← giveBack? s id quantity with
  | some s => return s
  | none => throw (.noTicketClass id)

def settle (s : Store) (id : Uuid) (quantity : Quantity) : Checked Store := do
  match ← settle? s id quantity with
  | some s => return s
  | none => throw (.obstructed (.reservedTooFew id quantity))

def updateTicketClass (s : Store) (c : TicketClass) : Checked Store := do
  s.checkName c
  let current ← s.ticketClass c.id
  if c.total < (← current.taken?) then
    throw (.obstructed (.totalBelowCounters c.id c.total))
  return s.putTicketClass
    { current with
      name := c.name
      price := c.price
      currency := c.currency
      total := c.total
      saleStart := c.saleStart
      saleEnd := c.saleEnd
      status := c.status
      updatedAt := c.updatedAt }

def step (s : Store) : Step → Option (Except Refusal Answer × Store)
  | .updateTicketClass c => do return s.silent (← (updateTicketClass s c).run)
  | .claim id quantity => do return s.guarded (← claim? s id quantity)
  | .giveBack id quantity => do return s.guarded (← giveBack? s id quantity)
  | .settle id quantity => do return s.guarded (← settle? s id quantity)
  | .claimSeen seen quantity => do return s.silent (← (claim s seen quantity).run)
  | .claimFound id quantity => do
    return s.silent (← (do claim s (← s.ticketClass id) quantity : Checked Store).run)
  | .giveBackFound id quantity => do return s.silent (← (giveBack s id quantity).run)
  | .settleFound id quantity => do return s.silent (← (settle s id quantity).run)
  | step => return step.run s

def takeAll (t : Transaction) :
    List Step → Option (List (Except Refusal Answer) × Transaction)
  | [] => return ([], t)
  | next :: steps => do
    let (answer, s) ← step t.store next
    let (answers, t) ← takeAll { t with store := s } steps
    return (answer :: answers, t)

def transact (s : Store) (steps : List Step) (commit : Bool) :
    Option (List (Except Refusal Answer) × Store) := do
  let (answers, t) ← takeAll (.start s) steps
  return (answers, (if commit then t.commit else t).finish)

def access (s : Store) : Access → Option (Reply × Store)
  | .transaction steps commit => do
    let (answers, s) ← transact s steps commit
    return (.each answers, s)
  | a => return a.run s

def accessAll (s : Store) : List Access → Option (List Reply × Store)
  | [] => return ([], s)
  | next :: accesses => do
    let (reply, s) ← access s next
    let (replies, s) ← accessAll s accesses
    return (reply :: replies, s)

/-! ### Bookings -/

def lines (rows : List Reservation) : Option Lines :=
  rows.foldlM (fun lines r => lines.add? r.line) .empty

def claimLine (s : Store) (line : Line) (now : Instant) : Checked Store := do
  let c ← s.ticketClass line.ticketClass
  if c.isOnSale now then claim s c line.quantity
  else throw (.invalid (.notOnSale line.ticketClass))

def reserveLines (order : Uuid) (expiresAt now : Instant) :
    List Line → Store → IdSupply → Option (Except Refusal (List Reservation × Store) × IdSupply)
  | [], s, ids => return (.ok ([], s), ids)
  | line :: lines, s, ids => do
    match ← (claimLine s line now).run with
    | .error refusal => return (.error refusal, ids)
    | .ok s =>
      let (id, ids) := ids.draw
      let row := Reservation.hold id order line expiresAt now
      match s.insertReservation row with
      | .error refusal => return (.error refusal, ids)
      | .ok s =>
        match ← reserveLines order expiresAt now lines s ids with
        | (.error refusal, ids) => return (.error refusal, ids)
        | (.ok (rows, s), ids) => return (.ok (row :: rows, s), ids)

def resolveLine (how : Resolution) (s : Store) (line : Line) : Checked Store :=
  match how with
  | .confirm => settle s line.ticketClass line.quantity
  | .release => giveBack s line.ticketClass line.quantity

def resolve (s : Store) (how : Resolution) (order : Uuid) (now : Instant) :
    Checked ((List Reservation × Lines) × Store) := do
  let rows := s.reservationsOf order
  if rows.isEmpty then throw (.noOrder order)
  if let some obstacle := rows.findSome? (how.obstacle? now) then throw (.obstructed obstacle)
  let lines ← lines rows
  let s ← lines.rows.foldlM (resolveLine how) s
  let s ← s.transition (rows.map (·.id)) how.status now
  return ((rows.map (·.marked how.status now), lines), s)

def expire (s : Store) (limit : Int) (now : Instant) : Checked ((List Uuid × Lines) × Store) := do
  let rows := s.firstOverdue now limit
  let lines ← lines rows
  let s ← lines.rows.foldlM (resolveLine .release) s
  let s ← s.transition (rows.map (·.id)) .expired now
  return ((rows.map (·.id), lines), s)

def canServe (s : Store) (wanted : Lines) : Option Bool :=
  let found := s.list ⟨none, wanted.rows.map (·.ticketClass)⟩
  if found.length = wanted.rows.length then
    found.allM fun c => do return wanted.quantity c.id ≤ (← c.available?)
  else return false

end Store.Checked

namespace TicketClass.Changes.Checked

def checkTaken (c : TicketClass) : Option Quantity → Checked Unit
  | some total => do
    let taken ← c.taken?
    if total < taken then throw (.obstructed (.totalBelowTaken total taken))
  | none => return ()

def apply (ch : Changes) (c : TicketClass) (now : Instant) : Checked TicketClass := do
  checkTaken c ch.total
  let changed := ch.merge c now
  (checkWindow changed.saleStart changed.saleEnd).mapError Refusal.invalid
  return changed

end TicketClass.Changes.Checked

/-! ### Services of a desk -/

namespace Desk.Checked

variable {α : Type}

def look (d : Desk) (answer : Store → Checked α) : Option (Except Refusal α × Desk) := do
  return (← (do answer (← d.reach) : Checked α).run, d)

def change (d : Desk) (answer : Store → Checked (α × Store)) :
    Option (Except Refusal α × Desk) := do
  match ← (do answer (← d.reach) : Checked (α × Store)).run with
  | .ok (a, s) => return (.ok a, { d with store := some s })
  | .error refusal => return (.error refusal, d)

def update (d : Desk) (id : Uuid) (changes : TicketClass.Changes) :
    Option (Except Refusal TicketClass × Desk) :=
  match changes.validate with
  | .error reason => return d.refuse reason
  | .ok () =>
    change d fun s => do
      let c ← s.ticketClass id
      let c ← TicketClass.Changes.Checked.apply changes c d.now
      let s ← Store.Checked.updateTicketClass s c
      return (c, s)

def reserve (d : Desk) (order : Uuid) (items : List Line) (expiresAt : Instant) :
    Option (Except Refusal (List Reservation) × Desk) :=
  match Lines.ofOrder order items with
  | .error reason => return d.refuse reason
  | .ok lines =>
    if expiresAt ≤ d.now then return d.refuse .deadlineNotAhead
    else
      match d.store with
      | none => return (.error .noStore, d)
      | some s => do
        match ← Store.Checked.reserveLines order expiresAt d.now lines.rows s d.ids with
        | (.error refusal, ids) => return (.error refusal, { d with ids := ids })
        | (.ok (rows, s), ids) =>
          let told := Event.reserved order (rows.map (·.id)) lines expiresAt
          return (.ok rows, { d with store := some s, ids := ids }.publish told)

def resolve (d : Desk) (how : Store.Resolution) (order : Uuid)
    (told : List Uuid → Lines → Event) : Option (Except Refusal (List Reservation) × Desk) := do
  match ← change d fun s => Store.Checked.resolve s how order d.now with
  | (.error refusal, d) => return (.error refusal, d)
  | (.ok (rows, lines), d) => return (.ok rows, d.publish (told (rows.map (·.id)) lines))

def expire (d : Desk) (size : Int) : Option (Except Refusal Nat × Desk) := do
  match ← change d fun s => Store.Checked.expire s (sweepLimit size) d.now with
  | (.error refusal, d) => return (.error refusal, d)
  | (.ok ([], _), d) => return (.ok 0, d)
  | (.ok (ids, lines), d) => return (.ok ids.length, d.publish (.expired ids lines d.now))

def sweep (d : Desk) (size : Int) : Option (Nat × Desk) := do
  match ← expire d size with
  | (.ok count, d) => return (count, d)
  | (.error _, d) => return (0, d)

def available (d : Desk) (id : Uuid) : Option (Except Refusal Quantity × Desk) :=
  look d fun s => do
    let c ← s.ticketClass id
    c.available?

def check (d : Desk) (items : List Line) : Option (Except Refusal Bool × Desk) :=
  match Wanted.ofItems .empty items with
  | .error reason => return d.refuse reason
  | .ok .tooMany => return (.ok false, d)
  | .ok (.lines lines) =>
    if lines.rows.isEmpty then return (.ok true, d)
    else look d fun s => Store.Checked.canServe s lines

end Desk.Checked

def Operation.checkedRun (d : Desk) : Operation → Option (Except Refusal Answer × Desk)
  | .update id changes => do
    return answered (.ticketClass ∘ some) (← Desk.Checked.update d id changes)
  | .reserve order items expiresAt => do
    return answered .reservations (← Desk.Checked.reserve d order items expiresAt)
  | .confirm order => do
    return answered .reservations (← Desk.Checked.resolve d .confirm order fun ids lines =>
      .confirmed order ids lines d.now)
  | .release order => do
    return answered .reservations (← Desk.Checked.resolve d .release order fun ids lines =>
      .released order ids lines d.now)
  | .expire size => do return answered .count (← Desk.Checked.expire d size)
  | .sweep size => do
    let (count, d) ← Desk.Checked.sweep d size
    return (.ok (.count count), d)
  | .available id => do return answered .quantity (← Desk.Checked.available d id)
  | .check items => do return answered .flag (← Desk.Checked.check d items)
  | op => return op.run d

end BoxOffice
