import BoxOffice.Store

/-!
The capacity of ticket classes. Tickets are claimed, given back and settled; nothing else
changes the counters of a class. Each step is guarded and, when its guard fails, leaves the
store as it is: the steps that end in a question mark then give nothing, and the others name
the cause.
-/

namespace BoxOffice

namespace TicketClass

def claim (c : TicketClass) (quantity : Quantity) : TicketClass :=
  { c with reserved := c.reserved + quantity }

/-- The class with fewer tickets reserved, though never fewer than none. -/
def giveBack (c : TicketClass) (quantity : Quantity) : TicketClass :=
  { c with reserved := max (c.reserved - quantity) 0 }

def settle (c : TicketClass) (quantity : Quantity) : TicketClass :=
  { c with reserved := c.reserved - quantity, sold := c.sold + quantity }

end TicketClass

namespace Store

def claim? (s : Store) (id : Uuid) (quantity : Quantity) : Option Store :=
  match s.ticketClass? id with
  | some c => if quantity ≤ c.available then some (s.putTicketClass (c.claim quantity)) else none
  | none => none

def giveBack? (s : Store) (id : Uuid) (quantity : Quantity) : Option Store :=
  (s.ticketClass? id).map fun c => s.putTicketClass (c.giveBack quantity)

def settle? (s : Store) (id : Uuid) (quantity : Quantity) : Option Store :=
  match s.ticketClass? id with
  | some c => if quantity ≤ c.reserved then some (s.putTicketClass (c.settle quantity)) else none
  | none => none

/-- Reserves tickets of a class that was looked up before. A refusal names what was available
then. -/
def claim (s : Store) (seen : TicketClass) (quantity : Quantity) : Except Refusal Store :=
  let shortage := Refusal.insufficientStock seen.id quantity seen.available
  if seen.available < quantity then .error shortage
  else
    match s.claim? seen.id quantity with
    | some s => .ok s
    | none => .error shortage

def giveBack (s : Store) (id : Uuid) (quantity : Quantity) : Except Refusal Store :=
  match s.giveBack? id quantity with
  | some s => .ok s
  | none => .error (.noTicketClass id)

def settle (s : Store) (id : Uuid) (quantity : Quantity) : Except Refusal Store :=
  match s.settle? id quantity with
  | some s => .ok s
  | none => .error (.obstructed (.reservedTooFew id quantity))

end Store

end BoxOffice
