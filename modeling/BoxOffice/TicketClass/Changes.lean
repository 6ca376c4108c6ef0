import BoxOffice.TicketClass.Rules

/-!
Changes of a ticket class. A field that is absent stays as it is; the counters are never
changed.
-/

namespace BoxOffice.TicketClass

structure Changes where
  name : Option String
  price : Option Decimal
  currency : Option String
  total : Option Quantity
  saleStart : Option Instant
  saleEnd : Option Instant
  status : Option Status
  deriving DecidableEq

namespace Changes

/-- The first rule that the given fields break by themselves. -/
def validate (ch : Changes) : Except Invalid Unit := do
  if let some name := ch.name then
    refuseIf (isBlankText name) .nameBlank
    checkName name
  if let some price := ch.price then
    checkPrice price
  if let some currency := ch.currency then
    refuseIf (isBlankText currency) .currencyBlank
    checkCurrency currency
  if let some total := ch.total then
    checkTotal total

def merge (ch : Changes) (c : TicketClass) (now : Instant) : TicketClass :=
  { c with
    name := (ch.name.map normalName).getD c.name
    price := ch.price.getD c.price
    currency := (ch.currency.map normalCurrency).getD c.currency
    total := ch.total.getD c.total
    saleStart := ch.saleStart.or c.saleStart
    saleEnd := ch.saleEnd.or c.saleEnd
    status := ch.status.getD c.status
    updatedAt := now }

/-- A new total must cover what is reserved and sold. -/
def checkTaken (c : TicketClass) : Option Quantity → Except Refusal Unit
  | some total =>
    let taken := c.reserved + c.sold
    if total < taken then .error (.obstructed (.totalBelowTaken total taken)) else .ok ()
  | none => .ok ()

/-- Changes a class, if the total covers what is taken and the window that results does not end
before it starts. -/
def apply (ch : Changes) (c : TicketClass) (now : Instant) : Except Refusal TicketClass := do
  checkTaken c ch.total
  let changed := ch.merge c now
  (checkWindow changed.saleStart changed.saleEnd).mapError .invalid
  return changed

end Changes

end BoxOffice.TicketClass
