import BoxOffice.TicketClass.Rules

/-!
Drafts: what is given to set up a ticket class.
-/

namespace BoxOffice.TicketClass

structure Draft where
  event : Uuid
  name : String
  price : Decimal
  currency : String
  total : Quantity
  saleStart : Option Instant
  saleEnd : Option Instant
  deriving DecidableEq

namespace Draft

def validate (d : Draft) : Except Invalid Unit := do
  refuseIf d.event.isNil .eventMissing
  refuseIf (isBlankText d.name) .nameMissing
  checkName d.name
  checkPrice d.price
  refuseIf (isBlankText d.currency) .currencyMissing
  checkCurrency d.currency
  checkTotal d.total
  checkWindow d.saleStart d.saleEnd

/-- The class that a draft sets up: active, with nothing reserved or sold. -/
def ticketClass (d : Draft) (id : Uuid) (now : Instant) : TicketClass where
  id := id
  event := d.event
  name := normalName d.name
  price := d.price
  currency := normalCurrency d.currency
  total := d.total
  reserved := 0
  sold := 0
  saleStart := d.saleStart
  saleEnd := d.saleEnd
  status := .active
  createdAt := now
  updatedAt := now

end Draft

end BoxOffice.TicketClass
