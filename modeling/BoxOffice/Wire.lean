import BoxOffice.Answer
import BoxOffice.Binary64.Shortest
import BoxOffice.Decimal.Text
import BoxOffice.Event
import BoxOffice.Instant.Text
import BoxOffice.Json.Record
import BoxOffice.TicketClass.Changes
import BoxOffice.TicketClass.Draft

/-!
The data formats: how ticket classes, reservations and what is asked about them are written as
JSON and read from it. Each format is given once, as a codec that both writes and reads.
-/

namespace BoxOffice.Wire

open Json

def uuid : Codec Uuid := .ofText Uuid.text Uuid.ofText?

def moment : Codec Instant := .ofText Instant.text Instant.ofText?

def quantity : Codec Quantity := .ofWhole Int32.toInt Quantity.ofInt?

/-- The decimal that a number denotes; one with a fraction or an exponent is read from the
shortest text of its binary number. -/
def decimalOfNumber? : Number → Option Decimal
  | .whole i => Decimal.ofInt? i
  | .binary negative size =>
    Decimal.plain? (if negative then '-' :: size.toChars else size.toChars)

/-- Decimals are written as strings, which keeps their scale. They are also read from
numbers. -/
def decimal : Codec Decimal where
  write d := .text d.text
  read
    | .number n =>
      match n.value? with
      | none => .error .malformed
      | some number =>
        match decimalOfNumber? number with
        | some d => .ok d
        | none => .error .mismatched
    | d => (Codec.ofText Decimal.text Decimal.ofText?).read d

def ticketClassStatus : Codec TicketClass.Status := .named TicketClass.Status.all (·.name)

def reservationStatus : Codec Reservation.Status := .named Reservation.Status.all (·.name)

def ticketClassFields : Fields
    [Uuid, Uuid, String, Decimal, String, Quantity, Quantity, Quantity, Option Instant,
      Option Instant, TicketClass.Status, Instant, Instant] :=
  .cons (.required "id" uuid) <|
  .cons (.required "event_id" uuid) <|
  .cons (.required "name" .text) <|
  .cons (.required "price" decimal) <|
  .cons (.required "currency" .text) <|
  .cons (.required "total" quantity) <|
  .cons (.required "reserved" quantity) <|
  .cons (.required "sold" quantity) <|
  .cons (.optional "sale_start_at" moment) <|
  .cons (.optional "sale_end_at" moment) <|
  .cons (.required "status" ticketClassStatus) <|
  .cons (.required "created_at" moment) <|
  .cons (.required "updated_at" moment) .nil

def ticketClass : Codec TicketClass :=
  ticketClassFields.codec.convert
    (fun (id, event, name, price, currency, total, reserved, sold, saleStart, saleEnd, status,
        createdAt, updatedAt, ()) =>
      ⟨id, event, name, price, currency, total, reserved, sold, saleStart, saleEnd, status,
        createdAt, updatedAt⟩)
    (fun c => (c.id, c.event, c.name, c.price, c.currency, c.total, c.reserved, c.sold,
      c.saleStart, c.saleEnd, c.status, c.createdAt, c.updatedAt, ()))

def reservationFields : Fields
    [Uuid, Uuid, Uuid, Quantity, Instant, Reservation.Status, Instant, Instant] :=
  .cons (.required "id" uuid) <|
  .cons (.required "order_id" uuid) <|
  .cons (.required "ticket_class_id" uuid) <|
  .cons (.required "qty" quantity) <|
  .cons (.required "expires_at" moment) <|
  .cons (.required "status" reservationStatus) <|
  .cons (.required "created_at" moment) <|
  .cons (.required "updated_at" moment) .nil

def reservation : Codec Reservation :=
  reservationFields.codec.convert
    (fun (id, order, ticketClass, quantity, expiresAt, status, createdAt, updatedAt, ()) =>
      ⟨id, order, ticketClass, quantity, expiresAt, status, createdAt, updatedAt⟩)
    (fun r => (r.id, r.order, r.ticketClass, r.quantity, r.expiresAt, r.status, r.createdAt,
      r.updatedAt, ()))

def draftFields : Fields
    [Uuid, String, Decimal, String, Quantity, Option Instant, Option Instant] :=
  .cons (.required "event_id" uuid) <|
  .cons (.required "name" .text) <|
  .cons (.required "price" decimal) <|
  .cons (.required "currency" .text) <|
  .cons (.required "total" quantity) <|
  .cons ((Field.optional "sale_start_at" moment).orElse none) <|
  .cons ((Field.optional "sale_end_at" moment).orElse none) .nil

def draft : Codec TicketClass.Draft :=
  draftFields.codec.convert
    (fun (event, name, price, currency, total, saleStart, saleEnd, ()) =>
      ⟨event, name, price, currency, total, saleStart, saleEnd⟩)
    (fun d => (d.event, d.name, d.price, d.currency, d.total, d.saleStart, d.saleEnd, ()))

def changesFields : Fields
    [Option String, Option Decimal, Option String, Option Quantity, Option Instant,
      Option Instant, Option TicketClass.Status] :=
  .cons (.optional "name" .text) <|
  .cons (.optional "price" decimal) <|
  .cons (.optional "currency" .text) <|
  .cons (.optional "total" quantity) <|
  .cons (.optional "sale_start_at" moment) <|
  .cons (.optional "sale_end_at" moment) <|
  .cons (.optional "status" ticketClassStatus) .nil

def changes : Codec TicketClass.Changes :=
  changesFields.codec.convert
    (fun (name, price, currency, total, saleStart, saleEnd, status, ()) =>
      ⟨name, price, currency, total, saleStart, saleEnd, status⟩)
    (fun ch => (ch.name, ch.price, ch.currency, ch.total, ch.saleStart, ch.saleEnd, ch.status,
      ()))

def filterFields : Fields [Option Uuid, List Uuid] :=
  .cons (.optional "event_id" uuid) <| .cons ((Field.required "ids" uuid.list).orElse []) .nil

def filter : Codec TicketClass.Filter :=
  filterFields.codec.convert (fun (event, ids, ()) => ⟨event, ids⟩) fun f => (f.event, f.ids, ())

/-- A line as reservations name their quantity. -/
def line : Codec Line :=
  (Fields.cons (.required "ticket_class_id" uuid) <|
    .cons (.required "qty" quantity) .nil).codec.convert
    (fun (ticketClass, quantity, ()) => ⟨ticketClass, quantity⟩)
    fun l => (l.ticketClass, l.quantity, ())

/-- A line as clients ask for it; the quantity may also have the name it has in
reservations. -/
def item : Codec Line :=
  (Fields.cons (.required "ticket_class_id" uuid) <|
    .cons ((Field.required "quantity" quantity).orNamed "qty") .nil).codec.convert
    (fun (ticketClass, quantity, ()) => ⟨ticketClass, quantity⟩)
    fun l => (l.ticketClass, l.quantity, ())

structure OrderRequest where
  order : Uuid
  items : List Line
  expiresAt : Instant
  deriving DecidableEq

def orderRequest : Codec OrderRequest :=
  (Fields.cons (.required "order_id" uuid) <| .cons (.required "items" item.list) <|
    .cons (.required "expires_at" moment) .nil).codec.convert
    (fun (order, items, expiresAt, ()) => ⟨order, items, expiresAt⟩)
    fun r => (r.order, r.items, r.expiresAt, ())

/-- The quantities of classes, as an object whose keys are the classes. -/
def writeLines (lines : Lines) : Value :=
  .object (lines.rows.map fun l => (l.ticketClass.text, .number l.quantity.toInt))

def writeEvent (e : Event) : Value :=
  let ids (reservations : List Uuid) : String × Value :=
    ("reservation_ids", .array (reservations.map uuid.write))
  match e with
  | .reserved order reservations lines expiresAt =>
    .object
      [("type", .text "reserved"), ("order_id", uuid.write order), ids reservations,
        ("quantities", writeLines lines), ("expires_at", moment.write expiresAt)]
  | .confirmed order reservations lines time =>
    .object
      [("type", .text "confirmed"), ("order_id", uuid.write order), ids reservations,
        ("quantities", writeLines lines), ("confirmed_at", moment.write time)]
  | .released order reservations lines time =>
    .object
      [("type", .text "released"), ("order_id", uuid.write order), ids reservations,
        ("quantities", writeLines lines), ("released_at", moment.write time)]
  | .expired reservations lines time =>
    .object
      [("type", .text "expired"), ids reservations, ("quantities", writeLines lines),
        ("expired_at", moment.write time)]

def writeAnswer : Answer → Value
  | .done => .null
  | .flag b => .bool b
  | .count n => .number n
  | .quantity q => quantity.write q
  | .moment t => moment.write t
  | .ticketClass found => ticketClass.nullable.write found
  | .ticketClasses rows => ticketClass.list.write rows
  | .reservations rows => reservation.list.write rows

end BoxOffice.Wire
