import BoxOffice.Proofs.Moments
import BoxOffice.Proofs.Records
import BoxOffice.Proofs.Runs
import BoxOffice.Proofs.Spelling
import BoxOffice.Wire

/-!
Rereading of the data formats. What is written is read back from its text as it was, but for two
things that their texts do not show: the sign of a zero is lost, and a leap second that does not end
a minute is taken for the second that follows. Filters and lines have neither prices nor moments.
Clients may also ask for a line in the text of a reserved one.

The data of an answer are read in the same way, each kind of answer by the codec of what it holds.
-/

namespace BoxOffice

/-! ### Values as they are read -/

theorem map_eq_self_iff {α : Type} {f : α → α} {given : Option α} :
    given.map f = given ↔ ∀ a ∈ given, f a = a := by
  cases given <;> simp

namespace TicketClass

def moments (c : TicketClass) : List Instant :=
  c.saleStart.toList ++ c.saleEnd.toList ++ [c.createdAt, c.updatedAt]

/-- The class that is read where this one was written. -/
def asRead (c : TicketClass) : TicketClass :=
  { c with
    price := c.price.normalSign
    saleStart := c.saleStart.map Instant.normalLeap
    saleEnd := c.saleEnd.map Instant.normalLeap
    createdAt := c.createdAt.normalLeap
    updatedAt := c.updatedAt.normalLeap }

theorem asRead_eq_self_iff {c : TicketClass} :
    c.asRead = c ↔ c.price.ProperlySigned ∧ ∀ t ∈ c.moments, t.ProperLeap := by
  obtain ⟨id, event, name, price, currency, total, reserved, sold, saleStart, saleEnd, status,
    createdAt, updatedAt⟩ := c
  simp [asRead, moments, map_eq_self_iff, Decimal.normalSign_eq_self_iff,
    Instant.normalLeap_eq_self_iff, or_imp, forall_and]

namespace Draft

def moments (d : Draft) : List Instant := d.saleStart.toList ++ d.saleEnd.toList

def asRead (d : Draft) : Draft :=
  { d with
    price := d.price.normalSign
    saleStart := d.saleStart.map Instant.normalLeap
    saleEnd := d.saleEnd.map Instant.normalLeap }

theorem asRead_eq_self_iff {d : Draft} :
    d.asRead = d ↔ d.price.ProperlySigned ∧ ∀ t ∈ d.moments, t.ProperLeap := by
  obtain ⟨event, name, price, currency, total, saleStart, saleEnd⟩ := d
  simp [asRead, moments, map_eq_self_iff, Decimal.normalSign_eq_self_iff,
    Instant.normalLeap_eq_self_iff, or_imp, forall_and]

end Draft

namespace Changes

def moments (ch : Changes) : List Instant := ch.saleStart.toList ++ ch.saleEnd.toList

def asRead (ch : Changes) : Changes :=
  { ch with
    price := ch.price.map Decimal.normalSign
    saleStart := ch.saleStart.map Instant.normalLeap
    saleEnd := ch.saleEnd.map Instant.normalLeap }

theorem asRead_eq_self_iff {ch : Changes} :
    ch.asRead = ch ↔
      (∀ price ∈ ch.price, price.ProperlySigned) ∧ ∀ t ∈ ch.moments, t.ProperLeap := by
  obtain ⟨name, price, currency, total, saleStart, saleEnd, status⟩ := ch
  simp [asRead, moments, map_eq_self_iff, Decimal.normalSign_eq_self_iff,
    Instant.normalLeap_eq_self_iff, or_imp, forall_and]

end Changes

end TicketClass

namespace Reservation

def moments (r : Reservation) : List Instant := [r.expiresAt, r.createdAt, r.updatedAt]

def asRead (r : Reservation) : Reservation :=
  { r with
    expiresAt := r.expiresAt.normalLeap
    createdAt := r.createdAt.normalLeap
    updatedAt := r.updatedAt.normalLeap }

theorem asRead_eq_self_iff {r : Reservation} :
    r.asRead = r ↔ ∀ t ∈ r.moments, t.ProperLeap := by
  obtain ⟨id, order, ticketClass, quantity, expiresAt, status, createdAt, updatedAt⟩ := r
  simp [asRead, moments, Instant.normalLeap_eq_self_iff]

end Reservation

def Answer.asRead : Answer → Answer
  | .moment t => .moment t.normalLeap
  | .ticketClass found => .ticketClass (found.map TicketClass.asRead)
  | .ticketClasses rows => .ticketClasses (rows.map TicketClass.asRead)
  | .reservations rows => .reservations (rows.map Reservation.asRead)
  | answer => answer

namespace Wire

open Json Json.Codec

/-! ### Single values -/

theorem uuid_reads (id : Uuid) : uuid.Reads (uuid.write id) id :=
  ofText_reads (Uuid.ofText?_text id)

theorem moment_reads (t : Instant) : moment.Reads (moment.write t) t.normalLeap :=
  ofText_reads (Instant.ofText?_text t)

theorem quantity_reads (q : Quantity) : quantity.Reads (quantity.write q) q := by
  have least := Int32.le_toInt q
  have largest := Int32.toInt_lt q
  exact ofWhole_reads (by omega) (by omega) (Quantity.ofInt?_eq_some_iff.mpr rfl)

/-- Decimals are written as strings, so they are not read as numbers. -/
theorem decimal_reads (d : Decimal) : decimal.Reads (decimal.write d) d.normalSign := by
  have string : (ofText Decimal.text Decimal.ofText?).Reads (decimal.write d) d.normalSign :=
    ofText_reads d.ofText?_text
  exact string

theorem ticketClassStatus_reads (status : TicketClass.Status) :
    ticketClassStatus.Reads (ticketClassStatus.write status) status := by
  cases status <;> rfl

theorem reservationStatus_reads (status : Reservation.Status) :
    reservationStatus.Reads (reservationStatus.write status) status := by
  cases status <;> rfl

theorem nullableMoment_reads (t : Option Instant) :
    moment.nullable.Reads (moment.nullable.write t) (t.map Instant.normalLeap) :=
  nullable_reads (fun _ => Value.noConfusion) moment_reads t

/-! ### Records -/

theorem ticketClass_reads (c : TicketClass) :
    ticketClass.Reads (ticketClass.write c) c.asRead := by
  have reread : ticketClassFields.Reread
      (c.id, c.event, c.name, c.price, c.currency, c.total, c.reserved, c.sold, c.saleStart,
        c.saleEnd, c.status, c.createdAt, c.updatedAt, ())
      (c.id, c.event, c.name, c.price.normalSign, c.currency, c.total, c.reserved, c.sold,
        c.saleStart.map Instant.normalLeap, c.saleEnd.map Instant.normalLeap, c.status,
        c.createdAt.normalLeap, c.updatedAt.normalLeap, ()) :=
    ⟨uuid_reads _, uuid_reads _, text_reads _, decimal_reads _, text_reads _, quantity_reads _,
      quantity_reads _, quantity_reads _, nullableMoment_reads _, nullableMoment_reads _,
      ticketClassStatus_reads _, moment_reads _, moment_reads _, trivial⟩
  exact (reread.reads (by decide)).convert _

theorem reservation_reads (r : Reservation) : reservation.Reads (reservation.write r) r.asRead := by
  have reread : reservationFields.Reread
      (r.id, r.order, r.ticketClass, r.quantity, r.expiresAt, r.status, r.createdAt, r.updatedAt,
        ())
      (r.id, r.order, r.ticketClass, r.quantity, r.expiresAt.normalLeap, r.status,
        r.createdAt.normalLeap, r.updatedAt.normalLeap, ()) :=
    ⟨uuid_reads _, uuid_reads _, uuid_reads _, quantity_reads _, moment_reads _,
      reservationStatus_reads _, moment_reads _, moment_reads _, trivial⟩
  exact (reread.reads (by decide)).convert _

theorem draft_reads (d : TicketClass.Draft) : draft.Reads (draft.write d) d.asRead := by
  have reread : draftFields.Reread
      (d.event, d.name, d.price, d.currency, d.total, d.saleStart, d.saleEnd, ())
      (d.event, d.name, d.price.normalSign, d.currency, d.total,
        d.saleStart.map Instant.normalLeap, d.saleEnd.map Instant.normalLeap, ()) :=
    ⟨uuid_reads _, text_reads _, decimal_reads _, text_reads _, quantity_reads _,
      nullableMoment_reads _, nullableMoment_reads _, trivial⟩
  exact (reread.reads (by decide)).convert _

theorem changes_reads (ch : TicketClass.Changes) :
    changes.Reads (changes.write ch) ch.asRead := by
  have reread : changesFields.Reread
      (ch.name, ch.price, ch.currency, ch.total, ch.saleStart, ch.saleEnd, ch.status, ())
      (ch.name, ch.price.map Decimal.normalSign, ch.currency, ch.total,
        ch.saleStart.map Instant.normalLeap, ch.saleEnd.map Instant.normalLeap, ch.status, ()) :=
    ⟨nullable_reads_self (fun _ => Value.noConfusion) text_reads _,
      nullable_reads (fun _ => Value.noConfusion) decimal_reads _,
      nullable_reads_self (fun _ => Value.noConfusion) text_reads _,
      nullable_reads_self (fun _ => Value.noConfusion) quantity_reads _,
      nullableMoment_reads _, nullableMoment_reads _,
      nullable_reads_self (fun _ => Value.noConfusion) ticketClassStatus_reads _, trivial⟩
  exact (reread.reads (by decide)).convert _

theorem filter_reads (f : TicketClass.Filter) : filter.Reads (filter.write f) f := by
  have reread : filterFields.Reread (f.event, f.ids, ()) (f.event, f.ids, ()) :=
    ⟨nullable_reads_self (fun _ => Value.noConfusion) uuid_reads _, list_reads_self uuid_reads _,
      trivial⟩
  exact (reread.reads (by decide)).convert _

theorem line_reads (l : Line) : line.Reads (line.write l) l := by
  refine Reads.convert (a := (l.ticketClass, l.quantity, ())) (Fields.Hold.reads ?_) _
  exact .cons rfl (uuid_reads _) (List.forall_mem_singleton.mpr rfl) <|
    .cons rfl (quantity_reads _) (List.forall_mem_nil _) .nil

/-- The quantity of a line answers to the name it has in reservations. -/
theorem item_reads (l : Line) : item.Reads (line.write l) l := by
  refine Reads.convert (a := (l.ticketClass, l.quantity, ())) (Fields.Hold.reads ?_) _
  exact .cons rfl (uuid_reads _) (List.forall_mem_singleton.mpr rfl) <|
    .cons rfl (quantity_reads _) (List.forall_mem_nil _) .nil

/-! ### Texts -/

/-- Whatever is written is read back from its text, but without the sign of a zero and with a leap
second that does not end a minute as the second that follows: ticket classes, drafts, changes and
reservations exactly if their prices are properly signed and their moments proper, and filters and
lines always. The text of a line is also read as what a client asks for. -/
theorem formats_round_trip :
    (∀ c : TicketClass, ticketClass.RereadAs c c.asRead ∧
      (ticketClass.RoundTrips c ↔ c.price.ProperlySigned ∧ ∀ t ∈ c.moments, t.ProperLeap)) ∧
    (∀ r : Reservation, reservation.RereadAs r r.asRead ∧
      (reservation.RoundTrips r ↔ ∀ t ∈ r.moments, t.ProperLeap)) ∧
    (∀ d : TicketClass.Draft, draft.RereadAs d d.asRead ∧
      (draft.RoundTrips d ↔ d.price.ProperlySigned ∧ ∀ t ∈ d.moments, t.ProperLeap)) ∧
    (∀ ch : TicketClass.Changes, changes.RereadAs ch ch.asRead ∧
      (changes.RoundTrips ch ↔
        (∀ price ∈ ch.price, price.ProperlySigned) ∧ ∀ t ∈ ch.moments, t.ProperLeap)) ∧
    (∀ f : TicketClass.Filter, filter.RoundTrips f) ∧
    ∀ l : Line, line.RoundTrips l ∧
      readText item ((line.write l).render.toList.map some) = .ok l := by
  refine ⟨fun c => ?_, fun r => ?_, fun d => ?_, fun ch => ?_, fun f => ?_, fun l => ⟨?_, ?_⟩⟩
  · exact (ticketClass_reads c).rereadAs_and_roundTrips_iff TicketClass.asRead_eq_self_iff
  · exact (reservation_reads r).rereadAs_and_roundTrips_iff Reservation.asRead_eq_self_iff
  · exact (draft_reads d).rereadAs_and_roundTrips_iff TicketClass.Draft.asRead_eq_self_iff
  · exact (changes_reads ch).rereadAs_and_roundTrips_iff TicketClass.Changes.asRead_eq_self_iff
  · exact roundTrips_iff_reads.mpr (filter_reads f)
  · exact roundTrips_iff_reads.mpr (line_reads l)
  · rw [readText_render]
    exact item_reads l

def lateLeapSecond : Instant :=
  ⟨⟨12024, 12, 31, by decide, by decide, by decide, by decide, by decide, by decide⟩, 86399,
    1000000001, by decide, by decide⟩

/-- A class with a name that needs escapes, priced as given. -/
def encore (price : Decimal) : TicketClass where
  id := .ofNat 1
  event := .ofNat 7
  name := "The \"last\"\n\x01🎭"
  price := price
  currency := ""
  total := -1
  reserved := 0
  sold := 5
  saleStart := none
  saleEnd := some lateLeapSecond
  status := .inactive
  createdAt := Concert.noon
  updatedAt := lateLeapSecond

/-- The class is read back at a price of -0.05, and so is the change to that price. At a price of
-0.00 it is not. -/
theorem formats_round_trip_concert :
    ticketClass.RoundTrips (encore ⟨true, 5, 2, by decide, by decide⟩) ∧
      changes.RoundTrips ⟨some "", some ⟨true, 5, 2, by decide, by decide⟩, none, some (-1), none,
        some lateLeapSecond, none⟩ ∧
      ¬ticketClass.RoundTrips (encore ⟨true, 0, 2, by decide, by decide⟩) := by
  obtain ⟨classes, -, -, changes, -, -⟩ := formats_round_trip
  refine ⟨(classes _).2.mpr ⟨?_, ?_⟩, (changes _).2.mpr ⟨?_, ?_⟩, fun read => ?_⟩
  · intro _
    decide
  · decide
  · rintro price ⟨⟩ -
    decide
  · decide
  · exact ((classes _).2.mp read).1 rfl rfl

/-- A reservation until a third of the way through a leap second after 12:00:04. -/
def unevenDeadline : Reservation where
  id := .ofNat 3
  order := Concert.order
  ticketClass := .ofNat 1
  quantity := 2
  expiresAt := ⟨Concert.noon.date, 43204, 1333333333, by decide, by decide⟩
  status := .active
  createdAt := Concert.noon
  updatedAt := Concert.noon

/-- No minute ends with the deadline, and the reservation is read with one in the next second. -/
theorem unevenDeadline_not_read_back :
    ¬reservation.RoundTrips unevenDeadline ∧
      reservation.RereadAs unevenDeadline
        { unevenDeadline with
          expiresAt := ⟨Concert.noon.date, 43205, 333333333, by decide, by decide⟩ } := by
  have reads := reservation_reads unevenDeadline
  refine ⟨fun same => ?_, reads.rereadAs⟩
  have proper := Reservation.asRead_eq_self_iff.mp (reads.roundTrips_iff_eq.mp same)
  exact absurd (proper _ List.mem_cons_self) (by decide)

/-! ### Answers -/

/-- The data are read as the answer, by the codec of what an answer of its kind holds. -/
inductive ReadAs : Value → Answer → Prop
  | done : ReadAs .null .done
  | flag (b : Bool) : ReadAs (.bool b) (.flag b)
  | count (n : Nat) : ReadAs (.number n) (.count n)
  | quantity {v : Value} {q : Quantity} (reads : quantity.Reads v q) : ReadAs v (.quantity q)
  | moment {v : Value} {t : Instant} (reads : moment.Reads v t) : ReadAs v (.moment t)
  | ticketClass {v : Value} {found : Option TicketClass}
    (reads : ticketClass.nullable.Reads v found) : ReadAs v (.ticketClass found)
  | ticketClasses {v : Value} {rows : List TicketClass} (reads : ticketClass.list.Reads v rows) :
    ReadAs v (.ticketClasses rows)
  | reservations {v : Value} {rows : List Reservation} (reads : reservation.list.Reads v rows) :
    ReadAs v (.reservations rows)

theorem readAs_writeAnswer (answer : Answer) : ReadAs (writeAnswer answer) answer.asRead := by
  cases answer with
  | done => exact .done
  | flag b => exact .flag b
  | count n => exact .count n
  | quantity q => exact .quantity (quantity_reads q)
  | moment t => exact .moment (moment_reads t)
  | ticketClass found =>
    exact .ticketClass (nullable_reads (fun _ => Value.noConfusion) ticketClass_reads found)
  | ticketClasses rows => exact .ticketClasses (list_reads ticketClass_reads rows)
  | reservations rows => exact .reservations (list_reads reservation_reads rows)

/-- The data are those of the answer, and a client who reads them gets it. -/
structure Carries (v : Value) (answer : Answer) : Prop where
  written : v = writeAnswer answer
  read : ReadAs v answer.asRead

theorem carries_writeAnswer (answer : Answer) : Carries (writeAnswer answer) answer :=
  ⟨rfl, readAs_writeAnswer answer⟩

end Wire

end BoxOffice
