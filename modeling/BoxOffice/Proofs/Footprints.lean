import BoxOffice.Proofs.Checking
import BoxOffice.Proofs.Lifetimes
import BoxOffice.Proofs.Offers

/-!
Footprints: what each operation may write. Orders are moved through reservations and counters, and
leave what is offered alone; classes are managed without a look at orders, whose counters they keep.

What an operation does to single reservations is known from `Reservation.Passage`, and this is read
here from the operation's side. For the classes it is read from the effects: holding and concluding
change a class by the quantity of its line, which is zero for all but the classes that are named by
the lines of the order or by the reservations that are resolved.
-/

namespace BoxOffice

namespace Store

variable {s s' : Store}

/-- The class has a reservation that is not as it was. -/
def Resolves (s s' : Store) (id : Uuid) : Prop :=
  ∃ r ∈ s.reservations.rows, r ∉ s'.reservations.rows ∧ r.ticketClass = id

structure Counts (s s' : Store) (named : Uuid → Prop) : Prop where
  offers : s.SameOffers s'
  others : ∀ id, ¬named id → s'.ticketClass? id = s.ticketClass? id

/-- The named classes are written at most, and those that stay keep their counters. -/
structure Writes (s s' : Store) (named : Uuid → Prop) : Prop where
  others : ∀ id, ¬named id → s'.ticketClass? id = s.ticketClass? id
  counters : ∀ id c c', s.ticketClass? id = some c → s'.ticketClass? id = some c' →
    c'.reserved = c.reserved ∧ c'.sold = c.sold

/-- Every class has as many tickets left as it had, counted without bounds. -/
def SameLeft (s s' : Store) : Prop :=
  ∀ id c c', s.ticketClass? id = some c → s'.ticketClass? id = some c' →
    c'.total.toInt - c'.reserved.toInt - c'.sold.toInt =
      c.total.toInt - c.reserved.toInt - c.sold.toInt

theorem Counts.mono {named named' : Uuid → Prop} (counts : s.Counts s' named)
    (more : ∀ id, named id → named' id) : s.Counts s' named' :=
  ⟨counts.offers, fun id unnamed => counts.others id fun here => unnamed (more id here)⟩

theorem Writes.mono {named named' : Uuid → Prop} (writes : s.Writes s' named)
    (more : ∀ id, named id → named' id) : s.Writes s' named' :=
  ⟨fun id unnamed => writes.others id fun here => unnamed (more id here), writes.counters⟩

theorem Counts.refl (s : Store) (named : Uuid → Prop) : s.Counts s named :=
  ⟨.refl s, fun _ _ => rfl⟩

theorem SameLeft.refl (s : Store) : s.SameLeft s := by
  intro id c c' found found'
  obtain rfl := Option.some.inj (found.symm.trans found')
  rfl

theorem Writes.refl (s : Store) (named : Uuid → Prop) : s.Writes s named where
  others _ _ := rfl
  counters id c c' found found' := by
    obtain rfl := Option.some.inj (found.symm.trans found')
    exact ⟨rfl, rfl⟩

end Store

namespace Operation

/-- How an operation may write the reservation under an identifier: what was stored there before it,
and what is stored there later. -/
def WritesRow (now : Instant) (before later : Option Reservation) : Operation → Prop
  | .reserve order _ _ => before = none ∧ ∃ r, later = some r ∧ r.order = order
  | .confirm order =>
    ∃ r, before = some r ∧ r.order = order ∧
      later = some { r with status := .confirmed, updatedAt := now }
  | .release order =>
    ∃ r, before = some r ∧ r.order = order ∧
      later = some { r with status := .cancelled, updatedAt := now }
  | .expire _ | .sweep _ =>
    ∃ r, before = some r ∧ r.status = .active ∧ r.expiresAt < now ∧
      later = some { r with status := .expired, updatedAt := now }
  | .purge order => ∃ r, before = some r ∧ r.order = order ∧ later = none
  | .create _ | .update _ _ | .delete _ | .get _ | .list _ | .history _ | .available _ | .check _
  | .setClock _ | .setPublisher _ => False

/-- How an operation that gives an answer may write the classes. -/
def WritesClasses (answer : Except Refusal Answer) (s s' : Store) : Operation → Prop
  | .create _ => s.Writes s' fun id =>
      s.ticketClass? id = none ∧
        ∃ c, answer = .ok (.ticketClass (some c)) ∧ s'.ticketClass? id = some c
  | .update id _ => s.Writes s' (· = id) ∧ (s'.ticketClass? id).isSome = (s.ticketClass? id).isSome
  | .delete id =>
    s.Writes s' (· = id) ∧ (s'.ticketClass? id = s.ticketClass? id ∨ s'.ticketClass? id = none)
  | .reserve _ items _ => s.Counts s' fun id => ∃ item ∈ items, item.ticketClass = id
  | .confirm _ => s.Counts s' (s.Resolves s') ∧ s.SameLeft s'
  | .release _ | .expire _ | .sweep _ => s.Counts s' (s.Resolves s')
  | .purge _ | .get _ | .list _ | .history _ | .available _ | .check _ | .setClock _
  | .setPublisher _ => s'.ticketClasses = s.ticketClasses

structure Footprint (now : Instant) (answer : Except Refusal Answer) (s s' : Store)
    (op : Operation) : Prop where
  rows : ∀ id, s'.reservations.find? id = s.reservations.find? id ∨
    op.WritesRow now (s.reservations.find? id) (s'.reservations.find? id)
  classes : op.WritesClasses answer s s'

end Operation

/-! ### Holding and concluding -/

namespace Store

variable {s : Store} {rows : List Reservation} {lines : Lines} {status : Reservation.Status}
  {now : Instant}

theorem ticketClass?_hold (s : Store) (rows : List Reservation) (lines : Lines) (id : Uuid) :
    (s.hold rows lines).ticketClass? id =
      (s.ticketClass? id).map fun c => c.claim (lines.quantity c.id) :=
  @Table.find?_update _ _ s.ticketClasses _ (fun _ => TicketClass.id_claim ..) id

theorem ticketClass?_conclude (s : Store) (rows : List Reservation) (status : Reservation.Status)
    (now : Instant) (id : Uuid) :
    (s.conclude rows status now).ticketClass? id =
      (s.ticketClass? id).map fun c =>
        c.conclude status ((Reservation.lines rows).quantity c.id) :=
  @Table.find?_update _ _ s.ticketClasses _ (fun _ => TicketClass.id_conclude ..) id

theorem offer_conclude (c : TicketClass) (status : Reservation.Status) (quantity : Quantity) :
    (c.conclude status quantity).offer = c.offer := by
  unfold TicketClass.conclude
  split <;> rfl

/-- Classes without a line stay as they are where a quantity of zero changes nothing. -/
theorem map_ticketClass?_of_unnamed {f : TicketClass → Quantity → TicketClass} {id : Uuid}
    (zero : ∀ c, f c 0 = c) (unnamed : ¬∃ line ∈ lines.rows, line.ticketClass = id) :
    (s.ticketClass? id).map (fun c => f c (lines.quantity c.id)) = s.ticketClass? id := by
  have none : lines.quantity id = 0 :=
    Lines.quantity_of_notMem fun line member same => unnamed ⟨line, member, same⟩
  cases found : s.ticketClass? id with
  | none => rfl
  | some c =>
    have sameId : c.id = id := Table.key_of_find? found
    rw [Option.map_some, sameId, none, zero]

theorem counts_hold (s : Store) (rows : List Reservation) (lines : Lines) :
    s.Counts (s.hold rows lines) fun id => ∃ line ∈ lines.rows, line.ticketClass = id where
  offers id := by
    rw [ticketClass?_hold, Option.map_map]
    rfl
  others id unnamed := by
    rw [ticketClass?_hold]
    exact map_ticketClass?_of_unnamed (fun c => c.claim_zero) unnamed

/-- A reservation that got a final status is no longer stored as it was. -/
theorem CanConclude.notMem (can : s.CanConclude rows status) {r : Reservation} (listed : r ∈ rows) :
    r ∉ (s.conclude rows status now).reservations.rows := by
  intro stored
  have active := (Store.mem_active_iff.1 (can.active r listed)).2
  exact (can.mem_active_iff.1 (Store.mem_active_iff.2 ⟨stored, active⟩)).2 listed

theorem CanConclude.counts (can : s.CanConclude rows status) :
    s.Counts (s.conclude rows status now) (s.Resolves (s.conclude rows status now)) where
  offers id := by
    rw [ticketClass?_conclude, Option.map_map]
    exact congrArg (Option.map · _) (funext fun c => offer_conclude c status _)
  others id unresolved := by
    rw [ticketClass?_conclude]
    refine map_ticketClass?_of_unnamed (fun c => c.conclude_zero status) fun named => unresolved ?_
    obtain ⟨r, listed, same⟩ := Reservation.mem_lines_iff.1 named
    exact ⟨r, (Store.mem_active_iff.1 (can.active r listed)).1, can.notMem listed, same⟩

/-- Confirmed tickets were reserved and are sold, and so no more and no fewer are left. -/
theorem CanConclude.sameLeft (can : s.CanConclude rows .confirmed) (balanced : s.Balanced) :
    s.SameLeft (s.conclude rows .confirmed now) := by
  intro id c c' found found'
  rw [ticketClass?_conclude, found] at found'
  obtain rfl := Option.some.inj found'
  have stored := Table.mem_of_find? found
  obtain ⟨exact, nonneg, enough⟩ := can.toInt_quantity balanced stored
  rw [← exact] at nonneg enough
  have counted := balanced.classes c stored
  have less := counted.toInt_reserved_conclude .confirmed nonneg enough
  have more := counted.toInt_sold_conclude .confirmed nonneg enough
  rw [if_pos rfl] at more
  rw [TicketClass.total_conclude, less, more]
  omega

/-! ### Classes that are managed -/

/-- A class is new, or it is written over with the same counters. -/
theorem writes_putTicketClass {c : TicketClass}
    (same : ∀ old, s.ticketClass? c.id = some old → c.reserved = old.reserved ∧ c.sold = old.sold) :
    s.Writes (s.putTicketClass c) (· = c.id) where
  others id unnamed := by rw [ticketClass?_put, if_neg (Ne.symm unnamed)]
  counters id old c' found found' := by
    rw [ticketClass?_put] at found'
    split at found'
    next here =>
      subst here
      obtain rfl := Option.some.inj found'
      exact same old found
    next =>
      obtain rfl := Option.some.inj (found.symm.trans found')
      exact ⟨rfl, rfl⟩

theorem writes_erase (s : Store) (id : Uuid) :
    s.Writes { s with ticketClasses := s.ticketClasses.erase id } (· = id) where
  others other unnamed := by rw [ticketClass?, Table.find?_erase, if_neg unnamed, ticketClass?]
  counters other c c' found found' := by
    rw [ticketClass?, Table.find?_erase] at found'
    split at found'
    · cases found'
    · obtain rfl := Option.some.inj (found.symm.trans found')
      exact ⟨rfl, rfl⟩

end Store

/-! ### Operations -/

namespace Operation

variable {d : Desk} {s s' : Store} {op : Operation} {told : Option Event}

/-- What a passage is from the side of the operation. -/
theorem writesRow_of_passage {now : Instant} {before later : Option Reservation}
    (passage : Reservation.Passage op now before later) :
    later = before ∨ op.WritesRow now before later := by
  cases passage with
  | unchanged => exact .inl rfl
  | held asked =>
    subst asked
    exact .inr ⟨rfl, _, rfl, rfl⟩
  | confirmed active asked inTime =>
    subst asked
    exact .inr ⟨_, rfl, rfl, rfl⟩
  | cancelled active asked =>
    subst asked
    exact .inr ⟨_, rfl, rfl, rfl⟩
  | expired active asked late =>
    rcases asked with rfl | rfl <;> exact .inr ⟨_, rfl, active, late, rfl⟩
  | purged final asked =>
    subst asked
    exact .inr ⟨_, rfl, rfl, rfl⟩

theorem writesClasses_refl (op : Operation) (answer : Except Refusal Answer) (s : Store) :
    op.WritesClasses answer s s := by
  cases op with
  | create => exact .refl s _
  | update => exact ⟨.refl s _, rfl⟩
  | delete => exact ⟨.refl s _, .inl rfl⟩
  | reserve | release | expire | sweep => exact .refl s _
  | confirm => exact ⟨.refl s _, .refl s⟩
  | purge | get | list | history | available | check | setClock | setPublisher => rfl

theorem Outcome.writesClasses (outcome : Outcome d s op s' told) (sound : d.Sound s)
    (noRepeat : (op.run d).2.ids.NoRepeat) : op.WritesClasses (op.run d).1 s s' := by
  have effect := outcome.effect
  generalize (op.run d).1 = answer at effect
  cases effect with
  | refused | looked | sweptNone => exact op.writesClasses_refl _ s
  | purged => rfl
  | @created draft valid drawn free =>
    rw [drawn] at noRepeat
    let c := draft.ticketClass d.ids.draw.1 d.now
    have new : s.ticketClass? c.id = none :=
      Table.find?_eq_none_iff.2 (sound.class_new noRepeat)
    have stored : (s.putTicketClass c).ticketClass? c.id = some c :=
      (s.ticketClass?_put c c.id).trans (if_pos rfl)
    have writes : s.Writes (s.putTicketClass c) (· = c.id) :=
      Store.writes_putTicketClass fun old found => nomatch new.symm.trans found
    exact writes.mono fun id here => here ▸ ⟨new, c, rfl, stored⟩
  | @updated id changes c valid found applied free covered =>
    have sameId : (changes.merge c d.now).id = id := Table.key_of_find? found
    have writes : s.Writes (s.putTicketClass (changes.merge c d.now)) (· = id) := by
      rw [← sameId] at found ⊢
      refine Store.writes_putTicketClass fun old found' => ?_
      obtain rfl := Option.some.inj (found.symm.trans found')
      exact ⟨rfl, rfl⟩
    refine ⟨writes, ?_⟩
    rw [Store.ticketClass?_put, if_pos sameId, found]
    rfl
  | @deleted id unused =>
    have gone : (s.ticketClasses.erase id).find? id = none := by
      rw [Table.find?_erase, if_pos rfl]
    exact ⟨s.writes_erase id, .inr gone⟩
  | @reserved order items lines expiresAt rows accepted ahead drawn rows_eq free can =>
    have named := (Lines.merges_of_ofOrder accepted).named_iff_of_empty
    exact (s.counts_hold rows lines).mono fun id => (named id).1
  | @resolved order how rows rows_eq nonempty clear =>
    have can := canConclude_resolved rows_eq clear
    cases how with
    | confirm => exact ⟨can.counts, can.sameLeft sound.balanced⟩
    | release => exact can.counts
  | @swept op size rows sweeps rows_eq nonempty =>
    have can : s.CanConclude rows .expired := rows_eq ▸ Store.canConclude_firstOverdue ..
    rcases sweeps with rfl | rfl <;> exact can.counts

theorem Outcome.footprint (outcome : Outcome d s op s' told) (sound : d.Sound s)
    (noRepeat : (op.run d).2.ids.NoRepeat) : op.Footprint d.now (op.run d).1 s s' :=
  ⟨fun id => writesRow_of_passage (outcome.passage id), outcome.writesClasses sound noRepeat⟩

end Operation

namespace Desk

variable {d : Desk}

/-- Every operation keeps to its footprint. Orders never set up or delete a class, and they change
no more than the two counters of the classes that they name or whose reservations they resolve;
single reservations they add, mark or remove by kind. Managing a class changes no reservation, no
other class and no counter. -/
theorem operations_keep_to_footprint (reachable : d.Reachable) (op : Operation)
    (noRepeat : (op.run d).2.ids.NoRepeat) :
    ∃ s s', d.store = some s ∧ (op.run d).2.store = some s' ∧
      op.Footprint d.now (op.run d).1 s s' := by
  obtain ⟨s, sound⟩ := reachable.sound
  obtain ⟨s', told, outcome⟩ :=
    Operation.exists_outcome sound.stored sound.balanced sound.rowIssued op noRepeat
  exact ⟨s, s', sound.stored, outcome.stored, outcome.footprint sound noRepeat⟩

/-- A reserved order is confirmed: its class has sold what was reserved, and the other class is as
it was. -/
theorem operations_keep_to_footprint_concert :
    let confirmed := (Operation.confirm Concert.order).run Concert.pending
    Concert.pending.Reachable ∧ confirmed.2.ids.NoRepeat ∧
      (∃ s s', Concert.pending.store = some s ∧ confirmed.2.store = some s' ∧
        (Operation.confirm Concert.order).Footprint Concert.pending.now confirmed.1 s s') ∧
      (Concert.pending.store.map fun s => s.ticketClasses.rows.map fun c => (c.reserved, c.sold)) =
        some [(2, 0), (0, 0)] ∧
      (confirmed.2.store.map fun s => s.ticketClasses.rows.map fun c => (c.reserved, c.sold)) =
        some [(0, 2), (0, 0)] := by
  intro confirmed
  have sameIds : confirmed.2.ids = Concert.pending.ids := Operation.ids_resolve ..
  have noRepeat : confirmed.2.ids.NoRepeat := by
    rw [sameIds]
    exact Concert.noRepeat_pending
  exact ⟨Concert.reachable_pending, noRepeat,
    operations_keep_to_footprint Concert.reachable_pending _ noRepeat, rfl, rfl⟩

end Desk

end BoxOffice
