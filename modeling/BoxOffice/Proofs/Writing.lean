import BoxOffice.Store.Capacity

/-!
Writing to a store. For each of the steps that can be refused: what it found in the store when it
was not refused, and what it has put there.
-/

namespace BoxOffice

theorem bind_eq_ok_iff {ε α β : Type} {x : Except ε α} {f : α → Except ε β} {b : β} :
    x >>= f = .ok b ↔ ∃ a, x = .ok a ∧ f a = .ok b := by
  cases x <;> simp [bind, Except.bind]

/-- The class with all the fields of another that can be written; the counters cannot. -/
def TicketClass.rewritten (current c : TicketClass) : TicketClass :=
  { current with
    name := c.name
    price := c.price
    currency := c.currency
    total := c.total
    saleStart := c.saleStart
    saleEnd := c.saleEnd
    status := c.status
    updatedAt := c.updatedAt }

namespace Store

variable {s s' : Store} {id : Uuid} {quantity : Quantity} {c seen : TicketClass}

theorem claim?_eq_some (claimed : s.claim? id quantity = some s') :
    ∃ c, s.ticketClass? id = some c ∧ quantity ≤ c.available ∧
      s' = s.putTicketClass (c.claim quantity) := by
  unfold claim? at claimed
  split at claimed
  next c found =>
    split at claimed
    next room => exact ⟨c, found, room, (Option.some.inj claimed).symm⟩
    next => cases claimed
  next => cases claimed

theorem giveBack?_eq_some (givenBack : s.giveBack? id quantity = some s') :
    ∃ c, s.ticketClass? id = some c ∧ s' = s.putTicketClass (c.giveBack quantity) := by
  obtain ⟨c, found, rfl⟩ := Option.map_eq_some_iff.1 givenBack
  exact ⟨c, found, rfl⟩

theorem settle?_eq_some (settled : s.settle? id quantity = some s') :
    ∃ c, s.ticketClass? id = some c ∧ quantity ≤ c.reserved ∧
      s' = s.putTicketClass (c.settle quantity) := by
  unfold settle? at settled
  split at settled
  next c found =>
    split at settled
    next enough => exact ⟨c, found, enough, (Option.some.inj settled).symm⟩
    next => cases settled
  next => cases settled

theorem claim?_of_claim (claimed : s.claim seen quantity = .ok s') :
    s.claim? seen.id quantity = some s' := by
  simp only [claim] at claimed
  split at claimed
  · cases claimed
  · split at claimed
    next found => rw [found, Except.ok.inj claimed]
    next => cases claimed

theorem giveBack?_of_giveBack (givenBack : s.giveBack id quantity = .ok s') :
    s.giveBack? id quantity = some s' := by
  unfold giveBack at givenBack
  split at givenBack
  next found => rw [found, Except.ok.inj givenBack]
  next => cases givenBack

theorem settle?_of_settle (settled : s.settle id quantity = .ok s') :
    s.settle? id quantity = some s' := by
  unfold settle at settled
  split at settled
  next found => rw [found, Except.ok.inj settled]
  next => cases settled

theorem ticketClass_eq_ok_iff : s.ticketClass id = .ok c ↔ s.ticketClass? id = some c := by
  unfold ticketClass
  cases s.ticketClass? id <;> simp

theorem updateTicketClass_eq_ok (written : s.updateTicketClass c = .ok s') :
    s.nameIsTaken c = false ∧ ∃ current, s.ticketClass? c.id = some current ∧
      current.reserved + current.sold ≤ c.total ∧ s' = s.putTicketClass (current.rewritten c) := by
  unfold updateTicketClass at written
  obtain ⟨⟨⟩, free, written⟩ := bind_eq_ok_iff.1 written
  obtain ⟨current, found, written⟩ := bind_eq_ok_iff.1 written
  split at written
  · cases written
  next covers =>
    refine ⟨?_, current, ticketClass_eq_ok_iff.1 found, Int32.not_lt.1 covers,
      (Except.ok.inj written).symm⟩
    simpa [checkName] using free

theorem insertReservation_eq_ok {r : Reservation} (inserted : s.insertReservation r = .ok s') :
    (∃ c, s.ticketClass? r.ticketClass = some c) ∧ s.hasLine r.order r.ticketClass = false ∧
      s' = s.putReservation r := by
  obtain ⟨c, found, inserted⟩ := bind_eq_ok_iff.1 inserted
  split at inserted
  · cases inserted
  next single =>
    exact ⟨⟨c, ticketClass_eq_ok_iff.1 found⟩, by simpa using single,
      (Except.ok.inj inserted).symm⟩

end Store

end BoxOffice
