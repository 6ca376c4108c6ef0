import BoxOffice.Proofs.Runs
import Mathlib.Data.List.Dedup

/-!
Conservation. A class never has more tickets reserved and sold than there are. What it counts as
reserved is held by active reservations, and what it counts as sold was confirmed at some time of
the run, whether or not those reservations have been purged since.

The reservations that were ever confirmed are not in the store; an invariant carries them along.
A confirmed reservation never changes and its identifier is never drawn again, so each is
remembered once.
-/

namespace BoxOffice

open Reservation (tickets)

def Store.confirmed (s : Store) : List Reservation :=
  s.reservations.rows.filter (·.status = .confirmed)

/-- The reservations that were confirmed at some time of a run, each of them once. -/
def Desk.everConfirmed (d : Desk) (ops : List Operation) : List Reservation :=
  ((d.visited ops).flatMap (·.confirmed)).dedup

theorem Store.mem_confirmed_iff {s : Store} {r : Reservation} :
    r ∈ s.confirmed ↔ r ∈ s.reservations.rows ∧ r.status = .confirmed := by
  simp [confirmed]

theorem Desk.mem_everConfirmed_concat {d : Desk} {ops : List Operation} {op : Operation}
    {s : Store} (stored : (d.after (ops ++ [op])).store = some s) {r : Reservation} :
    r ∈ d.everConfirmed (ops ++ [op]) ↔ r ∈ d.everConfirmed ops ∨ r ∈ s.confirmed := by
  simp [everConfirmed, visited_concat stored]

/-! ### Sales are remembered -/

/-- What was sold before a store was reached: the reservations that were ever confirmed. -/
structure Remembered (past : List Reservation) (ids : IdSupply) (s : Store) : Prop where
  nodup : past.Nodup
  confirmed : ∀ p ∈ past, p.status = .confirmed
  nonneg : ∀ p ∈ past, 0 ≤ p.quantity.toInt
  issued : ∀ p ∈ past, ids.Issued p.id ∧ ids.Issued p.ticketClass
  /-- A row with the identifier of a confirmed reservation is that reservation. -/
  kept : ∀ p ∈ past, ∀ r ∈ s.reservations.rows, r.id = p.id → r = p
  covers : ∀ r ∈ s.confirmed, r ∈ past
  sold : ∀ c ∈ s.ticketClasses.rows, c.sold.toInt = tickets past c.id

namespace Remembered

variable {past : List Reservation} {ids next : IdSupply} {s s' : Store}

theorem later (remembered : Remembered past ids s) (continues : ids.Continues next) :
    Remembered past next s :=
  { remembered with
    issued := fun p member =>
      ⟨(remembered.issued p member).1.later continues,
        (remembered.issued p member).2.later continues⟩ }

theorem congr {past' : List Reservation} (remembered : Remembered past ids s)
    (nodup : past'.Nodup) (same : ∀ r, r ∈ past ↔ r ∈ past') : Remembered past' ids s where
  nodup := nodup
  confirmed p member := remembered.confirmed p ((same p).2 member)
  nonneg p member := remembered.nonneg p ((same p).2 member)
  issued p member := remembered.issued p ((same p).2 member)
  kept p member := remembered.kept p ((same p).2 member)
  covers r member := (same r).1 (remembered.covers r member)
  sold c member := by
    rw [remembered.sold c member]
    exact Reservation.tickets_eq_of_mem_iff remembered.nodup nodup same c.id

theorem tickets_new (remembered : Remembered past ids s) {id : Uuid} (new : ¬ids.Issued id) :
    tickets past id = 0 :=
  Reservation.tickets_eq_zero fun p member same => new (same ▸ (remembered.issued p member).2)

theorem quiet (remembered : Remembered past ids s) (quiet : s.Quiet ids next s') :
    Remembered past ids s' where
  nodup := remembered.nodup
  confirmed := remembered.confirmed
  nonneg := remembered.nonneg
  issued := remembered.issued
  kept p member r stored := remembered.kept p member r (quiet.rows r stored)
  covers r member := by
    obtain ⟨stored, confirmed⟩ := Store.mem_confirmed_iff.1 member
    exact remembered.covers r (Store.mem_confirmed_iff.2 ⟨quiet.rows r stored, confirmed⟩)
  sold c member := by
    rcases quiet.classes c member with ⟨new, -, -, none⟩ | ⟨old, inClasses, sameId, -, same⟩
    · rw [none, remembered.tickets_new new]
      rfl
    · rw [← same, ← sameId]
      exact remembered.sold old inClasses

theorem hold {rows : List Reservation} {lines : Lines} (remembered : Remembered past ids s)
    (can : s.CanHold rows lines) (new : ∀ r ∈ rows, ¬ids.Issued r.id) :
    Remembered past ids (s.hold rows lines) where
  nodup := remembered.nodup
  confirmed := remembered.confirmed
  nonneg := remembered.nonneg
  issued := remembered.issued
  kept p member r stored same := by
    rcases can.mem_reservations_iff.1 stored with held | old
    · exact absurd (same ▸ (remembered.issued p member).1) (new r held)
    · exact remembered.kept p member r old same
  covers r member := by
    obtain ⟨stored, confirmed⟩ := Store.mem_confirmed_iff.1 member
    rcases can.mem_reservations_iff.1 stored with held | old
    · have active := can.active r held
      rw [confirmed] at active
      cases active
    · exact remembered.covers r (Store.mem_confirmed_iff.2 ⟨old, confirmed⟩)
  sold c member := by
    obtain ⟨old, inClasses, rfl⟩ := List.mem_map.1 member
    exact remembered.sold old inClasses

def fresh (rows : List Reservation) (status : Reservation.Status) (now : Instant) :
    List Reservation :=
  if status = .confirmed then rows.map (·.marked status now) else []

theorem mem_fresh_iff {rows : List Reservation} {status : Reservation.Status} {now : Instant}
    {x : Reservation} :
    x ∈ fresh rows status now ↔ status = .confirmed ∧ ∃ r ∈ rows, r.marked status now = x := by
  unfold fresh
  split <;> simp [*]

theorem tickets_fresh (rows : List Reservation) (status : Reservation.Status) (now : Instant)
    (id : Uuid) :
    tickets (fresh rows status now) id = if status = .confirmed then tickets rows id else 0 := by
  unfold fresh
  split
  next => exact Reservation.tickets_map (f := fun r => r.marked status now) (fun _ _ => rfl) id
  next => rfl

/-- A reservation that is concluded now was never confirmed. -/
theorem apart {rows : List Reservation} {status : Reservation.Status}
    (remembered : Remembered past ids s) (can : s.CanConclude rows status) :
    ∀ r ∈ rows, ∀ p ∈ past, r.id ≠ p.id := by
  intro r listed p member same
  obtain ⟨stored, active⟩ := Store.mem_active_iff.1 (can.active r listed)
  obtain rfl := remembered.kept p member r stored same
  rw [remembered.confirmed r member] at active
  cases active

theorem nodup_fresh {rows : List Reservation} {status : Reservation.Status} (now : Instant)
    (can : s.CanConclude rows status) : (fresh rows status now).Nodup := by
  unfold fresh
  split
  · exact can.nodup_marked now
  · exact List.nodup_nil

theorem mem_confirmed_of_mem_fresh {rows : List Reservation} {status : Reservation.Status}
    {now : Instant} (can : s.CanConclude rows status) {x : Reservation}
    (member : x ∈ fresh rows status now) : x ∈ (s.conclude rows status now).confirmed := by
  obtain ⟨rfl, r, listed, rfl⟩ := mem_fresh_iff.1 member
  have stored := (Store.mem_active_iff.1 (can.active r listed)).1
  exact Store.mem_confirmed_iff.2 ⟨Store.mem_conclude_iff.2 ⟨r, stored, if_pos listed⟩, rfl⟩

theorem conclude {rows : List Reservation} {status : Reservation.Status} (now : Instant)
    (remembered : Remembered past ids s) (balanced : s.Balanced) (can : s.CanConclude rows status)
    (issued : ∀ r ∈ s.reservations.rows, ids.Issued r.id ∧ ids.Issued r.ticketClass) :
    Remembered (past ++ fresh rows status now) ids (s.conclude rows status now) where
  nodup := by
    refine List.nodup_append.2 ⟨remembered.nodup, nodup_fresh now can, fun p member x new => ?_⟩
    rintro rfl
    obtain ⟨-, r, listed, rfl⟩ := mem_fresh_iff.1 new
    exact remembered.apart can r listed _ member rfl
  confirmed p member := by
    rcases List.mem_append.1 member with old | new
    · exact remembered.confirmed p old
    · obtain ⟨rfl, r, listed, rfl⟩ := mem_fresh_iff.1 new
      rfl
  nonneg p member := by
    rcases List.mem_append.1 member with old | new
    · exact remembered.nonneg p old
    · obtain ⟨-, r, listed, rfl⟩ := mem_fresh_iff.1 new
      exact balanced.active_nonneg r (can.active r listed)
  issued p member := by
    rcases List.mem_append.1 member with old | new
    · exact remembered.issued p old
    · obtain ⟨-, r, listed, rfl⟩ := mem_fresh_iff.1 new
      exact issued r (Store.mem_active_iff.1 (can.active r listed)).1
  kept p member x stored sameId := by
    -- A row that is concluded was active until now, so it can only be one of the fresh ones; any
    -- other row is as before and can only be one that was remembered already.
    obtain ⟨r, inRows, rfl⟩ := Store.mem_conclude_iff.1 stored
    by_cases listed : r ∈ rows
    · rw [if_pos listed] at sameId ⊢
      rcases List.mem_append.1 member with old | new
      · exact absurd sameId (remembered.apart can r listed p old)
      · obtain ⟨-, r', listed', rfl⟩ := mem_fresh_iff.1 new
        have stored' := (Store.mem_active_iff.1 (can.active r' listed')).1
        rw [Table.eq_of_key_eq inRows stored' sameId]
    · rw [if_neg listed] at sameId ⊢
      rcases List.mem_append.1 member with old | new
      · exact remembered.kept p old r inRows sameId
      · obtain ⟨-, r', listed', rfl⟩ := mem_fresh_iff.1 new
        have stored' := (Store.mem_active_iff.1 (can.active r' listed')).1
        exact absurd (Table.eq_of_key_eq inRows stored' sameId ▸ listed') listed
  covers x member := by
    obtain ⟨stored, confirmed⟩ := Store.mem_confirmed_iff.1 member
    obtain ⟨r, inRows, rfl⟩ := Store.mem_conclude_iff.1 stored
    by_cases listed : r ∈ rows
    · rw [if_pos listed] at confirmed ⊢
      exact List.mem_append_right _ (mem_fresh_iff.2 ⟨confirmed, r, listed, rfl⟩)
    · rw [if_neg listed] at confirmed ⊢
      exact List.mem_append_left _
        (remembered.covers r (Store.mem_confirmed_iff.2 ⟨inRows, confirmed⟩))
  sold c member := by
    obtain ⟨old, inClasses, rfl⟩ := List.mem_map.1 member
    obtain ⟨exact, nonneg, enough⟩ := can.toInt_quantity balanced inClasses
    rw [(balanced.classes old inClasses).toInt_sold_conclude status (exact ▸ nonneg)
      (exact ▸ enough), TicketClass.id_conclude, Reservation.tickets_append, tickets_fresh, exact,
      remembered.sold old inClasses]

/-- An operation adds the reservations that it confirms to the remembered ones. -/
theorem outcome {d : Desk} {op : Operation} {told : Option Event}
    (remembered : Remembered past d.ids s) (sound : d.Sound s)
    (outcome : Operation.Outcome d s op s' told) (noRepeat : (op.run d).2.ids.NoRepeat) :
    ∃ fresh, Remembered (past ++ fresh) (op.run d).2.ids s' ∧ ∀ r ∈ fresh, r ∈ s'.confirmed := by
  have continues := Operation.continues_run d op
  have nothing (after : Remembered past d.ids s') :
      ∃ fresh, Remembered (past ++ fresh) (op.run d).2.ids s' ∧ ∀ r ∈ fresh, r ∈ s'.confirmed :=
    ⟨[], by simpa using after.later continues, fun _ member => absurd member List.not_mem_nil⟩
  have change := outcome.change noRepeat
  cases change with
  | quiet quiet => exact nothing (remembered.quiet quiet)
  | held can new tells => exact nothing (remembered.hold can fun r held => (new r held).1)
  | concluded can tells =>
    have after := remembered.conclude d.now sound.balanced can fun r stored => by
      obtain ⟨c, inClasses, same⟩ := sound.balanced.known r stored
      exact ⟨sound.rowIssued r stored, same ▸ sound.classIssued c inClasses⟩
    exact ⟨_, after.later continues, fun x new => mem_confirmed_of_mem_fresh can new⟩

end Remembered

/-! ### Whole runs -/

theorem Desk.exists_remembered (now : Instant) (source : Nat → Uuid) (fails : Bool)
    (ops : List Operation) (noRepeat : ((opened now source fails).after ops).ids.NoRepeat) :
    ∃ s, ((opened now source fails).after ops).Sound s ∧
      Remembered ((opened now source fails).everConfirmed ops)
        ((opened now source fails).after ops).ids s := by
  refine (sound_opened now source fails).induction
    (fun ops d s => Remembered ((opened now source fails).everConfirmed ops) d.ids s) ?_ ?_ ops
    noRepeat
  · have none (p : Reservation) : p ∉ (opened now source fails).everConfirmed [] :=
      List.not_mem_nil
    exact ⟨List.nodup_nil, fun p member => absurd member (none p),
      fun p member => absurd member (none p), fun p member => absurd member (none p),
      fun p member => absurd member (none p), fun _ member => member,
      fun _ member => absurd member List.not_mem_nil⟩
  · intro ops d s op s' told same sound remembered outcome noRepeat
    subst same
    -- The past grows by what this operation confirms, which is just what the new store adds.
    obtain ⟨fresh, after, new⟩ := remembered.outcome sound outcome noRepeat
    have stored : ((opened now source fails).after (ops ++ [op])).store = some s' := by
      rw [after_concat]
      exact outcome.stored
    refine after.congr (List.nodup_dedup _) fun r => ?_
    rw [mem_everConfirmed_concat stored, List.mem_append]
    constructor
    · rintro (old | fresh)
      · exact .inl old
      · exact .inr (new r fresh)
    · rintro (old | confirmed)
      · exact .inl old
      · exact List.mem_append.1 (after.covers r confirmed)

/-- Nothing is oversold, and the counters are exact: after any run of operations, the reserved
tickets of a class are those of its active reservations, and its sold tickets are those of all its
reservations that were ever confirmed, of which some may have been purged. -/
theorem Desk.counters_exact (now : Instant) (source : Nat → Uuid) (fails : Bool)
    (ops : List Operation) (noRepeat : ((opened now source fails).after ops).ids.NoRepeat) :
    ∃ s, ((opened now source fails).after ops).store = some s ∧ ∀ c ∈ s.ticketClasses.rows,
      c.reserved.toInt = tickets s.active c.id ∧
      c.sold.toInt = tickets ((opened now source fails).everConfirmed ops) c.id ∧
      tickets s.confirmed c.id ≤ c.sold.toInt ∧
      c.reserved.toInt + c.sold.toInt ≤ c.total.toInt := by
  obtain ⟨s, sound, remembered⟩ := exists_remembered now source fails ops noRepeat
  refine ⟨s, sound.stored, fun c member => ?_⟩
  have balanced := sound.balanced.classes c member
  have present : tickets s.confirmed c.id ≤ c.sold.toInt := by
    have nodup : s.confirmed.Nodup := s.reservations.nodup_rows.filter _
    rw [remembered.sold c member]
    exact Reservation.tickets_le nodup remembered.nodup remembered.covers remembered.nonneg c.id
  exact ⟨balanced.reserved_eq, remembered.sold c member, present, balanced.covered⟩

theorem Desk.counters_exact_concert :
    (Concert.opened.after Concert.operations).ids.NoRepeat ∧
      ∃ s, (Concert.opened.after Concert.operations).store = some s ∧
        ∀ c ∈ s.ticketClasses.rows,
          c.reserved.toInt = tickets s.active c.id ∧
          c.sold.toInt = tickets (Concert.opened.everConfirmed Concert.operations) c.id ∧
          tickets s.confirmed c.id ≤ c.sold.toInt ∧
          c.reserved.toInt + c.sold.toInt ≤ c.total.toInt :=
  ⟨Concert.noRepeat,
    counters_exact Concert.noon IdSupply.numbered false Concert.operations Concert.noRepeat⟩

example : ((Concert.opened.after Concert.operations).store.map fun s =>
    s.ticketClasses.rows.map fun c => (c.reserved, c.sold)) = some [(0, 2), (1, 0)] := rfl

end BoxOffice
