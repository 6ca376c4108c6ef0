import BoxOffice.Proofs.Effect
import BoxOffice.Proofs.Events
import Mathlib.Data.List.Infix

/-!
Runs of operations. A run starts at a desk that was opened with an empty store, and its source of
identifiers does not repeat itself as far as the run draws from it. After every operation the
store is balanced and all its identifiers are issued ones. `Sound.induction` lets further
invariants be carried along a run; for those about counters, reservations and events each
operation is one of three kinds of `Store.Change`.
-/

namespace BoxOffice

def Desk.opened (now : Instant) (source : Nat → Uuid) (fails : Bool) : Desk :=
  ⟨some .empty, now, ⟨source, 0⟩, ⟨fails, []⟩⟩

def Desk.after (d : Desk) (ops : List Operation) : Desk := (Operation.runAll d ops).2

/-- The stores that a run of operations goes through, from the first to the last. -/
def Desk.visited (d : Desk) (ops : List Operation) : List Store :=
  ops.inits.filterMap fun part => (d.after part).store

def Desk.Reachable (d : Desk) : Prop :=
  ∃ now source fails ops, d = (Desk.opened now source fails).after ops ∧ d.ids.NoRepeat

/-- The desk has a balanced store in which every identifier is an issued one. -/
structure Desk.Sound (d : Desk) (s : Store) : Prop where
  stored : d.store = some s
  balanced : s.Balanced
  classIssued : ∀ c ∈ s.ticketClasses.rows, d.ids.Issued c.id
  rowIssued : ∀ r ∈ s.reservations.rows, d.ids.Issued r.id

/-- Nothing was reserved and nothing resolved: reservations were at most deleted, and a class has
the counters it had, or it is new and has none yet. -/
structure Store.Quiet (ids next : IdSupply) (s s' : Store) : Prop where
  rows : ∀ r ∈ s'.reservations.rows, r ∈ s.reservations.rows
  classes : ∀ c ∈ s'.ticketClasses.rows,
    (¬ids.Issued c.id ∧ next.Issued c.id ∧ c.reserved = 0 ∧ c.sold = 0) ∨
      ∃ old ∈ s.ticketClasses.rows,
        old.id = c.id ∧ old.reserved = c.reserved ∧ old.sold = c.sold

/-- What an operation does to the counters and the reservations of a store, with the event that
tells of it. -/
inductive Store.Change (now : Instant) (ids next : IdSupply) (s : Store) :
    Store → Option Event → Prop
  | quiet {s' : Store} (quiet : s.Quiet ids next s') : Change now ids next s s' none
  | held {rows : List Reservation} {lines : Lines} {e : Event} (can : s.CanHold rows lines)
      (new : ∀ r ∈ rows, ¬ids.Issued r.id ∧ next.Issued r.id)
      (tells : e.Tells rows lines .active) : Change now ids next s (s.hold rows lines) (some e)
  | concluded {rows : List Reservation} {status : Reservation.Status} {e : Event}
      (can : s.CanConclude rows status) (tells : e.Tells rows (Reservation.lines rows) status) :
    Change now ids next s (s.conclude rows status now) (some e)

variable {d : Desk} {s s' : Store} {op : Operation} {told : Option Event}

/-! ### One operation -/

/-- The total of a draft is positive. -/
theorem TicketClass.Draft.total_pos {draft : TicketClass.Draft} (valid : draft.validate = .ok ()) :
    0 < draft.total.toInt := by
  unfold validate at valid
  -- The total is checked after event, name, price and currency.
  iterate 6 obtain ⟨-, -, valid⟩ := bind_eq_ok_iff.1 valid
  obtain ⟨⟨⟩, checked, -⟩ := bind_eq_ok_iff.1 valid
  simp only [checkTotal, refuseIf] at checked
  split at checked
  · cases checked
  next notLow =>
    rw [decide_eq_true_eq, Int32.le_iff_toInt_le, Int32.toInt_zero] at notLow
    omega

/-- What is reserved and sold is below any total that covers it in 32 bits. -/
theorem TicketClass.Balanced.covered_of_le {c : TicketClass} {held : Int} {total : Quantity}
    (balanced : c.Balanced held) (covers : c.reserved + c.sold ≤ total) :
    c.reserved.toInt + c.sold.toInt ≤ total.toInt := by
  obtain ⟨-, reserved, sold, covered⟩ := balanced
  have top := Quantity.toInt_lt c.total
  have exact : (c.reserved + c.sold).toInt = c.reserved.toInt + c.sold.toInt :=
    Quantity.toInt_add_eq (by omega) (by omega)
  rw [Int32.le_iff_toInt_le, exact] at covers
  exact covers

namespace Operation

theorem canConclude_resolved {order : Uuid} {how : Store.Resolution} {rows : List Reservation}
    {now : Instant} (rows_eq : rows = s.reservationsOf order)
    (clear : rows.findSome? (how.obstacle? now) = none) : s.CanConclude rows how.status := by
  subst rows_eq
  exact Store.canConclude_reservationsOf clear

/-- The reservations that an operation makes have identifiers that it drew. -/
theorem issued_reserved {order : Uuid} {lines : List Line} {expiresAt now : Instant}
    {rows : List Reservation} {ids next : IdSupply}
    (rows_eq : rows = Reservation.holds order expiresAt now ids lines)
    (drawn : next = ids.after lines) (noRepeat : next.NoRepeat) :
    ∀ r ∈ rows, ¬ids.Issued r.id ∧ next.Issued r.id := by
  subst rows_eq drawn
  exact Reservation.issued_holds noRepeat

end Operation

theorem Store.Resolution.tells (how : Store.Resolution) (order : Uuid) (rows : List Reservation)
    (now : Instant) :
    (how.told order (rows.map (·.id)) (Reservation.lines rows) now).Tells rows
      (Reservation.lines rows) how.status := by
  cases how <;> exact ⟨rfl, rfl, rfl⟩

/-- Every outcome is quiet, a hold or a conclusion. -/
theorem Operation.Outcome.change (outcome : Operation.Outcome d s op s' told)
    (noRepeat : (op.run d).2.ids.NoRepeat) :
    s.Change d.now d.ids (op.run d).2.ids s' told := by
  have effect := outcome.effect
  generalize (op.run d).1 = answer at effect
  cases effect with
  | refused | looked | sweptNone =>
    exact .quiet ⟨fun _ stored => stored, fun c member => .inr ⟨c, member, rfl, rfl, rfl⟩⟩
  | created valid drawn free =>
    refine .quiet ⟨fun _ stored => stored, fun c member => ?_⟩
    rcases Table.mem_insert_iff.1 member with rfl | ⟨old, -⟩
    · rw [drawn] at noRepeat ⊢
      exact .inl ⟨noRepeat.draw_new, d.ids.issued_draw, rfl, rfl⟩
    · exact .inr ⟨c, old, rfl, rfl, rfl⟩
  | @updated id changes c valid found applied free covered =>
    refine .quiet ⟨fun _ stored => stored, fun x member => ?_⟩
    rcases Table.mem_insert_iff.1 member with rfl | ⟨old, -⟩
    · exact .inr ⟨c, Table.mem_of_find? found, rfl, rfl, rfl⟩
    · exact .inr ⟨x, old, rfl, rfl, rfl⟩
  | deleted unused =>
    exact .quiet ⟨fun _ stored => stored,
      fun c member => .inr ⟨c, (List.mem_filter.1 member).1, rfl, rfl, rfl⟩⟩
  | reserved accepted ahead drawn rows_eq free can =>
    exact .held can (Operation.issued_reserved rows_eq drawn noRepeat) ⟨rfl, rfl, rfl⟩
  | resolved how rows_eq nonempty clear =>
    exact .concluded (Operation.canConclude_resolved rows_eq clear) (how.tells ..)
  | swept sweeps rows_eq nonempty =>
    exact .concluded (rows_eq ▸ Store.canConclude_firstOverdue ..) ⟨rfl, rfl, rfl⟩
  | purged nonempty inactive =>
    exact .quiet ⟨fun _ stored => (List.mem_filter.1 stored).1,
      fun c member => .inr ⟨c, member, rfl, rfl, rfl⟩⟩

namespace Desk

/-- The identifier of a new class is not that of a class before. -/
theorem Sound.class_new (sound : d.Sound s) (noRepeat : d.ids.draw.2.NoRepeat) :
    ∀ c ∈ s.ticketClasses.rows, c.id ≠ d.ids.draw.1 := fun c member same =>
  noRepeat.draw_new (same ▸ sound.classIssued c member)

theorem Sound.balanced_outcome (sound : d.Sound s) (outcome : Operation.Outcome d s op s' told)
    (noRepeat : (op.run d).2.ids.NoRepeat) : s'.Balanced := by
  have effect := outcome.effect
  generalize (op.run d).1 = answer at effect
  cases effect with
  | refused | looked | sweptNone => exact sound.balanced
  | @created draft valid drawn free =>
    rw [drawn] at noRepeat
    refine sound.balanced.putNew (sound.class_new noRepeat) ⟨rfl, Int.le_refl 0, Int.le_refl 0, ?_⟩
    exact Int.le_of_lt (TicketClass.Draft.total_pos valid)
  | @updated id changes c valid found applied free covered =>
    have member := Table.mem_of_find? found
    have sameId : (changes.merge c d.now).id = id := Table.key_of_find? found
    have found : s.ticketClass? (changes.merge c d.now).id = some c := by
      rw [sameId]
      exact found
    exact sound.balanced.putChanged found rfl rfl
      ((sound.balanced.classes c member).covered_of_le covered)
  | deleted unused => exact sound.balanced.eraseClass unused
  | reserved accepted ahead drawn rows_eq free can => exact sound.balanced.hold can
  | resolved how rows_eq nonempty clear =>
    exact sound.balanced.conclude (Operation.canConclude_resolved rows_eq clear)
  | swept sweeps rows_eq nonempty =>
    exact sound.balanced.conclude (rows_eq ▸ Store.canConclude_firstOverdue ..)
  | purged nonempty inactive => exact sound.balanced.purge inactive

theorem Sound.issued_change {next : IdSupply} (sound : d.Sound s)
    (continues : d.ids.Continues next) (change : s.Change d.now d.ids next s' told) :
    (∀ c ∈ s'.ticketClasses.rows, next.Issued c.id) ∧
      ∀ r ∈ s'.reservations.rows, next.Issued r.id := by
  have oldClass : ∀ c ∈ s.ticketClasses.rows, next.Issued c.id := fun c member =>
    (sound.classIssued c member).later continues
  have oldRow : ∀ r ∈ s.reservations.rows, next.Issued r.id := fun r member =>
    (sound.rowIssued r member).later continues
  cases change with
  | quiet quiet =>
    refine ⟨fun c member => ?_, fun r stored => oldRow r (quiet.rows r stored)⟩
    rcases quiet.classes c member with ⟨-, issued, -⟩ | ⟨old, inClasses, same, -⟩
    · exact issued
    · exact same ▸ oldClass old inClasses
  | held can new tells =>
    refine ⟨fun c member => ?_, fun r stored => ?_⟩
    · obtain ⟨old, inClasses, rfl⟩ := List.mem_map.1 member
      exact oldClass old inClasses
    · rcases can.mem_reservations_iff.1 stored with held | old
      · exact (new r held).2
      · exact oldRow r old
  | concluded can tells =>
    refine ⟨fun c member => ?_, fun r stored => ?_⟩
    · obtain ⟨old, inClasses, rfl⟩ := List.mem_map.1 member
      rw [TicketClass.id_conclude]
      exact oldClass old inClasses
    · obtain ⟨old, inRows, rfl⟩ := Store.mem_conclude_iff.1 stored
      split <;> exact oldRow old inRows

theorem Sound.outcome (sound : d.Sound s) (outcome : Operation.Outcome d s op s' told)
    (noRepeat : (op.run d).2.ids.NoRepeat) : (op.run d).2.Sound s' := by
  have change := outcome.change noRepeat
  obtain ⟨classIssued, rowIssued⟩ := sound.issued_change (Operation.continues_run d op) change
  exact ⟨outcome.stored, sound.balanced_outcome outcome noRepeat, classIssued, rowIssued⟩

/-! ### Any number of operations -/

theorem sound_opened (now : Instant) (source : Nat → Uuid) (fails : Bool) :
    (opened now source fails).Sound .empty where
  stored := rfl
  balanced := Store.balanced_empty
  classIssued _ member := absurd member List.not_mem_nil
  rowIssued _ member := absurd member List.not_mem_nil

@[simp] theorem after_nil (d : Desk) : d.after [] = d := rfl

@[simp] theorem after_cons (d : Desk) (op : Operation) (ops : List Operation) :
    d.after (op :: ops) = (op.run d).2.after ops := rfl

theorem after_append (d : Desk) (ops ops' : List Operation) :
    d.after (ops ++ ops') = (d.after ops).after ops' := by
  induction ops generalizing d with
  | nil => rfl
  | cons op ops ih => exact ih (op.run d).2

theorem after_concat (d : Desk) (ops : List Operation) (op : Operation) :
    d.after (ops ++ [op]) = (op.run (d.after ops)).2 := after_append d ops [op]

theorem continues_after (d : Desk) (ops : List Operation) : d.ids.Continues (d.after ops).ids := by
  induction ops generalizing d with
  | nil => exact .refl d.ids
  | cons op ops ih => exact (Operation.continues_run d op).trans (ih (op.run d).2)

theorem visited_concat {ops : List Operation} {op : Operation} {s : Store}
    (stored : (d.after (ops ++ [op])).store = some s) :
    d.visited (ops ++ [op]) = d.visited ops ++ [s] := by
  simp [visited, List.inits_append, stored]

/-- What holds at the start of a run and is carried on by every outcome holds at its end. -/
theorem Sound.induction {first : Desk} {start : Store} (sound : first.Sound start)
    (Inv : List Operation → Desk → Store → Prop) (base : Inv [] first start)
    (step : ∀ ops d s op s' told, first.after ops = d → d.Sound s → Inv ops d s →
      Operation.Outcome d s op s' told → (op.run d).2.ids.NoRepeat →
        Inv (ops ++ [op]) (op.run d).2 s')
    (ops : List Operation) (noRepeat : (first.after ops).ids.NoRepeat) :
    ∃ s, (first.after ops).Sound s ∧ Inv ops (first.after ops) s := by
  induction ops using List.reverseRecOn with
  | nil => exact ⟨start, sound, base⟩
  | append_singleton ops op ih =>
    rw [after_concat] at noRepeat ⊢
    -- The supply before the last operation is a part of the one after it.
    obtain ⟨s, sound, inv⟩ := ih (noRepeat.before (Operation.continues_run _ op))
    obtain ⟨s', told, outcome⟩ :=
      Operation.exists_outcome sound.stored sound.balanced sound.rowIssued op noRepeat
    exact ⟨s', sound.outcome outcome noRepeat,
      step ops _ s op s' told rfl sound inv outcome noRepeat⟩

theorem Reachable.sound (reachable : d.Reachable) : ∃ s, d.Sound s := by
  obtain ⟨now, source, fails, ops, rfl, noRepeat⟩ := reachable
  obtain ⟨s, sound, -⟩ :=
    (sound_opened now source fails).induction (fun _ _ _ => True) trivial
      (fun _ _ _ _ _ _ _ _ _ _ _ => trivial) ops noRepeat
  exact ⟨s, sound⟩

/-- A desk can be led to with any time on its clock. -/
def atTime (d : Desk) (now : Instant) : Desk := { d with now := now }

theorem Reachable.atTime (reachable : d.Reachable) (t : Instant) : (d.atTime t).Reachable := by
  obtain ⟨now, source, fails, ops, rfl, noRepeat⟩ := reachable
  refine ⟨now, source, fails, ops ++ [.setClock t], ?_, noRepeat⟩
  rw [after_concat]
  rfl

end Desk

/-! ### A run -/

namespace Concert

def noon : Instant :=
  ⟨⟨2024, 6, 1, by decide, by decide, by decide, by decide, by decide, by decide⟩, 43200, 0,
    by decide, by decide⟩

def oneOClock : Instant := ⟨noon.date, 46800, 0, by decide, by decide⟩

def draft (name : String) : TicketClass.Draft where
  event := .ofNat 7
  name := name
  price := ⟨false, 500, 2, by decide, by decide⟩
  currency := "EUR"
  total := 5
  saleStart := none
  saleEnd := none

def order : Uuid := .ofNat 9

def operations : List Operation :=
  [.create (draft "Seats"), .create (draft "Standing"),
    .reserve order [⟨IdSupply.numbered 0, 2⟩] oneOClock, .confirm order,
    .reserve order [⟨IdSupply.numbered 1, 1⟩] oneOClock]

def opened : Desk := .opened noon IdSupply.numbered false

theorem noRepeat : (opened.after operations).ids.NoRepeat := by
  have drawn : (opened.after operations).ids = ⟨IdSupply.numbered, 4⟩ := rfl
  rw [drawn]
  unfold IdSupply.NoRepeat
  decide

theorem reachable : (opened.after operations).Reachable :=
  ⟨noon, IdSupply.numbered, false, operations, rfl, noRepeat⟩

def pending : Desk := opened.after (operations.take 3)

theorem noRepeat_pending : pending.ids.NoRepeat := by
  have drawn : pending.ids = ⟨IdSupply.numbered, 3⟩ := rfl
  rw [drawn]
  unfold IdSupply.NoRepeat
  decide

theorem reachable_pending : pending.Reachable :=
  ⟨noon, IdSupply.numbered, false, operations.take 3, rfl, noRepeat_pending⟩

end Concert

end BoxOffice
