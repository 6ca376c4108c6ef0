import BoxOffice.Proofs.Capacity
import BoxOffice.Proofs.Checking

/-!
Sums of a desk. Reservations of many orders are added up in 32 bits, class by class and without
looking, whenever an order is resolved or overdue reservations are expired. That this cannot leave
the range is nothing that one order or one sweep could see to: the active reservations of a class
hold as many tickets as it counts as reserved, which its total covers, and the quantities on the
way are not negative. So it rests on the balance of the whole store, which every run keeps.

All other sums are of counters, and for these it is enough that they are bounded.
-/

namespace BoxOffice

open Checked (run_bind run_lift some_bind)
open Reservation (tickets)

/-! ### Lines of reservations -/

theorem Lines.add?_eq {lines : Lines} {line : Line}
    (low : -2 ^ 31 ≤ (lines.quantity line.ticketClass).toInt + line.quantity.toInt)
    (high : (lines.quantity line.ticketClass).toInt + line.quantity.toInt < 2 ^ 31) :
    lines.add? line = some (lines.add line) := by
  simp [add?, Quantity.plus?_eq low high, add]

namespace Store

variable {s : Store} {rows : List Reservation} {status : Reservation.Status} {now : Instant}

/-- Reservations are added up exactly when the tickets of each class are in range. As no quantity
is negative, the sums on the way are in range with the last. -/
theorem Checked.lines_eq (nonneg : ∀ r ∈ rows, 0 ≤ r.quantity.toInt)
    (fits : ∀ id, tickets rows id < 2 ^ 31) : lines rows = some (Reservation.lines rows) := by
  induction rows using List.reverseRecOn with
  | nil => rfl
  | append_singleton rows r ih =>
    have nonnegRows : ∀ x ∈ rows, 0 ≤ x.quantity.toInt := fun x member =>
      nonneg x (List.mem_append_left _ member)
    have nonnegLast : 0 ≤ r.line.quantity.toInt := nonneg r (by simp)
    have sum_eq (id : Uuid) : tickets (rows ++ [r]) id =
        tickets rows id + if r.ticketClass = id then r.line.quantity.toInt else 0 := by
      rw [Reservation.tickets_append, Reservation.tickets_cons, Reservation.tickets_nil,
        Int.add_zero]
      rfl
    have fitsRows : ∀ id, tickets rows id < 2 ^ 31 := fun id => by
      have whole := fits id
      rw [sum_eq] at whole
      split at whole <;> omega
    have before : ((Reservation.lines rows).quantity r.line.ticketClass).toInt =
        tickets rows r.ticketClass :=
      Reservation.toInt_quantity_lines nonnegRows (fitsRows r.ticketClass)
    have start := Reservation.tickets_nonneg nonnegRows r.ticketClass
    have whole := fits r.ticketClass
    rw [sum_eq, if_pos rfl] at whole
    have added : (Reservation.lines rows).add? r.line =
        some ((Reservation.lines rows).add r.line) :=
      Lines.add?_eq (by omega) (by omega)
    have sum := ih nonnegRows fitsRows
    unfold lines at sum ⊢
    rw [List.foldlM_append, sum, Reservation.lines_append_singleton]
    simp [added]

/-- Reservations that can be concluded hold no more tickets than their class has reserved. -/
theorem CanConclude.tickets_lt (can : s.CanConclude rows status) (balanced : s.Balanced)
    (id : Uuid) : tickets rows id < 2 ^ 31 := by
  rw [← can.toInt_quantity_lines balanced id]
  exact Quantity.toInt_lt _

theorem CanConclude.lines_eq (can : s.CanConclude rows status) (balanced : s.Balanced) :
    Checked.lines rows = some (Reservation.lines rows) :=
  Checked.lines_eq (fun r listed => balanced.active_nonneg r (can.active r listed))
    (can.tickets_lt balanced)

theorem CanConclude.line_nonneg (can : s.CanConclude rows status) (balanced : s.Balanced) :
    ∀ line ∈ (Reservation.lines rows).rows, 0 ≤ line.quantity.toInt := by
  intro line member
  rw [← Lines.quantity_of_mem member, can.toInt_quantity_lines balanced]
  exact Reservation.tickets_nonneg
    (fun r listed => balanced.active_nonneg r (can.active r listed)) _

/-! ### Bookings -/

variable {line : Line} {lines : List Line}

theorem Checked.resolveLine_eq (bounded : s.Bounded) (how : Resolution)
    (nonneg : 0 ≤ line.quantity.toInt) :
    (resolveLine how s line).run = some (Store.resolveLine how s line) := by
  cases how with
  | confirm => exact settle_eq bounded nonneg
  | release => exact giveBack_eq bounded nonneg

theorem Bounded.resolveLine (bounded : s.Bounded) {how : Resolution}
    (nonneg : 0 ≤ line.quantity.toInt) {s' : Store}
    (resolved : Store.resolveLine how s line = .ok s') : s'.Bounded := by
  cases how with
  | confirm =>
    obtain ⟨c, found, enough, rfl⟩ := settle?_eq_some (settle?_of_settle resolved)
    exact bounded.put ((bounded.found found).settle nonneg enough)
  | release =>
    obtain ⟨c, found, rfl⟩ := giveBack?_eq_some (giveBack?_of_giveBack resolved)
    exact bounded.put ((bounded.found found).giveBack nonneg)

theorem Checked.foldlM_resolveLine_eq (bounded : s.Bounded) (how : Resolution)
    (nonneg : ∀ line ∈ lines, 0 ≤ line.quantity.toInt) :
    (lines.foldlM (resolveLine how) s).run = some (lines.foldlM (Store.resolveLine how) s) := by
  induction lines generalizing s with
  | nil => rfl
  | cons line lines ih =>
    have first := nonneg line List.mem_cons_self
    rw [List.foldlM_cons, List.foldlM_cons]
    exact run_bind (resolveLine_eq bounded how first) fun s' resolved =>
      ih (bounded.resolveLine first resolved) fun other member =>
        nonneg other (List.mem_cons_of_mem _ member)

theorem Checked.resolve_eq (balanced : s.Balanced) (how : Resolution) (order : Uuid)
    (now : Instant) : (resolve s how order now).run = some (s.resolve how order now) := by
  unfold resolve Store.resolve
  by_cases empty : (s.reservationsOf order).isEmpty
  · simp only [empty, if_true]
    rfl
  · simp only [empty]
    cases clear : (s.reservationsOf order).findSome? (how.obstacle? now) with
    | some obstacle => rfl
    | none =>
      have can := canConclude_reservationsOf clear
      simp only [can.lines_eq balanced, some_bind]
      exact run_bind (foldlM_resolveLine_eq balanced.bounded how (can.line_nonneg balanced))
        fun _ _ => run_bind (run_lift _) fun _ _ => rfl

theorem Checked.expire_eq (balanced : s.Balanced) (limit : Int) (now : Instant) :
    (expire s limit now).run = some (s.expire limit now) := by
  have can := canConclude_firstOverdue (s := s) now limit
  unfold expire Store.expire
  simp only [can.lines_eq balanced, some_bind]
  exact run_bind (foldlM_resolveLine_eq balanced.bounded .release (can.line_nonneg balanced))
    fun _ _ => run_bind (run_lift _) fun _ _ => rfl

theorem Checked.claimLine_eq (bounded : s.Bounded) (nonneg : 0 ≤ line.quantity.toInt)
    (now : Instant) : (claimLine s line now).run = some (s.claimLine line now) := by
  refine run_bind (run_lift _) fun c looked => ?_
  have found := ticketClass_eq_ok_iff.1 looked
  cases c.isOnSale now with
  | true => exact claim_eq bounded (bounded.found found) nonneg
  | false => rfl

theorem Bounded.claimLine (bounded : s.Bounded) (nonneg : 0 ≤ line.quantity.toInt) {s' : Store}
    (claimed : s.claimLine line now = .ok s') : s'.Bounded := by
  obtain ⟨c, looked, claimed⟩ := bind_eq_ok_iff.1 claimed
  split at claimed
  · obtain ⟨c', found, room, rfl⟩ := claim?_eq_some (claim?_of_claim claimed)
    exact bounded.put ((bounded.found found).claim nonneg room)
  · cases claimed

theorem Checked.reserveLines_eq (bounded : s.Bounded) (order : Uuid) (expiresAt now : Instant)
    (nonneg : ∀ line ∈ lines, 0 ≤ line.quantity.toInt) (ids : IdSupply) :
    reserveLines order expiresAt now lines s ids =
      some (Store.reserveLines order expiresAt now lines s ids) := by
  induction lines generalizing s ids with
  | nil => rfl
  | cons line lines ih =>
    have first := nonneg line List.mem_cons_self
    have nonnegRest : ∀ other ∈ lines, 0 ≤ other.quantity.toInt := fun other member =>
      nonneg other (List.mem_cons_of_mem _ member)
    rw [reserveLines, Store.reserveLines, claimLine_eq bounded first]
    cases claimed : s.claimLine line now with
    | error refusal => rfl
    | ok s' =>
      have bounded' := bounded.claimLine first claimed
      simp only [Option.bind_eq_bind, Option.bind_some]
      cases inserted :
          s'.insertReservation (.hold ids.draw.1 order line expiresAt now) with
      | error refusal => rfl
      | ok s'' =>
        obtain ⟨-, -, rfl⟩ := insertReservation_eq_ok inserted
        have bounded'' : (s'.putReservation (.hold ids.draw.1 order line expiresAt now)).Bounded :=
          bounded'
        simp only [ih bounded'' nonnegRest ids.draw.2, Option.bind_some]
        rcases Store.reserveLines order expiresAt now lines
          (s'.putReservation (.hold ids.draw.1 order line expiresAt now)) ids.draw.2 with
          ⟨_ | _, _⟩ <;> rfl

theorem Checked.allM_eq (wanted : Lines) {found : List TicketClass}
    (bounded : ∀ c ∈ found, c.Bounded) :
    (found.allM fun c => do return decide (wanted.quantity c.id ≤ (← c.available?))) =
      some (found.all fun c => wanted.quantity c.id ≤ c.available) := by
  induction found with
  | nil => rfl
  | cons c found ih =>
    have rest := ih fun other member => bounded other (List.mem_cons_of_mem _ member)
    rw [List.allM, (bounded c List.mem_cons_self).available?_eq, List.all_cons]
    cases enough : decide (wanted.quantity c.id ≤ c.available) with
    | true => simpa [enough] using rest
    | false => simp [enough]

theorem Checked.canServe_eq (bounded : s.Bounded) (wanted : Lines) :
    canServe s wanted = some (s.canServe wanted) := by
  have found : ∀ c ∈ s.list ⟨none, wanted.rows.map (·.ticketClass)⟩, c.Bounded :=
    fun c listed => bounded c (mem_list_iff.1 listed).1
  have all := allM_eq wanted found
  unfold canServe Store.canServe
  by_cases whole :
      (s.list ⟨none, wanted.rows.map (·.ticketClass)⟩).length = wanted.rows.length
  · simpa [whole] using all
  · simp [whole]

end Store

/-! ### Services -/

namespace TicketClass.Changes.Checked

variable {c : TicketClass}

theorem checkTaken_eq (bounded : c.Bounded) (total : Option Quantity) :
    (checkTaken c total).run = some (Changes.checkTaken c total) := by
  cases total with
  | none => rfl
  | some total =>
    simp only [checkTaken, Changes.checkTaken, bounded.taken?_eq, some_bind]
    split <;> rfl

theorem apply_eq (bounded : c.Bounded) (changes : Changes) (now : Instant) :
    (apply changes c now).run = some (changes.apply c now) :=
  run_bind (checkTaken_eq bounded changes.total) fun _ _ => run_bind (run_lift _) fun _ _ => rfl

end TicketClass.Changes.Checked

namespace Desk.Checked

variable {α : Type} {d : Desk} {s : Store}

theorem look_eq (stored : d.store = some s) {answer : Store → Except Refusal α}
    {checked : Store → Checked α} (exact : (checked s).run = some (answer s)) :
    look d checked = some (d.look answer) := by
  simp only [look, Desk.look, Desk.reach, stored]
  show (do return (← (checked s).run, d)) = some (answer s, d)
  rw [exact]
  rfl

theorem change_eq (stored : d.store = some s) {answer : Store → Except Refusal (α × Store)}
    {checked : Store → Checked (α × Store)} (exact : (checked s).run = some (answer s)) :
    change d checked = some (d.change answer) := by
  have run : (liftM d.reach >>= checked : Checked (α × Store)).run = some (answer s) := by
    rw [Desk.reach, stored]
    exact exact
  rw [Operation.change_eq stored, change, run]
  cases answer s <;> rfl

theorem update_eq (sound : d.Sound s) (id : Uuid) (changes : TicketClass.Changes) :
    update d id changes = some (d.update id changes) := by
  have bounded := sound.balanced.bounded
  unfold update Desk.update
  cases changes.validate with
  | error reason => rfl
  | ok =>
    refine change_eq sound.stored ?_
    refine run_bind (run_lift _) fun c looked => ?_
    have counters := bounded.found (Store.ticketClass_eq_ok_iff.1 looked)
    refine run_bind (TicketClass.Changes.Checked.apply_eq counters changes d.now) fun c _ => ?_
    exact run_bind (Store.Checked.updateTicketClass_eq bounded c) fun _ _ => rfl

theorem reserve_eq (sound : d.Sound s) (order : Uuid) (items : List Line) (expiresAt : Instant) :
    reserve d order items expiresAt = some (d.reserve order items expiresAt) := by
  unfold reserve Desk.reserve
  cases accepted : Lines.ofOrder order items with
  | error reason => rfl
  | ok lines =>
    have nonneg : ∀ line ∈ lines.rows, 0 ≤ line.quantity.toInt := fun line member =>
      Int.le_of_lt (Lines.positive_of_ofOrder accepted line member)
    by_cases late : expiresAt ≤ d.now
    · simp only [late, if_true]
      rfl
    · have lines_eq := Store.Checked.reserveLines_eq sound.balanced.bounded order expiresAt d.now
        nonneg d.ids
      simp only [late, if_false, sound.stored, lines_eq, Store.reserve, Option.bind_eq_bind,
        Option.bind_some]
      rcases Store.reserveLines order expiresAt d.now lines.rows s d.ids with ⟨_ | _, _⟩ <;> rfl

theorem resolve_eq (sound : d.Sound s) (how : Store.Resolution) (order : Uuid)
    (told : List Uuid → Lines → Event) :
    resolve d how order told = some (d.resolve how order told) := by
  have changed : change d (fun s => Store.Checked.resolve s how order d.now) =
      some (d.change fun s => s.resolve how order d.now) :=
    change_eq sound.stored (Store.Checked.resolve_eq sound.balanced how order d.now)
  rw [resolve, changed, Desk.resolve]
  rcases d.change fun s => s.resolve how order d.now with ⟨_ | _, _⟩ <;> rfl

theorem expire_eq (sound : d.Sound s) (size : Int) : expire d size = some (d.expire size) := by
  have changed : change d (fun s => Store.Checked.expire s (sweepLimit size) d.now) =
      some (d.change fun s => s.expire (sweepLimit size) d.now) :=
    change_eq sound.stored (Store.Checked.expire_eq sound.balanced (sweepLimit size) d.now)
  rw [expire, changed, Desk.expire]
  rcases d.change fun s => s.expire (sweepLimit size) d.now with ⟨_ | ⟨_ | _, _⟩, _⟩ <;> rfl

theorem sweep_eq (sound : d.Sound s) (size : Int) : sweep d size = some (d.sweep size) := by
  rw [sweep, expire_eq sound, Desk.sweep]
  rcases d.expire size with ⟨_ | _, _⟩ <;> rfl

theorem available_eq (sound : d.Sound s) (id : Uuid) :
    available d id = some (d.available id) := by
  refine look_eq sound.stored ?_
  cases looked : s.ticketClass id with
  | error refusal => rfl
  | ok c =>
    have counters := sound.balanced.bounded.found (Store.ticketClass_eq_ok_iff.1 looked)
    show (liftM c.available? : Checked Quantity).run = _
    rw [counters.available?_eq]
    rfl

theorem check_eq (sound : d.Sound s) (items : List Line) :
    check d items = some (d.check items) := by
  unfold check Desk.check
  rcases Wanted.ofItems .empty items with _ | ⟨lines⟩ | _
  · rfl
  · by_cases empty : lines.rows.isEmpty
    · simp only [empty, if_true]
      rfl
    · simp only [empty]
      refine look_eq sound.stored ?_
      rw [Store.Checked.canServe_eq sound.balanced.bounded]
      rfl
  · rfl

end Desk.Checked

/-! ### Operations -/

/-- With every sum checked an operation comes to the same result. -/
theorem Operation.checkedRun_eq {d : Desk} {s : Store} (sound : d.Sound s) (op : Operation) :
    op.checkedRun d = some (op.run d) := by
  cases op with
  | update id changes => simp [checkedRun, Desk.Checked.update_eq sound, run]
  | reserve order items expiresAt => simp [checkedRun, Desk.Checked.reserve_eq sound, run]
  | confirm order => simp [checkedRun, Desk.Checked.resolve_eq sound, run, Desk.confirm]
  | release order => simp [checkedRun, Desk.Checked.resolve_eq sound, run, Desk.release]
  | expire size => simp [checkedRun, Desk.Checked.expire_eq sound, run]
  | sweep size => simp [checkedRun, Desk.Checked.sweep_eq sound, run]
  | available id => simp [checkedRun, Desk.Checked.available_eq sound, run]
  | check items => simp [checkedRun, Desk.Checked.check_eq sound, run]
  | create | get | list | delete | history | purge | setClock | setPublisher => rfl

namespace Desk

variable {d : Desk}

/-- In no state that a run can lead to does a sum leave the range of quantities, whatever is asked
next; where the lines of a request add up to too much, this is an answer. What is available of a
class is never below zero nor above its total. -/
theorem sums_in_range (reachable : d.Reachable) :
    (∀ op : Operation, op.checkedRun d = some (op.run d)) ∧
      ∃ s, d.store = some s ∧ ∀ id,
        match s.ticketClass? id with
        | some c => ∃ q, (d.available id).1 = .ok q ∧
            q.toInt = c.total.toInt - c.reserved.toInt - c.sold.toInt ∧
            0 ≤ q.toInt ∧ q.toInt ≤ c.total.toInt
        | none => (d.available id).1 = .error (.noTicketClass id) := by
  obtain ⟨s, sound⟩ := reachable.sound
  refine ⟨Operation.checkedRun_eq sound, s, sound.stored, fun id => ?_⟩
  have looked : (d.available id).1 = (s.ticketClass id).map (·.available) := by
    rw [available, look, reach, sound.stored]
    rfl
  rw [looked, Store.ticketClass]
  cases found : s.ticketClass? id with
  | none => rfl
  | some c =>
    have counters := sound.balanced.bounded.found found
    have exact := counters.balanced.toInt_available
    obtain ⟨reserved, sold, covered⟩ := counters
    exact ⟨c.available, rfl, exact, by omega, by omega⟩

/-- Two of five seats are reserved, so three are left. When the order is confirmed, checked sums
move the two to those that are sold. -/
theorem sums_in_range_concert :
    Concert.pending.Reachable ∧
      Operation.checkedRun Concert.pending (.confirm Concert.order) =
        some (Operation.run Concert.pending (.confirm Concert.order)) ∧
      ((Operation.run Concert.pending (.confirm Concert.order)).2.store.map fun s =>
        s.ticketClasses.rows.map fun c => (c.reserved, c.sold)) = some [(0, 2), (0, 0)] ∧
      (Concert.pending.available (IdSupply.numbered 0)).1 = .ok 3 :=
  ⟨Concert.reachable_pending, (sums_in_range Concert.reachable_pending).1 _, rfl, rfl⟩

end Desk

end BoxOffice
