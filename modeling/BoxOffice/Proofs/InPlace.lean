import BoxOffice.Proofs.Effect
import BoxOffice.Work

/-!
Working in place. A booking that writes to the store step by step is followed along its steps:
`Work.Does` says that the work agrees with a function that computes the store after it, up to a
refusal, where what was put by when the work began is still there. What a whole booking does is
put together from what its steps do, and its transaction does the rest, so every service comes to
the same whether it is carried out in place or not.
-/

namespace BoxOffice

/-! ### Work in place -/

/-- What a booking has come to: its result with the store after it, or a refusal, and the supply
of identifiers that is left. -/
abbrev Reached (α : Type) := Except Refusal (α × Store) × IdSupply

/-- What a booking computes from a store and a supply of identifiers. -/
abbrev Computation (α : Type) := Store → IdSupply → Reached α

namespace Computation

variable {α β : Type}

def ofStore (answer : Store → Except Refusal (α × Store)) : Computation α := fun s ids =>
  (answer s, ids)

def ofChange (step : Store → Except Refusal Store) : Computation Unit :=
  ofStore fun s => (step s).map fun s => ((), s)

/-- Goes on from a result; a refusal is final. -/
def resume (next : α → Computation β) : Reached α → Reached β
  | (.ok (a, s), ids) => next a s ids
  | (.error refusal, ids) => (.error refusal, ids)

def andThen (first : Computation α) (next : α → Computation β) : Computation β := fun s ids =>
  resume next (first s ids)

theorem ofStore_andThen (first : Store → Except Refusal (α × Store))
    (next : α → Store → Except Refusal (β × Store)) :
    (ofStore first).andThen (fun a => ofStore (next a)) =
      ofStore fun s => first s >>= fun reached => next reached.1 reached.2 := by
  funext s ids
  show resume (fun a s ids => (next a s, ids)) (first s, ids) =
    (first s >>= fun reached => next reached.1 reached.2, ids)
  cases first s <;> rfl

theorem ofChange_andThen (first : Store → Except Refusal Store)
    (next : Store → Except Refusal (β × Store)) :
    (ofChange first).andThen (fun _ => ofStore next) = ofStore fun s => first s >>= next := by
  rw [ofChange, ofStore_andThen]
  congr
  funext s
  cases first s <;> rfl

@[simp] theorem andThen_done (computed : Computation α) :
    computed.andThen (fun a => ofStore fun s => .ok (a, s)) = computed := by
  funext s ids
  unfold andThen
  rcases computed s ids with ⟨_ | _, _⟩ <;> rfl

end Computation

namespace Work

variable {α β : Type} {before after : Option Store}

/-- Work that was begun with a store put by has come to what was computed: the result and the
identifiers are the same, and so is the store, unless there was a refusal. In that case the store
may have been written to, and what was put by is still there. -/
inductive Agrees (before after : Option Store) :
    Except Refusal α × Workplace → Reached α → Prop
  | done (a : α) (s : Store) (ids : IdSupply) :
    Agrees before after (.ok a, ⟨⟨s, after⟩, ids⟩) (.ok (a, s), ids)
  | refused (refusal : Refusal) (s : Store) (ids : IdSupply) :
    Agrees before after (.error refusal, ⟨⟨s, before⟩, ids⟩) (.error refusal, ids)

/-- The work does in place what is computed, and has committed it or not when it is done. What was
put by stays where it is until then. -/
def Does (committed : Bool) (work : Work α) (computed : Computation α) : Prop :=
  ∀ s before ids, Agrees before (if committed then none else before)
    (work ⟨⟨s, before⟩, ids⟩) (computed s ids)

variable {committed : Bool}

theorem Does.congr {work : Work α} {f g : Store → Except Refusal (α × Store)}
    (does : Does committed work (.ofStore f)) (same : ∀ s, f s = g s) :
    Does committed work (.ofStore g) :=
  funext same ▸ does

/-! What a piece of work does follows from what its steps do. -/

theorem Agrees.bind {work : Work α} {next : α → Work β} {w : Workplace} {reached : Reached α}
    {rest : α → Computation β} (first : Agrees before before (work w) reached)
    (second : ∀ a s ids, Agrees before after (next a ⟨⟨s, before⟩, ids⟩) (rest a s ids)) :
    Agrees before after ((work >>= next) w) (Computation.resume rest reached) := by
  have run_eq : (work >>= next) w =
      match work w with
      | (.ok a, w) => next a w
      | (.error refusal, w) => (.error refusal, w) := by
    show (ExceptT.bindCont next (work w).1) (work w).2 = _
    rcases work w with ⟨_ | _, _⟩ <;> rfl
  rw [run_eq]
  generalize work w = ended at first
  cases first with
  | done a s ids => exact second a s ids
  | refused refusal s ids => exact .refused refusal s ids

theorem Does.bind {work : Work α} {next : α → Work β} {computed : Computation α}
    {rest : α → Computation β} (first : Does false work computed)
    (second : ∀ a, Does committed (next a) (rest a)) :
    Does committed (work >>= next) (computed.andThen rest) := fun s before ids =>
  (first s before ids).bind fun a s ids => second a s before ids

theorem does_pure (a : α) : Does false (pure a) (.ofStore fun s => .ok (a, s)) :=
  fun s _ ids => .done a s ids

/-- The last step of work that is kept. -/
theorem does_commit (a : α) : Does true (do commit; return a) (.ofStore fun s => .ok (a, s)) :=
  fun s _ ids => .done a s ids

theorem does_draw : Does false draw fun s ids => (.ok (ids.draw.1, s), ids.draw.2) :=
  fun s _ ids => .done ids.draw.1 s ids.draw.2

theorem does_write (step : Store → Except Refusal (α × Store)) :
    Does false (write step) (.ofStore step) := by
  intro s before ids
  unfold write Computation.ofStore
  cases step s with
  | ok written => exact .done written.1 written.2 ids
  | error refusal => exact .refused refusal s ids

theorem does_change (step : Store → Except Refusal Store) :
    Does false (change step) (.ofChange step) :=
  does_write _

theorem does_throw (refusal : Refusal) :
    Does committed (throw refusal : Work α) (.ofStore fun _ => .error refusal) :=
  fun s _ ids => .refused refusal s ids

section Steps

variable {next : α → Work β} {rest : α → Store → Except Refusal (β × Store)}

theorem Does.write (step : Store → Except Refusal (α × Store))
    (afterwards : ∀ a, Does committed (next a) (.ofStore (rest a))) :
    Does committed (Work.write step >>= next)
      (.ofStore fun s => step s >>= fun written => rest written.1 written.2) := by
  rw [← Computation.ofStore_andThen]
  exact (does_write step).bind afterwards

theorem Does.look (answer : Store → Except Refusal α)
    (afterwards : ∀ a, Does committed (next a) (.ofStore (rest a))) :
    Does committed (Work.look answer >>= next)
      (.ofStore fun s => answer s >>= fun a => rest a s) := by
  have does := Does.write (fun s => (answer s).map fun a => (a, s)) afterwards
  have same : (fun s => ((answer s).map fun a => (a, s)) >>= fun written =>
      rest written.1 written.2) = fun s => answer s >>= fun a => rest a s := by
    funext s
    cases answer s <;> rfl
  rwa [same] at does

theorem Does.lift (result : Except Refusal α)
    (afterwards : ∀ a, Does committed (next a) (.ofStore (rest a))) :
    Does committed ((result : Work α) >>= next)
      (.ofStore fun s => result >>= fun a => rest a s) := by
  cases result with
  | ok a => exact afterwards a
  | error refusal => exact does_throw refusal

theorem Does.andThen {work : Work Unit} {next : Unit → Work β}
    {step : Store → Except Refusal Store} {rest : Store → Except Refusal (β × Store)}
    (first : Does false work (.ofChange step))
    (afterwards : Does committed (next ()) (.ofStore rest)) :
    Does committed (work >>= next) (.ofStore fun s => step s >>= rest) := by
  rw [← Computation.ofChange_andThen]
  exact first.bind fun _ => afterwards

theorem Does.unless {condition : Prop} [Decidable condition] {refusal : Refusal}
    {next : PUnit → Work β} {rest : Store → Except Refusal (β × Store)}
    (afterwards : Does committed (next ⟨⟩) (.ofStore rest)) :
    Does committed (if condition then throw refusal >>= next else next ⟨⟩)
      (.ofStore fun s => if condition then .error refusal else rest s) := by
  split
  · exact does_throw refusal
  · exact afterwards

end Steps

/-- Carried out in a transaction, the work leads to what is computed. After a refusal the store is
as it was before. -/
def Settles (work : Work α) (computed : Computation α) : Prop :=
  ∀ s ids, work.carryOut s ids =
    match computed s ids with
    | (.ok (a, s'), ids') => (.ok a, s', ids')
    | (.error refusal, ids') => (.error refusal, s, ids')

theorem Does.settles {work : Work α} {computed : Computation α} (does : Does true work computed) :
    work.Settles computed := by
  intro s ids
  have agrees := does s (some s) ids
  unfold carryOut Store.Transaction.start
  generalize work ⟨⟨s, some s⟩, ids⟩ = ended at agrees
  generalize computed s ids = reached at agrees
  cases agrees <;> rfl

/-! ### Bookings -/

theorem does_update (id : Uuid) (changes : TicketClass.Changes) (now : Instant) :
    Does true (update id changes now) (.ofStore fun s => do
      let c ← s.ticketClass id
      let c ← changes.apply c now
      let s ← s.updateTicketClass c
      return (c, s)) :=
  .look _ fun _ => .lift _ fun c => .andThen (does_change _) (does_commit c)

theorem does_claimLine (line : Line) (now : Instant) :
    Does false (claimLine line now) (.ofChange fun s => s.claimLine line now) := by
  have does : Does false (claimLine line now) _ :=
    .look _ fun c => .unless (does_change fun s => s.claim c line.quantity)
  refine does.congr fun s => ?_
  show (s.ticketClass line.ticketClass >>= fun c => _) =
    Except.map _ (s.ticketClass line.ticketClass >>= fun c => _)
  cases s.ticketClass line.ticketClass with
  | error refusal => rfl
  | ok c =>
    show (if (!c.isOnSale now) = true then _ else _) =
      Except.map _ (if c.isOnSale now = true then _ else _)
    cases c.isOnSale now <;> rfl

theorem does_reserveLines (order : Uuid) (expiresAt now : Instant) (lines : List Line) :
    Does false (reserveLines order expiresAt now lines)
      (Store.reserveLines order expiresAt now lines) := by
  induction lines with
  | nil => exact does_pure []
  | cons line lines ih =>
    have does : Does false (reserveLines order expiresAt now (line :: lines)) _ :=
      (does_claimLine line now).bind fun _ => does_draw.bind fun id =>
        (does_change (·.insertReservation (.hold id order line expiresAt now))).bind fun _ =>
          ih.bind fun rows => does_pure (.hold id order line expiresAt now :: rows)
    convert does using 1
    funext s ids
    simp only [Store.reserveLines, Computation.andThen, Computation.ofChange, Computation.ofStore]
    cases s.claimLine line now with
    | error refusal => rfl
    | ok s =>
      simp only [Except.map, Computation.resume, Computation.andThen, Computation.ofStore]
      cases s.insertReservation (.hold ids.draw.1 order line expiresAt now) with
      | error refusal => rfl
      | ok s =>
        simp only
        rcases Store.reserveLines order expiresAt now lines s ids.draw.2 with ⟨_ | _, _⟩ <;> rfl

theorem does_reserve (order : Uuid) (lines : Lines) (expiresAt now : Instant) :
    Does true (reserve order lines expiresAt now) fun s ids =>
      s.reserve ids order lines expiresAt now := by
  have does : Does true (reserve order lines expiresAt now) _ :=
    (does_reserveLines order expiresAt now lines.rows).bind does_commit
  rwa [Computation.andThen_done] at does

theorem does_changeAll (step : Store → Line → Except Refusal Store) (lines : List Line) :
    Does false (changeAll step lines) (.ofChange fun s => lines.foldlM step s) := by
  induction lines with
  | nil => exact does_pure ()
  | cons line lines ih =>
    have does : Does false (changeAll step (line :: lines)) _ :=
      .andThen (does_change (step · line)) ih
    refine does.congr fun s => ?_
    show (step s line >>= fun s => Except.map _ (lines.foldlM step s)) =
      Except.map _ (step s line >>= fun s => lines.foldlM step s)
    cases step s line <;> rfl

theorem does_transition (ids : List Uuid) (status : Reservation.Status) (now : Instant) :
    Does false (transition ids status now) (.ofChange fun s => s.transition ids status now) := by
  have checks (marked : Nat) : Does false
      (if marked ≠ ids.length then throw (.obstructed (.markedTooFew ids.length status marked))
        else pure ())
      (.ofStore fun s =>
        if marked ≠ ids.length then .error (.obstructed (.markedTooFew ids.length status marked))
        else .ok ((), s)) := by
    split
    · exact does_throw _
    · exact does_pure _
  have does : Does false (transition ids status now) _ :=
    .write (fun s => .ok (s.mark status now ids)) checks
  refine does.congr fun s => ?_
  unfold Store.transition
  show (if _ then _ else _) = Except.map _ (if _ then _ else _)
  by_cases whole : (s.mark status now ids).1 = ids.length
  · rw [if_neg (not_not.2 whole), if_pos whole]
    rfl
  · rw [if_pos whole, if_neg whole]
    rfl

theorem does_resolve (how : Store.Resolution) (order : Uuid) (now : Instant) :
    Does true (resolve how order now) (.ofStore fun s => s.resolve how order now) := by
  have does : Does true (resolve how order now) (.ofStore fun s => do
      let rows ← .ok (s.reservationsOf order)
      if rows.isEmpty then .error (.noOrder order)
      else
        (rows.findSome? (how.obstacle? now)).elim (do
          let s ← (Reservation.lines rows).rows.foldlM (Store.resolveLine how) s
          let s ← s.transition (rows.map (·.id)) how.status now
          return ((rows.map (·.marked how.status now), Reservation.lines rows), s))
          fun obstacle => .error (.obstructed obstacle)) := by
    refine .look _ fun rows => .unless ?_
    cases rows.findSome? (how.obstacle? now) with
    | some obstacle => exact does_throw _
    | none =>
      exact .andThen (does_changeAll _ _) (.andThen (does_transition _ _ _) (does_commit _))
  refine does.congr fun s => ?_
  show (if _ then _ else _) = Store.resolve s how order now
  unfold Store.resolve
  by_cases empty : (s.reservationsOf order).isEmpty
  · simp only [empty, if_true]
    rfl
  · simp only [if_neg empty]
    cases (s.reservationsOf order).findSome? (how.obstacle? now) <;> rfl

theorem does_purge (order : Uuid) :
    Does true (purge order) (.ofStore fun s => s.purge order) := by
  have does : Does true (purge order) (.ofStore fun s => do
      let rows ← .ok (s.reservationsOf order)
      if rows.isEmpty then .error (.noOrder order)
      else
        (rows.find? (·.isActive)).elim (.ok (s.deleteReservationsOf order))
          fun r => .error (.obstructed (.stillActive r.id))) := by
    refine .look _ fun rows => .unless ?_
    cases rows.find? (·.isActive) with
    | some r => exact does_throw _
    | none => exact .write _ does_commit
  refine does.congr fun s => ?_
  show (if _ then _ else _) = Store.purge s order
  simp only [Store.purge]
  cases (s.reservationsOf order).find? (·.isActive) <;> rfl

theorem does_expireRows (rows : List Reservation) (now : Instant) :
    Does true (expireRows rows now) (.ofStore fun s => do
      let s ← (Reservation.lines rows).rows.foldlM Store.giveBackLine s
      let s ← s.transition (rows.map (·.id)) .expired now
      return ((rows.map (·.id), Reservation.lines rows), s)) :=
  .andThen (does_changeAll _ _) (.andThen (does_transition _ _ _) (does_commit _))

theorem expire_of_empty {s : Store} {limit : Int} {now : Instant}
    (empty : s.firstOverdue now limit = []) : s.expire limit now = .ok (([], .empty), s) := by
  unfold Store.expire
  rw [empty]
  rfl

/-- A sweep that finds nothing is not committed, but it has not written anything either. -/
theorem settles_expire (limit : Int) (now : Instant) :
    (expire limit now).Settles (.ofStore fun s => s.expire limit now) := by
  intro s ids
  by_cases empty : s.firstOverdue now limit = []
  · have run_eq : (expire limit now) ⟨.start s, ids⟩ = (.ok ([], .empty), ⟨.start s, ids⟩) := by
      show (if (s.firstOverdue now limit).isEmpty = true then _ else _ : Work _) _ = _
      rw [empty]
      rfl
    simp only [carryOut, run_eq, Computation.ofStore, expire_of_empty empty]
    rfl
  · have run_eq : (expire limit now) ⟨.start s, ids⟩ =
        expireRows (s.firstOverdue now limit) now ⟨.start s, ids⟩ := by
      show (if (s.firstOverdue now limit).isEmpty = true then _ else _ : Work _) _ = _
      rw [if_neg (by simpa using empty)]
      rfl
    have settles := (does_expireRows (s.firstOverdue now limit) now).settles s ids
    simp only [carryOut] at settles ⊢
    rw [run_eq]
    exact settles

end Work

/-! ### Services -/

namespace Desk

variable {α : Type}

/-- What a service tells after it changed the store. -/
theorem carryOut_eq {work : Work α} {answer : Store → Except Refusal (α × Store)}
    (settles : work.Settles (.ofStore answer)) (d : Desk) (told : α → Option Event) :
    d.carryOut work told =
      match d.change answer with
      | (.error refusal, d) => (.error refusal, d)
      | (.ok a, d) => (.ok a, ((told a).map d.publish).getD d) := by
  obtain ⟨store, now, ids, publisher⟩ := d
  cases store with
  | none => rfl
  | some s =>
    have stored : (Desk.mk (some s) now ids publisher).store = some s := rfl
    simp only [carryOut, settles s ids, Computation.ofStore, Operation.change_eq stored]
    cases answer s <;> rfl

theorem carryOut_silent {work : Work α} {answer : Store → Except Refusal (α × Store)}
    (settles : work.Settles (.ofStore answer)) (d : Desk) :
    (d.carryOut work fun _ => none) = d.change answer := by
  rw [carryOut_eq settles]
  rcases d.change answer with ⟨_ | _, _⟩ <;> rfl

theorem enactUpdate_eq (d : Desk) (id : Uuid) (changes : TicketClass.Changes) :
    d.enactUpdate id changes = d.update id changes := by
  unfold enactUpdate update
  cases changes.validate with
  | error reason => rfl
  | ok => exact carryOut_silent (Work.does_update id changes d.now).settles d

theorem enactPurge_eq (d : Desk) (order : Uuid) : d.enactPurge order = d.purge order :=
  carryOut_silent (Work.does_purge order).settles d

theorem enactReserve_eq (d : Desk) (order : Uuid) (items : List Line) (expiresAt : Instant) :
    d.enactReserve order items expiresAt = d.reserve order items expiresAt := by
  obtain ⟨store, now, ids, publisher⟩ := d
  unfold enactReserve reserve
  cases Lines.ofOrder order items with
  | error reason => rfl
  | ok lines =>
    cases store with
    | none => rfl
    | some s =>
      have settles := (Work.does_reserve order lines expiresAt now).settles s ids
      simp only [carryOut, settles]
      rcases s.reserve ids order lines expiresAt now with ⟨_ | _, _⟩ <;> rfl

theorem now_change (d : Desk) (answer : Store → Except Refusal (α × Store)) :
    (d.change answer).2.now = d.now := by
  unfold change
  split <;> rfl

/-- A sweep counts what it expires. -/
theorem expire_eq_enactExpire (d : Desk) (size : Int) :
    d.expire size = ((d.enactExpire size).1.map (·.1.length), (d.enactExpire size).2) := by
  unfold enactExpire expire
  rw [carryOut_eq (Work.settles_expire (sweepLimit size) d.now)]
  have sameTime := now_change d fun s => s.expire (sweepLimit size) d.now
  rcases result : d.change fun s => s.expire (sweepLimit size) d.now with
    ⟨_ | ⟨_ | ⟨id, ids⟩, lines⟩, d'⟩
  · rfl
  · rfl
  · rw [result] at sameTime
    show (_, d'.publish (.expired (id :: ids) lines d'.now)) =
      (_, d'.publish (.expired (id :: ids) lines d.now))
    rw [show d'.now = d.now from sameTime]
    rfl

end Desk

namespace Operation

theorem enact_resolve (d : Desk) (how : Store.Resolution) (order : Uuid)
    (told : List Uuid → Lines → Event) :
    answered (fun resolved => .reservations resolved.1) (d.enactResolve how order told) =
      answered .reservations (d.resolve how order told) := by
  unfold Desk.enactResolve Desk.resolve
  rw [Desk.carryOut_eq (Work.does_resolve how order d.now).settles]
  rcases d.change fun s => s.resolve how order d.now with ⟨_ | _, _⟩ <;> rfl

/-- Carried out in place or not, an operation comes to the same. -/
theorem enact_eq_run (d : Desk) (op : Operation) : op.enact d = op.run d := by
  cases op with
  | update id changes => exact congrArg (answered _) (d.enactUpdate_eq id changes)
  | reserve order items expiresAt =>
    exact congrArg (answered _) (d.enactReserve_eq order items expiresAt)
  | purge order => exact congrArg (answered _) (d.enactPurge_eq order)
  | confirm order => exact enact_resolve ..
  | release order => exact enact_resolve ..
  | expire size =>
    show _ = answered .count (d.expire size)
    rw [d.expire_eq_enactExpire]
    show answered _ (d.enactExpire size) = _
    rcases d.enactExpire size with ⟨_ | _, _⟩ <;> rfl
  | sweep size =>
    have run_eq : Operation.run d (.sweep size) =
        (.ok (.count (d.sweep size).1), (d.sweep size).2) := rfl
    rw [run_eq, Desk.sweep, d.expire_eq_enactExpire, enact]
    rcases d.enactExpire size with ⟨_ | _, _⟩ <;> rfl
  | create | get | list | delete | history | available | check | setClock | setPublisher => rfl

end Operation

end BoxOffice
