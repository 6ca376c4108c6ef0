import BoxOffice.Proofs.Events
import BoxOffice.Proofs.Publishing

/-!
The event log. The events that a desk has published are a ledger of its store: each tells exactly
of what one operation did, each reservation is told of when it is made and at most once more, and
adding all events up gives the counters of every class.
-/

namespace BoxOffice

open Reservation (tickets)

/-- The events that name a reservation, in their order. -/
def Event.about (id : Uuid) (events : List Event) : List Event :=
  events.filter (id ∈ ·.reservations)

namespace Event

variable {id : Uuid} {e : Event} {events : List Event}

theorem about_concat (id : Uuid) (events : List Event) (e : Event) :
    about id (events ++ [e]) = about id events ++ if id ∈ e.reservations then [e] else [] := by
  unfold about
  split <;> simp [*]

theorem about_concat_of_mem (named : id ∈ e.reservations) :
    about id (events ++ [e]) = about id events ++ [e] := by
  rw [about_concat, if_pos named]

theorem about_concat_of_notMem (other : id ∉ e.reservations) :
    about id (events ++ [e]) = about id events := by
  rw [about_concat, if_neg other, List.append_nil]

end Event

structure Logged (events : List Event) (ids : IdSupply) (s : Store) : Prop where
  issued : ∀ e ∈ events, (∀ id ∈ e.reservations, ids.Issued id) ∧
    ∀ line ∈ e.quantities.rows, ids.Issued line.ticketClass
  life : ∀ id, Event.IsLife (Event.about id events)
  /-- Of an active reservation only the beginning was told. -/
  active : ∀ r ∈ s.active, ∃ e, e.isReserved = true ∧ Event.about r.id events = [e]
  /-- Every reservation was told of. -/
  begun : ∀ r ∈ s.reservations.rows, Event.about r.id events ≠ []
  replayed : ∀ c ∈ s.ticketClasses.rows,
    (Ledger.replay events).reserved c.id = c.reserved.toInt ∧
      (Ledger.replay events).sold c.id = c.sold.toInt

namespace Logged

variable {events : List Event} {ids next : IdSupply} {s s' : Store} {e : Event}
  {rows : List Reservation}

theorem later (logged : Logged events ids s) (continues : ids.Continues next) :
    Logged events next s :=
  { logged with
    issued := fun e member =>
      ⟨fun id named => ((logged.issued e member).1 id named).later continues,
        fun line listed => ((logged.issued e member).2 line listed).later continues⟩ }

theorem about_new (logged : Logged events ids s) {id : Uuid} (new : ¬ids.Issued id) :
    Event.about id events = [] :=
  List.filter_eq_nil_iff.2 fun e member named =>
    new ((logged.issued e member).1 id (by simpa using named))

theorem replay_new (logged : Logged events ids s) {id : Uuid} (new : ¬ids.Issued id) :
    (Ledger.replay events).reserved id = 0 ∧ (Ledger.replay events).sold id = 0 :=
  Ledger.replay_eq_zero fun e member => Lines.quantity_of_notMem fun line listed same =>
    new (same ▸ (logged.issued e member).2 line listed)

theorem quiet (logged : Logged events ids s) (quiet : s.Quiet ids next s') :
    Logged events ids s' where
  issued := logged.issued
  life := logged.life
  active r member := by
    obtain ⟨stored, active⟩ := Store.mem_active_iff.1 member
    exact logged.active r (Store.mem_active_iff.2 ⟨quiet.rows r stored, active⟩)
  begun r stored := logged.begun r (quiet.rows r stored)
  replayed c member := by
    rcases quiet.classes c member with ⟨new, -, noneReserved, noneSold⟩ | ⟨old, inClasses, same⟩
    · rw [noneReserved, noneSold]
      exact logged.replay_new new
    · obtain ⟨sameId, sameReserved, sameSold⟩ := same
      rw [← sameId, ← sameReserved, ← sameSold]
      exact logged.replayed old inClasses

theorem hold {lines : Lines} (logged : Logged events ids s) (balanced : s.Balanced)
    (can : s.CanHold rows lines) (tells : e.Tells rows lines .active)
    (issuedRows : ∀ r ∈ s.reservations.rows, ids.Issued r.id)
    (issuedClasses : ∀ c ∈ s.ticketClasses.rows, next.Issued c.id)
    (continues : ids.Continues next)
    (new : ∀ r ∈ rows, ¬ids.Issued r.id ∧ next.Issued r.id) :
    Logged (events ++ [e]) next (s.hold rows lines) := by
  have reserved : e.isReserved = true := Event.isReserved_iff.2 tells.status_eq
  -- The identifiers of new reservations were not issued before, so no event before names them.
  have newId {id : Uuid} (named : id ∈ e.reservations) : ¬ids.Issued id ∧ next.Issued id := by
    rw [tells.reservations_eq] at named
    obtain ⟨r, held, rfl⟩ := List.mem_map.1 named
    exact new r held
  have old {r : Reservation} (stored : r ∈ s.reservations.rows) : r.id ∉ e.reservations :=
    fun named => (newId named).1 (issuedRows r stored)
  have told {r : Reservation} (held : r ∈ rows) : Event.about r.id (events ++ [e]) = [e] := by
    have named : r.id ∈ e.reservations := tells.reservations_eq ▸ List.mem_map_of_mem held
    rw [Event.about_concat_of_mem named, logged.about_new (new r held).1]
    rfl
  constructor
  case issued =>
    intro x member
    rcases List.mem_append.1 member with before | now
    · exact (logged.later continues).issued x before
    · obtain rfl := List.mem_singleton.1 now
      refine ⟨fun id named => (newId named).2, fun line listed => ?_⟩
      rw [tells.quantities_eq, ← can.lines_eq] at listed
      obtain ⟨r, held, rfl⟩ := List.mem_map.1 listed
      obtain ⟨c, inClasses, same, -⟩ := can.room r held
      have issued := issuedClasses c inClasses
      rw [same] at issued
      exact issued
  case life =>
    intro id
    by_cases named : id ∈ e.reservations
    · rw [Event.about_concat_of_mem named, logged.about_new (newId named).1]
      exact .reserved reserved
    · rw [Event.about_concat_of_notMem named]
      exact logged.life id
  case active =>
    intro r member
    rcases can.mem_active_iff.1 member with held | before
    · exact ⟨e, reserved, told held⟩
    · rw [Event.about_concat_of_notMem (old (Store.mem_active_iff.1 before).1)]
      exact logged.active r before
  case begun =>
    intro r member
    rcases can.mem_reservations_iff.1 member with held | before
    · rw [told held]
      exact List.cons_ne_nil e []
    · rw [Event.about_concat_of_notMem (old before)]
      exact logged.begun r before
  case replayed =>
    intro c member
    obtain ⟨old, inClasses, rfl⟩ := List.mem_map.1 member
    obtain ⟨nonneg, room⟩ := can.room_for balanced inClasses
    obtain ⟨reserved, sold⟩ := logged.replayed old inClasses
    rw [Ledger.replay_concat, Ledger.reserved_post, Ledger.sold_post, tells.status_eq,
      tells.quantities_eq, TicketClass.id_claim, reserved, sold,
      (balanced.classes old inClasses).toInt_reserved_claim nonneg room]
    exact ⟨rfl, Int.add_zero _⟩

theorem conclude {status : Reservation.Status} (now : Instant) (logged : Logged events ids s)
    (balanced : s.Balanced) (can : s.CanConclude rows status)
    (tells : e.Tells rows (Reservation.lines rows) status)
    (issuedRows : ∀ r ∈ s.reservations.rows, ids.Issued r.id)
    (issuedClasses : ∀ c ∈ s.ticketClasses.rows, ids.Issued c.id) :
    Logged (events ++ [e]) ids (s.conclude rows status now) := by
  have ends : e.isReserved = false := by
    cases reserved : e.isReserved with
    | false => rfl
    | true => exact absurd (tells.status_eq.symm.trans (Event.isReserved_iff.1 reserved)) can.final
  have stored {r : Reservation} (listed : r ∈ rows) : r ∈ s.reservations.rows :=
    (Store.mem_active_iff.1 (can.active r listed)).1
  have left {r : Reservation} (inRows : r ∈ s.reservations.rows) (notListed : r ∉ rows) :
      r.id ∉ e.reservations := by
    rw [tells.reservations_eq]
    intro named
    obtain ⟨r', listed, same⟩ := List.mem_map.1 named
    exact notListed (Table.eq_of_key_eq (stored listed) inRows same ▸ listed)
  constructor
  case issued =>
    intro x member
    rcases List.mem_append.1 member with before | now
    · exact logged.issued x before
    · obtain rfl := List.mem_singleton.1 now
      constructor
      · intro id named
        rw [tells.reservations_eq] at named
        obtain ⟨r, listed, rfl⟩ := List.mem_map.1 named
        exact issuedRows r (stored listed)
      · intro line inLines
        rw [tells.quantities_eq] at inLines
        obtain ⟨r, listed, same⟩ := Reservation.mem_lines_iff.1 ⟨line, inLines, rfl⟩
        obtain ⟨c, inClasses, same'⟩ := balanced.known r (stored listed)
        exact (same'.trans same) ▸ issuedClasses c inClasses
  case life =>
    intro id
    by_cases named : id ∈ e.reservations
    · rw [Event.about_concat_of_mem named]
      rw [tells.reservations_eq] at named
      obtain ⟨r, listed, rfl⟩ := List.mem_map.1 named
      -- It was active until now, so only its reservation was told, and this event is its end.
      obtain ⟨first, reserved, only⟩ := logged.active r (can.active r listed)
      rw [only]
      exact .ended reserved ends
    · rw [Event.about_concat_of_notMem named]
      exact logged.life id
  case active =>
    intro r member
    obtain ⟨active, notListed⟩ := can.mem_active_iff.1 member
    rw [Event.about_concat_of_notMem (left (Store.mem_active_iff.1 active).1 notListed)]
    exact logged.active r active
  case begun =>
    intro x member
    obtain ⟨r, inRows, rfl⟩ := Store.mem_conclude_iff.1 member
    have sameId : (if r ∈ rows then r.marked status now else r).id = r.id := by
      split <;> rfl
    rw [sameId, Event.about_concat]
    exact List.append_ne_nil_of_left_ne_nil (logged.begun r inRows) _
  case replayed =>
    intro c member
    obtain ⟨old, inClasses, rfl⟩ := List.mem_map.1 member
    obtain ⟨exact, nonneg, enough⟩ := can.toInt_quantity balanced inClasses
    obtain ⟨reserved, sold⟩ := logged.replayed old inClasses
    have counters := balanced.classes old inClasses
    rw [Ledger.replay_concat, Ledger.reserved_post, Ledger.sold_post, tells.status_eq,
      tells.quantities_eq, TicketClass.id_conclude, reserved, sold, if_neg can.final,
      counters.toInt_reserved_conclude status (exact ▸ nonneg) (exact ▸ enough),
      counters.toInt_sold_conclude status (exact ▸ nonneg) (exact ▸ enough)]
    exact ⟨rfl, rfl⟩

/-- What an operation tells is added to the log, and is true of the store after it. -/
theorem outcome {d : Desk} {op : Operation} {told : Option Event}
    (logged : Logged d.publisher.published d.ids s) (sound : d.Sound s)
    (outcome : Operation.Outcome d s op s' told) (noRepeat : (op.run d).2.ids.NoRepeat) :
    Logged (op.run d).2.publisher.published (op.run d).2.ids s' := by
  have continues := Operation.continues_run d op
  have change := outcome.change noRepeat
  rw [outcome.published]
  cases change with
  | quiet quiet =>
    rw [Option.toList_none, List.append_nil]
    exact (logged.quiet quiet).later continues
  | held can new tells =>
    exact logged.hold sound.balanced can tells sound.rowIssued
      (fun c member => (sound.classIssued c member).later continues) continues new
  | concluded can tells =>
    exact (logged.conclude d.now sound.balanced can tells sound.rowIssued
      sound.classIssued).later continues

end Logged

/-! ### Whole runs -/

/-- The operation has something to tell: it reserved, confirmed or released an order, or it expired
at least one reservation. -/
def Operation.tells : Operation → Except Refusal Answer → Bool
  | .reserve _ _ _, .ok _ | .confirm _, .ok _ | .release _, .ok _ => true
  | .expire _, .ok (.count n) | .sweep _, .ok (.count n) => n ≠ 0
  | _, _ => false

/-- The event is of the kind of an operation, for the same order and at the same time, and names
the reservations of its answer. -/
def Event.TellsOf (e : Event) (now : Instant) : Operation → Except Refusal Answer → Prop
  | .reserve order _ expiresAt, .ok (.reservations rows) =>
    ∃ lines, e = .reserved order (rows.map (·.id)) lines expiresAt
  | .confirm order, .ok (.reservations rows) =>
    ∃ lines, e = .confirmed order (rows.map (·.id)) lines now
  | .release order, .ok (.reservations rows) =>
    ∃ lines, e = .released order (rows.map (·.id)) lines now
  | .expire _, .ok (.count n) | .sweep _, .ok (.count n) =>
    ∃ ids lines, e = .expired ids lines now ∧ ids.length = n
  | _, _ => False

/-- An operation with a balanced store tells of what it did, if it has something to tell. -/
theorem Operation.Effect.told_cases {d : Desk} {next : IdSupply} {s s' : Store} {op : Operation}
    {answer : Except Refusal Answer} {told : Option Event}
    (effect : Operation.Effect d next s op answer s' told) (balanced : s.Balanced) :
    (op.tells answer = false ∧ told = none) ∨
      ∃ e, op.tells answer = true ∧ told = some e ∧ e.TellsOf d.now op answer ∧ e.Describes s' := by
  cases effect with
  | refused refusal => exact .inl ⟨by cases op <;> rfl, rfl⟩
  | looked answer looks =>
    refine .inl ⟨?_, rfl⟩
    cases op with
    | get | list | history | available | check | setClock | setPublisher => rfl
    | create | update | delete | reserve | confirm | release | purge | expire | sweep => cases looks
  | created | updated | deleted | purged => exact .inl ⟨rfl, rfl⟩
  | sweptNone sweeps empty => exact .inl ⟨by rcases sweeps with rfl | rfl <;> rfl, rfl⟩
  | @reserved order items lines expiresAt rows accepted ahead drawn rows_eq free can =>
    have tells : (Event.reserved order (rows.map (·.id)) lines expiresAt).Tells rows lines
        .active := ⟨rfl, rfl, rfl⟩
    exact .inr ⟨_, rfl, rfl, ⟨lines, rfl⟩, tells.describes_hold can⟩
  | @resolved order how rows rows_eq nonempty clear =>
    have can := Operation.canConclude_resolved rows_eq clear
    have describes := (how.tells order rows d.now).describes_conclude d.now can balanced
    have ids := Reservation.map_id_marked rows how.status d.now
    refine .inr ⟨_, by cases how <;> rfl, rfl, ?_, describes⟩
    cases how with
    | confirm => exact ⟨Reservation.lines rows, by rw [ids]; rfl⟩
    | release => exact ⟨Reservation.lines rows, by rw [ids]; rfl⟩
  | @swept op size rows sweeps rows_eq nonempty =>
    have can : s.CanConclude rows .expired := rows_eq ▸ Store.canConclude_firstOverdue ..
    have tells : (Event.expired (rows.map (·.id)) (Reservation.lines rows) d.now).Tells rows
        (Reservation.lines rows) .expired := ⟨rfl, rfl, rfl⟩
    have describes := tells.describes_conclude d.now can balanced
    have some : decide (rows.length ≠ 0) = true :=
      decide_eq_true fun zero => nonempty (List.length_eq_zero_iff.1 zero)
    have length : (rows.map (·.id)).length = rows.length := List.length_map ..
    rcases sweeps with rfl | rfl
    · exact .inr ⟨_, some, rfl, ⟨_, _, rfl, length⟩, describes⟩
    · exact .inr ⟨_, some, rfl, ⟨_, _, rfl, length⟩, describes⟩

namespace Desk

/-- An operation publishes one true event if it has something to tell, and else none. -/
structure Told (d : Desk) (op : Operation) : Prop where
  said : op.tells (op.run d).1 = true →
    ∃ e s, (op.run d).2.publisher.published = d.publisher.published ++ [e] ∧
      e.TellsOf d.now op (op.run d).1 ∧ (op.run d).2.store = some s ∧ e.Describes s
  silent : op.tells (op.run d).1 = false →
    (op.run d).2.publisher.published = d.publisher.published

structure FaithfulLog (d : Desk) (ops : List Operation) : Prop where
  told : ∀ before op rest, ops = before ++ op :: rest → (d.after before).Told op
  /-- With `begun`: every reservation there ever was is named by one event of a reservation and at
  most one event after it. -/
  life : ∀ id, Event.IsLife (Event.about id (d.after ops).publisher.published)
  begun : ∀ s ∈ d.visited ops, ∀ r ∈ s.reservations.rows,
    Event.about r.id (d.after ops).publisher.published ≠ []
  replayed : ∀ s, (d.after ops).store = some s → ∀ c ∈ s.ticketClasses.rows,
    (Ledger.replay (d.after ops).publisher.published).reserved c.id = c.reserved.toInt ∧
      (Ledger.replay (d.after ops).publisher.published).sold c.id = c.sold.toInt

variable {d : Desk} {s s' : Store} {op : Operation}

theorem Sound.told {event : Option Event} (sound : d.Sound s)
    (outcome : Operation.Outcome d s op s' event) : d.Told op := by
  have published := outcome.published
  rcases outcome.effect.told_cases sound.balanced with
    ⟨nothing, rfl⟩ | ⟨e, something, rfl, tellsOf, describes⟩
  · refine ⟨fun tells => ?_, fun _ => ?_⟩
    · rw [nothing] at tells
      cases tells
    · rw [published, Option.toList_none, List.append_nil]
  · refine ⟨fun _ => ⟨e, s', published, tellsOf, outcome.stored, describes⟩, fun silent => ?_⟩
    rw [something] at silent
    cases silent

theorem exists_logged (now : Instant) (source : Nat → Uuid) (fails : Bool) (ops : List Operation)
    (noRepeat : ((opened now source fails).after ops).ids.NoRepeat) :
    ∃ s, ((opened now source fails).after ops).Sound s ∧
      Logged ((opened now source fails).after ops).publisher.published
        ((opened now source fails).after ops).ids s ∧
      ∀ s ∈ (opened now source fails).visited ops, ∀ r ∈ s.reservations.rows,
        Event.about r.id ((opened now source fails).after ops).publisher.published ≠ [] := by
  refine (sound_opened now source fails).induction
    (fun ops d s => Logged d.publisher.published d.ids s ∧
      ∀ s ∈ (opened now source fails).visited ops, ∀ r ∈ s.reservations.rows,
        Event.about r.id d.publisher.published ≠ []) ?_ ?_ ops noRepeat
  · refine ⟨⟨fun e member => absurd member List.not_mem_nil, fun id => .nothing,
      fun r member => absurd member List.not_mem_nil,
      fun r member => absurd member List.not_mem_nil,
      fun c member => absurd member List.not_mem_nil⟩, fun s member r stored => ?_⟩
    obtain rfl : s = .empty := by simpa [visited, opened] using member
    exact absurd stored List.not_mem_nil
  · intro ops d s op s' told same sound inv outcome noRepeat
    obtain ⟨logged, begun⟩ := inv
    have after := logged.outcome sound outcome noRepeat
    refine ⟨after, fun x member r stored => ?_⟩
    have stored' : ((opened now source fails).after (ops ++ [op])).store = some s' := by
      rw [after_concat, same]
      exact outcome.stored
    rw [visited_concat stored', List.mem_append, List.mem_singleton] at member
    rcases member with before | rfl
    · have told := begun x before r stored
      rw [outcome.published, Event.about, List.filter_append]
      exact List.append_ne_nil_of_left_ne_nil told _
    · exact after.begun r stored

/-- In a run from an empty store, events tell of each committed reservation, confirmation and
release and of each sweep that expired something, once and exactly, and of nothing else; they add
up to the counters of the store. Failures of the publisher make no difference. -/
theorem log_faithful (now : Instant) (source : Nat → Uuid) (fails : Bool) (ops : List Operation)
    (noRepeat : ((opened now source fails).after ops).ids.NoRepeat) :
    (∃ s, ((opened now source fails).after ops).store = some s) ∧
      (opened now source fails).FaithfulLog ops ∧
      ∀ fails' ops', Operation.services ops' = Operation.services ops →
        ((opened now source fails').after ops').store =
            ((opened now source fails).after ops).store ∧
          ((opened now source fails').after ops').publisher.published =
            ((opened now source fails).after ops).publisher.published ∧
          (opened now source fails').answers ops' = (opened now source fails).answers ops := by
  obtain ⟨s, sound, logged, begun⟩ := exists_logged now source fails ops noRepeat
  refine ⟨⟨s, sound.stored⟩, ⟨fun before op rest parts => ?_, logged.life, begun, ?_⟩, ?_⟩
  · subst parts
    rw [after_append, after_cons] at noRepeat
    have noRepeatOp := noRepeat.before (continues_after _ rest)
    have noRepeatBefore := noRepeatOp.before (Operation.continues_run _ op)
    obtain ⟨s, sound, -⟩ := exists_logged now source fails before noRepeatBefore
    obtain ⟨s', told, outcome⟩ :=
      Operation.exists_outcome sound.stored sound.balanced sound.rowIssued op noRepeatOp
    exact sound.told outcome
  · intro x stored
    obtain rfl : x = s := Option.some.inj (stored.symm.trans sound.stored)
    exact logged.replayed
  · intro fails' ops' same
    obtain ⟨desk, answers⟩ := run_indifferent now source same fails fails'
    have store := congrArg Desk.store desk
    have published := congrArg (fun d => d.publisher.published) desk
    exact ⟨store, published, answers⟩

theorem log_faithful_concert :
    (Concert.opened.after Concert.operations).ids.NoRepeat ∧
      Concert.opened.FaithfulLog Concert.operations := by
  obtain ⟨-, faithful, -⟩ := log_faithful Concert.noon IdSupply.numbered false
    Concert.operations Concert.noRepeat
  exact ⟨Concert.noRepeat, faithful⟩

example : ((Concert.opened.after Concert.operations).publisher.published.map fun e => e.name) =
    ["reservation.reserved", "reservation.confirmed", "reservation.reserved"] := rfl

end Desk

end BoxOffice
