import BoxOffice.Proofs.Rules
import BoxOffice.Proofs.Runs

/-!
What is offered. A class that is stored keeps to the rules for drafts, and it is in the form in
which drafts are stored: submitted once more, it would be accepted and stored as it is.

Drafts are checked as a whole, and changes field by field, with the window left for later. Each
accepted field is proper by itself, and the window is checked where it is known, so changes keep a
proper class proper. Orders change the counters of a class and nothing else, whatever identifiers
the supply gives; none of this needs the counters to be right.
-/

namespace BoxOffice

namespace TicketClass

/-- The fields of a class keep to the rules, and are in the form in which they are stored. -/
structure Proper (c : TicketClass) : Prop where
  event : c.event ≠ .nil
  name : ProperName c.name
  price : ProperPrice c.price
  currency : ProperCode c.currency
  total : 1 ≤ c.total.toInt
  window : ProperWindow c.saleStart c.saleEnd

def redraft (c : TicketClass) : Draft where
  event := c.event
  name := c.name
  price := c.price
  currency := c.currency
  total := c.total
  saleStart := c.saleStart
  saleEnd := c.saleEnd

/-- A class submitted once more is accepted, and stored with the same fields. -/
structure Renews (c : TicketClass) : Prop where
  valid : c.redraft.validate = .ok ()
  same : ∀ id now, c.redraft.ticketClass id now =
    { c with id := id, reserved := 0, sold := 0, status := .active, createdAt := now,
             updatedAt := now }

variable {c c' : TicketClass} {now : Instant}

/-- What a draft sets up is proper. -/
theorem Draft.proper_ticketClass {draft : Draft} (valid : draft.validate = .ok ()) (id : Uuid)
    (now : Instant) : (draft.ticketClass id now).Proper := by
  obtain ⟨event, name, price, currency, total, window⟩ := Draft.validate_eq_ok_iff.1 valid
  exact ⟨event, name, price, properCode_normalCurrency currency, total, window⟩

/-- The classes that keep to the rules are those that can be submitted once more. -/
theorem proper_iff_renews : c.Proper ↔ c.Renews := by
  constructor
  · intro proper
    have name : normalName c.name = c.name := proper.name.trimmed
    have currency : normalCurrency c.currency = c.currency := proper.currency.normalCurrency_eq
    constructor
    case valid =>
      exact Draft.validate_eq_ok_iff.2 ⟨proper.event, name.symm ▸ proper.name, proper.price,
        proper.currency.checkCurrency_eq, proper.total, proper.window⟩
    case same =>
      intro id now
      simp only [Draft.ticketClass, redraft, name, currency]
  · intro renews
    have proper := Draft.proper_ticketClass renews.valid c.id c.createdAt
    rw [renews.same] at proper
    exact ⟨proper.event, proper.name, proper.price, proper.currency, proper.total, proper.window⟩

theorem window_of_apply {changes : Changes}
    (applied : changes.apply c now = .ok (changes.merge c now)) :
    ProperWindow (changes.merge c now).saleStart (changes.merge c now).saleEnd := by
  unfold Changes.apply at applied
  obtain ⟨-, -, applied⟩ := bind_eq_ok_iff.1 applied
  obtain ⟨⟨⟩, checked, -⟩ := bind_eq_ok_iff.1 applied
  cases window : checkWindow (changes.merge c now).saleStart (changes.merge c now).saleEnd with
  | ok => exact checkWindow_eq_ok_iff.1 window
  | error reason =>
    rw [window] at checked
    cases checked

theorem getD_of_forall {α : Type} {P : α → Prop} {field : Option α} {old : α}
    (given : ∀ a ∈ field, P a) (kept : P old) : P (field.getD old) := by
  cases field with
  | none => exact kept
  | some a => exact given a rfl

/-- Changes keep a proper class proper. -/
theorem Proper.merge {changes : Changes} (proper : c.Proper)
    (valid : changes.validate = .ok ())
    (applied : changes.apply c now = .ok (changes.merge c now)) :
    (changes.merge c now).Proper := by
  obtain ⟨name, price, currency, total⟩ := Changes.validate_eq_ok_iff.1 valid
  constructor
  case event => exact proper.event
  case name => exact getD_of_forall (Option.forall_mem_map.2 name) proper.name
  case price => exact getD_of_forall price proper.price
  case currency =>
    have stored : ∀ code ∈ changes.currency, ProperCode (normalCurrency code) :=
      fun code given => properCode_normalCurrency (currency code given)
    exact getD_of_forall (Option.forall_mem_map.2 stored) proper.currency
  case total =>
    exact getD_of_forall (P := fun q : Quantity => 1 ≤ q.toInt) total proper.total
  case window => exact window_of_apply applied

def offer (c : TicketClass) : TicketClass := { c with reserved := 0, sold := 0 }

theorem id_eq_of_offer_eq (same : c'.offer = c.offer) : c'.id = c.id :=
  (congrArg TicketClass.id same :)

/-- The rules say nothing of the counters. -/
theorem proper_offer_iff : c.offer.Proper ↔ c.Proper :=
  ⟨fun ⟨event, name, price, currency, total, window⟩ =>
      ⟨event, name, price, currency, total, window⟩,
    fun ⟨event, name, price, currency, total, window⟩ =>
      ⟨event, name, price, currency, total, window⟩⟩

end TicketClass

namespace Store

open TicketClass (offer)

variable {s s' : Store}

/-- The classes of two stores differ in nothing but their counters. -/
def SameOffers (s s' : Store) : Prop :=
  ∀ id, (s'.ticketClass? id).map offer = (s.ticketClass? id).map offer

theorem SameOffers.refl (s : Store) : s.SameOffers s := fun _ => rfl

theorem SameOffers.trans {s'' : Store} (first : s.SameOffers s') (second : s'.SameOffers s'') :
    s.SameOffers s'' := fun id => (second id).trans (first id)

theorem sameOffers_of_eq (same : s'.ticketClasses = s.ticketClasses) : s.SameOffers s' :=
  fun id => by rw [ticketClass?, ticketClass?, same]

theorem sameOffers_putTicketClass {id : Uuid} {c c' : TicketClass}
    (found : s.ticketClass? id = some c) (same : c'.offer = c.offer) :
    s.SameOffers (s.putTicketClass c') := by
  intro other
  have here : Keyed.key c' = id :=
    (TicketClass.id_eq_of_offer_eq same).trans (Table.key_of_find? found)
  show ((s.ticketClasses.insert c').find? other).map offer = _
  rw [Table.find?_insert, here]
  split
  next isOther => rw [← isOther, found, Option.map_some, Option.map_some, same]
  next => rfl

/-! ### Orders -/

theorem sameOffers_claim? {id : Uuid} {quantity : Quantity}
    (claimed : s.claim? id quantity = some s') : s.SameOffers s' := by
  obtain ⟨c, found, -, rfl⟩ := claim?_eq_some claimed
  exact sameOffers_putTicketClass found rfl

theorem sameOffers_resolveLine {how : Resolution} {line : Line}
    (resolved : s.resolveLine how line = .ok s') : s.SameOffers s' := by
  cases how with
  | confirm =>
    obtain ⟨c, found, -, rfl⟩ := settle?_eq_some (settle?_of_settle resolved)
    exact sameOffers_putTicketClass found rfl
  | release =>
    obtain ⟨c, found, rfl⟩ := giveBack?_eq_some (giveBack?_of_giveBack resolved)
    exact sameOffers_putTicketClass found rfl

theorem sameOffers_claimLine {line : Line} {now : Instant}
    (claimed : s.claimLine line now = .ok s') : s.SameOffers s' := by
  obtain ⟨c, -, claimed⟩ := bind_eq_ok_iff.1 claimed
  split at claimed
  · exact sameOffers_claim? (claim?_of_claim claimed)
  · cases claimed

theorem sameOffers_insertReservation {r : Reservation}
    (inserted : s.insertReservation r = .ok s') : s.SameOffers s' := by
  obtain ⟨-, -, rfl⟩ := insertReservation_eq_ok inserted
  exact sameOffers_of_eq rfl

theorem sameOffers_reserveLines {order : Uuid} {expiresAt now : Instant} {lines : List Line}
    {ids : IdSupply} {rows : List Reservation}
    (reserved : (reserveLines order expiresAt now lines s ids).1 = .ok (rows, s')) :
    s.SameOffers s' := by
  induction lines generalizing s ids rows with
  | nil => exact (Prod.mk.inj (Except.ok.inj reserved)).2 ▸ .refl s
  | cons line lines ih =>
    rw [reserveLines] at reserved
    split at reserved
    · cases reserved
    next s₁ claimed =>
      simp only at reserved
      split at reserved
      · cases reserved
      next s₂ inserted =>
        have before := (sameOffers_claimLine claimed).trans (sameOffers_insertReservation inserted)
        split at reserved
        · cases reserved
        next rest =>
          obtain ⟨-, rfl⟩ := Prod.mk.inj (Except.ok.inj reserved)
          exact before.trans (ih (congrArg Prod.fst rest))

theorem sameOffers_foldlM (how : Resolution) {lines : List Line}
    (folded : lines.foldlM (resolveLine how) s = .ok s') : s.SameOffers s' := by
  induction lines generalizing s with
  | nil => exact Except.ok.inj folded ▸ .refl s
  | cons line lines ih =>
    rw [List.foldlM_cons] at folded
    obtain ⟨s₁, first, rest⟩ := bind_eq_ok_iff.1 folded
    exact (sameOffers_resolveLine first).trans (ih rest)

theorem sameOffers_transition {ids : List Uuid} {status : Reservation.Status} {now : Instant}
    (marked : s.transition ids status now = .ok s') : s.SameOffers s' := by
  unfold transition at marked
  simp only at marked
  split at marked
  · exact Except.ok.inj marked ▸ sameOffers_of_eq (ticketClasses_mark s status now ids)
  · cases marked

theorem sameOffers_resolve {how : Resolution} {order : Uuid} {now : Instant}
    {done : List Reservation × Lines} (resolved : s.resolve how order now = .ok (done, s')) :
    s.SameOffers s' := by
  unfold resolve at resolved
  by_cases empty : (s.reservationsOf order).isEmpty = true
  · simp only [empty, if_true] at resolved
    cases resolved
  · simp only [empty] at resolved
    cases clear : (s.reservationsOf order).findSome? (how.obstacle? now) with
    | some obstacle =>
      rw [clear] at resolved
      cases resolved
    | none =>
      rw [clear] at resolved
      obtain ⟨s₁, folded, resolved⟩ := bind_eq_ok_iff.1 resolved
      obtain ⟨s₂, marked, resolved⟩ := bind_eq_ok_iff.1 resolved
      obtain ⟨-, rfl⟩ := Prod.mk.inj (Except.ok.inj resolved)
      exact (sameOffers_foldlM how folded).trans (sameOffers_transition marked)

theorem sameOffers_expire {limit : Int} {now : Instant} {done : List Uuid × Lines}
    (expired : s.expire limit now = .ok (done, s')) : s.SameOffers s' := by
  obtain ⟨s₁, given, expired⟩ := bind_eq_ok_iff.1 expired
  obtain ⟨s₂, marked, expired⟩ := bind_eq_ok_iff.1 expired
  obtain ⟨-, rfl⟩ := Prod.mk.inj (Except.ok.inj expired)
  exact (sameOffers_foldlM .release given).trans (sameOffers_transition marked)

def ProperOffers (s : Store) : Prop := ∀ c ∈ s.ticketClasses.rows, c.Proper

theorem SameOffers.properOffers (same : s.SameOffers s') (proper : s.ProperOffers) :
    s'.ProperOffers := by
  intro c member
  have shown := same c.id
  rw [show s'.ticketClass? c.id = some c from Table.exists_find?_of_mem member] at shown
  obtain ⟨old, found, sameOffer⟩ := Option.map_eq_some_iff.1 shown.symm
  have properOld := proper old (Table.mem_of_find? found)
  exact TicketClass.proper_offer_iff.1 (sameOffer ▸ TicketClass.proper_offer_iff.2 properOld)

theorem ProperOffers.putTicketClass {c : TicketClass} (proper : s.ProperOffers)
    (properClass : c.Proper) : (s.putTicketClass c).ProperOffers := by
  intro x member
  rcases Table.mem_insert_iff.1 member with rfl | ⟨old, -⟩
  · exact properClass
  · exact proper x old

end Store

/-! ### Operations -/

namespace Operation

variable {d : Desk} {s s' : Store} {op : Operation}

/-- What changes no reservations of orders, and so tells nothing, writes proper classes only. -/
theorem Effect.properOffers {next : IdSupply} {answer : Except Refusal Answer}
    (effect : Effect d next s op answer s' none) (proper : s.ProperOffers) : s'.ProperOffers := by
  cases effect with
  | refused | looked | sweptNone | purged => exact proper
  | created valid => exact proper.putTicketClass (TicketClass.Draft.proper_ticketClass valid _ _)
  | updated valid found applied =>
    exact proper.putTicketClass
      ((proper _ (Table.mem_of_find? found)).merge valid applied)
  | deleted => exact fun c member => proper c (List.mem_filter.1 member).1

theorem exists_sameOffers_change {α : Type} (stored : d.store = some s)
    (answer : Store → Except Refusal (α × Store))
    (keeps : ∀ a s', answer s = .ok (a, s') → s.SameOffers s') :
    ∃ s', (d.change answer).2.store = some s' ∧ s.SameOffers s' := by
  rw [change_eq stored]
  cases result : answer s with
  | error refusal => exact ⟨s, stored, .refl s⟩
  | ok done => exact ⟨done.2, rfl, keeps done.1 done.2 result⟩

theorem exists_sameOffers_resolve (stored : d.store = some s) (how : Store.Resolution)
    (order : Uuid) (told : List Uuid → Lines → Event) :
    ∃ s', (d.resolve how order told).2.store = some s' ∧ s.SameOffers s' := by
  obtain ⟨s', stored', same⟩ := exists_sameOffers_change stored
    (fun s => s.resolve how order d.now) fun _ _ => Store.sameOffers_resolve
  refine ⟨s', ?_, same⟩
  unfold Desk.resolve
  split
  next result => rwa [result] at stored'
  next result => rwa [result] at stored'

theorem exists_sameOffers_expire (stored : d.store = some s) (size : Int) :
    ∃ s', (d.expire size).2.store = some s' ∧ s.SameOffers s' := by
  obtain ⟨s', stored', same⟩ := exists_sameOffers_change stored
    (fun s => s.expire (sweepLimit size) d.now) fun _ _ => Store.sameOffers_expire
  refine ⟨s', ?_, same⟩
  unfold Desk.expire
  split
  next result => rwa [result] at stored'
  next result => rwa [result] at stored'
  next result => rwa [result] at stored'

theorem exists_sameOffers_reserve (stored : d.store = some s) (order : Uuid) (items : List Line)
    (expiresAt : Instant) :
    ∃ s', (d.reserve order items expiresAt).2.store = some s' ∧ s.SameOffers s' := by
  unfold Desk.reserve
  split
  · exact ⟨s, stored, .refl s⟩
  · split
    · exact ⟨s, stored, .refl s⟩
    · simp only [stored]
      split
      next => exact ⟨s, rfl, .refl s⟩
      next reserved => exact ⟨_, rfl, Store.sameOffers_reserveLines (congrArg Prod.fst reserved)⟩

/-- No operation lets a class in that breaks the rules, or breaks them for one that is there. -/
theorem properOffers_run (stored : d.store = some s) (proper : s.ProperOffers) (op : Operation) :
    ∃ s', (op.run d).2.store = some s' ∧ s'.ProperOffers := by
  have untold (written : ∃ s', Outcome d s op s' none) :
      ∃ s', (op.run d).2.store = some s' ∧ s'.ProperOffers := by
    obtain ⟨s', outcome⟩ := written
    exact ⟨s', outcome.stored, outcome.effect.properOffers proper⟩
  have ofOrders {d' : Desk} (kept : ∃ s', d'.store = some s' ∧ s.SameOffers s') :
      ∃ s', d'.store = some s' ∧ s'.ProperOffers := by
    obtain ⟨s', stored', same⟩ := kept
    exact ⟨s', stored', same.properOffers proper⟩
  cases op with
  | create draft => exact untold (outcome_create stored draft)
  | update id changes => exact untold (outcome_update stored id changes)
  | delete id => exact untold (outcome_delete stored id)
  | purge order => exact untold (outcome_purge stored order)
  | get | list | history | available | check | setClock | setPublisher =>
    exact untold ⟨s, outcome_of_looks stored rfl⟩
  | reserve order items expiresAt =>
    exact ofOrders (exists_sameOffers_reserve stored order items expiresAt)
  | confirm order => exact ofOrders (exists_sameOffers_resolve stored .confirm order _)
  | release order => exact ofOrders (exists_sameOffers_resolve stored .release order _)
  | expire size => exact ofOrders (exists_sameOffers_expire stored size)
  | sweep size =>
    exact ofOrders (sweep_desk d size ▸ exists_sameOffers_expire stored size)

end Operation

namespace Desk

theorem properOffers_after {d : Desk} {s : Store} (stored : d.store = some s)
    (proper : s.ProperOffers) (ops : List Operation) :
    ∃ s', (d.after ops).store = some s' ∧ s'.ProperOffers := by
  induction ops generalizing d s with
  | nil => exact ⟨s, stored, proper⟩
  | cons op ops ih =>
    obtain ⟨s', stored', proper'⟩ := Operation.properOffers_run stored proper op
    exact ih stored' proper'

/-- Wherever operations lead, even when identifiers repeat, every class keeps to the rules, which is
to say that it could be submitted once more and stored with the same fields. -/
theorem classes_stay_proper (now : Instant) (source : Nat → Uuid) (fails : Bool)
    (ops : List Operation) :
    (∃ s, ((Desk.opened now source fails).after ops).store = some s ∧
      ∀ c ∈ s.ticketClasses.rows, c.Proper ∧ c.Renews) ∧
        ∀ c : TicketClass, c.Proper ↔ c.Renews := by
  have none : Store.empty.ProperOffers := fun c member => absurd member List.not_mem_nil
  obtain ⟨s, stored, proper⟩ := properOffers_after (d := .opened now source fails) rfl none ops
  refine ⟨⟨s, stored, fun c member => ?_⟩, fun c => TicketClass.proper_iff_renews⟩
  exact ⟨proper c member, TicketClass.proper_iff_renews.1 (proper c member)⟩

end Desk

end BoxOffice
