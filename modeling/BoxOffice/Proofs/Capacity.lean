import BoxOffice.Checked
import BoxOffice.Proofs.Steps

/-!
Capacity, whatever is asked of a store. Operations of a desk keep the counters of a class equal to
what its reservations hold; steps that are taken directly do not, as anything can be claimed, given
back and settled in any order. What remains is that the counters are bounded: neither is below
zero, and together they are covered by the total.

Bounded counters are enough for every sum to stay in range, since each step makes its check before
it adds and in the direction in which nothing can be too large.
-/

namespace BoxOffice

/-! ### Sums in range -/

namespace Quantity

variable {a b : Quantity}

theorem plus?_eq (low : -2 ^ 31 ≤ a.toInt + b.toInt) (high : a.toInt + b.toInt < 2 ^ 31) :
    plus? a b = some (a + b) :=
  plus?_eq_some_iff.2 (toInt_add_eq low high)

theorem minus?_eq (low : -2 ^ 31 ≤ a.toInt - b.toInt) (high : a.toInt - b.toInt < 2 ^ 31) :
    minus? a b = some (a - b) :=
  ofInt?_eq_some_iff.2 (toInt_sub_eq low high)

end Quantity

namespace Checked

variable {α β : Type}

/-- A computation that stays in range comes to a result when each of its parts does. -/
theorem run_bind {x : Checked α} {result : Except Refusal α} {f : α → Checked β}
    {g : α → Except Refusal β} (first : x.run = some result)
    (next : ∀ a, result = .ok a → (f a).run = some (g a)) :
    (x >>= f).run = some (result >>= g) := by
  rw [ExceptT.run_bind, first]
  cases result with
  | error refusal => rfl
  | ok a => exact next a rfl

theorem run_lift (result : Except Refusal α) : (liftM result : Checked α).run = some result := rfl

@[simp] theorem some_bind (a : α) (f : α → Checked β) :
    ((liftM (some a) : Checked α) >>= f) = f a := rfl

end Checked

/-! ### One class -/

namespace TicketClass

structure Bounded (c : TicketClass) : Prop where
  reserved_nonneg : 0 ≤ c.reserved.toInt
  sold_nonneg : 0 ≤ c.sold.toInt
  covered : c.reserved.toInt + c.sold.toInt ≤ c.total.toInt

variable {c : TicketClass} {held : Int} {quantity : Quantity}

instance (c : TicketClass) : Decidable c.Bounded :=
  decidable_of_iff (0 ≤ c.reserved.toInt ∧ 0 ≤ c.sold.toInt ∧
      c.reserved.toInt + c.sold.toInt ≤ c.total.toInt)
    ⟨fun ⟨reserved, sold, covered⟩ => ⟨reserved, sold, covered⟩,
      fun ⟨reserved, sold, covered⟩ => ⟨reserved, sold, covered⟩⟩

theorem Balanced.bounded (balanced : c.Balanced held) : c.Bounded :=
  ⟨balanced.reserved_nonneg, balanced.sold_nonneg, balanced.covered⟩

namespace Bounded

theorem balanced (bounded : c.Bounded) : c.Balanced c.reserved.toInt :=
  ⟨rfl, bounded.reserved_nonneg, bounded.sold_nonneg, bounded.covered⟩

theorem available?_eq (bounded : c.Bounded) : c.available? = some c.available := by
  obtain ⟨reserved, sold, covered⟩ := bounded
  have top := Quantity.toInt_lt c.total
  have exact : (c.total - c.reserved).toInt = c.total.toInt - c.reserved.toInt :=
    Quantity.toInt_sub_eq (by omega) (by omega)
  have first : Quantity.minus? c.total c.reserved = some (c.total - c.reserved) :=
    Quantity.minus?_eq (by omega) (by omega)
  have second : Quantity.minus? (c.total - c.reserved) c.sold = some c.available :=
    Quantity.minus?_eq (by omega) (by omega)
  simp [available?, first, second]

theorem taken?_eq (bounded : c.Bounded) : c.taken? = some (c.reserved + c.sold) := by
  obtain ⟨reserved, sold, covered⟩ := bounded
  have top := Quantity.toInt_lt c.total
  exact Quantity.plus?_eq (by omega) (by omega)

theorem claim?_eq (bounded : c.Bounded) (nonneg : 0 ≤ quantity.toInt)
    (room : quantity ≤ c.available) : c.claim? quantity = some (c.claim quantity) := by
  rw [Int32.le_iff_toInt_le, bounded.balanced.toInt_available] at room
  obtain ⟨reserved, sold, covered⟩ := bounded
  have top := Quantity.toInt_lt c.total
  have sum : Quantity.plus? c.reserved quantity = some (c.reserved + quantity) :=
    Quantity.plus?_eq (by omega) (by omega)
  simp [claim?, sum, claim]

theorem giveBack?_eq (bounded : c.Bounded) (nonneg : 0 ≤ quantity.toInt) :
    c.giveBack? quantity = some (c.giveBack quantity) := by
  have reserved := bounded.reserved_nonneg
  have top := Quantity.toInt_lt c.reserved
  have high := Quantity.toInt_lt quantity
  have difference : Quantity.minus? c.reserved quantity = some (c.reserved - quantity) :=
    Quantity.minus?_eq (by omega) (by omega)
  simp [giveBack?, difference, giveBack]

theorem settle?_eq (bounded : c.Bounded) (nonneg : 0 ≤ quantity.toInt)
    (enough : quantity ≤ c.reserved) : c.settle? quantity = some (c.settle quantity) := by
  rw [Int32.le_iff_toInt_le] at enough
  obtain ⟨reserved, sold, covered⟩ := bounded
  have top := Quantity.toInt_lt c.total
  have difference : Quantity.minus? c.reserved quantity = some (c.reserved - quantity) :=
    Quantity.minus?_eq (by omega) (by omega)
  have sum : Quantity.plus? c.sold quantity = some (c.sold + quantity) :=
    Quantity.plus?_eq (by omega) (by omega)
  simp [settle?, difference, sum, settle]

theorem claim (bounded : c.Bounded) (nonneg : 0 ≤ quantity.toInt)
    (room : quantity ≤ c.available) : (c.claim quantity).Bounded :=
  (bounded.balanced.claim nonneg (Int32.le_iff_toInt_le.1 room)).bounded

/-- Giving back more than there is reserved ends at zero. -/
theorem giveBack (bounded : c.Bounded) (nonneg : 0 ≤ quantity.toInt) :
    (c.giveBack quantity).Bounded := by
  obtain ⟨reserved, sold, covered⟩ := bounded
  have top := Quantity.toInt_lt c.reserved
  have high := Quantity.toInt_lt quantity
  have less : (c.giveBack quantity).reserved.toInt = max (c.reserved.toInt - quantity.toInt) 0 := by
    rw [TicketClass.giveBack, Quantity.toInt_max_zero,
      Quantity.toInt_sub_eq (by omega) (by omega)]
  refine ⟨by omega, sold, ?_⟩
  show (c.giveBack quantity).reserved.toInt + c.sold.toInt ≤ c.total.toInt
  omega

theorem settle (bounded : c.Bounded) (nonneg : 0 ≤ quantity.toInt)
    (enough : quantity ≤ c.reserved) : (c.settle quantity).Bounded :=
  (bounded.balanced.conclude .confirmed nonneg (Int32.le_iff_toInt_le.1 enough)).bounded

theorem sold_le_settle (bounded : c.Bounded) (nonneg : 0 ≤ quantity.toInt)
    (enough : quantity ≤ c.reserved) : c.sold.toInt ≤ (c.settle quantity).sold.toInt := by
  have sold : (c.settle quantity).sold.toInt = c.sold.toInt + quantity.toInt :=
    bounded.balanced.toInt_sold_conclude .confirmed nonneg (Int32.le_iff_toInt_le.1 enough)
  omega

theorem rewritten (bounded : c.Bounded) {other : TicketClass}
    (covers : c.reserved + c.sold ≤ other.total) : (c.rewritten other).Bounded :=
  ⟨bounded.reserved_nonneg, bounded.sold_nonneg, bounded.balanced.covered_of_le covers⟩

end Bounded

end TicketClass

/-! ### A store -/

namespace Store

open BoxOffice.Checked (run_bind run_lift some_bind)

def Bounded (s : Store) : Prop := ∀ c ∈ s.ticketClasses.rows, c.Bounded

instance (s : Store) : Decidable s.Bounded :=
  inferInstanceAs (Decidable (∀ c ∈ s.ticketClasses.rows, c.Bounded))

variable {s : Store} {id : Uuid} {c seen : TicketClass} {quantity : Quantity}

theorem Balanced.bounded (balanced : s.Balanced) : s.Bounded := fun c member =>
  (balanced.classes c member).bounded

theorem Bounded.found (bounded : s.Bounded) (found : s.ticketClass? id = some c) : c.Bounded :=
  bounded c (Table.mem_of_find? found)

theorem Bounded.put (bounded : s.Bounded) (new : c.Bounded) : (s.putTicketClass c).Bounded := by
  intro x member
  rcases Table.mem_insert_iff.1 member with rfl | ⟨old, -⟩
  · exact new
  · exact bounded x old

namespace Checked

theorem claim?_eq (bounded : s.Bounded) (nonneg : 0 ≤ quantity.toInt) :
    claim? s id quantity = some (s.claim? id quantity) := by
  unfold claim? Store.claim?
  cases found : s.ticketClass? id with
  | none => rfl
  | some c =>
    have counters := bounded.found found
    by_cases room : quantity ≤ c.available
    · simp [counters.available?_eq, room, counters.claim?_eq nonneg room]
    · simp [counters.available?_eq, room]

theorem giveBack?_eq (bounded : s.Bounded) (nonneg : 0 ≤ quantity.toInt) :
    giveBack? s id quantity = some (s.giveBack? id quantity) := by
  unfold giveBack? Store.giveBack?
  cases found : s.ticketClass? id with
  | none => rfl
  | some c => simp [(bounded.found found).giveBack?_eq nonneg]

theorem settle?_eq (bounded : s.Bounded) (nonneg : 0 ≤ quantity.toInt) :
    settle? s id quantity = some (s.settle? id quantity) := by
  unfold settle? Store.settle?
  cases found : s.ticketClass? id with
  | none => rfl
  | some c =>
    by_cases enough : quantity ≤ c.reserved
    · simp [enough, (bounded.found found).settle?_eq nonneg enough]
    · simp [enough]

theorem claim_eq (bounded : s.Bounded) (counters : seen.Bounded)
    (nonneg : 0 ≤ quantity.toInt) :
    (claim s seen quantity).run = some (s.claim seen quantity) := by
  unfold claim Store.claim
  simp only [counters.available?_eq, claim?_eq bounded nonneg, some_bind]
  by_cases short : seen.available < quantity
  · simp only [short, if_true]
    rfl
  · simp only [short, if_false]
    cases s.claim? seen.id quantity <;> rfl

theorem giveBack_eq (bounded : s.Bounded) (nonneg : 0 ≤ quantity.toInt) :
    (giveBack s id quantity).run = some (s.giveBack id quantity) := by
  unfold giveBack Store.giveBack
  rw [giveBack?_eq bounded nonneg]
  cases s.giveBack? id quantity <;> rfl

theorem settle_eq (bounded : s.Bounded) (nonneg : 0 ≤ quantity.toInt) :
    (settle s id quantity).run = some (s.settle id quantity) := by
  unfold settle Store.settle
  rw [settle?_eq bounded nonneg]
  cases s.settle? id quantity <;> rfl

theorem updateTicketClass_eq (bounded : s.Bounded) (c : TicketClass) :
    (updateTicketClass s c).run = some (s.updateTicketClass c) := by
  refine run_bind (run_lift _) fun ⟨⟩ _ => run_bind (run_lift _) fun current looked => ?_
  have counters := bounded.found (ticketClass_eq_ok_iff.1 looked)
  simp only [counters.taken?_eq, some_bind]
  by_cases low : c.total < current.reserved + current.sold
  · simp only [low, if_true]
    rfl
  · simp only [low, if_false]
    rfl

end Checked

/-! ### Steps -/

def Step.seen? : Step → Option TicketClass
  | .claimSeen seen _ => some seen
  | _ => none

structure Step.Fair (step : Step) : Prop where
  nonneg : 0 ≤ step.quantity.toInt
  seen : ∀ c ∈ step.seen?, c.Bounded

instance (step : Step) : Decidable step.Fair :=
  decidable_of_iff (0 ≤ step.quantity.toInt ∧ ∀ c ∈ step.seen?, c.Bounded)
    ⟨fun ⟨nonneg, seen⟩ => ⟨nonneg, seen⟩, fun ⟨nonneg, seen⟩ => ⟨nonneg, seen⟩⟩

/-- So many tickets at least of a class that exists are sold. -/
def SoldAtLeast (s : Store) (id : Uuid) (n : Int) : Prop := s.HasClass id fun c => n ≤ c.sold.toInt

/-- All classes are bounded, and none that was there is gone or has fewer tickets sold. -/
structure Advances (s s' : Store) : Prop where
  bounded : s'.Bounded
  sold : ∀ id n, s.SoldAtLeast id n → s'.SoldAtLeast id n

variable {s' s'' : Store}

theorem Advances.trans (first : s.Advances s') (second : s'.Advances s'') : s.Advances s'' :=
  ⟨second.bounded, fun id n sold => second.sold id n (first.sold id n sold)⟩

theorem Bounded.advances_of_eq (bounded : s.Bounded) (same : s'.ticketClasses = s.ticketClasses) :
    s.Advances s' where
  bounded c member := bounded c (same ▸ member)
  sold _ _ sold := sold.of_eq same

theorem Bounded.advances_put (bounded : s.Bounded) {old : TicketClass}
    (found : s.ticketClass? id = some old) (sameId : c.id = old.id) (new : c.Bounded)
    (more : old.sold.toInt ≤ c.sold.toInt) : s.Advances (s.putTicketClass c) where
  bounded := bounded.put new
  sold _ _ sold := sold.put_changed found sameId fun least => Int.le_trans least more

theorem Bounded.advances_step (bounded : s.Bounded) {step : Step} (fair : step.Fair) :
    s.Advances (step.run s).2 := by
  have effect := step.effect s
  generalize (step.run s).2 = s' at effect
  cases effect with
  | unchanged | inserted | deleted => exact bounded.advances_of_eq rfl
  | marked => exact bounded.advances_of_eq (ticketClasses_mark ..)
  | @updated c current free found covers =>
    exact bounded.advances_put found rfl ((bounded.found found).rewritten covers) (Int.le_refl _)
  | claimed found room =>
    exact bounded.advances_put found rfl ((bounded.found found).claim fair.nonneg room)
      (Int.le_refl _)
  | givenBack found =>
    exact bounded.advances_put found rfl ((bounded.found found).giveBack fair.nonneg)
      (Int.le_refl _)
  | settled found enough =>
    have counters := bounded.found found
    exact bounded.advances_put found rfl (counters.settle fair.nonneg enough)
      (counters.sold_le_settle fair.nonneg enough)

theorem Checked.guarded_eq {checked : Option (Option Store)} {next : Option Store}
    (exact : checked = some next) :
    (do return s.guarded (← checked)) = some (s.guarded next) := by
  rw [exact]
  rfl

theorem Checked.silent_eq {checked : Checked Store} {result : Except Refusal Store}
    (exact : checked.run = some result) :
    (do return s.silent (← checked.run)) = some (s.silent result) := by
  rw [exact]
  rfl

theorem Checked.step_eq (bounded : s.Bounded) {next : Step} (fair : next.Fair) :
    step s next = some (next.run s) := by
  have nonneg := fair.nonneg
  cases next with
  | ticketClass | insertReservation | reservationsOf | firstOverdue | mark
  | deleteReservationsOf => rfl
  | updateTicketClass c => exact silent_eq (updateTicketClass_eq bounded c)
  | claim id quantity => exact guarded_eq (claim?_eq bounded nonneg)
  | giveBack id quantity => exact guarded_eq (giveBack?_eq bounded nonneg)
  | settle id quantity => exact guarded_eq (settle?_eq bounded nonneg)
  | claimSeen seen quantity =>
    exact silent_eq (claim_eq bounded (fair.seen seen rfl) nonneg)
  | claimFound id quantity =>
    exact silent_eq (run_bind (run_lift _) fun c looked =>
      claim_eq bounded (bounded.found (ticketClass_eq_ok_iff.1 looked)) nonneg)
  | giveBackFound id quantity => exact silent_eq (giveBack_eq bounded nonneg)
  | settleFound id quantity => exact silent_eq (settle_eq bounded nonneg)

/-! ### Transactions -/

theorem Bounded.advances_steps (bounded : s.Bounded) {steps : List Step}
    (fair : ∀ step ∈ steps, step.Fair) : s.Advances (s.afterSteps steps) :=
  afterSteps_induction (bounded.advances_of_eq rfl) fun _ step member advances =>
    advances.trans (advances.bounded.advances_step (fair step member))

theorem Checked.takeAll_eq {t : Transaction} (bounded : t.store.Bounded) {steps : List Step}
    (fair : ∀ step ∈ steps, step.Fair) : takeAll t steps = some (t.takeAll steps) := by
  induction steps generalizing t with
  | nil => rfl
  | cons next steps ih =>
    have first := fair next List.mem_cons_self
    have rest : takeAll (t.take next).2 steps = some ((t.take next).2.takeAll steps) :=
      ih (bounded.advances_step first).bounded fun step member =>
        fair step (List.mem_cons_of_mem _ member)
    have taken : (⟨(next.run t.store).2, t.before⟩ : Transaction) = (t.take next).2 := rfl
    simp only [takeAll, step_eq bounded first, Option.bind_eq_bind, Option.bind_some, taken, rest]
    rfl

/-! ### Accesses -/

/-- What is asked of a store is fair: classes that are added are bounded, and so are the steps of
transactions, whether these are kept or not. -/
def Access.Fair : Access → Prop
  | .insertTicketClass c => c.Bounded
  | .transaction steps _ => ∀ step ∈ steps, step.Fair
  | _ => True

instance : (access : Access) → Decidable access.Fair
  | .insertTicketClass c => inferInstanceAs (Decidable c.Bounded)
  | .transaction steps _ => inferInstanceAs (Decidable (∀ step ∈ steps, step.Fair))
  | .ticketClass _ | .deleteTicketClass _ | .history _ => .isTrue trivial

theorem Bounded.access (bounded : s.Bounded) {access : Access} (fair : access.Fair) :
    (access.run s).2.Bounded := by
  have effect := access.effect s
  generalize (access.run s).2 = s' at effect
  cases effect with
  | unchanged => exact bounded
  | inserted free => exact bounded.put fair
  | deleted unused => exact fun c member => bounded c (List.mem_filter.1 member).1
  | kept => exact (bounded.advances_steps fair).bounded

theorem Bounded.soldAtLeast_access (bounded : s.Bounded) {access : Access} (fair : access.Fair)
    (apart : access.Replaces id → ∃ refusal, (access.run s).1 = .one (.error refusal)) {n : Int}
    (sold : s.SoldAtLeast id n) : (access.run s).2.SoldAtLeast id n := by
  by_cases replaces : access.Replaces id
  · obtain ⟨refusal, refused⟩ := apart replaces
    rw [Access.run_of_refused refused]
    exact sold
  · have effect := access.effect s
    generalize (access.run s).2 = s' at effect
    cases effect with
    | unchanged => exact sold
    | inserted free => exact sold.put_other replaces
    | deleted unused => exact sold.erase_other replaces
    | kept => exact (bounded.advances_steps fair).sold id n sold

theorem Checked.access_eq (bounded : s.Bounded) {next : Access} (fair : next.Fair) :
    access s next = some (next.run s) := by
  cases next with
  | insertTicketClass | ticketClass | deleteTicketClass | history => rfl
  | transaction steps commit =>
    have taken : takeAll (.start s) steps = some ((Transaction.start s).takeAll steps) :=
      takeAll_eq bounded fair
    simp only [access, transact, taken]
    rfl

variable {script : List Access}

theorem Bounded.runAll (bounded : s.Bounded) (fair : ∀ access ∈ script, access.Fair) :
    (Access.runAll s script).2.Bounded :=
  Access.runAll_induction bounded fun _ access member bounded =>
    bounded.access (fair access member)

theorem Checked.accessAll_eq (bounded : s.Bounded) (fair : ∀ access ∈ script, access.Fair) :
    accessAll s script = some (Access.runAll s script) := by
  induction script generalizing s with
  | nil => rfl
  | cons next script ih =>
    have first := fair next List.mem_cons_self
    have rest := ih (bounded.access first) fun access member =>
      fair access (List.mem_cons_of_mem _ member)
    simp only [accessAll, access_eq bounded first, Option.bind_eq_bind, Option.bind_some, rest]
    rfl

/-- A class that is claimed from as it was just seen has the tickets or is refused for want of
them. -/
theorem Bounded.claimSeen_eq (bounded : s.Bounded) (found : s.ticketClass? id = some c)
    (quantity : Quantity) :
    ((Step.claimSeen c quantity).run s).1 =
      if c.total.toInt - c.reserved.toInt - c.sold.toInt < quantity.toInt then
        .error (.insufficientStock id quantity c.available)
      else .ok .done := by
  have sameId : c.id = id := Table.key_of_find? found
  have short_iff : c.available < quantity ↔
      c.total.toInt - c.reserved.toInt - c.sold.toInt < quantity.toInt := by
    rw [Int32.lt_iff_toInt_lt, (bounded.found found).balanced.toInt_available]
  by_cases short : c.available < quantity
  · simp only [Step.run, claim, short, if_true, short_iff.1 short, sameId]
    rfl
  · have room : quantity ≤ c.available := Int32.not_lt.1 short
    simp only [Step.run, claim, short, if_false, mt short_iff.2 short, sameId, claim?, found, room,
      if_true]
    rfl

/-- However a store with bounded counters is used, by fair steps in transactions that are kept or
given up and by classes that are added and deleted, its counters stay bounded and no sum leaves the
range of quantities. What was sold of a class stays sold, from each store that was kept to the
next, unless the class was added anew or deleted between them. In the midst of a transaction, a
claim from a class that was just looked up is refused exactly when it is for more than is available,
and whatever is refused changes nothing. -/
theorem capacity_safe (bounded : s.Bounded) (fair : ∀ access ∈ script, access.Fair) :
    Checked.accessAll s script = some (Access.runAll s script) ∧
      (Access.runAll s script).2.Bounded ∧
      (∀ earlier access later, script = earlier ++ access :: later →
        let before := (Access.runAll s earlier).2
        ∀ id c, before.ticketClass? id = some c →
          (access.Replaces id → ∃ refusal, (access.run before).1 = .one (.error refusal)) →
            ∃ c', (access.run before).2.ticketClass? id = some c' ∧
              c.sold.toInt ≤ c'.sold.toInt) ∧
      ∀ begun : List Step, (∀ step ∈ begun, step.Fair) →
        let s' := (Access.runAll s script).2.afterSteps begun
        (∀ id c quantity, (Step.ticketClass id).run s' = (.ok (.ticketClass (some c)), s') →
          ((Step.claimSeen c quantity).run s').1 =
            if c.total.toInt - c.reserved.toInt - c.sold.toInt < quantity.toInt then
              .error (.insufficientStock id quantity c.available)
            else .ok .done) ∧
          ∀ step : Step, Step.Refused (step.run s').1 → (step.run s').2 = s' := by
  have bounded' := bounded.runAll fair
  refine ⟨Checked.accessAll_eq bounded fair, bounded', ?_, fun begun fairBegun => ⟨?_, ?_⟩⟩
  · rintro earlier access later rfl before id c found apart
    obtain ⟨fairEarlier, fairLater⟩ := List.forall_mem_append.1 fair
    exact (bounded.runAll fairEarlier).soldAtLeast_access (fairLater access List.mem_cons_self)
      apart ⟨c, found, Int.le_refl _⟩
  · intro id c quantity looked
    have found : ((Access.runAll s script).2.afterSteps begun).ticketClass? id = some c := by
      simpa [Step.run] using looked
    exact (bounded'.advances_steps fairBegun).bounded.claimSeen_eq found quantity
  · exact fun step refused => Step.run_of_refused refused

/-- Far too much is claimed and given back, and a transaction is given up. -/
def season : List Access :=
  [.transaction [.claim seats.id 2147483647, .claim seats.id 4, .settle seats.id 5,
      .settle seats.id 3, .giveBack seats.id 2147483647] true,
    .transaction [.updateTicketClass { seats with total := 3 }, .claimFound seats.id 1] false]

/-- Three seats are sold and none is reserved, and so no three more can be claimed. -/
theorem capacity_safe_season :
    hall.Bounded ∧ (∀ access ∈ season, access.Fair) ∧
      Checked.accessAll hall season = some (Access.runAll hall season) ∧
      (Access.runAll hall season).2.Bounded ∧
      (Access.runAll hall season).2.ticketClass? seats.id = some { seats with sold := 3 } ∧
      ((Step.claimSeen { seats with sold := 3 } 3).run (Access.runAll hall season).2).1 =
        .error (.insufficientStock seats.id 3 2) := by
  have bounded : hall.Bounded := by decide
  have fair : ∀ access ∈ season, access.Fair := by decide
  obtain ⟨exact, stillBounded, -, within⟩ := capacity_safe bounded fair
  obtain ⟨claims, -⟩ := within [] (by simp)
  exact ⟨bounded, fair, exact, stillBounded, rfl, claims seats.id { seats with sold := 3 } 3 rfl⟩

/-- Where the counters are not bounded a difference can leave the range. -/
example : Checked.step (hall.putTicketClass { seats with total := -2147483648, reserved := 1 })
    (.claim seats.id 1) = none :=
  rfl

end Store

end BoxOffice
