import BoxOffice.Booking

/-!
Issued identifiers. A supply is only ever drawn from, so each operation leaves one that continues
the supply before it. What is stored has an issued identifier; as long as the source does not
repeat itself, the next one is therefore new.
-/

namespace BoxOffice

namespace IdSupply

/-- A supply with the same source, of which no less has been drawn. -/
structure Continues (ids next : IdSupply) : Prop where
  source_eq : next.source = ids.source
  drawn_le : ids.drawn ≤ next.drawn

def Issued (ids : IdSupply) (id : Uuid) : Prop := ∃ place < ids.drawn, ids.source place = id

def NoRepeat (ids : IdSupply) : Prop :=
  ∀ i < ids.drawn, ∀ j < ids.drawn, ids.source i = ids.source j → i = j

variable {ids next last : IdSupply} {id : Uuid}

theorem Continues.refl (ids : IdSupply) : ids.Continues ids := ⟨rfl, Nat.le_refl _⟩

theorem Continues.trans (first : ids.Continues next) (second : next.Continues last) :
    ids.Continues last :=
  ⟨second.source_eq.trans first.source_eq, Nat.le_trans first.drawn_le second.drawn_le⟩

theorem continues_draw (ids : IdSupply) : ids.Continues ids.draw.2 := ⟨rfl, Nat.le_succ _⟩

theorem Issued.later (issued : ids.Issued id) (continues : ids.Continues next) :
    next.Issued id := by
  obtain ⟨place, drawn, eq⟩ := issued
  exact ⟨place, Nat.lt_of_lt_of_le drawn continues.drawn_le, continues.source_eq ▸ eq⟩

theorem issued_draw (ids : IdSupply) : ids.draw.2.Issued ids.draw.1 :=
  ⟨ids.drawn, Nat.lt_succ_self _, rfl⟩

theorem NoRepeat.before (noRepeat : next.NoRepeat) (continues : ids.Continues next) :
    ids.NoRepeat := by
  intro i hi j hj same
  have le := continues.drawn_le
  exact noRepeat i (by omega) j (by omega) (by rwa [continues.source_eq])

theorem NoRepeat.draw_new (noRepeat : ids.draw.2.NoRepeat) : ¬ids.Issued ids.draw.1 := by
  rintro ⟨place, drawn, same⟩
  have inRange : place < ids.draw.2.drawn := Nat.lt_succ_of_lt drawn
  have equal := noRepeat place inRange ids.drawn (Nat.lt_succ_self _) same
  omega

def after : IdSupply → List Line → IdSupply
  | ids, [] => ids
  | ids, _ :: lines => after ids.draw.2 lines

theorem continues_after (ids : IdSupply) (lines : List Line) :
    ids.Continues (ids.after lines) := by
  induction lines generalizing ids with
  | nil => exact .refl ids
  | cons line lines ih => exact (continues_draw ids).trans (ih ids.draw.2)

end IdSupply

/-! ### Identifiers of new reservations -/

namespace Reservation

/-- The reservations that hold lines of an order, each with the next identifier. -/
def holds (order : Uuid) (expiresAt now : Instant) : IdSupply → List Line → List Reservation
  | _, [] => []
  | ids, line :: lines =>
    hold ids.draw.1 order line expiresAt now :: holds order expiresAt now ids.draw.2 lines

variable {order : Uuid} {expiresAt now : Instant} {ids : IdSupply} {lines : List Line}

open IdSupply

theorem map_line_holds : (holds order expiresAt now ids lines).map (·.line) = lines := by
  induction lines generalizing ids with
  | nil => rfl
  | cons line lines ih => rw [holds, List.map_cons, ih]; rfl

theorem exists_eq_hold {r : Reservation} (member : r ∈ holds order expiresAt now ids lines) :
    ∃ id, ∃ line ∈ lines, r = hold id order line expiresAt now := by
  induction lines generalizing ids with
  | nil => exact absurd member List.not_mem_nil
  | cons line lines ih =>
    rcases List.mem_cons.1 member with rfl | later
    · exact ⟨ids.draw.1, line, List.mem_cons_self, rfl⟩
    · obtain ⟨id, line', inLines, eq⟩ := ih later
      exact ⟨id, line', List.mem_cons_of_mem _ inLines, eq⟩

theorem issued_holds (noRepeat : (ids.after lines).NoRepeat) :
    ∀ r ∈ holds order expiresAt now ids lines,
      ¬ids.Issued r.id ∧ (ids.after lines).Issued r.id := by
  induction lines generalizing ids with
  | nil => exact fun r member => absurd member List.not_mem_nil
  | cons line lines ih =>
    intro r member
    have continues := continues_after ids.draw.2 lines
    rcases List.mem_cons.1 member with rfl | later
    · exact ⟨(noRepeat.before continues).draw_new, (issued_draw ids).later continues⟩
    · obtain ⟨new, issued⟩ := ih noRepeat r later
      exact ⟨fun before => new (before.later (continues_draw ids)), issued⟩

theorem nodup_holds (noRepeat : (ids.after lines).NoRepeat) :
    ((holds order expiresAt now ids lines).map (·.id)).Nodup := by
  induction lines generalizing ids with
  | nil => exact List.nodup_nil
  | cons line lines ih =>
    have noRepeat : (ids.draw.2.after lines).NoRepeat := noRepeat
    refine List.nodup_cons.2 ⟨fun again => ?_, ih noRepeat⟩
    obtain ⟨r, later, same⟩ := List.mem_map.1 again
    have new := (issued_holds noRepeat r later).1
    rw [same] at new
    exact new (issued_draw ids)

end Reservation

end BoxOffice
