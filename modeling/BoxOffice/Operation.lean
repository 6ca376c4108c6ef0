import BoxOffice.Answer
import BoxOffice.Desk
import BoxOffice.Store.Transaction

/-!
Operations: everything that can be asked of a desk, as data, so that runs of operations can be
spoken of.
-/

namespace BoxOffice

inductive Operation
  | create (draft : TicketClass.Draft)
  | update (id : Uuid) (changes : TicketClass.Changes)
  | get (id : Uuid)
  | list (f : TicketClass.Filter)
  | delete (id : Uuid)
  | reserve (order : Uuid) (items : List Line) (expiresAt : Instant)
  | confirm (order : Uuid)
  | release (order : Uuid)
  | history (order : Uuid)
  | purge (order : Uuid)
  | expire (size : Int)
  | sweep (size : Int)
  | available (id : Uuid)
  | check (items : List Line)
  | setClock (t : Instant)
  | setPublisher (fails : Bool)
  deriving DecidableEq

def answered {α : Type} (toAnswer : α → Answer) (result : Except Refusal α × Desk) :
    Except Refusal Answer × Desk :=
  (result.1.map toAnswer, result.2)

namespace Operation

def run (d : Desk) : Operation → Except Refusal Answer × Desk
  | .create draft => answered (.ticketClass ∘ some) (d.create draft)
  | .update id changes => answered (.ticketClass ∘ some) (d.update id changes)
  | .get id => answered (.ticketClass ∘ some) (d.get id)
  | .list f => answered .ticketClasses (d.list f)
  | .delete id => answered (fun _ => .done) (d.delete id)
  | .reserve order items expiresAt => answered .reservations (d.reserve order items expiresAt)
  | .confirm order => answered .reservations (d.confirm order)
  | .release order => answered .reservations (d.release order)
  | .history order => answered .reservations (d.history order)
  | .purge order => answered .count (d.purge order)
  | .expire size => answered .count (d.expire size)
  | .sweep size => let (count, d) := d.sweep size; (.ok (.count count), d)
  | .available id => answered .quantity (d.available id)
  | .check items => answered .flag (d.check items)
  | .setClock t => (.ok (.moment t), { d with now := t })
  | .setPublisher fails =>
    (.ok .done, { d with publisher := { d.publisher with fails := fails } })

def runAll (d : Desk) : List Operation → List (Except Refusal Answer) × Desk
  | [] => ([], d)
  | op :: ops =>
    let (answer, d) := op.run d
    let (answers, d) := runAll d ops
    (answer :: answers, d)

end Operation

end BoxOffice
