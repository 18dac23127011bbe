import Tabletop.Session.Basic

/-!
# Loot in a session

Draws from drop tables and selections from weighted pools, made with the source of a session. They
are logged but leave no trace in the history.
-/

namespace Tabletop

namespace Session

variable {σ κ τ α : Type} [Source σ] [DecidableEq τ] [TierList τ]

/-- The event of a draw. -/
def dropEvent : Drop τ → Event
  | .tier t => .dropped (TierList.name t)
  | .nothing => .droppedNothing

def drop (s : Session σ κ) (table : DropTable τ Float) : Drop τ × Session σ κ :=
  let (d, source) := table.draw s.source
  (d, { s with source }.log [dropEvent d])

/-- Draws a number of times from a table, and returns the tiers that were drawn. -/
def drops (s : Session σ κ) (table : DropTable τ Float) : Nat → List τ × Session σ κ
  | 0 => ([], s)
  | n + 1 =>
    let (d, s) := s.drop table
    let (tiers, s) := s.drops table n
    (d.tier?.toList ++ tiers, s)

def select (s : Session σ κ) (pool : WeightedPool α) :
    Except SessionError (WeightedItem α) × Session σ κ :=
  match pool.select s.source with
  | (.ok i, source) =>
    (.ok i, { s with source }.log [.selected i.id i.weight pool.totalWeight])
  | (.error e, source) =>
    (.error (.weightedPool e), { s with source }.log [.selectionFailed e pool.size])

omit [DecidableEq τ] in
/-- Several draws are made one after the other. -/
theorem drops_succ (s : Session σ κ) (table : DropTable τ Float) (n : Nat) :
    s.drops table (n + 1) =
      ((s.drop table).1.tier?.toList ++ ((s.drop table).2.drops table n).1,
        ((s.drop table).2.drops table n).2) := rfl

end Session

end Tabletop
