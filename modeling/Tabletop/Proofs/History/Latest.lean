import Tabletop.Proofs.History.WholeLog
import Tabletop.Proofs.Saved.Values

/-!
# The latest roll of a history

A history that records a roll keeps as many of the latest rolls as its limit says, the new one last.
A new history has a limit of at least one and never changes it, so that the roll just recorded is
always there. A history that was loaded has whatever limit was saved. If that is zero, all kept
rolls are dropped at the next record, the new one among them; the totals still count it.
-/

namespace Tabletop

namespace RollHistory

theorem recent_record_of_zero {h : RollHistory} (hzero : h.maxRecent = 0) (r : RollRecord) :
    (h.record r).recent = [] := by
  rw [recent_record, hzero, keepLast_zero]

/-- The last kept roll is the one just recorded, unless the limit allows none. -/
theorem last?_record (h : RollHistory) (r : RollRecord) :
    (h.record r).last? = if h.maxRecent = 0 then none else some r := by
  split
  · rename_i hzero
    rw [last?, recent_record_of_zero hzero, List.getLast?_nil]
  · rename_i hlimit
    rw [last?, recent_record, getLast?_keepLast (Nat.pos_of_ne_zero hlimit),
      List.getLast?_concat]

/-- A new history has room for a roll, whatever it has recorded. -/
theorem maxRecent_ne_zero (id : Identifier) (limit : Nat) (log : List RollRecord) :
    (log.foldl record (ofLimit id limit)).maxRecent ≠ 0 := by
  have hlimit : (ofLimit id limit).maxRecent = max limit 1 := rfl
  rw [maxRecent_foldl_record, hlimit]
  omega

/-- What is kept after a record. Of any history, new or loaded, the kept rolls are the last ones of
those kept before and the new one, as many as the limit says; the new one is the last of them just
when the limit is not zero, and otherwise none is kept. A new history never loses the roll just
recorded, whatever its limit was to be and whatever it has recorded before. -/
theorem record_keeps_latest (h : RollHistory) (r : RollRecord) :
    ((h.record r).recent <:+ h.recent ++ [r] ∧
      (h.record r).recent.length = min h.maxRecent (h.recent.length + 1)) ∧
    ((h.record r).last? = some r ↔ h.maxRecent ≠ 0) ∧
    (h.maxRecent = 0 → (h.record r).recent = [] ∧ (h.record r).last? = none) ∧
    ∀ (id : Identifier) (limit : Nat) (log : List RollRecord),
      ((log.foldl record (ofLimit id limit)).record r).last? = some r := by
  refine ⟨⟨keepLast_suffix _ _, ?_⟩, ?_, fun hzero => ⟨?_, ?_⟩, fun id limit log => ?_⟩
  · rw [recent_record, length_keepLast, List.length_append, List.length_singleton]
  · rw [last?_record]
    split <;> simp [*]
  · exact recent_record_of_zero hzero r
  · rw [last?_record, if_pos hzero]
  · rw [last?_record, if_neg (maxRecent_ne_zero id limit log)]

/-- A saved history with a limit of zero is loaded, and it loses the next roll although it counts
it. -/
theorem record_loses_latest :
    let h : RollHistory := { ofLimit ⟨0⟩ defaultRecent with maxRecent := 0 }
    let r : RollRecord := ⟨⟨0⟩, "3d10", none, [9, 4, 2], 1, false, false, ⟨0, 0⟩⟩
    load h.save = .ok h ∧ (h.record r).totalRolls = 1 ∧ (h.record r).last? ≠ some r ∧
      (h.record r).last? = none ∧ (h.record r).recent = [] := by
  intro h r
  have hstorable : h.Storable := by
    constructor
    · decide
    · intro r' hr'
      cases hr'
    all_goals decide
  have hload := load_save Identifier.readsBack (fun _ => Timestamp.readsBack) hstorable
  exact ⟨hload, rfl, by decide, rfl, rfl⟩

end RollHistory

end Tabletop
