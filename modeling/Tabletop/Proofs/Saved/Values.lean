import Tabletop.Proofs.Saved.Reading
import Tabletop.Saved.Check
import Tabletop.Saved.Log

/-!
# Saved values are read back

A value whose numbers lie within the words they are stored in is what is read from its saved form:
nothing is left out, renamed or put in another order on one of the two ways. Times are kept to the
second.
-/

namespace Tabletop

open RecordReader (finds_field finds_optional_text)

/-! ### Rolls -/

namespace DieRoll

theorem load_save {d : DieRoll} (h : ∀ face ∈ d.faces, face ≤ uint32Max) : load d.save = .ok d :=
  (finds_field (Reader.list_saveNaturals h)).map mk |>.read

end DieRoll

namespace Roll

/-- The numbers of a roll fit the words they are stored in. -/
structure Storable (r : Roll) : Prop where
  face_le : ∀ d ∈ r.dice, ∀ face ∈ d.faces, face ≤ uint32Max
  successes_le : r.successes ≤ uint32Max
  botches_le : r.botches ≤ uint32Max
  netSuccesses_le : r.netSuccesses ≤ uint32Max

theorem load_save {r : Roll} (h : r.Storable) : load r.save = .ok r :=
  (finds_field (Reader.written_saveText r.pool.readsBack)).map mk
    |>.seq (finds_field (Reader.list_map fun d hd => DieRoll.load_save (h.face_le d hd)))
    |>.seq (finds_field (Reader.natural_of_le h.successes_le))
    |>.seq (finds_field (Reader.natural_of_le h.botches_le))
    |>.seq (finds_field (Reader.natural_of_le h.netSuccesses_le))
    |>.seq (finds_field (Reader.bool_bool r.isFumble))
    |>.seq (finds_field (Reader.bool_bool r.isCritical))
    |>.read

end Roll

/-! ### Outcomes and contests -/

theorem OutcomeTier.load_save (t : OutcomeTier) : load t.save = .ok t :=
  Reader.variant_name (by cases t <;> rfl)

theorem Descriptor.load_save (d : Descriptor) : load d.save = .ok d :=
  Reader.variant_name (by cases d <;> rfl)

theorem ContestOutcome.load_save (o : ContestOutcome) : load o.save = .ok o :=
  Reader.variant_name (by cases o <;> rfl)

namespace Outcome

/-- The margin of an outcome fits the word it is stored in. -/
structure Storable (o : Outcome) : Prop where
  le_margin : int32Min ≤ o.margin
  margin_le : o.margin ≤ int32Max

/-- A margin is saturated, so that it always fits. -/
theorem storable_ofRoll (r : Roll) (difficulty : Int) : (ofRoll r difficulty).Storable where
  le_margin := int32Min_le_clampInt32 _
  margin_le := clampInt32_le_int32Max _

theorem load_save {o : Outcome} (h : o.Storable) : load o.save = .ok o :=
  (finds_field o.tier.load_save).map mk
    |>.seq (finds_field (Reader.integer_of_mem h.le_margin h.margin_le))
    |>.seq (finds_field (Reader.bool_bool o.isFumble))
    |>.seq (finds_field (Reader.bool_bool o.isCritical))
    |>.seq (finds_field o.descriptor.load_save)
    |>.read

end Outcome

namespace Contest

/-- The numbers of a contest fit the words they are stored in. -/
structure Storable (c : Contest) : Prop where
  initiator : c.initiator.Storable
  defender : c.defender.Storable
  le_margin : int64Min ≤ c.margin
  margin_le : c.margin ≤ int64Max

/-- A difference of two words fits the longer word of a margin. -/
theorem Storable.resolve {a b : Roll} (ha : a.Storable) (hb : b.Storable) :
    (resolve a b).Storable where
  initiator := ha
  defender := hb
  le_margin := by
    have hnet := hb.netSuccesses_le
    unfold Contest.resolve int64Min
    unfold uint32Max at hnet
    dsimp only
    omega
  margin_le := by
    have hnet := ha.netSuccesses_le
    unfold Contest.resolve int64Max
    unfold uint32Max at hnet
    dsimp only
    omega

theorem load_save {c : Contest} (h : c.Storable) : load c.save = .ok c :=
  (finds_field (Roll.load_save h.initiator)).map mk
    |>.seq (finds_field (Roll.load_save h.defender))
    |>.seq (finds_field c.outcome.load_save)
    |>.seq (finds_field (Reader.integer_of_mem h.le_margin h.margin_le))
    |>.read

end Contest

/-! ### Extended checks -/

theorem CheckStatus.load_save (s : CheckStatus) : load s.save = .ok s :=
  Reader.variant_name (by cases s <;> rfl)

namespace CheckRound

/-- The numbers of a round fit the words they are stored in. -/
structure Storable (x : CheckRound) : Prop where
  round_le : x.round ≤ uint32Max
  netSuccesses_le : x.netSuccesses ≤ uint32Max
  accumulated_le : x.accumulated ≤ uint32Max

theorem load_save {x : CheckRound} (h : x.Storable) : load x.save = .ok x :=
  (finds_field (Reader.natural_of_le h.round_le)).map mk
    |>.seq (finds_field (Reader.natural_of_le h.netSuccesses_le))
    |>.seq (finds_field (Reader.bool_bool x.isFumble))
    |>.seq (finds_field (Reader.natural_of_le h.accumulated_le))
    |>.read

end CheckRound

namespace ExtendedCheck

/-- The numbers of a check fit the words they are stored in. -/
structure Storable (c : ExtendedCheck) : Prop where
  target_le : c.target ≤ uint32Max
  maxRounds_le : c.maxRounds ≤ uint32Max
  accumulated_le : c.accumulated ≤ uint32Max
  consecutiveFumbles_le : c.consecutiveFumbles ≤ uint32Max
  rounds : ∀ x ∈ c.rounds, x.Storable

theorem load_save [TextForm Identifier] (hid : ∀ id : Identifier, ReadsBack id) {c : ExtendedCheck}
    (h : c.Storable) : load c.save = .ok c :=
  (finds_field (Reader.written_saveText (hid c.id))).map mk
    |>.seq (finds_field (Reader.written_saveText c.pool.readsBack))
    |>.seq (finds_field (Reader.natural_of_le h.target_le))
    |>.seq (finds_field (Reader.natural_of_le h.maxRounds_le))
    |>.seq (finds_field (Reader.natural_of_le h.accumulated_le))
    |>.seq (finds_field (Reader.natural_of_le h.consecutiveFumbles_le))
    |>.seq (finds_field c.status.load_save)
    |>.seq (finds_field (Reader.list_map fun x hx => CheckRound.load_save (h.rounds x hx)))
    |>.read

end ExtendedCheck

/-! ### Histories -/

section Histories

variable [TextForm Identifier] [TextForm Timestamp] (hid : ∀ id : Identifier, ReadsBack id)
  (htime : ∀ t : Timestamp, t.IsWholeSecond → ReadsBack t)

namespace RollRecord

/-- The numbers of a record fit the words they are stored in, and its time has no fraction of a
second. -/
structure Storable (r : RollRecord) : Prop where
  rawRolls_le : ∀ face ∈ r.rawRolls, face ≤ uint32Max
  netSuccesses_le : r.netSuccesses ≤ uint32Max
  isWholeSecond : r.rolledAt.IsWholeSecond

include hid htime in
theorem load_save {r : RollRecord} (h : r.Storable) : load r.save = .ok r :=
  (finds_field (Reader.written_saveText (hid r.id))).map mk
    |>.seq (finds_field (Reader.text_text r.written))
    |>.seq (finds_optional_text r.context)
    |>.seq (finds_field (Reader.list_saveNaturals h.rawRolls_le))
    |>.seq (finds_field (Reader.natural_of_le h.netSuccesses_le))
    |>.seq (finds_field (Reader.bool_bool r.isFumble))
    |>.seq (finds_field (Reader.bool_bool r.isCritical))
    |>.seq (finds_field (Reader.written_saveText (htime r.rolledAt h.isWholeSecond)))
    |>.read

end RollRecord

namespace RollHistory

/-- The numbers of a history fit the words they are stored in. -/
structure Storable (h : RollHistory) : Prop where
  maxRecent_le : h.maxRecent ≤ uint64Max
  recent : ∀ r ∈ h.recent, r.Storable
  totalRolls_le : h.totalRolls ≤ uint64Max
  totalFumbles_le : h.totalFumbles ≤ uint64Max
  totalCriticals_le : h.totalCriticals ≤ uint64Max
  netSuccessSum_le : h.netSuccessSum ≤ uint64Max
  le_currentStreak : int64Min ≤ h.currentStreak
  currentStreak_le : h.currentStreak ≤ int64Max
  longestLuckyStreak_le : h.longestLuckyStreak ≤ uint64Max
  longestUnluckyStreak_le : h.longestUnluckyStreak ≤ uint64Max

include hid htime in
theorem load_save {h : RollHistory} (hs : h.Storable) : load h.save = .ok h :=
  (finds_field (Reader.written_saveText (hid h.id))).map mk
    |>.seq (finds_field (Reader.natural_of_le hs.maxRecent_le))
    |>.seq (finds_field
      (Reader.list_map fun r hr => RollRecord.load_save hid htime (hs.recent r hr)))
    |>.seq (finds_field (Reader.natural_of_le hs.totalRolls_le))
    |>.seq (finds_field (Reader.natural_of_le hs.totalFumbles_le))
    |>.seq (finds_field (Reader.natural_of_le hs.totalCriticals_le))
    |>.seq (finds_field (Reader.natural_of_le hs.netSuccessSum_le))
    |>.seq (finds_field (Reader.integer_of_mem hs.le_currentStreak hs.currentStreak_le))
    |>.seq (finds_field (Reader.natural_of_le hs.longestLuckyStreak_le))
    |>.seq (finds_field (Reader.natural_of_le hs.longestUnluckyStreak_le))
    |>.read

end RollHistory

end Histories

end Tabletop
