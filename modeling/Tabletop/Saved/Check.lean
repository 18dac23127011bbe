import Tabletop.Check.Contest
import Tabletop.Check.Extended
import Tabletop.Check.Outcome
import Tabletop.Saved.Dice

/-!
# Saved checks

Outcomes, contests and extended checks are saved field by field, and loading them checks nothing
but the pool and the ranges of the numbers.
-/

namespace Tabletop

namespace OutcomeTier

def savedName : OutcomeTier → String
  | criticalFailure => "criticalFailure"
  | failure => "failure"
  | marginalSuccess => "marginalSuccess"
  | fullSuccess => "fullSuccess"
  | exceptionalSuccess => "exceptionalSuccess"
  | criticalSuccess => "criticalSuccess"

def save (t : OutcomeTier) : Document := .text t.savedName

def load : Reader OutcomeTier := Reader.variant savedName all

end OutcomeTier

namespace Descriptor

/-- Every kind of narration. -/
def all : List Descriptor := [catastrophic, failed, narrow, solid, impressive, legendary]

def savedName : Descriptor → String
  | catastrophic => "catastrophic"
  | failed => "failed"
  | narrow => "narrow"
  | solid => "solid"
  | impressive => "impressive"
  | legendary => "legendary"

def save (d : Descriptor) : Document := .text d.savedName

def load : Reader Descriptor := Reader.variant savedName all

end Descriptor

namespace Outcome

def save (o : Outcome) : Document :=
  .record [("outcomeType", o.tier.save),
    ("margin", .integer o.margin),
    ("isFumble", .bool o.isFumble),
    ("isCritical", .bool o.isCritical),
    ("descriptorCategory", o.descriptor.save)]

def load : Reader Outcome := RecordReader.read <|
  Outcome.mk <$> .field "outcomeType" OutcomeTier.load
    <*> .field "margin" (Reader.integer int32Min int32Max)
    <*> .field "isFumble" Reader.bool
    <*> .field "isCritical" Reader.bool
    <*> .field "descriptorCategory" Descriptor.load

end Outcome

namespace ContestOutcome

/-- Every ending of a contest. -/
def all : List ContestOutcome :=
  [initiatorWins, defenderWins, tie, initiatorFumble, defenderFumble, bothFumble]

def savedName : ContestOutcome → String
  | initiatorWins => "initiatorWins"
  | defenderWins => "defenderWins"
  | tie => "tie"
  | initiatorFumble => "initiatorFumble"
  | defenderFumble => "defenderFumble"
  | bothFumble => "bothFumble"

def save (o : ContestOutcome) : Document := .text o.savedName

def load : Reader ContestOutcome := Reader.variant savedName all

end ContestOutcome

namespace Contest

def save (c : Contest) : Document :=
  .record [("initiator", c.initiator.save),
    ("defender", c.defender.save),
    ("outcome", c.outcome.save),
    ("margin", .integer c.margin)]

def load : Reader Contest := RecordReader.read <|
  Contest.mk <$> .field "initiator" Roll.load
    <*> .field "defender" Roll.load
    <*> .field "outcome" ContestOutcome.load
    <*> .field "margin" (Reader.integer int64Min int64Max)

end Contest

namespace CheckStatus

/-- Every status. -/
def all : List CheckStatus := [inProgress, succeeded, failed, catastrophicFailure, abandoned]

def savedName : CheckStatus → String
  | inProgress => "inProgress"
  | succeeded => "succeeded"
  | failed => "failed"
  | catastrophicFailure => "catastrophicFailure"
  | abandoned => "abandoned"

def save (s : CheckStatus) : Document := .text s.savedName

def load : Reader CheckStatus := Reader.variant savedName all

end CheckStatus

namespace CheckRound

def save (r : CheckRound) : Document :=
  .record [("round", .integer r.round),
    ("netSuccesses", .integer r.netSuccesses),
    ("isFumble", .bool r.isFumble),
    ("accumulated", .integer r.accumulated)]

def load : Reader CheckRound := RecordReader.read <|
  CheckRound.mk <$> .field "round" (Reader.natural uint32Max)
    <*> .field "netSuccesses" (Reader.natural uint32Max)
    <*> .field "isFumble" Reader.bool
    <*> .field "accumulated" (Reader.natural uint32Max)

end CheckRound

namespace ExtendedCheck

variable [TextForm Identifier]

def save (c : ExtendedCheck) : Document :=
  .record [("id", saveText c.id),
    ("pool", c.pool.save),
    ("targetSuccesses", .integer c.target),
    ("maxRounds", .integer c.maxRounds),
    ("accumulatedSuccesses", .integer c.accumulated),
    ("consecutiveFumbles", .integer c.consecutiveFumbles),
    ("status", c.status.save),
    ("rounds", .list (c.rounds.map CheckRound.save))]

def load : Reader ExtendedCheck := RecordReader.read <|
  ExtendedCheck.mk <$> .field "id" Reader.identifier
    <*> .field "pool" Pool.load
    <*> .field "targetSuccesses" (Reader.natural uint32Max)
    <*> .field "maxRounds" (Reader.natural uint32Max)
    <*> .field "accumulatedSuccesses" (Reader.natural uint32Max)
    <*> .field "consecutiveFumbles" (Reader.natural uint32Max)
    <*> .field "status" CheckStatus.load
    <*> .field "rounds" (Reader.list CheckRound.load)

end ExtendedCheck

end Tabletop
