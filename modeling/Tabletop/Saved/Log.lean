import Tabletop.Log.History
import Tabletop.Saved.Dice

/-!
# Saved histories

Records and histories are saved field by field. Loading a history checks nothing but the ranges of
its numbers, so that a loaded limit may be zero.
-/

namespace Tabletop

variable [TextForm Identifier] [TextForm Timestamp]

namespace RollRecord

/-- The saved fields of a record, its identifier apart. -/
def saveFields (r : RollRecord) : List (String × Document) :=
  [("notation", .text r.written),
    ("context", (r.context.map Document.text).getD .null),
    ("rawRolls", saveNaturals r.rawRolls),
    ("netSuccesses", .integer r.netSuccesses),
    ("isFumble", .bool r.isFumble),
    ("isCritical", .bool r.isCritical),
    ("rolledAt", saveText r.rolledAt)]

def save (r : RollRecord) : Document := .record (("id", saveText r.id) :: r.saveFields)

def load : Reader RollRecord := RecordReader.read <|
  RollRecord.mk <$> .field "id" Reader.identifier
    <*> .field "notation" Reader.text
    <*> .optional "context" Reader.text
    <*> .field "rawRolls" (Reader.list (Reader.natural uint32Max))
    <*> .field "netSuccesses" (Reader.natural uint32Max)
    <*> .field "isFumble" Reader.bool
    <*> .field "isCritical" Reader.bool
    <*> .field "rolledAt" Reader.timestamp

end RollRecord

namespace RollHistory

def save (h : RollHistory) : Document :=
  .record [("id", saveText h.id),
    ("maxRecent", .integer h.maxRecent),
    ("recent", .list (h.recent.map RollRecord.save)),
    ("totalRolls", .integer h.totalRolls),
    ("totalFumbles", .integer h.totalFumbles),
    ("totalCriticals", .integer h.totalCriticals),
    ("netSuccessSum", .integer h.netSuccessSum),
    ("currentStreak", .integer h.currentStreak),
    ("longestLuckyStreak", .integer h.longestLuckyStreak),
    ("longestUnluckyStreak", .integer h.longestUnluckyStreak)]

def load : Reader RollHistory := RecordReader.read <|
  RollHistory.mk <$> .field "id" Reader.identifier
    <*> .field "maxRecent" (Reader.natural uint64Max)
    <*> .field "recent" (Reader.list RollRecord.load)
    <*> .field "totalRolls" (Reader.natural uint64Max)
    <*> .field "totalFumbles" (Reader.natural uint64Max)
    <*> .field "totalCriticals" (Reader.natural uint64Max)
    <*> .field "netSuccessSum" (Reader.natural uint64Max)
    <*> .field "currentStreak" (Reader.integer int64Min int64Max)
    <*> .field "longestLuckyStreak" (Reader.natural uint64Max)
    <*> .field "longestUnluckyStreak" (Reader.natural uint64Max)

end RollHistory

end Tabletop
