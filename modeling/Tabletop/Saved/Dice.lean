import Tabletop.Dice.Notation
import Tabletop.Dice.Rolling
import Tabletop.Saved.Reader

/-!
# Saved dice and rolls

A pool is saved as its notation, and reading it back parses the notation. Rolls are saved field by
field; nothing is recomputed on loading.
-/

namespace Tabletop

/-- A list of natural numbers. -/
def saveNaturals (ns : List Nat) : Document := .list (ns.map fun n : Nat => .integer n)

namespace Die

def savedName : Die → String
  | d4 => "D4"
  | d6 => "D6"
  | d8 => "D8"
  | d10 => "D10"

def save (d : Die) : Document := .text d.savedName

def load : Reader Die := Reader.variant savedName all

end Die

namespace Pool

instance : TextForm Pool where
  write := toString
  read s := (parse s).mapError .badPool

def save (p : Pool) : Document := saveText p

def load : Reader Pool := Reader.written

end Pool

namespace Convention

def save (c : Convention) : Document :=
  .record [("successThreshold", .integer c.successThreshold),
    ("botchFace", .integer c.botchFace),
    ("criticalThreshold", .integer c.criticalThreshold)]

def load : Reader Convention := RecordReader.read <|
  Convention.mk <$> .field "successThreshold" (Reader.natural uint32Max)
    <*> .field "botchFace" (Reader.natural uint32Max)
    <*> .field "criticalThreshold" (Reader.natural uint32Max)

end Convention

namespace DieRoll

def save (d : DieRoll) : Document := .record [("faces", saveNaturals d.faces)]

def load : Reader DieRoll := RecordReader.read <|
  DieRoll.mk <$> .field "faces" (Reader.list (Reader.natural uint32Max))

end DieRoll

namespace Roll

def save (r : Roll) : Document :=
  .record [("pool", r.pool.save),
    ("dice", .list (r.dice.map DieRoll.save)),
    ("successes", .integer r.successes),
    ("botches", .integer r.botches),
    ("netSuccesses", .integer r.netSuccesses),
    ("isFumble", .bool r.isFumble),
    ("isCriticalSuccess", .bool r.isCritical)]

def load : Reader Roll := RecordReader.read <|
  Roll.mk <$> .field "pool" Pool.load
    <*> .field "dice" (Reader.list DieRoll.load)
    <*> .field "successes" (Reader.natural uint32Max)
    <*> .field "botches" (Reader.natural uint32Max)
    <*> .field "netSuccesses" (Reader.natural uint32Max)
    <*> .field "isFumble" Reader.bool
    <*> .field "isCriticalSuccess" Reader.bool

end Roll

namespace RollMode

/-- Every mode. -/
def all : List RollMode := [normal, advantage, disadvantage]

def savedName : RollMode → String
  | normal => "normal"
  | advantage => "advantage"
  | disadvantage => "disadvantage"

def save (mode : RollMode) : Document := .text mode.savedName

def load : Reader RollMode := Reader.variant savedName all

end RollMode

namespace AdvantageRoll

def save (r : AdvantageRoll) : Document :=
  .record [("advantage", r.mode.save),
    ("kept", r.kept.save),
    ("discarded", (r.discarded.map Roll.save).getD .null)]

def load : Reader AdvantageRoll := RecordReader.read <|
  AdvantageRoll.mk <$> .field "advantage" RollMode.load
    <*> .field "kept" Roll.load
    <*> .optional "discarded" Roll.load

end AdvantageRoll

end Tabletop
