import Tabletop.Dice.NotationError
import Tabletop.Log.Timestamp.Reading
import Tabletop.Loot.DropTable
import Tabletop.Loot.WeightedPool

/-!
# Documents

Values are saved as documents: trees of truth values, numbers, texts, lists and records with named
fields. Integers are kept apart from real numbers, since a count is never read from a real number.
-/

namespace Tabletop

/-- A saved value. -/
inductive Document where
  | null
  | bool (value : Bool)
  | integer (value : Int)
  | real (value : Float)
  | text (value : String)
  | list (items : List Document)
  | record (fields : List (String × Document))
  deriving Repr, Inhabited

/-- Why a document is not the saved form of a value. -/
inductive LoadError where
  /-- The document is of another kind. -/
  | wrongType
  /-- A number exceeds its range, or a record does not name exactly one variant. -/
  | outOfRange
  /-- A list has too few members or too many, or a record has a field twice. -/
  | wrongLength
  | unknownVariant
  | badIdentifier
  | missingField (name : String)
  | badPool (error : NotationError)
  /-- The chances make no drop table. -/
  | badTable (error : DropTableError Float)
  /-- The items make no weighted pool. -/
  | badItems (error : WeightedPoolError)
  | badTimestamp (error : Timestamp.ReadError)
  deriving Repr

/-- The wording of the reasons that carry one. -/
def LoadError.message? : LoadError → Option String
  | missingField name => some ("missing field \x60" ++ name ++ "\x60")
  | badPool error => some error.message
  | badTable error => some error.message
  | badItems error => some error.message
  | badTimestamp error => some error.message
  | _ => none

end Tabletop
