import Tabletop.Check.Extended
import Tabletop.Loot.DropTable
import Tabletop.Loot.WeightedPool

/-!
# Errors of a session

Each part of the library has its own errors. Callers that do not care which part has failed convert
them to faults, of which there are four kinds; a session keeps the parts apart.
-/

namespace Tabletop

/-- The common form of all errors. -/
inductive Fault where
  | validation (text : String)
  | notFound (kind id : String)
  | constraint (text : String)
  | parse (text : String)
  deriving DecidableEq, Repr

def Fault.message : Fault → String
  | validation text => "Validation failed: " ++ text
  | notFound kind id => "Entity not found: " ++ kind ++ " with id " ++ id
  | constraint text => "Constraint violation: " ++ text
  | parse text => "Parse error: " ++ text

/-- Faulty notation could not be read. -/
def NotationError.toFault (e : NotationError) : Fault := .parse e.message

/-- The chances of a refused table are rejected values. -/
def DropTableError.toFault (e : DropTableError Float) : Fault := .validation e.message

/-- A missing item is not found; other errors violate the rules of a pool. -/
def WeightedPoolError.toFault : WeightedPoolError → Fault
  | itemNotFound id => .notFound "WeightedItem" id
  | e => .constraint e.message

/-- A check that has ended violates the rules; other errors are rejected values. -/
def ExtendedCheckError.toFault : ExtendedCheckError → Fault
  | notInProgress status => .constraint (message (.notInProgress status))
  | e => .validation e.message

/-- Why an environment holds no settings. -/
inductive SettingsError where
  /-- The value of the variable is no number, or one that is too large. -/
  | notAnInteger (key value : String)
  | zero (key : String)
  deriving DecidableEq, Repr

def SettingsError.message : SettingsError → String
  | notAnInteger key value => key ++ " must be a non-negative integer, got " ++ quoted value
  | zero key => key ++ " must be at least 1"

inductive SessionError where
  | dice (error : NotationError)
  | dropTable (error : DropTableError Float)
  | weightedPool (error : WeightedPoolError)
  | extendedCheck (error : ExtendedCheckError)
  | settings (error : SettingsError)
  | fault (error : Fault)
  deriving Repr

namespace SessionError

def message : SessionError → String
  | dice e => "Dice parse error: " ++ e.message
  | dropTable e => "Invalid drop table: " ++ e.message
  | weightedPool e => "Weighted pool error: " ++ e.message
  | extendedCheck e => "Extended check error: " ++ e.message
  | settings e => "Settings error: " ++ e.message
  | fault e => e.message

def toFault : SessionError → Fault
  | dice e => e.toFault
  | dropTable e => e.toFault
  | weightedPool e => e.toFault
  | extendedCheck e => e.toFault
  | settings e => .validation e.message
  | fault e => e

/-- The wording of the error that caused this one, if another part of the library raised it. -/
def cause? : SessionError → Option String
  | dice e => some e.message
  | dropTable e => some e.message
  | weightedPool e => some e.message
  | extendedCheck e => some e.message
  | settings e => some e.message
  | fault _ => none

end SessionError

end Tabletop
