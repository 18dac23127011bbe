import Tabletop.Log.History
import Tabletop.Session.Error
import Tabletop.Session.Event
import Tabletop.Text.Blank

/-!
# Settings

Settings come from five environment variables. A variable that is missing or blank leaves the
default; any other value must be a number, with blanks around it and a plus sign before it allowed.
The three thresholds of the convention must not be zero. The variables are read in a fixed order,
and the first that is invalid decides the error.

Reading warns of a convention under which no roll can botch, and of a history limit of zero, which
leaves the default.
-/

namespace Tabletop

open Text

/-- The environment variables that hold settings. -/
inductive Setting where
  | successThreshold
  | botchFace
  | criticalThreshold
  | seed
  | historyLimit
  deriving DecidableEq, Repr

def Setting.key : Setting → String
  | successThreshold => "RUNEFORGE_SUCCESS_THRESHOLD"
  | botchFace => "RUNEFORGE_BOTCH_FACE"
  | criticalThreshold => "RUNEFORGE_CRITICAL_THRESHOLD"
  | seed => "RUNEFORGE_RNG_SEED"
  | historyLimit => "RUNEFORGE_HISTORY_LIMIT"

/-- The values of environment variables by their names. -/
abbrev Environment := String → Option String

structure Settings where
  convention : Convention := {}
  /-- The seed of the source of randomness; without one the source is not determined. -/
  seed : Option Nat := none
  historyLimit : Nat := defaultRecent
  deriving DecidableEq, Repr

namespace Settings

/-- Reads a variable that may hold any number of 64 bits. A value that is no such number is quoted
as it stands. -/
def readNumber (env : Environment) (s : Setting) : Except SettingsError (Option Nat) :=
  match env s.key with
  | none => .ok none
  | some raw =>
    let trimmed := trim raw.toList
    if trimmed = [] then .ok none
    else match readInteger 0 uint64Max trimmed with
      | .ok n => .ok (some n.toNat)
      | .error _ => .error (.notAnInteger s.key raw)

/-- Reads a variable that must hold a positive number of 32 bits. A number that is too large is
quoted in its plain form. -/
def readThreshold (env : Environment) (s : Setting) : Except SettingsError (Option Nat) :=
  match readNumber env s with
  | .ok (some 0) => .error (.zero s.key)
  | .ok (some n) =>
    if n ≤ uint32Max then .ok (some n) else .error (.notAnInteger s.key (toString n))
  | .ok none => .ok none
  | .error e => .error e

def readConvention (env : Environment) : Except SettingsError Convention := do
  let defaults : Convention := {}
  let success ← readThreshold env .successThreshold
  let botch ← readThreshold env .botchFace
  let critical ← readThreshold env .criticalThreshold
  return ⟨success.getD defaults.successThreshold, botch.getD defaults.botchFace,
    critical.getD defaults.criticalThreshold⟩

/-- The warning that no face is a botch under a convention. -/
def botchWarnings (c : Convention) : List Event :=
  if c.successThreshold ≤ c.botchFace then [.botchesImpossible c.botchFace c.successThreshold]
  else []

def readRest (env : Environment) (convention : Convention) :
    Except SettingsError Settings × List Event :=
  match readNumber env .seed with
  | .error e => (.error e, [])
  | .ok seed =>
    match readNumber env .historyLimit with
    | .error e => (.error e, [])
    | .ok (some 0) => (.ok { convention, seed }, [.historyLimitZero defaultRecent])
    | .ok limit => (.ok { convention, seed, historyLimit := limit.getD defaultRecent }, [])

/-- Reads the settings, and returns the warnings that were given on the way. -/
def read (env : Environment) : Except SettingsError Settings × List Event :=
  match readConvention env with
  | .error e => (.error e, [])
  | .ok convention =>
    -- The warning about the convention stands even when a later variable is invalid.
    let (result, warnings) := readRest env convention
    (result, botchWarnings convention ++ warnings)

end Settings

end Tabletop
