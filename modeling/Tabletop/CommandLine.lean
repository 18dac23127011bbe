import Tabletop.Check.Outcome
import Tabletop.Session.Basic

/-!
# The command line

One roll from the command line: the notation, and optionally a difficulty to compare the net
successes with. The difficulty is read first, then the settings, and last the notation; the first
that is faulty ends the program with a report on the error output.
-/

namespace Tabletop.CommandLine

open Text

/-- What the program prints, and how it ends. -/
structure Result where
  code : Nat := 0
  stdout : String := ""
  stderr : String := ""
  deriving DecidableEq, Repr

/-- Why the program prints no roll. -/
inductive Failure where
  /-- No notation was given. -/
  | usage
  | invalidDifficulty (raw : String) (error : NumeralError)
  | settings (error : SettingsError)
  | session (error : SessionError)
  deriving Repr

namespace Failure

def message : Failure → String
  | usage => "usage: runeforge-engine <notation> [dc]"
  | invalidDifficulty raw _ => "invalid DC " ++ quoted raw
  | settings error => error.message
  | session error => error.message

/-- The wording of what caused the failure. -/
def cause? : Failure → Option String
  | invalidDifficulty _ error => some error.message
  | session error => error.cause?
  | usage | settings _ => none

def indent : List Char := List.replicate 4 ' '

/-- Indents every line of a text. -/
def indented (text : String) : String :=
  String.ofList <| indent ++ text.toList.flatMap fun c => if c = '\n' then c :: indent else [c]

/-- The report of a failure: its wording, and below it what caused it. -/
def report (f : Failure) : String :=
  "Error: " ++ f.message ++ "\n" ++
    match f.cause? with
    | some cause => "\nCaused by:\n" ++ indented cause ++ "\n"
    | none => ""

end Failure

/-- The difficulty among the arguments that follow the notation. -/
def readDifficulty : List String → Except Failure (Option Int)
  | [] => .ok none
  | raw :: _ =>
    match readInteger int32Min int32Max raw.toList with
    | .ok i => .ok (some i)
    | .error e => .error (.invalidDifficulty raw e)

/-- The line about the explosions of a roll, if there are any. -/
def explosionLines (r : Roll) : List String :=
  if 0 < r.explosionCount then ["explosions: " ++ toString r.explosionCount] else []

/-- The line that compares a roll with a difficulty, if there is one. -/
def outcomeLines (r : Roll) : Option Int → List String
  | none => []
  | some difficulty =>
    let outcome := Outcome.ofRoll r difficulty
    ["vs DC " ++ toString difficulty ++ ": " ++ outcome.tier.displayName ++
      " (margin " ++ toString outcome.margin ++ ")"]

def rollLines (r : Roll) (difficulty : Option Int) : List String :=
  [toString r.pool ++ ": " ++ listText r.rawRolls,
    "net successes: " ++ toString r.netSuccesses ++ " (successes " ++ toString r.successes ++
      ", botches " ++ toString r.botches ++ ")"] ++
    explosionLines r ++ ["total: " ++ toString r.total] ++ outcomeLines r difficulty

def lines (args : List String) (env : Environment) (entropy : UInt64) :
    Except Failure (List String) := do
  let notationText :: rest := args | .error .usage
  let difficulty ← readDifficulty rest
  let settings ← (Settings.read env).1.mapError .settings
  let session := Session.startSeeded settings entropy ({ next := { seconds := 0 } } : SteadyClock)
  let r ← (session.roll notationText (some "cli")).1.mapError .session
  return rollLines r difficulty

/-- What the program does with its arguments and environment. The entropy stands in for a seed when
the environment names none. -/
def run (args : List String) (env : Environment) (entropy : UInt64) : Result :=
  match lines args env entropy with
  | .ok ls => { stdout := String.join (ls.map (· ++ "\n")) }
  | .error f => { code := 1, stderr := f.report }

end Tabletop.CommandLine
