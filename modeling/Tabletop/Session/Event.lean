import Tabletop.Check.Contest
import Tabletop.Check.Extended
import Tabletop.Check.Outcome
import Tabletop.Dice.Rolling
import Tabletop.Loot.WeightedPool

/-!
# Events

A session tells what happens in it by events. An event has a level, a message and named fields; the
fields are written as texts in a fixed order.
-/

namespace Tabletop

/-- How important an event is. -/
inductive EventLevel where
  | debug
  | info
  | warn
  deriving DecidableEq, Repr

/-- The name of a level. -/
def EventLevel.name : EventLevel → String
  | debug => "DEBUG"
  | info => "INFO"
  | warn => "WARN"

/-- What can happen in a session. -/
inductive Event where
  | rolled (pool : Pool) (context : Option String) (rawRolls : List Nat) (netSuccesses : Nat)
  | rolledTwice (pool : Pool) (mode : RollMode) (kept discarded : Nat)
  | exploded (die : Nat) (faces : List Nat) (explosions : Nat)
  | fumble (pool : Pool) (botches : Nat)
  | critical (pool : Pool) (netSuccesses : Nat)
  | checkResolved (pool : Pool) (difficulty margin : Int) (tier : OutcomeTier)
  | contestResolved (initiator defender : Nat) (margin : Int) (outcome : ContestOutcome)
  | checkStarted (id : Identifier) (pool : Pool) (target maxRounds : Nat)
  | checkRound (id : Identifier) (round netSuccesses : Nat) (isFumble : Bool)
      (accumulated target : Nat) (status : CheckStatus)
  | checkCatastrophe (id : Identifier) (fumbles : Nat)
  | checkAbandoned (id : Identifier) (accumulated target rounds : Nat)
  | dropped (tier : String)
  | droppedNothing
  | selected (item : String) (weight totalWeight : Nat)
  | selectionFailed (error : WeightedPoolError) (poolSize : Nat)
  | seededSource (seed : Nat)
  | botchesImpossible (botchFace successThreshold : Nat)
  | historyLimitZero (limit : Nat)
  deriving DecidableEq, Repr

/-- A list of numbers between brackets. -/
def listText (ns : List Nat) : String :=
  "[" ++ String.intercalate ", " (ns.map toString) ++ "]"

/-- The name of a mode in events. -/
def RollMode.eventName : RollMode → String
  | normal => "Normal"
  | advantage => "Advantage"
  | disadvantage => "Disadvantage"

namespace Event

/-- How important an event is. -/
def level : Event → EventLevel
  | rolled .. | rolledTwice .. | exploded .. | dropped .. | droppedNothing | selected .. => .debug
  | fumble .. | critical .. | checkResolved .. | contestResolved .. | checkStarted ..
  | checkRound .. | checkAbandoned .. | seededSource .. => .info
  | checkCatastrophe .. | selectionFailed .. | botchesImpossible .. | historyLimitZero .. => .warn

/-- The message of an event. -/
def message : Event → String
  | rolled .. => "Rolled dice pool"
  | rolledTwice .. => "Rolled twice"
  | exploded .. => "Die exploded"
  | fumble .. => "Fumble"
  | critical .. => "Critical success"
  | checkResolved .. => "Skill check resolved"
  | contestResolved .. => "Contested check resolved"
  | checkStarted .. => "Extended check started"
  | checkRound .. => "Extended check round"
  | checkCatastrophe .. => "Extended check ended in catastrophic failure"
  | checkAbandoned .. => "Extended check abandoned"
  | dropped .. => "Loot drop"
  | droppedNothing => "Loot drop: nothing"
  | selected .. => "Selected weighted item"
  | selectionFailed .. => "Weighted selection failed"
  | seededSource .. => "Using seeded RNG"
  | botchesImpossible .. => "Botch face is scored as a success, so rolls can never botch"
  | historyLimitZero .. => "RUNEFORGE_HISTORY_LIMIT is 0, keeping the default history size"

/-- The fields of an event with their texts. -/
def fields : Event → List (String × String)
  | rolled pool context rawRolls net =>
    [("notation", toString pool), ("context", context.getD "-"), ("raw_rolls", listText rawRolls),
      ("net_successes", toString net)]
  | rolledTwice pool mode kept discarded =>
    [("notation", toString pool), ("advantage", mode.eventName), ("kept", toString kept),
      ("discarded", toString discarded)]
  | exploded die faces explosions =>
    [("die", toString die), ("faces", listText faces), ("explosions", toString explosions)]
  | fumble pool botches => [("notation", toString pool), ("botches", toString botches)]
  | critical pool net => [("notation", toString pool), ("net_successes", toString net)]
  | checkResolved pool difficulty margin tier =>
    [("notation", toString pool), ("dc", toString difficulty), ("margin", toString margin),
      ("outcome", tier.displayName)]
  | contestResolved initiator defender margin outcome =>
    [("initiator", toString initiator), ("defender", toString defender),
      ("margin", toString margin), ("outcome", outcome.displayName)]
  | checkStarted id pool target maxRounds =>
    [("check_id", toString id), ("notation", toString pool), ("target", toString target),
      ("max_rounds", toString maxRounds)]
  | checkRound id round net isFumble accumulated target status =>
    [("check_id", toString id), ("round", toString round), ("net_successes", toString net),
      ("fumble", if isFumble then "true" else "false"), ("accumulated", toString accumulated),
      ("target", toString target), ("status", status.displayName)]
  | checkCatastrophe id fumbles => [("check_id", toString id), ("fumbles", toString fumbles)]
  | checkAbandoned id accumulated target rounds =>
    [("check_id", toString id), ("accumulated", toString accumulated),
      ("target", toString target), ("rounds", toString rounds)]
  | dropped tier => [("tier", tier)]
  | droppedNothing => []
  | selected item weight totalWeight =>
    [("item", item), ("weight", toString weight), ("total_weight", toString totalWeight)]
  | selectionFailed error poolSize =>
    [("error", error.message), ("pool_size", toString poolSize)]
  | seededSource seed => [("seed", toString seed)]
  | botchesImpossible botchFace successThreshold =>
    [("botch_face", toString botchFace), ("success_threshold", toString successThreshold)]
  | historyLimitZero limit => [("default", toString limit)]

/-- The events of the dice that exploded, the first of the given dice having the given place. -/
def ofExplosions (place : Nat) : List DieRoll → List Event
  | [] => []
  | d :: rest =>
    if 0 < d.explosions then
      exploded place d.faces d.explosions :: ofExplosions (place + 1) rest
    else ofExplosions (place + 1) rest

/-- The events of a roll: the roll itself, the dice that exploded, and whether it is a fumble or
critical. -/
def ofRoll (r : Roll) (context : Option String) : List Event :=
  rolled r.pool context r.rawRolls r.netSuccesses :: ofExplosions 0 r.dice ++
    if r.isFumble then [fumble r.pool r.botches]
    else if r.isCritical then [critical r.pool r.netSuccesses]
    else []

end Event

end Tabletop
