import Tabletop.Dice.Scoring

/-!
# Contests

A contest compares the rolls of an initiator and a defender. A side that fumbles loses, unless both
do; otherwise the side with more net successes wins.
-/

namespace Tabletop

/-- How a contest ends. -/
inductive ContestOutcome where
  | initiatorWins
  | defenderWins
  | tie
  /-- The initiator fumbled, and the defender wins. -/
  | initiatorFumble
  /-- The defender fumbled, and the initiator wins. -/
  | defenderFumble
  | bothFumble
  deriving DecidableEq, Repr

namespace ContestOutcome

def initiatorWon : ContestOutcome → Bool
  | initiatorWins | defenderFumble => true
  | _ => false

def defenderWon : ContestOutcome → Bool
  | defenderWins | initiatorFumble => true
  | _ => false

def displayName : ContestOutcome → String
  | initiatorWins => "Initiator wins"
  | defenderWins => "Defender wins"
  | tie => "Tie"
  | initiatorFumble => "Initiator fumbles"
  | defenderFumble => "Defender fumbles"
  | bothFumble => "Both fumble"

end ContestOutcome

structure Contest where
  initiator : Roll
  defender : Roll
  outcome : ContestOutcome
  /-- Net successes of the initiator less those of the defender. -/
  margin : Int
  deriving DecidableEq, Repr

namespace Contest

/-- Compares two rolls. Fumbles are settled before net successes. -/
def resolve (initiator defender : Roll) : Contest :=
  let margin : Int := initiator.netSuccesses - defender.netSuccesses
  let outcome : ContestOutcome :=
    match initiator.isFumble, defender.isFumble with
    | true, true => .bothFumble
    | true, false => .initiatorFumble
    | false, true => .defenderFumble
    | false, false =>
      if 0 < margin then .initiatorWins else if margin < 0 then .defenderWins else .tie
  { initiator, defender, outcome, margin }

theorem resolve_swap_margin (a b : Roll) : (resolve b a).margin = -(resolve a b).margin := by
  simp only [resolve]
  omega

end Contest

end Tabletop
