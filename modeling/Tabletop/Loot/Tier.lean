/-!
# Tiers

A tier list is an ordered list of grades. Its order decides which slice of the unit interval a tier
owns in a drop table. A tier may be left out of the list; it can then never be drawn. Nothing keeps
a list from naming a tier twice; the lists that name none twice are the tier sets.
-/

namespace Tabletop

/-- Tiers in their order. -/
class TierList (τ : Type) where
  /-- The tiers, lowest first. -/
  all : List τ
  /-- The name of a tier in messages. -/
  name : τ → String

/-- An ordered set of tiers: a list without repetition. -/
class TierSet (τ : Type) extends TierList τ where
  all_nodup : all.Nodup

namespace TierSet

export TierList (all name)

end TierSet

/-- The grade of a piece of loot, lowest first. -/
inductive Quality where
  | juryRigged
  | scavenged
  | clanForged
  | optimized
  | mythForged
  deriving DecidableEq, Repr

namespace Quality

def name : Quality → String
  | juryRigged => "JuryRigged"
  | scavenged => "Scavenged"
  | clanForged => "ClanForged"
  | optimized => "Optimized"
  | mythForged => "MythForged"

def displayName : Quality → String
  | juryRigged => "Jury-Rigged"
  | scavenged => "Scavenged"
  | clanForged => "Clan-Forged"
  | optimized => "Optimized"
  | mythForged => "Myth-Forged"

instance : TierSet Quality where
  all := [juryRigged, scavenged, clanForged, optimized, mythForged]
  all_nodup := by decide
  name := name

end Quality

end Tabletop
