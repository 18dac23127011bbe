import Tabletop.Saved.Reader

/-!
# Saved loot

Drop tables and weighted pools are saved without what follows from their parts, and reading them
back builds them anew, with the same checks.
-/

namespace Tabletop

namespace Quality

def savedName : Quality → String
  | juryRigged => "juryRigged"
  | scavenged => "scavenged"
  | clanForged => "clanForged"
  | optimized => "optimized"
  | mythForged => "mythForged"

def save (q : Quality) : Document := .text q.savedName

def load : Reader Quality := Reader.variant savedName TierSet.all

end Quality

namespace Drop

variable {τ : Type}

def save (saveTier : τ → Document) : Drop τ → Document
  | tier t => .record [("tier", saveTier t)]
  | nothing => .text "nothing"

def load (loadTier : Reader τ) : Reader (Drop τ) := fun d =>
  (Reader.variantParts d).bind fun (name, content) =>
    if name = "tier" then
      match content with
      | some d => (loadTier d).map .tier
      | none => .error .wrongType
    else if name = "nothing" then (Reader.bare content).map fun _ => .nothing
    else .error .unknownVariant

end Drop

namespace DropTable

variable {τ : Type} [DecidableEq τ] [TierList τ]

def save (saveTier : τ → Document) (table : DropTable τ Float) : Document :=
  .record [("tierProbabilities",
      .list (table.entries.map fun (t, chance) => .list [saveTier t, .real chance])),
    ("noResultChance", .real table.noResult)]

/-- Reads the chances of a table. -/
def loadChances (loadTier : Reader τ) : Reader (List (τ × Float) × Float) := RecordReader.read <|
  Prod.mk <$> .field "tierProbabilities" (Reader.list (Reader.pair loadTier Reader.real))
    <*> .field "noResultChance" Reader.real

/-- Reads a table, with the checks of `DropTable.create`. -/
def load (loadTier : Reader τ) : Reader (DropTable τ Float) := fun d =>
  (loadChances loadTier d).bind fun (chances, noResult) =>
    (create chances noResult).mapError .badTable

end DropTable

namespace WeightedItem

variable {α : Type}

def save (saveItem : α → Document) (i : WeightedItem α) : Document :=
  .record [("id", .text i.id), ("item", saveItem i.item), ("weight", .integer i.weight)]

def load (loadItem : Reader α) : Reader (WeightedItem α) := RecordReader.read <|
  WeightedItem.mk <$> .field "id" Reader.text
    <*> .field "item" loadItem
    <*> .field "weight" (Reader.natural uint32Max)

end WeightedItem

namespace WeightedPool

variable {α : Type}

def save (saveItem : α → Document) (p : WeightedPool α) : Document :=
  .record [("items", .list (p.items.map (WeightedItem.save saveItem)))]

/-- Reads the items of a pool. -/
def loadItems (loadItem : Reader α) : Reader (List (WeightedItem α)) := RecordReader.read <|
  id <$> .field "items" (Reader.list (WeightedItem.load loadItem))

/-- Reads a pool, with the checks of `WeightedPool.ofItems`. -/
def load (loadItem : Reader α) : Reader (WeightedPool α) := fun d =>
  (loadItems loadItem d).bind fun items => (ofItems items).mapError .badItems

end WeightedPool

end Tabletop
