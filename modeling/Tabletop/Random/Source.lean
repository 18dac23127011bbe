import Tabletop.Bounds

/-!
# Sources of randomness

Nothing here draws from a hidden source: every operation that needs chance takes the state of a
source and returns the state that is left. A source answers two requests, for an integer in a
closed range and for a real number in the unit interval. Nothing is assumed about the answers.
-/

namespace Tabletop

/-- One request to a source of randomness. -/
inductive Request where
  | integer (lo hi : Int)
  | unit
  deriving DecidableEq, Repr

/-- The states of a source of randomness. Each request is answered with a value and the state that
is left. -/
class Source (σ : Type) where
  /-- An integer between two bounds, both included. -/
  integer : Int → Int → σ → Int × σ
  /-- A real number in `[0, 1)`. -/
  unit : σ → Float × σ

/-- The integers of the source lie in the requested range, if this is one of signed words. -/
def Source.KeepsRange (σ : Type) [Source σ] : Prop :=
  ∀ (lo hi : Int) (s : σ), int32Min ≤ lo → lo ≤ hi → hi ≤ int32Max →
    lo ≤ (Source.integer lo hi s).1 ∧ (Source.integer lo hi s).1 ≤ hi

/-- A source with the requests it has answered, the latest first. -/
structure Recorded (σ : Type) where
  source : σ
  answered : List Request := []
  deriving Repr

namespace Recorded

variable {σ : Type} [Source σ]

instance : Source (Recorded σ) where
  integer lo hi s :=
    let (value, source) := Source.integer lo hi s.source
    (value, ⟨source, .integer lo hi :: s.answered⟩)
  unit s :=
    let (value, source) := Source.unit s.source
    (value, ⟨source, .unit :: s.answered⟩)

/-- The requests in the order in which they were made. -/
def requests (s : Recorded σ) : List Request := s.answered.reverse

@[simp] theorem integer_value (lo hi : Int) (s : Recorded σ) :
    (Source.integer lo hi s).1 = (Source.integer lo hi s.source).1 := rfl

@[simp] theorem integer_source (lo hi : Int) (s : Recorded σ) :
    (Source.integer lo hi s).2.source = (Source.integer lo hi s.source).2 := rfl

@[simp] theorem integer_requests (lo hi : Int) (s : Recorded σ) :
    (Source.integer lo hi s).2.requests = s.requests ++ [.integer lo hi] := by
  simp [requests, Source.integer]

@[simp] theorem unit_value (s : Recorded σ) :
    (Source.unit s).1 = (Source.unit s.source).1 := rfl

@[simp] theorem unit_source (s : Recorded σ) :
    (Source.unit s).2.source = (Source.unit s.source).2 := rfl

@[simp] theorem unit_requests (s : Recorded σ) :
    (Source.unit s).2.requests = s.requests ++ [.unit] := by
  simp [requests, Source.unit]

end Recorded

end Tabletop
