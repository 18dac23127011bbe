import Tabletop.Random.Source

/-!
# Transcripts

A transcript is a source that takes down what happens to it: each request together with the answer
that was given. Where a recorded source tells only what was asked, a transcript also tells which
answers the outcome of a run can have come from.
-/

namespace Tabletop

/-- A request to a source of randomness, with the answer that it was given. -/
inductive Exchange where
  | integer (lo hi answer : Int)
  | unit (answer : Float)
  deriving DecidableEq, Repr

/-- A source with the exchanges so far, oldest first. -/
structure Transcript (σ : Type) where
  source : σ
  exchanges : List Exchange
  deriving Repr

namespace Transcript

variable {σ : Type} [Source σ]

instance : Source (Transcript σ) where
  integer lo hi t :=
    let (value, source) := Source.integer lo hi t.source
    (value, ⟨source, t.exchanges ++ [.integer lo hi value]⟩)
  unit t :=
    let (value, source) := Source.unit t.source
    (value, ⟨source, t.exchanges ++ [.unit value]⟩)

omit [Source σ] in
def begin (s : σ) : Transcript σ := ⟨s, []⟩

theorem unit_eq (s : σ) (log : List Exchange) :
    Source.unit (⟨s, log⟩ : Transcript σ) =
      ((Source.unit s).1, ⟨(Source.unit s).2, log ++ [.unit (Source.unit s).1]⟩) := rfl

end Transcript

end Tabletop
