import Tabletop.Random.Source

/-!
# Scripted sources

Sources whose answers are laid down in advance. A script is kept within the requested range, so it
cannot produce a face that no die has; a verbatim source gives its numbers as they stand, whatever
was asked; the highest source always answers with the top of the range.
-/

namespace Tabletop

/-- The largest number below one that a scripted or highest source answers. -/
def unitTop : Float := 1.0 - 2.220446049250313e-16

/-- A script of integers and a script of reals. Once a script has run dry, the answer is the lower
bound of the range. -/
structure Scripted where
  integers : List Int := []
  units : List Float := []
  deriving Repr

namespace Scripted

/-- The integer of the range that is nearest to the scripted one; the lower bound when the range
is empty. -/
def within (lo hi i : Int) : Int :=
  if hi < lo then lo else if i < lo then lo else if hi < i then hi else i

/-- The scripted real moved into the unit interval. -/
def withinUnit (x : Float) : Float :=
  if x < 0.0 then 0.0 else if unitTop < x then unitTop else x

instance : Source Scripted where
  integer lo hi s :=
    match s.integers with
    | [] => (lo, s)
    | i :: rest => (within lo hi i, { s with integers := rest })
  unit s :=
    match s.units with
    | [] => (0.0, s)
    | x :: rest => (withinUnit x, { s with units := rest })

theorem within_of_mem {lo hi i : Int} (hlo : lo ≤ i) (hhi : i ≤ hi) : within lo hi i = i := by
  unfold within
  omega

theorem within_mem {lo hi : Int} (h : lo ≤ hi) (i : Int) :
    lo ≤ within lo hi i ∧ within lo hi i ≤ hi := by
  unfold within
  omega

/-- A scripted integer that lies in the range is the answer, and the rest of the script remains. -/
theorem integer_cons {lo hi i : Int} (hlo : lo ≤ i) (hhi : i ≤ hi) (is : List Int)
    (us : List Float) :
    Source.integer lo hi (⟨i :: is, us⟩ : Scripted) = (i, ⟨is, us⟩) := by
  simp [Source.integer, within_of_mem hlo hhi]

/-- A script answers within the range that it is asked for, whatever its numbers. -/
theorem keepsRange : Source.KeepsRange Scripted := by
  rintro lo hi ⟨integers, units⟩ - h -
  cases integers with
  | nil => exact ⟨Int.le_refl lo, h⟩
  | cons i integers => exact within_mem h i

end Scripted

/-- Scripts whose numbers are answers as they stand. Once a script has run dry, the answer is the
lower bound of the range. -/
structure Verbatim where
  integers : List Int := []
  units : List Float := []
  deriving Repr

instance : Source Verbatim where
  integer lo _ s :=
    match s.integers with
    | [] => (lo, s)
    | i :: rest => (i, { s with integers := rest })
  unit s :=
    match s.units with
    | [] => (0.0, s)
    | x :: rest => (x, { s with units := rest })

/-- The source that always answers with the top of the range. -/
structure Highest where
  deriving Repr

instance : Source Highest where
  integer _ hi s := (hi, s)
  unit s := (unitTop, s)

end Tabletop
