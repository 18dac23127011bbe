import Mathlib.Data.List.DropRight
import Mathlib.Order.Bounds.Basic

/-!
# Streaks

A streak is a stretch of neighbouring members of a list that share a property. In a log that grows
at its end, only the streak that ends the log can grow. So the longest streak of the longer log is
the longest one so far, or the one that now ends it.
-/

namespace Tabletop

variable {α : Type} {p : α → Bool} {xs run : List α}

/-- The number of members at the end of a list that have a property, back to the last one that has
not. -/
def trailingRun (p : α → Bool) (xs : List α) : Nat := (xs.rtakeWhile p).length

/-- The lengths of the stretches that end a list and whose members all have a property. -/
def endingRuns (p : α → Bool) (xs : List α) : Set Nat :=
  {k | ∃ run, run <:+ xs ∧ (∀ x ∈ run, p x = true) ∧ run.length = k}

/-- The lengths of the stretches anywhere in a list whose members all have a property. -/
def runLengths (p : α → Bool) (xs : List α) : Set Nat :=
  {k | ∃ run, run <:+: xs ∧ (∀ x ∈ run, p x = true) ∧ run.length = k}

@[simp] theorem trailingRun_nil (p : α → Bool) : trailingRun p [] = 0 := rfl

theorem trailingRun_append_singleton (p : α → Bool) (xs : List α) (x : α) :
    trailingRun p (xs ++ [x]) = if p x then trailingRun p xs + 1 else 0 := by
  unfold trailingRun
  rw [List.rtakeWhile_concat]
  split
  · rw [List.length_append, List.length_singleton]
  · rfl

theorem trailingRun_append_of_pos {x : α} (h : p x = true) :
    trailingRun p (xs ++ [x]) = trailingRun p xs + 1 := by
  rw [trailingRun_append_singleton, if_pos h]

theorem trailingRun_append_of_neg {x : α} (h : p x = false) :
    trailingRun p (xs ++ [x]) = 0 := by
  rw [trailingRun_append_singleton, h, if_neg Bool.false_ne_true]

/-- A list does not end in a streak of a property and a streak of its opposite. -/
theorem trailingRun_eq_zero_or (p : α → Bool) (xs : List α) :
    trailingRun p xs = 0 ∨ trailingRun (fun x => !p x) xs = 0 := by
  induction xs using List.reverseRecOn with
  | nil => exact .inl rfl
  | append_singleton xs x _ =>
    cases hx : p x with
    | false => exact .inl (trailingRun_append_of_neg hx)
    | true => exact .inr (trailingRun_append_of_neg (by rw [hx]; rfl))

theorem length_le_trailingRun (hsuffix : run <:+ xs) (hrun : ∀ x ∈ run, p x = true) :
    run.length ≤ trailingRun p xs := by
  induction xs using List.reverseRecOn generalizing run with
  | nil =>
    obtain rfl := List.suffix_nil.mp hsuffix
    exact Nat.zero_le _
  | append_singleton xs x ih =>
    -- A stretch at the end is empty, or it has `x` behind a stretch that ended the list before.
    rcases List.suffix_concat_iff.mp hsuffix with rfl | ⟨rest, rfl, hrest⟩
    · exact Nat.zero_le _
    · have hx : p x = true := hrun x (List.mem_append_right _ (List.mem_singleton_self x))
      have hle := ih hrest fun y hy => hrun y (List.mem_append_left _ hy)
      rw [trailingRun_append_of_pos hx, List.length_append, List.length_singleton]
      exact Nat.succ_le_succ hle

/-- The trailing run is the longest of the streaks that end the list. -/
theorem isGreatest_trailingRun (p : α → Bool) (xs : List α) :
    IsGreatest (endingRuns p xs) (trailingRun p xs) := by
  constructor
  · exact ⟨xs.rtakeWhile p, List.rtakeWhile_suffix p xs,
      fun x hx => List.mem_rtakeWhile_imp hx, rfl⟩
  · rintro k ⟨run, hsuffix, hrun, rfl⟩
    exact length_le_trailingRun hsuffix hrun

/-- A streak of a log that has grown either ends it or was there before. -/
theorem runLengths_append_singleton (p : α → Bool) (xs : List α) (x : α) :
    runLengths p (xs ++ [x]) = runLengths p xs ∪ endingRuns p (xs ++ [x]) := by
  ext k
  constructor
  · rintro ⟨run, hinfix, hrun, rfl⟩
    rcases List.infix_concat_iff.mp hinfix with hsuffix | hinfix
    · exact .inr ⟨run, hsuffix, hrun, rfl⟩
    · exact .inl ⟨run, hinfix, hrun, rfl⟩
  · rintro (⟨run, hinfix, hrun, rfl⟩ | ⟨run, hsuffix, hrun, rfl⟩)
    · exact ⟨run, List.infix_concat_iff.mpr (.inr hinfix), hrun, rfl⟩
    · exact ⟨run, hsuffix.isInfix, hrun, rfl⟩

theorem le_length_of_mem_runLengths {k : Nat} (h : k ∈ runLengths p xs) : k ≤ xs.length := by
  obtain ⟨run, hinfix, -, rfl⟩ := h
  exact hinfix.length_le

theorem isGreatest_runLengths_nil (p : α → Bool) : IsGreatest (runLengths p []) 0 := by
  constructor
  · exact ⟨[], List.infix_rfl, fun x hx => absurd hx List.not_mem_nil, rfl⟩
  · rintro k ⟨run, hinfix, -, rfl⟩
    rw [List.infix_nil.mp hinfix]
    exact Nat.le_refl 0

/-- The longest streak of a log that has grown is the longest before, or the one that ends it. -/
theorem isGreatest_runLengths_append_singleton {longest : Nat}
    (h : IsGreatest (runLengths p xs) longest) (x : α) :
    IsGreatest (runLengths p (xs ++ [x])) (max longest (trailingRun p (xs ++ [x]))) := by
  rw [runLengths_append_singleton]
  exact h.union (isGreatest_trailingRun p (xs ++ [x]))

end Tabletop
