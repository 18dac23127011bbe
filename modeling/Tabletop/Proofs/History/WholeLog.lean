import Mathlib.Algebra.GroupWithZero.Nat
import Tabletop.Log.History
import Tabletop.Proofs.Streak

/-!
# A history speaks for its whole log

A history forgets old rolls and adds each new one to its statistics. What it holds is nevertheless
what the whole log of recorded rolls would give: the kept rolls are the last ones of the log, the
totals count and add up all of it, and the streaks are those found anywhere in it.
-/

namespace Tabletop

/-! ### The last members of a list -/

section KeepLast

variable {α : Type} {n : Nat} {xs kept : List α}

theorem keepLast_eq_rtake (n : Nat) (xs : List α) : keepLast n xs = xs.rtake n := rfl

theorem keepLast_zero (xs : List α) : keepLast 0 xs = [] := by
  rw [keepLast, Nat.sub_zero, List.drop_length]

theorem keepLast_suffix (n : Nat) (xs : List α) : keepLast n xs <:+ xs := List.drop_suffix _ _

/-- What was dropped from a log is not among its last members later on. -/
theorem keepLast_keepLast_append (n : Nat) (xs : List α) (x : α) :
    keepLast n (keepLast n xs ++ [x]) = keepLast n (xs ++ [x]) := by
  cases n with
  | zero => rw [keepLast_zero, keepLast_zero]
  | succ n =>
    have htake : ((xs.rtake (n + 1)).rtake n) = xs.rtake n := by
      simp [List.rtake_eq_reverse_take_reverse, List.take_take]
    simp only [keepLast_eq_rtake, List.rtake_concat_succ, htake]

theorem getLast?_keepLast (h : 0 < n) (xs : List α) :
    (keepLast n xs).getLast? = xs.getLast? := by
  rw [keepLast, List.getLast?_drop]
  cases xs with
  | nil => simp
  | cons x xs => rw [if_neg (by simp; omega)]

end KeepLast

/-! ### Luck -/

/-- Whether the roll has no net successes. -/
def RollRecord.isUnlucky (r : RollRecord) : Bool := decide (r.netSuccesses = 0)

theorem RollRecord.isUnlucky_eq_not_isLucky (r : RollRecord) : r.isUnlucky = !r.isLucky := by
  simp [isUnlucky, isLucky, Nat.pos_iff_ne_zero]

namespace RollHistory

variable {h : RollHistory} {r : RollRecord} {xs : List RollRecord}

/-- A log ends in lucky rolls or in unlucky ones, so that one of the two runs is empty. -/
theorem trailingRun_isLucky_or_isUnlucky (xs : List RollRecord) :
    trailingRun RollRecord.isLucky xs = 0 ∨ trailingRun RollRecord.isUnlucky xs = 0 := by
  rw [funext RollRecord.isUnlucky_eq_not_isLucky]
  exact trailingRun_eq_zero_or RollRecord.isLucky xs

theorem trailingRun_isLucky_append_unlucky (hr : r.isLucky = false) (xs : List RollRecord) :
    trailingRun RollRecord.isLucky (xs ++ [r]) = 0 :=
  trailingRun_append_of_neg hr

theorem trailingRun_isUnlucky_append_lucky (hr : r.isLucky = true) (xs : List RollRecord) :
    trailingRun RollRecord.isUnlucky (xs ++ [r]) = 0 :=
  trailingRun_append_of_neg (by rw [r.isUnlucky_eq_not_isLucky, hr]; rfl)

theorem nextStreak_lucky {lucky unlucky : Nat} (h : lucky = 0 ∨ unlucky = 0) :
    nextStreak (lucky - unlucky) true = lucky + 1 := by
  unfold nextStreak
  rw [if_pos rfl]
  omega

theorem nextStreak_unlucky {lucky unlucky : Nat} (h : lucky = 0 ∨ unlucky = 0) :
    nextStreak (lucky - unlucky) false = -(unlucky + 1) := by
  unfold nextStreak
  rw [if_neg Bool.false_ne_true]
  omega

/-! ### The summary of a log -/

/-- The history holds what the log of all recorded rolls gives. -/
structure Summarizes (h : RollHistory) (xs : List RollRecord) : Prop where
  recent : h.recent = keepLast h.maxRecent xs
  totalRolls : h.totalRolls = xs.length
  totalFumbles : h.totalFumbles = xs.countP RollRecord.isFumble
  totalCriticals : h.totalCriticals = xs.countP RollRecord.isCritical
  netSuccessSum : h.netSuccessSum = (xs.map RollRecord.netSuccesses).sum
  currentStreak :
    h.currentStreak = trailingRun RollRecord.isLucky xs - trailingRun RollRecord.isUnlucky xs
  longestLuckyStreak : IsGreatest (runLengths RollRecord.isLucky xs) h.longestLuckyStreak
  longestUnluckyStreak : IsGreatest (runLengths RollRecord.isUnlucky xs) h.longestUnluckyStreak

theorem Summarizes.ofLimit (id : Identifier) (limit : Nat) : (ofLimit id limit).Summarizes [] where
  recent := (List.drop_nil ..).symm
  totalRolls := rfl
  totalFumbles := rfl
  totalCriticals := rfl
  netSuccessSum := rfl
  currentStreak := rfl
  longestLuckyStreak := isGreatest_runLengths_nil _
  longestUnluckyStreak := isGreatest_runLengths_nil _

/-- The streak is the run that ends the log, counted below zero when its rolls are unlucky. -/
theorem Summarizes.currentStreak_record (hs : h.Summarizes xs) (r : RollRecord) :
    (h.record r).currentStreak =
      trailingRun RollRecord.isLucky (xs ++ [r]) -
        trailingRun RollRecord.isUnlucky (xs ++ [r]) := by
  have hrun := trailingRun_isLucky_or_isUnlucky xs
  rw [RollHistory.currentStreak_record, hs.currentStreak, trailingRun_append_singleton,
    trailingRun_append_singleton, r.isUnlucky_eq_not_isLucky]
  -- Up to its sign the difference is one of the two runs, and the roll extends that run or ends it.
  cases r.isLucky with
  | true => simp [nextStreak_lucky hrun]
  | false => simp [nextStreak_unlucky hrun]

-- A roll of the other kind leaves an empty run at the end of the log, so that each longest streak
-- may be compared with its own trailing run whatever the roll.

theorem Summarizes.longestLuckyStreak_record (hs : h.Summarizes xs) (r : RollRecord) :
    (h.record r).longestLuckyStreak =
      max h.longestLuckyStreak (trailingRun RollRecord.isLucky (xs ++ [r])) := by
  rw [RollHistory.longestLuckyStreak_record, hs.currentStreak_record]
  cases hr : r.isLucky with
  | true => simp [trailingRun_isUnlucky_append_lucky hr]
  | false => simp [trailingRun_isLucky_append_unlucky hr]

theorem Summarizes.longestUnluckyStreak_record (hs : h.Summarizes xs) (r : RollRecord) :
    (h.record r).longestUnluckyStreak =
      max h.longestUnluckyStreak (trailingRun RollRecord.isUnlucky (xs ++ [r])) := by
  rw [RollHistory.longestUnluckyStreak_record, hs.currentStreak_record]
  cases hr : r.isLucky with
  | true => simp [trailingRun_isUnlucky_append_lucky hr]
  | false => simp [trailingRun_isLucky_append_unlucky hr]

/-- One more roll is one more entry of the log. -/
theorem Summarizes.record (hs : h.Summarizes xs) (r : RollRecord) :
    (h.record r).Summarizes (xs ++ [r]) where
  recent := by
    rw [recent_record, maxRecent_record, hs.recent, keepLast_keepLast_append]
  totalRolls := by
    rw [totalRolls_record, hs.totalRolls, List.length_append, List.length_singleton]
  totalFumbles := by
    rw [totalFumbles_record, hs.totalFumbles, List.countP_append]
    cases hfumble : r.isFumble <;> simp [hfumble]
  totalCriticals := by
    rw [totalCriticals_record, hs.totalCriticals, List.countP_append]
    cases hcritical : r.isCritical <;> simp [hcritical]
  netSuccessSum := by
    rw [netSuccessSum_record, hs.netSuccessSum, List.map_append, List.sum_append,
      List.map_singleton, List.sum_singleton]
  currentStreak := hs.currentStreak_record r
  longestLuckyStreak := by
    rw [hs.longestLuckyStreak_record]
    exact isGreatest_runLengths_append_singleton hs.longestLuckyStreak r
  longestUnluckyStreak := by
    rw [hs.longestUnluckyStreak_record]
    exact isGreatest_runLengths_append_singleton hs.longestUnluckyStreak r

/-- After any log the history holds what the log gives. -/
theorem summarizes_foldl_record (id : Identifier) (limit : Nat) (log : List RollRecord) :
    (log.foldl RollHistory.record (RollHistory.ofLimit id limit)).Summarizes log := by
  induction log using List.reverseRecOn with
  | nil => exact Summarizes.ofLimit id limit
  | append_singleton log r ih =>
    -- The fold has come to the end of `log`, where the history summarizes it.
    rw [List.foldl_append]
    exact ih.record r

theorem maxRecent_foldl_record (h : RollHistory) (log : List RollRecord) :
    (log.foldl RollHistory.record h).maxRecent = h.maxRecent := by
  induction log generalizing h with
  | nil => rfl
  | cons r log ih => exact ih (h.record r)

/-! ### Reading the streak -/

theorem Summarizes.currentStreak_of_lucky (hs : h.Summarizes xs) {k : Nat}
    (hpos : 0 < k) (hk : IsGreatest (endingRuns RollRecord.isLucky xs) k) :
    h.currentStreak = k := by
  obtain rfl : trailingRun RollRecord.isLucky xs = k := (isGreatest_trailingRun _ xs).unique hk
  have hrun := trailingRun_isLucky_or_isUnlucky xs
  rw [hs.currentStreak]
  omega

theorem Summarizes.currentStreak_of_unlucky (hs : h.Summarizes xs) {k : Nat}
    (hpos : 0 < k) (hk : IsGreatest (endingRuns RollRecord.isUnlucky xs) k) :
    h.currentStreak = -k := by
  obtain rfl : trailingRun RollRecord.isUnlucky xs = k := (isGreatest_trailingRun _ xs).unique hk
  have hrun := trailingRun_isLucky_or_isUnlucky xs
  rw [hs.currentStreak]
  omega

theorem Summarizes.currentStreak_eq_zero_iff (hs : h.Summarizes xs) :
    h.currentStreak = 0 ↔ xs = [] := by
  rw [hs.currentStreak]
  constructor
  · intro hzero
    -- The last roll of a log counts for one of the two runs.
    cases xs using List.reverseRecOn with
    | nil => rfl
    | append_singleton xs r =>
      rw [trailingRun_append_singleton, trailingRun_append_singleton,
        r.isUnlucky_eq_not_isLucky] at hzero
      cases hr : r.isLucky <;> simp [hr] at hzero <;> omega
  · rintro rfl
    rfl

/-- What a history holds after any log of rolls, whatever its limit. The kept rolls end the log and
are as many as the limit allows; the totals run over the whole log; the streak counts the longest
run of one kind of luck that ends the log, and it is zero only before the first roll; the longest
streaks are the longest runs anywhere in the log. -/
theorem summary_of_log (id : Identifier) (limit : Nat) (log : List RollRecord) :
    let h := log.foldl RollHistory.record (RollHistory.ofLimit id limit)
    (h.recent <:+ log ∧ h.recent.length = min log.length (max limit 1)) ∧
    h.last? = log.getLast? ∧
    h.totalRolls = log.length ∧
    h.totalFumbles = log.countP RollRecord.isFumble ∧
    h.totalCriticals = log.countP RollRecord.isCritical ∧
    h.netSuccessSum = (log.map RollRecord.netSuccesses).sum ∧
    (∀ k, 0 < k → IsGreatest (endingRuns RollRecord.isLucky log) k → h.currentStreak = k) ∧
    (∀ k, 0 < k → IsGreatest (endingRuns RollRecord.isUnlucky log) k → h.currentStreak = -k) ∧
    (h.currentStreak = 0 ↔ log = []) ∧
    IsGreatest (runLengths RollRecord.isLucky log) h.longestLuckyStreak ∧
    IsGreatest (runLengths RollRecord.isUnlucky log) h.longestUnluckyStreak := by
  intro h
  have hs : h.Summarizes log := summarizes_foldl_record id limit log
  have hmax : h.maxRecent = max limit 1 := maxRecent_foldl_record _ log
  have hpos : 0 < h.maxRecent := by omega
  refine ⟨⟨?_, ?_⟩, ?_, hs.totalRolls, hs.totalFumbles, hs.totalCriticals, hs.netSuccessSum,
    fun k => hs.currentStreak_of_lucky, fun k => hs.currentStreak_of_unlucky,
    hs.currentStreak_eq_zero_iff, hs.longestLuckyStreak, hs.longestUnluckyStreak⟩
  · rw [hs.recent]
    exact keepLast_suffix _ log
  · rw [hs.recent, length_keepLast, hmax, Nat.min_comm]
  · rw [last?, hs.recent, getLast?_keepLast hpos]

end RollHistory

end Tabletop
