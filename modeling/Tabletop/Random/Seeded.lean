import Tabletop.Random.ChaCha
import Tabletop.Random.Source

/-!
# Seeded sources

A source that a seed of 64 bits determines. The seed is expanded into the key of a stream of words;
an integer in a range is the upper half of the product of a word with the size of the range, where
words that would favour some answers are skipped, and a real number takes 53 bits of two words.
-/

namespace Tabletop

/-- A position in the stream of words that a seed determines. -/
structure Seeded where
  stream : ChaCha.Stream
  deriving Repr

namespace Seeded

/-- One step of the generator that expands a seed. -/
def step (state : UInt64) : UInt64 := state * 6364136223846793005 + 11634580027462260723

/-- The word that the generator gives out in a state. -/
def output (state : UInt64) : UInt32 :=
  let x := (((state >>> 18) ^^^ state) >>> 27).toUInt32
  let n := (state >>> 59).toUInt32
  (x >>> n) ||| (x <<< ((32 - n) % 32))

/-- The key of a seed: the outputs of eight consecutive states. -/
def expandSeed (seed : UInt64) : ChaCha.Key :=
  Vector.ofFn fun i : Fin 8 => output (ChaCha.times step (i.val + 1) seed)

def ofSeed (seed : UInt64) : Seeded := ⟨{ key := expandSeed seed }⟩

/-- The number of words of 32 bits. -/
def wordCount : Nat := 4294967296

def signed (w : UInt32) : Int := Int.bmod w.toNat wordCount

/-- How many words are tried for one integer. More than half of all words are accepted, so that the
bound is never reached in practice. -/
def tries : Nat := 1000000

/-- The largest lower half that is accepted for a range of `size` numbers: the largest multiple of
`size` by a power of two, less one. -/
def zone (size : Nat) : Nat := size <<< (31 - Nat.log2 size) - 1

/-- The place in a range of `size` numbers that the next accepted word names; the first place when
no word is accepted within the tries. -/
def place (size : Nat) : Nat → ChaCha.Stream → Nat × ChaCha.Stream
  | 0, s => (0, s)
  | n + 1, s =>
    let (w, s) := s.next
    -- The upper half of the product is the place, the lower half tells whether the word counts.
    let m := w.toNat * size
    if m % wordCount ≤ zone size then (m / wordCount, s) else place size n s

/-- An integer of a closed range. A range of all words takes the word itself. -/
def draw (lo hi : Int) (s : ChaCha.Stream) : Int × ChaCha.Stream :=
  let size := ((hi - lo + 1) % wordCount).toNat
  if size = 0 then
    let (w, s) := s.next
    (signed w, s)
  else
    let (p, s) := place size tries s
    (lo + p, s)

/-- A real number in `[0, 1)` with 53 bits. -/
def drawUnit (s : ChaCha.Stream) : Float × ChaCha.Stream :=
  let (low, s) := s.next
  let (high, s) := s.next
  let word := high.toUInt64 <<< 32 ||| low.toUInt64
  ((word >>> 11).toFloat * 1.1102230246251565e-16, s)

instance : Source Seeded where
  integer lo hi s :=
    let (i, stream) := draw lo hi s.stream
    (i, ⟨stream⟩)
  unit s :=
    let (x, stream) := drawUnit s.stream
    (x, ⟨stream⟩)

theorem place_lt {size : Nat} (h : 0 < size) (n : Nat) (s : ChaCha.Stream) :
    (place size n s).1 < size := by
  induction n generalizing s with
  | zero => exact h
  | succ n ih =>
    rw [place]
    dsimp only
    split
    · have hw : s.next.1.toNat < wordCount := s.next.1.toNat_lt
      exact Nat.div_lt_of_lt_mul (Nat.mul_lt_mul_of_pos_right hw h)
    · exact ih _

/-- The integers of a range that holds fewer than all words lie in the range. -/
theorem draw_mem {lo hi : Int} (h : lo ≤ hi) (hsize : hi - lo + 1 < wordCount)
    (s : ChaCha.Stream) : lo ≤ (draw lo hi s).1 ∧ (draw lo hi s).1 ≤ hi := by
  have hw : ((wordCount : Nat) : Int) = 4294967296 := rfl
  have hmod : (hi - lo + 1) % (wordCount : Int) = hi - lo + 1 :=
    Int.emod_eq_of_lt (by omega) hsize
  have hpos : 0 < (hi - lo + 1).toNat := by omega
  have hp := place_lt hpos tries s
  unfold draw
  simp only [hmod, Nat.ne_of_gt hpos, if_false]
  constructor <;> omega

theorem signed_mem (w : UInt32) : int32Min ≤ signed w ∧ signed w ≤ int32Max := by
  have hpos : 0 < wordCount := by decide
  have hlo := Int.le_bmod (x := w.toNat) hpos
  have hhi := Int.bmod_lt (x := w.toNat) hpos
  unfold signed int32Min int32Max
  unfold wordCount at hlo hhi ⊢
  omega

theorem keepsRange : Source.KeepsRange Seeded := by
  rintro lo hi ⟨stream⟩ hlo h hhi
  by_cases hsize : hi - lo + 1 < wordCount
  · exact draw_mem h hsize stream
  · -- Only the range of all words is as large as that, and it takes a word as it is.
    unfold int32Min at hlo
    unfold int32Max at hhi
    have hall : ((hi - lo + 1) % wordCount).toNat = 0 := by
      unfold wordCount at hsize ⊢
      omega
    have hdraw : (Source.integer lo hi (⟨stream⟩ : Seeded)).1 = signed stream.next.1 := by
      simp only [Source.integer, draw, if_pos hall]
    obtain ⟨hmin, hmax⟩ := signed_mem stream.next.1
    unfold int32Min at hmin
    unfold int32Max at hmax
    unfold wordCount at hsize
    rw [hdraw]
    constructor <;> omega

end Seeded

end Tabletop
