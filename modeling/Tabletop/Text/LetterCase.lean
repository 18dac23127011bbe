import Tabletop.Text.LetterCase.Table

/-!
# Lower case

Notation is read in lower case. The lower-case form of a text is the full mapping of Unicode: each
character goes to its own lower-case form, which for the dotted capital I is two characters, and
only the capital sigma looks at its neighbours, since it is written differently where a word ends.
-/

namespace Tabletop.Text

def capitalSigma : Char := 'Σ'

/-- The small sigma inside a word. -/
def smallSigma : Char := 'σ'

/-- The small sigma at the end of a word. -/
def finalSigma : Char := 'ς'

def isAscii (c : Char) : Bool := c.toNat < 128

/-- The lower-case form of a character by itself. -/
def lowerChar (c : Char) : List Char :=
  if isAscii c then [c.toLower]
  else if c = 'İ' then ['i', '\u0307']
  else match lowerRanges.find? (·.contains c.toNat) with
    | some range => [Char.ofNat (c.toNat + range.shift).toNat]
    | none => [c]

/-- Whether the character is upper, lower or title case. -/
def isCased (c : Char) : Bool :=
  if isAscii c then c.isAlpha else inRanges casedRanges c.toNat

/-- Whether the character is passed over when the case of a neighbour is sought. -/
def isCaseIgnorable (c : Char) : Bool :=
  if isAscii c then c == '\x27' || c == '.' || c == ':' || c == '^' || c == '\x60'
  else inRanges caseIgnorableRanges c.toNat

/-- Whether the first character that counts is cased. -/
def startsCased (cs : List Char) : Bool :=
  match cs.dropWhile isCaseIgnorable with
  | [] => false
  | c :: _ => isCased c

/-- Whether a sigma ends its word: a cased character comes before it, and none comes after it. The
text before is given backwards. -/
def endsWord (before after : List Char) : Bool :=
  startsCased before && !startsCased after

/-- The lower-case form of the rest of a text, given what precedes it backwards. -/
def lowercaseAfter (before : List Char) : List Char → List Char
  | [] => []
  | c :: cs =>
    let image :=
      if c = capitalSigma then [if endsWord before cs then finalSigma else smallSigma]
      else lowerChar c
    image ++ lowercaseAfter (c :: before) cs

def lowercase (cs : List Char) : List Char := lowercaseAfter [] cs

@[simp] theorem lowercase_nil : lowercase [] = [] := rfl

/-- By itself an ASCII character goes to one ASCII character. -/
theorem lowerChar_of_isAscii {c : Char} (h : isAscii c = true) : lowerChar c = [c.toLower] := by
  simp [lowerChar, h]

/-- No ASCII character is the capital sigma. -/
theorem ne_capitalSigma_of_isAscii {c : Char} (h : isAscii c = true) : c ≠ capitalSigma := by
  rintro rfl
  exact absurd h (by decide)

theorem lowercaseAfter_ascii {cs : List Char} (h : ∀ c ∈ cs, isAscii c = true)
    (before : List Char) : lowercaseAfter before cs = cs.map Char.toLower := by
  induction cs generalizing before with
  | nil => rfl
  | cons c cs ih =>
    have hc := h c (by simp)
    rw [lowercaseAfter, ih (fun d hd => h d (List.mem_cons_of_mem c hd))]
    simp [ne_capitalSigma_of_isAscii hc, lowerChar_of_isAscii hc]

/-- A text in ASCII is lowered character by character. -/
theorem lowercase_ascii {cs : List Char} (h : ∀ c ∈ cs, isAscii c = true) :
    lowercase cs = cs.map Char.toLower :=
  lowercaseAfter_ascii h []

theorem isAscii_of_isDigit {c : Char} (h : c.isDigit = true) : isAscii c = true := by
  have hrange : 48 ≤ c.toNat ∧ c.toNat ≤ 57 := Char.isDigit_iff_toNat.mp h
  exact decide_eq_true (by omega)

theorem isUpper_of_isDigit {c : Char} (h : c.isDigit = true) : c.isUpper = false := by
  have hrange : 48 ≤ c.toNat ∧ c.toNat ≤ 57 := Char.isDigit_iff_toNat.mp h
  have hnot : ¬ (65 ≤ c.toNat ∧ c.toNat ≤ 90) := by omega
  exact decide_eq_false hnot

theorem toLower_of_isUpper_eq_false {c : Char} (h : c.isUpper = false) : c.toLower = c := by
  have hnot : ¬ (c.val ≥ 'A'.val ∧ c.val ≤ 'Z'.val) := of_decide_eq_false h
  exact dif_neg hnot

/-- A text of ASCII characters that are no capitals is left as it is. -/
theorem lowercase_eq_self {cs : List Char}
    (h : ∀ c ∈ cs, isAscii c = true ∧ c.isUpper = false) : lowercase cs = cs := by
  rw [lowercase_ascii fun c hc => (h c hc).1]
  calc cs.map Char.toLower = cs.map id :=
        List.map_congr_left fun c hc => toLower_of_isUpper_eq_false (h c hc).2
    _ = cs := List.map_id cs

end Tabletop.Text
