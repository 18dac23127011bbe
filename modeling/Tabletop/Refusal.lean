/-!
# Answers that may be refused

Requests are answered with a value or with the reason why there is none. Where a request is about
something that it changes, the thing as it then is stands beside the answer: after a refusal, too.
-/

namespace Tabletop

variable {ε ε' α β : Type}

/-- What was answered to a request that was granted, and what it has changed, or why it was
refused. -/
def granted : Except ε α × β → Except ε (α × β)
  | (.ok a, b) => .ok (a, b)
  | (.error e, _) => .error e

theorem map_snd_granted_eq_error_iff {answer : Except ε α × β} {e : ε} :
    (granted answer).map Prod.snd = .error e ↔ answer.1 = .error e := by
  obtain ⟨_ | _, _⟩ := answer <;> simp [granted, Except.map]

theorem bind_eq_ok_iff {x : Except ε α} {f : α → Except ε β} {b : β} :
    x >>= f = .ok b ↔ ∃ a, x = .ok a ∧ f a = .ok b := by
  cases x with
  | error e =>
    constructor
    · intro h
      cases h
    · rintro ⟨a, ha, -⟩
      cases ha
  | ok a =>
    constructor
    · intro h
      exact ⟨a, rfl, h⟩
    · rintro ⟨a', ha, h⟩
      cases ha
      exact h

theorem mapError_eq_ok_iff {x : Except ε α} {f : ε → ε'} {a : α} :
    x.mapError f = .ok a ↔ x = .ok a := by
  cases x with
  | error e =>
    constructor
    · intro h
      cases h
    · intro h
      cases h
  | ok a' =>
    constructor
    · intro h
      cases h
      rfl
    · intro h
      cases h
      rfl

/-- The reason why there is no value. -/
def refusal? : Except ε α → Option ε
  | .error e => some e
  | .ok _ => none

theorem refusal?_eq_some_iff {x : Except ε α} {e : ε} : refusal? x = some e ↔ x = .error e := by
  cases x <;> simp [refusal?]

theorem refusal?_eq_none_iff {x : Except ε α} : refusal? x = none ↔ ∃ a, x = .ok a := by
  cases x <;> simp [refusal?]

end Tabletop
