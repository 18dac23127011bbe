import Mathlib.Data.List.TakeWhile
import Tabletop.Refusal
import Tabletop.Session.Settings

/-!
# What an environment sets

Each of the five variables is either unset, or holds a number that it may hold, or is rejected, and
which of these it is depends on its text alone. The settings are read when no variable is rejected,
and they are then given by the numbers of those that are set. Otherwise the first rejected variable
in the order of reading decides the error; what the others hold makes no difference.

An error about a text that is no number quotes this text as it stands in the environment. There is
one exception: a threshold beyond 32 bits has been read as a number before it is found to be too
large, and what is quoted is that number, whatever blanks, plus sign or zeros it was written with.

## Main definitions

* `Setting.IsUnset`, `Setting.Names`, `Setting.Admits` — what the text of a variable says
* `Setting.Gives`, `Setting.Rejects` — what a variable sets, or why it is rejected
* `Settings.ofValues` — the settings that the values of the variables make

## Main results

* `Settings.reading_eq_ok_iff`, `Settings.reading_eq_error_iff` — the reading of one variable
* `Settings.read_eq_ok_iff`, `Settings.read_eq_error_iff` — the reading of all variables
* `Settings.read_exact` — which environments hold settings, and which error the others give
* `Settings.readConvention_eq_ok_iff` — the convention needs the thresholds alone
* `Settings.read_eq_notAnInteger_iff` — what the error quotes
-/

namespace Tabletop

open Text

/-- Nothing is left of a text just when all of it is blank. -/
theorem Text.trim_eq_nil_iff {cs : List Char} : trim cs = [] ↔ ∀ c ∈ cs, isBlank c = true := by
  have hright (ds : List Char) : trimRight ds = [] ↔ ∀ c ∈ ds, isBlank c = true := by
    simp [trimRight, List.dropWhile_eq_nil_iff]
  rw [trim, hright]
  constructor
  · intro hrest c hc
    rw [← List.takeWhile_append_dropWhile (p := isBlank) (l := cs)] at hc
    rcases List.mem_append.mp hc with hfront | hback
    · exact List.mem_takeWhile_imp hfront
    · exact hrest c hback
  · exact fun hall c hc => hall c ((List.dropWhile_suffix isBlank).subset hc)

namespace Setting

/-- The variables in the order in which they are read. -/
def order : List Setting := [successThreshold, botchFace, criticalThreshold, seed, historyLimit]

theorem mem_order (s : Setting) : s ∈ order := by cases s <;> simp [order]

/-- Whether the variable holds a threshold of the convention. -/
def isThreshold : Setting → Bool
  | successThreshold | botchFace | criticalThreshold => true
  | seed | historyLimit => false

/-- The variable is missing or blank. -/
def IsUnset (s : Setting) (env : Environment) : Prop :=
  ∀ raw, env s.key = some raw → ∀ c ∈ raw.toList, isBlank c = true

/-- The value of the variable names the number, apart from the blanks at either end. -/
def Names (s : Setting) (env : Environment) (n : Nat) : Prop :=
  ∃ raw, env s.key = some raw ∧ Denotes (trim raw.toList) n

/-- The numbers that the variable may hold: those of 64 bits and, for a threshold, only the positive
ones of 32 bits. -/
def Admits (s : Setting) (n : Nat) : Prop :=
  n ≤ uint64Max ∧ (s.isThreshold = true → 1 ≤ n ∧ n ≤ uint32Max)

/-- The variable holds a number that it may hold. -/
def IsValid (s : Setting) (env : Environment) : Prop := ∃ n, s.Names env n ∧ s.Admits n

/-- What the variable sets: nothing when it is unset, and its number when it is valid. -/
def Gives (s : Setting) (env : Environment) : Option Nat → Prop
  | none => s.IsUnset env
  | some n => s.Names env n ∧ s.Admits n

/-- Why the variable is rejected, and with which error. -/
inductive Rejects (s : Setting) (env : Environment) : SettingsError → Prop
  /-- The value is no number, or one of more than 64 bits. -/
  | text {raw : String} (hraw : env s.key = some raw) (hset : ¬ s.IsUnset env)
      (hlarge : ∀ n, s.Names env n → uint64Max < n) : Rejects s env (.notAnInteger s.key raw)
  /-- A threshold is zero. -/
  | zero (hs : s.isThreshold = true) (h : s.Names env 0) : Rejects s env (.zero s.key)
  /-- A threshold is a number of more than 32 bits. -/
  | large {n : Nat} (hs : s.isThreshold = true) (h : s.Names env n) (hlo : uint32Max < n)
      (hhi : n ≤ uint64Max) : Rejects s env (.notAnInteger s.key (toString n))

variable {s : Setting} {env : Environment} {m n : Nat} {value value' : Option Nat}
  {e e' : SettingsError}

/-! ### The text of a variable -/

theorem isUnset_of_eq_none (h : env s.key = none) : s.IsUnset env := by
  intro raw hraw
  rw [h] at hraw
  cases hraw

theorem isUnset_iff {raw : String} (h : env s.key = some raw) :
    s.IsUnset env ↔ trim raw.toList = [] := by
  simp [IsUnset, h, trim_eq_nil_iff]

theorem names_iff {raw : String} (h : env s.key = some raw) :
    s.Names env n ↔ Denotes (trim raw.toList) n := by
  simp [Names, h]

theorem Names.unique (hm : s.Names env m) (hn : s.Names env n) : m = n := by
  obtain ⟨raw, hraw, hm⟩ := hm
  obtain ⟨raw', hraw', hn⟩ := hn
  obtain rfl : raw = raw' := Option.some.inj (hraw.symm.trans hraw')
  exact hm.unique hn

theorem Names.not_isUnset (h : s.Names env n) : ¬ s.IsUnset env := by
  obtain ⟨raw, hraw, hn⟩ := h
  rw [isUnset_iff hraw]
  intro hblank
  rw [hblank, denotes_of_ne_plus_cons (by simp)] at hn
  exact absurd hn.1 (by decide)

theorem exists_gives_iff : (∃ value, s.Gives env value) ↔ s.IsUnset env ∨ s.IsValid env := by
  constructor
  · rintro ⟨_ | n, h⟩
    · exact .inl h
    · exact .inr ⟨n, h⟩
  · rintro (h | ⟨n, h⟩)
    · exact ⟨none, h⟩
    · exact ⟨some n, h⟩

/-! ### One of three

A variable sets one value at most, or it is rejected with one error at most, but never both. -/

theorem Gives.unique (h : s.Gives env value) (h' : s.Gives env value') : value = value' := by
  cases value with
  | none =>
    cases value' with
    | none => rfl
    | some n => exact absurd h h'.1.not_isUnset
  | some m =>
    cases value' with
    | none => exact absurd h' h.1.not_isUnset
    | some n => rw [h.1.unique h'.1]

theorem Rejects.not_gives (h : s.Rejects env e) : ¬ s.Gives env value := by
  intro hgives
  cases value with
  | none =>
    cases h with
    | text _ hset _ => exact hset hgives
    | zero _ hn => exact hn.not_isUnset hgives
    | large _ hn _ _ => exact hn.not_isUnset hgives
  | some n =>
    obtain ⟨hn, h64, h32⟩ := hgives
    cases h with
    | text _ _ hlarge => exact absurd (hlarge n hn) (Nat.not_lt.mpr h64)
    | zero hs h0 => exact absurd (h0.unique hn ▸ (h32 hs).1) (by decide)
    | large hs hm hlo _ => exact absurd (hm.unique hn ▸ hlo) (Nat.not_lt.mpr (h32 hs).2)

theorem Rejects.unique (h : s.Rejects env e) (h' : s.Rejects env e') : e = e' := by
  cases h with
  | text hraw _ hlarge =>
    cases h' with
    | text hraw' => rw [Option.some.inj (hraw.symm.trans hraw')]
    | zero _ h0 => exact absurd (hlarge 0 h0) (Nat.not_lt_zero _)
    | large _ hn _ hhi => exact absurd (hlarge _ hn) (Nat.not_lt.mpr hhi)
  | zero _ h0 =>
    cases h' with
    | text _ _ hlarge => exact absurd (hlarge 0 h0) (Nat.not_lt_zero _)
    | zero => rfl
    | large _ hn hlo _ => exact absurd (hn.unique h0 ▸ hlo) (Nat.not_lt_zero _)
  | large _ hn hlo hhi =>
    cases h' with
    | text _ _ hlarge => exact absurd (hlarge _ hn) (Nat.not_lt.mpr hhi)
    | zero _ h0 => exact absurd (hn.unique h0 ▸ hlo) (Nat.not_lt_zero _)
    | large _ hn' => rw [hn.unique hn']

/-- Zero is the only number for which a threshold is rejected without a quotation. -/
theorem Rejects.zero_or_quotes (h : s.Rejects env e) :
    (s.isThreshold = true ∧ s.Names env 0 ∧ e = .zero s.key) ∨
      (¬ (s.isThreshold = true ∧ s.Names env 0) ∧ ∃ quote, e = .notAnInteger s.key quote) := by
  cases h with
  | text _ _ hlarge =>
    exact .inr ⟨fun h0 => absurd (hlarge 0 h0.2) (Nat.not_lt_zero _), _, rfl⟩
  | zero hs h0 => exact .inl ⟨hs, h0, rfl⟩
  | large _ hn hlo _ =>
    exact .inr ⟨fun h0 => absurd (hn.unique h0.2 ▸ hlo) (Nat.not_lt_zero _), _, rfl⟩

end Setting

namespace Settings

variable {s : Setting} {env : Environment} {value : Option Nat} {e : SettingsError}
  {settings : Settings} {convention : Convention}

/-! ### One variable -/

/-- A variable is unset, or it names a number of 64 bits, or it is quoted in an error. -/
theorem readNumber_cases (env : Environment) (s : Setting) :
    (s.IsUnset env ∧ readNumber env s = .ok none) ∨
    (∃ n, s.Names env n ∧ n ≤ uint64Max ∧ readNumber env s = .ok (some n)) ∨
    ∃ raw, env s.key = some raw ∧ ¬ s.IsUnset env ∧ (∀ n, s.Names env n → uint64Max < n) ∧
      readNumber env s = .error (.notAnInteger s.key raw) := by
  unfold readNumber
  split
  · next hraw => exact .inl ⟨Setting.isUnset_of_eq_none hraw, rfl⟩
  · next raw hraw =>
    dsimp only
    split
    · next hblank => exact .inl ⟨(Setting.isUnset_iff hraw).mpr hblank, rfl⟩
    · next hset =>
      split
      · next i hread =>
        obtain ⟨n, hn, hbound, rfl⟩ := readInteger_eq_ok_iff.mp hread
        exact .inr (.inl ⟨n, (Setting.names_iff hraw).mpr hn, hbound, rfl⟩)
      · next hread =>
        refine .inr (.inr ⟨raw, hraw, mt (Setting.isUnset_iff hraw).mp hset, fun n hn => ?_, rfl⟩)
        -- A number within the bound would have been read.
        rw [Setting.names_iff hraw] at hn
        by_contra hbound
        have hok := readInteger_eq_ok_iff.mpr ⟨n, hn, Nat.le_of_not_lt hbound, rfl⟩
        rw [hread] at hok
        cases hok

/-- The reading of a variable, whose bounds depend on whether it holds a threshold. -/
def reading (env : Environment) (s : Setting) : Except SettingsError (Option Nat) :=
  if s.isThreshold then readThreshold env s else readNumber env s

theorem reading_of_isThreshold (h : s.isThreshold = true) :
    reading env s = readThreshold env s := if_pos h

theorem reading_of_not_isThreshold (h : s.isThreshold = false) :
    reading env s = readNumber env s := by
  simp [reading, h]

/-- A variable gives what it sets, or it is rejected. -/
theorem reading_cases (env : Environment) (s : Setting) :
    (∃ value, reading env s = .ok value ∧ s.Gives env value) ∨
      ∃ e, reading env s = .error e ∧ s.Rejects env e := by
  have hnumber := readNumber_cases env s
  cases hs : s.isThreshold with
  | false =>
    rw [reading_of_not_isThreshold hs]
    rcases hnumber with ⟨hunset, h⟩ | ⟨n, hn, hbound, h⟩ | ⟨raw, hraw, hset, hlarge, h⟩
    · exact .inl ⟨none, h, hunset⟩
    · exact .inl ⟨some n, h, hn, hbound, by simp [hs]⟩
    · exact .inr ⟨_, h, .text hraw hset hlarge⟩
  | true =>
    rw [reading_of_isThreshold hs, readThreshold]
    rcases hnumber with ⟨hunset, h⟩ | ⟨n, hn, hbound, h⟩ | ⟨raw, hraw, hset, hlarge, h⟩
    · rw [h]
      exact .inl ⟨none, rfl, hunset⟩
    · rw [h]
      cases n with
      | zero => exact .inr ⟨_, rfl, .zero hs hn⟩
      | succ n =>
        by_cases hsmall : n + 1 ≤ uint32Max
        · have hadmits : s.Admits (n + 1) := ⟨hbound, fun _ => ⟨Nat.le_add_left 1 n, hsmall⟩⟩
          exact .inl ⟨some (n + 1), if_pos hsmall, hn, hadmits⟩
        · exact .inr ⟨_, if_neg hsmall, .large hs hn (Nat.lt_of_not_le hsmall) hbound⟩
    · rw [h]
      exact .inr ⟨_, rfl, .text hraw hset hlarge⟩

theorem reading_eq_ok_iff : reading env s = .ok value ↔ s.Gives env value := by
  rcases reading_cases env s with ⟨value', h, hgives⟩ | ⟨e, h, hrejects⟩
  · rw [h, Except.ok.injEq]
    exact ⟨fun heq => heq ▸ hgives, hgives.unique⟩
  · rw [h]
    exact iff_of_false (by simp) hrejects.not_gives

theorem reading_eq_error_iff : reading env s = .error e ↔ s.Rejects env e := by
  rcases reading_cases env s with ⟨value, h, hgives⟩ | ⟨e', h, hrejects⟩
  · rw [h]
    exact iff_of_false (by simp) fun hrejects => hrejects.not_gives hgives
  · rw [h, Except.error.injEq]
    exact ⟨fun heq => heq ▸ hrejects, hrejects.unique⟩

/-! ### All variables -/

/-- The settings that the values of the variables make. A variable without a value leaves its
default, and so does a history limit of zero. -/
def ofValues (value : Setting → Option Nat) : Settings :=
  let defaults : Settings := {}
  { convention :=
      { successThreshold := (value .successThreshold).getD defaults.convention.successThreshold
        botchFace := (value .botchFace).getD defaults.convention.botchFace
        criticalThreshold := (value .criticalThreshold).getD defaults.convention.criticalThreshold }
    seed := value .seed
    historyLimit := ((value .historyLimit).filter (0 < ·)).getD defaults.historyLimit }

/-- The variables are read in their order, and the first that is rejected decides the error. -/
theorem read_fst (env : Environment) :
    (read env).1 =
      match Setting.order.findSome? (fun s => refusal? (reading env s)) with
      | some e => .error e
      | none => .ok (ofValues fun s => (reading env s).toOption.join) := by
  -- One variable after the other: if it is rejected, both sides stop there.
  rw [read, readConvention, ← reading_of_isThreshold rfl, ← reading_of_isThreshold rfl,
    ← reading_of_isThreshold rfl]
  rcases h₁ : reading env .successThreshold with e | success
  · simp [Setting.order, refusal?, h₁, bind, Except.bind]
  rcases h₂ : reading env .botchFace with e | botch
  · simp [Setting.order, refusal?, h₁, h₂, bind, Except.bind]
  rcases h₃ : reading env .criticalThreshold with e | critical
  · simp [Setting.order, refusal?, h₁, h₂, h₃, bind, Except.bind]
  simp only [bind, Except.bind, pure, Except.pure]
  rw [readRest, ← reading_of_not_isThreshold rfl, ← reading_of_not_isThreshold rfl]
  rcases h₄ : reading env .seed with e | seed
  · simp [Setting.order, refusal?, h₁, h₂, h₃, h₄]
  rcases h₅ : reading env .historyLimit with e | limit
  · simp [Setting.order, refusal?, h₁, h₂, h₃, h₄, h₅]
  rcases limit with _ | _ | limit <;>
    simp [Setting.order, refusal?, h₁, h₂, h₃, h₄, h₅, ofValues, Except.toOption, Option.filter]

theorem read_eq_ok_iff : (read env).1 = .ok settings ↔
    ∃ value : Setting → Option Nat,
      (∀ s : Setting, s.Gives env (value s)) ∧ settings = ofValues value := by
  rw [read_fst]
  constructor
  · intro h
    split at h
    · cases h
    · next hnone =>
      refine ⟨_, fun s => ?_, (Except.ok.inj h).symm⟩
      obtain ⟨value, hvalue⟩ :=
        refusal?_eq_none_iff.mp (List.findSome?_eq_none_iff.mp hnone s s.mem_order)
      rw [hvalue]
      exact reading_eq_ok_iff.mp hvalue
  · rintro ⟨value, hvalue, rfl⟩
    have hreading (s : Setting) : reading env s = .ok (value s) := reading_eq_ok_iff.mpr (hvalue s)
    have hnone : Setting.order.findSome? (fun s => refusal? (reading env s)) = none := by
      simp [hreading, refusal?]
    rw [hnone]
    simp [hreading, Except.toOption]

theorem read_eq_error_iff : (read env).1 = .error e ↔
    ∃ (before : List Setting) (s : Setting) (after : List Setting),
      Setting.order = before ++ s :: after ∧ s.Rejects env e ∧
        ∀ t ∈ before, ∃ value, t.Gives env value := by
  have hfirst : (read env).1 = .error e ↔
      Setting.order.findSome? (fun s => refusal? (reading env s)) = some e := by
    rw [read_fst]
    split <;> simp [*]
  rw [hfirst, List.findSome?_eq_some_iff]
  simp only [refusal?_eq_some_iff, refusal?_eq_none_iff, reading_eq_error_iff, reading_eq_ok_iff]

theorem exists_read_eq_ok_iff :
    (∃ settings, (read env).1 = .ok settings) ↔ ∀ s : Setting, s.IsUnset env ∨ s.IsValid env := by
  simp only [← Setting.exists_gives_iff, read_eq_ok_iff]
  constructor
  · rintro ⟨-, value, hvalue, -⟩ s
    exact ⟨value s, hvalue s⟩
  · intro h
    exact ⟨_, fun s => (h s).choose, fun s => (h s).choose_spec, rfl⟩

/-- A threshold that is set, or left at a positive default, is positive. -/
theorem getD_pos_of_gives (h : s.Gives env value) (hs : s.isThreshold = true) {default : Nat}
    (hdefault : 1 ≤ default) : 1 ≤ value.getD default := by
  cases value with
  | none => exact hdefault
  | some n => exact (h.2.2 hs).1

theorem getD_le_of_gives (h : s.Gives env value) (hs : s.isThreshold = true) {default : Nat}
    (hdefault : default ≤ uint32Max) : value.getD default ≤ uint32Max := by
  cases value with
  | none => exact hdefault
  | some n => exact (h.2.2 hs).2

theorem historyLimit_ofValues_pos (value : Setting → Option Nat) :
    1 ≤ (ofValues value).historyLimit := by
  cases h : value .historyLimit with
  | none => simp [ofValues, h, defaultRecent]
  | some n => cases n <;> simp [ofValues, h, Option.filter, defaultRecent]

/-- An environment holds settings just when each variable is unset or valid. The settings are then
made of the numbers of the valid variables and of defaults for the others, with a default also in
place of a history limit of zero, so that no threshold and no limit is zero. In every other
environment the error is about the first variable in the order of reading that is neither unset nor
valid: it says that the variable is zero if it is a threshold that names this number, and else that
it is no number. -/
theorem read_exact (env : Environment) :
    ((∃ settings, (read env).1 = .ok settings) ↔
      ∀ s : Setting, s.IsUnset env ∨ s.IsValid env) ∧
    (∀ settings, (read env).1 = .ok settings ↔
      ∃ value : Setting → Option Nat,
        (∀ s : Setting, s.Gives env (value s)) ∧ settings = ofValues value) ∧
    (∀ settings, (read env).1 = .ok settings →
      1 ≤ settings.convention.successThreshold ∧ 1 ≤ settings.convention.botchFace ∧
        1 ≤ settings.convention.criticalThreshold ∧ 1 ≤ settings.historyLimit) ∧
    ∀ e, (read env).1 = .error e →
      ∃ (before : List Setting) (s : Setting) (after : List Setting),
        Setting.order = before ++ s :: after ∧
        (∀ t ∈ before, t.IsUnset env ∨ t.IsValid env) ∧ ¬ (s.IsUnset env ∨ s.IsValid env) ∧
        ((s.isThreshold = true ∧ s.Names env 0 ∧ e = .zero s.key) ∨
          (¬ (s.isThreshold = true ∧ s.Names env 0) ∧
            ∃ quote, e = .notAnInteger s.key quote)) := by
  refine ⟨exists_read_eq_ok_iff, fun settings => read_eq_ok_iff, ?_, ?_⟩
  · intro settings h
    obtain ⟨value, hvalue, rfl⟩ := read_eq_ok_iff.mp h
    exact ⟨getD_pos_of_gives (hvalue .successThreshold) rfl (by decide),
      getD_pos_of_gives (hvalue .botchFace) rfl (by decide),
      getD_pos_of_gives (hvalue .criticalThreshold) rfl (by decide),
      historyLimit_ofValues_pos value⟩
  · intro e h
    obtain ⟨before, s, after, horder, hrejects, hbefore⟩ := read_eq_error_iff.mp h
    refine ⟨before, s, after, horder, fun t ht => Setting.exists_gives_iff.mp (hbefore t ht), ?_,
      hrejects.zero_or_quotes⟩
    rw [← Setting.exists_gives_iff]
    rintro ⟨value, hgives⟩
    exact hrejects.not_gives hgives

/-! ### The convention -/

/-- The convention is read when no threshold is rejected, whatever the other variables hold. -/
theorem readConvention_eq_ok_iff : readConvention env = .ok convention ↔
    ∃ value : Setting → Option Nat,
      (∀ s : Setting, s.isThreshold = true → s.Gives env (value s)) ∧
        convention = (ofValues value).convention := by
  rw [readConvention, ← reading_of_isThreshold rfl, ← reading_of_isThreshold rfl,
    ← reading_of_isThreshold rfl]
  constructor
  · intro h
    obtain ⟨success, hsuccess, h⟩ := bind_eq_ok_iff.mp h
    obtain ⟨botch, hbotch, h⟩ := bind_eq_ok_iff.mp h
    obtain ⟨critical, hcritical, h⟩ := bind_eq_ok_iff.mp h
    obtain rfl := Except.ok.inj h
    let value : Setting → Option Nat
      | .successThreshold => success
      | .botchFace => botch
      | .criticalThreshold => critical
      | .seed | .historyLimit => none
    refine ⟨value, fun s hs => ?_, rfl⟩
    cases s with
    | successThreshold => exact reading_eq_ok_iff.mp hsuccess
    | botchFace => exact reading_eq_ok_iff.mp hbotch
    | criticalThreshold => exact reading_eq_ok_iff.mp hcritical
    | seed | historyLimit => cases hs
  · rintro ⟨value, hvalue, rfl⟩
    rw [reading_eq_ok_iff.mpr (hvalue .successThreshold rfl),
      reading_eq_ok_iff.mpr (hvalue .botchFace rfl),
      reading_eq_ok_iff.mpr (hvalue .criticalThreshold rfl)]
    rfl

/-- The thresholds of an accepted convention are positive, whether they are read or left out. -/
theorem readConvention_pos (h : readConvention env = .ok convention) :
    0 < convention.successThreshold ∧ 0 < convention.botchFace ∧
      0 < convention.criticalThreshold := by
  obtain ⟨value, hvalue, rfl⟩ := readConvention_eq_ok_iff.mp h
  exact ⟨getD_pos_of_gives (hvalue .successThreshold rfl) rfl (by decide),
    getD_pos_of_gives (hvalue .botchFace rfl) rfl (by decide),
    getD_pos_of_gives (hvalue .criticalThreshold rfl) rfl (by decide)⟩

/-- The botch face of an accepted convention is a number that a face can have. -/
theorem botchFace_le_of_readConvention (h : readConvention env = .ok convention) :
    convention.botchFace ≤ uint32Max := by
  obtain ⟨value, hvalue, rfl⟩ := readConvention_eq_ok_iff.mp h
  exact getD_le_of_gives (hvalue .botchFace rfl) rfl (by decide)

/-- Settings hold the convention that was read. -/
theorem readConvention_of_read (h : (read env).1 = .ok settings) :
    readConvention env = .ok settings.convention := by
  unfold read at h
  split at h
  · cases h
  · next convention hconvention =>
    have hrest : (readRest env convention).1 = .ok settings := h
    rw [hconvention]
    unfold readRest at hrest
    split at hrest
    · cases hrest
    · split at hrest
      · cases hrest
      · obtain rfl := Except.ok.inj hrest
        rfl
      · obtain rfl := Except.ok.inj hrest
        rfl

/-! ### Quotations -/

/-- Which variable is called no number, and what is quoted. It is the first that is rejected for
another reason than being zero. If its text is no number or one of more than 64 bits, the quotation
is this text, character by character. The only other variables that are called no numbers are
thresholds of more than 32 bits; there the quotation is the number in its plain form, which is the
text only if that was plain as well. -/
theorem read_eq_notAnInteger_iff (env : Environment) (key quote : String) :
    (read env).1 = .error (.notAnInteger key quote) ↔
      ∃ (before : List Setting) (s : Setting) (after : List Setting) (raw : String),
        Setting.order = before ++ s :: after ∧ s.key = key ∧ env key = some raw ∧
        (∀ t ∈ before, t.IsUnset env ∨ t.IsValid env) ∧
        ((¬ s.IsUnset env ∧ (∀ n, s.Names env n → uint64Max < n) ∧ quote = raw) ∨
          (s.isThreshold = true ∧
            ∃ n, s.Names env n ∧ uint32Max < n ∧ n ≤ uint64Max ∧ quote = toString n)) := by
  rw [read_eq_error_iff]
  constructor
  · rintro ⟨before, s, after, horder, hrejects, hbefore⟩
    have hbefore : ∀ t ∈ before, t.IsUnset env ∨ t.IsValid env :=
      fun t ht => Setting.exists_gives_iff.mp (hbefore t ht)
    cases hrejects with
    | text hraw hset hlarge =>
      exact ⟨before, s, after, _, horder, rfl, hraw, hbefore, .inl ⟨hset, hlarge, rfl⟩⟩
    | large hs hn hlo hhi =>
      obtain ⟨raw, hraw, -⟩ := id hn
      exact ⟨before, s, after, raw, horder, rfl, hraw, hbefore, .inr ⟨hs, _, hn, hlo, hhi, rfl⟩⟩
  · rintro ⟨before, s, after, raw, horder, rfl, hraw, hbefore, hquote⟩
    refine ⟨before, s, after, horder, ?_, fun t ht => Setting.exists_gives_iff.mpr (hbefore t ht)⟩
    rcases hquote with ⟨hset, hlarge, rfl⟩ | ⟨hs, n, hn, hlo, hhi, rfl⟩
    · exact .text hraw hset hlarge
    · exact .large hs hn hlo hhi

/-- A threshold that is too large is not quoted as it was written, with a blank and a plus sign. -/
theorem read_misquotes_large_threshold :
    ¬ ∀ (env : Environment) (key quote : String),
      (read env).1 = .error (.notAnInteger key quote) → env key = some quote := by
  intro h
  let env : Environment := fun key =>
    if key = Setting.successThreshold.key then some " +5000000000" else none
  have hread : (read env).1 = .error (.notAnInteger Setting.successThreshold.key "5000000000") := by
    decide
  exact absurd (h env _ _ hread) (by decide)

end Settings

end Tabletop
