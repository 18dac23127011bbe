import Tabletop.Proofs.Log.Identifier
import Tabletop.Proofs.Log.Timestamp
import Tabletop.Proofs.Notation.RoundTrip
import Tabletop.Saved.Dice

/-!
# Reading what was saved

The readers give back what the matching writers have written: numbers within their range, texts,
values in their written form, lists and variants of what is read back itself. A record is read back
field by field; each field is found under its name, whatever the other fields hold.
-/

namespace Tabletop

/-! ### Written forms -/

/-- The value is read back from the text that it is written as. -/
def ReadsBack {α : Type} [TextForm α] (a : α) : Prop :=
  TextForm.read (TextForm.write a) = .ok a

theorem Identifier.readsBack (id : Identifier) : ReadsBack id := by
  have hchars : (toString id).toList = id.toChars := String.toList_ofList
  simp only [ReadsBack, TextForm.read, TextForm.write, hchars, ofChars?_toChars]

theorem Timestamp.readsBack {t : Timestamp} (ht : t.IsWholeSecond) : ReadsBack t := by
  have hchars : (toString t).toList = t.toChars := String.toList_ofList
  simp only [ReadsBack, TextForm.read, TextForm.write, hchars, read_toChars ht]
  rfl

theorem Pool.readsBack (p : Pool) : ReadsBack p := by
  simp only [ReadsBack, TextForm.read, TextForm.write, parse_toString]
  rfl

namespace Reader

variable {α β : Type}

theorem bool_bool (b : Bool) : bool (.bool b) = .ok b := rfl

theorem real_real (x : Float) : real (.real x) = .ok x := rfl

theorem text_text (s : String) : text (.text s) = .ok s := rfl

theorem written_saveText [TextForm α] {a : α} (h : ReadsBack a) : written (saveText a) = .ok a := h

theorem integer_of_mem {lo hi i : Int} (hlo : lo ≤ i) (hhi : i ≤ hi) :
    integer lo hi (.integer i) = .ok i := if_pos ⟨hlo, hhi⟩

theorem natural_of_le {bound n : Nat} (h : n ≤ bound) : natural bound (.integer n) = .ok n :=
  if_pos ⟨Int.natCast_nonneg n, Int.ofNat_le.mpr h⟩

/-! ### Lists and variants -/

/-- A list is read back when each of its members is. -/
theorem list_map {r : Reader α} {save : α → Document} {xs : List α}
    (h : ∀ x ∈ xs, r (save x) = .ok x) : list r (.list (xs.map save)) = .ok xs := by
  change each r (xs.map save) = .ok xs
  induction xs with
  | nil => rfl
  | cons x xs ih =>
    rw [List.forall_mem_cons] at h
    rw [List.map_cons, each, h.1, ih h.2]
    rfl

theorem list_saveNaturals {bound : Nat} {ns : List Nat} (h : ∀ n ∈ ns, n ≤ bound) :
    list (natural bound) (saveNaturals ns) = .ok ns :=
  list_map fun n hn => natural_of_le (h n hn)

/-- A pair is read back when both of its members are. -/
theorem pair_list {r : Reader α} {r' : Reader β} {d d' : Document} {a : α} {b : β}
    (h : r d = .ok a) (h' : r' d' = .ok b) : pair r r' (.list [d, d']) = .ok (a, b) := by
  rw [pair, h, Except.bind, h']
  rfl

/-- A variant is read back by its name, when no earlier one has the same name. -/
theorem variant_name {name : α → String} {all : List α} {a : α}
    (h : all.find? (name · == name a) = some a) : variant name all (.text (name a)) = .ok a := by
  have hparts : variantParts (.text (name a)) = .ok (name a, none) := rfl
  rw [variant, hparts, Except.bind]
  dsimp only
  rw [h]
  rfl

end Reader

/-! ### Records -/

namespace RecordReader

variable {α β : Type} {fields : List (String × Document)} {r : RecordReader α} {a : α}

/-- Among named fields a reader of records finds a value. -/
def Finds (r : RecordReader α) (fields : List (String × Document)) (a : α) : Prop :=
  r.run (.named fields) = (.ok a, .named fields)

theorem Finds.map (h : r.Finds fields a) (f : α → β) : (f <$> r).Finds fields (f a) := by
  have hrun : (f <$> r).run (.named fields) =
      ((r.run (.named fields)).1.map f, (r.run (.named fields)).2) := rfl
  rw [Finds, hrun, h]
  rfl

theorem Finds.seq {rf : RecordReader (α → β)} {f : α → β} (hf : rf.Finds fields f)
    (h : r.Finds fields a) : (rf <*> r).Finds fields (f a) := by
  have hrun : (rf <*> r).run (.named fields) =
      (join (rf.run (.named fields)).1 (r.run (rf.run (.named fields)).2).1,
        (r.run (rf.run (.named fields)).2).2) := rfl
  rw [Finds, hrun, hf, h]
  rfl

/-- A field is found by its name, when no other field has it. -/
theorem finds_field {name : String} {reader : Reader α} {d : Document} (hread : reader d = .ok a)
    (hfields : fields.filter (·.1 == name) = [(name, d)] := by rfl) :
    (field name reader).Finds fields a := by
  unfold Finds field fieldOr
  dsimp only
  rw [hfields]
  dsimp only
  rw [hread]
  rfl

/-- A text that is absent is saved as null, and read back as absent. -/
theorem finds_optional_text {name : String} (context : Option String)
    (hfields : fields.filter (·.1 == name) =
      [(name, (context.map Document.text).getD .null)] := by rfl) :
    (optional name Reader.text).Finds fields context := by
  unfold Finds optional fieldOr
  dsimp only
  rw [hfields]
  cases context <;> rfl

/-- A record is read when its fields are found. -/
theorem Finds.read (h : r.Finds fields a) : r.read (.record fields) = .ok a := by
  rw [RecordReader.read, h]

end RecordReader

end Tabletop
