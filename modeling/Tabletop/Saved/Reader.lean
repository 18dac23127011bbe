import Tabletop.Bounds
import Tabletop.Log.Identifier
import Tabletop.Saved.Document

/-!
# Reading documents

Readers for the parts of saved values. A reader either gives a value or the first reason why there
is none.

A record may be saved with named fields or as the plain list of its fields in their order. Of the
named fields those that are present are read first, in the order of their names, and other fields
are passed over; a missing field is noticed only after that, in the order of the record. No field
may be there twice. In a list the fields are read one after the other, and their number must be
exact.
-/

namespace Tabletop

/-- Values that are saved as a text. -/
class TextForm (α : Type) where
  write : α → String
  read : String → Except LoadError α

instance : TextForm Identifier where
  write := toString
  read s :=
    match Identifier.ofChars? s.toList with
    | some id => .ok id
    | none => .error .badIdentifier

instance : TextForm Timestamp where
  write := toString
  read s := (Timestamp.read s.toList).mapError .badTimestamp

/-- The saved form of a value that is saved as a text. -/
def saveText {α : Type} [TextForm α] (a : α) : Document := .text (TextForm.write a)

/-- Reads a value from a document. -/
abbrev Reader (α : Type) := Document → Except LoadError α

namespace Reader

variable {α β : Type}

def bool : Reader Bool
  | .bool b => .ok b
  | _ => .error .wrongType

def integer (lo hi : Int) : Reader Int
  | .integer i => if lo ≤ i ∧ i ≤ hi then .ok i else .error .outOfRange
  | _ => .error .wrongType

def natural (bound : Nat) : Reader Nat
  | .integer i => if 0 ≤ i ∧ i ≤ bound then .ok i.toNat else .error .outOfRange
  | _ => .error .wrongType

/-- A real number; an integer is one too. -/
def real : Reader Float
  | .real x => .ok x
  | .integer i => .ok (Float.ofInt i)
  | _ => .error .wrongType

def text : Reader String
  | .text s => .ok s
  | _ => .error .wrongType

/-- A value that is saved as a text. -/
def written [TextForm α] : Reader α
  | .text s => TextForm.read s
  | _ => .error .wrongType

def identifier [TextForm Identifier] : Reader Identifier := written

def timestamp [TextForm Timestamp] : Reader Timestamp := written

def option (r : Reader α) : Reader (Option α)
  | .null => .ok none
  | d => (r d).map some

/-- Reads documents one after the other, up to the first that fails. -/
def each (r : Reader α) : List Document → Except LoadError (List α)
  | [] => .ok []
  | d :: ds =>
    match r d with
    | .error e => .error e
    | .ok a => (each r ds).map (a :: ·)

def list (r : Reader α) : Reader (List α)
  | .list ds => each r ds
  | _ => .error .wrongType

/-- A pair, saved as a list of two. -/
def pair (r : Reader α) (r' : Reader β) : Reader (α × β)
  | .list [] => .error .wrongLength
  | .list [d] => (r d).bind fun _ => .error .wrongLength
  | .list (d :: d' :: rest) =>
    (r d).bind fun a => (r' d').bind fun b =>
      if rest.isEmpty then .ok (a, b) else .error .wrongLength
  | _ => .error .wrongType

/-! ### Variants -/

/-- The name of a variant and what it carries. -/
def variantParts : Document → Except LoadError (String × Option Document)
  | .text name => .ok (name, none)
  | .record [(name, content)] => .ok (name, some content)
  | .record _ => .error .outOfRange
  | _ => .error .wrongType

/-- Refuses a variant that carries something, where none should. -/
def bare : Option Document → Except LoadError Unit
  | none | some .null => .ok ()
  | some _ => .error .wrongType

def variant (name : α → String) (all : List α) : Reader α := fun d =>
  (variantParts d).bind fun (found, content) =>
    match all.find? (name · == found) with
    | none => .error .unknownVariant
    | some a => (bare content).map fun _ => a

end Reader

/-! ### Records -/

/-- The fields of a record as a document holds them. -/
inductive Fields where
  /-- By name. -/
  | named (fields : List (String × Document))
  /-- One after the other; these are the ones not yet read. -/
  | placed (rest : List Document)

/-- What is wrong with the fields of a record: the ones that cannot be read, and the ones that are
missing, both in the order of the record. -/
structure Faults where
  unreadable : List (String × LoadError) := []
  missing : List String := []

/-- Reads some fields of a record, and returns the ones that are left. -/
structure RecordReader (α : Type) where
  run : Fields → Except Faults α × Fields

namespace RecordReader

variable {α β : Type}

instance : Functor RecordReader where
  map f r := ⟨fun fields =>
    let (found, fields) := r.run fields
    (found.map f, fields)⟩

/-- Joins the findings about some fields with the findings about further ones. -/
def join : Except Faults (α → β) → Except Faults α → Except Faults β
  | .ok f, .ok a => .ok (f a)
  | .error e, .ok _ => .error e
  | .ok _, .error e => .error e
  | .error e, .error e' => .error ⟨e.unreadable ++ e'.unreadable, e.missing ++ e'.missing⟩

instance : Seq RecordReader where
  seq f r := ⟨fun fields =>
    let (found, fields) := f.run fields
    let (found', fields) := (r ()).run fields
    (join found found', fields)⟩

def finding (name : String) (result : Except LoadError α) : Except Faults α :=
  result.mapError fun e => { unreadable := [(name, e)] }

/-- Reads one field, with a finding for the case that no field has its name. -/
def fieldOr (absent : Except Faults α) (name : String) (r : Reader α) : RecordReader α := ⟨fun
  | .named fields =>
    match fields.filter (·.1 == name) with
    | [] => (absent, .named fields)
    | [(_, d)] => (finding name (r d), .named fields)
    -- The first of several is read before the others are noticed.
    | (_, d) :: _ => (finding name ((r d).bind fun _ => .error .wrongLength), .named fields)
  -- Among placed fields the name plays no part.
  | .placed (d :: rest) => (finding name (r d), .placed rest)
  | .placed [] => (finding name (.error .wrongLength), .placed [])⟩

/-- A field that must be there. -/
def field (name : String) (r : Reader α) : RecordReader α :=
  fieldOr (.error { missing := [name] }) name r

/-- A field that may be missing or null. -/
def optional (name : String) (r : Reader α) : RecordReader (Option α) :=
  fieldOr (.ok none) name r.option

/-- Of some named faults, the one whose name comes first in the order of texts. -/
def firstByName (fault : String × LoadError) : List (String × LoadError) → String × LoadError
  | [] => fault
  | other :: rest => firstByName (if other.1 < fault.1 then other else fault) rest

/-- The fault of a record with named fields that is reported. -/
def Faults.reportNamed (f : Faults) : LoadError :=
  match f.unreadable, f.missing with
  | fault :: rest, _ => (firstByName fault rest).2
  | [], name :: _ => .missingField name
  | [], [] => .wrongLength

/-- The fault of a record saved as a list that is reported. -/
def Faults.reportPlaced (f : Faults) : LoadError :=
  match f.unreadable with
  | (_, e) :: _ => e
  | [] => .wrongLength

def read (r : RecordReader α) : Reader α
  | .record fields =>
    match (r.run (.named fields)).1 with
    | .ok a => .ok a
    | .error faults => .error (Faults.reportNamed faults)
  | .list items =>
    match r.run (.placed items) with
    | (.error faults, _) => .error (Faults.reportPlaced faults)
    | (.ok a, .placed []) => .ok a
    | (.ok _, _) => .error .wrongLength
  | _ => .error .wrongType

end RecordReader

end Tabletop
