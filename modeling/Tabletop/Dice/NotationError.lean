/-!
# Faults in dice notation

Why a text is no dice notation, or why no pool can be built from its parts.
-/

namespace Tabletop

/-- A fault in dice notation. The texts are parts of the notation in lower case. -/
inductive NotationError where
  /-- Nothing is left once blanks are removed. -/
  | empty
  /-- No `d` stands between a count and a number of faces. -/
  | missingSeparator (text : String)
  | invalidCount (text : String)
  /-- A pool holds at least one die. -/
  | zeroCount
  | invalidFaces (text : String)
  /-- No supported die has this many faces. -/
  | unsupportedFaces (faces : Nat)
  | invalidModifier (text : String)
  | invalidCap (text : String)
  deriving DecidableEq, Repr

def quoted (text : String) : String := "'" ++ text ++ "'"

def NotationError.message : NotationError → String
  | empty => "Empty dice notation"
  | missingSeparator text => "Missing 'd' separator in " ++ quoted text
  | invalidCount text => "Invalid dice count: " ++ quoted text
  | zeroCount => "Dice count must be at least 1"
  | invalidFaces text => "Invalid die faces: " ++ quoted text
  | unsupportedFaces faces => "Unsupported die: d" ++ toString faces
  | invalidModifier text => "Invalid modifier: " ++ quoted text
  | invalidCap text => "Invalid explosion cap: " ++ quoted text

end Tabletop
