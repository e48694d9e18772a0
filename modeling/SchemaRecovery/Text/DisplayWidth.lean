/-
  SchemaRecovery.Text.DisplayWidth

  How many columns of a screen a text takes. A text is shown cluster by
  cluster: marks belong to the character before them, a joiner fuses the
  character after it with the one before, and a selector turns a sign into a
  picture, which is wider.
-/
import SchemaRecovery.Text.Basic
import SchemaRecovery.Text.DisplayWidth.Table

namespace SchemaRecovery.Text

/-- A number of blanks. -/
def blanks (n : Nat) : Text := List.replicate n (.char ' ')

/-! ## Widths -/

/-- The columns that a code point takes by itself. -/
def pointWidth (c : CodePoint) : Nat :=
  let n := c.toNat
  if 0x20 ≤ n && n < 0x7f then 1
  else if zeroWidthRanges.any fun r => r.1 ≤ n && n ≤ r.2 then 0
  else if doubleWidthRanges.any fun r => r.1 ≤ n && n ≤ r.2 then 2
  else 1

/-- The code point that fuses its two neighbours. -/
def joiner : CodePoint := .char '\u200d'

/-- The code point that asks for the character before it as a picture. -/
def pictureSelector : CodePoint := .char '\ufe0f'

/-- The columns that a selector adds to the character before it. -/
def addedWidth (before : Option CodePoint) : Nat :=
  if before.any fun c => pictureRanges.any fun r => r.1 ≤ c.toNat && c.toNat ≤ r.2 then 1 else 0

/-- The columns of a text. `before` is the last character that took any; after
a joiner, `fused` holds and the next code point takes none. -/
def widthFrom (before : Option CodePoint) (fused : Bool) : Text → Nat
  | [] => 0
  | c :: rest =>
    if fused then widthFrom before false rest
    else if c = joiner then widthFrom before true rest
    else if c = pictureSelector then addedWidth before + widthFrom none false rest
    else if pointWidth c = 0 then widthFrom before false rest
    else pointWidth c + widthFrom (some c) false rest

/-- The columns that a text takes. -/
def width (s : Text) : Nat := widthFrom none false s

/-! ## Clusters -/

/-- What is shown in one place: a character with its marks and what is fused
with it. -/
structure Cluster where
  points : Text
  width : Nat

/-- A cluster with one more code point. -/
def Cluster.extend (k : Cluster) (c : CodePoint) (added : Nat) : Cluster :=
  ⟨k.points ++ [c], k.width + added⟩

/-- The clusters of a text, `current` being the one already begun and `before`
and `fused` as for the width. -/
def clustersFrom (current : Cluster) (before : Option CodePoint) (fused : Bool) :
    Text → List Cluster
  | [] => [current]
  | c :: rest =>
    if fused then clustersFrom (current.extend c 0) before false rest
    else if c = joiner then clustersFrom (current.extend c 0) before true rest
    else if c = pictureSelector then
      clustersFrom (current.extend c (addedWidth before)) none false rest
    else if pointWidth c = 0 then clustersFrom (current.extend c 0) before false rest
    else current :: clustersFrom ⟨[c], pointWidth c⟩ (some c) false rest

/-- The clusters of a text. A joiner or a mark at the front stands alone. -/
def clusters : Text → List Cluster
  | [] => []
  | c :: rest =>
    if c = joiner || c = pictureSelector || pointWidth c = 0 then
      clustersFrom ⟨[c], 0⟩ none false rest
    else clustersFrom ⟨[c], pointWidth c⟩ (some c) false rest

/-! ## Fitting -/

/-- The clusters at the front that take `limit` columns in all. A cluster that
would go half beyond them becomes a blank. -/
def clipClusters : (limit : Nat) → List Cluster → Text
  | 0, _ => []
  | _, [] => []
  | limit, k :: rest =>
    if k.width ≤ limit then k.points ++ clipClusters (limit - k.width) rest else blanks 1

/-- The text cut, or followed by blanks, so that it takes `limit` columns. -/
def fit (limit : Nat) (s : Text) : Text :=
  if width s ≤ limit then s ++ blanks (limit - width s) else clipClusters limit (clusters s)

end SchemaRecovery.Text
