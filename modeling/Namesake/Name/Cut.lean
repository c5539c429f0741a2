import Namesake.Unicode.Category
import Namesake.Unicode.Cluster

/-!
# Length and cutting

The length of a name is the number of characters that a reader sees, that is, of its grapheme
clusters, and a name that is too long is cut between two clusters. Whatever separators a cut lays
bare at the end are removed with it.

## Main definitions

* `Text.graphemes`, `Text.graphemeLength` — the clusters of a text and their number
* `Text.truncate` — the first clusters of a text
* `Text.trimEnd` — a text without what is no letter, mark or number at its end
* `Text.cutTo` — a name cut to a length
-/

namespace Namesake.Text

open Unicode

/-- The grapheme clusters of a text. -/
def graphemes (t : Text) : List Text :=
  clusters t

/-- Is every character of the text a cluster of its own, as in ASCII text without a carriage
return? -/
def isPlain (t : Text) : Bool :=
  t.isAscii && !t.contains '\r'

/-- The number of grapheme clusters. -/
def graphemeLength (t : Text) : Nat :=
  if t.isPlain then t.length else t.graphemes.length

/-- The first `n` grapheme clusters of a text, none for a negative `n`. -/
def truncate (t : Text) (n : Int) : Text :=
  if n ≤ 0 then []
  else if t.isPlain then t.take n.toNat
  else (t.graphemes.take n.toNat).flatten

/-- The text up to its last letter, mark or number. -/
def trimEnd (t : Text) : Text :=
  (t.reverse.dropWhile fun c => !isWord c).reverse

/-- A name cut to `n` grapheme clusters. A name that is short enough stays as it is; a name that is
cut ends in a letter, mark or number again. -/
def cutTo (t : Text) (n : Int) : Text :=
  if (t.graphemeLength : Int) ≤ n then t else (t.truncate n).trimEnd

end Namesake.Text
