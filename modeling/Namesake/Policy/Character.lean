import Namesake.Text

/-!
# Which characters names may have

## Main definitions

* `CharacterPolicy` — the alphabet of names
* `isSeparator` — the three characters that may stand between words
-/

namespace Namesake

/-- The alphabet of names. With `unicode` set it is all letters, marks and numbers, and `allow`, if
given, says which grapheme clusters beyond plain ASCII are admitted; otherwise it is the ASCII
letters and digits. In both cases `.`, `_` and `-` may stand between them. -/
structure CharacterPolicy where
  /-- Are letters beyond ASCII admitted? -/
  unicode : Bool
  /-- The clusters that are admitted, if not all are. -/
  allow : Option (Text → Bool)

/-- May the character stand between the words of a name? -/
def isSeparator (c : Char) : Bool :=
  c = '.' || c = '_' || c = '-'

/-- Is the character an ASCII letter or digit? -/
def isAsciiWord (c : Char) : Bool :=
  ('A' ≤ c && c ≤ 'Z') || ('a' ≤ c && c ≤ 'z') || ('0' ≤ c && c ≤ '9')

end Namesake
