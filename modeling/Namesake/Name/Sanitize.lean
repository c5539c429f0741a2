import Namesake.Json.Display
import Namesake.Name.Cut
import Namesake.Policy.Character
import Namesake.Unicode.AsciiForm
import Namesake.Unicode.Case
import Namesake.Unicode.Composition

/-!
# Clean names

A raw name becomes a clean one in a fixed order of steps: it is brought into composed or ASCII form,
whatever its alphabet does not have is replaced by `_`, what may not lead is dropped, a file
extension at the end is hidden, what may not end a name is dropped, and every run of separators
becomes one. The result may be empty.

## Main definitions

* `canonicalName` — the form in which names are compared
* `hideExtension` — hides a file extension at the end of a text
* `collapse` — joins runs of separators
* `CharacterPolicy.clean` — the clean form of a text
* `CharacterPolicy.sanitize` — the clean form of a raw name
-/

namespace Namesake

open Unicode

/-- The form in which names are compared: composed, and then in lower case. -/
def canonicalName (t : Text) : Text :=
  lowercase (nfc t)

/-- The file extensions that a name must not seem to end in. -/
def confusingExtensions : List Text :=
  ["js".toList, "json".toList, "css".toList, "htm".toList, "html".toList, "xml".toList,
    "jpg".toList, "jpeg".toList, "png".toList, "gif".toList, "bmp".toList, "ico".toList,
    "tif".toList, "tiff".toList, "woff".toList]

/-- Does a character stand for a letter of an extension when case is ignored? The long `ſ` is an `s`
and the dotted `İ` an `i`, as by the simple rules of case. -/
def matchesLetter (letter c : Char) : Bool :=
  c = letter || c = letter.toUpper || (letter = 's' && c = 'ſ') || (letter = 'i' && c = 'İ')

/-- Does the text spell the word when case is ignored? -/
def spells : Text → Text → Bool
  | [], [] => true
  | letter :: word, c :: rest => matchesLetter letter c && spells word rest
  | _, _ => false

/-- Is the text one of the extensions when case is ignored? -/
def isConfusingExtension (t : Text) : Bool :=
  confusingExtensions.any fun word => spells word t

/-- Replaces an extension at the end of the text, with its point, by `_`. -/
def hideExtension : Text → Text
  | [] => []
  | c :: rest =>
    if c = '.' && isConfusingExtension rest then ['_'] else c :: hideExtension rest

/-- Joins every run of two or more separators to one `_`. `pending` is what the run that is under
way would leave behind. -/
def collapseFrom (pending : Option Char) : Text → Text
  | [] => pending.toList
  | c :: rest =>
    if isSeparator c then collapseFrom (some (if pending.isSome then '_' else c)) rest
    else pending.toList ++ c :: collapseFrom none rest

/-- Joins every run of two or more separators to one `_`; a single separator stays. -/
def collapse (t : Text) : Text :=
  collapseFrom none t

namespace CharacterPolicy

/-- Is the character in the alphabet of the policy? -/
def admits (p : CharacterPolicy) (c : Char) : Bool :=
  isSeparator c || if p.unicode then isWord c else isAsciiWord c

/-- May the character begin a name? -/
def leads (p : CharacterPolicy) (c : Char) : Bool :=
  if p.unicode then c = '_' || isWord c else isAsciiWord c

/-- The spelling from which a clean name is made: composed, or transliterated into ASCII. -/
def spelling (p : CharacterPolicy) (t : Text) : Text :=
  if p.unicode then nfc t else transliterate t

/-- Is the cluster a single character of the ASCII alphabet? -/
def isPlainCluster : Text → Bool
  | [c] => isSeparator c || isAsciiWord c
  | _ => false

/-- Replaces every cluster that a list of admitted ones does not have by `_`. Plain ASCII is always
admitted. -/
def restrict (allow : Text → Bool) (t : Text) : Text :=
  (t.graphemes.map fun g => if isPlainCluster g || allow g then g else ['_']).flatten

/-- The list of admitted clusters that is in force. It restricts the wide alphabet only. -/
def allowInForce (p : CharacterPolicy) : Option (Text → Bool) :=
  if p.unicode then p.allow else none

/-- The text with everything beyond the alphabet replaced by `_`. -/
def mask (p : CharacterPolicy) (t : Text) : Text :=
  let masked := (p.spelling t).map fun c => if p.admits c then c else '_'
  match p.allowInForce with
  | some allow => restrict allow masked
  | none => masked

/-- The clean form of a text. -/
def clean (p : CharacterPolicy) (t : Text) : Text :=
  collapse (hideExtension ((p.mask t).dropWhile fun c => !p.leads c)).trimEnd

/-- The text of a raw name. In the absence of a name it is empty; any other value is read as it
would be shown in a message. -/
def rawText : Json → Text
  | .null => []
  | v => v.display.toList

/-- The clean form of a raw name. -/
def sanitize (p : CharacterPolicy) (raw : Json) : Text :=
  p.clean (rawText raw)

end CharacterPolicy

end Namesake
