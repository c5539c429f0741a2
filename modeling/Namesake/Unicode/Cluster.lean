import Namesake.Unicode.BreakClass

/-!
# Grapheme clusters

The segmentation of a text into extended grapheme clusters reads the text once from the left. At
each character a small context says whether the character joins the cluster before it. Because the
context depends on nothing to the right, the clusters of a text stay clusters when the text is cut
between two of them.

## Main definitions

* `Context` — what the rules remember of the text before a character
* `Context.joins` — does a character belong to the cluster before it?
* `clusters` — the clusters of a text
-/

namespace Namesake.Unicode

/-- How far a sequence of joined pictographs has come. -/
inductive PictographRun where
  | none
  /-- A pictograph, perhaps with attached marks. -/
  | base
  /-- The same with a joiner behind it: the next pictograph belongs to it. -/
  | joined
  deriving DecidableEq, Repr

/-- What the rules remember of the text before a character. -/
structure Context where
  /-- The class of the last character. -/
  last : BreakClass
  /-- The sequence of pictographs that is under way. -/
  pictographs : PictographRun
  /-- Is a flag half finished? -/
  halfFlag : Bool
  /-- Is there a linker, perhaps with marks, that the next consonant belongs to? -/
  linked : Bool
  deriving DecidableEq, Repr

/-- The run of pictographs after one more character. -/
def PictographRun.step (run : PictographRun) (t : Traits) : PictographRun :=
  if t.pictograph then .base
  else
    match run, t.cls with
    | .base, .extend => .base
    | .base, .joiner => .joined
    | _, _ => .none

/-- Is there a linker after one more character? Marks behind it leave it in force. Rule GB9c of
version 15.1 asks for a consonant before the linker besides. The library does not: for it `x`,
U+09CD and U+0995 are one cluster. -/
def linkedAfter (linked : Bool) : ConjunctRole → Bool
  | .linker => true
  | .extend => linked
  | .consonant | .none => false

namespace Context

/-- The context at the start of a text, before any character. -/
def start : Context :=
  ⟨.control, .none, false, false⟩

/-- The context after one more character. -/
def step (ctx : Context) (t : Traits) : Context :=
  ⟨t.cls, ctx.pictographs.step t, t.cls = .regional && !ctx.halfFlag, linkedAfter ctx.linked t.role⟩

/-- Does a character belong to the cluster before it? Line ends and controls stand alone, except
that a carriage return keeps its line feed; attaching characters join whatever is before them;
Hangul letters, flags, joined pictographs and conjuncts are completed. -/
def joins (ctx : Context) (t : Traits) : Bool :=
  match ctx.last, t.cls with
  -- line ends and controls
  | .carriageReturn, .lineFeed => true
  | .carriageReturn, _ | .lineFeed, _ | .control, _ => false
  | _, .carriageReturn | _, .lineFeed | _, .control => false
  -- attaching characters
  | _, .extend | _, .joiner | _, .spacing => true
  | .prepend, _ => true
  -- Hangul letters up to the end of a syllable
  | .lead, .lead | .lead, .vowel | .lead, .openSyllable | .lead, .closedSyllable => true
  | .openSyllable, .vowel | .openSyllable, .trail | .vowel, .vowel | .vowel, .trail => true
  | .closedSyllable, .trail | .trail, .trail => true
  -- flags are pairs
  | .regional, .regional => ctx.halfFlag
  | _, _ =>
    (ctx.pictographs = .joined && t.pictograph) ||
      (ctx.linked && t.role = .consonant)

end Context

/-- Splits a text behind a given context: the rest of the cluster that is under way, and the
clusters behind it. -/
def splitCluster (ctx : Context) : Text → Text × List Text
  | [] => ([], [])
  | c :: rest =>
    let t := Traits.of c
    let (tail, others) := splitCluster (ctx.step t) rest
    if ctx.joins t then (c :: tail, others) else ([], (c :: tail) :: others)

/-- The grapheme clusters of a text. Nothing joins the start of a text. -/
def clusters (t : Text) : List Text :=
  (splitCluster .start t).2

/-- A linker joins the next consonant even if no consonant is before it, but not another linker. -/
example :
    clusters ['x', '\u09CD', '\u0995', 'z'] = [['x', '\u09CD', '\u0995'], ['z']] ∧
      clusters [Char.ofNat 0x11A3A, Char.ofNat 0x11A3A, '\u0915'] =
        [[Char.ofNat 0x11A3A], [Char.ofNat 0x11A3A, '\u0915']] := by
  decide +kernel

end Namesake.Unicode
