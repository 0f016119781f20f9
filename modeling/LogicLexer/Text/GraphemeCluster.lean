import LogicLexer.Text.GraphemeBreak

/-!
# Clusters

A cluster is what a reader takes for one character: a letter with its accents, a syllable, a flag,
a pictograph made of several. Clusters are the extended grapheme clusters of Unicode 17. A place in
a text lies inside a cluster or between two by what stands around it, and `goesOn` states the rules
on the text before the place, read backwards. `flatten_clusters` says that the clusters of a text
are the text.
-/

namespace LogicLexer.Text

/-- Whether a text, read backwards, ends in a consonant with a linker among the marks on it. -/
def endsLinked (before : List Char) : Bool :=
  (before.takeWhile keepsBond).any isLinker &&
    ((before.dropWhile keepsBond).head?.map graphemeBreak == some .consonant)

/-- Whether a text, read backwards, ends in a pictograph, with or without marks on it, and a
joiner. -/
def endsJoined : List Char → Bool
  | [] => false
  | c :: before =>
    graphemeBreak c == .joiner &&
      ((before.dropWhile (graphemeBreak · == .extend)).head?.map graphemeBreak == some .pictograph)

/-- Whether a text, read backwards, ends in half a flag. -/
def endsInHalfFlag (before : List Char) : Bool :=
  (before.takeWhile (graphemeBreak · == .regionalIndicator)).length % 2 == 1

/-- Whether two characters of Hangul make one syllable. -/
def sameSyllable : GraphemeBreak → GraphemeBreak → Bool
  | .leading, b => b == .leading || b == .vowel || b == .openSyllable || b == .closedSyllable
  | .openSyllable, b => b == .vowel || b == .trailing
  | .vowel, b => b == .vowel || b == .trailing
  | .closedSyllable, b => b == .trailing
  | .trailing, b => b == .trailing
  | _, _ => false

/-- Whether nothing joins a character to what stands beside it. -/
def standsAlone (b : GraphemeBreak) : Bool :=
  b == .carriageReturn || b == .lineFeed || b == .control

/-- Whether the cluster at the end of a text, which is read backwards, goes on with a character. The
first rule that speaks of the two characters decides. -/
def goesOn (before : List Char) (c : Char) : Bool :=
  match before.head?.map graphemeBreak with
  | none => false
  | some last =>
    let this := graphemeBreak c
    if last == .carriageReturn && this == .lineFeed then true
    else if standsAlone last || standsAlone this then false
    else if this == .extend || this == .joiner || this == .spacingMark then true
    else
      last == .prepended || sameSyllable last this ||
        (this == .consonant && endsLinked before) ||
        (this == .pictograph && endsJoined before) ||
        (this == .regionalIndicator && endsInHalfFlag before)

/-- The clusters of a text behind the given text, whose last cluster may go on. Both that text and
that cluster are read backwards. -/
def clustersFrom (before cluster : List Char) : List Char → List (List Char)
  | [] => [cluster.reverse]
  | c :: cs =>
    if goesOn before c then clustersFrom (c :: before) (c :: cluster) cs
    else cluster.reverse :: clustersFrom (c :: before) [c] cs

/-- The clusters of a text. -/
def clusters : List Char → List (List Char)
  | [] => []
  | c :: cs => clustersFrom [c] [c] cs

/-- No character is lost or moved. -/
theorem flatten_clustersFrom (before cluster cs : List Char) :
    (clustersFrom before cluster cs).flatten = cluster.reverse ++ cs := by
  induction cs generalizing before cluster with
  | nil => simp [clustersFrom]
  | cons c cs ih =>
    unfold clustersFrom
    split
    · rw [ih]
      simp
    · rw [List.flatten_cons, ih]
      simp

/-- The clusters of a text are the text. -/
theorem flatten_clusters (cs : List Char) : (clusters cs).flatten = cs := by
  cases cs with
  | nil => rfl
  | cons c cs => simp [clusters, flatten_clustersFrom]

end LogicLexer.Text
