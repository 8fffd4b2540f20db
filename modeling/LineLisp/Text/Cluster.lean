import LineLisp.Text.Cluster.Class

/-! Clusters: what a reader takes for one character.
A text is cut between two code points unless a rule of extended grapheme
clusters keeps them together: marks stay with what they mark, the parts of a
Hangul syllable, of a conjunct of consonants, of a joined pictograph and of a
flag with one another. A conjunct goes on behind consonants of which a mark links
the last to the next one, a flag behind an odd number of regional indicators. -/
namespace LineLisp.Text

def ClusterClass.isMark : ClusterClass → Bool
  | .extend | .linker | .nonJoiner => true
  | _ => false

inductive Conjunct where
  | none
  | consonant
  | linked
deriving DecidableEq, Repr

def Conjunct.extended (before : Conjunct) : ClusterClass → Conjunct
  | .consonant => .consonant
  | .linker => if before = .none then .none else .linked
  | .extend | .joiner => before
  | _ => .none

structure ClusterEnd where
  last : ClusterClass
  pictured : Bool
  unpaired : Bool
  conjunct : Conjunct

namespace ClusterEnd

def single (c : ClusterClass) : ClusterEnd :=
  ⟨c, c == .pictograph, c == .regional, Conjunct.none.extended c⟩

def extended (before : ClusterEnd) (c : ClusterClass) : ClusterEnd :=
  { last := c
    pictured := c == .pictograph || (before.pictured && before.last != .joiner &&
      (c.isMark || c == .joiner))
    unpaired := c == .regional && !before.unpaired
    conjunct := before.conjunct.extended c }

def joins (before : ClusterEnd) (c : ClusterClass) : Bool :=
  match before.last, c with
  | .carriageReturn, c => c == .lineFeed
  | .lineFeed, _ | .control, _ => false
  | _, .carriageReturn | _, .lineFeed | _, .control => false
  | _, .extend | _, .linker | _, .nonJoiner | _, .joiner | _, .spacing => true
  | .prepended, _ => true
  | _, .consonant => before.conjunct == .linked
  | .leading, .leading | .leading, .vowel => true
  | .leading, .leadingVowel | .leading, .leadingVowelTrailing => true
  | .leadingVowel, .vowel | .leadingVowel, .trailing => true
  | .vowel, .vowel | .vowel, .trailing => true
  | .leadingVowelTrailing, .trailing | .trailing, .trailing => true
  | .joiner, .pictograph => before.pictured
  | .regional, .regional => before.unpaired
  | _, _ => false

end ClusterEnd

def clustersFrom (current : List Char) (before : ClusterEnd) : List Char → List (List Char)
  | [] => [current.reverse]
  | c :: rest =>
    let kind := clusterClass c
    if before.joins kind then clustersFrom (c :: current) (before.extended kind) rest
    else current.reverse :: clustersFrom [c] (.single kind) rest

def clusters : List Char → List (List Char)
  | [] => []
  | c :: rest => clustersFrom [c] (.single (clusterClass c)) rest

theorem flatten_clustersFrom (current : List Char) (before : ClusterEnd) (text : List Char) :
    (clustersFrom current before text).flatten = current.reverse ++ text := by
  induction text generalizing current before with
  | nil => simp [clustersFrom]
  | cons c rest ih =>
    simp only [clustersFrom]
    split <;> simp [ih]

/-- Cutting loses nothing. -/
theorem flatten_clusters (text : List Char) : (clusters text).flatten = text := by
  cases text with
  | nil => rfl
  | cons c rest => simp [clusters, flatten_clustersFrom]

end LineLisp.Text
