import Reckoner.Text.Cluster.Class

/-!
Clusters: the pieces of a text that a reader sees as one character, such as a letter with its
accents, a Hangul syllable, a flag, or a row of joined pictographs. A text is cut from left to
right; whether a cut is made before a character depends on what the scan has remembered of the
characters before it. Main statement: the clusters of a text are a partition of it.
-/

namespace Reckoner.Text

/-- How far the characters just read are towards a row of joined pictographs. -/
inductive PictureRow where
  | none
  /-- A pictograph and any number of extending characters. -/
  | begun
  /-- The same, and then a joiner. -/
  | joined
  deriving DecidableEq, Repr

/-- How far the characters just read are towards a conjunct. -/
inductive Conjunct where
  | none
  /-- A consonant and any number of extending characters. -/
  | begun
  /-- The same with a linker among them. -/
  | linked
  deriving DecidableEq, Repr

/-- What the scan remembers of the characters before the next one. -/
structure ClusterScan where
  last : ClusterClass
  /-- An odd number of regional indicators has just been read. -/
  halfFlag : Bool
  picture : PictureRow
  conjunct : Conjunct
  deriving DecidableEq, Repr

namespace ClusterScan

/-- Before the first character of a text. -/
def start : ClusterScan := ⟨.control, false, .none, .none⟩

/-- The memory after one more character. -/
def advance (scan : ClusterScan) (c : Char) : ClusterScan where
  last := ClusterClass.of c
  halfFlag := ClusterClass.of c = .regional && !scan.halfFlag
  picture :=
    match ClusterClass.of c, scan.picture with
    | .pictograph, _ => .begun
    | .extending, .begun => .begun
    | .joiner, .begun => .joined
    | _, _ => .none
  conjunct :=
    if isConsonant c then .begun
    else if isLinker c then (if scan.conjunct = .none then .none else .linked)
    else if c.toNat = 0x200C then .none
    else
      match ClusterClass.of c with
      | .extending | .joiner => scan.conjunct
      | _ => .none

/-- Whether the next character belongs to the cluster of the ones before it. -/
def joins (scan : ClusterScan) (c : Char) : Bool :=
  match scan.last, ClusterClass.of c with
  | .carriageReturn, .lineFeed => true
  | .carriageReturn, _ | .lineFeed, _ | .control, _ => false
  | _, .carriageReturn | _, .lineFeed | _, .control => false
  | .leadingJamo, .leadingJamo | .leadingJamo, .vowelJamo
  | .leadingJamo, .openSyllable | .leadingJamo, .closedSyllable => true
  | .openSyllable, .vowelJamo | .openSyllable, .trailingJamo
  | .vowelJamo, .vowelJamo | .vowelJamo, .trailingJamo => true
  | .closedSyllable, .trailingJamo | .trailingJamo, .trailingJamo => true
  | _, .extending | _, .joiner | _, .spacing => true
  | .prepended, _ => true
  | _, .pictograph => scan.picture = .joined
  | .regional, .regional => scan.halfFlag
  | _, _ => scan.conjunct = .linked && isConsonant c

end ClusterScan

/-- The clusters of the unread characters, given the cluster begun so far, last character first. -/
def clustersFrom (scan : ClusterScan) (begun : Text) : Text → List Text
  | [] => [begun.reverse]
  | c :: rest =>
    if scan.joins c then clustersFrom (scan.advance c) (c :: begun) rest
    else begun.reverse :: clustersFrom (scan.advance c) [c] rest

/-- The clusters of a text, in order. -/
def clusters : Text → List Text
  | [] => []
  | c :: rest => clustersFrom (ClusterScan.start.advance c) [c] rest

theorem flatten_clustersFrom (scan : ClusterScan) (begun rest : Text) :
    (clustersFrom scan begun rest).flatten = begun.reverse ++ rest := by
  induction rest generalizing scan begun with
  | nil => simp [clustersFrom]
  | cons c rest ih =>
    rw [clustersFrom]
    split <;> simp [ih]

/-- No character is lost or moved by cutting a text into clusters. -/
theorem flatten_clusters (text : Text) : (clusters text).flatten = text := by
  cases text with
  | nil => rfl
  | cons c rest => simp [clusters, flatten_clustersFrom]

/-- The text without its last cluster. -/
def dropLastCluster (text : Text) : Text := (clusters text).dropLast.flatten

end Reckoner.Text
