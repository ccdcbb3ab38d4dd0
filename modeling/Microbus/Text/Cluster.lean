import Microbus.Text.ClusterClass

/-! # Clusters

A text falls into clusters, each of which a reader takes for one character. They are found from
left to right: what stands in front of a character decides whether the character joins it.
Nothing is lost by splitting a text into clusters.
-/

namespace Microbus.Text
set_option autoImplicit false

inductive ClusterStem where
  | none -- nothing that matters later
  | pictograph -- a pictograph with marks
  | joinedPictograph -- a pictograph with marks and a joiner behind them
  | consonant -- a consonant with marks
  | linkedConsonant -- a consonant with marks, one of which links it to the next consonant
  deriving DecidableEq

structure ClusterContext where
  last : ClusterClass
  stem : ClusterStem
  halfFlag : Bool

namespace ClusterContext

def start : ClusterContext := ⟨.control, .none, false⟩

def nextStem (s : ClusterContext) (c : Char) : ClusterStem :=
  match clusterClass c, s.stem with
  | .pictograph, _ => .pictograph
  | .consonant, _ => .consonant
  | .joiner, .pictograph => .joinedPictograph
  | .extend, .pictograph => .pictograph
  | .joiner, .consonant => .consonant
  | .joiner, .linkedConsonant => .linkedConsonant
  | .extend, .consonant =>
      if isLinker c then .linkedConsonant else if c = nonJoiner then .none else .consonant
  | .extend, .linkedConsonant => if c = nonJoiner then .none else .linkedConsonant
  | _, _ => .none

def next (s : ClusterContext) (c : Char) : ClusterContext where
  last := clusterClass c
  stem := s.nextStem c
  halfFlag := clusterClass c == .regional && !s.halfFlag

def joins (s : ClusterContext) (c : Char) : Bool :=
  match s.last, clusterClass c with
  | .carriageReturn, .lineFeed => true
  | .carriageReturn, _ | .lineFeed, _ | .control, _ => false
  | _, .carriageReturn | _, .lineFeed | _, .control => false
  | _, .extend | _, .joiner | _, .spacing => true
  | .prepend, _ => true
  | .leading, .leading | .leading, .vowel | .leading, .openSyllable | .leading, .closedSyllable =>
      true
  | .openSyllable, .vowel | .openSyllable, .trailing | .vowel, .vowel | .vowel, .trailing => true
  | .closedSyllable, .trailing | .trailing, .trailing => true
  | .joiner, .pictograph => s.stem == .joinedPictograph
  | _, .consonant => s.stem == .linkedConsonant
  | .regional, .regional => s.halfFlag
  | _, _ => false

end ClusterContext

/-- Splits a text into clusters; `cluster` holds the characters of the cluster at hand, last
first. -/
def clustersFrom (s : ClusterContext) (cluster : List Char) : List Char → List (List Char)
  | [] => if cluster.isEmpty then [] else [cluster.reverse]
  | c :: cs =>
      if s.joins c || cluster.isEmpty then clustersFrom (s.next c) (c :: cluster) cs
      else cluster.reverse :: clustersFrom (s.next c) [c] cs

def clusters (cs : List Char) : List (List Char) := clustersFrom .start [] cs

/-! ## Erasing while typing -/

def backspace : Char := '\x08'

def typeCluster (kept : List (List Char)) (cluster : List Char) : List (List Char) :=
  if cluster = [backspace] then kept.drop 1 else cluster :: kept

/-- What is left of a line when every backspace has erased its cluster. -/
def erased (line : String) : String :=
  String.ofList ((clusters line.toList).foldl typeCluster []).reverse.flatten

end Microbus.Text
