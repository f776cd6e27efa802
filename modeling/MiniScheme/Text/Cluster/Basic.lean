import MiniScheme.Text.Cluster.Class

/- Clusters: the runs of characters that a reader takes for one. Whether a
   character belongs to the cluster before it hangs on its class and on what
   `Tail` keeps of the text so far. Main statement: the clusters of a text,
   put one after the other, are the text (`flatten_clusters`). -/
namespace MiniScheme.Text.Cluster

/-- How far a text has come with two linked consonants. -/
inductive Conjunct where
  | none
  /-- The text ends with a consonant and marks that extend it. -/
  | consonant
  /-- The same, with a linker among the marks. -/
  | linked
  deriving DecidableEq, Repr

/-- What the end of a text says about the character after it. -/
structure Tail where
  /-- The class of the last character. -/
  last : Class
  /-- The text ends with a pictograph and marks that extend it. -/
  pictograph : Bool
  /-- The text ends with a pictograph, marks that extend it, and a joiner. -/
  joined : Bool
  /-- The text ends with the first half of a flag. -/
  halfFlag : Bool
  conjunct : Conjunct
  deriving DecidableEq, Repr

/-- The tail of the empty text. -/
def Tail.start : Tail := ⟨.control, false, false, false, .none⟩

/-- The class always stands alone, a line feed after a carriage return apart. -/
def Class.standsAlone : Class → Bool
  | .carriageReturn | .lineFeed | .control => true
  | _ => false

/-- The class marks what extends the character before it, without joining pictographs. -/
def Class.isExtending : Class → Bool
  | .extend | .nonJoiner | .linker => true
  | _ => false

/-- The progress of two linked consonants after one more character. -/
def Conjunct.next (conjunct : Conjunct) : Class → Conjunct
  | .consonant => .consonant
  | .linker => if conjunct = .none then .none else .linked
  | .extend | .joiner => conjunct
  | _ => .none

/-- The tail of a text after one more character. -/
def Tail.next (t : Tail) (c : Class) : Tail where
  last := c
  pictograph := c == .pictographic || (t.pictograph && c.isExtending)
  joined := t.pictograph && c == .joiner
  halfFlag := c == .regional && !t.halfFlag
  conjunct := t.conjunct.next c

/-- Two parts of a Korean syllable that follow each other in one. -/
def sameSyllable : Class → Class → Bool
  | .leading, .leading | .leading, .vowel | .leading, .openSyllable | .leading, .closedSyllable
  | .openSyllable, .vowel | .openSyllable, .trailing | .vowel, .vowel | .vowel, .trailing
  | .closedSyllable, .trailing | .trailing, .trailing => true
  | _, _ => false

/-- A character of the class belongs to the cluster that the text before it ends with. -/
def Tail.attaches (t : Tail) (c : Class) : Bool :=
  if t.last.standsAlone || c.standsAlone then t.last == .carriageReturn && c == .lineFeed
  else
    c.isExtending || c == .joiner || c == .spacing || t.last == .prepend || sameSyllable t.last c
      || (t.conjunct == .linked && c == .consonant) || (t.joined && c == .pictographic)
      || (t.halfFlag && c == .regional)

/-- The clusters of a text after a given tail. The first is what is left of the cluster that the
    text before ends with, and is empty if that cluster is complete. -/
def clustersAfter (t : Tail) : List Char → List Char × List (List Char)
  | [] => ([], [])
  | c :: rest =>
    let (more, others) := clustersAfter (t.next (classOf c)) rest
    if t.attaches (classOf c) then (c :: more, others) else ([], (c :: more) :: others)

/-- The clusters of a text. -/
def clusters (text : List Char) : List (List Char) := (clustersAfter .start text).2

/-- Nothing is lost between the rest of a cluster and the clusters after it. -/
theorem append_flatten_clustersAfter (t : Tail) (text : List Char) :
    (clustersAfter t text).1 ++ (clustersAfter t text).2.flatten = text := by
  induction text generalizing t with
  | nil => rfl
  | cons c rest ih =>
    have tail := ih (t.next (classOf c))
    unfold clustersAfter
    by_cases h : t.attaches (classOf c)
    · simp [h, tail]
    · simp [h, tail]

/-- No character belongs to a cluster before the text. -/
theorem start_attaches (c : Class) : Tail.start.attaches c = false := by
  cases c <;> rfl

/-- The clusters of a text, put one after the other, are the text. -/
theorem flatten_clusters (text : List Char) : (clusters text).flatten = text := by
  have none : (clustersAfter .start text).1 = [] := by
    cases text with
    | nil => rfl
    | cons c rest =>
      unfold clustersAfter
      simp [start_attaches]
  have whole := append_flatten_clustersAfter .start text
  rwa [none, List.nil_append] at whole

end MiniScheme.Text.Cluster
