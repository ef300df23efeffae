import AssertionGen.Classify.Category
import AssertionGen.Classify.Chain
/-!
# Classification

A type is classified by the first rule, in order of priority, that matches any type of its chain; a
shape of lower priority nearer to the type never wins. The matches of the winning rule are merged
from the first on. `classify` keeps the first shape whatever the later ones say; `classifyStrict`
reports an `Ambiguity` if two of them conflict.
-/

namespace AssertionGen

/-- The winning rule matched shapes that cannot both hold. -/
structure Ambiguity where
  rule : Rule
  candidates : List Category
  deriving DecidableEq, Repr

/-- The shapes that a rule matches along a chain. -/
def Rule.matches (r : Rule) (chain : List JavaType) : List Category :=
  chain.filterMap (Category.ofShape? r)

/-- The shapes merged from the first on; nothing if there are none. -/
def Category.merge : List Category → Option Category
  | [] => none
  | c :: cs => some (cs.foldl Category.refine c)

/-- The category of a type; conflicts are passed over. -/
def classify (t : JavaType) : Category :=
  (Rule.matching.findSome? fun r => Category.merge (r.matches t.chain)).getD .object

/-- The shape merged so far and the shapes that take part in a conflict. -/
structure Merge where
  current : Category
  candidates : List Category

namespace Merge

/-- Adds a shape: in conflict it joins the candidates, which begin with the merged shape. -/
def add (m : Merge) (c : Category) : Merge :=
  if m.current.conflicts c then
    { m with candidates := (if m.candidates = [] then [m.current] else m.candidates) ++ [c] }
  else { m with current := m.current.refine c }

/-- Merges all shapes of a rule; nothing if there are none. -/
def ofShapes : List Category → Option Merge
  | [] => none
  | c :: cs => some (cs.foldl add ⟨c, []⟩)

end Merge

/-- The verdict of one rule over a chain; nothing if it matches no type of it. -/
def Rule.verdict (r : Rule) (chain : List JavaType) : Option (Except Ambiguity Category) :=
  (Merge.ofShapes (r.matches chain)).map fun m =>
    if m.candidates = [] then .ok m.current else .error ⟨r, m.candidates⟩

/-- The category of a type, or the conflict that leaves it open. -/
def classifyStrict (t : JavaType) : Except Ambiguity Category :=
  (Rule.matching.findSome? fun r => r.verdict t.chain).getD (.ok .object)

end AssertionGen
