import Criteria.Comparison

/-!
# Labelled trees

Trees with labels on their leaves and on their nodes. Whether two of them are equal can be
decided when that is so for the labels. Where leaves cannot always be compared, trees are compared
from left to right, the label of a node before what is below it.
-/

namespace Criteria

inductive Tree (Leaf Label : Type) where
  | leaf (a : Leaf)
  | node (label : Label) (children : List (Tree Leaf Label))

namespace Tree

variable {Leaf Label : Type}

mutual

def decEq [DecidableEq Leaf] [DecidableEq Label] : (s t : Tree Leaf Label) → Decidable (s = t)
  | .leaf a, .leaf b =>
    if h : a = b then .isTrue (h ▸ rfl) else .isFalse fun e => h (Tree.leaf.inj e)
  | .node a ss, .node b ts =>
    if h : a = b then
      match decEqList ss ts with
      | .isTrue hs => .isTrue (h ▸ hs ▸ rfl)
      | .isFalse hs => .isFalse fun e => hs (Tree.node.inj e).2
    else .isFalse fun e => h (Tree.node.inj e).1
  | .leaf _, .node _ _ => .isFalse nofun
  | .node _ _, .leaf _ => .isFalse nofun

def decEqList [DecidableEq Leaf] [DecidableEq Label] :
    (ss ts : List (Tree Leaf Label)) → Decidable (ss = ts)
  | [], [] => .isTrue rfl
  | [], _ :: _ => .isFalse nofun
  | _ :: _, [] => .isFalse nofun
  | s :: ss, t :: ts =>
    match decEq s t, decEqList ss ts with
    | .isTrue h, .isTrue hs => .isTrue (h ▸ hs ▸ rfl)
    | .isFalse h, _ => .isFalse fun e => h (List.cons.inj e).1
    | _, .isFalse hs => .isFalse fun e => hs (List.cons.inj e).2

end

instance [DecidableEq Leaf] [DecidableEq Label] : DecidableEq (Tree Leaf Label) := decEq

mutual

/-- A summary of a tree, from summaries of its labels. -/
def digest (leafDigest : Leaf → UInt64) (labelDigest : Label → UInt64) : Tree Leaf Label → UInt64
  | .leaf a => leafDigest a
  | .node label children =>
    mixHash (labelDigest label) (digestList leafDigest labelDigest children)

def digestList (leafDigest : Leaf → UInt64) (labelDigest : Label → UInt64) :
    List (Tree Leaf Label) → UInt64
  | [] => 7
  | t :: ts => mixHash (digest leafDigest labelDigest t) (digestList leafDigest labelDigest ts)

end

mutual

/-- Compares two trees, given how leaves are compared. -/
def compared [DecidableEq Label] (leaves : Leaf → Leaf → Comparison) :
    Tree Leaf Label → Tree Leaf Label → Comparison
  | .leaf a, .leaf b => leaves a b
  | .node a ss, .node b ts => (Comparison.ofEq a b).andThen (comparedList leaves ss ts)
  | .leaf _, .node _ _ => some false
  | .node _ _, .leaf _ => some false

def comparedList [DecidableEq Label] (leaves : Leaf → Leaf → Comparison) :
    List (Tree Leaf Label) → List (Tree Leaf Label) → Comparison
  | s :: ss, t :: ts => (compared leaves s t).andThen (comparedList leaves ss ts)
  | [], [] => some true
  | [], _ :: _ => some false
  | _ :: _, [] => some false

end

mutual

/-- A comparison finds no difference exactly between equal trees, if that is so for leaves. -/
theorem compared_eq_true_iff [DecidableEq Label] {leaves : Leaf → Leaf → Comparison}
    (h : ∀ a b, leaves a b = some true ↔ a = b) :
    (s t : Tree Leaf Label) → (compared leaves s t = some true ↔ s = t)
  | .leaf a, .leaf b => by simp [compared, h]
  | .node a ss, .node b ts => by
    simp [compared, Comparison.andThen_eq_true_iff, Comparison.ofEq_eq_true_iff,
      comparedList_eq_true_iff h ss ts]
  | .leaf _, .node _ _ => by simp [compared]
  | .node _ _, .leaf _ => by simp [compared]

theorem comparedList_eq_true_iff [DecidableEq Label] {leaves : Leaf → Leaf → Comparison}
    (h : ∀ a b, leaves a b = some true ↔ a = b) :
    (ss ts : List (Tree Leaf Label)) → (comparedList leaves ss ts = some true ↔ ss = ts)
  | s :: ss, t :: ts => by
    simp [comparedList, Comparison.andThen_eq_true_iff, compared_eq_true_iff h s t,
      comparedList_eq_true_iff h ss ts]
  | [], [] => by simp [comparedList]
  | [], _ :: _ => by simp [comparedList]
  | _ :: _, [] => by simp [comparedList]

end

end Tree
end Criteria
