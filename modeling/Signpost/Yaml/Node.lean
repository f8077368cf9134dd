import Signpost.Yaml.Token

/-
  This file defines nodes, the values that a document is
  made of, and documents.

  An anchor numbers a node, and an alias stands for the node
  with its number.  An alias may stand within the node that
  it stands for.

  Key definitions include:
    * `Node`
    * `Node.size`
    * `Document`
    * `Document.target?`
-/

namespace Signpost.Yaml

------------------------------------------------------------
-- Nodes
------------------------------------------------------------

/- What may be noted before a node. -/
structure Properties where
  anchor : Option Nat := none
  tag : Option String := none
deriving DecidableEq, Repr

/- A value of a document. -/
inductive Node where
| scalar (p : Properties) (style : ScalarStyle) (text : String)
| sequence (p : Properties) (items : List Node)
| mapping (p : Properties) (entries : List (Node × Node))
| alias (target : Nat)
deriving Repr

namespace Node

/- A plain scalar without a text. -/
def empty (p : Properties) : Node := .scalar p .plain ""

instance : Inhabited Node := ⟨.empty {}⟩

/- What is noted before a node. -/
def properties : Node → Properties
| .scalar p _ _ => p
| .sequence p _ => p
| .mapping p _ => p
| .alias _ => {}

mutual

/- How many starts, ends and scalars a node is written by. -/
def size : Node → Nat
| .scalar .. => 1
| .alias _ => 1
| .sequence _ items => itemsSize items + 2
| .mapping _ entries => entriesSize entries + 2

/- How many of them some nodes are written by. -/
def itemsSize : List Node → Nat
| [] => 0
| n :: ns => n.size + itemsSize ns

/- How many of them some entries are written by. -/
def entriesSize : List (Node × Node) → Nat
| [] => 0
| (k, v) :: es => k.size + v.size + entriesSize es

end

mutual

/- The anchored nodes in the order in which they start. -/
def anchored : Node → List (Nat × Node)
| .scalar p s t => (p.anchor.map (·, .scalar p s t)).toList
| .alias _ => []
| .sequence p items =>
    (p.anchor.map (·, .sequence p items)).toList ++
      itemsAnchored items
| .mapping p entries =>
    (p.anchor.map (·, .mapping p entries)).toList ++
      entriesAnchored entries

/- The anchored nodes among some nodes and within them. -/
def itemsAnchored : List Node → List (Nat × Node)
| [] => []
| n :: ns => n.anchored ++ itemsAnchored ns

/- The anchored nodes within some entries. -/
def entriesAnchored : List (Node × Node) → List (Nat × Node)
| [] => []
| (k, v) :: es => k.anchored ++ v.anchored ++ entriesAnchored es

end

end Node

------------------------------------------------------------
-- Documents
------------------------------------------------------------

/- A document: its root, unless there is nothing in it. -/
structure Document where
  root : Option Node
  anchors : List (Nat × Node) := []

namespace Document

/- The document of a root. -/
def ofRoot (n : Node) : Document :=
  { root := some n, anchors := n.anchored }

/- The document that holds nothing. -/
def blank : Document := { root := none }

/- The last node with the number of an anchor. -/
def target? (d : Document) (id : Nat) : Option Node :=
  (d.anchors.reverse.find? fun a => a.1 = id).map Prod.snd

/- How many starts, ends and scalars there are. -/
def size (d : Document) : Nat :=
  (d.root.map Node.size).getD 1

end Document

end Signpost.Yaml
