import GatewayPolicy.Yaml.Tag
/-!
# Document trees

A YAML document as a tree of nodes. A node may be anchored under a number and stand
for an anchored node elsewhere by that number.
-/

namespace GatewayPolicy.Yaml

/-- What may be written in front of a node. -/
structure Props where
  anchor : Option Nat := none
  tag : Option Tag := none
  deriving DecidableEq, Repr, Inhabited

inductive Node where
  | scalar (props : Props) (plain : Bool) (text : String)
  | sequence (props : Props) (items : List Node)
  | mapping (props : Props) (entries : List (Node × Node))
  /-- The node that is anchored under a number. -/
  | reference (anchor : Nat)
  deriving Inhabited, Repr

namespace Node

/-- Whether a node is an alias. -/
def isReference : Node → Bool
  | reference _ => true
  | _ => false

/-- The node that is left out. -/
def absent (p : Props) : Node := scalar p true ""

mutual

/-- The nodes that are anchored in a tree, outer ones first and otherwise in order. -/
def anchored : Node → List (Nat × Node)
  | scalar p plain text => here p (scalar p plain text)
  | sequence p items => here p (sequence p items) ++ anchoredItems items
  | mapping p entries => here p (mapping p entries) ++ anchoredEntries entries
  | reference _ => []
where
  /-- The node itself, if it is anchored. -/
  here (p : Props) (n : Node) : List (Nat × Node) := (p.anchor.map fun a => (a, n)).toList

/-- The same for the items of a sequence. -/
def anchoredItems : List Node → List (Nat × Node)
  | [] => []
  | n :: ns => anchored n ++ anchoredItems ns

/-- The same for the entries of a mapping. -/
def anchoredEntries : List (Node × Node) → List (Nat × Node)
  | [] => []
  | (k, v) :: es => anchored k ++ anchored v ++ anchoredEntries es

end

mutual

/-- The number of marks a tree is made of: one per scalar or alias, a start and an end per collection. -/
def marks : Node → Nat
  | scalar .. => 1
  | sequence _ items => 2 + marksItems items
  | mapping _ entries => 2 + marksEntries entries
  | reference _ => 1

/-- The same for the items of a sequence. -/
def marksItems : List Node → Nat
  | [] => 0
  | n :: ns => marks n + marksItems ns

/-- The same for the entries of a mapping. -/
def marksEntries : List (Node × Node) → Nat
  | [] => 0
  | (k, v) :: es => marks k + marks v + marksEntries es

end

end Node

end GatewayPolicy.Yaml
