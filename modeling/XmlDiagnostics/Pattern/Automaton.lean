import Std.Data.TreeSet.Basic
import XmlDiagnostics.Pattern.Basic

/-! # Automata with preferences

A pattern becomes an automaton whose nodes read a character, branch in an order of preference, mark
the borders of groups or test an anchor. At a place of a text a node is live if a match can be completed
from it. Of the routes over live nodes that take no character, `route?` finds the preferred one to a node
that reads or is the end; no route passes a node twice, so a repetition that takes no character ends. -/

namespace XmlDiagnostics

/-- A node of an automaton; a branch prefers the first of its nodes. -/
inductive Automaton.Node where
  | stop
  | read (set : CharSet) (next : Nat)
  | branch (first second : Nat)
  | mark (group : Nat) (closing : Bool) (next : Nat)
  | test (condition : Anchor) (next : Nat)
deriving Repr, DecidableEq

/-- An automaton: its nodes, for each of them the numbers of those that lead to it, and the number of the one
where it starts. The first node is the end of a match. -/
structure Automaton where
  nodes : Array Automaton.Node
  sources : Array (List Nat)
  start : Nat
deriving Repr, DecidableEq

namespace Automaton

/-! ### The automaton of a pattern -/

/-- Nodes being laid out; each step tells the number of a node. -/
abbrev Layout := StateM (Array Node) Nat

/-- Add a node. -/
def add (node : Node) : Layout := fun nodes => (nodes.size, nodes.push node)

/-- Add a branch into and around a part. -/
def addBranch (greedy : Bool) (into around : Nat) : Layout :=
  add (if greedy then .branch into around else .branch around into)

/-- A part a given number of times, one after the other. -/
def copies (part : Nat → Layout) : Nat → Nat → Layout
  | 0, next => pure next
  | n + 1, next => do part (← copies part n next)

/-- A part at most a given number of times. -/
def upTo (part : Nat → Layout) (greedy : Bool) (next : Nat) : Nat → Layout
  | 0 => pure next
  | n + 1 => do addBranch greedy (← part (← upTo part greedy next n)) next

/-- A part and a branch behind it that leads back into it; the answer is the number of the part's first
node and that of the branch. -/
def loop (part : Nat → Layout) (greedy : Bool) (next : Nat) : StateM (Array Node) (Nat × Nat) := do
  let back ← add (.branch next next)
  let first ← part back
  modify fun nodes => nodes.setIfInBounds back (if greedy then .branch first next else .branch next first)
  return (first, back)

/-- A part at least a given number of times. A part that can take nothing is tried once before its
repetition. -/
def atLeast (part : Nat → Layout) (nullable greedy : Bool) (next : Nat) : Nat → Layout
  | 0 => do
    let (first, back) ← loop part greedy next
    if nullable then addBranch greedy first next else return back
  | n + 1 => do copies part n (← loop part greedy next).1

/-- Lay out the nodes of a pattern before the node `next`. Repeating a pattern that takes no characters
more than once means nothing. -/
def layOut : Pattern → Nat → Layout
  | .empty, next => pure next
  | .one set, next => add (.read set next)
  | .anchor condition, next => add (.test condition next)
  | .seq p q, next => do layOut p (← layOut q next)
  | .alt p q, next => do
    let second ← layOut q next
    add (.branch (← layOut p next) second)
  | .group number p, next => do add (.mark number false (← layOut p (← add (.mark number true next))))
  | .many p least most greedy, next =>
    let least := if p.isVoid then min least 1 else least
    let most := if p.isVoid then some (min (most.getD 1) 1) else most
    match most with
    | none => atLeast (layOut p) p.isNullable greedy next least
    | some most => do copies (layOut p) least (← upTo (layOut p) greedy next (most - least))

/-- The nodes that a node leads to. -/
def Node.targets : Node → List Nat
  | stop => []
  | read _ next => [next]
  | branch first second => [first, second]
  | mark _ _ next => [next]
  | test _ next => [next]

/-- For each of some nodes the numbers of those that lead to it. -/
def sourcesOf (nodes : Array Node) : Array (List Nat) :=
  nodes.zipIdx.foldl
    (fun sources (node, number) =>
      node.targets.foldl (fun sources target => sources.modify target (number :: ·)) sources)
    (Array.replicate nodes.size [])

/-- The automaton of a pattern. -/
def ofPattern (p : Pattern) : Automaton :=
  let (start, nodes) := layOut p 0 #[.stop]
  ⟨nodes, sourcesOf nodes, start⟩

/-! ### Live nodes -/

/-- A set of nodes, by their numbers. -/
abbrev Nodes := Std.TreeSet Nat

/-- The nodes that lead to a node. -/
def before (a : Automaton) (node : Nat) : List Nat := a.sources.getD node []

/-- Whether a node leads on at a place without a character. -/
def Node.isPassedAt (place : Place) : Node → Bool
  | stop => false
  | read _ _ => false
  | branch _ _ => true
  | mark _ _ _ => true
  | test condition _ => condition.holds place

/-- Whether a node leads on over the character `c`. -/
def Node.canRead (c : Char) : Node → Bool
  | read set _ => set.contains c
  | _ => false

/-- The found nodes, the given ones and those from which a route at a place leads to these without a
character. Each step finds a node or leaves one out that has been found. -/
def leadingTo (a : Automaton) (place : Place) : Nat → Nodes → List Nat → Nodes
  | 0, found, _ => found
  | _, found, [] => found
  | n + 1, found, node :: nodes =>
    if found.contains node then leadingTo a place n found nodes
    else
      let sources := (a.before node).filter fun source => a.nodes[source]?.any (Node.isPassedAt place)
      leadingTo a place n (found.insert node) (sources ++ nodes)

/-- The nodes that are live before the character `c` because they read it and lead to a node that is live
after it. -/
def readersOf (a : Automaton) (c : Char) (liveAfter : Nodes) : List Nat :=
  liveAfter.toList.flatMap fun node =>
    (a.before node).filter fun source => a.nodes[source]?.any (Node.canRead c)

/-- The live nodes at a place, given those that are live after the character that follows it. Every node has at
most two nodes after it, so less than three steps are made for each of them. -/
def liveAt (a : Automaton) (place : Place) (liveAfter : Nodes) : Nodes :=
  let readers := place.after.elim [] (a.readersOf · liveAfter)
  a.leadingTo place (3 * a.nodes.size + 1) ∅ (0 :: readers)

/-! ### Routes without a character -/

/-- The border of a group on a route. -/
structure Border where
  group : Nat
  closing : Bool
deriving Repr, DecidableEq

/-- A route that takes no character: the node at its end, and the borders on the way, the latest
first. -/
structure Route where
  last : Nat
  borders : List Border
deriving Repr, DecidableEq

/-- The preferred route at a place over live nodes to one that reads or is the end. The nodes passed so far
are not passed again, and the routes still to be followed come in order of preference. Each step passes a
node or gives up a route, of which there are at most twice as many as nodes. -/
def follow (a : Automaton) (place : Place) (live : Nodes) : Nat → Nodes → List Route → Option Route
  | 0, _, _ => none
  | _, _, [] => none
  | n + 1, passed, route :: routes =>
    if passed.contains route.last || !live.contains route.last then follow a place live n passed routes
    else
      let now := passed.insert route.last
      match a.nodes[route.last]? with
      | none => follow a place live n now routes
      | some .stop => some route
      | some (.read _ _) => some route
      | some (.branch first second) =>
        follow a place live n now ({ route with last := first } :: { route with last := second } :: routes)
      | some (.mark group closing next) =>
        follow a place live n now (⟨next, ⟨group, closing⟩ :: route.borders⟩ :: routes)
      | some (.test condition next) =>
        follow a place live n now (if condition.holds place then { route with last := next } :: routes else routes)

/-- The preferred route from a node at a place. -/
def route? (a : Automaton) (place : Place) (live : Nodes) (node : Nat) : Option Route :=
  a.follow place live (2 * a.nodes.size + 2) ∅ [⟨node, []⟩]

end Automaton

end XmlDiagnostics
