import Std.Data.TreeMap
import XmlDiagnostics.Pattern.Shape

/-! # Sizes of patterns

A pattern is too large if an automaton for it takes more than a fixed number of octets. The automaton reads
a text octet by octet; one reads it forwards, and one backwards, and neither may be too large. A node takes
32 octets, a step from it to a node for a range of octets 8 more, and a branch from it 4 more.

A set beyond ASCII takes many nodes, some of which its characters have in common. Forwards, a node is shared
with one that has the same steps, and backwards, a step is shared with one for the same range to the same
node, as far as a table of bounded size remembers them: an entry is lost when another one takes its place,
which depends on the numbers of the nodes. -/

namespace XmlDiagnostics.Pattern

/-- How many octets an automaton may take. -/
def mostRoom : Nat := 10 * 1024 * 1024

/-- The room that an automaton takes so far: its nodes, and the octets of their steps and branches. -/
structure Room where
  nodes : Nat := 0
  extra : Nat := 0
deriving DecidableEq, Repr

/-- The octets of a room. -/
def Room.octets (room : Room) : Nat := 32 * room.nodes + room.extra

/-- Laying out part of an automaton, unless it becomes too large. -/
abbrev Sizing := StateT Room Option

namespace Sizing

/-- Add nodes with the octets of their steps. -/
def nodes (n extra : Nat) : Sizing Unit := fun room =>
  let room : Room := ⟨room.nodes + n, room.extra + extra⟩
  if room.octets ≤ mostRoom then some ((), room) else none

/-- Add branches to nodes. -/
def branches (n : Nat) : Sizing Unit := nodes 0 (4 * n)

/-- Lead the last node of a part to another one, which is one more branch if it has branches. -/
def lead (branching : Bool) : Sizing Unit := if branching then branches 1 else pure ()

/-! ### Sets -/

/-- Mix a number into a hash. -/
def mix (hash : UInt64) (n : Nat) : UInt64 := (hash ^^^ UInt64.ofNat n) * 1099511628211

/-- The place of some numbers in a table of a size. -/
def slot (size : Nat) (numbers : List Nat) : Nat := (numbers.foldl mix 14695981039346656037).toNat % size

/-- A table that remembers one key in each place, with a number for it. -/
abbrev Memory (κ : Type) := Std.TreeMap Nat (κ × Nat)

/-- The number for a key, if the table remembers it. -/
def remembered? {κ : Type} [DecidableEq κ] (memory : Memory κ) (place : Nat) (key : κ) : Option Nat :=
  match memory[place]? with
  | some (found, n) => if found = key then some n else none
  | none => none

/-- A step from a node over a range of octets to a node. -/
structure Step where
  low : Nat
  high : Nat
  next : Nat
deriving DecidableEq

/-- A node of a set that is not complete: its steps backwards, and the range of the one whose end is not
known. -/
structure OpenNode where
  steps : List Step := []
  range : Option (Nat × Nat) := none

/-- Lead the open step of a node to a node. -/
def OpenNode.lead (node : OpenNode) (next : Nat) : OpenNode :=
  match node.range with
  | some (low, high) => ⟨⟨low, high, next⟩ :: node.steps, none⟩
  | none => node

/-- A set being laid out forwards: its complete nodes, and the open ones, the last one first. -/
structure OpenSet where
  memory : Memory (List Step) := {}
  nodes : List OpenNode := [{}]

/-- Complete a node; the answer is its number. -/
def complete (node : OpenNode) (memory : Memory (List Step)) : Sizing (Nat × Memory (List Step)) := do
  let steps := node.steps.reverse
  let place := slot 10000 (steps.flatMap fun step => [step.low, step.high, step.next])
  match remembered? memory place steps with
  | some n => return (n, memory)
  | none =>
    let n := (← get).nodes
    Sizing.nodes 1 (8 * steps.length)
    return (n, memory.insert place (steps, n))

/-- Complete the last `n` open nodes, the very last of which leads to `next`. -/
def closeNodes (next : Nat) : Nat → OpenSet → Sizing OpenSet
  | n + 1, ⟨memory, node :: rest⟩ => do
    let (next, memory) ← complete (node.lead next) memory
    closeNodes next n ⟨memory, rest⟩
  | 0, ⟨memory, node :: rest⟩ => return ⟨memory, node.lead next :: rest⟩
  | _, s => return s

/-- The number of ranges at the beginning of a list that are those of open steps already. -/
def sharedRanges : List (Nat × Nat) → List OpenNode → Nat
  | range :: ranges, node :: nodes => if node.range = some range then sharedRanges ranges nodes + 1 else 0
  | _, _ => 0

/-- Add characters described by ranges of octets to a set. -/
def addRanges (target : Nat) (s : OpenSet) (ranges : List (Nat × Nat)) : Sizing OpenSet := do
  let shared := sharedRanges ranges s.nodes.reverse
  let s ← closeNodes target (s.nodes.length - (shared + 1)) s
  match s.nodes, ranges.drop shared with
  | node :: rest, range :: ranges =>
    let added := ranges.map fun range => { range := some range : OpenNode }
    return { s with nodes := added.reverse ++ { node with range := some range } :: rest }
  | _, _ => return s

/-- Lay out a set forwards. -/
def setForwards (ranges : List (Nat × Nat)) : Sizing Unit := do
  let target := (← get).nodes
  nodes 1 0
  let s ← (allOctetRanges ranges).foldlM (addRanges target) {}
  let _ ← closeNodes target s.nodes.length s

/-- Lay out a step over a range of octets to a node, or find it in the table. -/
def stepBackwards (memory : Memory Step) (next : Nat) (range : Nat × Nat) : Sizing (Nat × Memory Step) := do
  let step : Step := ⟨range.1, range.2, next⟩
  let place := slot 1000 [next, range.1, range.2]
  match remembered? memory place step with
  | some n => return (n, memory)
  | none =>
    let n := (← get).nodes
    nodes 1 0
    return (n, memory.insert place (step, n))

/-- Lay out a set backwards: a branch for each description of characters by ranges of octets. -/
def setBackwards (ranges : List (Nat × Nat)) : Sizing Unit := do
  nodes 1 0
  let target := (← get).nodes
  nodes 1 0
  let _ ← (allOctetRanges ranges).foldlM
    (fun memory ranges => do
      let (_, memory) ← ranges.foldlM
        (fun (next, memory) range => stepBackwards memory next range) (target, memory)
      branches 1
      return memory)
    {}

/-- Lay out a set. One of ASCII takes two nodes. -/
def set (back : Bool) (ranges : List (Nat × Nat)) : Sizing Unit :=
  if ranges.all fun (_, high) => high < 128 then nodes 2 (8 * ranges.length)
  else if back then setBackwards ranges
  else setForwards ranges

/-! ### Choices between literals -/

/-- Part literals at the empty ones among them, which end there. Empty ones at the beginning count as one. -/
def partAtEnds (literals : List (List Nat)) : List (List (List Nat)) :=
  match literals with
  | [] :: rest => [] :: go (rest.dropWhile List.isEmpty)
  | literals => go literals
where
  /-- Part literals at each of the empty ones. -/
  go : List (List Nat) → List (List (List Nat))
    | [] => [[]]
    | [] :: rest => [] :: go rest
    | literal :: rest =>
      match go rest with
      | part :: parts => (literal :: part) :: parts
      | [] => [[literal]]

/-- Lay out the nodes of a choice between literals, all of which have been read up to the same octet; `n` is
more than the number of octets that are left of any. What begins alike has its nodes in common. -/
def literals : Nat → List (List Nat) → Sizing Unit
  | 0, _ => pure ()
  | n + 1, rests => do
    if rests.all List.isEmpty then pure ()
    else
      let parts := partAtEnds rests
      for part in parts do
        let heads := (part.filterMap List.head?).eraseDups
        for head in heads do
          literals n ((part.filter fun rest => rest.head? = some head).map List.tail)
        if heads.isEmpty then pure ()
        else do
          nodes 1 (if heads.length = 1 then 0 else 8 * heads.length)
          branches 1
      nodes 1 (4 * (parts.length - 1))

/-! ### Repetitions -/

/-- Lay out a part some more times; the answer is whether the last node has branches, as `branching` tells of
the node before. -/
def more (part : Sizing Bool) (branching : Bool) : Nat → Room → Option (Bool × Room)
  | 0, room => some (branching, room)
  | n + 1, room =>
    match part room with
    | none => none
    | some (last, room) =>
      match lead branching room with
      | none => none
      | some (_, room) => more part last n room

/-- Lay out a part a given number of times. -/
def copies (part : Sizing Bool) : Nat → Sizing Bool
  | 0 => do
    nodes 1 0
    return false
  | n + 1 => do more part (← part) n

/-- Lay out a part at most a given number of times more; each time there is a branch around the rest. -/
def upTo (part : Sizing Bool) (branching : Bool) : Nat → Room → Option (Bool × Room)
  | 0, room => some (branching, room)
  | n + 1, room =>
    match nodes 1 8 room with
    | none => none
    | some (_, room) =>
      match part room with
      | none => none
      | some (last, room) =>
        match lead branching room with
        | none => none
        | some (_, room) => upTo part last n room

/-- Lay out a part at least a given number of times. If it may match nothing, it is tried once before it is
repeated. -/
def atLeast (part : Sizing Bool) (takes : Bool) : Nat → Sizing Bool
  | 0 => do
    if takes then
      nodes 1 4
      lead (← part)
      return true
    else
      let last ← part
      nodes 3 16
      lead last
      return false
  | 1 => do
    let last ← part
    nodes 1 4
    lead last
    return true
  | n + 2 => do
    let before ← copies part (n + 1)
    let last ← part
    nodes 1 4
    lead before
    lead last
    return true

/-- Lay out a repeated part. -/
def many (part : Sizing Bool) (takes : Bool) (least : Nat) : Option Nat → Sizing Bool
  | none => atLeast part takes least
  | some most =>
    if least = most then copies part least
    else do
      if least = 0 && most = 1 then
        nodes 1 8
        let last ← part
        nodes 1 0
        lead last
      else
        let before ← copies part least
        nodes 1 0
        lead (← upTo part before (most - least))
      return false

end Sizing

/-! ### Shapes -/

/-- The text of a literal. -/
def literalText? : Shape → Option (List Char)
  | .literal text => some text
  | _ => none

mutual

/-- Lay out a shape, backwards if `back` is true; groups are marked forwards only. The answer is whether the
last node has branches. -/
def layOutShape (back : Bool) : Shape → Sizing Bool
  | .nothing => do
    Sizing.nodes 1 0
    return false
  | .literal text => do
    Sizing.nodes (Text.byteLength text) 0
    return false
  | .set ranges => do
    Sizing.set back ranges
    return false
  | .anchor _ => do
    Sizing.nodes 1 0
    return false
  | .many s least most _ => Sizing.many (layOutShape back s) (s.leastLength.any (0 < ·)) least most
  | .group _ s =>
    if back then layOutShape back s
    else do
      Sizing.nodes 1 0
      let last ← layOutShape back s
      Sizing.nodes 1 0
      Sizing.lead last
      return false
  | .seq shapes => do
    let lasts ← layOutShapes back shapes
    for last in lasts.dropLast do
      Sizing.lead last
    return lasts.getLast?.getD false
  | .alt shapes => do
    match shapes.mapM literalText? with
    | some texts =>
      let octets := texts.map fun text =>
        let octets := text.flatMap Text.octetsOf
        if back then octets.reverse else octets
      Sizing.nodes 1 0
      Sizing.literals ((octets.map List.length).foldl max 0 + 1) octets
    | none =>
      layOutChoices back 0 shapes
      Sizing.branches shapes.length
    return false

/-- Lay out shapes one after the other, the last one first if `back` is true. The answer tells of each in
this order whether the last node has branches. -/
def layOutShapes (back : Bool) : List Shape → Sizing (List Bool)
  | [] => return []
  | s :: rest => do
    if back then
      let lasts ← layOutShapes back rest
      return lasts ++ [← layOutShape back s]
    else
      let last ← layOutShape back s
      return last :: (← layOutShapes back rest)

/-- Lay out the shapes of a choice after the first `n` ones. The node where it branches and the one where it
ends come after the second shape. -/
def layOutChoices (back : Bool) (n : Nat) : List Shape → Sizing Unit
  | [] => pure ()
  | s :: rest => do
    Sizing.lead (← layOutShape back s)
    if n = 1 then Sizing.nodes 2 0
    layOutChoices back (n + 1) rest

end

/-- Lay out the automaton of a pattern. Unless the pattern demands the beginning of the text, or backwards
its end, any octets may come before it. -/
def layOutAll (back : Bool) (s : Shape) : Sizing Unit := do
  if s.demands (if back then .textEnd else .textStart) back then Sizing.nodes 1 0 else Sizing.nodes 3 16
  let last ← layOutShape back (.group 0 s)
  Sizing.nodes 1 0
  Sizing.lead last

/-- Whether a pattern is small enough. -/
def fits (s : Shape) : Bool := (layOutAll false s {}).isSome && (layOutAll true s {}).isSome

/-- A pattern, unless it is too large. -/
def built? (p : Pattern) : Option Pattern := if fits p.shape then some p else none

theorem eq_of_built? {p q : Pattern} (h : p.built? = some q) : p = q :=
  Option.some.inj (Option.ite_none_right_eq_some.mp h).2

end XmlDiagnostics.Pattern
