import XmlDiagnostics.Yaml.Token

/-! # YAML documents

A text holds at most one document, which is a node. Nodes are put together from tokens; a tag needs a handle
that is known.

An anchor gets as its number how many other names have been given to anchors before it, and an alias is the
number that its name has where the alias stands. A name that is given again may so get the number of another
one; then the node that begins last is the one that both stand for, even where an alias comes before
it. -/

namespace XmlDiagnostics.Yaml

/-- A node with an anchor: the number of the anchor, and how many nodes with anchors begin before it. -/
structure Anchored where
  anchor : Nat
  order : Nat
  node : Node
deriving Repr

/-- What is known while a document is read: the handles of tags, the names of anchors with their numbers,
how many nodes with anchors have begun, and those that are complete. -/
structure Known where
  handles : List (List Char × List Nat) := []
  names : List (List Char × Nat) := []
  begun : Nat := 0
  anchored : List Anchored := []

/-- The handles that are known without a directive. -/
def standardHandles : List (List Char × List Nat) := [(['!'], Text.octetsOf '!'), (['!', '!'], typeHandle)]

/-- What stands before a node: an anchor, and a tag in its full form. A lone exclamation mark says no more
than that there is a tag. -/
structure Properties where
  anchor : Option (List Char) := none
  tag : Option (List Nat) := none

/-- Whether there are any properties. -/
def Properties.any (p : Properties) : Bool := p.anchor.isSome || p.tag.isSome

/-- The full form of a tag, if its handle is known. -/
def Known.tag? (known : Known) (handle : List Char) (suffix : List Nat) : Option (List Nat) :=
  if handle.isEmpty then some suffix else ((known.handles ++ standardHandles).lookup handle).map (· ++ suffix)

/-- Give an anchor its number where a node begins. -/
def Known.beginNode (known : Known) : Option (List Char) → Known
  | some name =>
    { known with
      names := (name, known.names.length) :: known.names.filter (·.1 ≠ name), begun := known.begun + 1 }
  | none => known

/-- Keep a node that is complete, if it has an anchor; `before` is what was known when it began. -/
def Known.endNode (known before : Known) (anchor : Option (List Char)) (node : Node) : Known :=
  if anchor.isSome then
    { known with anchored := ⟨before.names.length, before.begun, node⟩ :: known.anchored }
  else known

/-- Read the properties of a node, an anchor and a tag in either order. -/
def readProperties (known : Known) : List Token → Option (Properties × List Token)
  | .anchor name :: .tag handle suffix :: rest =>
    (known.tag? handle suffix).map fun tag => (⟨some name, some tag⟩, rest)
  | .tag handle suffix :: .anchor name :: rest =>
    (known.tag? handle suffix).map fun tag => (⟨some name, some tag⟩, rest)
  | .anchor name :: rest => some (⟨some name, none⟩, rest)
  | .tag handle suffix :: rest => (known.tag? handle suffix).map fun tag => (⟨none, some tag⟩, rest)
  | rest => some ({}, rest)

/-- A node that is left out at a place, what is known after it, and the tokens left. -/
def absent (known : Known) (tokens : List Token) : Option (Node × Known × List Token) :=
  some (.empty, known, tokens)

/-- Whether the first token is one of some. -/
def meets (marks : List Token) (tokens : List Token) : Bool := tokens.head?.any marks.contains

/-- Collections as they are written: blocks end with a token of their own or, as a sequence that is not
indented further than its key, where no item follows; flow collections end with a bracket or brace. -/
inductive Form where
  | block
  | unindented
  | flow
deriving DecidableEq

mutual

/-- Read a node. A block can begin only where `blocks` allows it, and a sequence that is not indented
further than its key only as the value of a key of a block. -/
def readNode (blocks unindented : Bool) : Nat → Known → List Token → Option (Node × Known × List Token)
  | 0, _, _ => none
  | _ + 1, known, .alias name :: rest => (known.names.lookup name).map fun anchor => (.alias anchor, known, rest)
  | n + 1, known, tokens => do
    let (properties, tokens) ← readProperties known tokens
    let opened := known.beginNode properties.anchor
    let close := fun (found : Node × Known × List Token) =>
      (found.1, found.2.1.endNode known properties.anchor found.1, found.2.2)
    match tokens with
    | .scalar style text :: rest => some (close (.scalar style properties.tag text, opened, rest))
    | .openBracket :: rest => (readItems .flow n opened [] true rest).map close
    | .openBrace :: rest => (readFlowEntries n opened [] true rest).map close
    | .blockSequence :: rest => if blocks then (readItems .block n opened [] true rest).map close else none
    | .blockMapping :: rest => if blocks then (readBlockEntries n opened [] rest).map close else none
    | .item :: _ =>
      if unindented then (readItems .unindented n opened [] true tokens).map close
      else if properties.any then some (close (.scalar .plain properties.tag [], opened, tokens))
      else none
    | _ => if properties.any then some (close (.scalar .plain properties.tag [], opened, tokens)) else none

/-- Read the items of a sequence; those read so far are in `items`, backwards, and `first` tells whether
there are none. An item of a flow sequence may be a pair, which makes a mapping of its own. -/
def readItems (form : Form) : Nat → Known → List Node → Bool → List Token → Option (Node × Known × List Token)
  | 0, _, _, _, _ => none
  | n + 1, known, items, first, tokens =>
    let finish := fun tokens => some (.sequence items.reverse, known, tokens)
    match form with
    | .flow =>
      match tokens, first with
      | .closeBracket :: rest, _ => finish rest
      | .comma :: .closeBracket :: rest, false => finish rest
      | .comma :: rest, false => readItem form n known items rest
      | _, false => none
      | tokens, true => readItem form n known items tokens
    | .block =>
      match tokens with
      | .item :: rest =>
        if meets [.item, .blockEnd] rest then readItems form n known (.empty :: items) false rest
        else readItem form n known items rest
      | .blockEnd :: rest => finish rest
      | _ => none
    | .unindented =>
      match tokens with
      | .item :: rest =>
        if meets [.item, .key, .value, .blockEnd] rest then readItems form n known (.empty :: items) false rest
        else readItem form n known items rest
      | tokens => finish tokens

/-- Read one item of a sequence that is not left out, and go on with the others. -/
def readItem (form : Form) : Nat → Known → List Node → List Token → Option (Node × Known × List Token)
  | 0, _, _, _ => none
  | n + 1, known, items, tokens => do
    let (item, known, tokens) ←
      match form, tokens with
      | .flow, .key :: rest => readPair n known rest
      | .flow, tokens => readNode false false n known tokens
      | _, tokens => readNode true false n known tokens
    readItems form n known (item :: items) false tokens

/-- Read a pair in a flow sequence after the token for its key. -/
def readPair : Nat → Known → List Token → Option (Node × Known × List Token)
  | 0, _, _ => none
  | n + 1, known, tokens => do
    let (key, known, tokens) ←
      if meets [.value, .comma, .closeBracket] tokens then absent known (tokens.drop 1)
      else readNode false false n known tokens
    let (value, known, tokens) ←
      match tokens with
      | .value :: rest =>
        if meets [.comma, .closeBracket] rest then absent known rest else readNode false false n known rest
      | tokens => absent known tokens
    some (.mapping [(key, value)], known, tokens)

/-- Read the entries of a flow mapping; those read so far are in `entries`, backwards, and `first` tells
whether there are none. -/
def readFlowEntries : Nat → Known → List (Node × Node) → Bool → List Token → Option (Node × Known × List Token)
  | 0, _, _, _, _ => none
  | _ + 1, known, entries, _, .closeBrace :: rest => some (.mapping entries.reverse, known, rest)
  | n + 1, known, entries, first, tokens => do
    let tokens ←
      match tokens, first with
      | .comma :: rest, false => some rest
      | tokens, first => if first then some tokens else none
    match tokens with
    | .closeBrace :: rest => some (.mapping entries.reverse, known, rest)
    | .key :: rest =>
      let (key, known, tokens) ←
        if meets [.value, .comma, .closeBrace] rest then absent known rest else readNode false false n known rest
      let (value, known, tokens) ←
        match tokens with
        | .value :: rest =>
          if meets [.comma, .closeBrace] rest then absent known rest else readNode false false n known rest
        | tokens => absent known tokens
      readFlowEntries n known ((key, value) :: entries) false tokens
    | tokens =>
      let (key, known, tokens) ← readNode false false n known tokens
      readFlowEntries n known ((key, .empty) :: entries) false tokens

/-- Read the entries of a block mapping; those read so far are in `entries`, backwards. -/
def readBlockEntries : Nat → Known → List (Node × Node) → List Token → Option (Node × Known × List Token)
  | 0, _, _, _ => none
  | n + 1, known, entries, tokens =>
    match tokens with
    | .blockEnd :: rest => some (.mapping entries.reverse, known, rest)
    | .key :: rest => do
      let (key, known, tokens) ←
        if meets [.key, .value, .blockEnd] rest then absent known rest else readNode true true n known rest
      let (value, known, tokens) ←
        match tokens with
        | .value :: rest =>
          if meets [.key, .value, .blockEnd] rest then absent known rest else readNode true true n known rest
        | tokens => absent known tokens
      readBlockEntries n known ((key, value) :: entries) tokens
    | _ => none

end

/-! ### The document of a text -/

/-- A document: its node, and the nodes with anchors. -/
structure Document where
  root : Node
  anchored : List Anchored := []
deriving Repr

/-- The later one of two nodes with anchors. -/
def Anchored.later (a b : Anchored) : Anchored := if a.order < b.order then b else a

/-- The node that a node stands for: of those with its anchor the last one, if it is an alias. -/
def Document.resolve (document : Document) : Node → Node
  | .alias anchor =>
    match document.anchored.filter (·.anchor = anchor) with
    | found :: others => (others.foldl Anchored.later found).node
    | [] => .empty
  | node => node

/-- The entries of the mapping that a node is or stands for, with what their keys and values stand for. -/
def Document.entries? (document : Document) (node : Node) : Option (List (Node × Node)) :=
  (document.resolve node).asEntries?.map fun entries =>
    entries.map fun (key, value) => (document.resolve key, document.resolve value)

/-- Read the directives before a document: at most one version, which has to be 1.1 or 1.2, and handles of
tags, each of them once. -/
def readDirectives (version : Bool) (handles : List (List Char × List Nat)) :
    List Token → Option (List (List Char × List Nat) × List Token)
  | .version major minor :: rest =>
    if !version && major = 1 && (minor = 1 || minor = 2) then readDirectives true handles rest else none
  | .tagHandle handle start :: rest =>
    if (handles.lookup handle).isNone then readDirectives version ((handle, start) :: handles) rest else none
  | rest => some (handles, rest)

/-- Whether the first token ends the contents of a document or stands outside of it. -/
def endsDocument : List Token → Bool
  | [] => true
  | .version _ _ :: _ => true
  | .tagHandle _ _ :: _ => true
  | .documentStart :: _ => true
  | .documentEnd :: _ => true
  | _ => false

/-- The document in a text: absent if there is none, and an error if there are several. A document without
a mark at its beginning has contents. The depth of a reading is less than three times the number of
tokens. -/
def read? (text : List Char) : Option (Option Document) := do
  let tokens ← tokens? text
  if tokens.isEmpty then return none
  let (handles, rest) ← readDirectives false [] tokens
  let (marked, rest) ←
    match rest with
    | .documentStart :: rest => some (true, rest)
    | rest => if rest.length = tokens.length then some (false, rest) else none
  let (root, known, rest) ←
    if marked && endsDocument rest then absent {} rest
    else readNode true false (3 * tokens.length + 3) { handles } rest
  guard (rest.all (· = .documentEnd))
  return some { root, anchored := known.anchored }

end XmlDiagnostics.Yaml
