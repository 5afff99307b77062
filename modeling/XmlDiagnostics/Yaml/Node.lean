import XmlDiagnostics.Text.Octets

/-! # YAML nodes

What a YAML document is made of, and what its scalars mean. A plain scalar is kept apart from the others,
because only a plain one can be a number or a truth value, or stand for a mapping when it is empty. -/

namespace XmlDiagnostics.Yaml

/-- How a scalar is written: without marks, line by line as it is, or in another way. -/
inductive Style where
  | plain
  | literal
  | other
deriving Repr, DecidableEq

/-- A node of a document. A tag is kept as octets, since it need not be a text; an alias as the number of
the anchor that it names. -/
inductive Node where
  | scalar (style : Style) (tag : Option (List Nat)) (text : List Char)
  | sequence (items : List Node)
  | mapping (entries : List (Node × Node))
  | alias (anchor : Nat)
deriving Repr, Inhabited

/-- The scalar without text, which stands where a value is left out. -/
def Node.empty : Node := .scalar .plain none []

/-! ### What scalars mean -/

/-- What the tags of types begin with. -/
def typeHandle : List Nat := "tag:yaml.org,2002:".toList.flatMap Text.octetsOf

/-- The tag of a type. -/
def typeTag (type : String) : List Nat := typeHandle ++ type.toList.flatMap Text.octetsOf

/-- The text of a scalar. -/
def Node.asText? : Node → Option (List Char)
  | scalar _ _ text => some text
  | _ => none

/-- The text of a scalar that is plain, or literal with a tag for its type. -/
def Node.asValue? (type : String) : Node → Option (List Char)
  | scalar .plain _ text => some text
  | scalar .literal (some tag) text => if tag = typeTag type then some text else none
  | _ => none

/-- The entries of a mapping; an empty plain scalar stands for a mapping without entries. -/
def Node.asEntries? : Node → Option (List (Node × Node))
  | mapping entries => some entries
  | scalar .plain _ [] => some []
  | _ => none

/-- A truth value. -/
def Node.asBool? (node : Node) : Option Bool := do
  let word := String.ofList (← node.asValue? "bool")
  if ["true", "True", "TRUE"].contains word then some true
  else if ["false", "False", "FALSE"].contains word then some false
  else none

/-- The number that a text denotes: decimal without leading zeros, or in another base after its mark,
with a plus sign allowed in front. -/
def naturalOf? (text : List Char) : Option Nat :=
  let unsigned := match text with
    | '+' :: rest => rest
    | text => text
  match unsigned with
  | '0' :: 'x' :: digits => Text.numberOf? 16 digits
  | '0' :: 'o' :: digits => Text.numberOf? 8 digits
  | '0' :: 'b' :: digits => Text.numberOf? 2 digits
  | ['0'] => some 0
  | '0' :: _ => none
  | digits => Text.numberOf? 10 digits

/-- A natural number of at most 64 bits. -/
def Node.asCount? (node : Node) : Option Nat := do
  (naturalOf? (← node.asValue? "int")).filter (· < 18446744073709551616)

end XmlDiagnostics.Yaml
