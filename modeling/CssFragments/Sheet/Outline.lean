import CssFragments.Editor.Symbol
import CssFragments.Sheet.CustomProperty
import CssFragments.Sheet.Diagnosis
import CssFragments.Text.Blank

/-! # The outline of a stylesheet

Rules, at-rules and declarations of custom properties are the entries of the outline. What stands in
the block of a rule is below its entry; other nodes have no entry, and what is inside them moves up.

* `Sheet.entry?`: the entry of a node.
* `Sheet.outline`: the entries of a stylesheet, in the order of the text. -/

namespace CssFragments

namespace Sheet

/-- The kinds of at-rules. -/
def atRuleKinds : List String :=
  ["media_statement", "supports_statement", "keyframes_statement", "at_rule", "import_statement",
    "charset_statement", "namespace_statement"]

/-- An entry that has nothing but a name, a kind and its ranges (`symbol`). -/
def plainEntry (name : Text) (kind : SymbolKind) (range selectionRange : Range) : SymbolInfo where
  name := String.ofList name
  detail := none
  kind := kind
  tags := none
  deprecated := none
  range := range
  selectionRange := selectionRange

/-- The text of an at-rule up to its block or its semicolon (`at_rule_header`). -/
def atRuleHead (t : Text) : Text := t.takeWhile fun c => c != '\x7b' && c != ';'

/-- The keyword of an at-rule, or the whole of it (`at_keyword_range`). -/
def atKeyword (s : Sheet) (i : NodeInfo) : List Node → NodeInfo
  | n :: _ => if (s.textOf n.info).head? == some '@' then n.info else i
  | [] => i

/-- The entry of a node: a rule by its selectors, a custom property by its name, and an at-rule by
its head (`symbol_for`). -/
def entry? (s : Sheet) (i : NodeInfo) (children : List Node) : Option SymbolInfo :=
  if i.kind = "rule_set" then
    (Node.ofKind? "selectors" children).map fun selectors =>
      plainEntry (s.textOf selectors.info).collapse .rule (s.rangeOf i) (s.rangeOf selectors.info)
  else if i.kind = "declaration" then
    (propertyOf? children).bind fun property =>
      let name := s.textOf property
      if isCustom name then
        some (plainEntry name .customProperty (s.rangeOf i) (s.rangeOf property))
      else none
  else if atRuleKinds.contains i.kind then
    let kind := if i.kind = "keyframes_statement" then SymbolKind.animation else .atRule
    some (plainEntry (atRuleHead (s.textOf i)).collapse kind (s.rangeOf i)
      (s.rangeOf (s.atKeyword i children)))
  else none

/-- The entries below an entry; an empty list is left out. -/
def below (entries : List Symbol) : Option (List Symbol) :=
  if entries.isEmpty then none else some entries

mutual

/-- The entries of a node. Only nodes with a name count. A node with an entry has those of its block
below it; one without has those of all that is inside it, unless it is a declaration. -/
def outlineOfNode (s : Sheet) : Node → List Symbol
  | .node i cs =>
    if !i.named then []
    else match s.entry? i cs with
      | some info =>
        if i.kind = "declaration" then [.node info none]
        else [.node info (below (outlineOfBlock s cs))]
      | none => if i.kind = "declaration" then [] else outlineOf s cs
termination_by structural n => n

/-- The entries of a list of siblings (`symbols_in`). -/
def outlineOf (s : Sheet) : List Node → List Symbol
  | [] => []
  | n :: rest => outlineOfNode s n ++ outlineOf s rest
termination_by structural ns => ns

/-- The entries inside a node, if it is a block. -/
def outlineInside? (s : Sheet) : Node → Option (List Symbol)
  | .node i cs => if i.kind = "block" then some (outlineOf s cs) else none
termination_by structural n => n

/-- The entries of the first block in a list of siblings (`children`). -/
def outlineOfBlock (s : Sheet) : List Node → List Symbol
  | [] => []
  | n :: rest => (outlineInside? s n).getD (outlineOfBlock s rest)
termination_by structural ns => ns

end

/-- The outline of a stylesheet (`CssSymbolProvider.document_symbols`). -/
def outline (s : Sheet) : List Symbol := s.outlineOf s.tree.root.children

end Sheet

end CssFragments
