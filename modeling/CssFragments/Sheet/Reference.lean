import CssFragments.Editor.Hover
import CssFragments.Sheet.CustomProperty

/-! # Symbols and where they occur

Custom properties, classes and ids are the symbols of a stylesheet. They occur where they are
declared or selected and where they are used.

* `Target`, `Sheet.targetAt?`: the symbol under a cursor.
* `Sheet.occurrences`: where a symbol occurs, in the order of the text.
* `Sheet.highlights`, `Sheet.references`, `Sheet.definition?`, `Sheet.renameRange?`,
  `Sheet.rename?`: what an editor asks about the symbol under a cursor. -/

namespace CssFragments

/-- A symbol of a stylesheet (`SymbolTarget`). -/
inductive Target where
  /-- A custom property, with its two hyphens. -/
  | customProperty (name : Text)
  /-- A class, without its dot. -/
  | className (name : Text)
  /-- An id, without its number sign. -/
  | idName (name : Text)
deriving DecidableEq

/-- A place where a symbol occurs (`Occurrence`); a definition is a declaration of a custom
property. -/
structure Occurrence where
  range : Range
  isDefinition : Bool
deriving DecidableEq

namespace Sheet

/-! ## The symbol under a cursor -/

/-- The symbol that a node names (`target_of`). -/
def targetOf? (s : Sheet) (l : Located) : Option Target :=
  let text := s.textOf l.node.info
  match l.node.kind with
  | "property_name" | "plain_value" => if isCustom text then some (.customProperty text) else none
  | "class_name" => some (.className text)
  | "identifier" =>
    if (l.parent?.map Node.kind) = some "class_name" then some (.className text) else none
  | "id_name" => some (.idName text)
  | _ => none

/-- The symbol under a cursor and the node that names it (`target_at`). -/
def targetAt? (s : Sheet) (p : Position) : Option (Target × Node) :=
  let l := s.underCursor p
  (s.targetOf? l).map (·, l.node)

/-! ## Occurrences -/

/-- The node that spells the name of a class: the first identifier below it, or the class itself. -/
def classNameNode (n : Node) : Node := (n.childOfKind? "identifier").getD n

/-- The occurrence of a symbol that a node is. -/
def occurrenceOf? (s : Sheet) (target : Target) (n : Node) : Option Occurrence :=
  match target, n.kind with
  | .customProperty name, "property_name" =>
    if s.textOf n.info = name then some ⟨s.rangeOf n.info, true⟩ else none
  | .customProperty name, "plain_value" =>
    if s.textOf n.info = name then some ⟨s.rangeOf n.info, false⟩ else none
  | .className name, "class_name" =>
    let spelling := (classNameNode n).info
    if s.textOf spelling = name then some ⟨s.rangeOf spelling, false⟩ else none
  | .idName name, "id_name" =>
    if s.textOf n.info = name then some ⟨s.rangeOf n.info, false⟩ else none
  | _, _ => none

/-- Where a symbol occurs, in the order of the text (`CssReferenceProvider.occurrences`). -/
def occurrences (s : Sheet) (target : Target) : List Occurrence :=
  s.nodes.filterMap (s.occurrenceOf? target)

/-! ## Questions about the symbol under a cursor -/

/-- What happens to a symbol at an occurrence. -/
def highlightKind (target : Target) (o : Occurrence) : HighlightKind :=
  match target with
  | .customProperty _ => if o.isDefinition then .write else .read
  | _ => .text

/-- Where the symbol under a cursor occurs, and what happens to it there (`document_highlights`). -/
def highlights (s : Sheet) (p : Position) : List Highlight :=
  match s.targetAt? p with
  | none => []
  | some (target, _) =>
    (s.occurrences target).map fun o => ⟨o.range, some (highlightKind target o)⟩

/-- Where the symbol under a cursor occurs, with its definitions if they are asked for
(`CssReferenceProvider.references`). -/
def references (s : Sheet) (uri : String) (p : Position) (withDefinitions : Bool) : List Location :=
  match s.targetAt? p with
  | none => []
  | some (target, _) =>
    ((s.occurrences target).filter fun o => withDefinitions || !o.isDefinition).map
      fun o => ⟨uri, o.range⟩

/-- The first definition of the custom property under a cursor
(`CssReferenceProvider.definition`). -/
def definition? (s : Sheet) (uri : String) (p : Position) : Option Location :=
  match s.targetAt? p with
  | some (.customProperty name, _) =>
    ((s.occurrences (.customProperty name)).find? (·.isDefinition)).map fun o => ⟨uri, o.range⟩
  | _ => none

/-- The range that renaming the symbol under a cursor replaces there (`prepare_rename`). -/
def renameRange? (s : Sheet) (p : Position) : Option Range :=
  match s.targetAt? p with
  | some (.className _, n) => some (s.rangeOf (classNameNode n).info)
  | some (_, n) => some (s.rangeOf n.info)
  | none => none

/-- The new spelling of a symbol: a custom property keeps its two hyphens. -/
def newSpelling (target : Target) (name : Text) : Text :=
  match target with
  | .customProperty _ => if isCustom name then name else '-' :: '-' :: name
  | _ => name

/-- The edits that give the symbol under a cursor a new name, if it occurs at all
(`CssReferenceProvider.rename`). -/
def rename? (s : Sheet) (uri : String) (p : Position) (name : String) : Option WorkspaceEdit :=
  match s.targetAt? p with
  | none => none
  | some (target, _) =>
    let newText := String.ofList (newSpelling target name.toList)
    let edits := (s.occurrences target).map fun o => (⟨o.range, newText⟩ : TextEdit)
    if edits.isEmpty then none else some ⟨some [(uri, edits)], none, none⟩

end Sheet

end CssFragments
