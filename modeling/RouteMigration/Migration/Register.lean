import RouteMigration.Migration.State
import RouteMigration.Module.Shape
import RouteMigration.Router.Registration

/-!
# Registration of the route

The route is registered where the metadata was exported, or else after the imports.  The
registration reads the component, so a component that is bound by a variable comes before it.

## Main Definitions

* `takeMetadata?` — the metadata, and the items without it
* `place` — the items with the component in place, and where the registration goes
* `registration` — what is registered
* `registerRoute` — the step that registers the route
-/

namespace RouteMigration.Migration

/-- A list without the element at a place. -/
def removeAt (i : Nat) (items : List Node) : List Node := items.take i ++ items.drop (i + 1)

/-- An item without one of its declarators; nothing is left of an item with only one. -/
def dropDeclarator (i : Nat) : Node → List Node
  | .exportDecl s (.varDecl vs kind isDeclare ds) =>
    match removeAt i ds with
    | [] => []
    | rest => [.exportDecl s (.varDecl vs kind isDeclare rest)]
  | _ => []

/-- The metadata of a module that was taken out of it. -/
structure TakenMetadata where
  /-- Where its statement stands or stood. -/
  index : Nat
  tags : List MetaTag
  /-- The items without it. -/
  items : List Node

/-- Takes the first metadata export out of a module. -/
def takeMetadata? : List Node → Option TakenMetadata
  | [] => none
  | item :: rest =>
    match Shape.metadata? item with
    | some (i, properties) =>
      some ⟨0, MetaTag.ofProperties properties, dropDeclarator i item ++ rest⟩
    | none => (takeMetadata? rest).map fun t => ⟨t.index + 1, t.tags, item :: t.items⟩

/-- The value that an item gives to a name, if it declares nothing else. -/
def soleValue? (name : String) (item : Node) : Option Node :=
  match Shape.declarators? (Shape.declaration item) with
  | some [d] => if Shape.boundName? d == some name then Shape.value? d else none
  | _ => none

/-- The place of the first item from `i` on that gives a value to a name, and the value. -/
def findValue? (name : String) : Nat → List Node → Option (Nat × Node)
  | _, [] => none
  | i, item :: rest =>
    match soleValue? name item with
    | some value => some (i, value)
    | none => findValue? name (i + 1) rest

/-- The value is a function, which reads nothing before it is called. -/
def isLazy (value : Node) : Bool :=
  match (Shape.unwrapped value).form with
  | .arrow _ | .functionExpr => true
  | _ => false

/-- The items with the component in place, and where the registration goes.  A function is moved
up; any other value may depend on what stands before it, so the registration follows it. -/
def place (index : Nat) (name : String) (items : List Node) : List Node × Nat :=
  match findValue? name index (items.drop index) with
  | none => (items, index)
  | some (position, value) =>
    if isLazy value then
      match items[position]? with
      | some item => (insertAt index item (removeAt position items), index + 1)
      | none => (items, index)
    else (items, position + 1)

/-- What is registered, with the entries of the metadata. -/
def registration (s : State) (tags : List MetaTag) : Registration where
  factory := s.options.factory
  head :=
    if !s.options.kind.hasHead then none
    else if s.options.kind = .rootLayout then
      some { tags := MetaTag.rootDefaults ++ tags, stylesheets := some s.stylesheets }
    else some { tags := tags }
  component := s.options.kind.slot?.map (·, s.component)
  handlers := if s.options.kind = .api then some s.handlers else none

/-- The step that registers the route. -/
def registerRoute (items : List Node) (s : State) : Step :=
  let metadata := if s.options.kind.hasHead then takeMetadata? items else none
  let s := { s with metadataFound := metadata.isSome }
  let taken := metadata.getD ⟨Shape.leading items, [], items⟩
  let (items, index) :=
    if s.options.kind = .api then (taken.items, taken.index)
    else place taken.index s.component taken.items
  { items := insertAt index (registration s taken.tags).item items
    state := s
    isModified := true }

end RouteMigration.Migration
