import RouteMigration.Migration.State
import RouteMigration.Module.Shape
import RouteMigration.Tree.Build

/-!
# Links and images

`<Link href>` becomes `<Link to>`, and an image has no children and is loaded lazily instead of
with priority.

## Main Definitions

* `isNormalElement` — nothing about an element has to change
* `normalElement` — an element with all changes made
* `normalize`, `isNormal` — the same for every element of a tree
* `normalizeElements` — the step that changes them all
-/

namespace RouteMigration.Migration

/-- The attribute has that name. -/
def isAttr (name : String) (a : Node) : Bool := Shape.attrName? a == some name

/-- A link goes `to` where it had an `href`. -/
def linkAttr : Node → Node
  | .attr s (.word ws name) value =>
    if name = "href" then .attr s (.word none "to") value else .attr s (.word ws name) value
  | a => a

/-- An image with priority is loaded lazily instead. -/
def imageAttr (a : Node) : Node :=
  if isAttr "priority" a then Build.stringAttr "loading" "lazy" else a

/-- An element with all changes made to itself, not to those inside it. -/
def normalElement (n : Node) : Node :=
  match KnownComponent.of? n, n with
  | some .link, .element s (.opening os isSelfClosing name types attrs) children closing =>
    .element s (.opening os isSelfClosing name types (attrs.map linkAttr)) children closing
  | some .image, .element s (.opening os isSelfClosing name types attrs) children closing =>
    if isSelfClosing && children.isEmpty then
      .element s (.opening os true name types (attrs.map imageAttr)) children closing
    else .element s (.opening os true name types (attrs.map imageAttr)) [] .absent
  | _, n => n

/-- Nothing about the element itself has to change. -/
def isNormalElement (n : Node) : Bool :=
  match KnownComponent.of? n, n with
  | some .link, .element _ (.opening _ _ _ _ attrs) _ _ => attrs.all (!isAttr "href" ·)
  | some .image, .element _ (.opening _ isSelfClosing _ _ attrs) children _ =>
    attrs.all (!isAttr "priority" ·) && isSelfClosing && children.isEmpty
  | _, _ => true

/-- One step of `normalize`. -/
def normalizeStep (form : Form) (span : Option Span) (parts : List (Node × Node)) : Node :=
  match form with
  | .type _ => .mk form span (parts.map (·.1))
  | _ => normalElement (.mk form span (parts.map (·.2)))

/-- A tree with every element changed, from the inside out. -/
def normalize : Node → Node := Node.fold normalizeStep

/-- One step of `isNormal`. -/
def isNormalStep (form : Form) (span : Option Span) (parts : List (Node × Bool)) : Bool :=
  match form with
  | .type _ => true
  | _ => isNormalElement (.mk form span (parts.map (·.1))) && parts.all (·.2)

/-- No element of the tree has to change. -/
def isNormal : Node → Bool := Node.fold isNormalStep

/-- The step that changes links and images. -/
def normalizeElements (items : List Node) (s : State) : Step :=
  { items := items.map normalize
    state := s
    isModified := !items.all isNormal }

end RouteMigration.Migration
