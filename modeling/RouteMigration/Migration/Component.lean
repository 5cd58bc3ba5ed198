import RouteMigration.Migration.State
import RouteMigration.Module.Shape
import RouteMigration.Tree.Build

/-!
# The component of a module

The component that a module exports by default is bound to a name, under which it can be
registered.  Components are rendered synchronously, so a component that never awaits is made
synchronous.

## Main Definitions

* `awaits` — a body waits for something while it runs
* `bindComponent` — the step that binds the component
-/

namespace RouteMigration.Migration

/-- One step of `awaits`. -/
def awaitsStep (form : Form) (_ : Option Span) (parts : List (Node × Bool)) : Bool :=
  match form with
  | .awaitExpr => true
  | .forOfStmt true => true
  | .function _ _ | .arrow _ | .type _ => false
  | _ => parts.any (·.2)

/-- The body waits for something while it runs; functions in it run later. -/
def awaits : Node → Bool := Node.fold awaitsStep

/-- What is told about an asynchronous component. -/
def asyncWarning (isAwaiting : Bool) (name : String) : Warning :=
  if isAwaiting then .awaitsWhileRendering name else .madeSynchronous name

/-- A component under its name. -/
structure Bound where
  name : String
  item : Node
  warnings : List Warning := []

/-- A function, without `async` where its body never awaits. -/
def settleFunction (name : String) : Node → Node × List Warning
  | .function s true isGenerator types params result body =>
    (.function s (awaits body) isGenerator types params result body,
      [asyncWarning (awaits body) name])
  | f => (f, [])

/-- An arrow function, without `async` where its body never awaits. -/
def settleArrow (name : String) : Node → Node × List Warning
  | .arrow s true types params result body =>
    (.arrow s (awaits body) types params result body, [asyncWarning (awaits body) name])
  | e => (e, [])

/-- The item that binds what an item exports by default, under its own name or a derived one. -/
def bindExport? (derived : String) : Node → Option Bound
  | .exportDefaultDecl _ (.functionExpr _ name f) =>
    let name := match name with
      | .ident s n => (Node.ident s n, n)
      | _ => (Node.ident none derived, derived)
    let (f, warnings) := settleFunction name.2 f
    some ⟨name.2, .functionDecl f.span false name.1 f, warnings⟩
  | .exportDefaultExpr _ e =>
    let (e, warnings) := settleArrow derived e
    some ⟨derived, Build.constDecl derived e, warnings⟩
  | _ => none

/-- The items up to the first default export, that export and the items after it. -/
def splitDefaultExport? : List Node → Option (List Node × Node × DefaultExport × List Node)
  | [] => none
  | item :: rest =>
    match DefaultExport.of? item with
    | some shape => some ([], item, shape, rest)
    | none => (splitDefaultExport? rest).map fun (before, found, shape, after) =>
      (item :: before, found, shape, after)

/-- The step that binds the component to a name. -/
def bindComponent (items : List Node) (s : State) : Step :=
  match splitDefaultExport? items with
  | none => { items := items, state := s, warnings := [.noDefaultExport s.options.derivedName] }
  | some (_, _, .reference name, _) =>
    { items := items, state := { s with component? := some name } }
  | some (before, item, _, after) =>
    match bindExport? s.options.derivedName item with
    | none => { items := items, state := s }
    | some bound =>
      { items := before ++ bound.item :: after
        state := { s with component? := some bound.name }
        isModified := true
        warnings := bound.warnings }

end RouteMigration.Migration
