import RouteMigration.Tree.Node

/-!
# Building syntax

Nodes that no source text had before.  They carry no range, so no comment ever belongs to them.
-/

namespace RouteMigration.Build

/-- An identifier whose value is read. -/
def ref (name : String) : Node := .ref none name

/-- A string. -/
def str (value : String) : Node := .str none value none

/-- `key: value` -/
def keyValue (key : String) (value : Node) : Node := .mk .keyValue none [.word none key, value]

/-- `{ ... }` -/
def object (properties : List Node) : Node := .mk .object none properties

/-- `[ ... ]` -/
def array (elements : List Node) : Node := .mk .array none elements

/-- `callee(args)` -/
def call (callee : Node) (args : List Node) : Node := .call none callee .absent args

/-- `() => body`.  An object is put in parentheses, so that it is not read as statements. -/
def thunk (body : Node) : Node :=
  let body := match body.form with
    | .object => .paren none body
    | _ => body
  .arrow none false .absent [] .absent body

/-- A declaration of one name. -/
def constDecl (name : String) (value : Node) : Node :=
  .varDecl none .const false
    [.declarator none false (.mk (.binding name false) none [.absent]) value]

/-- An exported declaration. -/
def exported (declaration : Node) : Node := .exportDecl none declaration

/-! ### Imports -/

/-- `a as b`, or `a` where both are the same. -/
def importNamed (imported localName : String) : Node :=
  let first := if imported = localName then .absent else .ident none imported
  .mk (.importNamed false) none [first, .ident none localName]

/-- `import { a, b as c } from "source"`, from imported and local names. -/
def namedImport (names : List (String × String)) (source : String) : Node :=
  .importDecl none false .evaluation (names.map fun (a, b) => importNamed a b) (str source) .absent

/-- `import name from "source"` -/
def defaultImport (name source : String) : Node :=
  .importDecl none false .evaluation [.mk .importDefault none [.ident none name]] (str source)
    .absent

/-! ### Elements -/

/-- The name of an element. -/
def tag (name : String) : Node := .mk (.tag name) none []

/-- `<name/>` -/
def emptyElement (name : String) : Node :=
  .element none (.opening none true (tag name) .absent []) [] .absent

/-- `<name attributes>children</name>` -/
def element (name : String) (attributes children : List Node) : Node :=
  .element none (.opening none false (tag name) .absent attributes) children
    (.mk .closing none [tag name])

/-- Text between elements. -/
def text (raw : String) : Node := .mk (.text raw) none []

/-- `name="value"` -/
def stringAttr (name value : String) : Node := .attr none (.word none name) (str value)

end RouteMigration.Build
