import RouteMigration.Grammar.Type

/-!
# Elements

Elements and fragments, with the text, expressions and elements between their tags.

## Main Definitions

* `Grammar.element` — an element or a fragment
-/

namespace RouteMigration.Grammar

open Parse

variable (rec : Goal → Parse Node)

/-- Takes a name of a tag or an attribute, which may hold dashes. -/
def tagText : Parse String := do
  let c ← get
  match c.token.kind with
  | .name text =>
    let (more, rest) := Lexer.tagNameRest c.after
    let name := text ++ String.ofList more
    set (c.take (.tagName name) (c.token.span.stop + Lexer.byteLength more) rest)
    return name
  | kind => failHere (.unexpected kind.describe "jsx identifier")

/-- A name with a colon, or the given form of a plain one. -/
def namespaced (plain : String → Form) : Parse Node := do
  let start ← position
  let text ← tagText
  let span : Span := ⟨start, (← get).prevEnd⟩
  if ← eat ":" then
    let second ← position
    let name ← tagText
    let right ← node (.word name) second []
    node .namespacedName start [.mk (.word text) (some span) [], right]
  else return .mk (plain text) (some span) []

/-- The name of an element. -/
def elementName : Parse Node := do
  let start ← position
  let first ← namespaced .tag
  iterate (fun left => do
    if ← eat "." then
      let at_ ← position
      let text ← tagText
      let right ← node (.word text) at_ []
      return some (← node .tagMember start [left, right])
    else return none) first

/-- The text of a name, for messages and for comparing two tags. -/
def nameText : Node → String :=
  Node.fold fun form _ parts =>
    match form, parts with
    | .tag name, _ | .word name, _ => name
    | .tagMember, [(_, a), (_, b)] => a ++ "." ++ b
    | .namespacedName, [(_, a), (_, b)] => a ++ ":" ++ b
    | _, _ => ""

/-- An expression in the braces of an element. -/
def insideBraces (g : Goal) : Parse Node :=
  within (fun c => { c with noIn := false, inBranch := false }) (rec g)

/-- Nothing but blanks and comments up to a closing brace, which is taken. -/
def emptyContainer (start : Nat) : Parse Node := do
  let inner : Span := ⟨(← get).prevEnd, (← position)⟩
  expect "\x7d"
  node .container start [.mk .emptyExpr (some inner) []]

/-- An expression in braces as the value of an attribute. -/
def attributeContainer : Parse Node := do
  let start ← position
  expect "\x7b"
  if ← isAt "\x7d" then
    let n ← emptyContainer start
    note .emptyAttribute (n.span.getD .empty)
    return n
  else
    let e ← insideBraces rec .expression
    expect "\x7d"
    node .container start [e]

/-- The value of an attribute. -/
def attributeValue : Parse Node := do
  let c ← get
  let start := c.token.span.start
  match c.here with
  | '"' :: _ | '\'' :: _ =>
    match Lexer.attributeText c.here with
    | some (text, rest) =>
      let stop := start + Lexer.byteLength text
      let value := String.ofList ((text.drop 1).dropLast)
      set (c.take (.str value (String.ofList text)) stop rest)
      node (.str value (some (String.ofList text))) start []
    | none => failAt .unterminatedString ⟨start, c.size⟩
  | '{' :: _ => attributeContainer rec
  | '<' :: _ => rec .element
  | _ => failHere .attributeValue

/-- One attribute. -/
def elementAttribute : Parse Node := do
  let start ← position
  if ← eat "\x7b" then
    let spreadStart ← position
    expect "..."
    let e ← insideBraces rec .assignment
    let spread ← node .spread spreadStart [e]
    expect "\x7d"
    node .spreadAttr start [spread]
  else
    let name ← namespaced .word
    let value ← if ← eat "=" then attributeValue rec else pure .absent
    node .attr start [name, value]

/-- What stands in braces between elements. -/
def childContainer : Parse Node := do
  let start ← position
  expect "\x7b"
  if ← isAt "\x7d" then emptyContainer start
  else if ← eat "..." then
    let e ← insideBraces rec .expression
    expect "\x7d"
    node .spreadChild start [e]
  else
    let e ← insideBraces rec .expression
    expect "\x7d"
    node .container start [e]

/-- Takes the text up to the next `{` or `<`, if there is any. -/
def childText : Parse (Option Node) := do
  let c ← get
  let (text, rest) := Lexer.elementText c.rest
  let start := c.prevEnd
  let stop := start + Lexer.byteLength text
  if rest.isEmpty then failAt .endOfText ⟨stop, stop⟩
  if text.isEmpty then
    set ({ c with atStart := false }.look true true)
    return none
  else
    match text.find? (fun ch => ch == '>' || ch == '}') with
    | some _ => note .elementText ⟨start, stop⟩
    | none => pure ()
    set ({ c with atStart := false, prevEnd := stop, rest := rest }.look true true)
    return some (.mk (.text (String.ofList text)) (some ⟨start, stop⟩) [])

/-- One child, or `none` before a closing tag. -/
def child : Parse (Option Node) := do
  match ← childText with
  | some text => return some text
  | none =>
    if ← isAt "\x7b" then return some (← childContainer rec)
    else if ← ahead (do expect "<"; isAt "/") then return none
    else return some (← rec .element)

/-- The attributes of an opening tag. -/
def elementAttributes : Parse (List Node) :=
  collect do
    if (← isAt "/") || (← isAt ">") then return none
    else return some (← elementAttribute rec)

/-- An element or a fragment. -/
def element : Parse Node := do
  let start ← position
  expect "<"
  if ← eat ">" then
    let children ← collect (child rec)
    expect "<"
    expect "/"
    if !(← isAt ">") then failHere .closingFragment
    expect ">"
    node .fragment start children
  else
    let name ← elementName
    let types ← leniently (attempt (optionalTypeArguments rec))
    let attributes ← elementAttributes rec
    if ← eat "/" then
      expect ">"
      let tag ← node (.opening true) start [name, types.getD .absent, .seq attributes]
      node .element start [tag, .seq [], .absent]
    else
      expect ">"
      let tag ← node (.opening false) start [name, types.getD .absent, .seq attributes]
      let children ← collect (child rec)
      let closeStart ← position
      expect "<"
      expect "/"
      if ← isAt ">" then failHere (.closingTag (nameText name))
      let closeName ← elementName
      if nameText closeName != nameText name then
        failAt (.closingTag (nameText name)) (closeName.span.getD .empty)
      expect ">"
      let closing ← node .closing closeStart [closeName]
      node .element start [tag, .seq children, closing]

end RouteMigration.Grammar
