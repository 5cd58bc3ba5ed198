import RouteMigration.Grammar.Name

/-!
# Templates

The stretches of a template between its quotes, and what stands in its holes.
-/

namespace RouteMigration.Grammar

open Parse

/-- Reads the stretches and holes of a template in turn, after its opening quote at `start`.  Only
a tagged template keeps the ends of its lines as they are. -/
def templateParts (hole : Parse Node) (isTagged : Bool) (start : Nat) : Nat → Parse (List Node)
  | 0 => failHere .unterminatedTemplate
  | fuel + 1 => do
    let c ← get
    match Lexer.templateChunk c.rest with
    | none => failAt .unterminatedTemplate ⟨start, c.size⟩
    | some chunk =>
      let stop := c.prevEnd + Lexer.distance c.rest chunk.rest
      let mark := if chunk.ending = .hole then 2 else 1
      let raw := if isTagged then chunk.raw else Lexer.unixLines chunk.raw
      let text : Node :=
        .mk (.quasi (chunk.cooked.map String.ofList) (String.ofList raw))
          (some ⟨c.prevEnd, stop - mark⟩) []
      match chunk.ending with
      | .close =>
        set ({ c with atStart := false, prevEnd := stop, rest := chunk.rest }.look true false)
        return [text]
      | .hole =>
        set ({ c with atStart := false, prevEnd := stop, rest := chunk.rest }.look true false)
        let e ← hole
        if !(← isAt "\x7d") then failHere (.expected "\x7d" (← peek).kind.describe)
        let _ ← advance
        return text :: e :: (← templateParts hole isTagged start fuel)

/-- A stretch that stands for no text. -/
def isBadQuasi (n : Node) : Bool :=
  match n.form with
  | .quasi none _ => true
  | _ => false

/-- A template.  Unless it is tagged, each of its escapes must stand for a text. -/
def template (hole : Parse Node) (isTagged : Bool) : Parse Node := do
  let start ← position
  let _ ← advance
  let parts ← templateParts hole isTagged start (← get).bound
  if !isTagged then
    match parts.find? isBadQuasi with
    | some bad => failAt .badEscape (bad.span.getD .empty)
    | none => pure ()
  node .template start parts

end RouteMigration.Grammar
