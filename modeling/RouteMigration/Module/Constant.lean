import RouteMigration.Tree.Node

/-!
# Constant text

The text that an expression stands for, where strings, templates, `+` and parentheses are all it
is made of.
-/

namespace RouteMigration

/-- One step of the evaluation: the text of a node from those of its parts. -/
def constantStep (form : Form) (_ : Option Span) (parts : List (Node × Option String)) :
    Option String :=
  match form, parts with
  | .str value _, _ => some value
  | .quasi cooked raw, _ => some (cooked.getD raw)
  | .template, _ => (parts.mapM Prod.snd).map String.join
  | .binary op, [(_, left), (_, right)] =>
    if op = "+" then do return (← left) ++ (← right) else none
  | .paren, [(_, e)] => e
  | _, _ => none

/-- The text that an expression stands for, if nothing in it has to be looked up. -/
def constantText? : Node → Option String := Node.fold constantStep

end RouteMigration
