import RouteMigration.Text.Words

/-!
# Sources of imports

What the text after `from` says about an import declaration.

## Main Definitions

* `isLegacySource`, `isFontSource`, `isStylesheetSource` — the classes of sources
* `stylesheetBinding` — the name that a stylesheet's URL is bound to
-/

namespace RouteMigration

/-- Modules whose imports are dropped. -/
def legacySources : List String := ["next", "next/script", "next/image"]

/-- The module of the link component. -/
def linkSource : String := "next/link"

/-- The module of the image component. -/
def imageSource : String := "next/image"

/-- The module of the navigation hooks. -/
def navigationSource : String := "next/navigation"

/-- Imports of this module have no counterpart. -/
def isLegacySource (source : String) : Bool := legacySources.contains source

/-- The module exports font factories. -/
def isFontSource (source : String) : Bool := source.startsWith "next/font"

/-- The module is a stylesheet. -/
def isStylesheetSource (source : String) : Bool := source.endsWith ".css"

/-- Letters, digits, `_` and `$`, of ASCII. -/
def isBindingChar (c : Char) : Bool :=
  c.isAlphanum || c == '_' || c == '$'

/-- The name that the URL of a stylesheet is bound to: the source without a leading `./` and a
trailing `.css`, its letters, digits, `_` and `$` followed by `css`. -/
def stylesheetBinding (source : String) : String :=
  let inner := (Text.dropFront? "./" source).getD source
  let inner := (Text.dropBack? ".css" inner).getD inner
  String.ofList (Text.guardDigit (inner.toList.filter isBindingChar ++ "css".toList))

end RouteMigration
