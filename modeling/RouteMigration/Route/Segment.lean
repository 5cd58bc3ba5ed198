import RouteMigration.Text.Words

/-!
# Path segments

A bracketed directory name (`[id]`, `[...slug]`, `[[...slug]]`) stands for a parameter of the
route and is written `$id` or `$slug` in the new convention.  Every other name stands for itself.

| segment         | shape              | written |
|-----------------|--------------------|---------|
| `[id]`          | `dynamic`          | `$id`   |
| `[...slug]`     | `catchAll`         | `$slug` |
| `[[...slug]]`   | `optionalCatchAll` | `$slug` |
| `about`, `[]`   | `literal`          | as is   |

## Main Definitions

* `Segment.parse`, `Segment.render` — reading a directory name, writing it in the new convention
* `segments` — the segments of a directory text
* `convertPath` — every segment of a path converted in place
-/

namespace RouteMigration

/-- What one directory name stands for. -/
inductive Segment where
  /-- `[name]` -/
  | dynamic (name : String)
  /-- `[...name]` -/
  | catchAll (name : String)
  /-- `[[...name]]` -/
  | optionalCatchAll (name : String)
  /-- Any other name. -/
  | literal (text : String)
deriving DecidableEq, Repr, Inhabited

namespace Segment

/-- A parameter name is not empty and holds no bracket and no separator. -/
def isParameterName (name : String) : Bool :=
  name != "" && name.toList.all fun c => c != '[' && c != ']' && c != '/' && c != '\\'

/-- What stands between `opening` and `closing`, where that is a parameter name. -/
def between? (opening closing segment : String) : Option String :=
  ((Text.dropFront? opening segment).bind (Text.dropBack? closing)).filter isParameterName

/-- Reads one directory name.  The longer brackets are tried first, and `[...x]` is never the
parameter named `...x`. -/
def parse (segment : String) : Segment :=
  match between? "[[..." "]]" segment with
  | some name => optionalCatchAll name
  | none =>
    match (Text.dropFront? "[" segment).bind (Text.dropBack? "]") with
    | none => literal segment
    | some inner =>
      match Text.dropFront? "..." inner with
      | some name => if isParameterName name then catchAll name else literal segment
      | none => if isParameterName inner then dynamic inner else literal segment

/-- The segment stands for a parameter. -/
def isDynamic : Segment → Bool
  | literal _ => false
  | _ => true

/-- The segment stands for the whole rest of a path. -/
def isCatchAll : Segment → Bool
  | catchAll _ | optionalCatchAll _ => true
  | _ => false

/-- The parameter name, or the whole text of a literal. -/
def name : Segment → String
  | dynamic n | catchAll n | optionalCatchAll n | literal n => n

/-- The segment in the new convention. -/
def render : Segment → String
  | literal text => text
  | s => "$" ++ s.name

/-- One directory name converted. -/
def convert (segment : String) : String :=
  (parse segment).render

end Segment

/-- Both slashes separate segments. -/
def isSeparator (c : Char) : Bool := c == '/' || c == '\\'

/-- The segments of a directory text, without empty ones and `.`. -/
def segments (path : String) : List String :=
  (Text.pieces isSeparator path).filter fun s => s != "" && s != "."

/-- The separator a converted path is joined with: the backslash only where it is the only one. -/
def separatorOf (path : String) : String :=
  if path.toList.contains '\\' && !path.toList.contains '/' then "\\" else "/"

/-- Converts each segment of `path` and joins them again. -/
def convertPath (path : String) : String :=
  Text.joinWith (separatorOf path) ((Text.pieces isSeparator path).map Segment.convert)

/-- The segments of a directory, each in the new convention. -/
def convertedSegments (dir : String) : List String :=
  (segments dir).map Segment.convert

/-- The route path of a directory: `/` for the top one, `/blog/$slug` for `blog/[slug]`. -/
def routePath (dir : String) : String :=
  "/" ++ Text.joinWith "/" (convertedSegments dir)

end RouteMigration
