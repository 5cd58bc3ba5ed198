import RouteMigration.Json.Reader
import RouteMigration.Project.Config
import RouteMigration.Text.Shown

/-!
# Reading the settings of a project

The settings are an object with a field per setting, or a list of their values in order.  What is
not given keeps its default.

## Main Definitions

* `Setting` — one setting and its name
* `Config.parse` — reads the settings
-/

namespace RouteMigration

/-- One of the settings of a project. -/
inductive Setting where
  | layoutVariant
  | keepBackups
  | redirectImages
  | installPackages
  | dryRun
deriving DecidableEq, Repr, Inhabited

namespace Setting

/-- Every setting, in the order of a list of values. -/
def all : List Setting := [layoutVariant, keepBackups, redirectImages, installPackages, dryRun]

/-- The name of the field of a setting. -/
def name : Setting → String
  | layoutVariant => "layout_variant"
  | keepBackups => "keep_backups"
  | redirectImages => "rewrite_image_imports"
  | installPackages => "install_packages"
  | dryRun => "dry_run"

/-- The setting of that name. -/
def ofName? (name : String) : Option Setting := all.find? (·.name = name)

/-- The setting is among the given ones. -/
def isGiven (o : Overrides) : Setting → Bool
  | layoutVariant => o.variant.isSome
  | keepBackups => o.keepBackups.isSome
  | redirectImages => o.redirectImages.isSome
  | installPackages => o.installPackages.isSome
  | dryRun => o.dryRun.isSome

end Setting

namespace Json

/-- What kind of value it is, and which. -/
def describe : Json → String
  | null => "null"
  | bool b => "boolean `" ++ (if b then "true" else "false") ++ "`"
  | number (.natural n) => "integer `" ++ toString n ++ "`"
  | number (.negative n) => "integer `-" ++ toString n ++ "`"
  | number (.decimal d) => "floating point `" ++ Text.floatText d.toFloat ++ "`"
  | string s => "string " ++ Text.shown s
  | array _ => "sequence"
  | object _ => "map"

namespace Reader

/-- Refuses the value that follows, where a value of another kind is expected.  A value without
parts is taken first. -/
def refuse {α : Type} (expected : String) : Reader α := do
  match ← peek? with
  | some '[' => failHere (.invalidType (describe (.array [])) expected)
  | some '{' => failHere (.invalidType (describe (.object [])) expected)
  | _ =>
    let v ← value 0
    failHere (.invalidType v.describe expected)

/-- Reads `true` or `false`. -/
def boolean : Reader Bool := do
  match ← peekPart? with
  | none => failHere .endInValue
  | some 't' | some 'f' =>
    match ← value 0 with
    | .bool b => return b
    | _ => return false
  | some _ => refuse "a boolean"

/-- Reads the name of a layout variant. -/
def variantName : Reader LayoutVariant := do
  match ← peekPart? with
  | none => failHere .endInValue
  | some '"' =>
    advance
    let name ← text
    match LayoutVariant.ofName? name with
    | some v => return v
    | none => failHere (.unknownVariant name)
  | some _ => refuse "variant identifier"

/-- Reads `null`. -/
def unit : Reader Unit := do
  match ← peekPart? with
  | none => failHere .endInValue
  | some 'n' => let _ ← value 0
  | some _ => refuse "unit"

/-- Reads a layout variant: its name, or an object with that name as its only field. -/
def variant : Reader LayoutVariant := do
  match ← peekPart? with
  | none => failHere .endInValue
  | some '"' => variantName
  | some '{' =>
    advance
    let v ← variantName
    colon
    unit
    match ← peekPart? with
    | none => failHere .endInObject
    | some '}' => advance; return v
    | some _ => failHere .valueExpected
  | some _ => failAhead .valueExpected

/-- Reads the value of a setting and puts it among the given ones. -/
def setting (o : Overrides) : Setting → Reader Overrides
  | .layoutVariant => return { o with variant := some (← variant) }
  | .keepBackups => return { o with keepBackups := some (← boolean) }
  | .redirectImages => return { o with redirectImages := some (← boolean) }
  | .installPackages => return { o with installPackages := some (← boolean) }
  | .dryRun => return { o with dryRun := some (← boolean) }

/-- Refuses the name of a field.  What the reader would take to end the object is taken first:
blanks, and a closing brace. -/
def refuseName {α : Type} (fault : Fault) : Reader α := do
  if (← peekPart?) = some '}' then advance
  failHere fault

/-- Reads the fields of the settings up to the closing brace, at most that many. -/
def settingFields : Nat → Bool → Overrides → Reader Overrides
  | 0, _, o => return o
  | n + 1, isFirst, o => do
    if ← nextField isFirst then
      advance
      let name ← text
      match Setting.ofName? name with
      | none => refuseName (.unknownField name (Setting.all.map (·.name)))
      | some s =>
        if s.isGiven o then refuseName (.duplicateField name)
        colon
        settingFields n false (← setting o s)
    else return o

/-- Reads the values of the settings in order, up to the closing bracket. -/
def settingItems : List Setting → Bool → Overrides → Reader Overrides
  | [], _, o => return o
  | s :: rest, isFirst, o => do
    if ← nextItem isFirst then settingItems rest false (← setting o s) else return o

/-- Takes the end of a list of which nothing more is wanted. -/
def listEnd : Reader Unit := do
  match ← peekPart? with
  | none => failHere .endInList
  | some ']' => advance
  | some ',' =>
    advance
    if (← peekPart?) = some ']' then failAhead .trailingComma else failAhead .trailingText
  | some _ => failAhead .trailingText

/-- Reads the settings that are given. -/
def settings : Reader Overrides := do
  match ← peekPart? with
  | none => failHere .endInValue
  | some '{' =>
    advance
    let o ← settingFields (← bound) true {}
    advance
    return o
  | some '[' =>
    advance
    let o ← settingItems Setting.all true {}
    listEnd
    return o
  | some _ => refuse "struct Config"

end Reader

end Json

/-- Reads the settings of a project. -/
def Config.parse (text : String) : Except Json.Error Config := do
  return ({} : Config).apply (← Json.Reader.settings.run text)

end RouteMigration
