import RouteMigration.Json.Error
import RouteMigration.Project.FileTree
import RouteMigration.Source.SyntaxError

/-!
# Why a project cannot be migrated

## Main Definitions

* `ProjectError` — what went wrong
* `ProjectError.message` — how it is told
-/

namespace RouteMigration

/-- What went wrong with a project or one of its files. -/
inductive ProjectError where
  /-- The settings cannot be read. -/
  | configRead (path : String) (fault : FileFault)
  | configText (path : String) (error : Json.Error)
  | noAppDirectory (root : String)
  /-- The app directory cannot be walked. -/
  | walk (path : String) (fault : FileFault)
  | read (path : String) (fault : FileFault)
  /-- A module is refused; its text is kept to show the place. -/
  | source (path text : String) (error : SyntaxError)
  | write (path : String) (fault : FileFault)
  /-- The description of the packages is refused. -/
  | manifest (path : String) (error : Json.Error)
  /-- A program cannot be started. -/
  | start (program : String) (fault : FileFault)
  /-- A program ended with another status than zero. -/
  | status (program : String) (code : UInt8)
deriving DecidableEq, Repr, Inhabited

/-- How an error is told. -/
def ProjectError.message : ProjectError → String
  | configRead path fault => "failed to read " ++ path ++ ": " ++ fault.message
  | configText path error => "invalid configuration in " ++ path ++ ": " ++ error.message
  | noAppDirectory root =>
    "no app directory found under " ++ root ++ " (looked for app/ and src/app/)"
  | walk path fault =>
    "failed to walk " ++ path ++ ": IO error for operation on " ++ path ++ ": " ++ fault.message
  | read path fault => "failed to read " ++ path ++ ": " ++ fault.message
  | source path _ error => path ++ ": " ++ error.message
  | write path fault => "failed to write " ++ path ++ ": " ++ fault.message
  | manifest path error => "invalid package.json at " ++ path ++ ": " ++ error.message
  | start program fault => "failed to run " ++ program ++ ": " ++ fault.message
  | status program code => program ++ " exited with exit status: " ++ toString code.toNat

end RouteMigration
