/-!
# Where settings are kept

The settings of a user are in a directory of their own: below the configuration directory that
the user names by an absolute path, otherwise below the home directory, if one is named.
-/
namespace Tuner.Settings

/-- A path and a name below it, with one slash between them. A path that ends in a slash needs no
other. -/
def joinPath (path name : String) : String :=
  if path.isEmpty || path.endsWith "/" then path ++ name else path ++ "/" ++ name

/-- The directory of the settings. -/
def directory? (configHome home : Option String) : Option String :=
  match configHome.filter (fun path => path.startsWith "/") with
  | some path => some (joinPath path "fmctl")
  | none =>
    (home.filter fun path => !path.isEmpty).map fun path =>
      joinPath (joinPath path ".config") "fmctl"

/-- The file of the settings. -/
def path? (configHome home : Option String) : Option String :=
  (directory? configHome home).map fun path => joinPath path "config.json"

end Tuner.Settings
