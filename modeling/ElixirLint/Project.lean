import ElixirLint.FileTree

/-!
# Projects

Where a document belongs: the folder of the nearest project file above it, not above its workspace folder; without
one the workspace folder, and without that its own directory. A folder may be an application of an umbrella project
two levels up, and the configuration file of the linter is looked for in both.
-/

namespace ElixirLint

namespace Project

/-- The file that makes a folder a project. -/
def projectFile : Path := .ofString "mix.exs"

/-- The first of some directories with an entry of a name. The search ends behind the directory given as its end. -/
def firstWith (t : FileTree) (name : Path) (stop : Option Path) : List Path → Option Path
  | [] => none
  | dir :: dirs =>
    if t.exists? (dir.join name) then some dir
    else if stop.any dir.same then none
    else firstWith t name stop dirs

/-- The nearest directory from `start` upwards with an entry of a name, not above the end of the search. -/
def findUp (t : FileTree) (name start : Path) (stop : Option Path) : Option Path :=
  firstWith t name stop start.ancestors

/-- The deeper of two folders; of two equally deep, the later. -/
def deeper (best : Option Path) (folder : Path) : Option Path :=
  match best with
  | none => some folder
  | some b => if folder.components.length < b.components.length then some b else some folder

/-- The workspace folder that contains a file; the deepest one, and of several as deep the last. -/
def workspaceFor (file : Path) (folders : List Path) : Option Path :=
  (folders.filter fun f => file.startsWith f).foldl deeper none

end Project

/-- Where a document belongs. -/
structure ProjectLayout where
  /-- The directory in which the linter runs. -/
  folder : Path
  /-- Whether that is a project. -/
  isMixProject : Bool
  deriving DecidableEq, Repr

/-- The outcome of looking for the configuration file of the linter. -/
structure ConfigFileLookup where
  /-- The file, relative to the project folder if it lies in it. -/
  path : Option Path
  /-- What the user should know. -/
  warning : Option String
  deriving DecidableEq, Repr

namespace ProjectLayout

/-- The layout around a file in a workspace folder. -/
def discover (t : FileTree) (file : Path) (workspace : Option Path) : ProjectLayout :=
  let directory := file.parent?.getD file
  match Project.findUp t Project.projectFile directory workspace with
  | some folder => ⟨folder, true⟩
  | none => ⟨workspace.getD directory, false⟩

/-- The umbrella project two levels up, if there is one: a directory of applications beside a project file. -/
def umbrellaRoot (t : FileTree) (l : ProjectLayout) : Option Path :=
  match l.folder.parent?.bind Path.parent? with
  | none => none
  | some root =>
    if t.isDirectory (root.join (.ofString "apps")) && t.isFile (root.join Project.projectFile) then some root
    else none

/-- The path of a file relative to the project folder. -/
def relativePath (l : ProjectLayout) (file : Path) : Option Path := file.stripBase? l.folder

/-- The places at which the configuration file may be: in the project folder and in the umbrella project, and in each
in the folder for configuration. -/
def candidates (t : FileTree) (l : ProjectLayout) (configured : Path) : List Path :=
  let within (folder : Path) : List Path := [folder.join configured, (folder.join (.ofString "config")).join configured]
  within l.folder ++ ((l.umbrellaRoot t).map within).getD []

/-- Looks for the configuration file of the linter. An absolute path to something is taken as it is. -/
def configFile (t : FileTree) (l : ProjectLayout) (configured : String) : ConfigFileLookup :=
  let path := Path.ofString configured
  if path.isAbsolute && t.exists? path then ⟨some path, none⟩
  else
    match (l.candidates t path).filter t.exists? with
    | [] => ⟨none, some (configured ++ " file does not exist. Ignoring...")⟩
    | first :: rest =>
      let warning :=
        if rest.isEmpty then none
        else
          some ("Found multiple files (" ++ ", ".intercalate ((first :: rest).map Path.display) ++
            "). I will use " ++ first.display)
      ⟨some ((first.stripBase? l.folder).getD first), warning⟩

end ProjectLayout

end ElixirLint
