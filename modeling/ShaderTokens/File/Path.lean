import ShaderTokens.Text.Line

/-!
# Paths

Names of files, separated by slashes.  Empty names and single dots mean nothing and are dropped;
double dots are kept, because the name before may be a link.
-/

namespace ShaderTokens

/-- Where a path starts.  Two slashes may mean something else than one; more than two do not. -/
inductive PathAnchor
  | relative
  | root
  | doubleRoot
  deriving DecidableEq, Repr

namespace PathAnchor

def text : PathAnchor → String
  | relative => ""
  | root => "/"
  | doubleRoot => "//"

def ofText (text : List Char) : PathAnchor :=
  match (text.takeWhile (· = '/')).length with
  | 0 => relative
  | 2 => doubleRoot
  | _ => root

end PathAnchor

structure Path where
  anchor : PathAnchor := .relative
  parts : List String
  deriving DecidableEq, Repr

namespace Path

def ofString (text : String) : Path :=
  let parts := (Text.between '/' text.toList).map String.ofList
  ⟨.ofText text.toList, parts.filter fun part => part ≠ "" && part ≠ "."⟩

def text (path : Path) : String :=
  let written := path.anchor.text ++ String.intercalate "/" path.parts
  if written.isEmpty then "." else written

def parent (path : Path) : Path := { path with parts := path.parts.dropLast }

def child (directory : Path) (name : String) : Path :=
  { directory with parts := directory.parts ++ [name] }

def name (path : Path) : String := path.parts.getLast?.getD ""

/-- The last name from its last dot on, if anything stands before that dot and after it. -/
def suffix (path : Path) : String :=
  let backwards := path.name.toList.reverse
  let extension := backwards.takeWhile (· ≠ '.')
  let stem := backwards.drop (extension.length + 1)
  if extension.isEmpty || stem.isEmpty then "" else String.ofList ('.' :: extension.reverse)

end Path

/-! ## Shader files -/

def shaderExtensions : List String :=
  [".fx", ".fxc", ".fxh", ".hlsl", ".shader", ".cginc", ".compute"]

/-- Letter case does not matter; the extensions are ASCII, and no other letter has a lower case form
in it. -/
def Path.hasShaderExtension (path : Path) : Bool :=
  shaderExtensions.contains (String.ofList (path.suffix.toList.map Char.toLower))

end ShaderTokens
