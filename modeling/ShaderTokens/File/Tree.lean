import ShaderTokens.File.Disk

/-!
# File trees

A directory with files and further directories, as a disk.  Nothing is known about the directories
around it except that they are there.
-/

namespace ShaderTokens

abbrev Route := List String

inductive FileNode
  | file (content : List UInt8)
  | directory
  deriving DecidableEq, Repr

structure FileTree where
  nodes : List (Route × FileNode) := []
  deriving DecidableEq, Repr

namespace FileTree

/-! ## Changing a tree -/

def node? (tree : FileTree) (route : Route) : Option FileNode :=
  if route.isEmpty then some .directory else tree.nodes.lookup route

def erase (tree : FileTree) (route : Route) : FileTree :=
  ⟨tree.nodes.filter fun entry => entry.1 ≠ route⟩

def put (tree : FileTree) (route : Route) (node : FileNode) : FileTree :=
  ⟨(route, node) :: (tree.erase route).nodes⟩

/-! ## Following a path -/

/-- Where a path has led so far.  Outside the tree there are directories only. -/
inductive Place
  | inside (route : Route)
  | outside
  deriving DecidableEq, Repr

/-- The longest name and the longest path that the system takes, in bytes. -/
def longestName : Nat := 255

def longestPath : Nat := 4095

def Place.parent : Place → Place
  | inside route => if route.isEmpty then outside else inside route.dropLast
  | outside => outside

def step (tree : FileTree) (place : Place) (name : String) : Except FileFault Place :=
  match place with
  | .outside =>
    if name = ".." then .ok .outside
    else if longestName < Text.Utf8.size name then .error .nameTooLong
    else .error .notFound
  | .inside route =>
    match tree.node? route with
    | some .directory =>
      if name = ".." then .ok place.parent
      else if longestName < Text.Utf8.size name then .error .nameTooLong
      else if (tree.node? (route ++ [name])).isSome then .ok (.inside (route ++ [name]))
      else .error .notFound
    | some (.file _) => .error .notDirectory
    | none => .error .notFound

def follow (tree : FileTree) (path : Path) : Except FileFault Place :=
  if longestPath < Text.Utf8.size path.text then .error .nameTooLong
  else
    let start := if path.anchor = .relative then .inside [] else .outside
    path.parts.foldlM tree.step start

def disk (tree : FileTree) : Disk := fun path =>
  if path.text.toList.contains (Char.ofNat 0) then .unaddressable
  else
    match tree.follow path with
    | .error fault => .inaccessible fault
    | .ok .outside => .directory
    | .ok (.inside route) =>
      match tree.node? route with
      | some (.file content) => .file content
      | some .directory => .directory
      | none => .inaccessible .notFound

/-! ## Writing and removing -/

def makeParents (tree : FileTree) (path : Path) : FileTree × Route :=
  path.parts.dropLast.foldl
    (fun (tree, route) name =>
      if name = ".." then (tree, route.dropLast)
      else
        let route := route ++ [name]
        (if (tree.node? route).isSome then tree else tree.put route .directory, route))
    (tree, [])

def write (tree : FileTree) (path : Path) (node : FileNode) : FileTree :=
  let (tree, route) := tree.makeParents path
  tree.put (route ++ [path.name]) node

def remove (tree : FileTree) (path : Path) : Except ReadFault FileTree :=
  match tree.disk path, tree.follow path with
  | .file _, .ok (.inside route) => .ok (tree.erase route)
  | .inaccessible fault, _ => .error (.inaccessible fault path)
  | .unaddressable, _ => .error .unaddressable
  | _, _ => .error (.inaccessible .isDirectory path)

end FileTree

end ShaderTokens
