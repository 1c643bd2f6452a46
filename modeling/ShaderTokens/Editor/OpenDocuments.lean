import ShaderTokens.Editor.Workspace

/-!
# Open documents

A host that keeps the texts of its open documents, which need not be what the disk holds, and reads
all others from the disk.  The address of a document is its path.
-/

namespace ShaderTokens.Editor

structure OpenDocuments where
  texts : List (Path × String) := []

namespace OpenDocuments

def put (documents : OpenDocuments) (path : Path) (text : String) : OpenDocuments :=
  ⟨(path, text) :: documents.texts.filter fun entry => entry.1 ≠ path⟩

def source (documents : OpenDocuments) (disk : Disk) (path : Path) : Except ReadFault String :=
  match documents.texts.lookup path with
  | some text => .ok text
  | none => disk.text path

def workspace (documents : OpenDocuments) (disk : Disk) : Workspace := fun address =>
  { path := some address
    source := documents.source disk (Path.ofString address) }

@[simp] theorem source_put (documents : OpenDocuments) (disk : Disk) (path : Path) (text : String) :
    (documents.put path text).source disk path = .ok text := by
  simp [source, put]

end OpenDocuments

end ShaderTokens.Editor
