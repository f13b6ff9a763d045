import ExtensionAtlas.Files.Tree
import ExtensionAtlas.Log

/-! Reading source files. A file holds text in strict UTF-8; line ends of every kind are read as
line feeds, and a byte-order mark is a character like any other. Every attempt is logged, and so is
every failure of a file to give its text; a path that no file can have is a failure of the caller.
-/

namespace ExtensionAtlas.FileTree

def readText (t : FileTree) (p : Path) : Except Fault String :=
  if p.toText.toList.contains '\x00' then .error .nullInPath
  else match t.find p with
  | .error cause => .error (.unreadableFile p.toText cause)
  | .ok place =>
    match t.node? place with
    | none => .error (.unreadableFile p.toText .notFound)
    | some .directory => .error (.unreadableFile p.toText .isDirectory)
    | some .socket => .error (.unreadableFile p.toText .noDevice)
    | some (.file content) =>
      match Text.decodeUtf8 content with
      | .error cause => .error (.undecodableFile cause)
      | .ok text => .ok (String.ofList (Text.unifyLines text))

def readEntries (t : FileTree) (p : Path) : List LogEntry :=
  ⟨.debug, "reading AL file", [("path", .string p.toText)]⟩ ::
    match t.readText p with
    | .ok _ | .error .nullInPath => []
    | .error fault =>
      [⟨.warning, "failed to read AL file",
        [("path", .string p.toText), ("error", .string fault.message)]⟩]

end ExtensionAtlas.FileTree
