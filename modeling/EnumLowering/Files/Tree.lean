/-!
Files, and what goes wrong with them. Paths start at the working directory or,
with a slash in front, at the root. A path is followed part by part: everything
in front of its last part has to be a directory.
-/

namespace EnumLowering

inductive FileError where
  | notFound
  | notDirectory
  | isDirectory
  | nameTooLong
  | notUtf8
  | nulInName
  /-- Any other failure, in the words of the system. -/
  | other (text : String)
  deriving DecidableEq, Repr

def FileError.message : FileError → String
  | .notFound => "No such file or directory (os error 2)"
  | .notDirectory => "Not a directory (os error 20)"
  | .isDirectory => "Is a directory (os error 21)"
  | .nameTooLong => "File name too long (os error 36)"
  | .notUtf8 => "stream did not contain valid UTF-8"
  | .nulInName => "file name contained an unexpected NUL byte"
  | .other text => text

inductive FileEntry where
  | file (content : ByteArray)
  | directory

/-- Entries by their parts below the root. -/
structure FileTree where
  entries : List (List String × FileEntry) := []

namespace FileTree

def pathParts (path : String) : List String := path.splitOn "/"

def workingParts : List String := ["work"]

/-- The working directory and the root are always there. -/
def entry? (tree : FileTree) (parts : List String) : Option FileEntry :=
  if parts.isPrefixOf workingParts then some .directory else tree.entries.lookup parts

def put (tree : FileTree) (parts : List String) (entry : FileEntry) : FileTree :=
  { entries := (parts, entry) :: tree.entries.filter (·.1 != parts) }

def longestName : Nat := 255

def longestPath : Nat := 4095

/-- Follow the parts of a path below a directory. The result are the parts of
the place itself, at which there may be nothing yet. -/
def follow (tree : FileTree) (place : List String) : List String → Except FileError (List String)
  | [] => .ok place
  | part :: rest =>
      match tree.entry? place with
      | none => .error .notFound
      | some (.file _) => .error .notDirectory
      | some .directory =>
          if part = "" || part = "." then tree.follow place rest
          else if part = ".." then tree.follow place.dropLast rest
          else if longestName < part.utf8ByteSize then .error .nameTooLong
          else tree.follow (place ++ [part]) rest

def resolveParts (tree : FileTree) (path : String) (keep : List String → List String) :
    Except FileError (List String) :=
  if path.toList.contains '\x00' then .error .nulInName
  else if path = "" then .error .notFound
  else if longestPath < path.utf8ByteSize then .error .nameTooLong
  else tree.follow (if path.startsWith "/" then [] else workingParts) (keep (pathParts path))

def resolve (tree : FileTree) (path : String) : Except FileError (List String) :=
  tree.resolveParts path id

def resolveAbove (tree : FileTree) (path : String) : Except FileError (List String) :=
  tree.resolveParts path fun parts => (parts.filter (· != "")).dropLast ++ ["."]

def isFile (tree : FileTree) (path : String) : Bool :=
  match (tree.resolve path).toOption.bind tree.entry? with
  | some (.file _) => true
  | _ => false

def read (tree : FileTree) (path : String) : Except FileError String :=
  match tree.resolve path with
  | .error error => .error error
  | .ok place =>
      match tree.entry? place with
      | none => .error .notFound
      | some .directory => .error .isDirectory
      | some (.file content) =>
          match String.fromUTF8? content with
          | some text => .ok text
          | none => .error .notUtf8

/-- Write a whole file. A path that ends with a slash can only name a directory,
whatever stands there. -/
def write (tree : FileTree) (path content : String) : Except FileError FileTree :=
  if path.endsWith "/" then (tree.resolveAbove path).bind fun _ => .error .isDirectory
  else
    match tree.resolve path with
    | .error error => .error error
    | .ok place =>
        match tree.entry? place with
        | some .directory => .error .isDirectory
        | some (.file _) | none => .ok (tree.put place (.file content.toUTF8))

/-- The tree with an entry at a path below the working directory, and with the
directories above it. -/
def withEntry (tree : FileTree) (path : String) (entry : FileEntry) : FileTree :=
  let parts := workingParts ++ (pathParts path).filter (· != "")
  let above := (List.range parts.length).map parts.take
  let tree := above.foldl (fun tree parts =>
    if (tree.entry? parts).isNone then tree.put parts .directory else tree) tree
  if parts = workingParts then tree else tree.put parts entry

end FileTree

end EnumLowering
