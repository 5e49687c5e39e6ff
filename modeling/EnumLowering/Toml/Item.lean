/-!
The contents of a TOML document and how its lines build it up. A table
remembers how it came about, because that decides what later lines may add to it.
Reals and points in time are only told apart from other values.
-/

namespace EnumLowering.Toml

/-- How a table came about: by a header of its own, in the path of another header, by a
dotted key, or by braces. -/
inductive Origin where
  | header
  | path
  | dotted
  | inline
  | inlineDotted
  deriving DecidableEq, Repr

inductive Item where
  | string (value : String)
  | integer (value : Int)
  | real
  | boolean (value : Bool)
  | time
  | array (items : List Item)
  | table (origin : Origin) (entries : List (String × Item))
  /-- An array of tables with headers, the latest last. -/
  | tables (elements : List (List (String × Item)))

abbrev Entries := List (String × Item)

namespace Entries

def replace (key : String) (item : Item) : Entries → Entries
  | [] => [(key, item)]
  | (name, old) :: entries =>
      if name = key then (name, item) :: entries else (name, old) :: replace key item entries

def remove (key : String) (entries : Entries) : Entries := entries.filter (·.1 != key)

/-- Change the table at a path. Tables missing on the way come about as
`missing` says; a table on the way has to satisfy `mayPass`. The change is told
how the table at the end came about, if the path leads anywhere. -/
def updateAt (missing : Origin) (mayPass : Origin → Bool)
    (change : Option Origin → Entries → Option Entries) (here : Option Origin) :
    List String → Entries → Option Entries
  | [], entries => change here entries
  | key :: path, entries =>
      match entries.lookup key with
      | none =>
          (updateAt missing mayPass change (some missing) path []).map
            fun inner => replace key (.table missing inner) entries
      | some (.table origin inner) =>
          if mayPass origin then
            (updateAt missing mayPass change (some origin) path inner).map
              fun inner => replace key (.table origin inner) entries
          else none
      | some (.tables elements) =>
          match elements.getLast? with
          | none => none
          | some inner =>
              (updateAt missing mayPass change (some .header) path inner).map
                fun inner => replace key (.tables (elements.dropLast ++ [inner])) entries
      | some _ => none

def addNew (key : String) (item : Item) (entries : Entries) : Option Entries :=
  match entries.lookup key with
  | none => some (replace key item entries)
  | some _ => none

def isExtensible : Origin → Bool
  | .path | .dotted => true
  | .header | .inline | .inlineDotted => false

/-- A dotted key adds to a table that dotted keys made, and to no other. -/
def addDotted (path : List String) (key : String) (item : Item) (entries : Entries) :
    Option Entries :=
  updateAt .dotted isExtensible
    (fun origin inner =>
      match origin with
      | none | some .dotted => addNew key item inner
      | some _ => none)
    none path entries

def addInline (path : List String) (key : String) (item : Item) (entries : Entries) :
    Option Entries :=
  updateAt .inlineDotted (· == .inlineDotted)
    (fun origin inner =>
      match origin with
      | none | some .inlineDotted => addNew key item inner
      | some _ => none)
    none path entries

def isOutside : Origin → Bool
  | .header | .path | .dotted => true
  | .inline | .inlineDotted => false

def updateParent (path : List String) (change : Entries → Option Entries) (entries : Entries) :
    Option Entries :=
  updateAt .path isOutside (fun _ inner => change inner) none path entries

def tableAt? (entries : Entries) : List String → Option Entries
  | [] => some entries
  | part :: path =>
      match entries.lookup part with
      | some (.table _ inner) => tableAt? inner path
      | some (.tables elements) => elements.getLast?.bind fun inner => tableAt? inner path
      | _ => none

end Entries

inductive Line where
  | value (path : List String) (key : String) (item : Item)
  | table (path : List String) (key : String)
  | tableElement (path : List String) (key : String)

/-- The table that lines currently add to. -/
inductive Place where
  | root
  | table (path : List String) (key : String)
  | tableElement (path : List String) (key : String)

structure Assembly where
  root : Entries := []
  place : Place := .root
  current : Entries := []

namespace Assembly

def close (assembly : Assembly) : Option Entries :=
  match assembly.place with
  | .root => some assembly.current
  | .table path key =>
      assembly.root |> Entries.updateParent path fun parent =>
        Entries.addNew key (.table .header assembly.current) parent
  | .tableElement path key =>
      assembly.root |> Entries.updateParent path fun parent =>
        match parent.lookup key with
        | none => some (Entries.replace key (.tables [assembly.current]) parent)
        | some (.tables elements) =>
            some (Entries.replace key (.tables (elements ++ [assembly.current])) parent)
        | some _ => none

/-- The entries that a header takes over: a table that only stood in the path of
others may still get its own header. -/
def takeOver (root : Entries) (path : List String) (key : String) : Option (Entries × Entries) :=
  match (root.tableAt? path).bind (List.lookup key) with
  | none => some (root, [])
  | some (.table .path inner) =>
      (Entries.updateParent path (fun parent => some (Entries.remove key parent)) root).map
        fun root => (root, inner)
  | some _ => none

def addLine (assembly : Assembly) : Line → Option Assembly
  | .value path key item =>
      (Entries.addDotted path key item assembly.current).map
        fun current => { assembly with current }
  | .table path key => do
      let root ← assembly.close
      let root ← Entries.updateParent path some root
      let (root, current) ← takeOver root path key
      some { root, place := .table path key, current }
  | .tableElement path key => do
      let root ← assembly.close
      let root ← root |> Entries.updateParent path fun parent =>
        match parent.lookup key with
        | none | some (.tables _) => some parent
        | some _ => none
      some { root, place := .tableElement path key, current := [] }

end Assembly

def assemble (lines : List Line) : Option Entries :=
  (lines.foldlM Assembly.addLine {}).bind Assembly.close

end EnumLowering.Toml
