import Verdict.Settings.Setting

set_option autoImplicit false

namespace Verdict.Toml

/-- What a table owes its existence to: the path of a header, the path of a key, or a header of its own. -/
inductive Origin where
  | header | key | own
deriving DecidableEq

inductive Draft where
  | value (s : Setting)
  | table (origin : Origin) (members : List (String × Draft))
  -- a list of tables, of which only the last is still open
  | tables (closed : List Setting) (last : List (String × Draft))

abbrev Members := List (String × Draft)

structure KeyPath where
  parents : List String
  name : String

def update? (name : String) (f : Option Draft → Option Draft) : Members → Option Members
  | [] => (f none).map fun d => [(name, d)]
  | (n, d) :: rest =>
      if n = name then (f (some d)).map fun d => (n, d) :: rest
      else (update? name f rest).map ((n, d) :: ·)

mutual

def Draft.close : Draft → Setting
  | .value s => s
  | .table _ ms => .table (closeMembers ms)
  | .tables closed last => .list (closed ++ [.table (closeMembers last)])

def closeMembers : Members → List (String × Setting)
  | [] => []
  | (name, d) :: rest => (name, d.close) :: closeMembers rest

end

def within? (f : Members → Option Members) : List String → Members → Option Members
  | [], ms => f ms
  | name :: path, ms =>
      update? name (fun
        | none => (within? f path []).map (.table .header)
        | some (.table origin ms) => (within? f path ms).map (.table origin)
        | some (.tables closed last) => (within? f path last).map (.tables closed)
        | some (.value _) => none) ms

def openTable? (path : KeyPath) : Members → Option Members :=
  within? (update? path.name fun
    | none => some (.table .own [])
    | some (.table .header ms) => some (.table .own ms)
    | some _ => none) path.parents

def openElement? (path : KeyPath) : Members → Option Members :=
  within? (update? path.name fun
    | none => some (.tables [] [])
    | some (.tables closed last) => some (.tables (closed ++ [.table (closeMembers last)]) [])
    | some _ => none) path.parents

def insert? (name : String) (s : Setting) : List String → Members → Option Members
  | [], ms =>
      update? name (fun
        | none => some (.value s)
        | some _ => none) ms
  | parent :: path, ms =>
      update? parent (fun
        | none => (insert? name s path []).map (.table .key)
        | some (.table .key ms) => (insert? name s path ms).map (.table .key)
        | some (.table .header ms) =>
            if path.isEmpty then none else (insert? name s path ms).map (.table .header)
        | some (.tables closed last) =>
            if path.isEmpty then none else (insert? name s path last).map (.tables closed)
        | some (.table .own _) | some (.value _) => none) ms

def insertEntry? (ms : Members) (entry : KeyPath × Setting) : Option Members :=
  insert? entry.1.name entry.2 entry.1.parents ms

def ofEntries? (entries : List (KeyPath × Setting)) : Option Setting :=
  (entries.foldlM insertEntry? []).map fun ms => .table (closeMembers ms)

inductive Statement where
  | table (path : KeyPath)
  | element (path : KeyPath)
  | entry (path : KeyPath) (s : Setting)

structure Progress where
  root : Members
  current : List String

def KeyPath.all (path : KeyPath) : List String := path.parents ++ [path.name]

def Progress.next? (p : Progress) : Statement → Option Progress
  | .table path => (openTable? path p.root).map (⟨·, path.all⟩)
  | .element path => (openElement? path p.root).map (⟨·, path.all⟩)
  | .entry path s =>
      (within? (insert? path.name s path.parents) p.current p.root).map (⟨·, p.current⟩)

def ofStatements? (statements : List Statement) : Option Setting :=
  (statements.foldlM Progress.next? ⟨[], []⟩).map fun p => .table (closeMembers p.root)

end Verdict.Toml
