import Verdict.Text.Search

set_option autoImplicit false

namespace Verdict

structure Files where
  entries : List (List String × String)

namespace Files

def names (path : String) : List String :=
  (Text.pieces '/' path.toList).map String.ofList

def isDirectory (files : Files) (path : List String) : Bool :=
  path.isEmpty || files.entries.any fun (file, _) => path.length < file.length && path.isPrefixOf file

def follow? (files : Files) : (here : List String) → List String → Option (List String)
  | here, [] => some here
  | here, name :: rest =>
      if !files.isDirectory here then none
      else if name = "" ∨ name = "." then follow? files here rest
      else if name = ".." then
        if here.isEmpty then none else follow? files here.dropLast rest
      else follow? files (here ++ [name]) rest

def get? (files : Files) (path : String) : Option String :=
  if path.startsWith "/" then none
  else (files.follow? [] (names path)).bind fun place => files.entries.lookup place

def ofList (files : List (String × String)) : Files :=
  ⟨files.map fun (path, text) => ((names path).filter fun name => name ≠ "" ∧ name ≠ ".", text)⟩

def join (directory name : String) : String :=
  if name.startsWith "/" then name
  else if directory = "" then name
  else directory ++ "/" ++ name

end Files

end Verdict
