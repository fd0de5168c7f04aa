import Gateway.FileTree.Basic

/-!
# Editing file trees

Changes to a tree from outside the gateway: files are written together with the directories above
them, entries are removed with all that lies below them, and links are made.
-/

namespace Gateway.FileTree

/-- Makes the directories on the way that some names lead, unless they are there. -/
def makeWay (t : FileTree) (done : List Name) : List Name → Except Problem FileTree
  | [] => .ok t
  | n :: rest =>
    match walkFrom t true linkLimit [] (done ++ [n]) with
    | .error problem => .error problem
    | .ok (p, none) => makeWay (t.insert p .directory) (done ++ [n]) rest
    | .ok (_, some .directory) => makeWay t (done ++ [n]) rest
    | .ok (_, some _) => .error .notDirectory

/-- Makes a directory and those above it. -/
def makeDirectory (t : FileTree) (path : Bytes) : Except Problem FileTree :=
  match fault? path with
  | some problem => .error problem
  | none => makeWay t [] (names path)

/-- Writes a file, in place of the one that is there, and makes the directories above it. -/
def write (t : FileTree) (path : Bytes) (content : Bytes) : Except Problem FileTree :=
  match fault? path with
  | some problem => .error problem
  | none =>
    match makeWay t [] (names path).dropLast with
    | .error problem => .error problem
    | .ok t =>
      match walkFrom t true linkLimit [] (names path) with
      | .error problem => .error problem
      | .ok (_, some .directory) => .error .isDirectory
      | .ok (p, _) => .ok (t.insert p (.file content))

/-- Removes an entry and all that lies below it. A link is removed, not what it leads to. -/
def remove (t : FileTree) (path : Bytes) : Except Problem FileTree :=
  match fault? path with
  | some problem => .error problem
  | none =>
    let ns := names path
    match ns.getLast? with
    | none => .error .notFound
    | some n =>
      match walkFrom t true linkLimit [] (ns.dropLast ++ [here]) with
      | .error problem => .error problem
      | .ok (place, _) =>
        match t.find? (place ++ [n]) with
        | none => .error .notFound
        | some _ => .ok (t.erase (place ++ [n]))

/-- Makes a link to a path that need not lead anywhere. -/
def link (t : FileTree) (path target : Bytes) : Except Problem FileTree :=
  if target = [] then .error .notFound
  else
    match t.freePlace path with
    | .ok p => .ok (t.insert p (.link target))
    | .error problem => .error problem

/-- A tree of files and directories; those that cannot be made are left out. -/
def ofFiles (files : List (Bytes × Option Bytes)) : FileTree :=
  files.foldl (fun t (path, content) =>
    let changed := match content with
      | some bs => t.write path bs
      | none => t.makeDirectory path
    match changed with
    | .ok t => t
    | .error _ => t) empty

/-- The path that leads to a place from the root. -/
def pathOf (p : Place) : Bytes := [slash].intercalate p

end Gateway.FileTree
