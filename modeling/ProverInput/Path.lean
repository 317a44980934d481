set_option autoImplicit false

/-! # Paths

A path is segments with slashes between them. One that starts with a slash is absolute. The segment
`.` stays where it is and `..` goes back one step; `normalize` gives the path without such detours.
-/

namespace ProverInput.Path

/-- The segments of a path, split at its slashes. -/
def segments (path : String) : List String :=
  (path.toList.splitBy fun a b => a ≠ '/' ∧ b ≠ '/').filterMap fun run =>
    if run = ['/'] then none else some (String.ofList run)

/-- The segments of a path without detours. A `..` above the start is kept in a relative path and
dropped in an absolute one. -/
def straighten (absolute : Bool) (path : String) : List String :=
  (segments path).foldl (fun done segment =>
    if segment = "." then done
    else if segment = ".." then
      match done.getLast? with
      | none => if absolute then done else done ++ [segment]
      | some last => if last = ".." then done ++ [segment] else done.dropLast
    else done ++ [segment]) []

def isAbsolute (path : String) : Bool := path.toList.head? = some '/'

/-- A path without empty segments and detours. A slash at the end stays. -/
def normalize (path : String) : String :=
  let absolute := isAbsolute path
  let trailing := path.toList.getLast? = some '/'
  let body := "/".intercalate (straighten absolute path)
  if absolute then
    if body.isEmpty then "/" else "/" ++ body ++ (if trailing then "/" else "")
  else (if body.isEmpty then "." else body) ++ (if trailing then "/" else "")

/-- The path from a directory on. -/
def join (dir path : String) : String :=
  let parts := [dir, path].filter (· ≠ "")
  if parts.isEmpty then "." else normalize ("/".intercalate parts)

/-- Where output goes: an absolute path is kept, a relative one starts at the directory. -/
def resolve (dir path : String) : String := if isAbsolute path then path else join dir path

end ProverInput.Path
