import ScriptHost.Text.Search

/-!
# Paths as text

Taking paths apart and putting them together without looking at the file tree.
-/

namespace ScriptHost.PathText

open ScriptHost.Text

/-- Joins a folder's path and a path inside it; an absolute second path stands alone. -/
def joined (a b : String) : String :=
  if b.startsWith "/" then b
  else if a.isEmpty || a.endsWith "/" then a ++ b
  else a ++ "/" ++ b

/-- The part up to and including the last slash, and the part after it. -/
def splitLast (cs : List Char) : List Char × List Char :=
  let tail := (cs.reverse.takeWhile (· != '/')).reverse
  (cs.take (cs.length - tail.length), tail)

/-- Drops slashes at the end, unless there is nothing else. -/
def dropSlashes (cs : List Char) : List Char :=
  let kept := (cs.reverse.dropWhile (· == '/')).reverse
  if kept.isEmpty then cs else kept

/-- The folder part and the last name of a path. -/
def headTail (path : String) : String × String :=
  let (h, t) := splitLast path.toList
  (String.ofList (dropSlashes h), String.ofList t)

/-- The last name of a path; empty if the path ends with a slash. -/
def fileName (path : String) : String :=
  (headTail path).2

/-- The path without its last name. -/
def parentName (path : String) : String :=
  (headTail path).1

/-- The end of a file name from its last dot on, unless only dots come before it. -/
def extension (path : String) : String :=
  let name := (fileName path).toList
  let ext := (name.reverse.takeWhile (· != '.')).reverse
  let stem := name.take (name.length - ext.length - 1)
  if name.contains '.' && stem.any (· != '.') then String.ofList ('.' :: ext) else ""

/-- Names with `.` and `..` worked out; `up` names are kept backwards. -/
def normalNames (rooted : Bool) (up : List String) : List String → List String
  | [] => up.reverse
  | n :: rest =>
    if n == "" || n == "." then normalNames rooted up rest
    else if n == ".." then
      match up with
      | [] => if rooted then normalNames rooted [] rest else normalNames rooted [".."] rest
      | u :: us =>
        if u == ".." then normalNames rooted (n :: up) rest else normalNames rooted us rest
    else normalNames rooted (n :: up) rest

/-- A path without detours. Two leading slashes, and no more, are kept. -/
def normal (path : String) : String :=
  if path.isEmpty then "."
  else
    let cs := path.toList
    let lead := (cs.takeWhile (· == '/')).length
    let slashes := if lead == 0 then 0 else if lead == 2 then 2 else 1
    let names := normalNames (slashes != 0) [] ((cs.splitOn '/').map String.ofList)
    let body := List.replicate slashes '/' ++ join ['/'] (names.map String.toList)
    if body.isEmpty then "." else String.ofList body

/-- The absolute path of a path seen from a folder. -/
def absolute (folder path : String) : String :=
  normal (joined folder path)

/-- A path without slashes at its end. -/
def trimmedName (path : String) : String :=
  fileName (String.ofList (path.toList.reverse.dropWhile (· == '/')).reverse)

end ScriptHost.PathText
