/-!
What a program may find under the name of a file.
-/

namespace PegGrammar

inductive FileState
  | absent
  | directory
  | notDirectory
  | notUtf8
  | text (content : String)
deriving DecidableEq, Repr

abbrev Files := String → FileState

namespace FileState

def isFile : FileState → Bool
  | .notUtf8 | .text _ => true
  | _ => false

def read : FileState → Except String String
  | .absent => .error "No such file or directory (os error 2)"
  | .directory => .error "Is a directory (os error 21)"
  | .notDirectory => .error "Not a directory (os error 20)"
  | .notUtf8 => .error "stream did not contain valid UTF-8"
  | .text content => .ok content

end FileState

namespace Files

def parts (name : String) : List String := name.splitOn "/"

def isStill (part : String) : Bool := part == "" || part == "."

def steps (name : String) : List String := (parts name).filter (!isStill ·)

def normalize (name : String) : String := "/".intercalate (steps name)

def stateAt (files : List (String × FileState)) (place : List String) : FileState :=
  match files.find? (steps ·.1 == place) with
  | some (_, state) => state
  | none =>
    if place.isEmpty || files.any (fun f => place.isPrefixOf (steps f.1)) then .directory
    else .absent

/-- Follows the parts of a name from a place on. Above the directory of the files there are only
directories, and the way down again is not known. -/
def follow (files : List (String × FileState)) : (place : List String) → List String → FileState
  | place, [] => stateAt files place
  | place, part :: rest =>
    match stateAt files place with
    | .absent => .absent
    | .directory =>
      if isStill part then follow files place rest
      else if part != ".." then follow files (place ++ [part]) rest
      else if !place.isEmpty then follow files place.dropLast rest
      else if rest.all fun p => isStill p || p == ".." then .directory
      else .absent
    | _ => .notDirectory

def ofList (files : List (String × FileState)) : Files := fun name =>
  if name = "" then .absent else follow files [] (parts name)

end Files

end PegGrammar
