import Conform.Text.Split

namespace Conform.Files

def parts (path : String) : List (List Char) := Text.split '/' path.toList

def isAbsolute (path : String) : Bool := path.toList.head? == some '/'

def isSilent (part : List Char) : Bool := part == [] || part == ['.']

def upwards : List Char := ['.', '.']

def splitLast? (path : String) : Option (List (List Char) × List Char) :=
  match (parts path).reverse.dropWhile isSilent with
  | [] => none
  | last :: before => some (before.reverse, last)

-- A point at the start of a name only hides a file.
def splitName (name : List Char) : List Char × Option (List Char) :=
  match name.reverse.dropWhile (· != '.') with
  | [] | ['.'] => (name, none)
  | _ :: stem => (stem.reverse, some (name.reverse.takeWhile (· != '.')).reverse)

def extension? (path : String) : Option String := do
  let (_, name) ← splitLast? path
  if name = upwards then none else (splitName name).2.map String.ofList

def ofParts (parts : List (List Char)) : String := .ofList (Text.join ['/'] parts)

-- A path that names no file stays as it is.
def withExtension (path extension : String) : String :=
  match splitLast? path with
  | none => path
  | some (before, name) =>
      if name = upwards then path else ofParts (before ++ [(splitName name).1 ++ '.' :: extension.toList])

def within (folder path : String) : String :=
  if isAbsolute path || folder == "" then path
  else if folder.toList.getLast? == some '/' then folder ++ path
  else folder ++ "/" ++ path

def isName (path name : String) : Bool :=
  match splitLast? path with
  | some (before, last) => last == name.toList && before.isEmpty
  | none => false

end Conform.Files
