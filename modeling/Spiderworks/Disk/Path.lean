namespace Spiderworks.Path

def splitAux (part : List Char) : List Char → List (List Char)
  | [] => [part.reverse]
  | c :: rest => if c = '/' then part.reverse :: splitAux [] rest else splitAux (c :: part) rest

def parts (path : String) : List String :=
  ((splitAux [] path.toList).filter fun p => p != [] && p != ['.']).map String.ofList

def isAbsolute (path : String) : Bool := path.toList.head? == some '/'

-- An absolute path takes the place of what it is joined to.
def join (base path : String) : String :=
  if isAbsolute path || base.isEmpty then path
  else if base.toList.getLast? == some '/' then base ++ path
  else base ++ "/" ++ path

def ofParts (ps : List String) : String := "/" ++ String.intercalate "/" ps

-- The last part, unless it leads upwards.
def fileName? (path : String) : Option String := (parts path).getLast?.filter (· != "..")

-- What follows the last dot of a name. A name whose only dot comes first has none.
def extensionOfName? (name : List Char) : Option (List Char) :=
  let back := name.reverse.takeWhile (· != '.')
  if back.length + 1 < name.length then some back.reverse else none

def extension? (path : String) : Option String :=
  (fileName? path).bind fun name => (extensionOfName? name.toList).map String.ofList

end Spiderworks.Path
