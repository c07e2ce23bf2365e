import StreamControl.Fault

/-!
# Controller names

A controller is registered under the name the loader asks for, or under a
name derived from the path of its module: the components after the last
`controllers` directory, without the module suffix.  A derived name that is
taken gets a number from two on; a name that was asked for and is taken is
refused.

`ControllerName.derive` and `ControllerName.resolve` are the two rules.
-/

set_option autoImplicit false

namespace StreamControl.ControllerName

/-! ## Deriving a name from a path -/

/-- The directory that controller modules are kept in. -/
def directory : List Char := "controllers".toList

/-- The suffixes of controller modules. -/
def moduleSuffixes : List (List Char) := [".so".toList, ".py".toList, ".rs".toList]

/-- The text before a suffix, if it has the suffix. -/
def beforeSuffix? (path suffix : List Char) : Option (List Char) :=
  if suffix.isSuffixOf path then some (path.take (path.length - suffix.length)) else none

/-- A path without its module suffix.  The suffix stays if nothing, or the
end of a directory, would be left before it. -/
def stem (path : List Char) : List Char :=
  match moduleSuffixes.findSome? (beforeSuffix? path) with
  | some before => if before = [] ∨ before.getLast? = some '/' then path else before
  | none => path

/-- Splits a text at slashes; `word` is what has been read of the first
piece. -/
def pieces (word : List Char) : List Char → List (List Char)
  | [] => [word]
  | c :: rest => if c = '/' then word :: pieces [] rest else pieces (word ++ [c]) rest

/-- The components of a path: what stands between slashes and is not empty. -/
def components (path : List Char) : List (List Char) :=
  (pieces [] path).filter (· ≠ [])

/-- What follows the last occurrence of `mark` in a list. -/
def afterLast? (mark : List Char) : List (List Char) → Option (List (List Char))
  | [] => none
  | first :: rest =>
    match afterLast? mark rest with
    | some tail => some tail
    | none => if first = mark then some rest else none

/-- The components that make the name: those after the last `controllers`
directory, or all of them if there is none or nothing follows it. -/
def nameComponents (parts : List (List Char)) : List (List Char) :=
  match afterLast? directory parts with
  | some (first :: rest) => first :: rest
  | _ => parts

/-- The name of the controller whose module lies at a path. -/
def derive (path : String) : String :=
  String.ofList (['/'].intercalate (nameComponents (components (stem path.toList))))

/-! ## Choosing a free name -/

/-- The highest number tried to make a derived name free. -/
def highestNumber : Nat := 10001

/-- A derived name with a number. -/
def numbered (base : String) (number : Nat) : String := base ++ "-" ++ toString number

/-- The names made from a derived name that is taken, in the order they are
tried. -/
def alternatives (base : String) : List String :=
  (List.range' 2 (highestNumber - 1)).map (numbered base)

/-- A name, unless it has more than `limit` bytes. -/
def checkLength (limit : Nat) (name : String) : Except Fault String :=
  if limit < name.utf8ByteSize then .error (.nameTooLong name limit) else .ok name

/-- The name a controller is registered under.  `taken` says which names are
in use; an empty requested name counts as none. -/
def resolve (path : String) (requested : Option String) (limit : Nat) (taken : String → Bool) :
    Except Fault String :=
  match requested.filter (· ≠ "") with
  | some name => if taken name then .error (.controllerExists name) else checkLength limit name
  | none => do
    let base ← checkLength limit (derive path)
    if taken base then
      match (alternatives base).find? (fun name => !taken name) with
      | some name => checkLength limit name
      | none => .error (.nameExhausted base)
    else .ok base

end StreamControl.ControllerName
