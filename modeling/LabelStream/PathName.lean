/-! The names on a file path, as far as they tell what kind of file it leads to. -/
namespace LabelStream.PathName

/-- The names between the slashes. Empty names and single full stops lead nowhere and are left out. -/
def names (path : String) : List (List Char) :=
  (path.toList.splitOn '/').filter fun name => !name.isEmpty && name != ['.']

/-- The last name of a path, unless that leads up. -/
def fileName? (path : String) : Option (List Char) :=
  match (names path).getLast? with
  | some name => if name = ['.', '.'] then none else some name
  | none => none

/-- What follows the last full stop of a path's last name. A name that only begins with one has no
extension. -/
def extension? (path : String) : Option String :=
  match fileName? path with
  | none => none
  | some name =>
    let after := name.reverse.takeWhile (· != '.')
    if after.length + 1 < name.length then some (String.ofList after.reverse) else none

end LabelStream.PathName
