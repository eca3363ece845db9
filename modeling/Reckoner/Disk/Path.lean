import Reckoner.Text.Basic

/-!
Paths: names between slashes. Empty names and single dots stand for the directory at hand, two dots
for the one above it, and a slash at the front starts at the top.
-/

namespace Reckoner.Path

/-- The names of a path, empty ones included. -/
def names : Text → List Text
  | [] => [[]]
  | c :: rest =>
    if c = '/' then [] :: names rest
    else
      match names rest with
      | [] => [[c]]
      | first :: others => (c :: first) :: others

/-- Whether a path starts at the top. -/
def isAbsolute (path : Text) : Bool := path.head? = some '/'

/-- The names that lead somewhere: a single dot does so only at the front of a relative path. -/
def steps (path : Text) : List Text :=
  let leading := if isAbsolute path then [] else (names path).take 1
  leading.filter (· ≠ []) ++
    ((names path).drop leading.length).filter (fun name => name ≠ [] && name ≠ ['.'])

/-- The path of steps. -/
def ofSteps (absolute : Bool) (steps : List Text) : Text :=
  (if absolute then ['/'] else []) ++ Text.join ['/'] steps

/-- A path, last character first, without slashes and dots at its end that lead nowhere. -/
def stripEnd : Text → Text
  | '/' :: rest => if rest = [] then ['/'] else stripEnd rest
  | '.' :: '/' :: rest => if rest = [] then ['/'] else stripEnd rest
  | other => other

/-- The path of the directory that a path lies in. -/
def parent? (path : Text) : Option Text :=
  match stripEnd path.reverse with
  | [] => none
  | ['/'] => none
  | stripped => some (stripEnd (stripped.dropWhile (· ≠ '/'))).reverse

/-- The most bytes in one name. -/
def maxNameBytes : Nat := 255

/-- The most bytes in a path. -/
def maxPathBytes : Nat := 4095

/-- The count of bytes in a text. -/
def byteCount (text : Text) : Nat := text.foldr (fun c rest => c.utf8Size + rest) 0

example : parent? "data/settings.json".toList = some "data".toList := by decide

example : parent? "a/./b".toList = some "a".toList := by decide

example : parent? "/b".toList = some "/".toList := by decide

example : parent? "h.json".toList = some [] := by decide

end Reckoner.Path
