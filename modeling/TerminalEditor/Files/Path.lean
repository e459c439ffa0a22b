import TerminalEditor.Text.Fields

/-!
# Path names

A path is text with slashes between its segments.  Empty segments, and single
dots after the first place, name nothing.  The parent of a path is the path
without its last named segment, otherwise letter by letter the same.
-/

namespace TerminalEditor.Path

/-- The two dots that name the directory above. -/
def above : List Char :=
  ['.', '.']

/-- Whether a segment names nothing. -/
def isSilent (segment : List Char) : Bool :=
  segment == [] || segment == ['.']

/-- Whether a path starts at the root. -/
def isAbsolute (path : List Char) : Bool :=
  path.head? == some '/'

/-- The segments of a path, also the ones that name nothing. -/
def segments (path : List Char) : List (List Char) :=
  Text.fields '/' path

/-- The first part of a path, up to a root or a leading dot. -/
def splitHead (path : List Char) : List Char × List Char :=
  match path with
  | '/' :: rest => (['/'], rest)
  | ['.'] => (['.'], [])
  | '.' :: '/' :: rest => (['.'], '/' :: rest)
  | _ => ([], path)

/-- Segments without the ones at the end that name nothing. -/
def trimmed (parts : List (List Char)) : List (List Char) :=
  (parts.reverse.dropWhile isSilent).reverse

/--
The path above a path.  The root and the empty path have none; the path above
a single name is empty.
-/
def parent? (path : List Char) : Option (List Char) :=
  let (first, body) := splitHead path
  match trimmed (segments body) with
  | [] => if first = ['.'] then some [] else none
  | parts =>
    some (first ++ ['/'].intercalate (trimmed parts.dropLast))

/-- A path followed by a name. -/
def join
    (path : List Char)
    (name : List Char) :
    List Char :=
  if path.isEmpty ∨ path.getLast? = some '/' then
    path ++ name
  else
    path ++ '/' :: name

end TerminalEditor.Path
