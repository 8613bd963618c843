/-
The layout of a sketch: lines of source text, and how deep each stands.

A line may open a block, close one, or close one and open the next. A
list of lines is printed by carrying the depth along; `depthAfter` is
where the list leaves it. Closing below the outermost level stays there,
so every list has a text.
-/

namespace SerialEndpoint.Sketch

/-- A line of source text. -/
inductive Line where
  | plain (text : String)
  | blank
  /-- The header of a block that holds the lines up to its end. -/
  | opening (header : String)
  | closing
  /-- The end of a block and the header of the one that goes on. -/
  | reopening (header : String)
deriving DecidableEq

namespace Line

/-- What a line says, without its indentation. -/
def content : Line → String
  | plain text => text
  | blank => ""
  | opening header => header ++ " \x7b"
  | closing => "\x7d"
  | reopening header => "\x7d " ++ header ++ " \x7b"

/-- How deep a line stands. -/
def depth (outer : Nat) : Line → Nat
  | plain _ | blank | opening _ => outer
  | closing | reopening _ => outer - 1

/-- How deep the line after it stands. -/
def inner (outer : Nat) : Line → Nat
  | plain _ | blank => outer
  | opening _ => outer + 1
  | closing => outer - 1
  | reopening _ => outer - 1 + 1

/-- A line as it is printed. An empty line is not indented. -/
def printed (outer : Nat) (line : Line) : String :=
  if line.content = "" then ""
  else String.ofList (List.replicate (4 * line.depth outer) ' ') ++ line.content

end Line

/-- The printed lines. -/
def printedLines (outer : Nat) : List Line → List String
  | [] => []
  | line :: rest => line.printed outer :: printedLines (line.inner outer) rest

/-- The depth after some lines. -/
def depthAfter (outer : Nat) : List Line → Nat
  | [] => outer
  | line :: rest => depthAfter (line.inner outer) rest

/-- The text of a list of lines, each with a line end. -/
def text (lines : List Line) : String :=
  String.join ((printedLines 0 lines).map (· ++ "\n"))

/-- Printing goes through a list from front to back. -/
theorem printedLines_append (outer : Nat) (xs ys : List Line) :
    printedLines outer (xs ++ ys) =
      printedLines outer xs ++ printedLines (depthAfter outer xs) ys := by
  induction xs generalizing outer with
  | nil => rfl
  | cons line rest ih => simp [printedLines, depthAfter, ih]

/-- So does the depth. -/
theorem depthAfter_append (outer : Nat) (xs ys : List Line) :
    depthAfter outer (xs ++ ys) = depthAfter (depthAfter outer xs) ys := by
  induction xs generalizing outer with
  | nil => rfl
  | cons line rest ih => simp [depthAfter, ih]

end SerialEndpoint.Sketch
