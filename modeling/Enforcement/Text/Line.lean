/-! Lines of a text. -/

namespace Enforcement.Text

/-- The lines with their line feeds; only the last one may lack it. -/
def fullLines : List Char → List (List Char)
  | [] => []
  | c :: rest =>
    if c = '\n' then [c] :: fullLines rest
    else
      match fullLines rest with
      | [] => [[c]]
      | line :: lines => (c :: line) :: lines

/-- A line without its line feed and the carriage return before it. -/
def lineBody (line : List Char) : List Char :=
  match line.reverse with
  | '\n' :: '\r' :: body => body.reverse
  | '\n' :: body => body.reverse
  | _ => line

def lines (text : List Char) : List (List Char) := (fullLines text).map lineBody

end Enforcement.Text
