/-!
Line ends: a carriage return, with a line feed after it or not, counts as one line feed.
-/

namespace SchemaChecks.Text

def unifyLineEnds : List Char → List Char
  | [] => []
  | '\r' :: '\n' :: rest => '\n' :: unifyLineEnds rest
  | '\r' :: rest => '\n' :: unifyLineEnds rest
  | c :: rest => c :: unifyLineEnds rest

end SchemaChecks.Text
