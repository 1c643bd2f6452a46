/-!
# Line ends of text files

A line of a text file ends with a line feed, a carriage return, or both.
-/

namespace ShaderTokens.Text

def unifyLineEnds : List Char → List Char
  | [] => []
  | '\r' :: '\n' :: others => '\n' :: unifyLineEnds others
  | '\r' :: others => '\n' :: unifyLineEnds others
  | char :: others => char :: unifyLineEnds others

end ShaderTokens.Text
