import ShaderTokens.Text.JsonString
import ShaderTokens.Text.Quoted
import ShaderTokens.Token

/-!
# Listing tokens

A token is listed on a line of its own: either its place, category and quoted text between tabs, or
a JSON object with all its parts.
-/

namespace ShaderTokens.Token

def textLine (token : Token) : String :=
  toString token.line ++ ":" ++ toString token.column ++ "\t" ++ token.category.name ++ "\t" ++
    Text.quoted token.text

def jsonLine (token : Token) : String :=
  let string := fun text : String => String.ofList (Text.JsonString.encode text.toList)
  let member := fun (name value : String) => string name ++ ": " ++ value
  "\x7b" ++
    String.intercalate ", "
      [member "text" (string token.text),
        member "category" (string token.category.name),
        member "start" (toString token.startOffset),
        member "end" (toString token.endOffset),
        member "line" (toString token.line),
        member "column" (toString token.column)] ++
    "\x7d"

def listing (token : Token) (asJson : Bool) : String :=
  if asJson then token.jsonLine else token.textLine

end ShaderTokens.Token
