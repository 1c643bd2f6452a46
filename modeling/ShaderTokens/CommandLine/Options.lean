/-!
# Options of the command line

Options have a long name, and some of them a letter.  Some take a value.
-/

namespace ShaderTokens.CommandLine

inductive OptionName
  | help
  | config
  | type
  | qualifier
  | keyword
  | builtin
  | classify
  | json
  | whitespace
  | debug
  deriving DecidableEq, Repr

namespace OptionName

def all : List OptionName :=
  [help, config, type, qualifier, keyword, builtin, classify, json, whitespace, debug]

def long : OptionName → String
  | help => "--help"
  | config => "--config"
  | type => "--type"
  | qualifier => "--qualifier"
  | keyword => "--keyword"
  | builtin => "--builtin"
  | classify => "--classify"
  | json => "--json"
  | whitespace => "--whitespace"
  | debug => "--debug"

def letter? : OptionName → Option Char
  | help => some 'h'
  | type => some 't'
  | qualifier => some 'q'
  | keyword => some 'k'
  | builtin => some 'b'
  | config | classify | json | whitespace | debug => none

def takesValue : OptionName → Bool
  | config | type | qualifier | keyword | builtin | classify => true
  | help | json | whitespace | debug => false

def label (name : OptionName) : String :=
  match name.letter? with
  | some letter => "-" ++ letter.toString ++ "/" ++ name.long
  | none => name.long

def ofLetter? (letter : Char) : Option OptionName :=
  all.find? (·.letter? = some letter)

def ofLong? (spelling : List Char) : Option OptionName :=
  all.find? (·.long.toList = spelling)

def abbreviatedBy (start : List Char) : List OptionName :=
  all.filter fun name => start.isPrefixOf name.long.toList

end OptionName

/-! ## Texts -/

def usage : String :=
  "usage: hlslex [-h] [--config FILE] [-t WORD] [-q WORD] [-k WORD] [-b WORD]\n" ++
  "              [--classify WORD] [--json] [--whitespace] [--debug]\n" ++
  "              [input]\n"

def helpText : String :=
  usage ++
  "\n" ++
  "Classify and tokenize HLSL shader source\n" ++
  "\n" ++
  "positional arguments:\n" ++
  "  input                 Input shader file ('-' for stdin)\n" ++
  "\n" ++
  "options:\n" ++
  "  -h, --help            show this help message and exit\n" ++
  "  --config FILE         Config file (default: auto-discover hlslex.toml)\n" ++
  "  -t WORD, --type WORD  Additional type name (repeatable)\n" ++
  "  -q WORD, --qualifier WORD\n" ++
  "                        Additional qualifier (repeatable)\n" ++
  "  -k WORD, --keyword WORD\n" ++
  "                        Additional keyword (repeatable)\n" ++
  "  -b WORD, --builtin WORD\n" ++
  "                        Additional builtin (repeatable)\n" ++
  "  --classify WORD       Print the category of WORD instead of tokenizing\n" ++
  "                        (repeatable)\n" ++
  "  --json                Emit tokens as JSON lines\n" ++
  "  --whitespace          Include whitespace tokens\n" ++
  "  --debug               Dump the compiled lexicon to stderr\n"

end ShaderTokens.CommandLine
