import RuleLexer.Bundled

/-!
# Listing languages

The command for languages lists the bundled languages, one a line.
-/

namespace RuleLexer.Languages

def list : List LexerInfo :=
  Bundled.all.map (·.header.toLexerInfo)

def renderLine (info : LexerInfo) : String :=
  info.name ++ "\taliases: " ++ ", ".intercalate info.aliases ++ "\tfiles: " ++
    ", ".intercalate info.filenames ++ "\n"

def render : String :=
  String.join (list.map renderLine)

end RuleLexer.Languages
