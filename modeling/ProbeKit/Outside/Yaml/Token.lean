/-!
# YAML tokens

The words of the language: directives, marks between documents, the opening and closing of blocks
and brackets, and the texts, names and tags between them.
-/

namespace ProbeKit.Outside.Yaml

/-- A directive before a document. -/
inductive Directive where
  /-- The version of the language, by its major number. -/
  | version (major : Nat)
  /-- A handle that stands for the beginning of tags. -/
  | handle (name tags : String)
  /-- Anything else. -/
  | other
  deriving DecidableEq

/-- A token. -/
inductive Token where
  /-- A directive. -/
  | directive (d : Directive)
  /-- The start of a document. -/
  | documentStart
  /-- The end of a document. -/
  | documentEnd
  /-- The end of the text. -/
  | textEnd
  /-- A block of items opens. -/
  | blockItems
  /-- A block of members opens. -/
  | blockMembers
  /-- A block closes. -/
  | blockEnd
  /-- A bracket opens. -/
  | openBracket
  /-- A bracket closes. -/
  | closeBracket
  /-- A brace opens. -/
  | openBrace
  /-- A brace closes. -/
  | closeBrace
  /-- An item of a block. -/
  | dash
  /-- A comma between items or members. -/
  | comma
  /-- A key follows. -/
  | key
  /-- A value follows. -/
  | value
  /-- A node named before. -/
  | alias (name : String)
  /-- The name of the node that follows. -/
  | anchor (name : String)
  /-- The tag of the node that follows, with its handle if it has one. -/
  | tag (handle : Option String) (rest : String)
  /-- A text, with or without quotes around it. -/
  | scalar (text : String) (plain : Bool)
  deriving DecidableEq

end ProbeKit.Outside.Yaml
