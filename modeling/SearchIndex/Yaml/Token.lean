/-!
# Tokens of documents

## Main definitions

* `Tag`: what the kind of a part is written as
* `Token`: the tokens of a document
-/

namespace SearchIndex.Yaml

/-- What the kind of a part is written as: a handle, if there is one, and the rest. -/
structure Tag where
  handle : Option String
  suffix : String
deriving DecidableEq, Repr

/-- The tokens of a document. -/
inductive Token where
  /-- The start of the text. -/
  | start
  /-- The end of the text. -/
  | finish
  /-- The version of the language. -/
  | version (major : Nat)
  /-- What a handle of tags stands for. -/
  | handle (handle replacement : String)
  /-- A directive without a meaning. -/
  | reserved
  | documentStart
  | documentEnd
  | sequenceOpen
  | sequenceClose
  | mappingOpen
  | mappingClose
  /-- The start of a sequence told by its indentation. -/
  | sequenceIndent
  /-- The start of a mapping told by its indentation. -/
  | mappingIndent
  /-- The end of what is told by its indentation. -/
  | dedent
  /-- The mark before an item. -/
  | item
  /-- The mark between items in brackets. -/
  | comma
  /-- The mark before a key, written or not. -/
  | key
  /-- The mark before a value. -/
  | value
  | alias (name : String)
  | anchor (name : String)
  | tag (tag : Tag)
  /-- A scalar; a plain one may stand for something other than its text. -/
  | scalar (text : String) (plain : Bool)
deriving DecidableEq, Repr, Inhabited

end SearchIndex.Yaml
