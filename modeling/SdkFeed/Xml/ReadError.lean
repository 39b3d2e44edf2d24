/-!
Why a document cannot be read.
-/

namespace SdkFeed.Xml

/-- Why a name cannot be expanded, a prefix cannot be bound, or an entity cannot be replaced. -/
inductive NameFault where
  /-- A prefix is used that no declaration in scope binds. -/
  | unboundPrefix
  /-- Two attributes of one element have the same expanded name. -/
  | repeatedAttribute
  /-- A prefix is bound to the empty namespace. -/
  | emptyBinding
  /-- The prefix `xml` is bound to another namespace than its own. -/
  | xmlRebound
  /-- The prefix `xmlns` is bound. -/
  | xmlnsBound
  /-- A prefix is bound to a namespace that belongs to a reserved prefix. -/
  | reservedSpace
  /-- A namespace holds a closing brace, which would spoil the written form of names. -/
  | closingBrace
  /-- A colon makes a name in a declaration one that may not stand there. -/
  | misplacedName
  /-- A colon stands where a name may hold none. -/
  | strayColon
  /-- A reference in element content has no replacement text in the document. -/
  | unknownEntity (name : String)
deriving DecidableEq, Repr

/-- The words for a fault. -/
def NameFault.message : NameFault → String
  | unboundPrefix => "unbound prefix"
  | repeatedAttribute => "duplicate attribute"
  | emptyBinding => "must not undeclare prefix"
  | xmlRebound =>
    "reserved prefix (xml) must not be undeclared or bound to another namespace name"
  | xmlnsBound => "reserved prefix (xmlns) must not be declared or undeclared"
  | reservedSpace => "prefix must not be bound to one of the reserved namespace names"
  | closingBrace | misplacedName => "syntax error"
  | strayColon => "not well-formed (invalid token)"
  | unknownEntity name => "undefined entity &" ++ name ++ ";"

/-- Why a declared encoding cannot be used at all. -/
inductive EncodingFault where
  /-- Nobody knows the name. -/
  | unknown (name : String)
  /-- Characters take more than one byte. -/
  | multiByte
  /-- It is not for texts as a whole. -/
  | refused
  /-- It is a form of names that leaves bytes without a meaning. -/
  | fails
deriving DecidableEq, Repr

/-- The words for a fault. -/
def EncodingFault.message : EncodingFault → String
  | unknown name => "unknown encoding: " ++ name
  | multiByte => "multi-byte encodings are not supported"
  | refused => "the encoding is not for documents"
  | fails => "the encoding leaves bytes without a meaning"

/-- Why a document cannot be read. -/
inductive ReadError where
  /-- The document is not well formed. -/
  | malformed
  /-- The document is well formed but for the names in it, and this line and column are to blame. -/
  | misnamed (fault : NameFault) (line column : Nat)
  /-- The declared encoding cannot be used, so nothing is known of the document. -/
  | encoding (fault : EncodingFault)
deriving DecidableEq, Repr

/-- The words for an error. -/
def ReadError.message : ReadError → String
  | malformed => "not well-formed (invalid token)"
  | misnamed fault line column =>
    fault.message ++ ": line " ++ toString line ++ ", column " ++ toString column
  | encoding fault => fault.message

end SdkFeed.Xml
