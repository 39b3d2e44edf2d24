import SdkFeed.Xml.Markup

/-!
The judgement of the strict reader. Some faults end the reading of a document at once. Others give
rise to a complaint or to a mere remark, and reading goes on; in the end only the last of these
counts. Names are judged here too: how long they are, and where they may hold a colon.
-/

namespace SdkFeed.Xml.Strict

/-- What the reader keeps in mind of the part of a document that it has read. -/
structure Memory where
  /-- The last thing said of the document was a complaint. -/
  isSuspect : Bool
  /-- The identifiers of elements. -/
  ids : List String
  /-- The entities whose texts have been read as content. -/
  entered : List String
deriving DecidableEq, Repr

/-- A step of reading; there is no result where the document is not well formed. -/
abbrev Reading := StateT Memory Option

/-- Nothing read yet. -/
def Memory.fresh : Memory :=
  ⟨false, [], []⟩

/-- Complain of something that reading can go on after. -/
def complain : Reading Unit :=
  modify fun memory => { memory with isSuspect := true }

/-- Say something that is no complaint. -/
def remark : Reading Unit :=
  modify fun memory => { memory with isSuspect := false }

/-- Complain if a condition holds. -/
def complainIf (condition : Bool) : Reading Unit :=
  if condition then complain else pure ()

/-- Take a value for an identifier; two elements must not have the same. -/
def identify (value : String) : Reading Unit := do
  let memory ← get
  if memory.ids.contains value then complain
  else if !value.isEmpty then set { memory with ids := value :: memory.ids }

/-- The greatest number of bytes that a name may take. -/
def nameLimit : Nat :=
  50000

/-- Whether a name is not too long. -/
def isShort (name : String) : Bool :=
  name.utf8ByteSize ≤ nameLimit

/-- Whether the parts of a name between its colons are not too long, when `room` bytes are left for
the first of them. -/
def hasShortParts (room : Nat) : List Char → Bool
  | [] => true
  | ':' :: rest => hasShortParts nameLimit rest
  | c :: rest => c.utf8Size ≤ room && hasShortParts (room - c.utf8Size) rest

/-- Judge a name that is taken as a whole. -/
def judgeLength (name : Word) : Reading Unit :=
  guard (isShort name.text)

/-- Judge a name that may hold no colon. -/
def judgePlain (name : Word) : Reading Unit :=
  complainIf (name.text.toList.contains ':')

/-- Whether a target of processing instructions begins like the reserved one. -/
def beginsReserved (target : String) : Bool :=
  "xml".toList.isPrefixOf target.toLower.toList

/-- The targets in general use that begin like the reserved one. -/
def knownTargets : List String :=
  ["xml-stylesheet", "xml-model"]

/-- Judge the target of a processing instruction. -/
def judgeTarget (target : Word) : Reading Unit := do
  judgeLength target
  if !knownTargets.contains target.text then
    if beginsReserved target.text then remark
    judgePlain target

/-- Judge the version of a document. Its number has one digit before the point, and what is no
version of the first series is not read. -/
def judgeVersion (version : String) : Reading Unit :=
  match version.toList with
  | major :: '.' :: minor => do
    guard (major == '1' && minor.all Char.isDigit)
    if minor != ['0'] then remark
  | _ => failure

/-- What stands before and behind the colon of a name in a tag. A name that is not two names with
one colon between them is complained of, and taken apart as well as it can be. -/
def splitJudged (name : Word) : Reading (String × String) := do
  guard (hasShortParts nameLimit name.text.toList)
  match name.text.toList.span (· != ':') with
  | (_, []) => return ("", name.text)
  | ([], _) => do
    complain
    return ("", name.text)
  | (mark, _ :: label) =>
    if !(label.head?.map fun c => c != ':' && Alphabet.broad.isNameStart c).getD false then do
      complain
      return ("", name.text)
    else do
      if let (_, _ :: rest) := label.span (· != ':') then
        guard ((rest.head?.map Alphabet.broad.isNameStart).getD true)
        complain
      return (String.ofList mark, String.ofList label)

end SdkFeed.Xml.Strict
