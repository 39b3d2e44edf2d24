import SdkFeed.Fetch.Failure
import SdkFeed.Settings
import SdkFeed.Text.Character

/-!
Fetching over the web. An address is opened, and what it serves is read piece by piece until it
ends or fails. Only addresses with a scheme are opened.
-/

namespace SdkFeed.Fetch

/-- What an opened address serves: bytes, and perhaps a failure of a read after so many reads
that succeed. -/
structure Stream where
  bytes : List UInt8
  failure : Option (Nat × Cause)
deriving Repr

/-- The addresses that can be opened. -/
abbrev Web := String → Except Cause Stream

/-- A request as a server sees it. -/
structure Sent where
  url : String
  agent : String
  timeout : Number.Double
deriving DecidableEq, Repr

/-- The number of bytes of one read. -/
def readSize : Nat :=
  65536

/-- The number of reads that it takes to come to the end: one for each piece, and one that finds
nothing more. -/
def Stream.reads (stream : Stream) : Nat :=
  (stream.bytes.length + readSize - 1) / readSize + 1

/-- Read all that a stream serves. -/
def Stream.readAll (stream : Stream) : Except Cause (List UInt8) :=
  match stream.failure with
  | some (after, cause) => if after < stream.reads then .error cause else .ok stream.bytes
  | none => .ok stream.bytes

/-- An address in the form in which it is sent: without blanks, brackets and the word for
addresses around it. -/
def unwrapped (url : String) : List Char :=
  let chars := Text.trimChars url.toList
  let chars := match chars with
    | '<' :: rest =>
      if rest.getLast? == some '>' then Text.trimChars rest.dropLast else chars
    | _ => chars
  match "URL:".toList.isPrefixOf? chars with
  | some rest => Text.trimChars rest
  | none => chars

/-- Whether an address has a scheme: a colon stands behind at least one other character, before
any slash. -/
def hasScheme (chars : List Char) : Bool :=
  match chars.span fun c => c != ':' && c != '/' with
  | (_ :: _, ':' :: _) => true
  | _ => false

/-- An address without its fragment, and the fragment with its mark if it is not empty. -/
def splitFragment (chars : List Char) : List Char × List Char :=
  match chars.reverse.span (· != '#') with
  | (_, []) => (chars, [])
  | (fragment, _ :: rest) =>
    (rest.reverse, if fragment.isEmpty then [] else '#' :: fragment.reverse)

/-- The address that a request is for, or what is wrong with it. -/
def requestFor (url : String) : Except Cause String :=
  let (address, fragment) := splitFragment (unwrapped url)
  let target := String.ofList (address ++ fragment)
  if hasScheme address then .ok target
  else .error (.plain .value (.text ("unknown url type: " ++ Text.quoted target)))

/-- Whether errors of this class are ones that fetching expects: those of the system, of the
protocol, and about values. -/
def ErrorClass.isExpected : ErrorClass → Bool
  | protocol | value => true
  | derived base _ _ => base.isExpected
  | kind => kind.isSystem

/-- Whether a cause is one that fetching expects. Others are passed on as they are. -/
def Cause.isExpected : Cause → Bool
  | .failure _ => false
  | .plain kind _ => kind.isExpected
  | _ => true

/-- Why a fetch failed: an expected cause, classified, or another one as it was. -/
inductive FetchError where
  | classified (failure : Failure) (cause : Cause)
  | unexpected (cause : Cause)
deriving Repr

namespace FetchError

/-- The error that a cause makes. -/
def ofCause (url : String) (cause : Cause) : FetchError :=
  if cause.isExpected then classified (classify url cause) cause else unexpected cause

/-- What went wrong for the one who asked to fetch. -/
def cause : FetchError → Cause
  | classified failure _ => .failure failure
  | unexpected cause => cause

end FetchError

/-- Fetch an address, and tell what was sent. -/
def fetch (settings : Settings) (web : Web) (url : String) :
    Except FetchError (List UInt8) × List Sent :=
  match requestFor url with
  | .error cause => (.error (.ofCause url cause), [])
  | .ok target =>
    let sent := ⟨target, settings.userAgent, settings.fetchTimeout⟩
    match web target >>= Stream.readAll with
    | .ok bytes => (.ok bytes, [sent])
    | .error cause => (.error (.ofCause url cause), [sent])

end SdkFeed.Fetch
