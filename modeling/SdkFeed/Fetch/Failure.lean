import SdkFeed.Text.Quoted

/-!
Failures to fetch a document. What goes wrong below is of many classes; all that a user is told is
whether the document does not exist, the secure connection failed, or anything else happened.
Main definition: `classify`.
-/

namespace SdkFeed.Fetch

/-- What a user is told about a fetch that failed. -/
inductive Failure where
  | notFound (url : String)
  | insecure (url reason : String)
  | broken (url reason : String)
deriving DecidableEq, Repr, Inhabited

namespace Failure

/-- The address that could not be fetched. -/
def url : Failure → String
  | notFound url | insecure url _ | broken url _ => url

/-- Why it could not be fetched. -/
def reason : Failure → String
  | notFound _ => "File not found"
  | insecure _ reason | broken _ reason => reason

/-- The name of the class of a failure. -/
def name : Failure → String
  | notFound _ => "FetchNotFoundError"
  | insecure .. => "FetchSSLError"
  | broken .. => "FetchIOError"

/-- The full words for a failure. -/
def message (failure : Failure) : String :=
  "Failed to fetch " ++ failure.url ++ ": " ++ failure.reason

end Failure

/-- The classes of plain errors. Any class may be derived from another one. -/
inductive ErrorClass where
  | exception
  | system
  | connectionRefused
  | connectionReset
  | timeout
  | fileNotFound
  | permission
  | processLookup
  | interrupted
  | childProcess
  | blocking
  | fileExists
  | notADirectory
  | isADirectory
  | brokenPipe
  | connectionAborted
  | secureLayer
  | certificate
  | protocol
  | value
  | runtime
  | derived (base : ErrorClass) (module name : String)
deriving DecidableEq, Repr

namespace ErrorClass

/-- The name of a class, behind the name of the module that has it. -/
def qualifiedName : ErrorClass → String × String
  | exception => ("builtins", "Exception")
  | system => ("builtins", "OSError")
  | connectionRefused => ("builtins", "ConnectionRefusedError")
  | connectionReset => ("builtins", "ConnectionResetError")
  | timeout => ("builtins", "TimeoutError")
  | fileNotFound => ("builtins", "FileNotFoundError")
  | permission => ("builtins", "PermissionError")
  | processLookup => ("builtins", "ProcessLookupError")
  | interrupted => ("builtins", "InterruptedError")
  | childProcess => ("builtins", "ChildProcessError")
  | blocking => ("builtins", "BlockingIOError")
  | fileExists => ("builtins", "FileExistsError")
  | notADirectory => ("builtins", "NotADirectoryError")
  | isADirectory => ("builtins", "IsADirectoryError")
  | brokenPipe => ("builtins", "BrokenPipeError")
  | connectionAborted => ("builtins", "ConnectionAbortedError")
  | secureLayer => ("ssl", "SSLError")
  | certificate => ("ssl", "SSLCertVerificationError")
  | protocol => ("http.client", "HTTPException")
  | value => ("builtins", "ValueError")
  | runtime => ("builtins", "RuntimeError")
  | derived _ module name => (module, name)

/-- The name of a class. -/
def name (kind : ErrorClass) : String :=
  kind.qualifiedName.2

/-- The classes that are known by their names. -/
def known : List ErrorClass :=
  [exception, system, connectionRefused, connectionReset, timeout, fileNotFound, permission,
    processLookup, interrupted, childProcess, blocking, fileExists, notADirectory, isADirectory,
    brokenPipe, connectionAborted, secureLayer, certificate, protocol, value, runtime]

/-- The class of a given name. -/
def ofName? (name : String) : Option ErrorClass :=
  known.find? (·.name == name)

/-- Whether errors of this class come from the secure layer of a connection. -/
def isSecure : ErrorClass → Bool
  | secureLayer | certificate => true
  | derived base _ _ => base.isSecure
  | _ => false

/-- Whether errors of this class come from the system. -/
def isSystem : ErrorClass → Bool
  | exception | protocol | value | runtime => false
  | derived base _ _ => base.isSystem
  | _ => true

/-- Whether errors of this class say that a file does not exist. -/
def isMissing : ErrorClass → Bool
  | fileNotFound => true
  | derived base _ _ => base.isMissing
  | _ => false

/-- The numbers of errors of the system that have classes of their own. -/
def numbers : List (Int × ErrorClass) :=
  [(1, permission), (2, fileNotFound), (3, processLookup), (4, interrupted), (10, childProcess),
   (11, blocking), (13, permission), (17, fileExists), (20, notADirectory), (21, isADirectory),
   (32, brokenPipe), (103, connectionAborted), (104, connectionReset), (108, brokenPipe),
   (110, timeout), (111, connectionRefused), (114, blocking), (115, blocking)]

/-- The class of an error of the system that has a number. Errors that have a class of their own
keep it. -/
def ofNumber (kind : ErrorClass) (number : Int) : ErrorClass :=
  if kind == system then (numbers.lookup number).getD system else kind

end ErrorClass

/-- What a plain error says: nothing, a text, a number with a text, or anything else, of which it
shows these words. -/
inductive Detail where
  | nothing
  | text (text : String)
  | numbered (number : Int) (text : String)
  | shown (words : String)
deriving DecidableEq, Repr

/-- What went wrong below. -/
inductive Cause where
  /-- A failure that is classified already. -/
  | failure (failure : Failure)
  /-- A server answered with a status that is not success. -/
  | status (code : Int) (message : String)
  /-- An address could not be opened, for a reason given in words. -/
  | unopened (reason : String)
  /-- An address could not be opened, because of something else that went wrong. -/
  | wrapped (cause : Cause)
  | plain (kind : ErrorClass) (detail : Detail)
deriving DecidableEq, Repr, Inhabited

namespace Cause

/-- A plain error, with the class that its number calls for. -/
def ofDetail (kind : ErrorClass) : Detail → Cause
  | .numbered number text => plain (kind.ofNumber number) (.numbered number text)
  | detail => plain kind detail

/-- The name of the class of a cause. -/
def name : Cause → String
  | failure f => f.name
  | status .. => "HTTPError"
  | unopened _ | wrapped _ => "URLError"
  | plain kind _ => kind.name

/-- The words of a plain error. Those of the secure layer show a lone text as a list of one; other
errors show it as it is; and a number stands before its text, unless the error shows both as a
list. -/
def plainText (kind : ErrorClass) (detail : Detail) : String :=
  match detail with
  | .nothing => if kind.isSecure then "()" else ""
  | .text text => if kind.isSecure then "(" ++ Text.quoted text ++ ",)" else text
  | .numbered number text =>
    if kind.isSecure then text
    else if kind.isSystem then "[Errno " ++ toString number ++ "] " ++ text
    else "(" ++ toString number ++ ", " ++ Text.quoted text ++ ")"
  | .shown words => words

/-- The words of a cause. -/
def text : Cause → String
  | failure f => f.message
  | status code message => "HTTP Error " ++ toString code ++ ": " ++ message
  | unopened reason => "<urlopen error " ++ reason ++ ">"
  | wrapped cause => "<urlopen error " ++ cause.text ++ ">"
  | plain kind detail => plainText kind detail

/-- The reason that a user is given: the words of the cause, or of what is wrapped in it, and the
name of its class if it has no words. -/
def describe : Cause → String
  | wrapped cause => cause.text
  | unopened reason => if reason.isEmpty then (unopened reason).text else reason
  | plain kind detail =>
    let text := plainText kind detail
    if text.isEmpty then
      "Unknown (" ++ kind.qualifiedName.1 ++ "." ++ kind.qualifiedName.2 ++ ")"
    else text
  | cause => cause.text

/-- Whether a cause, or what is directly wrapped in it, is a file that does not exist. -/
def isNotFound : Cause → Bool
  | status code _ => code == 404 || code == 410
  | plain kind _ | wrapped (plain kind _) => kind.isMissing
  | _ => false

/-- Whether a cause, or what is directly wrapped in it, is a fault of the secure layer. -/
def isInsecure : Cause → Bool
  | plain kind _ | wrapped (plain kind _) => kind.isSecure
  | _ => false

end Cause

/-- The failure that a cause makes, for the address that was fetched. -/
def classify (url : String) (cause : Cause) : Failure :=
  match cause with
  | .failure failure => failure
  | cause =>
    if cause.isNotFound then .notFound url
    else if cause.isInsecure then .insecure url cause.describe
    else .broken url cause.describe

end SdkFeed.Fetch
