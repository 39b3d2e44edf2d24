/-!
Arguments of a command: options, which begin with a hyphen, and operands. Two hyphens alone end the
options. The value of an option stands behind an equals sign, or is the next argument, whatever that
is.
-/

namespace SdkFeed

/-- An option that a command takes. -/
structure OptionForm where
  name : String
  /-- The letter that stands for an option without a value, behind a single hyphen. -/
  letter : Option Char := none
  takesValue : Bool := false
deriving DecidableEq, Repr

namespace OptionForm

/-- An option without a value. -/
def flag (name : String) : OptionForm :=
  { name }

/-- An option with a value. -/
def valued (name : String) : OptionForm :=
  { name, takesValue := true }

end OptionForm

/-- Arguments that were told apart. The value of an option that takes none is empty. -/
structure Arguments where
  options : List (String × String)
  operands : List String
deriving DecidableEq, Repr

namespace Arguments

/-- What is given for an option. Of several values the last one counts. -/
def value? (arguments : Arguments) (name : String) : Option String :=
  arguments.options.reverse.lookup name

/-- Whether an option is given. -/
def has (arguments : Arguments) (name : String) : Bool :=
  (arguments.value? name).isSome

/-- Arguments with more options in front of them. -/
def withOptions (options : List (String × String)) (arguments : Arguments) : Arguments :=
  { arguments with options := options ++ arguments.options }

/-- Arguments with an operand in front of them. -/
def withOperand (operand : String) (arguments : Arguments) : Arguments :=
  { arguments with operands := operand :: arguments.operands }

/-- What an argument gives: options, or the name of an option whose value is to follow. -/
inductive Reading where
  | given (options : List (String × String))
  | awaiting (name : String)
deriving DecidableEq, Repr

/-- Whether an argument gives options. A single hyphen is an operand. -/
def givesOptions (argument : String) : Bool :=
  match argument.toList with
  | '-' :: _ :: _ => true
  | _ => false

/-- Split a text at the first equals sign, if it has one. -/
def splitValue (argument : String) : String × Option String :=
  match argument.toList.span (· != '=') with
  | (name, []) => (String.ofList name, none)
  | (name, _ :: value) => (String.ofList name, some (String.ofList value))

/-- The options that letters behind a single hyphen stand for. -/
def ofLetters? (forms : List OptionForm) (letters : List Char) : Option (List (String × String)) :=
  letters.mapM fun letter =>
    (forms.find? fun form => !form.takesValue && form.letter == some letter).map fun form =>
      (form.name, "")

/-- What an argument that gives options gives, if the command takes it. -/
def reading? (forms : List OptionForm) (argument : String) : Option Reading :=
  let (name, value) := splitValue argument
  match forms.find? (·.name == name), value with
  | some form, some value => if form.takesValue then some (.given [(name, value)]) else none
  | some form, none => some (if form.takesValue then .awaiting name else .given [(name, "")])
  | none, _ =>
    match argument.toList with
    | '-' :: '-' :: _ => none
    | _ :: letters => (ofLetters? forms letters).map .given
    | [] => none

/-- Tell arguments apart; none if the command does not take them. Unless options may stand among
operands, everything from the first operand on is an operand. -/
def parse? (forms : List OptionForm) (mixed : Bool) : List String → Option Arguments
  | [] => some ⟨[], []⟩
  | argument :: rest =>
    if argument == "--" then some ⟨[], rest⟩
    else if givesOptions argument then
      match reading? forms argument, rest with
      | none, _ | some (.awaiting _), [] => none
      | some (.given options), rest => (parse? forms mixed rest).map (withOptions options)
      | some (.awaiting name), value :: rest =>
        (parse? forms mixed rest).map (withOptions [(name, value)])
    else if mixed then (parse? forms mixed rest).map (withOperand argument)
    else some ⟨[], argument :: rest⟩
termination_by structural arguments => arguments

end Arguments

end SdkFeed
