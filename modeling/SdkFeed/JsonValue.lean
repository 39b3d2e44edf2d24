import SdkFeed.Text.Quoted

/-!
Structured output: values of the JSON format, and their text with an indent of two blanks for each
level. The fields of an object keep their order.
-/

namespace SdkFeed

/-- A value of the JSON format. -/
inductive JsonValue where
  | null
  | bool (value : Bool)
  | int (value : Int)
  | text (value : String)
  | list (values : List JsonValue)
  | object (fields : List (String × JsonValue))
deriving Repr

namespace JsonValue

/-- A text that may be missing. -/
def ofText? : Option String → JsonValue
  | some value => text value
  | none => null

/-- A list of texts. -/
def ofTexts (values : List String) : JsonValue :=
  list (values.map text)

/-- How a character stands between the quotes. -/
def escapedChar (c : Char) : List Char :=
  if c == '"' || c == '\\' then ['\\', c]
  else if c == '\n' then ['\\', 'n']
  else if c == '\r' then ['\\', 'r']
  else if c == '\t' then ['\\', 't']
  else if c == '\x08' then ['\\', 'b']
  else if c == '\x0c' then ['\\', 'f']
  else if c.toNat < 0x20 then '\\' :: 'u' :: Text.hexDigits 4 c.toNat
  else [c]

/-- A text between quotes. -/
def quotedText (value : String) : String :=
  String.ofList ('"' :: value.toList.flatMap escapedChar ++ ['"'])

/-- The start of a line at a level. -/
def lineStart (level : Nat) : String :=
  "\n" ++ String.ofList (List.replicate (2 * level) ' ')

/-- Items between brackets, each on a line of its own. -/
def bracketed (left right : String) (level : Nat) (items : List String) : String :=
  if items.isEmpty then left ++ right
  else
    left ++ lineStart (level + 1) ++ ("," ++ lineStart (level + 1)).intercalate items ++
      lineStart level ++ right

mutual

/-- The text of a value at a level. -/
def renderAt (level : Nat) : JsonValue → String
  | null => "null"
  | bool value => if value then "true" else "false"
  | int value => toString value
  | text value => quotedText value
  | list values => bracketed "[" "]" level (renderItems (level + 1) values)
  | object fields => bracketed "\x7b" "\x7d" level (renderFields (level + 1) fields)

/-- The texts of the items of a list. -/
def renderItems (level : Nat) : List JsonValue → List String
  | [] => []
  | value :: rest => renderAt level value :: renderItems level rest

/-- The texts of the fields of an object. -/
def renderFields (level : Nat) : List (String × JsonValue) → List String
  | [] => []
  | (name, value) :: rest =>
    (quotedText name ++ ": " ++ renderAt level value) :: renderFields level rest

end

/-- The text of a value. -/
def render (value : JsonValue) : String :=
  renderAt 0 value

end JsonValue

end SdkFeed
