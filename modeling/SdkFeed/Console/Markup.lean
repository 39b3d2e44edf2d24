import SdkFeed.Console.Line
import SdkFeed.Text.Character

/-!
Markup: texts with tags in brackets that say in which style the text between them is shown. A
console without colours shows the text alone. Main definitions: `escape` keeps the brackets of a
text from being read as tags, `plain?` gives what is shown, and `print` gives it in lines.
-/

namespace SdkFeed.Console

/-- The styles that messages are shown in. -/
inductive Style where
  | dim
  | green
  | red
  | yellow
deriving DecidableEq, Repr

/-- The tag of a style. -/
def Style.name : Style → String
  | dim => "dim"
  | green => "green"
  | red => "red"
  | yellow => "yellow"

/-- A piece of markup: a character, or a tag with the backslashes before it. -/
inductive Piece where
  | char (c : Char)
  | tag (slashes : Nat) (text : List Char)
deriving DecidableEq, Repr

/-- Whether a character can stand behind the bracket that begins a tag. -/
def opensTag (c : Char) : Bool :=
  ('a' ≤ c && c ≤ 'z') || c == '#' || c == '/' || c == '@'

/-- A text up to the bracket that closes a tag, and what follows. No other tag begins in between. -/
def upToBracket? : List Char → Option (List Char × List Char)
  | [] => none
  | c :: rest =>
    if c == ']' then some ([], rest)
    else if c == '[' then none
    else (upToBracket? rest).map fun (text, rest) => (c :: text, rest)

theorem upToBracket_length {chars text rest : List Char}
    (h : upToBracket? chars = some (text, rest)) : rest.length < chars.length := by
  induction chars generalizing text with
  | nil => simp [upToBracket?] at h
  | cons c cs ih =>
    simp only [upToBracket?] at h
    split at h
    · simp_all
    · split at h
      · simp at h
      · simp only [Option.map_eq_some_iff, Prod.mk.injEq, Prod.exists] at h
        obtain ⟨_, _, h, _, rfl⟩ := h
        exact Nat.lt_succ_of_lt (ih h)

/-- The text of the tag behind a bracket, and what follows the tag. -/
def tag? : List Char → Option (List Char × List Char)
  | [] => none
  | c :: rest =>
    if opensTag c then (upToBracket? rest).map fun (text, rest) => (c :: text, rest) else none

theorem tag_length {chars text rest : List Char} (h : tag? chars = some (text, rest)) :
    rest.length < chars.length := by
  cases chars with
  | nil => simp [tag?] at h
  | cons c cs =>
    simp only [tag?] at h
    split at h
    · simp only [Option.map_eq_some_iff, Prod.mk.injEq, Prod.exists] at h
      obtain ⟨_, _, h, _, rfl⟩ := h
      exact Nat.lt_succ_of_lt (upToBracket_length h)
    · simp at h

/-- Backslashes that stand before no tag. -/
def loose (slashes : Nat) : List Piece :=
  List.replicate slashes (.char '\\')

/-- The pieces of a markup. `slashes` counts the backslashes just read. -/
def pieces (slashes : Nat) (chars : List Char) : List Piece :=
  match chars with
  | [] => loose slashes
  | c :: rest =>
    if c == '\\' then pieces (slashes + 1) rest
    else if c == '[' then
      match _h : tag? rest with
      | some (text, rest) => .tag slashes text :: pieces 0 rest
      | none => loose slashes ++ .char c :: pieces 0 rest
    else loose slashes ++ .char c :: pieces 0 rest
termination_by chars.length
decreasing_by
  · simp
  · have := tag_length _h
    simp only [List.length_cons]
    omega
  all_goals simp

/-- The text of a piece in which no tag is read as one. -/
def Piece.escaped : Piece → List Char
  | char c => [c]
  | tag slashes text => List.replicate (2 * slashes + 1) '\\' ++ '[' :: text ++ [']']

/-- Double a backslash that stands alone at the end, so that it does not escape a tag behind it. -/
def guardEnd (chars : List Char) : List Char :=
  match chars.reverse with
  | '\\' :: '\\' :: _ => chars
  | '\\' :: _ => chars ++ ['\\']
  | _ => chars

/-- The markup that shows a text as it is. -/
def escape (text : String) : String :=
  String.ofList (guardEnd ((pieces 0 text.toList).flatMap Piece.escaped))

/-- Markup for a text in a style. -/
def styled (style : Style) (text : String) : String :=
  "[" ++ style.name ++ "]" ++ escape text ++ "[/" ++ style.name ++ "]"

/-- The name of a tag. What stands behind an equals sign does not belong to it. -/
def tagName (text : List Char) : List Char :=
  ((Text.trimChars (text.takeWhile (· != '='))).map Char.toLower)

/-- The open tags after one more tag, the last one first; none if it closes what is not open. -/
def afterTag? (opened : List (List Char)) (text : List Char) : Option (List (List Char)) :=
  match text.takeWhile (· != '=') with
  | '/' :: name =>
    match tagName name, opened with
    | [], [] => none
    | [], _ :: others => some others
    | name, _ => if opened.contains name then some (opened.erase name) else none
  | _ => some (tagName text :: opened)

/-- What is shown of some pieces. An odd number of backslashes makes a tag plain text; of the
others every second one is shown. -/
def shown? (opened : List (List Char)) : List Piece → Option (List Char)
  | [] => some []
  | .char '\\' :: .char '[' :: rest => (shown? opened rest).map ('[' :: ·)
  | .char c :: rest => (shown? opened rest).map (c :: ·)
  | .tag slashes text :: rest =>
    let before := List.replicate (slashes / 2) '\\'
    if slashes % 2 == 1 then
      (shown? opened rest).map fun rest => before ++ '[' :: text ++ ']' :: rest
    else do
      let rest ← shown? (← afterTag? opened text) rest
      return before ++ rest

/-- The control characters that consoles do not pass on. -/
def isSilent (c : Char) : Bool :=
  c == '\x07' || c == '\x08' || c == '\x0b' || c == '\x0c' || c == '\r'

/-- The text that a markup shows; none if a tag closes what is not open. -/
def plain? (markup : String) : Option String :=
  (shown? [] (pieces 0 markup.toList)).map fun chars =>
    String.ofList (chars.filter (!isSilent ·))

/-- The cells of a line of the console. -/
def consoleWidth : Nat :=
  1000

/-- The text that is printed for a plain text: its lines, each with an end. -/
def printPlain (text : String) : String :=
  String.join ((wrap consoleWidth text).map fun line => String.ofList line ++ "\n")

/-- The text that is printed for a markup; none if a tag closes what is not open. -/
def print? (markup : String) : Option String :=
  (plain? markup).map printPlain

/-- The text that is printed for a markup in which every tag that closes has an open one. -/
def print (markup : String) : String :=
  (print? markup).getD (printPlain markup)

/-- Print a text in a style. -/
def say (style : Style) (text : String) : String :=
  print (styled style text)

end SdkFeed.Console
