import SdkFeed.Number.Shortest
import SdkFeed.Text.Integer
import SdkFeed.Text.Quoted
import SdkFeed.Yaml.Stamp

/-!
The values of documents. A collection is known by the number of its node, so that aliases of it are
the same collection, and it may be within itself; what collections hold is kept beside the values.
Main definitions: `Value.put` sets a key of a mapping, and `Contents.display` shows a value.
-/

namespace SdkFeed.Yaml

/-- A value of a document. -/
inductive Value where
  | null
  | bool (b : Bool)
  | int (n : Int)
  | double (x : Number.Double)
  /-- A number that is undefined. Each one is a number of its own, by the node that it was worked
  out for; those that are written by name are all the same. -/
  | undefined (origin : Option Nat)
  | text (s : String)
  | binary (bytes : List UInt8)
  | stamp (stamp : Stamp)
  | collection (node : Nat)
deriving Repr, Inhabited, DecidableEq

/-- What a collection holds. -/
inductive Collection where
  | list (members : List Value)
  /-- The keys are different from each other, and no collections. -/
  | mapping (pairs : List (Value × Value))
  | set (members : List Value)
  | pairs (pairs : List (Value × Value))
deriving Repr, Inhabited

namespace Collection

/-- The brackets around what a collection holds. -/
def brackets : Collection → String × String
  | list _ | pairs _ => ("[", "]")
  | mapping _ | set _ => ("\x7b", "\x7d")

/-- Whether a collection is a set without members. -/
def isEmptySet : Collection → Bool
  | set [] => true
  | _ => false

end Collection

/-- What the collections of a document hold, by the numbers of their nodes. -/
abbrev Contents := Array (Option Collection)

namespace Value

/-- The number that a value is, as a key: truth values are the numbers 0 and 1, and whole numbers
are the same in every form. -/
def keyNumber? : Value → Option (Sum Int Number.Double)
  | bool b => some (.inl (if b then 1 else 0))
  | int n => some (.inl n)
  | double (.finite isNegative mantissa exponent) =>
    let (num, den) := Number.Double.ratio mantissa exponent
    if num % den == 0 then some (.inl (Number.Double.signed isNegative (num / den)))
    else some (.inr (.finite isNegative mantissa exponent))
  | double (.infinite isNegative) => some (.inr (.infinite isNegative))
  | _ => none

/-- Whether two values are the same key. -/
def sameKey (a b : Value) : Bool :=
  match a.keyNumber?, b.keyNumber? with
  | some m, some n => m == n
  | none, none =>
    match a, b with
    | stamp s, stamp t => s.sameMoment t
    | a, b => a == b
  | _, _ => false

/-- Whether a value can be a key. -/
def isKey : Value → Bool
  | collection _ => false
  | _ => true

/-- Set the value of a key. A key that is there keeps its place. -/
def put (pairs : List (Value × Value)) (key value : Value) : List (Value × Value) :=
  if pairs.any fun (other, _) => other.sameKey key then
    pairs.map fun (other, old) => (other, if other.sameKey key then value else old)
  else pairs ++ [(key, value)]

/-- The value of a key that is a text. -/
def field? (pairs : List (Value × Value)) (name : String) : Option Value :=
  (pairs.find? fun (key, _) => key.sameKey (text name)).map (·.2)

/-- How a byte stands between the given quotes. -/
def quotedByte (quote : Char) (byte : UInt8) : List Char :=
  let c := Char.ofNat byte.toNat
  if c == '\\' || c == quote then ['\\', c]
  else if c == '\n' then ['\\', 'n']
  else if c == '\r' then ['\\', 'r']
  else if c == '\t' then ['\\', 't']
  else if ' ' ≤ c && c ≤ '~' then [c]
  else '\\' :: 'x' :: Text.hexDigits 2 byte.toNat

/-- Bytes between quotes. -/
def quotedBytes (bytes : List UInt8) : String :=
  let quote := Text.quoteFor (String.ofList (bytes.map fun byte => Char.ofNat byte.toNat))
  String.ofList ('b' :: quote :: bytes.flatMap (quotedByte quote) ++ [quote])

/-- The code of a number, by which sets are arranged: its remainder to a prime, where a fraction is
worked out modulo the prime too. Codes of negative numbers are counted down from `2 ^ 64`. -/
def code? (value : Value) : Option Nat :=
  let prime := Nat.pow 2 61 - 1
  let signed (isNegative : Bool) (n : Nat) : Nat :=
    let n := n % prime
    if !isNegative || n == 0 then n else Nat.pow 2 64 - (if n == 1 then 2 else n)
  match value.keyNumber? with
  | some (.inl n) => some (signed (n < 0) n.natAbs)
  | some (.inr (.finite isNegative mantissa exponent)) =>
    some (signed isNegative (mantissa * Nat.pow 2 (exponent % 61).toNat))
  | some (.inr (.infinite isNegative)) => some (signed isNegative 314159)
  | _ => none

end Value

/-- The members of a set by their slots. -/
structure Slots where
  size : Nat
  taken : List (Nat × Value)

namespace Slots

/-- Slots for so many members: eight, or more than twice as many. -/
def forCount (count : Nat) : Slots :=
  ⟨if count < 5 then 8 else Nat.pow 2 (Nat.log2 (2 * count) + 1), []⟩

/-- The first free slot of a member. Where there is room, ten slots in a row are tried before the
search goes on elsewhere, at a place that the rest of the code decides. -/
def free (slots : Slots) : Nat → Nat → Nat → Nat
  | 0, place, _ => place
  | fuel + 1, place, code =>
    let row := if place + 9 < slots.size then (List.range 10).map (place + ·) else [place]
    match row.find? fun slot => !slots.taken.any (·.1 == slot) with
    | some slot => slot
    | none => free slots fuel ((place * 5 + 1 + code / 32) % slots.size) (code / 32)

/-- Put a member into its slot. -/
def insert (slots : Slots) (code : Nat) (member : Value) : Slots :=
  let slot := slots.free (slots.size + 16) (code % slots.size) code
  { slots with taken := (slot, member) :: slots.taken }

/-- The members in the order of their slots. -/
def members (slots : Slots) : List Value :=
  (slots.taken.mergeSort fun a b => a.1 ≤ b.1).map (·.2)

end Slots

namespace Contents

/-- The members of a set in the order in which it is shown: numbers by their slots. -/
def shownOrder (members : List Value) : List Value :=
  match members.mapM fun member => member.code?.map (·, member) with
  | none => members
  | some coded => (coded.foldl (fun slots (code, member) => slots.insert code member)
      (Slots.forCount members.length)).members

/-- What a value holds, if it is a collection. -/
def collection? (contents : Contents) : Value → Option Collection
  | .collection node => some ((contents[node]?.join).getD (.list []))
  | _ => none

/-- The greatest depth at which values are shown. -/
def depthLimit : Nat :=
  980

/-- A value within a collection, as messages show it, to a depth. A collection within itself is
shown by dots. -/
def quoted (contents : Contents) : Nat → List Nat → Value → Except Fault String
  | 0, _, _ => .error .endless
  | depth + 1, within, value =>
    match value with
    | .null => .ok "None"
    | .bool b => .ok (if b then "True" else "False")
    | .int n =>
      if n.natAbs < Nat.pow 10 Text.digitLimit then .ok (toString n)
      else .error (.outOfRange Text.tooLargeToShow)
    | .double x => .ok x.render
    | .undefined _ => .ok Number.Double.undefined.render
    | .text s => .ok (Text.quoted s)
    | .binary bytes => .ok (Value.quotedBytes bytes)
    | .stamp s => .ok s.quoted
    | .collection node => do
      let found := (contents[node]?.join).getD (.list [])
      let (before, after) := found.brackets
      if within.contains node then return before ++ "..." ++ after
      let shown := quoted contents depth (node :: within)
      let parts ← match found with
        | .list members => members.mapM shown
        | .set members => (shownOrder members).mapM shown
        | .mapping members => members.mapM fun (key, value) => do
          let key ← shown key
          return key ++ ": " ++ (← shown value)
        | .pairs members => members.mapM fun (key, value) => do
          let key ← shown key
          return "(" ++ key ++ ", " ++ (← shown value) ++ ")"
      return if found.isEmptySet then "set()" else before ++ ", ".intercalate parts ++ after

/-- A value as messages show it: texts and time stamps as they are, all else as in a collection. -/
def display (contents : Contents) : Value → Except Fault String
  | .text s => .ok s
  | .stamp s => .ok s.text
  | value => quoted contents depthLimit [] value

end Contents

end SdkFeed.Yaml
