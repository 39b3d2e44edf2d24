/-!
UTF-8, the encoding of texts in bytes.
-/

namespace SdkFeed.Text

/-- A byte that continues a sequence of several bytes. -/
def isContinuation (b : UInt8) : Bool :=
  0x80 ≤ b && b ≤ 0xBF

/-- The code point of the given lead bits and continuation bytes. -/
def assemble (lead : Nat) (tail : List UInt8) : Char :=
  Char.ofNat (tail.foldl (fun code b => code * 64 + (b.toNat - 0x80)) lead)

/-- Strict UTF-8: no overlong forms, no surrogates, nothing above the last code point. -/
def decodeUtf8From (acc : List Char) : List UInt8 → Option (List Char)
  | [] => some acc.reverse
  | a :: rest =>
    if a < 0x80 then decodeUtf8From (Char.ofNat a.toNat :: acc) rest
    else match rest with
      | [] => none
      | b :: rest =>
        if 0xC2 ≤ a && a ≤ 0xDF then
          if isContinuation b then decodeUtf8From (assemble (a.toNat - 0xC0) [b] :: acc) rest
          else none
        else match rest with
          | [] => none
          | c :: rest =>
            if 0xE0 ≤ a && a ≤ 0xEF then
              if isContinuation b && isContinuation c && (a != 0xE0 || 0xA0 ≤ b) &&
                  (a != 0xED || b ≤ 0x9F) then
                decodeUtf8From (assemble (a.toNat - 0xE0) [b, c] :: acc) rest
              else none
            else match rest with
              | [] => none
              | d :: rest =>
                if 0xF0 ≤ a && a ≤ 0xF4 && isContinuation b && isContinuation c &&
                    isContinuation d && (a != 0xF0 || 0x90 ≤ b) && (a != 0xF4 || b ≤ 0x8F) then
                  decodeUtf8From (assemble (a.toNat - 0xF0) [b, c, d] :: acc) rest
                else none

/-- The characters that bytes stand for, if they are well formed. -/
def decodeUtf8? (bytes : List UInt8) : Option (List Char) :=
  decodeUtf8From [] bytes

/-- The number of bytes that characters take. -/
def utf8Count (chars : List Char) : Nat :=
  chars.foldl (fun size c => size + c.utf8Size) 0

end SdkFeed.Text
