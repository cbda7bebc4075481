/-!
# UTF-8

Reading text from bytes. A byte sequence that is not text is reported by the index of its first bad
sequence and by the number of bytes of it that cannot be the start of a character; at the end of the
input the sequence may be merely incomplete.
-/

namespace DocMachine.Text

/-- Why bytes are not text. -/
inductive Utf8Fault where
  | invalid (length index : Nat)
  | incomplete (index : Nat)

namespace Utf8Fault

/-- The fault in words. -/
def message : Utf8Fault → String
  | invalid length index =>
    "invalid utf-8 sequence of " ++ toString length ++ " bytes from index " ++ toString index
  | incomplete index => "incomplete utf-8 byte sequence from index " ++ toString index

end Utf8Fault

/-- The first character of a byte sequence. -/
inductive Utf8Step where
  | done
  | char (c : Char) (size : Nat) (rest : List UInt8)
  | invalid (length : Nat)
  | incomplete

/-- Whether a byte may continue a sequence. -/
def isTail (b : UInt8) : Bool := 0x80 ≤ b && b ≤ 0xbf

/-- The bits that a continuing byte adds to a character. -/
def tailBits (b : UInt8) : Nat := b.toNat % 64

/-- Whether `b` may follow the first byte `a` of a sequence of three bytes. -/
def isSecondOfThree (a b : UInt8) : Bool :=
  if a = 0xe0 then 0xa0 ≤ b && b ≤ 0xbf
  else if a = 0xed then 0x80 ≤ b && b ≤ 0x9f
  else isTail b

/-- Whether `b` may follow the first byte `a` of a sequence of four bytes. -/
def isSecondOfFour (a b : UInt8) : Bool :=
  if a = 0xf0 then 0x90 ≤ b && b ≤ 0xbf
  else if a = 0xf4 then 0x80 ≤ b && b ≤ 0x8f
  else isTail b

/-- Reads one character. -/
def utf8Step : List UInt8 → Utf8Step
  | [] => .done
  | a :: rest =>
    if a < 0x80 then .char (Char.ofNat a.toNat) 1 rest
    else if 0xc2 ≤ a && a ≤ 0xdf then
      match rest with
      | [] => .incomplete
      | b :: rest =>
        if isTail b then .char (Char.ofNat (a.toNat % 32 * 64 + tailBits b)) 2 rest
        else .invalid 1
    else if 0xe0 ≤ a && a ≤ 0xef then
      match rest with
      | [] => .incomplete
      | b :: rest =>
        if !isSecondOfThree a b then .invalid 1
        else
          match rest with
          | [] => .incomplete
          | c :: rest =>
            if isTail c then
              .char (Char.ofNat (a.toNat % 16 * 4096 + tailBits b * 64 + tailBits c)) 3 rest
            else .invalid 2
    else if 0xf0 ≤ a && a ≤ 0xf4 then
      match rest with
      | [] => .incomplete
      | b :: rest =>
        if !isSecondOfFour a b then .invalid 1
        else
          match rest with
          | [] => .incomplete
          | c :: rest =>
            if !isTail c then .invalid 2
            else
              match rest with
              | [] => .incomplete
              | d :: rest =>
                if isTail d then
                  .char (Char.ofNat (a.toNat % 8 * 262144 + tailBits b * 4096 + tailBits c * 64 +
                    tailBits d)) 4 rest
                else .invalid 3
    else .invalid 1

/-- Reads characters until the bytes end. The fuel bounds their number; `read` holds the characters
so far, last first, and `index` the bytes read. -/
def utf8Loop : Nat → List UInt8 → Nat → List Char → Except Utf8Fault (List Char)
  | 0, _, _, read => .ok read.reverse
  | fuel + 1, bytes, index, read =>
    match utf8Step bytes with
    | .done => .ok read.reverse
    | .char c size rest => utf8Loop fuel rest (index + size) (c :: read)
    | .invalid length => .error (.invalid length index)
    | .incomplete => .error (.incomplete index)

/-- The text of a byte sequence. -/
def ofUtf8 (bytes : List UInt8) : Except Utf8Fault String :=
  (utf8Loop (bytes.length + 1) bytes 0 []).map String.ofList

/-- The bytes of a text. -/
def toUtf8 (s : String) : List UInt8 :=
  s.toUTF8.toList

end DocMachine.Text
