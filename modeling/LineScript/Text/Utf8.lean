import LineScript.Text.Basic

/-!
Reading UTF-8. A byte sequence that is no text has a first defect, with the bytes that it covers and
a reason. Bytes can be read whole, or in windows of fixed size as a line reader takes them; a defect
is then placed from the start of its window, bytes carried over from the window before included.
-/

namespace LineScript.Text.Utf8

/-- Why some bytes are no character. -/
inductive Reason where
  | startByte
  | continuationByte
  | endOfData
  deriving DecidableEq, Repr

def Reason.message : Reason → Text
  | .startByte => "invalid start byte"
  | .continuationByte => "invalid continuation byte"
  | .endOfData => "unexpected end of data"

/-- The first bytes of a sequence that are no character: where they start, which they are, and
why. -/
structure Defect where
  position : Nat
  first : UInt8
  length : Nat
  reason : Reason
  deriving DecidableEq, Repr

def hexByte (b : UInt8) : Text := [Nat.digitChar (b.toNat / 16), Nat.digitChar (b.toNat % 16)]

/-- Where a defect stands: one byte is named by its value, several by their places. -/
def Defect.place (d : Defect) : Text :=
  if d.length = 1 then
    join ["byte 0x", hexByte d.first, " in position ", Nat.toDigits 10 d.position]
  else
    join ["bytes in position ", Nat.toDigits 10 d.position, "-",
      Nat.toDigits 10 (d.position + d.length - 1)]

def Defect.message (d : Defect) : Text :=
  join ["'utf-8' codec can't decode ", d.place, ": ", d.reason.message]

def isContinuation (b : UInt8) : Bool := 0x80 ≤ b && b < 0xc0

/-- Whether `b` may follow the first byte `a` of a character of three or four bytes. The second byte
excludes overlong forms, surrogates and numbers beyond the last code point. -/
def isSecond (a b : UInt8) : Bool :=
  isContinuation b &&
    !(a == 0xe0 && b < 0xa0) && !(a == 0xed && 0xa0 ≤ b) &&
    !(a == 0xf0 && b < 0x90) && !(a == 0xf4 && 0x90 ≤ b)

/-- What the first bytes of a non-empty sequence are. -/
inductive Head where
  /-- A character and the number of its bytes. -/
  | char (c : Char) (length : Nat)
  /-- The start of a character whose end is missing. -/
  | cut
  /-- Bytes that start no character. -/
  | bad (length : Nat) (reason : Reason)

/-- The character with the given bits, six from each continuation byte. -/
def assemble (lead : Nat) (rest : List UInt8) : Char :=
  Char.ofNat (rest.foldl (fun n b => n * 64 + (b.toNat - 0x80)) lead)

/-- Looks at the first bytes of a sequence that starts with `a`. -/
def head (a : UInt8) (rest : List UInt8) : Head :=
  if a < 0x80 then .char (Char.ofNat a.toNat) 1
  else if a < 0xc2 then .bad 1 .startByte
  else if a < 0xe0 then
    match rest with
    | [] => .cut
    | b :: _ =>
        if isContinuation b then .char (assemble (a.toNat - 0xc0) [b]) 2
        else .bad 1 .continuationByte
  else if a < 0xf0 then
    match rest with
    | [] => .cut
    | b :: rest =>
        if !isSecond a b then .bad 1 .continuationByte
        else
          match rest with
          | [] => .cut
          | c :: _ =>
              if isContinuation c then .char (assemble (a.toNat - 0xe0) [b, c]) 3
              else .bad 2 .continuationByte
  else if a < 0xf5 then
    match rest with
    | [] => .cut
    | b :: rest =>
        if !isSecond a b then .bad 1 .continuationByte
        else
          match rest with
          | [] => .cut
          | c :: rest =>
              if !isContinuation c then .bad 2 .continuationByte
              else
                match rest with
                | [] => .cut
                | d :: _ =>
                    if isContinuation d then .char (assemble (a.toNat - 0xf0) [b, c, d]) 4
                    else .bad 3 .continuationByte
  else .bad 1 .startByte

/-- Whether the bytes are the first two of a surrogate. They are refused only once the third byte,
or the end, has been seen. -/
def isCutSurrogate (a : UInt8) : List UInt8 → Bool
  | [b] => a == 0xed && 0xa0 ≤ b && b < 0xc0
  | _ => false

/-- Reads the bytes from the given position on. If more bytes may follow, a character that is cut
off at the end is no defect: its bytes are left over. The first argument counts characters still
to read, so the number of bytes is always enough. -/
def readFrom (more : Bool) : Nat → Nat → List UInt8 → Except Defect (Text × List UInt8)
  | 0, _, bytes => .ok ([], bytes)
  | _ + 1, _, [] => .ok ([], [])
  | fuel + 1, position, a :: rest =>
      match head a rest with
      | .char c length => do
          let (t, left) ← readFrom more fuel (position + length) ((a :: rest).drop length)
          .ok (c :: t, left)
      | .cut =>
          if more then .ok ([], a :: rest)
          else .error ⟨position, a, rest.length + 1, .endOfData⟩
      | .bad length reason =>
          if more && isCutSurrogate a rest then .ok ([], a :: rest)
          else .error ⟨position, a, length, reason⟩

def read (bytes : List UInt8) : Except Defect Text :=
  (readFrom false bytes.length 0 bytes).map (·.1)

/-- The number of bytes that a line reader takes at a time. -/
def windowSize : Nat := 8192

/-- Reads the bytes window by window; `left` are the bytes carried over. -/
def readWindows : Nat → List UInt8 → List UInt8 → Except Defect Text
  | 0, left, _ => read left
  | fuel + 1, left, bytes =>
      if bytes.isEmpty then read left
      else do
        let window := left ++ bytes.take windowSize
        let (t, left) ← readFrom true window.length 0 window
        let t' ← readWindows fuel left (bytes.drop windowSize)
        .ok (t ++ t')

/-- Reads a sequence of bytes as a line reader does. -/
def readByWindow (bytes : List UInt8) : Except Defect Text :=
  readWindows (bytes.length / windowSize + 1) [] bytes

end LineScript.Text.Utf8
