import SqlScript.Text.Quoted

/-!
# UTF-8

Texts as bytes. Decoding is strict: it accepts exactly what encoding produces, so a character in
more bytes than it needs, a surrogate, a code point above the last and a sequence that is cut off
are all refused. What is reported is the place of the first sequence that is not well formed, the
part of it that still was, and why it could not go on.

The decoder takes one byte at a time. Between characters it expects a first byte, and inside one
it knows the value so far, how many bytes are owed and between which bounds the next one must lie;
only the byte after the first has bounds narrower than those of all continuation bytes.
-/

namespace SqlScript.Text.Utf8

/-- A sequence of bytes. -/
abbrev Bytes := List UInt8

/-! ### Encoding -/

/-- The byte of a number below 256. -/
def byte (n : Nat) : UInt8 := UInt8.ofNat n

/-- The bytes of a character. -/
def encodeChar (c : Char) : Bytes :=
  let n := c.toNat
  if n < 0x80 then [byte n]
  else if n < 0x800 then [byte (0xC0 + n / 0x40), byte (0x80 + n % 0x40)]
  else if n < 0x10000 then
    [byte (0xE0 + n / 0x1000), byte (0x80 + n / 0x40 % 0x40), byte (0x80 + n % 0x40)]
  else
    [byte (0xF0 + n / 0x40000), byte (0x80 + n / 0x1000 % 0x40), byte (0x80 + n / 0x40 % 0x40),
      byte (0x80 + n % 0x40)]

/-- The bytes of a text. -/
def encode (t : Text) : Bytes := t.flatMap encodeChar

/-! ### Decoding -/

/-- Why a sequence is not well formed. -/
inductive Reason where
  /-- No character begins with this byte. -/
  | invalidStart
  /-- This byte cannot follow those before it. -/
  | invalidContinuation
  /-- The bytes end inside a character. -/
  | unexpectedEnd
  deriving DecidableEq, Repr

/-- The first sequence that is not well formed. -/
structure Malformed where
  /-- The number of bytes before it. -/
  start : Nat
  /-- Its first byte. -/
  first : UInt8
  /-- How many of its bytes could begin a character. -/
  length : Nat
  /-- Why it ends there. -/
  reason : Reason
  deriving DecidableEq, Repr

/-- A character of which some bytes have been read. -/
structure Open where
  /-- Its first byte. -/
  first : UInt8
  /-- How many bytes have been read. -/
  taken : Nat
  /-- The bits read so far. -/
  value : Nat
  /-- How many bytes are still owed. -/
  owed : Nat
  /-- The least byte that may come next. -/
  low : Nat := 0x80
  /-- The greatest byte that may come next. -/
  high : Nat := 0xBF

/-- What a first byte begins: a whole character, one that owes more bytes, or nothing. -/
def begin? (b : UInt8) : Option (Char ⊕ Open) :=
  let n := b.toNat
  if n < 0x80 then some (.inl (Char.ofNat n))
  else if n < 0xC2 then none
  else if n < 0xE0 then some (.inr { first := b, taken := 1, value := n - 0xC0, owed := 1 })
  else if n < 0xF0 then
    some (.inr {
      first := b, taken := 1, value := n - 0xE0, owed := 2
      low := if n = 0xE0 then 0xA0 else 0x80
      high := if n = 0xED then 0x9F else 0xBF })
  else if n < 0xF5 then
    some (.inr {
      first := b, taken := 1, value := n - 0xF0, owed := 3
      low := if n = 0xF0 then 0x90 else 0x80
      high := if n = 0xF4 then 0x8F else 0xBF })
  else none

/-- What has become of an open character after one more byte, if that may follow. -/
def Open.continue? (o : Open) (b : UInt8) : Option (Char ⊕ Open) :=
  let n := b.toNat
  if o.low ≤ n ∧ n ≤ o.high then
    let value := o.value * 0x40 + (n - 0x80)
    if o.owed ≤ 1 then some (.inl (Char.ofNat value))
    else some (.inr { first := o.first, taken := o.taken + 1, value, owed := o.owed - 1 })
  else none

/-- The text of bytes that follow `start` others, when `current` is the character that is open and
`read` are the characters before it, newest first. -/
def decodeFrom (start : Nat) (current : Option Open) (read : Text) :
    Bytes → Except Malformed Text
  | [] =>
    match current with
    | none => .ok read.reverse
    | some o => .error ⟨start - o.taken, o.first, o.taken, .unexpectedEnd⟩
  | b :: bs =>
    match current with
    | none =>
      match begin? b with
      | some (.inl c) => decodeFrom (start + 1) none (c :: read) bs
      | some (.inr o) => decodeFrom (start + 1) (some o) read bs
      | none => .error ⟨start, b, 1, .invalidStart⟩
    | some o =>
      match o.continue? b with
      | some (.inl c) => decodeFrom (start + 1) none (c :: read) bs
      | some (.inr o) => decodeFrom (start + 1) (some o) read bs
      | none => .error ⟨start - o.taken, o.first, o.taken, .invalidContinuation⟩

/-- The text that bytes encode. -/
def decode (bytes : Bytes) : Except Malformed Text := decodeFrom 0 none [] bytes

/-! ### Reports -/

/-- A reason in words. -/
def Reason.message : Reason → Text
  | invalidStart => "invalid start byte"
  | invalidContinuation => "invalid continuation byte"
  | unexpectedEnd => "unexpected end of data"

/-- What is said about bytes that are not UTF-8. A single byte is shown, and several only counted.
-/
def Malformed.message (m : Malformed) : Text :=
  let place : Text :=
    if m.length = 1 then "byte 0x" ++ hex 2 m.first.toNat ++ " in position " ++ ofNat m.start
    else "bytes in position " ++ ofNat m.start ++ '-' :: ofNat (m.start + m.length - 1)
  "'utf-8' codec can't decode " ++ place ++ ": " ++ m.reason.message

end SqlScript.Text.Utf8
