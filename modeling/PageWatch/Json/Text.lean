import PageWatch.Unicode.CharSet

/-!
# Texts in JSON

A text is written between double quotes. Main definitions: `writeText`, which escapes quotes,
backslashes and control characters only, and `readText`, which understands every escape of the
format. **Two escapes of four digits may spell one character**: a high surrogate has to be
followed by a low one, and a surrogate alone is refused.

`skipText` checks no surrogates: it passes over texts that nobody reads.
-/

namespace PageWatch.Json

/-! ## 1. Writing -/

/-- The two lower-case hexadecimal digits of a number below 256. -/
def hexPair (n : Nat) : List Char := [Nat.digitChar (n / 16), Nat.digitChar (n % 16)]

/-- One character of a written text. -/
def escapeChar (c : Char) : List Char :=
  if c = '"' then ['\\', '"']
  else if c = '\\' then ['\\', '\\']
  else if c = '\x08' then ['\\', 'b']
  else if c = '\x0C' then ['\\', 'f']
  else if c = '\n' then ['\\', 'n']
  else if c = '\r' then ['\\', 'r']
  else if c = '\t' then ['\\', 't']
  else if c.toNat < 0x20 then ['\\', 'u', '0', '0'] ++ hexPair c.toNat
  else [c]

/-- The written form of some characters. -/
def writeChars (cs : List Char) : List Char := '"' :: (cs.flatMap escapeChar ++ ['"'])

/-- **The written form of a text.** -/
def writeText (s : String) : String := String.ofList (writeChars s.toList)

/-! ## 2. Reading -/

/-- The number that four hexadecimal digits spell. -/
def hex4? (a b c d : Char) : Option Nat := do
  let a ← Unicode.CharSet.hexDigit? a
  let b ← Unicode.CharSet.hexDigit? b
  let c ← Unicode.CharSet.hexDigit? c
  let d ← Unicode.CharSet.hexDigit? d
  pure (((a * 16 + b) * 16 + c) * 16 + d)

/-- What the short escapes stand for. -/
def shortEscape? : Char → Option Char
  | '"' => some '"'
  | '\\' => some '\\'
  | '/' => some '/'
  | 'b' => some '\x08'
  | 'f' => some '\x0C'
  | 'n' => some '\n'
  | 'r' => some '\r'
  | 't' => some '\t'
  | _ => none

/-- One more character in front of what was read. -/
def consRead (c : Char) (r : List Char × List Char) : List Char × List Char := (c :: r.1, r.2)

/-- The characters up to the closing quote, and what follows it. -/
def readChars : List Char → Option (List Char × List Char)
  | [] => none
  | '"' :: rest => some ([], rest)
  | '\\' :: 'u' :: a :: b :: c :: d :: rest =>
    match hex4? a b c d with
    | none => none
    | some n =>
      if n < 0xD800 || 0xDFFF < n then (readChars rest).map (consRead (Char.ofNat n))
      else if n < 0xDC00 then
        match rest with
        | '\\' :: 'u' :: a :: b :: c :: d :: rest =>
          match hex4? a b c d with
          | none => none
          | some m =>
            if 0xDC00 ≤ m && m ≤ 0xDFFF then
              (readChars rest).map
                (consRead (Char.ofNat (0x10000 + (n - 0xD800) * 0x400 + (m - 0xDC00))))
            else none
        | _ => none
      else none
  | '\\' :: e :: rest =>
    match shortEscape? e with
    | none => none
    | some c => (readChars rest).map (consRead c)
  | c :: rest => if c.toNat < 0x20 then none else (readChars rest).map (consRead c)

/-- **The text whose opening quote was just read**, and what follows its closing quote. -/
def readText (cs : List Char) : Option (String × List Char) :=
  (readChars cs).map fun (body, rest) => (String.ofList body, rest)

/-- What follows the closing quote of a text that is passed over. -/
def skipText : List Char → Option (List Char)
  | [] => none
  | '"' :: rest => some rest
  | '\\' :: 'u' :: a :: b :: c :: d :: rest =>
    match hex4? a b c d with
    | none => none
    | some _ => skipText rest
  | '\\' :: e :: rest =>
    match shortEscape? e with
    | none => none
    | some _ => skipText rest
  | c :: rest => if c.toNat < 0x20 then none else skipText rest

end PageWatch.Json
