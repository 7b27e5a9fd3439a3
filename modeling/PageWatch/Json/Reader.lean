import PageWatch.Json.Error
import PageWatch.Json.Skip

/-!
# Reading typed values from JSON

A reader takes a value of one type from the start of a text. It reads on from left to right and
**the first problem decides**: a value of the wrong type is a mismatch even if the text breaks off
later, and a broken scalar is malformed even where another type was wanted.

A structure (`readStruct`) is read from an object, or from an array that gives its fields in
order. Fields that are missing keep what the structure starts with; unknown fields of an object
are passed over; a field given twice is a mismatch.
-/

namespace PageWatch.Json

/-- Takes a value from the start of a text, and gives what follows it. -/
abbrev Reader (α : Type) := List Char → Except Failure (α × List Char)

/-- A step that can only fail by being malformed. -/
def orMalformed {α : Type} : Option α → Except Failure α
  | some a => .ok a
  | none => .error .malformed

/-- The text does not fit, in the given way. -/
def misfit {α : Type} (m : Mismatch) : Except Failure α := .error (.mismatch m)

/-! ## 1. Scalars -/

/-- What stands at the start of a text, read as far as it has to be to tell. -/
def readFound (cs : List Char) : Option Found :=
  match cs with
  | 'n' :: rest => (afterWord? ['u', 'l', 'l'] rest).map fun _ => .null
  | 't' :: rest => (afterWord? ['r', 'u', 'e'] rest).map fun _ => .bool true
  | 'f' :: rest => (afterWord? ['a', 'l', 's', 'e'] rest).map fun _ => .bool false
  | '"' :: rest => (readText rest).map fun r => .string r.1
  | '[' :: _ => some .sequence
  | '\x7B' :: _ => some .map
  | cs =>
    (readNumber cs).map fun
      | (.natural n, _) => .integer n
      | (.negative n, _) => .integer (-n)
      | (.float x, _) => .float x

/-- Fails on a value that is not of the wanted kind. -/
def unexpected {α : Type} (wanted : String) (cs : List Char) : Except Failure α :=
  match readFound cs with
  | some found => misfit (.wrongType found wanted)
  | none => .error .malformed

/-- Reads a text; `wanted` is what a mismatch says was expected. -/
def readStringAs (wanted : String) : Reader String := fun cs =>
  match skipBlanks cs with
  | '"' :: rest => orMalformed (readText rest)
  | cs => unexpected wanted cs

/-- Reads a text. -/
def readString : Reader String := readStringAs "a string"

/-- Reads a truth value. -/
def readBool : Reader Bool := fun cs =>
  match skipBlanks cs with
  | 't' :: rest => (orMalformed (afterWord? ['r', 'u', 'e'] rest)).map fun rest => (true, rest)
  | 'f' :: rest =>
    (orMalformed (afterWord? ['a', 'l', 's', 'e'] rest)).map fun rest => (false, rest)
  | cs => unexpected "a boolean" cs

/-- Reads a natural number of at most `max`. -/
def readNatural (max : Nat) (wanted : String) : Reader Nat := fun cs =>
  match skipBlanks cs with
  | [] => .error .malformed
  | c :: rest =>
    if c = '-' || c.isDigit then
      match readNumber (c :: rest) with
      | none => .error .malformed
      | some (.natural n, rest) =>
        if n ≤ max then .ok (n, rest) else misfit (.outOfRange n wanted)
      | some (.negative n, _) => misfit (.outOfRange (-n) wanted)
      | some (.float x, _) => misfit (.wrongType (.float x) wanted)
    else unexpected wanted (c :: rest)

/-- Reads a text and converts it; the reason of a refusal is the mismatch. -/
def readConverted {α : Type} (convert : String → Except String α) : Reader α := fun cs =>
  match readString cs with
  | .error e => .error e
  | .ok (s, rest) =>
    match convert s with
    | .ok a => .ok (a, rest)
    | .error reason => misfit (.refused reason)

/-- Reads `null` or a value. -/
def readOptional {α : Type} (read : Reader α) : Reader (Option α) := fun cs =>
  match skipBlanks cs with
  | 'n' :: rest => (orMalformed (afterWord? ['u', 'l', 'l'] rest)).map fun rest => (none, rest)
  | cs => (read cs).map fun (a, rest) => (some a, rest)

/-! ## 2. Sequences -/

/-- What stands before the next element of an array: its start, or the end of the array. -/
inductive Next where
  | element (cs : List Char)
  | stop (rest : List Char)

/-- Looks for the next element of an array; all but the first come after a comma. -/
def nextElement (first : Bool) (cs : List Char) : Except Failure Next :=
  match skipBlanks cs with
  | [] => .error .malformed
  | ']' :: rest => .ok (.stop rest)
  | c :: rest =>
    if first then .ok (.element (c :: rest))
    else if c = ',' then
      match skipBlanks rest with
      | [] => .error .malformed
      | ']' :: _ => .error .malformed
      | cs => .ok (.element cs)
    else .error .malformed

/-- Reads the elements of an array up to its end. -/
def readElements {α : Type} (read : Reader α) (first : Bool) (cs : List Char) :
    Except Failure (List α × List Char) :=
  match nextElement first cs with
  | .error e => .error e
  | .ok (.stop rest) => .ok ([], rest)
  | .ok (.element cs') =>
    match read cs' with
    | .error e => .error e
    | .ok (a, rest) =>
      if _h : rest.length < cs.length then
        (readElements read false rest).map fun (as, rest) => (a :: as, rest)
      else .error .malformed
termination_by cs.length

/-- Reads an array. -/
def readList {α : Type} (read : Reader α) : Reader (List α) := fun cs =>
  match skipBlanks cs with
  | '[' :: rest => readElements read true rest
  | cs => unexpected "a sequence" cs

/-! ## 3. Structures -/

/-- A field of a structure: its name, and how its value is read into the structure. -/
structure StructField (σ : Type) where
  name : String
  read : σ → Reader σ

/-- A field that is read by itself and then put into the structure. -/
def StructField.of {σ α : Type} (name : String) (read : Reader α) (put : α → σ → σ) :
    StructField σ where
  name := name
  read := fun s cs => (read cs).map fun (a, rest) => (put a s, rest)

/-- Reads fields in order from the elements of an array. Gives how many elements there were; more
    elements than fields are malformed. -/
def readTuple {σ : Type} (s : σ) (count : Nat) :
    List (StructField σ) → List Char → Except Failure (σ × Nat × List Char)
  | [], cs =>
    match skipBlanks cs with
    | ']' :: rest => .ok (s, count, rest)
    | _ => .error .malformed
  | f :: fields, cs =>
    match nextElement (count = 0) cs with
    | .error e => .error e
    | .ok (.stop rest) => .ok (s, count, rest)
    | .ok (.element cs) =>
      match f.read s cs with
      | .error e => .error e
      | .ok (s, rest) => readTuple s (count + 1) fields rest

/-- The key of the next member of an object with what follows it; `none` at the end of the
    object, with what follows that. -/
def nextKey (first : Bool) (cs : List Char) : Except Failure (Option String × List Char) :=
  let key := fun (cs : List Char) =>
    match cs with
    | '"' :: rest =>
      (orMalformed (readText rest)).map fun (name, rest) => (some name, rest)
    | _ => .error .malformed
  match skipBlanks cs with
  | '\x7D' :: rest => .ok (none, rest)
  | ',' :: rest => if first then .error .malformed else key (skipBlanks rest)
  | cs => if first then key cs else .error .malformed

/-- What follows the colon behind a key. -/
def afterColon (cs : List Char) : Except Failure (List Char) :=
  match skipBlanks cs with
  | ':' :: rest => .ok rest
  | _ => .error .malformed

/-- Reads the members of an object. `seen` are the names of the fields read so far. -/
def readMembers {σ : Type} (fields : List (StructField σ)) (s : σ) (seen : List String)
    (first : Bool) (cs : List Char) : Except Failure (σ × List Char) :=
  match nextKey first cs with
  | .error e => .error e
  | .ok (none, rest) => .ok (s, rest)
  | .ok (some name, rest) =>
    match fields.find? (·.name = name) with
    | some f =>
      if seen.contains name then misfit (.duplicateField name)
      else
        match afterColon rest with
        | .error e => .error e
        | .ok value =>
          match f.read s value with
          | .error e => .error e
          | .ok (s, rest) =>
            if _h : rest.length < cs.length then readMembers fields s (name :: seen) false rest
            else .error .malformed
    | none =>
      match afterColon rest with
      | .error e => .error e
      | .ok value =>
        match skipValue value with
        | none => .error .malformed
        | some rest =>
          if _h : rest.length < cs.length then readMembers fields s seen false rest
          else .error .malformed
termination_by cs.length

/-- How a structure was written: as an object, or as an array with some elements. -/
inductive Form where
  | object
  | array (count : Nat)
  deriving Repr, DecidableEq

/-- **Reads a structure** that starts with `s`; `wanted` is what a mismatch says was expected. -/
def readStruct {σ : Type} (wanted : String) (fields : List (StructField σ)) (s : σ) :
    Reader (σ × Form) := fun cs =>
  match skipBlanks cs with
  | '[' :: rest =>
    (readTuple s 0 fields rest).map fun (s, count, rest) => ((s, .array count), rest)
  | '\x7B' :: rest =>
    (readMembers fields s [] true rest).map fun (s, rest) => ((s, .object), rest)
  | cs => unexpected wanted cs

/-- As `readStruct`, for structures in which every field may be missing. -/
def readStructWithDefaults {σ : Type} (wanted : String) (fields : List (StructField σ)) (s : σ) :
    Reader σ := fun cs =>
  (readStruct wanted fields s cs).map fun ((s, _), rest) => (s, rest)

/-! ## 4. Variants -/

/-- The variant with the name. -/
def variant {α : Type} (variants : List (String × α)) (name : String) : Except Failure α :=
  match variants.lookup name with
  | some a => .ok a
  | none => misfit (.unknownVariant name (variants.map (·.1)))

/-- Reads one of some named variants: its name, or an object that maps its name to `null`. -/
def readVariant {α : Type} (variants : List (String × α)) : Reader α := fun cs =>
  match skipBlanks cs with
  | '"' :: rest => do
    let (name, rest) ← orMalformed (readText rest)
    pure (← variant variants name, rest)
  | '\x7B' :: rest =>
    match skipBlanks rest with
    | '"' :: rest => do
      let (name, rest) ← orMalformed (readText rest)
      let a ← variant variants name
      let rest ← afterColon rest
      match skipBlanks rest with
      | 'n' :: rest =>
        let rest ← orMalformed (afterWord? ['u', 'l', 'l'] rest)
        match skipBlanks rest with
        | '\x7D' :: rest => pure (a, rest)
        | _ => .error .malformed
      | cs => unexpected "unit" cs
    | _ => .error .malformed
  | _ => .error .malformed

/-! ## 5. Whole texts -/

/-- **Reads a whole text**: after the value there may only be blanks. -/
def readAll {α : Type} (read : Reader α) (text : String) : Except Failure α :=
  match read text.toList with
  | .error e => .error e
  | .ok (a, rest) => if (skipBlanks rest).isEmpty then .ok a else .error .malformed

end PageWatch.Json
