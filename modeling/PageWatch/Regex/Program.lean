import PageWatch.Regex.Expr

/-!
# Programs

A program is an array of instructions, each of which names those that may follow it. It is
built from an expression back to front (`Expr.emit`): every part is told where to go on, and
answers where it starts. The order of a `fork` is the order of preference, so **the first way
through a program is the preferred match**: earlier branches before later ones, and of a
repetition more rounds before fewer, or the other way round if it is lazy.

A repetition of something that may be empty is entered through a fork of its own: without it, a
round that matches nothing would come back to a fork already passed, and the preference between
leaving and going on would be lost.
-/

namespace PageWatch.Regex

open PageWatch.Unicode

/-- One step of a program. -/
inductive Instruction where
  | char (c : Char) (next : Nat)
  | set (s : CharSet) (next : Nat)
  | place (p : Place) (next : Nat)
  | fork (first second : Nat)
  | accept
  deriving Inhabited

/-- Instructions under construction. -/
abbrev Code := Array Instruction

/-- Adds an instruction, and says where it stands. -/
def Code.add (code : Code) (i : Instruction) : Nat × Code := (code.size, code.push i)

/-- A fork that goes on with another round, or leaves, in the order of preference. -/
def Instruction.round (greedy : Bool) (again leave : Nat) : Instruction :=
  if greedy then .fork again leave else .fork leave again

/-- Adds copies one before another: each is told to go on with the one built before it. -/
def Code.copies (emitOne : Nat → Code → Nat × Code) : Nat → Nat → Code → Nat × Code
  | 0, next, code => (next, code)
  | n + 1, next, code =>
    let (start, code) := emitOne next code
    Code.copies emitOne n start code

/-- At most `n` rounds: before each it may leave. -/
def Code.optional (emitOne : Nat → Code → Nat × Code) (greedy : Bool) (leave : Nat) :
    Nat → Nat → Code → Nat × Code
  | 0, next, code => (next, code)
  | n + 1, next, code =>
    let (start, code) := emitOne next code
    let (fork, code) := code.add (.round greedy start leave)
    Code.optional emitOne greedy leave n fork code

/-- At least one round: after each it may leave. Gives the start of the round and of the fork
    behind it. -/
def Code.rounds (emitOne : Nat → Code → Nat × Code) (greedy : Bool) (leave : Nat) (code : Code) :
    Nat × Nat × Code :=
  let (fork, code) := code.add .accept
  let (start, code) := emitOne fork code
  (start, fork, code.setIfInBounds fork (.round greedy start leave))

mutual

/-- Adds the instructions of an expression that goes on at `next`, and gives their start. -/
def Expr.emit : Expr → Nat → Code → Nat × Code
  | .empty, next, code => (next, code)
  | .literal text, next, code => text.foldr (fun c (n, code) => code.add (.char c n)) (next, code)
  | .set s _, next, code => code.add (.set s next)
  | .place p, next, code => code.add (.place p next)
  | .capture sub, next, code => sub.emit next code
  | .seq parts, next, code => Expr.emitSeq parts next code
  | .alt branches, next, code => Expr.emitAlt branches next code
  | .rep min (some max) greedy sub, next, code =>
    let (start, code) := Code.optional sub.emit greedy next (max - min) next code
    Code.copies sub.emit min start code
  | .rep min none greedy sub, next, code =>
    let (start, fork, code) := Code.rounds sub.emit greedy next code
    if min = 0 then
      if sub.neverEmpty then (fork, code) else code.add (.round greedy start next)
    else Code.copies sub.emit (min - 1) start code

/-- Adds parts that follow each other, the last one first. -/
def Expr.emitSeq : List Expr → Nat → Code → Nat × Code
  | [], next, code => (next, code)
  | e :: rest, next, code =>
    let (start, code) := Expr.emitSeq rest next code
    e.emit start code

/-- Adds branches that all go on at `next`. -/
def Expr.emitAlt : List Expr → Nat → Code → Nat × Code
  | [], _, code => code.add (.set .empty 0)
  | [e], next, code => e.emit next code
  | e :: rest, next, code =>
    let (others, code) := Expr.emitAlt rest next code
    let (start, code) := e.emit next code
    code.add (.fork start others)

end

/-- A program and the instruction it starts with. -/
structure Program where
  code : Code
  start : Nat
  deriving Inhabited

/-- **The program of an expression**: after its instructions comes the one that accepts. -/
def Program.ofExpr (e : Expr) : Program :=
  let (start, code) := e.emit 0 #[.accept]
  ⟨code, start⟩

end PageWatch.Regex
