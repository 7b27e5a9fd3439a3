import PageWatch.Regex.Program
import PageWatch.Unicode.Query

/-!
# Searching a text

All ways through a program are followed at once, one character of the text after another. The
ways stand in order of preference (`Ways`); at each place every instruction is entered by at
most one of them, the most preferred. Main definitions: `Program.first?`, the leftmost match and
of those the preferred one, and `Program.allMatches`, all matches from left to right without
overlap. **Every match is given as a piece cut out of the text**, never put together anew.

An empty match directly behind the match before it does not count.
-/

namespace PageWatch.Regex

open PageWatch.Unicode

/-! ## 1. Places -/

/-- The neighbours of a place in a text. -/
structure Neighbours where
  before : Option Char
  after : Option Char

/-- The neighbour is a character of a word. -/
def isWordAt (unicode : Bool) : Option Char → Bool
  | none => false
  | some c => if unicode then wordChars.contains c else c.isAlphanum || c == '_'

/-- The condition holds at a place with these neighbours. A line ends before `\n`; with `\r\n` as
    an end of its own, no line ends between the two. -/
def Place.holds (n : Neighbours) : Place → Bool
  | .textStart => n.before == none
  | .textEnd => n.after == none
  | .lineStart => n.before == none || n.before == some '\n'
  | .lineEnd => n.after == none || n.after == some '\n'
  | .crlfLineStart => n.before == none || n.before == some '\n' ||
      (n.before == some '\r' && n.after != some '\n')
  | .crlfLineEnd => n.after == none || n.after == some '\r' ||
      (n.after == some '\n' && n.before != some '\r')
  | .wordEdge u => isWordAt u n.before != isWordAt u n.after
  | .noWordEdge u => isWordAt u n.before == isWordAt u n.after
  | .wordStart u => !isWordAt u n.before && isWordAt u n.after
  | .wordEnd u => isWordAt u n.before && !isWordAt u n.after
  | .wordStartHalf u => !isWordAt u n.before
  | .wordEndHalf u => !isWordAt u n.after

/-! ## 2. Ways -/

/-- A way through the program: the instruction it waits at, and how many characters of the text
    lie before the match it belongs to. -/
structure Way where
  pc : Nat
  skipped : Nat

/-- The ways at one place, the preferred first. `entered` holds for each instruction the last
    round in which it was entered, and `round` is the present one. -/
structure Ways where
  entered : Array Nat
  round : Nat
  list : Array Way

/-- Follows forks and places from the instructions on the stack, the first one first, down to
    instructions that wait for a character or accept. Each instruction is entered once a round and
    puts at most two on the stack, so twice the program's size is fuel enough. -/
def Ways.follow (code : Code) (n : Neighbours) (skipped : Nat) :
    (fuel : Nat) → List Nat → Ways → Ways
  | 0, _, ways => ways
  | _, [], ways => ways
  | fuel + 1, pc :: stack, ways =>
    if ways.entered[pc]? == some ways.round then ways.follow code n skipped fuel stack
    else
      let ways := { ways with entered := ways.entered.setIfInBounds pc ways.round }
      match code[pc]? with
      | none => ways.follow code n skipped fuel stack
      | some (.fork first second) => ways.follow code n skipped fuel (first :: second :: stack)
      | some (.place p next) =>
        ways.follow code n skipped fuel (if p.holds n then next :: stack else stack)
      | some _ =>
        Ways.follow code n skipped fuel stack { ways with list := ways.list.push ⟨pc, skipped⟩ }

/-- Adds the ways that begin at an instruction. -/
def Ways.enter (ways : Ways) (code : Code) (n : Neighbours) (pc skipped : Nat) : Ways :=
  ways.follow code n skipped (2 * code.size + 2) [pc]

/-- Moves ways over one character, in order of preference. A way that accepts ends the list: what
    is less preferred is given up. Gives the number skipped by the accepting way, if there is
    one. -/
def Ways.advance (code : Code) (c : Option Char) (n : Neighbours) :
    List Way → Ways → Option Nat × Ways
  | [], ways => (none, ways)
  | w :: rest, ways =>
    match code[w.pc]? with
    | some .accept => (some w.skipped, ways)
    | some (.char d next) =>
      Ways.advance code c n rest (if c == some d then ways.enter code n next w.skipped else ways)
    | some (.set s next) =>
      let moves := match c with
        | some c => s.contains c
        | none => false
      Ways.advance code c n rest (if moves then ways.enter code n next w.skipped else ways)
    | _ => Ways.advance code c n rest ways

/-- The empty list of the next round. -/
def Ways.nextRound (ways : Ways) : Ways := { ways with round := ways.round + 1, list := #[] }

/-! ## 3. The first match -/

/-- How a match lies in a text: the characters before it, and its own. -/
structure Span where
  skipped : Nat
  length : Nat
  deriving Repr, DecidableEq

/-- Runs over the rest of the text. `position` characters are behind, the last of them `before`;
    `best` is the preferred match found so far. As long as there is none, a new way begins at each
    place, less preferred than those under way. -/
def Program.run (p : Program) : (before : Option Char) → (position : Nat) → (best : Option Span) →
    Ways → List Char → Option Span
  | before, position, best, ways, rest =>
    let here : Neighbours := ⟨before, rest.head?⟩
    let ways := if best.isNone then ways.enter p.code here p.start position else ways
    if ways.list.isEmpty && best.isSome then best
    else
      let there : Neighbours := ⟨rest.head?, rest.tail.head?⟩
      let (accepted, next) :=
        Ways.advance p.code rest.head? there ways.list.toList ways.nextRound
      let best :=
        match accepted with
        | some skipped => some ⟨skipped, position - skipped⟩
        | none => best
      match rest with
      | [] => best
      | c :: rest => p.run (some c) (position + 1) best next rest

/-- **The leftmost match in the text that follows `before`**, and of those the preferred one. -/
def Program.first? (p : Program) (before : Option Char) (text : List Char) : Option Span :=
  p.run before 0 none ⟨Array.replicate p.code.size 0, 1, #[]⟩ text

/-! ## 4. All matches -/

/-- All matches in the text that follows `before`, from left to right. `justMatched` tells that a
    match ended right here, so that an empty one is passed over. -/
def Program.matchesFrom (p : Program) (before : Option Char) (justMatched : Bool)
    (text : List Char) : List (List Char) :=
  match p.first? before text with
  | none => []
  | some span =>
    match _h : span.skipped + span.length, text with
    | 0, text =>
      if justMatched then
        match text with
        | [] => []
        | c :: rest => p.matchesFrom (some c) false rest
      else [] :: p.matchesFrom before true text
    | _ + 1, [] => []
    | n + 1, c :: rest =>
      ((c :: rest).drop span.skipped).take span.length ::
        p.matchesFrom ((c :: rest)[n]?) true (rest.drop n)
termination_by (text.length, if justMatched then 0 else 1)
decreasing_by
  · exact Prod.Lex.left _ _ (Nat.lt_succ_self _)
  · next h =>
      rw [if_neg h]
      exact Prod.Lex.right _ Nat.zero_lt_one
  · refine Prod.Lex.left _ _ ?_
    rw [List.length_drop, List.length_cons]
    omega

/-- **All matches in a text**, from left to right. -/
def Program.allMatches (p : Program) (text : List Char) : List (List Char) :=
  p.matchesFrom none false text

theorem Program.matchesFrom_infix (p : Program) (before : Option Char) (justMatched : Bool)
    (text : List Char) : ∀ piece ∈ p.matchesFrom before justMatched text, piece <:+: text := by
  fun_induction p.matchesFrom before justMatched text with
  | case1 | case2 | case5 => exact List.forall_mem_nil _
  | case3 before span h c rest hfirst ih =>
    intro piece hpiece
    exact (ih piece hpiece).trans (List.suffix_cons c rest).isInfix
  | case4 before justMatched span text h hnew hfirst ih =>
    exact List.forall_mem_cons.mpr ⟨List.nil_infix, ih⟩
  | case6 before justMatched span n c rest h hfirst ih =>
    have hcut : ((c :: rest).drop span.skipped).take span.length <:+: c :: rest :=
      (List.take_prefix _ _).isInfix.trans (List.drop_suffix _ _).isInfix
    have hrest : rest.drop n <:+: c :: rest :=
      ((List.drop_suffix n rest).trans (List.suffix_cons c rest)).isInfix
    refine List.forall_mem_cons.mpr ⟨hcut, ?_⟩
    intro piece hpiece
    exact (ih piece hpiece).trans hrest

/-- **Every match is a piece of the text that was searched.** -/
theorem Program.allMatches_infix (p : Program) (text : List Char) :
    ∀ piece ∈ p.allMatches text, piece <:+: text :=
  p.matchesFrom_infix none false text

end PageWatch.Regex
