import RuleScan.Regex.Program
import RuleScan.Text.Utf8

/-!
# Searching with a program

All ways to run a program are followed at once, in order of preference, one byte at a time. At each
position an instruction is entered at most once, by the most preferred way that reaches it. The
search finds the leftmost match, and of the matches that start there the preferred one;
`Program.matches` lists the matches that do not overlap.
-/

namespace RuleScan.Regex

open RuleScan.Text

/-- A stretch of bytes. -/
structure Span where
  start : Nat
  stop : Nat
  deriving DecidableEq, Repr

/-! ## Assertions -/

/-- Whether a byte, if there is one, belongs to a word. -/
def isWordByte (b : Option Nat) : Bool :=
  b.any fun n => (48 ≤ n && n ≤ 57) || (65 ≤ n && n ≤ 90) || n = 95 || (97 ≤ n && n ≤ 122)

/-- Whether a word assertion holds between two sides. -/
def WordEdge.holds (before after : Bool) : WordEdge → Bool
  | .boundary => before != after
  | .notBoundary => before == after
  | .start => !before && after
  | .stop => before && !after
  | .startHalf => !before
  | .stopHalf => !after

/-- Whether a word assertion needs characters on both sides: between bytes that are no characters it
does not hold. -/
def WordEdge.needsCharacters : WordEdge → Bool × Bool
  | .notBoundary => (true, true)
  | .startHalf => (true, false)
  | .stopHalf => (false, true)
  | _ => (false, false)

/-- Whether an assertion holds at a position. -/
def Look.holds (data : ByteArray) (pos : Nat) : Look → Bool
  | .textStart => pos = 0
  | .textEnd => pos = data.size
  | .lineStart crlf =>
    let before := byteAt? data (pos - 1)
    pos = 0 || before == some 10
      || (crlf && before == some 13 && byteAt? data pos != some 10)
  | .lineEnd crlf =>
    let after := byteAt? data pos
    pos = data.size
      || (if crlf then after == some 13
            || (after == some 10 && (pos = 0 || byteAt? data (pos - 1) != some 13))
          else after == some 10)
  | .word false edge =>
    edge.holds (pos != 0 && isWordByte (byteAt? data (pos - 1))) (isWordByte (byteAt? data pos))
  | .word true edge =>
    let before := scalarBefore? data pos
    let after := (scalarAt? data pos).map (·.1)
    let (needBefore, needAfter) := edge.needsCharacters
    if needBefore && pos != 0 && before.isNone then false
    else if needAfter && pos < data.size && after.isNone then false
    else edge.holds (before.any Unicode.word.contains) (after.any Unicode.word.contains)

/-! ## Threads -/

/-- A way to run the program: where it started, the instruction it is at, and how many bytes of a
character it still has to pass. -/
structure Thread where
  start : Nat
  pc : Nat
  wait : Nat

/-- The instructions entered at a position, and the threads that wait for bytes there. -/
structure Front where
  /-- For each instruction, the last position where it was entered, plus one. -/
  entered : Array Nat
  threads : Array Thread

/-- Follows the ways from some instructions without taking bytes, preferred ones first. -/
def follow (p : Program) (data : ByteArray) (pos start : Nat) :
    (fuel : Nat) → List Nat → Front → Front
  | 0, _, front => front
  | _, [], front => front
  | fuel + 1, pc :: rest, front =>
    if front.entered.getD pc 0 = pos + 1 then follow p data pos start fuel rest front
    else
      let front := { front with entered := front.entered.setIfInBounds pc (pos + 1) }
      match p.code[pc]? with
      | some (.split targets) => follow p data pos start fuel (targets ++ rest) front
      | some (.look l) =>
        let rest := if l.holds data pos then (pc + 1) :: rest else rest
        follow p data pos start fuel rest front
      | _ =>
        follow p data pos start fuel rest
          { front with threads := front.threads.push ⟨start, pc, 0⟩ }

/-- Lets a thread take the byte at `pos` and follows its ways at the next position. -/
def takeByte (p : Program) (data : ByteArray) (pos : Nat) (t : Thread) (next : Front) : Front :=
  let on (front : Front) := follow p data (pos + 1) t.start p.fuel [t.pc + 1] front
  let waiting (n : Nat) : Front := { next with threads := next.threads.push { t with wait := n } }
  if t.wait > 1 then waiting (t.wait - 1)
  else if t.wait = 1 then on next
  else match p.code[t.pc]? with
    | some (.byte set) =>
      if (byteAt? data pos).any set.contains then on next else next
    | some (.scalar set) =>
      match scalarAt? data pos with
      | some (c, n) =>
        if set.contains c then if n = 1 then on next else waiting (n - 1) else next
      | none => next
    | _ => next

/-- Lets all threads take a byte. A thread that is done gives a match and stops the less preferred
ones. -/
def takeAll (p : Program) (data : ByteArray) (pos : Nat) :
    List Thread → Option Span → Front → Option Span × Front
  | [], best, next => (best, next)
  | t :: rest, best, next =>
    match t.wait, p.code[t.pc]? with
    | 0, some .accept => (some ⟨t.start, pos⟩, next)
    | _, _ => takeAll p data pos rest best (takeByte p data pos t next)

/-- Runs the threads from a position on; `best` is the preferred match so far, after which no
further thread is started. -/
def run (p : Program) (data : ByteArray) :
    (fuel : Nat) → (pos : Nat) → Option Span → Front → Option Span
  | 0, _, best, _ => best
  | fuel + 1, pos, best, front =>
    let front := if best.isNone then follow p data pos pos p.fuel [0] front else front
    if front.threads.isEmpty && best.isSome then best
    else
      let (best, next) := takeAll p data pos front.threads.toList best
        { entered := front.entered, threads := #[] }
      run p data fuel (pos + 1) best next

/-- The leftmost match that starts at a position or later. -/
def Program.find (p : Program) (data : ByteArray) (pos : Nat) : Option Span :=
  run p data (data.size + 1 - pos) pos none { entered := .replicate p.code.size 0, threads := #[] }

/-! ## All matches -/

/-- Matches that do not overlap, from a position on and at most `fuel` many. An empty match right
after another match is passed over. -/
def Program.findFrom (p : Program) (data : ByteArray) :
    (fuel : Nat) → (pos : Nat) → (afterMatch : Bool) → List Span
  | 0, _, _ => []
  | fuel + 1, pos, afterMatch =>
    let found := match p.find data pos with
      | some m => if afterMatch && m.stop = pos then p.find data (pos + 1) else some m
      | none => none
    match found with
    | none => []
    | some m =>
      if m.stop = m.start then m :: p.findFrom data fuel (m.stop + 1) false
      else m :: p.findFrom data fuel m.stop true

/-- All matches that do not overlap; at most one starts at each position. -/
def Program.matches (p : Program) (data : ByteArray) : List Span :=
  p.findFrom data (data.size + 1) 0 false

end RuleScan.Regex
