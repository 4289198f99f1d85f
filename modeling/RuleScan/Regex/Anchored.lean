import RuleScan.Regex.Search

/-!
# Matches that start at a given place

All ways to run a program from one position, without preference: the shortest or the longest match
that starts there.
-/

namespace RuleScan.Regex

/-- Whether a thread is done. -/
def Thread.isDone (p : Program) (t : Thread) : Bool :=
  t.wait == 0 && (p.code[t.pc]?.any fun i => i matches .accept)

/-- Runs threads from a position on; the end of a match is kept if a longer one is wanted. -/
def runAll (p : Program) (data : ByteArray) (longest : Bool) :
    (fuel : Nat) → (pos : Nat) → Option Nat → Front → Option Nat
  | 0, _, best, _ => best
  | fuel + 1, pos, best, front =>
    if front.threads.isEmpty then best
    else if front.threads.any (Thread.isDone p) && !longest then some pos
    else
      let best := if front.threads.any (Thread.isDone p) then some pos else best
      let next := front.threads.foldl (fun next t => takeByte p data pos t next)
        { entered := front.entered, threads := #[] }
      runAll p data longest fuel (pos + 1) best next

/-- The end of the shortest or the longest match that starts at a position. -/
def Program.stopFrom (p : Program) (data : ByteArray) (longest : Bool) (start : Nat) : Option Nat :=
  let front := follow p data start start p.fuel [0]
    { entered := .replicate p.code.size 0, threads := #[] }
  runAll p data longest (data.size + 1 - start) start none front

end RuleScan.Regex
