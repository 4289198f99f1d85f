import RuleScan.Findings.Listing

/-!
# Durations

A time span in whole seconds and nanoseconds. It is shown in the largest unit that gives it a whole
part, with as many decimals as it takes.
-/

namespace RuleScan

/-- A time span. -/
structure Duration where
  secs : UInt64
  nanos : Nat
  nanos_lt : nanos < 1000000000 := by decide
  deriving DecidableEq, Repr

namespace Duration

/-- A span of a number of nanoseconds, its whole seconds modulo `2 ^ 64`. -/
def ofNanos (n : Nat) : Duration :=
  ⟨(n / 1000000000).toUInt64, n % 1000000000, Nat.mod_lt _ (by decide)⟩

/-- A span of a number of milliseconds. -/
def ofMillis (ms : UInt64) : Duration := ofNanos (ms.toNat * 1000000)

/-- The nanoseconds in a span. -/
def toNanos (d : Duration) : Nat := d.secs.toNat * 1000000000 + d.nanos

/-- The whole milliseconds in a span. -/
def wholeMillis (d : Duration) : Nat := d.secs.toNat * 1000 + d.nanos / 1000000

/-- The whole milliseconds in a span as a word, modulo `2 ^ 64`. -/
def toMillis (d : Duration) : UInt64 := d.wholeMillis.toUInt64

/-- Whether a span is empty. -/
def isZero (d : Duration) : Bool := d.secs == 0 && d.nanos == 0

/-- The decimals of `part / 10 ^ places`, after a point if there are any. -/
def decimals (part places : Nat) : String :=
  let digits := Decimal.natDigits part
  let padded := List.replicate (places - digits.length) '0' ++ digits
  match Decimal.dropTrailingZeros padded with
  | [] => ""
  | kept => "." ++ String.ofList kept

/-- How a span is shown. -/
def display (d : Duration) : String :=
  if d.secs ≠ 0 then decimal d.secs.toNat ++ decimals d.nanos 9 ++ "s"
  else if d.nanos ≥ 1000000 then
    decimal (d.nanos / 1000000) ++ decimals (d.nanos % 1000000) 6 ++ "ms"
  else if d.nanos ≥ 1000 then decimal (d.nanos / 1000) ++ decimals (d.nanos % 1000) 3 ++ "µs"
  else decimal d.nanos ++ "ns"

end Duration

end RuleScan
