/-!
# Spans of time

A span of time in nanoseconds, and the text in which messages show it: in the largest unit that
gives a whole part of at least one, with as many decimals as are needed.
-/

namespace ScriptProxy

structure Duration where
  nanoseconds : Nat
  deriving DecidableEq, Repr

namespace Duration

def ofMilliseconds (n : Nat) : Duration := ⟨n * 1000000⟩

def ofSeconds (n : Nat) : Duration := ⟨n * 1000000000⟩

/-- The whole milliseconds of the span. -/
def milliseconds (d : Duration) : Nat := d.nanoseconds / 1000000

theorem milliseconds_ofMilliseconds (n : Nat) : (ofMilliseconds n).milliseconds = n := by
  simp [milliseconds, ofMilliseconds]

/-- The decimals of `n` tenths, hundredths, …, `width` of them, without zeros at the end. -/
def decimals (width n : Nat) : List Char :=
  let digits := Nat.toDigits 10 n
  let padded := List.replicate (width - digits.length) '0' ++ digits
  (padded.reverse.dropWhile (· == '0')).reverse

/-- `n` nanoseconds in units of `10 ^ width` each, with their decimals. -/
def inUnit (n width : Nat) (unit : String) : String :=
  let whole := toString (n / Nat.pow 10 width)
  match decimals width (n % Nat.pow 10 width) with
  | [] => whole ++ unit
  | ds => whole ++ "." ++ String.ofList ds ++ unit

def describe (d : Duration) : String :=
  let n := d.nanoseconds
  if 1000000000 ≤ n then inUnit n 9 "s"
  else if 1000000 ≤ n then inUnit n 6 "ms"
  else if 1000 ≤ n then inUnit n 3 "µs"
  else inUnit n 0 "ns"

end Duration

end ScriptProxy
