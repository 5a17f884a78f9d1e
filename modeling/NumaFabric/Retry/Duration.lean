import NumaFabric.Text.Numeral

namespace NumaFabric

open NumaFabric.Text

/-- Nanoseconds. -/
abbrev Duration := Nat

namespace Duration

def second : Duration := 1000000000

def ofMicros (n : Nat) : Duration := n * 1000

def ofMillis (n : Nat) : Duration := n * 1000000

def ofSeconds (n : Nat) : Duration := n * second

/-- The longest duration: seconds are counted in 64 bits. -/
def longest : Duration := UInt64.size * second - 1

def micros (d : Duration) : Nat := d / 1000

def times? (d : Duration) (n : Nat) : Option Duration :=
  if d * n ≤ longest then some (d * n) else none

def decimalPlaces (whole fraction places : Nat) : List Char :=
  let digits := decimal fraction
  let padded := List.replicate (places - digits.length) '0' ++ digits
  let kept := (padded.reverse.dropWhile (· == '0')).reverse
  if fraction = 0 then decimal whole else decimal whole ++ '.' :: kept

/-- In the largest unit that leaves a whole part. -/
def text (d : Duration) : String :=
  if d ≥ second then String.ofList (decimalPlaces (d / second) (d % second) 9) ++ "s"
  else if d ≥ 1000000 then String.ofList (decimalPlaces (d / 1000000) (d % 1000000) 6) ++ "ms"
  else if d ≥ 1000 then String.ofList (decimalPlaces (d / 1000) (d % 1000) 3) ++ "µs"
  else String.ofList (decimal d) ++ "ns"

end Duration

end NumaFabric
