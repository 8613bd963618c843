/-
Spans of time as messages name them: in seconds with up to three places
when they reach a second, else in milliseconds, and zero in nanoseconds.
-/
import SerialEndpoint.Number.Decimal

namespace SerialEndpoint

/-- A span of time in whole milliseconds. -/
structure Duration where
  milliseconds : Nat
deriving DecidableEq

namespace Duration

/-- The places after the point of a count of thousandths, without the
zeros at the end. -/
def places (thousandths : Nat) : List Char :=
  let digits := pointBefore 3 (Nat.toDigits 10 thousandths)
  ((digits.drop 1).reverse.dropWhile fun c => c == '0' || c == '.').reverse

/-- The text of a span of time, such as `0ns`, `50ms`, `1s` or `61.001s`. -/
def text (d : Duration) : String :=
  if d.milliseconds = 0 then "0ns"
  else if d.milliseconds < 1000 then s!"{d.milliseconds}ms"
  else
    let whole := toString (d.milliseconds / 1000)
    whole ++ String.ofList (places (d.milliseconds % 1000)) ++ "s"

end Duration

end SerialEndpoint
