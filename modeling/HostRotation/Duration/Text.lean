/-
# The text of a duration

A duration is written in the largest of the units s, ms, µs and ns in which
it is at least one, with the exact decimal fraction and no trailing zeros:
`1.5s`, `1.001µs`, `999ns`. No time at all is `0ns`.
-/
import HostRotation.Duration

namespace HostRotation
namespace Duration

/-- The decimal digits of `n`, filled with zeros on the left to `width`. -/
def paddedDigits (width n : Nat) : List Char :=
  let ds := (toString n).toList
  List.replicate (width - ds.length) '0' ++ ds

/-- A fraction of `n` parts in a power of ten, whose exponent is `width`: the
point and its digits without trailing zeros, nothing for `0`. -/
def fractionText (width n : Nat) : String :=
  if n = 0 then ""
  else
    String.ofList ('.' :: ((paddedDigits width n).reverse.dropWhile (· == '0')).reverse)

/-- The text of a duration. -/
def text (d : Duration) : String :=
  if 0 < d.seconds then toString d.seconds ++ fractionText 9 d.nanos ++ "s"
  else if perMilli ≤ d.nanos then
    toString (d.nanos / perMilli) ++ fractionText 6 (d.nanos % perMilli) ++ "ms"
  else if perMicro ≤ d.nanos then
    toString (d.nanos / perMicro) ++ fractionText 3 (d.nanos % perMicro) ++ "µs"
  else toString d.nanos ++ "ns"

end Duration
end HostRotation
