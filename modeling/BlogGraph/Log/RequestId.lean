import BlogGraph.Decimal.Binary64
import BlogGraph.Encoding.Base64

/-!
# Request identifiers

A request is known by the microsecond of its arrival, in eight bytes with the highest first,
and up to two random bytes, written in base 64 without padding.

This is `generate_request_id`.
-/

namespace BlogGraph.RequestId

open Encoding

/-- Seconds since the epoch: an exact whole number or a floating point number. -/
inductive Clock where
  | whole (seconds : Int)
  | float (seconds : Binary64)
deriving DecidableEq, Repr

/-- Why no identifier can be made. -/
inductive Fault where
  | negativeTime
  | timeTooLarge
  | infiniteTime
  | timeNotANumber
deriving DecidableEq, Repr

/-- The wording of a fault. -/
def Fault.message : Fault → String
  | negativeTime => "can't convert negative int to unsigned"
  | timeTooLarge => "int too big to convert"
  | infiniteTime => "cannot convert float infinity to integer"
  | timeNotANumber => "cannot convert float NaN to integer"

/-- The microsecond that a clock shows, toward zero. A product with a floating point number is
rounded as such. -/
def Clock.microseconds : Clock → Except Fault Int
  | whole s => .ok (s * 1000000)
  | float x =>
    let product := x.mul (Binary64.ofInt 1000000)
    match product.decode with
    | .finite p => .ok p.truncate
    | .infinite _ => .error .infiniteTime
    | .notANumber => .error .timeNotANumber

/-- The lowest `count` bytes of a number, highest first. -/
def bytesOf : Nat → Nat → List Byte
  | 0, _ => []
  | count + 1, n => bytesOf count (n / 256) ++ [UInt8.ofNat n]

/-- The first number that eight bytes cannot hold. -/
def timeBound : Int := 0x10000000000000000

/-- The identifier of a microsecond and random bytes. -/
def ofMicroseconds (time : Int) (random : List Byte) : Except Fault String :=
  if time < 0 then .error .negativeTime
  else if time ≥ timeBound then .error .timeTooLarge
  else .ok (String.ofList (Base64.encode (bytesOf 8 time.natAbs ++ random)))

/-- The identifier of a request that arrives at this time, with up to two random bytes. -/
def make (clock : Clock) (random : List Byte) : Except Fault String :=
  match clock.microseconds with
  | .ok time => ofMicroseconds time (random.take 2)
  | .error e => .error e

end BlogGraph.RequestId
