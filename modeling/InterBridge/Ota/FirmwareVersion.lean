import InterBridge.Foundations.Json

namespace InterBridge
open Foundations
set_option autoImplicit true

/-- The parts that `std::getline` reads between the delimiters: after the last one there is none
if nothing is left. -/
def delimitedParts (delimiter : UInt8) : Bytes → Bytes → List Bytes
  | part, [] => if part = [] then [] else [part]
  | part, b :: rest =>
    if b = delimiter then part :: delimitedParts delimiter [] rest
    else delimitedParts delimiter (part ++ [b]) rest

namespace FirmwareVersion

def isSpace (b : UInt8) : Bool := b = 32 || (9 ≤ b && b ≤ 13)

def isDigit (b : UInt8) : Bool := 48 ≤ b && b ≤ 57

def decimalValue (digits : Bytes) : Nat :=
  digits.foldl (fun value digit => 10 * value + (digit.toNat - 48)) 0

/-- The sign, and what follows it. -/
def signed : Bytes → Bool × Bytes
  | 43 :: rest => (false, rest)
  | 45 :: rest => (true, rest)
  | rest => (false, rest)

/-- `std::stoi`: what follows the digits is ignored, and `none` is an exception. -/
def stoi (part : Bytes) : Option Int :=
  let (negative, rest) := signed (part.dropWhile isSpace)
  let digits := rest.takeWhile isDigit
  let value : Int := if negative then -decimalValue digits else decimalValue digits
  if digits = [] then none
  else if -2 ^ 31 ≤ value ∧ value < 2 ^ 31 then some value
  else none

def parseVersionComponents (version : Bytes) : List Int :=
  (delimitedParts 46 [] version).map fun part => (stoi part).getD 0

/-- The loop over the components from some place on, with missing ones zero. -/
def newerComponents : Nat → List Int → List Int → Bool
  | 0, _, _ => false
  | n + 1, va, vb =>
    let ca := va.headD 0
    let cb := vb.headD 0
    if ca ≠ cb then cb < ca else newerComponents n va.tail vb.tail

end FirmwareVersion

def isNewerVersion (a b : Bytes) : Bool :=
  let va := FirmwareVersion.parseVersionComponents a
  let vb := FirmwareVersion.parseVersionComponents b
  FirmwareVersion.newerComponents (max va.length vb.length) va vb

end InterBridge
