import ElectionReadiness.Text.Hexadecimal
import ElectionReadiness.Text.Split

/-!
# Addresses of four bytes

A host whose last part is a number is an address of four bytes, or no host at all.
Up to four numbers are separated by points, each decimal, octal after a zero or
hexadecimal after `0x`; every number but the last is one byte, and the last fills
the bytes that are left.
-/

set_option autoImplicit false

namespace ElectionReadiness.Ipv4

/-- Reads digits in a base, none if one of them is no digit there. -/
def valueIn? (base : Nat) (text : List Char) : Option Nat :=
  text.foldl (fun total? c =>
    match total?, Hexadecimal.digitValue? c with
    | some total, some digit => if digit < base then some (base * total + digit) else none
    | _, _ => none) (some 0)

/-- The value of one number of an address. -/
def number? : List Char → Option Nat
  | [] => none
  | '0' :: 'x' :: digits => valueIn? 16 digits
  | '0' :: 'X' :: digits => valueIn? 16 digits
  | ['0'] => some 0
  | '0' :: digits => valueIn? 8 digits
  | digits => valueIn? 10 digits

/-- The parts of a host, without the empty part after a final point. -/
def parts (host : List Char) : List (List Char) :=
  let all := Text.split '.' host
  if all.getLast? = some [] then all.dropLast else all

/-- The last part of a host is a number. -/
def endsInNumber (host : List Char) : Bool :=
  match (parts host).getLast? with
  | none => false
  | some last =>
    (!last.isEmpty && last.all fun c => '0' ≤ c && c ≤ '9') || (number? last).isSome

/-- Numbers that fit in the bytes of an address. -/
def fits (numbers : List Nat) : Bool :=
  match numbers.getLast? with
  | none => false
  | some last =>
    numbers.length ≤ 4 && numbers.dropLast.all (· ≤ 255) && last < Nat.pow 256 (5 - numbers.length)

/-- An address of four bytes. -/
def isAddress (host : List Char) : Bool :=
  match (parts host).mapM number? with
  | none => false
  | some numbers => fits numbers

end ElectionReadiness.Ipv4
