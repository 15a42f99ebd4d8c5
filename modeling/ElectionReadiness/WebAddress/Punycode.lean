/-!
# Punycode

A label of a host name in other letters than ASCII is kept as its ASCII letters
followed by numbers that say which characters to put where.  The numbers are
written with digits of varying weight, whose thresholds follow a bias that adapts
to the numbers already read.  `decode?` reads such a label.
-/

set_option autoImplicit false

namespace ElectionReadiness.Punycode

/-- The value of a digit: letters first, then digits. -/
def digitValue? (c : Char) : Option Nat :=
  if 'a' ≤ c && c ≤ 'z' then some (c.toNat - 97)
  else if 'A' ≤ c && c ≤ 'Z' then some (c.toNat - 65)
  else if '0' ≤ c && c ≤ '9' then some (c.toNat - 22)
  else none

/-- A digit below the threshold ends a number. -/
def threshold (position bias : Nat) : Nat :=
  if position ≤ bias then 1 else if bias + 26 ≤ position then 26 else position - bias

/-- Divides a distance down, adding to the bias each time. -/
def adaptFrom (bias distance : Nat) : Nat :=
  if 455 < distance then adaptFrom (bias + 36) (distance / 35)
  else bias + 36 * distance / (distance + 38)
termination_by distance
decreasing_by exact Nat.div_lt_self (by omega) (by decide)

/-- The bias after a number was read. -/
def adapt (distance count : Nat) (isFirst : Bool) : Nat :=
  let damped := if isFirst then distance / 700 else distance / 2
  adaptFrom 0 (damped + damped / count)

/-- The characters read so far, and how far the next number has been read. -/
structure Decoding where
  /-- The characters read so far. -/
  output : List Char
  /-- The code point of the next character to insert, before its number is added. -/
  code : Nat
  /-- The place of the next insertion, before its number is added. -/
  place : Nat
  bias : Nat
  /-- The place and what was read of the number. -/
  sum : Nat
  /-- The weight of the next digit. -/
  weight : Nat
  /-- The position of the next digit. -/
  position : Nat

/-- All numbers fit in 32 bits. -/
def limit : Nat := 4294967296

/-- Inserts the character that a whole number asks for. -/
def Decoding.insert? (state : Decoding) (sum : Nat) : Option Decoding :=
  let count := state.output.length + 1
  let code := state.code + sum / count
  let place := sum % count
  if code.isValidChar then
    some { output := state.output.insertIdx place (Char.ofNat code), code, place := place + 1,
           bias := adapt (sum - state.place) count (state.place == 0 && state.code == 128),
           sum := place + 1, weight := 1, position := 36 }
  else none

/-- Reads digits to the end. -/
def decodeFrom (state : Decoding) : List Char → Option (List Char)
  | [] => if state.position = 36 then some state.output else none
  | c :: rest =>
    match digitValue? c with
    | none => none
    | some digit =>
      let sum := state.sum + digit * state.weight
      let edge := threshold state.position state.bias
      let weight := state.weight * (36 - edge)
      if limit ≤ sum then none
      else if digit < edge then
        match state.insert? sum with
        | none => none
        | some next => decodeFrom next rest
      else if limit ≤ weight then none
      else decodeFrom { state with sum, weight, position := state.position + 36 } rest

/-- Splits at the last hyphen; without one, nothing comes before. -/
def splitLastHyphen (text : List Char) : List Char × List Char :=
  match text.reverse.span (· != '-') with
  | (tail, _ :: head) => (head.reverse, tail.reverse)
  | (tail, []) => ([], tail.reverse)

/-- Reads a label, without the mark that starts it. -/
def decode? (text : List Char) : Option (List Char) :=
  let (plain, numbers) := splitLastHyphen text
  if plain.all (·.toNat < 0x80) then
    decodeFrom ⟨plain, 128, 0, 72, 0, 1, 36⟩ numbers
  else none

end ElectionReadiness.Punycode
