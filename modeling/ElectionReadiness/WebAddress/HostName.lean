import ElectionReadiness.Text.Split
import ElectionReadiness.Unicode.ComposedForm
import ElectionReadiness.Unicode.Direction
import ElectionReadiness.Unicode.HostMapping
import ElectionReadiness.Unicode.Joining
import ElectionReadiness.Unicode.Mark
import ElectionReadiness.WebAddress.Punycode

/-!
# Host names

A host name is a list of labels separated by points.  Before it is used, its
characters are mapped to those that stand for them, and the whole is brought into
composed form.  A label that starts with `xn--` is read as the characters it
encodes.  Then every label must be free of characters that mean something else in
an address, must not start with a mark, may hold joiners only where letters join,
and must keep to one direction if any label runs from right to left.
-/

set_option autoImplicit false

namespace ElectionReadiness.HostName

open Unicode

/-! ## Mapping -/

/-- What stands for a character in a host name, none if it may not occur. -/
def mapChar? (c : Char) : Option (List Char) :=
  if c.toNat < 0x80 then some [c.toLower]
  else if hostValid.has c then some [c]
  else if hostIgnored.has c then some []
  else
    match hostShifts.findSome? (·.image? c) with
    | some other => some [other]
    | none => CodeReplacement.find? hostReplacements c

/-- The text that stands for a host name. -/
def mapped? (text : List Char) : Option (List Char) :=
  (text.mapM mapChar?).map fun images => composedForm images.flatten

/-! ## Encoded labels -/

/-- Plain ASCII characters that end a host or mean something else in an address. -/
def isForbidden (c : Char) : Bool :=
  c.toNat ≤ 0x20 || c.toNat == 0x7F || "%#/:<>?@[\\]^|".toList.contains c

/-- The characters that an encoded label may stand for. -/
def isDecodedLabel (label : List Char) : Bool :=
  label.any (0x80 ≤ ·.toNat) && label.all (fun c => hostValid.has c && c != '.')
    && composedForm label == label

/-- The longest encoded label that is read. -/
def longestEncoded : Nat := 2000

/-- The longest label that can be encoded. -/
def longestDecoded : Nat := 1000

/-- Reads the characters of a label, which may be encoded. -/
def readLabel? (label : List Char) : Option (List Char) :=
  match label with
  | 'x' :: 'n' :: '-' :: '-' :: encoded =>
    if encoded.getLast? = some '-' || longestEncoded < encoded.length then none
    else (Punycode.decode? encoded).filter isDecodedLabel
  | written =>
    if written.all (·.toNat < 0x80) || written.length ≤ longestDecoded then some written else none

/-! ## Joiners -/

/-- The first character that joins do not pass through is in a set. -/
def joins (set : CodeRanges) (text : List Char) : Bool :=
  match text with
  | [] => false
  | c :: rest => set.has c || (joinThrough.has c && joins set rest)

/-- Combining class of the marks that silence a vowel. -/
def silencerClass : Nat := 9

/-- The joiners after `before`, which is backwards, stand where they may. -/
def joinersFit (before : List Char) : List Char → Bool
  | [] => true
  | c :: after =>
    let follows := before.head?.any fun previous => combiningClass previous == silencerClass
    let fits :=
      if c.toNat = 0x200D then follows
      else if c.toNat = 0x200C then
        follows || (!before.isEmpty && joins joinNext before && joins joinPrevious after)
      else true
    fits && joinersFit (c :: before) after

/-! ## Directions -/

/-- What a character does to the direction of its label. -/
inductive Direction where
  | leftToRight
  | rightToLeft
  | arabicNumber
  | europeanNumber
  /-- Signs without a direction of their own. -/
  | neutral
  /-- Marks, which take the direction of what they stand on. -/
  | nonspacing
  deriving DecidableEq, Repr

/-- The direction of a character. -/
def direction (c : Char) : Direction :=
  if nonspacingMarks.has c then .nonspacing
  else if Unicode.rightToLeft.has c || arabicLetters.has c then .rightToLeft
  else if arabicNumbers.has c then .arabicNumber
  else if europeanNumbers.has c then .europeanNumber
  else if europeanSeparators.has c || commonSeparators.has c || europeanTerminators.has c
      || otherNeutrals.has c || boundaryNeutrals.has c then .neutral
  else .leftToRight

/-- A label with this direction makes its whole host name one of mixed direction. -/
def Direction.isMixing : Direction → Bool
  | .rightToLeft | .arabicNumber => true
  | _ => false

/-- A label of a host name of mixed direction keeps to one direction. -/
def keepsDirection (label : List Char) : Bool :=
  let directions := label.map direction
  let last := (directions.reverse.dropWhile (· == .nonspacing)).head?
  match directions.head? with
  | none => true
  | some .leftToRight =>
    directions.all (fun d => d != .rightToLeft && d != .arabicNumber)
      && (last == some .leftToRight || last == some .europeanNumber)
  | some .rightToLeft =>
    directions.all (· != .leftToRight)
      && (last == some .rightToLeft || last == some .europeanNumber
        || last == some .arabicNumber)
      && !(directions.contains .europeanNumber && directions.contains .arabicNumber)
  | some _ => false

/-! ## The whole name -/

/-- A label may stand in a host name. -/
def isLabel (label : List Char) : Bool :=
  !label.any isForbidden && !(label.head?.any marks.has) && joinersFit [] label

/-- The host name that a text stands for, none if it stands for none.  Encoded
labels stay as they are. -/
def read? (text : List Char) : Option (List Char) :=
  match mapped? text with
  | none => none
  | some name =>
    match (Text.split '.' name).mapM readLabel? with
    | none => none
    | some labels =>
      let isMixed := labels.any fun label => label.any fun c => (direction c).isMixing
      if labels.all isLabel && (!isMixed || labels.all keepsDirection) then some name else none

end ElectionReadiness.HostName
