import ElectionReadiness.Text.Hexadecimal
import ElectionReadiness.WebAddress.HostName
import ElectionReadiness.WebAddress.Ipv4
import ElectionReadiness.WebAddress.Ipv6

/-!
# Hosts

The host of a web address is an address in square brackets or a name.  For the
schemes of the web a name is read as a host name, after what is escaped with
percent signs, and one that ends in a number must be an address of four bytes.
Under other schemes a name is any text without the characters that mean something
else in an address.
-/

set_option autoImplicit false

namespace ElectionReadiness.Host

/-- The bytes of a text, with those escaped by a percent sign. -/
def bytes : List Char → List UInt8
  | [] => []
  | c :: rest =>
    match c, rest with
    | '%', high :: low :: later =>
      match Hexadecimal.digitValue? high, Hexadecimal.digitValue? low with
      | some h, some l => UInt8.ofNat (16 * h + l) :: bytes later
      | _, _ => String.utf8EncodeChar '%' ++ bytes (high :: low :: later)
    | c, rest => String.utf8EncodeChar c ++ bytes rest

/-- The text after its escapes, none if its bytes are no text. -/
def unescape? (text : List Char) : Option (List Char) :=
  (String.fromUTF8? ⟨(bytes text).toArray⟩).map String.toList

/-- An address in square brackets. -/
def isBracketed (text : List Char) : Bool :=
  text.getLast? == some ']' && Ipv6.isAddress (text.drop 1).dropLast

/-- A host under a scheme of the web. -/
def isWebHost (text : List Char) : Bool :=
  if text.head? = some '[' then isBracketed text
  else
    match (unescape? text).bind HostName.read? with
    | none => false
    | some name =>
      !name.isEmpty && (!Ipv4.endsInNumber name || Ipv4.isAddress name)

/-- Characters that no host holds. -/
def isForbidden (c : Char) : Bool :=
  c.toNat == 0 || " \t\n\r#/:<>?@[\\]^|".toList.contains c

/-- A host under another scheme. -/
def isPlainHost (text : List Char) : Bool :=
  if text.head? = some '[' then isBracketed text else !text.any isForbidden

end ElectionReadiness.Host
