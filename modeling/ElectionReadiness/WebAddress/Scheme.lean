import ElectionReadiness.Text.Decimal
import ElectionReadiness.WebAddress.Host

/-!
# The scheme of a web address

A web address starts with its scheme and a colon.  What follows depends on the
scheme: the schemes of the web always have a host, files may have one, and other
schemes have one after two slashes.  A host may follow a user and come before a
port.  Paths, queries and fragments never make an address wrong, so
`WebAddress.scheme?` reads no further than the host and the port.
-/

set_option autoImplicit false

namespace ElectionReadiness.WebAddress

/-! ## The text of an address -/

/-- Controls and blanks around an address do not count. -/
def isPadding (c : Char) : Bool := c.toNat ≤ 0x20

/-- Tabs and line ends anywhere in an address do not count. -/
def isIgnored (c : Char) : Bool := c == '\t' || c == '\n' || c == '\r'

/-- The characters of an address that count. -/
def relevant (text : List Char) : List Char :=
  ((text.dropWhile isPadding).reverse.dropWhile isPadding).reverse.filter (!isIgnored ·)

/-- Letters, digits and three signs may occur in a scheme. -/
def isSchemeChar (c : Char) : Bool :=
  c.isAlphanum || c == '+' || c == '-' || c == '.'

/-- Splits an address after the colon of its scheme, which is put in small letters. -/
def splitScheme? (text : List Char) : Option (List Char × List Char) :=
  match text.span isSchemeChar with
  | (c :: name, ':' :: rest) =>
    if c.isAlpha then some ((c :: name).map Char.toLower, rest) else none
  | _ => none

/-! ## Kinds of schemes -/

/-- What a scheme asks of the rest of an address. -/
inductive SchemeKind where
  /-- A host must follow, after any number of slashes. -/
  | web
  | file
  /-- A host follows only after two slashes. -/
  | other
  deriving DecidableEq, Repr

/-- The kind of a scheme in small letters. -/
def SchemeKind.of (scheme : String) : SchemeKind :=
  if ["http", "https", "ws", "wss", "ftp"].contains scheme then .web
  else if scheme == "file" then .file
  else .other

/-! ## User, host and port -/

/-- Ends the part of an address with user, host and port; for the schemes of the
web and files a backslash does too. -/
def endsAuthority (withBackslash : Bool) (c : Char) : Bool :=
  c == '/' || c == '?' || c == '#' || (withBackslash && c == '\\')

/-- Splits at the last `@`, if there is one. -/
def splitUser (authority : List Char) : Option (List Char) × List Char :=
  match authority.reverse.span (· != '@') with
  | (host, _ :: user) => (some user.reverse, host.reverse)
  | (host, []) => (none, host.reverse)

/-- Splits before the first colon outside square brackets. -/
def splitPort (inBrackets : Bool) : List Char → List Char × List Char
  | [] => ([], [])
  | c :: rest =>
    if c = ':' && !inBrackets then ([], c :: rest)
    else
      let inside := if c = '[' then true else if c = ']' then false else inBrackets
      let (host, port) := splitPort inside rest
      (c :: host, port)

/-- The highest port. -/
def highestPort : Nat := 65535

/-- Nothing, or a colon and a port, which may be left out.  A backslash ends it. -/
def isPort : List Char → Bool
  | [] => true
  | _ :: rest =>
    let digits := rest.takeWhile (· != '\\')
    digits.all Decimal.isDigit && Decimal.value digits ≤ highestPort

/-- A user with a name or a password. -/
def namesUser (user : Option (List Char)) : Bool :=
  match user with
  | none | some [] | some [':'] => false
  | some _ => true

/-- What follows two slashes under a scheme of the web. -/
def isWebAuthority (text : List Char) : Bool :=
  let (_, rest) := splitUser (text.takeWhile (!endsAuthority true ·))
  let (host, port) := splitPort false rest
  !host.isEmpty && Host.isWebHost host && isPort port

/-- What follows two slashes under another scheme.  Only there may the host be
missing, and then there is no user and no port either. -/
def isPlainAuthority (text : List Char) : Bool :=
  let authority := text.takeWhile (!endsAuthority false ·)
  let (user, rest) := splitUser authority
  let (host, port) := splitPort false rest
  if host.isEmpty then
    let endsText := authority.length == text.length
    port.isEmpty && !namesUser user && (user != some [] || endsText)
  else Host.isPlainHost host && isPort port

/-! ## Whole addresses -/

/-- A letter and a colon or a bar, as some file systems start. -/
def isDrive : List Char → Bool
  | [letter, mark] => letter.isAlpha && (mark == ':' || mark == '|')
  | _ => false

/-- Either kind of slash. -/
def isSlash (c : Char) : Bool := c == '/' || c == '\\'

/-- What follows the scheme of files. -/
def isFileRest : List Char → Bool
  | first :: second :: rest =>
    if isSlash first && isSlash second then
      let host := rest.takeWhile (!endsAuthority true ·)
      host.isEmpty || isDrive host || Host.isWebHost host
    else true
  | _ => true

/-- What follows a scheme of some kind. -/
def isRest (kind : SchemeKind) (rest : List Char) : Bool :=
  match kind with
  | .web => isWebAuthority (rest.dropWhile isSlash)
  | .file => isFileRest rest
  | .other =>
    match rest with
    | '/' :: '/' :: authority => isPlainAuthority authority
    | _ => true

/-- The scheme of a web address, none if the text is no web address. -/
def scheme? (text : String) : Option String :=
  match splitScheme? (relevant text.toList) with
  | none => none
  | some (name, rest) =>
    let scheme := String.ofList name
    if isRest (SchemeKind.of scheme) rest then some scheme else none

end ElectionReadiness.WebAddress
