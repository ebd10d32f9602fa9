import InfoModel.Uri.Host
import InfoModel.Uri.Path

/-!
# Reading identifiers

An identifier is read on its own, or as a reference relative to a base. Blanks and controls around
the text and tabs and line ends within it are dropped first. What follows the scheme depends on its
kind: special schemes always have a host, the `file` scheme may go without one, and any other scheme
has an authority only after two slashes.
-/

namespace InfoModel.Uri
open InfoModel.Text InfoModel.Unicode

def withTail (u : Uri) (cs : List Char) : Uri :=
  let kind := SchemeKind.of u.scheme
  let escapes := if kind.isSpecial then specialQueryEscapes else queryEscapes
  let fragmentOf (cs : List Char) : String := String.ofList (encode fragmentEscapes cs)
  match cs with
  | '?' :: rest =>
    match cutFirst '#' rest with
    | some (q, f) =>
      { u with query := some (String.ofList (encode escapes q)), fragment := some (fragmentOf f) }
    | none => { u with query := some (String.ofList (encode escapes rest)), fragment := none }
  | '#' :: rest => { u with query := none, fragment := some (fragmentOf rest) }
  | _ => { u with query := none, fragment := none }

def fragmentOnly (base : Uri) (cs : List Char) : Uri :=
  { base with fragment := some (String.ofList (encode fragmentEscapes (cs.drop 1))) }

def isAuthorityEnd (kind : SchemeKind) (c : Char) : Bool :=
  c = '/' || c = '?' || c = '#' || (c = '\\' && kind.isSpecial)

/-- Divides the text at the last at-sign of its authority, if there is one. -/
def splitUserinfo (kind : SchemeKind) (cs : List Char) : Option (List Char × List Char) :=
  let authority := cs.takeWhile fun c => !isAuthorityEnd kind c
  match cutFirst '@' authority.reverse with
  | none => none
  | some (afterwards, before) =>
    some (before.reverse, afterwards.reverse ++ cs.drop authority.length)

/-- The written form of user information: none where both name and password are empty. -/
def userinfoText (cs : List Char) : Option String :=
  let enc (cs : List Char) : String := String.ofList (encode userinfoEscapes cs)
  match cutFirst ':' cs with
  | some (name, []) => if name.isEmpty then none else some (enc name)
  | some (name, password) => some (enc name ++ ":" ++ enc password)
  | none => if cs.isEmpty then none else some (enc cs)

/-- Reads a port after its colon; the port that the scheme implies is left out. -/
def readPort (scheme : String) (cs : List Char) : Option (Option Nat × List Char) :=
  let ds := cs.takeWhile isAsciiDigit
  let rest := cs.dropWhile isAsciiDigit
  if 65535 < digitsValue ds then none
  else if (rest.head?.map isSegmentEnd).getD true = false then none
  else if ds.isEmpty || some (digitsValue ds) = defaultPort scheme then some (none, rest)
  else some (some (digitsValue ds), rest)

/-- Reads host and port; the host may be empty only without a port and for a scheme that is not
special. -/
def readHostAndPort (scheme : String) (cs : List Char) :
    Option (String × Option Nat × List Char) :=
  let kind := SchemeKind.of scheme
  let (hostChars, rest) := splitHost kind false cs
  if kind.isSpecial && hostChars.isEmpty then none
  else match (if kind.isSpecial then readHost hostChars else readOpaqueHost hostChars) with
    | none => none
    | some host =>
      match rest with
      | ':' :: rest =>
        if host.isEmpty then none
        else (readPort scheme rest).map fun (port, rest) => (host, port, rest)
      | rest => some (host, none, rest)

def readAuthority (scheme : String) (cs : List Char) : Option Uri :=
  let kind := SchemeKind.of scheme
  let (userinfo, rest, bad) := match splitUserinfo kind cs with
    | none => (none, cs, false)
    | some (user, rest) =>
      (userinfoText user, rest, user.isEmpty && (rest.head?.map (isAuthorityEnd kind)).getD false)
  if bad then none
  else match readHostAndPort scheme rest with
    | none => none
    | some (host, port, rest) =>
      if host.isEmpty && userinfo.isSome then none
      else
        let (path, _, rest) := readPathStart kind true rest
        some (withTail ⟨scheme, some ⟨userinfo, host, port⟩, path, none, none⟩ rest)

def slashes (cs : List Char) : Nat × List Char :=
  let isSlash (c : Char) : Bool := c = '/' || c = '\\'
  ((cs.takeWhile isSlash).length, cs.dropWhile isSlash)

def readRelative (base : Uri) (cs : List Char) : Option Uri :=
  let kind := SchemeKind.of base.scheme
  match cs with
  | [] => some base.withoutFragment
  | '#' :: _ => some (fragmentOnly base cs)
  | '?' :: _ => some (withTail base cs)
  | c :: rest =>
    if c = '/' || c = '\\' then
      let (count, remaining) := slashes cs
      if 2 ≤ count then
        readAuthority base.scheme ((afterPrefix? ['/', '/'] cs).getD remaining)
      else
        let (path, _, rest) := readPath kind ['/'] true rest
        some (withTail { base with path := path } rest)
    else
      let popped := popSegment kind base.path
      let buffer := if popped.isEmpty then ['/'] else popped
      let (path, _, rest) := readPath kind buffer true cs
      some (withTail { base with path := path } rest)

def fileUri (host : String) (path : List Char) : Uri :=
  ⟨"file", some ⟨none, host, none⟩, path, none, none⟩

def readFileHost (cs : List Char) : Option Uri :=
  let hostChars := cs.takeWhile fun c => !isSegmentEnd c
  if isDrive hostChars then
    let (path, _, rest) := readPath .file ['/'] false cs
    some (withTail (fileUri "" path) rest)
  else
    match (if hostChars.isEmpty then some "" else readHost hostChars) with
    | none => none
    | some named =>
      let host := if named = "localhost" then "" else named
      let (path, hasHost, rest) :=
        readPathStart .file (!host.isEmpty) (cs.drop hostChars.length)
      some (withTail (fileUri (if hasHost then host else "") path) rest)

def firstSegment (path : List Char) : List Char := (path.drop 1).takeWhile (· ≠ '/')

def hostOf (u : Uri) : String := (u.authority.map Authority.host).getD ""

/-- Reads the part of a `file` identifier after one slash, of which `cs` starts with the slash. -/
def readFileRooted (base : Option Uri) (cs : List Char) : Option Uri :=
  let (host, buffer) :=
    match base with
    | some b =>
      if startsWithDrive (cs.drop 1) then ("", [])
      else if isNormalDrive (firstSegment b.path) then ("", '/' :: firstSegment b.path)
      else (hostOf b, [])
    | none => ("", [])
  let (path, _, rest) := readPath .file buffer false cs
  some (withTail (fileUri host path) rest)

/-- Reads a `file` identifier after its scheme, relative to a base `file` if there is one. -/
def readFile (base : Option Uri) (cs : List Char) : Option Uri :=
  match slashes (cs.take 2) with
  | (2, _) => readFileHost (cs.drop 2)
  | (0, _) =>
    match base with
    | none =>
      let (path, _, rest) := readPath .file ['/'] false cs
      some (withTail (fileUri "" path) rest)
    | some b =>
      match cs with
      | [] => some b.withoutFragment
      | '?' :: _ => some (withTail b cs)
      | '#' :: _ => some (fragmentOnly b cs)
      | _ =>
        if startsWithDrive cs then
          let (path, _, rest) := readPath .file ['/'] false cs
          some (withTail (fileUri "" path) rest)
        else
          let (path, _, rest) := readPath .file (popSegment .file b.path) true cs
          some (withTail { b with path := path } rest)
  | _ => readFileRooted base cs

def isSchemePart (c : Char) : Bool :=
  isAsciiLetter c || isAsciiDigit c || c = '+' || c = '-' || c = '.'

def readScheme (cs : List Char) : Option (String × List Char) :=
  match cs with
  | [] => none
  | c :: _ =>
    if isAsciiLetter c then
      match cs.dropWhile isSchemePart with
      | ':' :: rest => some (String.ofList ((cs.takeWhile isSchemePart).map asciiLower), rest)
      | _ => none
    else none

def readOther (scheme : String) (cs : List Char) : Option Uri :=
  match afterPrefix? ['/', '/'] cs with
  | some rest => readAuthority scheme rest
  | none =>
    match cs with
    | '/' :: rest =>
      let (path, _, rest) := readPath .other ['/'] false rest
      some (withTail ⟨scheme, none, path, none, none⟩ rest)
    | _ =>
      let path := cs.takeWhile fun c => !(c = '?' || c = '#')
      some (withTail ⟨scheme, none, encode [] path, none, none⟩ (cs.drop path.length))

/-- The text without blanks and controls at its ends and without tabs and line ends within. -/
def cleaned (cs : List Char) : List Char :=
  let outer (c : Char) : Bool := c.toNat ≤ 32
  let inner := ((cs.dropWhile outer).reverse.dropWhile outer).reverse
  inner.filter fun c => !(c = '\t' || c = '\n' || c = '\x0d')

def read (base : Option Uri) (cs : List Char) : Option Uri :=
  match readScheme cs with
  | some (scheme, rest) =>
    match SchemeKind.of scheme with
    | .file => readFile (base.filter fun b => b.scheme = "file") rest
    | .special =>
      let (count, remaining) := slashes rest
      match base with
      | some b =>
        if count < 2 && b.scheme = scheme then readRelative b rest
        else readAuthority scheme remaining
      | none => readAuthority scheme remaining
    | .other => readOther scheme rest
  | none =>
    match base with
    | none => none
    | some b =>
      if cs.head? = some '#' then some (fragmentOnly b cs)
      else if b.isOpaque then none
      else if b.scheme = "file" then readFile (some b) cs
      else readRelative b cs

def parse (text : String) : Option Uri := read none (cleaned text.toList)

def join (base : Uri) (reference : String) : Option Uri :=
  read (some base) (cleaned reference.toList)

end InfoModel.Uri
