import InfoModel.Uri.Basic
import InfoModel.Uri.Percent

/-!
# Paths

A path is built segment by segment onto a buffer. A single-dot segment adds nothing, a double-dot
segment takes the segment before it away, and every other segment is percent-encoded and appended.
Paths of the `file` scheme keep a drive letter at their front and have exactly one leading slash.
-/

namespace InfoModel.Uri
open InfoModel.Text InfoModel.Unicode

def isSegmentEnd (c : Char) : Bool := c = '/' || c = '\\' || c = '?' || c = '#'

/-- Whether the text starts with a letter and a colon or bar, standing as a segment. -/
def startsWithDrive (cs : List Char) : Bool :=
  match cs with
  | a :: b :: rest =>
    isAsciiLetter a && (b = ':' || b = '|') &&
      (match rest with | [] => true | c :: _ => isSegmentEnd c)
  | _ => false

def isDrive (cs : List Char) : Bool := cs.length == 2 && startsWithDrive cs

def isNormalDrive (cs : List Char) : Bool := isDrive cs && cs.getLast? == some ':'

def throughLastSlash (path : List Char) : List Char :=
  (path.reverse.dropWhile (· ≠ '/')).reverse

/-- The path without its last segment; a drive letter stays. -/
def popSegment (kind : SchemeKind) (path : List Char) : List Char :=
  let kept := throughLastSlash path
  if kind = .file && isNormalDrive (path.drop kept.length) then path else kept

def endsInSlash (path : List Char) : Bool := path.getLast? == some '/'

/-- Whether the last slash of a path may go: there is one before it that no drive letter
follows. -/
def lastSlashCanGo (path : List Char) : Bool :=
  let root := throughLastSlash path.dropLast
  !root.isEmpty && !startsWithDrive (path.drop root.length)

def isSingleDot (segment : List Char) : Bool :=
  [".", "%2e"].contains (String.ofList (segment.map asciiLower))

def isDoubleDot (segment : List Char) : Bool :=
  ["..", "%2e%2e", "%2e.", ".%2e"].contains (String.ofList (segment.map asciiLower))

/-- A path under construction: the buffer, the place in it where the open segment starts, and
whether the identifier still has its host. -/
structure PathState where
  buffer : List Char
  start : Nat
  hasHost : Bool

def closeSegment (kind : SchemeKind) (slash : Bool) (s : PathState) : PathState :=
  let segment := if slash then (s.buffer.drop s.start).dropLast else s.buffer.drop s.start
  if isDoubleDot segment then
    let base := s.buffer.take s.start
    let base := if endsInSlash base && lastSlashCanGo base then base.dropLast else base
    let base := popSegment kind base
    { s with buffer := if slash && !endsInSlash base then base ++ ['/'] else base }
  else if isSingleDot segment then
    let base := s.buffer.take s.start
    { s with buffer := if endsInSlash base then base else base ++ ['/'] }
  else if kind = .file && s.start = 1 && isDrive segment then
    let drive := segment.take 1 ++ [':'] ++ (if slash then ['/'] else [])
    { s with buffer := s.buffer.take 1 ++ drive, hasHost := false }
  else s

def appendChar (kind : SchemeKind) (c : Char) (s : PathState) : PathState :=
  let s := if kind = .file && isNormalDrive (s.buffer.drop 1) then
      { s with buffer := s.buffer ++ ['/'], start := s.start + 1 } else s
  { s with buffer := s.buffer ++ encodeChar pathEscapes c }

def readSegments (kind : SchemeKind) (s : PathState) : List Char → PathState × List Char
  | [] => (closeSegment kind false s, [])
  | c :: cs =>
    if c = '/' || (c = '\\' && kind.isSpecial) then
      let s := closeSegment kind true { s with buffer := s.buffer ++ ['/'] }
      readSegments kind { s with start := s.buffer.length } cs
    else if c = '?' || c = '#' then (closeSegment kind false s, c :: cs)
    else readSegments kind (appendChar kind c s) cs

/-- Reads a path onto `buffer`; gives the path, whether the host stays, and the rest. -/
def readPath (kind : SchemeKind) (buffer : List Char) (hasHost : Bool) (cs : List Char) :
    List Char × Bool × List Char :=
  let (s, rest) := readSegments kind ⟨buffer, buffer.length, hasHost⟩ cs
  let path := if kind = .file then '/' :: s.buffer.dropWhile (· = '/') else s.buffer
  (path, s.hasHost, rest)

def readPathStart (kind : SchemeKind) (hasHost : Bool) (cs : List Char) :
    List Char × Bool × List Char :=
  match cs with
  | c :: rest =>
    if c = '/' || (c = '\\' && kind.isSpecial) then readPath kind ['/'] hasHost rest
    else if kind.isSpecial || !(c = '?' || c = '#') then readPath kind ['/'] hasHost cs
    else ([], hasHost, cs)
  | [] => if kind.isSpecial then readPath kind ['/'] hasHost [] else ([], hasHost, [])

end InfoModel.Uri
