import InfoModel.Pattern.CharClass
import InfoModel.Text.Digits

/-!
# Reading patterns

A pattern is read character by character into a tree. Flags change how the characters after them are
read, up to the end of their group. Every function that may read a nested part takes the number of
parts it may still enter, which the length of the pattern bounds; a pattern whose tree is nested
more than 250 levels deep is refused.
-/

namespace InfoModel.Pattern
open InfoModel.Text InfoModel.Unicode

/-! ### Flags -/

structure Flags where
  ignoreCase : Bool := false
  multiLine : Bool := false
  dotAll : Bool := false
  swapGreed : Bool := false
  unicode : Bool := true
  crlf : Bool := false
  ignoreSpace : Bool := false
deriving Repr, DecidableEq

def Flags.set? (f : Flags) (c : Char) (on : Bool) : Option Flags :=
  match c with
  | 'i' => some { f with ignoreCase := on }
  | 'm' => some { f with multiLine := on }
  | 's' => some { f with dotAll := on }
  | 'U' => some { f with swapGreed := on }
  | 'u' => some { f with unicode := on }
  | 'R' => some { f with crlf := on }
  | 'x' => some { f with ignoreSpace := on }
  | _ => none

/-- Flags as written, up to the colon or parenthesis after them. -/
structure FlagText where
  flags : Flags
  isEmpty : Bool
  opensGroup : Bool
  rest : List Char

/-- Reads flags: letters that are set, and after a hyphen letters that are cleared, none twice. -/
def readFlags (f : Flags) (seen : List Char) : List Char → Option FlagText
  | [] => none
  | ':' :: rest => if seen.head? = some '-' then none else some ⟨f, seen.isEmpty, true, rest⟩
  | ')' :: rest => if seen.head? = some '-' then none else some ⟨f, seen.isEmpty, false, rest⟩
  | c :: rest =>
    if seen.contains c then none
    else if c = '-' then readFlags f (c :: seen) rest
    else (f.set? c (!seen.contains '-')).bind fun f => readFlags f (c :: seen) rest

/-! ### Gaps -/

/-- The text after white space and comments; a comment reaches to the end of its line. -/
def afterGap : (inComment : Bool) → List Char → List Char
  | _, [] => []
  | true, c :: rest => if c = '\n' then afterGap false rest else afterGap true rest
  | false, c :: rest =>
    if isBlank c then afterGap false rest
    else if c = '#' then afterGap true rest
    else c :: rest

/-- The text after white space and comments, if the flags leave them out. -/
def skip (f : Flags) (cs : List Char) : List Char := if f.ignoreSpace then afterGap false cs else cs

/-- At most `limit` characters of a kind, with gaps after each left out, and the text after them. -/
def takeSpaced (f : Flags) (kind : Char → Bool) : (limit : Nat) → List Char → List Char × List Char
  | 0, cs => ([], cs)
  | _, [] => ([], [])
  | limit + 1, c :: cs =>
    if kind c then
      let (taken, rest) := takeSpaced f kind limit (skip f cs)
      (c :: taken, rest)
    else ([], c :: cs)

/-! ### Escapes -/

/-- A part of a pattern without parts of its own. -/
inductive Primitive where
  | literal (c : Char) (byte : Bool)
  | set (s : CodeSet)
  | look (test : Look)
deriving Repr, DecidableEq

/-- The characters that an escape makes literal although they have a meaning. -/
def metaChars : List Char :=
  ['\\', '.', '+', '*', '?', '(', ')', '|', '[', ']', '\x7b', '\x7d', '^', '$', '#', '&', '-', '~']

def isEscapable (c : Char) : Bool :=
  metaChars.contains c ||
    (c.toNat < 128 && !isAsciiLetter c && !isAsciiDigit c && c != '<' && c != '>')

def charOf? (n : Nat) : Option Char := if n.isValidChar then some (Char.ofNat n) else none

def readHex (f : Flags) (count : Nat) (cs : List Char) : Option (Primitive × List Char) :=
  match skip f cs with
  | '\x7b' :: inner =>
    let (ds, rest) := takeSpaced f (· ≠ '\x7d') inner.length (skip f inner)
    match rest with
    | _ :: rest =>
      if ds.isEmpty || !ds.all isHexDigit then none
      else (charOf? (hexValue ds)).map fun c => (.literal c false, skip f rest)
    | [] => none
  | cs =>
    let (ds, rest) := takeSpaced f isHexDigit count cs
    if ds.length = count then
      (charOf? (hexValue ds)).map fun c => (.literal c (count = 2), rest)
    else none

/-- The set with every caseless equal of its members added, if case is ignored. -/
def folded (f : Flags) (s : CodeSet) : CodeSet :=
  if !f.ignoreCase then s
  else if f.unicode then s.fold
  else
    let shift (lo hi : Nat) (amount : Int) : List (Nat × Nat) :=
      (s.intersection ⟨[(lo, hi)]⟩).intervals.map fun i =>
        ((i.1 + amount).toNat, (i.2 + amount).toNat)
    s.union ⟨shift 65 90 32 ++ shift 97 122 (-32)⟩

/-- The set, folded and then taken as its complement if `negated`; a set of bytes must be ASCII. -/
def finishSet (f : Flags) (negated : Bool) (s : CodeSet) : Option CodeSet :=
  let s := folded f s
  let all : CodeSet := if f.unicode then CodeSet.full else ⟨[(0, 255)]⟩
  let s := if negated then all.difference s else s
  if f.unicode || s.isAscii then some s else none

def readProperty (f : Flags) (negated : Bool) (cs : List Char) : Option (Primitive × List Char) :=
  let finish (name rest : List Char) : Option (Primitive × List Char) :=
    if f.unicode then
      (propertyClass? name).bind fun (s, inverse) =>
        (finishSet f (negated != inverse) s).map fun s => (.set s, rest)
    else none
  match skip f cs with
  | [] => none
  | '\x7b' :: inner =>
    let (name, rest) := takeSpaced f (· ≠ '\x7d') inner.length (skip f inner)
    match rest with
    | _ :: rest => finish name rest
    | [] => none
  | '\\' :: _ => none
  | c :: rest => finish [c] (skip f rest)

def readLetterClass (f : Flags) (c : Char) (rest : List Char) : Option (Primitive × List Char) :=
  (letterClass? f.unicode (asciiLower c)).bind fun s =>
    (finishSet { f with ignoreCase := false } (asciiLower c != c) s).map fun s => (.set s, rest)

def readWordEdge (f : Flags) (cs : List Char) : Option (Primitive × List Char) :=
  let ascii := !f.unicode
  let plain := (Primitive.look (.wordEdge ascii), cs)
  match cs with
  | '\x7b' :: inner =>
    let inner := skip f inner
    let isPart (c : Char) : Bool := isAsciiLetter c || c = '-'
    match inner with
    | [] => none
    | c :: _ =>
      if !isPart c then some plain
      else
        match takeSpaced f isPart inner.length inner with
        | (word, '\x7d' :: rest) =>
          let test : Option Look := match String.ofList word with
            | "start" => some (.wordStart ascii)
            | "end" => some (.wordEnd ascii)
            | "start-half" => some (.wordStartHalf ascii)
            | "end-half" => some (.wordEndHalf ascii)
            | _ => none
          test.map fun t => (.look t, rest)
        | _ => none
  | _ => some plain

def readEscape (f : Flags) : List Char → Option (Primitive × List Char)
  | [] => none
  | c :: rest =>
    let ascii := !f.unicode
    let literal (d : Char) : Option (Primitive × List Char) := some (.literal d false, rest)
    let look (t : Look) : Option (Primitive × List Char) := some (.look t, rest)
    if isEscapable c then literal c
    else match c with
      | 'x' => readHex f 2 rest
      | 'u' => readHex f 4 rest
      | 'U' => readHex f 8 rest
      | 'p' => readProperty f false rest
      | 'P' => readProperty f true rest
      | 'a' => literal '\x07'
      | 'f' => literal '\x0c'
      | 't' => literal '\t'
      | 'n' => literal '\n'
      | 'r' => literal '\x0d'
      | 'v' => literal '\x0b'
      | 'A' => look .textStart
      | 'z' => look .textEnd
      | 'b' => readWordEdge f rest
      | 'B' => look (.noWordEdge ascii)
      | '<' => look (.wordStart ascii)
      | '>' => look (.wordEnd ascii)
      | _ => readLetterClass f c rest

/-! ### Sets in brackets -/

inductive SetOp where
  | intersection
  | difference
  | symmetricDifference
deriving Repr, DecidableEq

/-- The set that an operation gives; case is ignored in both operands first. -/
def SetOp.apply (op : SetOp) (f : Flags) (s t : CodeSet) : CodeSet :=
  let s := folded f s
  let t := folded f t
  match op with
  | .intersection => s.intersection t
  | .difference => s.difference t
  | .symmetricDifference => s.symmetricDifference t

/-- A set in brackets while it is read: the operand and operation before, and the items since, with
their number and the depth of the nested ones. -/
structure OpenSet where
  before : Option (CodeSet × Nat × SetOp)
  items : CodeSet
  count : Nat
  depth : Nat

namespace OpenSet

def start : OpenSet := ⟨none, CodeSet.empty, 0, 0⟩

def add (o : OpenSet) (s : CodeSet) (depth : Nat) : OpenSet :=
  { o with items := o.items.union s, count := o.count + 1, depth := max o.depth depth }

def total (o : OpenSet) (f : Flags) : CodeSet × Nat :=
  let depth := if 1 < o.count then o.depth + 1 else o.depth
  match o.before with
  | none => (o.items, depth)
  | some (s, d, op) => (op.apply f s o.items, max d depth + 1)

def operate (o : OpenSet) (f : Flags) (op : SetOp) : OpenSet :=
  let (s, d) := o.total f
  ⟨some (s, d, op), CodeSet.empty, 0, 0⟩

end OpenSet

/-- The code point of a literal in a set; a set of bytes admits only ASCII characters and escaped
bytes. -/
def literalCode? (f : Flags) : Primitive → Option Nat
  | .literal c byte => if f.unicode || byte || c.toNat < 128 then some c.toNat else none
  | _ => none

/-- The set of a part that stands in brackets on its own. -/
def primitiveSet? (f : Flags) : Primitive → Option CodeSet
  | .set s => some s
  | p => (literalCode? f p).map fun n => ⟨[(n, n)]⟩

/-- Reads an ASCII class named between `[:` and `:]`. -/
def readAsciiClass (f : Flags) (cs : List Char) : Option (CodeSet × List Char) := do
  let inner ← afterPrefix? ['[', ':'] cs
  let (negated, inner) := match inner with
    | '^' :: rest => (true, rest)
    | _ => (false, inner)
  let (name, rest) ← cutFirst ':' inner
  let rest ← afterPrefix? [']'] rest
  let s ← asciiClass? (String.ofList name)
  return (← finishSet f negated s, rest)

def isAsciiClass (cs : List Char) : Bool :=
  (readAsciiClass { ignoreCase := false } cs).isSome

def readSetPrimitive (f : Flags) : List Char → Option (Primitive × List Char)
  | [] => none
  | '\\' :: rest => readEscape f rest
  | c :: rest => some (.literal c false, rest)

def readSetItem (f : Flags) (cs : List Char) : Option (CodeSet × List Char) := do
  let (first, rest) ← readSetPrimitive f cs
  let rest := skip f rest
  match rest with
  | [] => none
  | '-' :: more =>
    let ahead := (skip f more).head?
    if ahead = some ']' ∨ ahead = some '-' then return (← primitiveSet? f first, rest)
    else
      let (last, rest) ← readSetPrimitive f (skip f more)
      let lo ← literalCode? f first
      let hi ← literalCode? f last
      if lo ≤ hi then some (⟨[(lo, hi)]⟩, rest) else none
  | _ => return (← primitiveSet? f first, rest)

/-- The literal hyphens and the literal closing bracket that may stand first in a set. -/
def readSetStart (f : Flags) (cs : List Char) : OpenSet × List Char :=
  let (hyphens, rest) := takeSpaced f (· = '-') cs.length cs
  let start : OpenSet :=
    ⟨none, if hyphens.isEmpty then .empty else .singleton '-', hyphens.length, 0⟩
  match rest with
  | ']' :: more =>
    if hyphens.isEmpty then (start.add (.singleton ']') 0, skip f more) else (start, rest)
  | _ => (start, rest)

mutual

/-- Reads a set after its opening bracket; also gives the depth of its tree. -/
def readSet (f : Flags) : (fuel : Nat) → List Char → Option (CodeSet × Nat × List Char)
  | 0, _ => none
  | fuel + 1, cs =>
    let cs := skip f cs
    let (negated, cs) := match cs with
      | '^' :: rest => (true, skip f rest)
      | _ => (false, cs)
    let (start, cs) := readSetStart f cs
    match readSetItems f fuel start cs with
    | none => none
    | some (s, depth, rest) => (finishSet f negated s).map fun s => (s, depth + 1, rest)

def readSetItems (f : Flags) : (fuel : Nat) → OpenSet → List Char →
    Option (CodeSet × Nat × List Char)
  | 0, _, _ => none
  | fuel + 1, o, cs =>
    match skip f cs with
    | [] => none
    | ']' :: rest =>
      let (s, depth) := o.total f
      some (s, depth, rest)
    | '&' :: '&' :: rest => readSetItems f fuel (o.operate f .intersection) rest
    | '-' :: '-' :: rest => readSetItems f fuel (o.operate f .difference) rest
    | '~' :: '~' :: rest => readSetItems f fuel (o.operate f .symmetricDifference) rest
    | '[' :: rest =>
      if isAsciiClass ('[' :: rest) then
        match readAsciiClass f ('[' :: rest) with
        | some (s, rest) => readSetItems f fuel (o.add s 0) rest
        | none => none
      else
        match readSet f fuel rest with
        | some (s, depth, rest) => readSetItems f fuel (o.add s depth) rest
        | none => none
    | cs =>
      match readSetItem f cs with
      | some (s, rest) => readSetItems f fuel (o.add s 0) rest
      | none => none

end

/-! ### Counts -/

def readRepeatCount (f : Flags) (cs : List Char) : Option (Nat × List Char) :=
  let (ds, rest) := takeSpaced f isAsciiDigit cs.length (cs.dropWhile isBlank)
  if ds.isEmpty || UInt32.size ≤ digitsValue ds then none
  else some (digitsValue ds, skip f (rest.dropWhile isBlank))

def readBounds (f : Flags) (cs : List Char) : Option (Nat × Option Nat × List Char) := do
  let (lo, rest) ← readRepeatCount f (skip f cs)
  match rest with
  | '\x7d' :: rest => some (lo, some lo, rest)
  | ',' :: rest =>
    match skip f rest with
    | '\x7d' :: rest => some (lo, none, rest)
    | rest =>
      let (hi, rest) ← readRepeatCount f rest
      match rest with
      | '\x7d' :: rest => if lo ≤ hi then some (lo, some hi, rest) else none
      | _ => none
  | _ => none

/-! ### Groups and branches -/

/-- A tree with the depth to which it is nested, and whether a repetition may apply to it. -/
structure Item where
  node : Node
  depth : Nat
  repeatable : Bool

/-- How far a pattern has been read: the text left, the flags in force, the number of groups so far
and their names. -/
structure Cursor where
  rest : List Char
  flags : Flags
  groups : Nat
  names : List (List Char)

def readGroupName (cs : List Char) : Option (List Char × List Char) :=
  match cutFirst '>' cs with
  | some (c :: name, rest) =>
    let isFirst (c : Char) : Bool := c = '_' || isAlphabetic c
    let isLater (c : Char) : Bool :=
      c = '_' || c = '.' || c = '[' || c = ']' || isAlphanumeric c
    if isFirst c && name.all isLater then some (c :: name, rest) else none
  | _ => none

def afterNameOpening? (cs : List Char) : Option (List Char) :=
  afterPrefix? "?P<".toList cs <|> afterPrefix? "?<".toList cs

/-- Whether a test of the text ahead or behind stands at the front; there are none. -/
def isAround (cs : List Char) : Bool :=
  ["?=", "?!", "?<=", "?<!"].any fun opening => (afterPrefix? opening.toList cs).isSome

/-- One part after another; the items are in reverse order. -/
def joinItems (items : List Item) : Node × Nat :=
  match items with
  | [] => (.empty, 0)
  | [i] => (i.node, i.depth)
  | items =>
    (Node.sequence (items.reverse.map Item.node), 1 + (items.map Item.depth).foldl max 0)

def joinBranches (branches : List (Node × Nat)) : Node × Nat :=
  match branches with
  | [b] => b
  | bs => (Node.choice (bs.map (·.1)), 1 + (bs.map (·.2)).foldl max 0)

/-- The repetition of the item before; a question mark after it makes it prefer to stop. -/
def repeated (f : Flags) (lo : Nat) (hi : Option Nat) (items : List Item) (rest : List Char) :
    Option (List Item × List Char) :=
  match items with
  | i :: items =>
    if i.repeatable then
      let (lazy, rest) := match rest with
        | '?' :: rest => (true, rest)
        | _ => (false, rest)
      let node := Node.times lo hi (lazy == f.swapGreed) i.node
      some (⟨node, i.depth + 1, true⟩ :: items, rest)
    else none
  | [] => none

def primitiveNode? (f : Flags) : Primitive → Option Node
  | .literal c byte =>
    if !f.unicode && byte && 128 ≤ c.toNat then none
    else some (.chars (folded f (.singleton c)))
  | .set s => some (.chars s)
  | .look test => some (.look test)

/-- The characters that a dot stands for; without Unicode it could match parts of a character. -/
def dotSet? (f : Flags) : Option CodeSet :=
  if !f.unicode then none
  else if f.dotAll then some CodeSet.full
  else if f.crlf then some (CodeSet.mk [(10, 10), (13, 13)]).complement
  else some (CodeSet.mk [(10, 10)]).complement

def startTest (f : Flags) : Look :=
  if f.multiLine then (if f.crlf then .crlfLineStart else .lineStart) else .textStart

def endTest (f : Flags) : Look :=
  if f.multiLine then (if f.crlf then .crlfLineEnd else .lineEnd) else .textEnd

def readPrimitive (f : Flags) : List Char → Option (Node × List Char)
  | [] => none
  | '\\' :: rest =>
    (readEscape f rest).bind fun (p, rest) => (primitiveNode? f p).map fun n => (n, rest)
  | '.' :: rest => (dotSet? f).map fun s => (.chars s, rest)
  | '^' :: rest => some (.look (startTest f), rest)
  | '$' :: rest => some (.look (endTest f), rest)
  | c :: rest => (primitiveNode? f (.literal c false)).map fun n => (n, rest)

mutual

def readBranches : (fuel : Nat) → Cursor → Option (List (Node × Nat) × Cursor)
  | 0, _ => none
  | fuel + 1, c =>
    match readItems fuel [] c with
    | none => none
    | some (items, c) =>
      match c.rest with
      | '|' :: rest =>
        match readBranches fuel { c with rest } with
        | none => none
        | some (branches, c) => some (joinItems items :: branches, c)
      | _ => some ([joinItems items], c)

/-- Reads the parts of one alternative, up to its end; `items` are those before, in reverse. -/
def readItems : (fuel : Nat) → (items : List Item) → Cursor → Option (List Item × Cursor)
  | 0, _, _ => none
  | fuel + 1, items, c =>
    let f := c.flags
    let rest := skip f c.rest
    let goOn (r : Option (List Item × List Char)) : Option (List Item × Cursor) :=
      match r with
      | some (items, rest) => readItems fuel items { c with rest }
      | none => none
    match rest with
    | [] | ')' :: _ | '|' :: _ => some (items, { c with rest })
    | '(' :: inner =>
      match readGroup fuel { c with rest := skip f inner } with
      | some (i, c) => readItems fuel (i :: items) c
      | none => none
    | '[' :: inner =>
      goOn ((readSet f fuel inner).map fun (s, depth, rest) =>
        (⟨.chars s, depth, true⟩ :: items, rest))
    | '?' :: more => goOn (repeated f 0 (some 1) items more)
    | '*' :: more => goOn (repeated f 0 none items more)
    | '+' :: more => goOn (repeated f 1 none items more)
    | '\x7b' :: more =>
      goOn ((readBounds f more).bind fun (lo, hi, more) => repeated f lo hi items (skip f more))
    | rest =>
      goOn ((readPrimitive f rest).map fun (n, rest) => (⟨n, 0, true⟩ :: items, rest))

/-- Reads a group after its opening parenthesis, or flags for the rest of the group around. -/
def readGroup : (fuel : Nat) → Cursor → Option (Item × Cursor)
  | 0, _ => none
  | fuel + 1, c =>
    if isAround c.rest then none
    else match afterNameOpening? c.rest with
      | some opened =>
        match readGroupName opened with
        | none => none
        | some (name, rest) =>
          if c.names.contains name then none
          else readBody fuel (some (c.groups + 1)) c.flags
            { c with rest, groups := c.groups + 1, names := name :: c.names }
      | none =>
        match c.rest with
        | '?' :: rest =>
          match readFlags c.flags [] rest with
          | none => none
          | some t =>
            if t.opensGroup then
              readBody fuel none c.flags { c with rest := t.rest, flags := t.flags }
            else if t.isEmpty then none
            else some (⟨.empty, 0, false⟩, { c with rest := t.rest, flags := t.flags })
        | _ => readBody fuel (some (c.groups + 1)) c.flags { c with groups := c.groups + 1 }

/-- Reads the alternatives of a group and its closing parenthesis, after which the flags around the
group are in force again. -/
def readBody : (fuel : Nat) → (index : Option Nat) → (around : Flags) → Cursor →
    Option (Item × Cursor)
  | 0, _, _, _ => none
  | fuel + 1, index, around, c =>
    match readBranches fuel c with
    | none => none
    | some (branches, c) =>
      match c.rest with
      | ')' :: rest =>
        let (body, depth) := joinBranches branches
        let node := match index with
          | some n => Node.group n body
          | none => body
        some (⟨node, depth + 1, true⟩, { c with rest, flags := around })
      | _ => none

end

/-! ### Whole patterns -/

/-- The deepest nesting that is read. -/
def maxDepth : Nat := 250

/-- The most bytes that a pattern may take up when it is prepared. -/
def maxCost : Nat := 10485760

/-- The tree of a pattern, if the whole text is one and is not too large. -/
def readNode? (cs : List Char) : Option Node :=
  match readBranches (4 * cs.length + 4) ⟨cs, {}, 0, []⟩ with
  | some (branches, c) =>
    let (node, depth) := joinBranches branches
    if c.rest.isEmpty && depth ≤ maxDepth && node.cost ≤ maxCost then some node else none
  | none => none

end InfoModel.Pattern
