import InfoModel.Fault

/-!
# Qualified names

A qualified name is an optional namespace and a local part. The local part is a non-colonized name:
a letter or underscore, then letters, numbers, underscores, hyphens and dots. An empty namespace
counts as none, and names are ordered by namespace first, names without one before all others.
-/

namespace InfoModel
open InfoModel.Text InfoModel.Unicode

structure QName where
  space : Option String
  localName : String
deriving Repr, DecidableEq

def isNameStart (c : Char) : Bool := isAlphabetic c || c = '_'

def isNamePart (c : Char) : Bool := isAlphanumeric c || c = '_' || c = '-' || c = '.'

/-- What is wrong with a text as a non-colonized name, if anything. -/
def nameFault? (cs : List Char) : Option NameFault :=
  match cs with
  | [] => some .empty
  | c :: rest =>
    if isNameStart c then (rest.find? fun d => !isNamePart d).map .illegal else some .badStart

def isNcName (cs : List Char) : Bool := (nameFault? cs).isNone

theorem isNcName_cons (c : Char) (rest : List Char) :
    isNcName (c :: rest) = (isNameStart c && rest.all isNamePart) := by
  unfold isNcName nameFault?
  by_cases h : isNameStart c = true
  · simp only [h, if_true, Bool.true_and, Option.isNone_map]
    induction rest with
    | nil => rfl
    | cons d rest ih => by_cases hd : isNamePart d = true <;> simp [hd, ih]
  · simp [h]

namespace QName

/-- The name with the local part `localName`, which must be a non-colonized name. -/
def make (space : Option String) (localName : String) : Except Fault QName :=
  match nameFault? localName.toList with
  | some cause => .error (.invalidName localName cause)
  | none => .ok ⟨space.filter fun s => !s.isEmpty, localName⟩

def unqualified (localName : String) : Except Fault QName := make none localName

/-- The written form: the local part, after the namespace in braces if there is one. -/
def text (q : QName) : String :=
  match q.space with
  | some s => "Q\x7b" ++ s ++ "\x7d" ++ q.localName
  | none => q.localName

def detail (q : QName) : String :=
  let space := match q.space with
    | some s => "Some(" ++ quoted s ++ ")"
    | none => "None"
  "QName \x7b namespace: " ++ space ++ ", local_name: " ++ quoted q.localName ++ " \x7d"

/-- The order of optional namespaces: none comes first. -/
def compareSpace : Option String → Option String → Ordering
  | none, none => .eq
  | none, some _ => .lt
  | some _, none => .gt
  | some s, some t => compare s t

instance : Ord QName where
  compare p q := (compareSpace p.space q.space).then (compare p.localName q.localName)

end QName

end InfoModel
