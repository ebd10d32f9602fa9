import InfoModel.Text.Trim

/-!
# Host names and mail addresses

A host name is a sequence of labels separated by dots, with any dots at its end left aside. A mail
address is a mailbox and a host name on the two sides of an at-sign.
-/

namespace InfoModel
open InfoModel.Text InfoModel.Unicode

/-- Whether a text is a label: 1 to 63 bytes of letters, numbers and hyphens, with no hyphen at
either end. -/
def isLabel (cs : List Char) : Bool :=
  !cs.isEmpty && byteCount cs ≤ 63 && cs.head? != some '-' && cs.getLast? != some '-' &&
    cs.all fun c => isAlphanumeric c || c = '-'

def withoutFinalDots (cs : List Char) : List Char := (cs.reverse.dropWhile (· = '.')).reverse

def isHostname (cs : List Char) : Bool :=
  !cs.isEmpty && byteCount cs ≤ 253 && (pieces '.' (withoutFinalDots cs)).all isLabel

def isMailAddress (cs : List Char) : Bool :=
  match cutFirst '@' cs with
  | some (mailbox, host) => !mailbox.isEmpty && !mailbox.any isBlank && isHostname host
  | none => false

end InfoModel
