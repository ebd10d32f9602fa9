import InfoModel.Unicode.Script

/-!
# Script extensions

Some code points are used in several scripts, or in others than the one they are sorted under. They
are listed with the short names of the scripts that use them; every other code point is used in the
script it is sorted under alone.
-/

namespace InfoModel.Unicode

/-- The code points that are used in other scripts than their own, by those scripts. -/
def scriptUses : List NamedSet := [
  ⟨["beng"], [
    "1CF7"]⟩,
  ⟨["deva"], [
    "1CD1 1CD4 1CDB 1CDE-1CDF 1CE2-1CE8 1CEB-1CEC 1CEE-1CF1"]⟩,
  ⟨["dupl"], [
    "1BCA0-1BCA3"]⟩,
  ⟨["grek"], [
    "342 345 1DC0-1DC1"]⟩,
  ⟨["hani"], [
    "3006 303E-303F 3190-319F 31C0-31E3 3220-3247 3280-32B0 32C0-32CB 32FF 3358-3370 337B-337F",
    "33E0-33FE 1D360-1D371 1F250-1F251"]⟩,
  ⟨["latn"], [
    "363-36F"]⟩,
  ⟨["nand"], [
    "1CFA"]⟩,
  ⟨["syrc"], [
    "1DFA"]⟩,
  ⟨["arab", "copt"], [
    "102E0-102FB"]⟩,
  ⟨["arab", "nkoo"], [
    "FD3E-FD3F"]⟩,
  ⟨["arab", "rohg"], [
    "6D4"]⟩,
  ⟨["arab", "syrc"], [
    "64B-655 670"]⟩,
  ⟨["arab", "thaa"], [
    "FDF2 FDFD"]⟩,
  ⟨["beng", "deva"], [
    "1CD5-1CD6 1CD8 1CE1 1CEA 1CED 1CF5-1CF6 A8F1"]⟩,
  ⟨["bopo", "hani"], [
    "302A-302D"]⟩,
  ⟨["bugi", "java"], [
    "A9CF"]⟩,
  ⟨["cprt", "linb"], [
    "10102 10137-1013F"]⟩,
  ⟨["cyrl", "glag"], [
    "484 487 2E43 A66F"]⟩,
  ⟨["cyrl", "latn"], [
    "485-486"]⟩,
  ⟨["cyrl", "perm"], [
    "483"]⟩,
  ⟨["cyrl", "syrc"], [
    "1DF8"]⟩,
  ⟨["deva", "gran"], [
    "1CD3 1CF3 1CF8-1CF9"]⟩,
  ⟨["deva", "nand"], [
    "1CE9"]⟩,
  ⟨["deva", "shrd"], [
    "1CD7 1CD9 1CDC-1CDD 1CE0"]⟩,
  ⟨["deva", "taml"], [
    "A8F3"]⟩,
  ⟨["geor", "latn"], [
    "10FB"]⟩,
  ⟨["gran", "taml"], [
    "BE6-BF3 11301 11303 1133B-1133C 11FD0-11FD1 11FD3"]⟩,
  ⟨["gujr", "khoj"], [
    "AE6-AEF"]⟩,
  ⟨["guru", "mult"], [
    "A66-A6F"]⟩,
  ⟨["hani", "latn"], [
    "A700-A707"]⟩,
  ⟨["hira", "kana"], [
    "3031-3035 3099-309C 30A0 30FC FF70 FF9E-FF9F"]⟩,
  ⟨["knda", "nand"], [
    "CE6-CEF"]⟩,
  ⟨["latn", "mong"], [
    "202F"]⟩,
  ⟨["mani", "ougr"], [
    "10AF2"]⟩,
  ⟨["mong", "phag"], [
    "1802-1803 1805"]⟩,
  ⟨["arab", "syrc", "thaa"], [
    "61C"]⟩,
  ⟨["arab", "thaa", "yezi"], [
    "660-669"]⟩,
  ⟨["beng", "cakm", "sylo"], [
    "9E6-9EF"]⟩,
  ⟨["cakm", "mymr", "tale"], [
    "1040-1049"]⟩,
  ⟨["cpmn", "cprt", "linb"], [
    "10100-10101"]⟩,
  ⟨["cprt", "lina", "linb"], [
    "10107-10133"]⟩,
  ⟨["deva", "gran", "knda"], [
    "1CF4"]⟩,
  ⟨["deva", "gran", "latn"], [
    "20F0"]⟩,
  ⟨["hani", "hira", "kana"], [
    "303C-303D"]⟩,
  ⟨["kali", "latn", "mymr"], [
    "A92E"]⟩,
  ⟨["beng", "deva", "gran", "knda"], [
    "1CD0 1CD2"]⟩,
  ⟨["buhd", "hano", "tagb", "tglg"], [
    "1735-1736"]⟩,
  ⟨["deva", "dogr", "kthi", "mahj"], [
    "966-96F"]⟩,
  ⟨["bopo", "hang", "hani", "hira", "kana"], [
    "3003 3013 301C-301F 3030 3037 FE45-FE46"]⟩,
  ⟨["arab", "nkoo", "rohg", "syrc", "thaa", "yezi"], [
    "60C 61B"]⟩,
  ⟨["bopo", "hang", "hani", "hira", "kana", "yiii"], [
    "3001-3002 3008-3011 3014-301B 30FB FF61-FF65"]⟩,
  ⟨["deva", "knda", "mlym", "orya", "taml", "telu"], [
    "1CDA"]⟩,
  ⟨["adlm", "arab", "nkoo", "rohg", "syrc", "thaa", "yezi"], [
    "61F"]⟩,
  ⟨["beng", "deva", "gran", "knda", "nand", "orya", "telu", "tirh"], [
    "1CF2"]⟩,
  ⟨["adlm", "arab", "mand", "mani", "ougr", "phlp", "rohg", "sogd", "syrc"], [
    "640"]⟩,
  ⟨["deva", "dogr", "gujr", "guru", "khoj", "kthi", "mahj", "modi", "sind", "takr", "tirh"], [
    "A836-A839"]⟩,
  ⟨["beng", "deva", "gran", "gujr", "guru", "knda", "latn", "mlym", "orya", "taml", "telu",
      "tirh"], [
    "952"]⟩,
  ⟨["beng", "deva", "gran", "gujr", "guru", "knda", "latn", "mlym", "orya", "shrd", "taml", "telu",
      "tirh"], [
    "951"]⟩,
  ⟨["deva", "dogr", "gujr", "guru", "khoj", "knda", "kthi", "mahj", "modi", "nand", "sind", "takr",
      "tirh"], [
    "A833-A835"]⟩,
  ⟨["deva", "dogr", "gujr", "guru", "khoj", "knda", "kthi", "mahj", "mlym", "modi", "nand", "sind",
      "takr", "tirh"], [
    "A830-A832"]⟩,
  ⟨["beng", "deva", "dogr", "gong", "gonm", "gran", "gujr", "guru", "knda", "mahj", "mlym", "nand",
      "orya", "sind", "sinh", "sylo", "takr", "taml", "telu", "tirh"], [
    "964"]⟩,
  ⟨["beng", "deva", "dogr", "gong", "gonm", "gran", "gujr", "guru", "knda", "limb", "mahj", "mlym",
      "nand", "orya", "sind", "sinh", "sylo", "takr", "taml", "telu", "tirh"], [
    "965"]⟩]

def usedElsewhere : CodeSet := CodeSet.unionAll (scriptUses.map fun s => CodeSet.ofRows s.rows)

/-- The code points that are used in a script. -/
def usedInScript? (name : String) : Option CodeSet :=
  (scripts.find? fun s => s.names.contains name).map fun s =>
    let shared := scriptUses.filter fun u => u.names.any s.names.contains
    ((CodeSet.ofRows s.rows).difference usedElsewhere).union
      (CodeSet.unionAll (shared.map fun u => CodeSet.ofRows u.rows))

end InfoModel.Unicode
