import RuleScan.Text.RangeSet

/-!
# Script extensions

Characters used with several scripts. The extended set of a script is its own set with some points
added (`scriptsExtended`) and, for the common and inherited ones, some taken away
(`scriptsReduced`).
-/

namespace RuleScan.Unicode

/-- Points that a script shares although they belong to another one. -/
def scriptsExtended : List (List String × String) :=
  [(["adlm", "adlam"],
    "61F 640"),
   (["arab", "arabic"],
    "60C 61B 61F 640 64B-655 670 FD3E-FD3F 102E0-102FB"),
   (["beng", "bengali"],
    "951-952 964-965 1CD0 1CD2 1CD5-1CD6 1CD8 1CE1 1CEA 1CED 1CF2 1CF5-1CF7 A8F1"),
   (["bopo", "bopomofo"],
    "3001-3003 3008-3011 3013-301F 302A-302D 3030 3037 30FB FE45-FE46 FF61-FF65"),
   (["bugi", "buginese"],
    "A9CF"),
   (["buhd", "buhid"],
    "1735-1736"),
   (["cakm", "chakma"],
    "9E6-9EF 1040-1049"),
   (["copt", "qaac", "coptic"],
    "102E0-102FB"),
   (["cprt", "cypriot"],
    "10100-10102 10107-10133 10137-1013F"),
   (["cpmn", "cyprominoan"],
    "10100-10101"),
   (["cyrl", "cyrillic"],
    "485-486 1DF8 2E43"),
   (["deva", "devanagari"],
    "951-952 964-965 1CD0-1CF6 1CF8-1CF9 20F0 A830-A839"),
   (["dogr", "dogra"],
    "964-96F A830-A839"),
   (["dupl", "duployan"],
    "1BCA0-1BCA3"),
   (["geor", "georgian"],
    "10FB"),
   (["glag", "glagolitic"],
    "484 487 2E43 A66F"),
   (["gran", "grantha"],
    "951-952 964-965 BE6-BF3 1CD0 1CD2-1CD3 1CF2-1CF4 1CF8-1CF9 20F0 1133B 11FD0-11FD1 11FD3"),
   (["grek", "greek"],
    "342 345 1DC0-1DC1"),
   (["gujr", "gujarati"],
    "951-952 964-965 A830-A839"),
   (["gong", "gunjalagondi"],
    "964-965"),
   (["guru", "gurmukhi"],
    "951-952 964-965 A830-A839"),
   (["han", "hani"],
    "3001-3003 3006 3008-3011 3013-301F 302A-302D 3030 3037 303C-303F 30FB 3190-319F 31C0-31E3
      3220-3247 3280-32B0 32C0-32CB 32FF 3358-3370 337B-337F 33E0-33FE A700-A707 FE45-FE46
      FF61-FF65 1D360-1D371 1F250-1F251"),
   (["hang", "hangul"],
    "3001-3003 3008-3011 3013-301F 3030 3037 30FB FE45-FE46 FF61-FF65"),
   (["rohg", "hanifirohingya"],
    "60C 61B 61F 640 6D4"),
   (["hano", "hanunoo"],
    "1735-1736"),
   (["hira", "hiragana"],
    "3001-3003 3008-3011 3013-301F 3030-3035 3037 303C-303D 3099-309C 30A0 30FB-30FC FE45-FE46
      FF61-FF65 FF70 FF9E-FF9F"),
   (["java", "javanese"],
    "A9CF"),
   (["kthi", "kaithi"],
    "966-96F A830-A839"),
   (["knda", "kannada"],
    "951-952 964-965 1CD0 1CD2 1CDA 1CF2 1CF4 A830-A835"),
   (["kana", "katakana"],
    "3001-3003 3008-3011 3013-301F 3030-3035 3037 303C-303D 3099-309C 30A0 30FB-30FC FE45-FE46
      FF61-FF65 FF70 FF9E-FF9F"),
   (["kali", "kayahli"],
    "A92E"),
   (["khoj", "khojki"],
    "AE6-AEF A830-A839"),
   (["sind", "khudawadi"],
    "964-965 A830-A839"),
   (["latn", "latin"],
    "363-36F 485-486 951-952 10FB 202F 20F0 A700-A707 A92E"),
   (["limb", "limbu"],
    "965"),
   (["lina", "lineara"],
    "10107-10133"),
   (["linb", "linearb"],
    "10100-10102 10107-10133 10137-1013F"),
   (["mahj", "mahajani"],
    "964-96F A830-A839"),
   (["mlym", "malayalam"],
    "951-952 964-965 1CDA A830-A832"),
   (["mand", "mandaic"],
    "640"),
   (["mani", "manichaean"],
    "640"),
   (["gonm", "masaramgondi"],
    "964-965"),
   (["modi"],
    "A830-A839"),
   (["mong", "mongolian"],
    "1802-1803 1805 202F"),
   (["mult", "multani"],
    "A66-A6F"),
   (["mymr", "myanmar"],
    "A92E"),
   (["nand", "nandinagari"],
    "964-965 CE6-CEF 1CE9 1CF2 1CFA A830-A835"),
   (["nko", "nkoo"],
    "60C 61B 61F FD3E-FD3F"),
   (["perm", "oldpermic"],
    "483"),
   (["ougr", "olduyghur"],
    "640 10AF2"),
   (["orya", "oriya"],
    "951-952 964-965 1CDA 1CF2"),
   (["phag", "phagspa"],
    "1802-1803 1805"),
   (["phlp", "psalterpahlavi"],
    "640"),
   (["shrd", "sharada"],
    "951 1CD7 1CD9 1CDC-1CDD 1CE0"),
   (["sinh", "sinhala"],
    "964-965"),
   (["sogd", "sogdian"],
    "640"),
   (["sylo", "sylotinagri"],
    "964-965 9E6-9EF"),
   (["syrc", "syriac"],
    "60C 61B-61C 61F 640 64B-655 670 1DF8 1DFA"),
   (["tglg", "tagalog"],
    "1735-1736"),
   (["tagb", "tagbanwa"],
    "1735-1736"),
   (["tale", "taile"],
    "1040-1049"),
   (["takr", "takri"],
    "964-965 A830-A839"),
   (["taml", "tamil"],
    "951-952 964-965 1CDA A8F3 11301 11303 1133B-1133C"),
   (["telu", "telugu"],
    "951-952 964-965 1CDA 1CF2"),
   (["thaa", "thaana"],
    "60C 61B-61C 61F 660-669 FDF2 FDFD"),
   (["tirh", "tirhuta"],
    "951-952 964-965 1CF2 A830-A839"),
   (["yezi", "yezidi"],
    "60C 61B 61F 660-669"),
   (["yi", "yiii"],
    "3001-3002 3008-3011 3014-301B 30FB FF61-FF65")]

/-- Points of the common and inherited scripts that are listed under others. -/
def scriptsReduced : List (List String × String) :=
  [(["zyyy", "common"],
    "60C 61B 61F 640 964-965 10FB 1735-1736 1802-1803 1805 1CD3 1CE1 1CE9-1CEC 1CEE-1CF3
      1CF5-1CF7 1CFA 202F 2E43 3001-3003 3006 3008-3011 3013-301F 3030-3035 3037 303C-303F
      309B-309C 30A0 30FB-30FC 3190-319F 31C0-31E3 3220-3247 3280-32B0 32C0-32CB 32FF 3358-3370
      337B-337F 33E0-33FE A700-A707 A830-A839 A92E A9CF FD3E-FD3F FE45-FE46 FF61-FF65 FF70
      FF9E-FF9F 10100-10102 10107-10133 10137-1013F 102E1-102FB 1BCA0-1BCA3 1D360-1D371
      1F250-1F251"),
   (["qaai", "zinh", "inherited"],
    "342 345 363-36F 485-486 64B-655 670 951-952 1CD0-1CD2 1CD4-1CE0 1CE2-1CE8 1CED 1CF4
      1CF8-1CF9 1DC0-1DC1 1DF8 1DFA 20F0 302A-302D 3099-309A 102E0 1133B")]

end RuleScan.Unicode
