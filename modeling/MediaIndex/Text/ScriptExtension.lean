import MediaIndex.Text.Script

/-!
# Scripts that use a character

A character of no script of its own may still be used by a few scripts only. Asked for in this wider
sense, a script has its own characters and those it shares (section 1), and the two classes of
characters without a script lose every character that is shared (section 2).
-/

namespace MediaIndex.ScriptExtension

/-! ## 1. Shared characters -/

/-- The characters that a script shares with others, by one name of the script. -/
def shared : List (String × CodeSet) := [
  ("adlam", CodeSet.ofHex ["61F 640 204F 2E41"]),
  ("arabic", CodeSet.ofHex ["60C 61B 61F 640 64B-655 670 204F 2E41 FD3E-FD3F 102E0-102FB"]),
  ("armenian", CodeSet.ofHex ["308"]),
  ("avestan", CodeSet.ofHex ["B7 2E30-2E31"]),
  ("bengali", CodeSet.ofHex [
    "2BC 951-952 964-965 1CD0 1CD2 1CD5-1CD6 1CD8 1CE1 1CEA 1CED 1CF2 1CF5-1CF7 A8F1"]),
  ("bopomofo", CodeSet.ofHex [
    "2C7 2C9-2CB 2D9 3001-3003 3008-3011 3013-301F 302A-302D 3030 3037 30FB FE45-FE46 FF61-FF65"]),
  ("buginese", CodeSet.ofHex ["A9CF"]),
  ("buhid", CodeSet.ofHex ["1735-1736"]),
  ("carian", CodeSet.ofHex ["B7 205A 205D 2E31"]),
  ("caucasianalbanian", CodeSet.ofHex ["304 331 35E"]),
  ("chakma", CodeSet.ofHex ["9E6-9EF 1040-1049"]),
  ("cherokee", CodeSet.ofHex ["300-302 304 30B-30C 323-324 330-331"]),
  ("coptic", CodeSet.ofHex ["B7 300 304-305 307 374-375 2E17 102E0-102FB"]),
  ("cypriot", CodeSet.ofHex ["10100-10102 10107-10133 10137-1013F"]),
  ("cyprominoan", CodeSet.ofHex ["10100-10101"]),
  ("cyrillic", CodeSet.ofHex ["2BC 300-302 304 306 308 30B 311 485-486 1DF8 2E43"]),
  ("devanagari", CodeSet.ofHex ["2BC 951-952 964-965 1CD0-1CF6 1CF8-1CF9 20F0 A830-A839"]),
  ("dogra", CodeSet.ofHex ["964-96F A830-A839"]),
  ("duployan", CodeSet.ofHex ["B7 307-308 30A 323-324 2E3C 1BCA0-1BCA3"]),
  ("elbasan", CodeSet.ofHex ["B7 305"]),
  ("ethiopic", CodeSet.ofHex ["30E"]),
  ("georgian", CodeSet.ofHex ["B7 589 10FB 205A 2E31"]),
  ("glagolitic", CodeSet.ofHex ["B7 303 305 484 487 589 10FB 205A 2E43 A66F"]),
  ("gothic", CodeSet.ofHex ["B7 304-305 308 331"]),
  ("grantha", CodeSet.ofHex [
    "951-952 964-965 BE6-BF3 1CD0 1CD2-1CD3 1CF2-1CF4 1CF8-1CF9 20F0 1133B 11FD0-11FD1 11FD3"]),
  ("greek", CodeSet.ofHex ["B7 300-301 304 306 308 313 342 345 374 1DC0-1DC1 205D"]),
  ("gujarati", CodeSet.ofHex ["951-952 964-965 A830-A839"]),
  ("gunjalagondi", CodeSet.ofHex ["B7 964-965"]),
  ("gurmukhi", CodeSet.ofHex ["951-952 964-965 A830-A839"]),
  ("han", CodeSet.ofHex [
    "B7 2FF0-2FFF 3001-3003 3006 3008-3011 3013-301F 302A-302D 3030 3037 303C-303F 30FB",
    "3190-319F 31C0-31E5 31EF 3220-3247 3280-32B0 32C0-32CB 32FF 3358-3370 337B-337F 33E0-33FE",
    "A700-A707 FE45-FE46 FF61-FF65 1D360-1D371 1F250-1F251"]),
  ("hangul", CodeSet.ofHex ["3001-3003 3008-3011 3013-301F 3030 3037 30FB FE45-FE46 FF61-FF65"]),
  ("hanifirohingya", CodeSet.ofHex ["60C 61B 61F 640 6D4"]),
  ("hanunoo", CodeSet.ofHex ["1735-1736"]),
  ("hebrew", CodeSet.ofHex ["307-308"]),
  ("hiragana", CodeSet.ofHex [
    "3001-3003 3008-3011 3013-301F 3030-3035 3037 303C-303D 3099-309C 30A0 30FB-30FC FE45-FE46",
    "FF61-FF65 FF70 FF9E-FF9F"]),
  ("javanese", CodeSet.ofHex ["A9CF"]),
  ("kaithi", CodeSet.ofHex ["966-96F 2E31 A830-A839"]),
  ("kannada", CodeSet.ofHex ["951-952 964-965 1CD0 1CD2-1CD3 1CDA 1CF2 1CF4 A830-A835"]),
  ("katakana", CodeSet.ofHex [
    "305 323 3001-3003 3008-3011 3013-301F 3030-3035 3037 303C-303D 3099-309C 30A0 30FB-30FC",
    "FE45-FE46 FF61-FF65 FF70 FF9E-FF9F"]),
  ("kayahli", CodeSet.ofHex ["A92E"]),
  ("khojki", CodeSet.ofHex ["AE6-AEF A830-A839"]),
  ("khudawadi", CodeSet.ofHex ["964-965 A830-A839"]),
  ("latin", CodeSet.ofHex [
    "B7 2BC 2C7 2C9-2CB 2CD 2D7 2D9 300-30E 310-311 313 320 323-325 32D-32E 330-331 358 35E",
    "363-36F 485-486 951-952 10FB 1DF8 202F 20F0 2E17 A700-A707 A92E"]),
  ("limbu", CodeSet.ofHex ["965"]),
  ("lineara", CodeSet.ofHex ["10107-10133"]),
  ("linearb", CodeSet.ofHex ["10100-10102 10107-10133 10137-1013F"]),
  ("lisu", CodeSet.ofHex ["2BC 2CD 300A-300B"]),
  ("lycian", CodeSet.ofHex ["205A"]),
  ("lydian", CodeSet.ofHex ["B7 2E31"]),
  ("mahajani", CodeSet.ofHex ["B7 964-96F A830-A839"]),
  ("malayalam", CodeSet.ofHex ["951-952 964-965 1CDA 1CF2 A830-A832"]),
  ("mandaic", CodeSet.ofHex ["640"]),
  ("manichaean", CodeSet.ofHex ["640"]),
  ("masaramgondi", CodeSet.ofHex ["964-965"]),
  ("meroitichieroglyphs", CodeSet.ofHex ["205D"]),
  ("modi", CodeSet.ofHex ["A830-A839"]),
  ("mongolian", CodeSet.ofHex ["1802-1803 1805 202F 3001-3002 3008-300B"]),
  ("multani", CodeSet.ofHex ["A66-A6F"]),
  ("myanmar", CodeSet.ofHex ["A92E"]),
  ("nandinagari", CodeSet.ofHex ["964-965 CE6-CEF 1CE9 1CF2 1CFA A830-A835"]),
  ("nko", CodeSet.ofHex ["60C 61B 61F FD3E-FD3F"]),
  ("oldhungarian", CodeSet.ofHex ["205A 205D 2E31 2E41"]),
  ("oldpermic", CodeSet.ofHex ["B7 300 306-308 313 483"]),
  ("oldturkic", CodeSet.ofHex ["205A 2E30"]),
  ("olduyghur", CodeSet.ofHex ["640 10AF2"]),
  ("oriya", CodeSet.ofHex ["951-952 964-965 1CDA 1CF2"]),
  ("osage", CodeSet.ofHex ["301 304 30B 358"]),
  ("phagspa", CodeSet.ofHex ["1802-1803 1805 202F 3002"]),
  ("psalterpahlavi", CodeSet.ofHex ["640"]),
  ("runic", CodeSet.ofHex ["16EB-16ED"]),
  ("samaritan", CodeSet.ofHex ["2E31"]),
  ("sharada", CodeSet.ofHex ["951 1CD7 1CD9 1CDC-1CDD 1CE0 A830-A835 A838"]),
  ("shavian", CodeSet.ofHex ["B7"]),
  ("sinhala", CodeSet.ofHex ["964-965 1CF2"]),
  ("sogdian", CodeSet.ofHex ["640"]),
  ("sylotinagri", CodeSet.ofHex ["964-965 9E6-9EF"]),
  ("syriac", CodeSet.ofHex [
    "303-304 307-308 30A 320 323-325 32D-32E 330 60C 61B-61C 61F 640 64B-655 670 1DF8 1DFA"]),
  ("tagalog", CodeSet.ofHex ["1735-1736"]),
  ("tagbanwa", CodeSet.ofHex ["1735-1736"]),
  ("taile", CodeSet.ofHex ["300-301 307-308 30C 1040-1049"]),
  ("takri", CodeSet.ofHex ["964-965 A830-A839"]),
  ("tamil", CodeSet.ofHex ["951-952 964-965 1CDA A8F3 11301 11303 1133B-1133C"]),
  ("tangut", CodeSet.ofHex ["2FF0-2FFF 31EF"]),
  ("telugu", CodeSet.ofHex ["951-952 964-965 1CDA 1CF2"]),
  ("thaana", CodeSet.ofHex ["60C 61B-61C 61F 660-669 FDF2 FDFD"]),
  ("thai", CodeSet.ofHex ["2BC 2D7 303 331"]),
  ("tibetan", CodeSet.ofHex ["3008-300B"]),
  ("tifinagh", CodeSet.ofHex ["302 304 306-309 323"]),
  ("tirhuta", CodeSet.ofHex ["951-952 964-965 1CF2 A830-A839"]),
  ("toto", CodeSet.ofHex ["2BC"]),
  ("yezidi", CodeSet.ofHex ["60C 61B 61F 660-669"]),
  ("yi", CodeSet.ofHex ["3001-3002 3008-3011 3014-301B 30FB FF61-FF65"]),
  ("garay", CodeSet.ofHex ["60C 61B 61F"]),
  ("gurungkhema", CodeSet.ofHex ["965"]),
  ("olonal", CodeSet.ofHex ["964-965"]),
  ("sunuwar", CodeSet.ofHex ["300-301 303 30D 310 32D 331"]),
  ("todhri", CodeSet.ofHex ["301 304 307 311 313 35E"]),
  ("tulutigalari", CodeSet.ofHex ["CE6-CEF 1CF2 1CF4 A830-A835 A8F1"])]

/-- The characters that some script shares. -/
def sharedByAny : CodeSet := CodeSet.unions (shared.map (·.2))

/-! ## 2. Scripts in the wider sense -/

/-- The characters that a script uses, from its names and its own characters. -/
def widen (names : List String) (own : CodeSet) : CodeSet :=
  if names.contains "common" || names.contains "inherited" then own.diff sharedByAny
  else CodeSet.unions (own :: (shared.filter fun row => names.contains row.1).map (·.2))

/-- The characters that the script of a given name uses. -/
def find? (name : String) : Option CodeSet :=
  (Script.named.find? fun (names, _) => names.contains name).map fun (names, own) =>
    widen names own

end MediaIndex.ScriptExtension
