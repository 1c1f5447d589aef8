import MediaIndex.Text.Age
import MediaIndex.Text.NamedProperty

/-!
# Widths on a screen

How many columns a text takes on a screen. The width of a text is not always the sum of the widths of
its characters: pictures join, a selector makes a sign a picture or a picture a sign, and some scripts
write two letters as one. So a text is measured from its end, and of what has been measured a
`Follower` is kept: that to which the character before could join.

* `Screen.charWidth` is the width of a character by itself (section 1);
* `Screen.measure` is the width of a character before a given follower (section 3);
* `Screen.width` is the width of a text (section 4).
-/

namespace MediaIndex.Screen

/-! ## 1. Single characters -/

/-- The characters of the edition that screens go by. -/
def known : CodeSet := (Age.find? "15.1").getD CodeSet.empty

/-- Vowels and final consonants of Hangul, which are drawn on the consonant before them. -/
def finalJamo : CodeSet := CodeSet.ofHex ["1160-11FF D7B0-D7C6 D7CB-D7FB"]

/-- Signs that are drawn above or below others. -/
def overprinted : CodeSet :=
  CodeSet.ofHex ["605 70F 890-891 8E2 CC0 CC7-CC8 CCA-CCB 1B3B 1B3D 1B43 A8FA 1171E"]

/-- Marks that screens draw beside the character they belong to. -/
def besideMark : CodeSet :=
  CodeSet.ofHex [
    "1715 1734 1B44 1BAA 1BF2-1BF3 2D7F A953 A9C0 111C0 11235 1134D 116B6 1193D 11F41 16FF0-16FF1",
    "1D166 1D16D"]

/-- Characters that take no room: they are drawn on others or not at all. -/
def narrowest : CodeSet :=
  (CodeSet.unions [(NamedProperty.graphemeExtend.inter known).diff besideMark,
    CharProperty.defaultIgnorable, finalJamo, overprinted]).diff (CodeSet.single 0x115F)

/-- Characters as wide as two others. -/
def wide : CodeSet :=
  CodeSet.ofHex [
    "1100-115F 231A-231B 2329-232A 23E9-23EC 23F0 23F3 25FD-25FE 2614-2615 2648-2653 267F 2693",
    "26A1 26AA-26AB 26BD-26BE 26C4-26C5 26CE 26D4 26EA 26F2-26F3 26F5 26FA 26FD 2705 270A-270B",
    "2728 274C 274E 2753-2755 2757 2795-2797 27B0 27BF 2B1B-2B1C 2B50 2B55 2E80-2E99 2E9B-2EF3",
    "2F00-2FD5 2FF0-3029 3030-303E 3041-3096 309B-30FF 3105-312F 3131-3163 3165-318E 3190-31E3",
    "31EF-321E 3220-3247 3250-4DBF 4E00-A48C A490-A4C6 A960-A97C AC00-D7A3 F900-FAFF FE10-FE19",
    "FE30-FE52 FE54-FE66 FE68-FE6B FF01-FF60 FFE0-FFE6 16FE0-16FE3 16FF0-16FF1 17000-187F7",
    "18800-18CD5 18D00-18D08 1AFF0-1AFF3 1AFF5-1AFFB 1AFFD-1AFFE 1B000-1B122 1B132 1B150-1B152",
    "1B155 1B164-1B167 1B170-1B2FB 1F004 1F0CF 1F18E 1F191-1F19A 1F200-1F202 1F210-1F23B",
    "1F240-1F248 1F250-1F251 1F260-1F265 1F300-1F320 1F32D-1F335 1F337-1F37C 1F37E-1F393",
    "1F3A0-1F3CA 1F3CF-1F3D3 1F3E0-1F3F0 1F3F4 1F3F8-1F43E 1F440 1F442-1F4FC 1F4FF-1F53D",
    "1F54B-1F54E 1F550-1F567 1F57A 1F595-1F596 1F5A4 1F5FB-1F64F 1F680-1F6C5 1F6CC 1F6D0-1F6D2",
    "1F6D5-1F6D7 1F6DC-1F6DF 1F6EB-1F6EC 1F6F4-1F6FC 1F7E0-1F7EB 1F7F0 1F90C-1F93A 1F93C-1F945",
    "1F947-1F9FF 1FA70-1FA7C 1FA80-1FA88 1FA90-1FABD 1FABF-1FAC5 1FACE-1FADB 1FAE0-1FAE8",
    "1FAF0-1FAF8 20000-2FFFD 30000-3FFFD"]

/-- The number of columns a character takes by itself. -/
def charWidth (c : Char) : Nat :=
  if c.toNat < 0xA1 then 1
  else if narrowest.contains c.toNat then 0
  else if c.toNat = 0x17D8 then 3
  else if c.toNat = 0x17A4 || wide.contains c.toNat then 2
  else 1

/-! ## 2. Pictures and ligatures -/

/-- Signs that a selector makes pictures. -/
def pictureBase : CodeSet :=
  CodeSet.ofHex [
    "23 2A 30-39 A9 AE 203C 2049 2122 2139 2194-2199 21A9-21AA 231A-231B 2328 23CF 23E9-23EA",
    "23ED-23EF 23F1-23F3 23F8-23FA 24C2 25AA-25AB 25B6 25C0 25FB-25FE 2600-2604 260E 2611",
    "2614-2615 2618 261D 2620 2622-2623 2626 262A 262E-262F 2638-263A 2640 2642 2648-2653",
    "265F-2660 2663 2665-2666 2668 267B 267E-267F 2692-2697 2699 269B-269C 26A0-26A1 26A7",
    "26AA-26AB 26B0-26B1 26BD-26BE 26C4-26C5 26C8 26CF 26D1 26D3-26D4 26E9-26EA 26F0-26F5",
    "26F7-26FA 26FD 2702 2708-2709 270C-270D 270F 2712 2714 2716 271D 2721 2733-2734 2744 2747",
    "2753 2757 2763-2764 27A1 2934-2935 2B05-2B07 2B1B-2B1C 2B50 2B55 3030 303D 3297 3299 1F004",
    "1F170-1F171 1F17E-1F17F 1F202 1F21A 1F22F 1F237 1F30D-1F30F 1F315 1F31C 1F321 1F324-1F32C",
    "1F336 1F378 1F37D 1F393 1F396-1F397 1F399-1F39B 1F39E-1F39F 1F3A7 1F3AC-1F3AE 1F3C2 1F3C4",
    "1F3C6 1F3CA-1F3CE 1F3D4-1F3E0 1F3ED 1F3F3 1F3F5 1F3F7 1F408 1F415 1F41F 1F426 1F43F",
    "1F441-1F442 1F446-1F449 1F44D-1F44E 1F453 1F46A 1F47D 1F4A3 1F4B0 1F4B3 1F4BB 1F4BF 1F4CB",
    "1F4DA 1F4DF 1F4E4-1F4E6 1F4EA-1F4ED 1F4F7 1F4F9-1F4FB 1F4FD 1F508 1F50D 1F512-1F513",
    "1F549-1F54A 1F550-1F567 1F56F-1F570 1F573-1F579 1F587 1F58A-1F58D 1F590 1F5A5 1F5A8",
    "1F5B1-1F5B2 1F5BC 1F5C2-1F5C4 1F5D1-1F5D3 1F5DC-1F5DE 1F5E1 1F5E3 1F5E8 1F5EF 1F5F3 1F5FA",
    "1F610 1F687 1F68D 1F691 1F694 1F698 1F6AD 1F6B2 1F6B9-1F6BA 1F6BC 1F6CB 1F6CD-1F6CF",
    "1F6E0-1F6E5 1F6E9 1F6F0 1F6F3"]

/-- Characters that are pictures by themselves. -/
def picture : CodeSet := NamedProperty.emojiPresentation.inter known

/-- Pictures that a selector makes signs, and narrow. -/
def signBase : CodeSet := (pictureBase.inter picture).diff (CodeSet.range 0x1F200 0x1F2FF)

/-- The selector for pictures. -/
def pictureSelector : Char := Char.ofNat 0xFE0F

/-- The selector for signs. -/
def signSelector : Char := Char.ofNat 0xFE0E

/-- The joiner. -/
def zeroWidthJoiner : Char := Char.ofNat 0x200D

/-- The letters that join to an alef after them. -/
def lam : CodeSet := CodeSet.ofHex ["644 6B5-6B8 76A 8A6 8C7"]

/-- The forms of the letter alef. -/
def alef : CodeSet := CodeSet.ofHex ["622-623 625 627 671-673 675 773-774 870-882"]

/-- Marks through which a lam and an alef join. -/
def transparent : CodeSet :=
  (narrowest.inter (CodeSet.unions [GeneralCategory.nonspacingMark, GeneralCategory.enclosingMark,
    GeneralCategory.format])).diff
    (CodeSet.ofHex ["605 890-891 8E2 180E 200C-200D 2066-2069"])

/-- Marks that are not shown, through which letters of other scripts join. -/
def invisibleMark : CodeSet := CodeSet.ofHex ["34F 17B4-17B5 180B-180D 180F FE00-FE0F E0100-E01EF"]

/-- Consonants of the Tifinagh script. -/
def tifinaghConsonant : CodeSet := CodeSet.ofHex ["2D31-2D65 2D6F"]

/-- Letters of the Khmer script that are drawn below the letter before them when a sign asks for it. -/
def subscriptLetter : CodeSet :=
  CodeSet.ofHex [
    "1780-1782 1784-1787 1789-178C 178E-1793 1795-1798 179B-179D 17A0 17A2 17A7 17AB-17AC 17AF"]

/-! ## 3. Characters in a text -/

/-- What follows a character, as far as the character could join to it. -/
inductive Follower where
  | plain
  | lineFeed
  /-- A tone of skin. -/
  | tone
  /-- A letter of a flag. -/
  | flagLetter
  /-- Several letters of flags. -/
  | flagLetters
  | picture
  /-- A joiner and a picture. -/
  | joined
  /-- A key cap, a joiner and a picture. -/
  | keycapJoined
  /-- A letter of a flag, or an odd number of them, before a joiner and a picture; `first` if it is
      one. -/
  | oddFlagJoined (first : Bool)
  /-- An even number of letters of flags before a joiner and a picture. -/
  | flagJoined
  /-- Tags, the end of a tag sequence, a joiner and a picture. -/
  | tagsJoined (tags : List Nat)
  | alef
  /-- The letter lamed, perhaps after a joiner. -/
  | lamed (joiner : Bool)
  /-- The letter ya of Buginese, perhaps after a joiner. -/
  | ya (joiner : Bool)
  /-- The vowel sign i, a joiner and the letter ya of Buginese. -/
  | vowelYa
  /-- A consonant of Tifinagh, perhaps after a joiner. -/
  | tifinagh (joiner : Bool)
  /-- The joiner of Tifinagh and a consonant. -/
  | tifinaghJoined
  /-- The second part of a tone letter of Lisu. -/
  | lisuTone
  /-- The letter i of Orkhon, perhaps after a joiner. -/
  | orkhonI (joiner : Bool)
  /-- A letter of Khmer that can be drawn below another. -/
  | subscript
deriving DecidableEq, Repr

/-- What follows a character, and the selectors between the two. -/
structure Ahead where
  follower : Follower := .plain
  /-- The selector for signs. -/
  asSign : Bool := false
  /-- The selector for pictures. -/
  asPicture : Bool := false
deriving DecidableEq, Repr

namespace Follower

/-- It is a letter with which another one can make a ligature. -/
def isLetter : Follower → Bool
  | alef | lamed _ | ya _ | vowelYa | tifinagh _ | tifinaghJoined | lisuTone | orkhonI _
  | subscript => true
  | _ => false

/-- It begins with a joiner, or takes up one that is put before it. -/
def withJoiner? : Follower → Option Follower
  | lamed _ => some (lamed true)
  | ya _ => some (ya true)
  | tifinagh _ => some (tifinagh true)
  | orkhonI _ => some (orkhonI true)
  | vowelYa => some vowelYa
  | tifinaghJoined => some tifinaghJoined
  | lisuTone => some lisuTone
  | subscript => some subscript
  | _ => none

/-- It is a picture after a joiner, so that a picture before it takes no room of its own. -/
def isJoined : Follower → Bool
  | joined | keycapJoined => true
  | _ => false

end Follower

/-- The letters or digits that tags stand for name a part of a country: two letters or three digits for
    the country, and one to four letters or digits for the part. -/
def nameRegion (tags : List Nat) : Bool :=
  let isLetter (t : Nat) : Bool := decide (0x61 ≤ t)
  (tags.length ≤ 6 && 3 ≤ tags.length && (tags.take 2).all isLetter) ||
    (tags.length ≤ 7 && 4 ≤ tags.length && (tags.take 3).all fun t => !isLetter t)

/-- The letter or digit that a tag stands for. -/
def tagValue? (c : Nat) : Option Nat :=
  let t := c - 0xE0000
  if (0xE0030 ≤ c ∧ c ≤ 0xE0039) ∨ (0xE0061 ≤ c ∧ c ≤ 0xE007A) then some t else none

/-- The width of a character to which nothing joins, and what it is for the character before it. -/
def alone (c : Char) : Nat × Ahead :=
  let n := c.toNat
  let follower : Follower :=
    if NamedProperty.regionalIndicator.contains n then .flagLetter
    else if NamedProperty.emojiModifier.contains n then .tone
    else if picture.contains n then .picture
    else if alef.contains n then .alef
    else if n = 0x5DC then .lamed false
    else if n = 0x1A10 then .ya false
    else if tifinaghConsonant.contains n then .tifinagh false
    else if n = 0xA4FC || n = 0xA4FD then .lisuTone
    else if n = 0x10C03 then .orkhonI false
    else if subscriptLetter.contains n then .subscript
    else .plain
  (charWidth c, { follower, asSign := c == signSelector, asPicture := c == pictureSelector })

/-- How a character joins to what follows: how many columns that adds or saves, and what the two are
    for the character before them. -/
def join? (c : Char) (next : Follower) : Option (Int × Follower) :=
  let n := c.toNat
  let isFlagLetter := NamedProperty.regionalIndicator.contains n
  match next with
  | .alef =>
    if lam.contains n then some (0, .plain) else if transparent.contains n then some (0, .alef) else none
  | .lamed true => if n = 0x5D0 then some (0, .plain) else none
  | .subscript => if n = 0x17D2 then some (-1, .plain) else none
  | .ya true => if n = 0x1A17 then some (0, .vowelYa) else none
  | .vowelYa => if n = 0x1A15 then some (0, .plain) else none
  | .tifinagh joiner =>
    if n = 0x2D7F then some (1, .tifinaghJoined)
    else if joiner && tifinaghConsonant.contains n then some (0, .plain)
    else none
  | .tifinaghJoined => if tifinaghConsonant.contains n then some (-1, .plain) else none
  | .lisuTone => if 0xA4F8 ≤ n && n ≤ 0xA4FB then some (0, .plain) else none
  | .orkhonI true => if n = 0x10C32 then some (0, .plain) else none
  | .tone =>
    if NamedProperty.emojiModifierBase.contains n then some (0, .picture)
    else if c = zeroWidthJoiner then some (0, .joined)
    else none
  | .flagLetter => if isFlagLetter then some (1, .flagLetters) else none
  | .flagLetters =>
    if isFlagLetter then some (1, .flagLetters)
    else if c = zeroWidthJoiner then some (0, .joined)
    else none
  | .picture => if c = zeroWidthJoiner then some (0, .joined) else none
  | .joined =>
    if n = 0x20E3 then some (0, .keycapJoined)
    else if isFlagLetter then some (1, .oddFlagJoined true)
    else if NamedProperty.emojiModifier.contains n then some (0, .tone)
    else if n = 0xE007F then some (0, .tagsJoined [])
    else if picture.contains n then some (0, .picture)
    else none
  | .oddFlagJoined _ =>
    if isFlagLetter then some (-1, .flagJoined)
    else if c = zeroWidthJoiner && next == .oddFlagJoined false then some (0, .joined)
    else none
  | .flagJoined =>
    if isFlagLetter then some (3, .oddFlagJoined false)
    else if c = zeroWidthJoiner then some (0, .joined)
    else none
  | .tagsJoined tags =>
    match tagValue? n with
    | some t => some (0, .tagsJoined (t :: tags))
    | none => if n = 0x1F3F4 && nameRegion tags then some (0, .picture) else none
  | _ => none

/-- How many columns a character takes, or saves, before what follows it, and what it is for the
    character before it. -/
def measure (c : Char) (next : Ahead) : Int × Ahead :=
  if next.asPicture && pictureBase.contains c.toNat then
    (if next.follower.isJoined then 0 else 2, { follower := .picture })
  else
    let next : Ahead :=
      if !next.asPicture then next
      else if next.follower.isLetter then { next with asPicture := false }
      else {}
    if c.toNat < 0xA1 then
      if c = '\n' then (1, { follower := .lineFeed })
      else if c = '\r' && next == { follower := .lineFeed } then (0, {})
      else (1, {})
    else if next == {} then ((alone c).1, (alone c).2)
    else if c = pictureSelector then
      if next.follower.isLetter || next.follower.isJoined then (0, { next with asPicture := true })
      else (0, { asPicture := true })
    else if c = signSelector then
      if next.follower.isLetter then (0, { next with asSign := true }) else (0, { asSign := true })
    else if next.asSign && signBase.contains c.toNat then (1, {})
    else
      let joiner := if c = zeroWidthJoiner then next.follower.withJoiner? else none
      match joiner with
      | some follower => (0, { follower })
      | none =>
        if next.follower.withJoiner?.isSome && invisibleMark.contains c.toNat then
          (0, { follower := next.follower })
        else match join? c next.follower with
          | some (w, follower) => (w, { follower })
          | none => ((alone c).1, (alone c).2)

/-! ## 4. Texts -/

/-- The number of columns a text takes. -/
def width (cs : List Char) : Nat :=
  (cs.foldr (fun c (sum, next) => let (w, next) := measure c next; (sum + w, next))
    ((0 : Int), ({} : Ahead))).1.toNat

end MediaIndex.Screen
