import DocsConsole.CoreInstances
import DocsConsole.Unicode.Grapheme

/-!
# Widths

How many columns of a terminal a text takes.  Ideographs and pictographs take
two, marks take none, and a cluster that shows one pictograph takes two whatever
it is written with.
-/

namespace DocsConsole.Unicode

open scoped CoreInstances

/-- The values `W` and `F` of the property `East_Asian_Width`. -/
def wideRanges : CodeRanges := CodeRanges.ofText
  "1100-115F 231A-231B 2329-232A 23E9-23EC 23F0 23F3 25FD-25FE 2614-2615 2630-2637
   2648-2653 267F 268A-268F 2693 26A1 26AA-26AB 26BD-26BE 26C4-26C5 26CE 26D4 26EA
   26F2-26F3 26F5 26FA 26FD 2705 270A-270B 2728 274C 274E 2753-2755 2757 2795-2797 27B0
   27BF 2B1B-2B1C 2B50 2B55 2E80-2E99 2E9B-2EF3 2F00-2FD5 2FF0-303E 3041-3096 3099-30FF
   3105-312F 3131-318E 3190-31E5 31EF-321E 3220-3247 3250-A48C A490-A4C6 A960-A97C
   AC00-D7A3 F900-FAFF FE10-FE19 FE30-FE52 FE54-FE66 FE68-FE6B FF01-FF60 FFE0-FFE6
   16FE0-16FE4 16FF0-16FF1 17000-187F7 18800-18CD5 18CFF-18D08 1AFF0-1AFF3 1AFF5-1AFFB
   1AFFD-1AFFE 1B000-1B122 1B132 1B150-1B152 1B155 1B164-1B167 1B170-1B2FB 1D300-1D356
   1D360-1D376 1F004 1F0CF 1F18E 1F191-1F19A 1F200-1F202 1F210-1F23B 1F240-1F248
   1F250-1F251 1F260-1F265 1F300-1F320 1F32D-1F335 1F337-1F37C 1F37E-1F393 1F3A0-1F3CA
   1F3CF-1F3D3 1F3E0-1F3F0 1F3F4 1F3F8-1F43E 1F440 1F442-1F4FC 1F4FF-1F53D 1F54B-1F54E
   1F550-1F567 1F57A 1F595-1F596 1F5A4 1F5FB-1F64F 1F680-1F6C5 1F6CC 1F6D0-1F6D2
   1F6D5-1F6D7 1F6DC-1F6DF 1F6EB-1F6EC 1F6F4-1F6FC 1F7E0-1F7EB 1F7F0 1F90C-1F93A
   1F93C-1F945 1F947-1F9FF 1FA70-1FA7C 1FA80-1FA89 1FA8F-1FAC6 1FACE-1FADC 1FADF-1FAE9
   1FAF0-1FAF8 20000-2FFFD 30000-3FFFD"

/-- The property `Default_Ignorable_Code_Point`. -/
def ignorableRanges : CodeRanges := CodeRanges.ofText
  "AD 34F 61C 115F-1160 17B4-17B5 180B-180F 200B-200F 202A-202E 2060-206F 3164 FE00-FE0F FEFF
   FFA0 FFF0-FFF8 1BCA0-1BCA3 1D173-1D17A E0000-E0FFF"

/-- The property `Emoji` outside ASCII. -/
def emojiRanges : CodeRanges := CodeRanges.ofText
  "A9 AE 203C 2049 2122 2139 2194-2199 21A9-21AA 231A-231B 2328 23CF 23E9-23F3 23F8-23FA
   24C2 25AA-25AB 25B6 25C0 25FB-25FE 2600-2604 260E 2611 2614-2615 2618 261D 2620
   2622-2623 2626 262A 262E-262F 2638-263A 2640 2642 2648-2653 265F-2660 2663 2665-2666
   2668 267B 267E-267F 2692-2697 2699 269B-269C 26A0-26A1 26A7 26AA-26AB 26B0-26B1
   26BD-26BE 26C4-26C5 26C8 26CE-26CF 26D1 26D3-26D4 26E9-26EA 26F0-26F5 26F7-26FA 26FD
   2702 2705 2708-270D 270F 2712 2714 2716 271D 2721 2728 2733-2734 2744 2747 274C 274E
   2753-2755 2757 2763-2764 2795-2797 27A1 27B0 27BF 2934-2935 2B05-2B07 2B1B-2B1C 2B50
   2B55 3030 303D 3297 3299 1F004 1F0CF 1F170-1F171 1F17E-1F17F 1F18E 1F191-1F19A
   1F1E6-1F1FF 1F201-1F202 1F21A 1F22F 1F232-1F23A 1F250-1F251 1F300-1F321 1F324-1F393
   1F396-1F397 1F399-1F39B 1F39E-1F3F0 1F3F3-1F3F5 1F3F7-1F4FD 1F4FF-1F53D 1F549-1F54E
   1F550-1F567 1F56F-1F570 1F573-1F57A 1F587 1F58A-1F58D 1F590 1F595-1F596 1F5A4-1F5A5
   1F5A8 1F5B1-1F5B2 1F5BC 1F5C2-1F5C4 1F5D1-1F5D3 1F5DC-1F5DE 1F5E1 1F5E3 1F5E8 1F5EF
   1F5F3 1F5FA-1F64F 1F680-1F6C5 1F6CB-1F6D2 1F6D5-1F6D7 1F6DC-1F6E5 1F6E9 1F6EB-1F6EC
   1F6F0 1F6F3-1F6FC 1F7E0-1F7EB 1F7F0 1F90C-1F93A 1F93C-1F945 1F947-1F9FF 1FA70-1FA7C
   1FA80-1FA89 1FA8F-1FAC6 1FACE-1FADC 1FADF-1FAE9 1FAF0-1FAF8"

/-- Whether a character is a Hangul letter that is drawn into the one before it. -/
def isInnerJamo (c : Char) : Bool :=
  match BreakClass.ofHangul? c.toNat with
  | some .vowelJamo => true
  | some .trailingJamo => true
  | _ => false

/-- The width of a character by itself. -/
def charWidth (c : Char) : Nat :=
  if c.toNat ≤ 0xA0 then 1
  else if c.toNat = 0x115F then 2
  else if ignorableRanges.contains c || extendsGrapheme c || isInnerJamo c then 0
  else if wideRanges.contains c then 2
  else 1

/-- Whether a character can be shown as a pictograph. -/
def isEmoji (c : Char) : Bool :=
  if c.toNat < 0x80 then c.isDigit || c = '#' || c = '*' else emojiRanges.contains c

/-- Asks for the form of text. -/
def textSelector : Char := '\ufe0e'

/-- Asks for the form of a pictograph. -/
def pictureSelector : Char := '\ufe0f'

/-- Whether what follows the first character of a cluster makes it a pictograph. -/
def makesPicture (marks : List Char) : Bool :=
  marks.head? = some pictureSelector || marks.any isEmojiModifier ||
    marks.any pictographRanges.contains

def clusterWidth : List Char → Nat
  | [] => 0
  | ['\r', '\n'] => 1
  | first :: marks =>
      if isEmoji first && makesPicture marks then 2
      else if isEmoji first && marks.head? = some textSelector then 1
      else charWidth first + (marks.map charWidth).sum

/-- The letters of the joining group `LAM`. -/
def lamRanges : CodeRanges := CodeRanges.ofText "644 6B5-6B8 76A 8A6 8C7"

/-- The letters of the joining group `ALEF`. -/
def alefRanges : CodeRanges := CodeRanges.ofText
  "622-623 625 627 671-673 675 773-774 870-882"

/-- How many times a lam comes before an alef, with or without marks between them. -/
def lamAlefs (afterLam : Bool) : List Char → Nat
  | [] => 0
  | c :: rest =>
      if extendsGrapheme c then lamAlefs afterLam rest
      else (afterLam && alefRanges.contains c).toNat + lamAlefs (lamRanges.contains c) rest

/-- The width of a text.  A lam and an alef are written as one sign. -/
def textWidth (text : List Char) : Nat :=
  ((clusters text).map clusterWidth).sum - lamAlefs false text

end DocsConsole.Unicode
