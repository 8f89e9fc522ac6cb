import DocsConsole.Unicode.Printable

/-!
# Grapheme clusters

What a reader takes for one character may be written with several code points.
The standard gives each code point a class and says between which classes a
cluster may not be broken.
-/

namespace DocsConsole.Unicode

/-- The class of a code point that decides where clusters are broken. -/
inductive BreakClass where
  | carriageReturn
  | lineFeed
  | control
  | extend
  /-- Joins consonants to one letter; otherwise it extends a cluster. -/
  | linker
  /-- The joiner of zero width. -/
  | joiner
  /-- A letter of a flag. -/
  | regional
  | prepended
  | spacing
  | leadingJamo
  | vowelJamo
  | trailingJamo
  /-- A Hangul syllable without trailing consonant. -/
  | openSyllable
  /-- A Hangul syllable with a trailing consonant. -/
  | closedSyllable
  | pictograph
  /-- A consonant of a script that joins consonants. -/
  | consonant
  | other
deriving DecidableEq, Repr

/-- Controls outside ASCII, and format characters that are treated like them. -/
def controlRanges : CodeRanges := CodeRanges.ofText
  "80-9F AD 61C 180E 200B 200E-200F 2028-202E 2060-206F FEFF FFF0-FFFB 13430-1343F
   1BCA0-1BCA3 1D173-1D17A E0000-E001F E0080-E00FF E01F0-E0FFF"

/-- Marks that take up room of their own. -/
def spacingMarkRanges : CodeRanges := CodeRanges.ofText
  "903 93B 93E-940 949-94C 94E-94F 982-983 9BF-9C0 9C7-9C8 9CB-9CC A03 A3E-A40 A83 ABE-AC0
   AC9 ACB-ACC B02-B03 B40 B47-B48 B4B-B4C BBF BC1-BC2 BC6-BC8 BCA-BCC C01-C03 C41-C44
   C82-C83 CBE CC1 CC3-CC4 CF3 D02-D03 D3F-D40 D46-D48 D4A-D4C D82-D83 DD0-DD1 DD8-DDE
   DF2-DF3 E33 EB3 F3E-F3F F7F 1031 103B-103C 1056-1057 1084 1715 1734 17B6 17BE-17C5
   17C7-17C8 1923-1926 1929-192B 1930-1931 1933-1938 1A19-1A1A 1A55 1A57 1A6D-1A72 1B04
   1B3E-1B41 1B82 1BA1 1BA6-1BA7 1BE7 1BEA-1BEC 1BEE 1C24-1C2B 1C34-1C35 1CE1 1CF7
   A823-A824 A827 A880-A881 A8B4-A8C3 A952 A983 A9B4-A9B5 A9BA-A9BB A9BE-A9BF AA2F-AA30
   AA33-AA34 AA4D AAEB AAEE-AAEF AAF5 ABE3-ABE4 ABE6-ABE7 ABE9-ABEA ABEC 11000 11002 11082
   110B0-110B2 110B7-110B8 1112C 11145-11146 11182 111B3-111B5 111BF 111CE 1122C-1122E
   11232-11233 112E0-112E2 11302-11303 1133F 11341-11344 11347-11348 1134B-1134C
   11362-11363 113B9-113BA 113CA 113CC-113CD 11435-11437 11440-11441 11445 114B1-114B2
   114B9 114BB-114BC 114BE 114C1 115B0-115B1 115B8-115BB 115BE 11630-11632 1163B-1163C
   1163E 116AC 116AE-116AF 11726 1182C-1182E 11838 11931-11935 11937-11938 11940 11942
   119D1-119D3 119DC-119DF 119E4 11A39 11A57-11A58 11A97 11C2F 11C3E 11CA9 11CB1 11CB4
   11D8A-11D8E 11D93-11D94 11D96 11EF5-11EF6 11F03 11F34-11F35 11F3E-11F3F 1612A-1612C
   16F51-16F87 1D166 1D16D"

/-- Marks that belong to what follows them. -/
def prependedRanges : CodeRanges := CodeRanges.ofText
  "600-605 6DD 70F 890-891 8E2 D4E 110BD 110CD 111C2-111C3 113D1 1193F 11941 11A3A
   11A84-11A89 11D46 11F02"

/-- The property `Extended_Pictographic`. -/
def pictographRanges : CodeRanges := CodeRanges.ofText
  "A9 AE 203C 2049 2122 2139 2194-2199 21A9-21AA 231A-231B 2328 2388 23CF 23E9-23F3 23F8-23FA
   24C2 25AA-25AB 25B6 25C0 25FB-25FE 2600-2605 2607-2612 2614-2685 2690-2705 2708-2712 2714
   2716 271D 2721 2728 2733-2734 2744 2747 274C 274E 2753-2755 2757 2763-2767 2795-2797 27A1
   27B0 27BF 2934-2935 2B05-2B07 2B1B-2B1C 2B50 2B55 3030 303D 3297 3299 1F000-1F0FF
   1F10D-1F10F 1F12F 1F16C-1F171 1F17E-1F17F 1F18E 1F191-1F19A 1F1AD-1F1E5 1F201-1F20F 1F21A
   1F22F 1F232-1F23A 1F23C-1F23F 1F249-1F3FA 1F400-1F53D 1F546-1F64F 1F680-1F6FF 1F774-1F77F
   1F7D5-1F7FF 1F80C-1F80F 1F848-1F84F 1F85A-1F85F 1F888-1F88F 1F8AE-1F8FF 1F90C-1F93A
   1F93C-1F945 1F947-1FAFF 1FC00-1FFFD"

/-- Consonants that can be joined. -/
def consonantRanges : CodeRanges := CodeRanges.ofText
  "915-939 958-95F 978-97F 995-9A8 9AA-9B0 9B2 9B6-9B9 9DC-9DD 9DF 9F0-9F1 A95-AA8 AAA-AB0
   AB2-AB3 AB5-AB9 AF9 B15-B28 B2A-B30 B32-B33 B35-B39 B5C-B5D B5F B71 C15-C28 C2A-C39
   C58-C5A D15-D3A"

/-- Signs that join consonants. -/
def linkerRanges : CodeRanges := CodeRanges.ofText
  "94D 9CD ACD B4D C4D D4D"

/-- Whether a character changes the skin colour of the pictograph before it. -/
def isEmojiModifier (c : Char) : Bool :=
  0x1F3FB ≤ c.toNat && c.toNat ≤ 0x1F3FF

namespace BreakClass

/-- The class of a Hangul letter or syllable. -/
def ofHangul? (code : Nat) : Option BreakClass :=
  if 0x1100 ≤ code ∧ code ≤ 0x115F ∨ 0xA960 ≤ code ∧ code ≤ 0xA97C then some .leadingJamo
  else if 0x1160 ≤ code ∧ code ≤ 0x11A7 ∨ 0xD7B0 ≤ code ∧ code ≤ 0xD7C6 then some .vowelJamo
  else if 0x11A8 ≤ code ∧ code ≤ 0x11FF ∨ 0xD7CB ≤ code ∧ code ≤ 0xD7FB then
    some .trailingJamo
  else if 0xAC00 ≤ code ∧ code ≤ 0xD7A3 then
    some (if (code - 0xAC00) % 28 = 0 then .openSyllable else .closedSyllable)
  else none

/-- The class of a character outside ASCII. -/
def ofForeign (c : Char) : BreakClass :=
  match ofHangul? c.toNat with
  | some hangul => hangul
  | none =>
      if c = '\u200d' then .joiner
      else if 0x1F1E6 ≤ c.toNat ∧ c.toNat ≤ 0x1F1FF then .regional
      else if controlRanges.contains c then .control
      else if linkerRanges.contains c then .linker
      else if extendsGrapheme c || isEmojiModifier c then .extend
      else if spacingMarkRanges.contains c then .spacing
      else if prependedRanges.contains c then .prepended
      else if pictographRanges.contains c then .pictograph
      else if consonantRanges.contains c then .consonant
      else .other

def ofChar (c : Char) : BreakClass :=
  if c = '\r' then .carriageReturn
  else if c = '\n' then .lineFeed
  else if c.toNat < 0x20 ∨ c = '\x7f' then .control
  else if c.toNat < 0x80 then .other
  else ofForeign c

/-- Whether a class only extends a cluster. -/
def isExtension (kind : BreakClass) : Bool :=
  kind = .extend || kind = .linker

end BreakClass

/-- What counts of the text before a place. -/
structure BreakContext where
  last : BreakClass
  /-- An odd number of flag letters comes last. -/
  oddFlag : Bool
  /-- A pictograph comes last, perhaps extended. -/
  pictograph : Bool
  /-- A pictograph and a joiner come last. -/
  joinedPictograph : Bool
  /-- A consonant comes last, perhaps extended. -/
  consonant : Bool
  /-- A consonant comes last that is linked to the next one. -/
  linked : Bool
deriving DecidableEq, Repr

namespace BreakContext

def start : BreakContext :=
  ⟨.control, false, false, false, false, false⟩

/-- What counts after a further character. -/
def step (context : BreakContext) (next : BreakClass) : BreakContext :=
  let goesOn := next.isExtension || next = .joiner
  { last := next
    oddFlag := next = .regional && !context.oddFlag
    pictograph := next = .pictograph || (next.isExtension && context.pictograph)
    joinedPictograph := next = .joiner && context.pictograph
    consonant := next = .consonant || (goesOn && context.consonant)
    linked := goesOn && context.consonant && (next = .linker || context.linked) }

/-- Whether a character belongs to the cluster before it. -/
def joins (context : BreakContext) (next : BreakClass) : Bool :=
  match context.last, next with
  | .carriageReturn, .lineFeed => true
  | .carriageReturn, _ => false
  | .lineFeed, _ => false
  | .control, _ => false
  | _, .carriageReturn => false
  | _, .lineFeed => false
  | _, .control => false
  | _, .extend => true
  | _, .linker => true
  | _, .joiner => true
  | _, .spacing => true
  | .prepended, _ => true
  | .leadingJamo, .leadingJamo => true
  | .leadingJamo, .vowelJamo => true
  | .leadingJamo, .openSyllable => true
  | .leadingJamo, .closedSyllable => true
  | .vowelJamo, .vowelJamo => true
  | .vowelJamo, .trailingJamo => true
  | .openSyllable, .vowelJamo => true
  | .openSyllable, .trailingJamo => true
  | .trailingJamo, .trailingJamo => true
  | .closedSyllable, .trailingJamo => true
  | _, .consonant => context.linked
  | _, .pictograph => context.joinedPictograph
  | _, .regional => context.oddFlag
  | _, _ => false

end BreakContext

/-- The clusters of a text, given what comes before it and the cluster that it goes on with,
in reverse. -/
def clustersFrom (context : BreakContext) (cluster : List Char) : List Char → List (List Char)
  | [] => [cluster.reverse]
  | c :: rest =>
      if context.joins (.ofChar c) then
        clustersFrom (context.step (.ofChar c)) (c :: cluster) rest
      else cluster.reverse :: clustersFrom (context.step (.ofChar c)) [c] rest

/-- The grapheme clusters of a text. -/
def clusters : List Char → List (List Char)
  | [] => []
  | c :: rest => clustersFrom (BreakContext.start.step (.ofChar c)) [c] rest

theorem flatten_clustersFrom (context : BreakContext) (cluster text : List Char) :
    (clustersFrom context cluster text).flatten = cluster.reverse ++ text := by
  induction text generalizing context cluster with
  | nil => simp [clustersFrom]
  | cons c rest ih =>
      simp only [clustersFrom]
      split <;> simp [ih]

/-- The clusters of a text are the text. -/
theorem flatten_clusters (text : List Char) : (clusters text).flatten = text := by
  cases text with
  | nil => rfl
  | cons c rest => simp [clusters, flatten_clustersFrom]

end DocsConsole.Unicode
