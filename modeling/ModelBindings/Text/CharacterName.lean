import ModelBindings.Text.CharacterName.A
import ModelBindings.Text.CharacterName.B
import ModelBindings.Text.CharacterName.C
import ModelBindings.Text.CharacterName.DToG
import ModelBindings.Text.CharacterName.HToK
import ModelBindings.Text.CharacterName.L
import ModelBindings.Text.CharacterName.M
import ModelBindings.Text.CharacterName.NToQ
import ModelBindings.Text.CharacterName.RToS
import ModelBindings.Text.CharacterName.TToZ
import ModelBindings.Text.Digits
import ModelBindings.Text.Lines

/-!
# Character names

The names that Unicode 14 gives to characters, with their aliases. Most are listed; the names of
ideographs are made of a beginning and the code of the character, and those of Korean syllables of
the names of their letters. A name may be written in any case, but that of a unified ideograph or of
a Korean syllable only in capital letters.

* `isCharacterName` : a text names a character.
-/

set_option autoImplicit false

namespace ModelBindings.Text

namespace CharacterName

/-- A beginning of names, and between commas the endings that go with it. -/
abbrev Group := String × String

/-- All listed names. -/
def groups : List Group :=
  namesA ++ namesB ++ namesC ++ namesDToG ++ namesHToK ++ namesL ++ namesM ++ namesNToQ
    ++ namesRToS ++ namesTToZ

/-- The name is one of a group. -/
def Group.has (g : Group) (name : List CodePoint) : Bool :=
  match (g.1 : Text).toList.isPrefixOf? name with
  | some ending => (segments ',' (g.2 : Text).toList).contains ending
  | none => false

/-- The name is listed. -/
def isListed (name : List CodePoint) : Bool :=
  groups.any fun g => g.has name

/-! ## Ideographs -/

/-- The code of a character: four or five digits to the base sixteen, with capital letters. -/
def code? (cs : List CodePoint) : Option Nat :=
  if (cs.length = 4 ∨ cs.length = 5) ∧ !cs.any CodePoint.isLower then ofHex? cs else none

/-- The text is the code of a character in some ranges. -/
def isCodeIn (ranges : Ranges) (cs : List CodePoint) : Bool :=
  match code? cs with
  | some n => ranges.has (CodePoint.ofNat n)
  | none => false

/-- The unified ideographs. -/
def unifiedRanges : Ranges :=
  [(0x3400, 0x4dbf), (0x4e00, 0x9fff), (0x20000, 0x2a6df), (0x2a700, 0x2b738), (0x2b740, 0x2b81d),
   (0x2b820, 0x2cea1), (0x2ceb0, 0x2ebe0), (0x30000, 0x3134a)]

/-- The name is that of a unified ideograph. -/
def isUnified (name : List CodePoint) : Bool :=
  match ("CJK UNIFIED IDEOGRAPH-" : Text).toList.isPrefixOf? name with
  | some code => isCodeIn unifiedRanges code
  | none => false

/-- The other characters that are named by their codes, with the beginnings of their names. -/
def codedNames : List (Text × Ranges) :=
  [("CJK COMPATIBILITY IDEOGRAPH-", [(0xf900, 0xfa6d), (0xfa70, 0xfad9), (0x2f800, 0x2fa1d)]),
   ("KHITAN SMALL SCRIPT CHARACTER-", [(0x18b00, 0x18cd5)]),
   ("NUSHU CHARACTER-", [(0x1b170, 0x1b2fb)])]

/-- The name ends in the code of a character, with no zero in front. -/
def isCoded (name : List CodePoint) : Bool :=
  codedNames.any fun p =>
    match p.1.toList.isPrefixOf? name with
    | some code => code.head? != some (.char '0') && isCodeIn p.2 code
    | none => false

/-! ## Korean syllables -/

/-- The names of the letters that a syllable starts with; the last one is silent. -/
def initials : List Text :=
  ["G", "GG", "N", "D", "DD", "R", "M", "B", "BB", "S", "SS", "J", "JJ", "C", "K", "T", "P",
    "H", ""]

/-- The names of the vowels. -/
def vowels : List Text :=
  ["A", "AE", "YA", "YAE", "EO", "E", "YEO", "YE", "O", "WA", "WAE", "OE", "YO", "U", "WEO", "WE",
   "WI", "YU", "EU", "YI", "I"]

/-- The names of the letters that a syllable ends with; it may end with its vowel. -/
def finals : List Text :=
  ["", "G", "GG", "GS", "N", "NJ", "NH", "D", "L", "LG", "LM", "LB", "LS", "LT", "LP", "LH", "M",
   "B", "BS", "S", "SS", "NG", "J", "C", "K", "T", "P", "H"]

/-- A letter in the name of a vowel. -/
def isVowelLetter (c : CodePoint) : Bool :=
  ("AEIOUWY" : Text).toList.contains c

/-- The name is that of a Korean syllable. -/
def isSyllable (name : List CodePoint) : Bool :=
  match ("HANGUL SYLLABLE " : Text).toList.isPrefixOf? name with
  | some letters =>
    let first := letters.takeWhile fun c => !isVowelLetter c
    let rest := letters.dropWhile fun c => !isVowelLetter c
    initials.contains (Text.ofList first)
      && vowels.contains (Text.ofList (rest.takeWhile isVowelLetter))
      && finals.contains (Text.ofList (rest.dropWhile isVowelLetter))
  | none => false

end CharacterName

open CharacterName in
/-- The text names a character. -/
def isCharacterName (cs : List CodePoint) : Bool :=
  let name := cs.map CodePoint.toUpper
  isSyllable cs || isUnified cs || isCoded name || isListed name

end ModelBindings.Text
