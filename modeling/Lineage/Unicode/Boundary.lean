import Lineage.Unicode.Property

/-!
# Boundaries in text

The classes of characters by which the Unicode standard, version 16, finds the
boundaries of perceived characters, words and sentences, with their names in
letters and digits of lower case alone.
-/

namespace Lineage.Unicode.Boundary

open Property Description

/-- The syllables of Hangul with no final consonant: every 28th one. -/
def openSyllables : Description :=
  .ranges "AC00-D788/1C"

/-- Classes for the boundaries of perceived characters. -/
def graphemeClasses : List (List String × Description) :=
  [(["control", "cn"],
      .without
        (.anyOf
          [.categories [.lineSeparator, .paragraphSeparator, .control, .format],
            .inter (.category .unassigned) defaultIgnorable])
        (.anyOf [.ranges "A D", joiners, prependedMark, graphemeExtend])),
    (["cr"], .ranges "D"),
    (["extend", "ex"], .union graphemeExtend emojiModifier),
    (["l"], .ranges "1100-115F A960-A97C"),
    (["lf"], .ranges "A"),
    (["lv"], openSyllables),
    (["lvt"], .without (.ranges "AC00-D7A3") openSyllables),
    (["prepend", "pp"],
      .union prependedMark
        (.ranges "D4E 111C2-111C3 113D1 1193F 11941 11A3A 11A84-11A89 11D46 11F02")),
    (["regionalindicator", "ri"], regionalIndicator),
    (["spacingmark", "sm"],
      .union (.ranges "E33 EB3")
        (.without (.category .spacingMark)
          (.union graphemeExtend
            (.ranges
              "102B-102C 1038 1062-1064 1067-106D 1083 1087-108C 108F 109A-109C 1A61 1A63-1A64
              AA7B AA7D 11720-11721")))),
    (["t"], .ranges "11A8-11FF D7CB-D7FB"),
    (["v"], .ranges "1160-11A7 D7B0-D7C6 16D63 16D67-16D6A"),
    (["zwj"], .ranges "200D")]

/-- Marks that belong to the word of the character before them. -/
def wordExtend : Description :=
  .anyOf [graphemeExtend, .category .spacingMark, emojiModifier]

/-- The letters of Katakana and the signs used with them. -/
def katakana : Description :=
  .union (.script "katakana") (.ranges "3031-3035 309B-309C 30A0 30FC FF70")

/-- The letters of Hebrew. -/
def hebrewLetter : Description :=
  .inter (.script "hebrew") (.category .otherLetter)

/-- Characters of scripts whose words cannot be told apart by characters
alone. -/
def complexContext : Description :=
  .ranges
    "E01-E3A E40-E4E E81-E82 E84 E86-E8A E8C-EA3 EA5 EA7-EBD EC0-EC4 EC6 EC8-ECE EDC-EDF
    1000-103F 1050-108F 109A-109F 1780-17D3 17D7 17DC-17DD 1950-196D 1970-1974 1980-19AB
    19B0-19C9 19DA 19DE-19DF 1A20-1A5E 1A60-1A7C 1AA0-1AAD A9E0-A9EF A9FA-A9FE AA60-AAC2
    AADB-AADF 11700-1171A 1171D-1172B 1173A-1173B 1173F-11746"

/-- Classes for the boundaries of words. -/
def wordClasses : List (List String × Description) :=
  [(["aletter", "le"],
      .without
        (.union alphabetic
          (.ranges
            "2C2-2C5 2D2-2D7 2DE-2DF 2E5-2EB 2ED 2EF-2FF 55A-55C 55E 58A 5F3 A708-A716 A720-A721
            A789-A78A AB5B"))
        (.anyOf
          [ideographic, katakana, complexContext, .script "hiragana", wordExtend, hebrewLetter])),
    (["cr"], .ranges "D"),
    (["doublequote", "dq"], .ranges "22"),
    (["extend"], wordExtend),
    (["extendnumlet", "ex"], .ranges "5F 202F 203F-2040 2054 FE33-FE34 FE4D-FE4F FF3F"),
    (["format", "fo"],
      .without (.category .format)
        (.anyOf
          [.ranges "200B 600-605 6DD 890-891 8E2 110BD 110CD", joiners, graphemeExtend])),
    (["hebrewletter", "hl"], hebrewLetter),
    (["katakana", "ka"], katakana),
    (["lf"], .ranges "A"),
    (["midletter", "ml"], .ranges "3A B7 387 55F 5F4 2027 FE13 FE55 FF1A"),
    (["midnum", "mn"], .ranges "2C 3B 37E 589 60C-60D 66C 7F8 2044 FE10 FE14 FE50 FE54 FF0C FF1B"),
    (["midnumlet", "mb"], .ranges "2E 2018-2019 2024 FE52 FF07 FF0E"),
    (["newline", "nl"], .ranges "B-C 85 2028-2029"),
    (["numeric", "nu"],
      .union (.category .decimalNumber) (.ranges "600-605 66B 6DD 890-891 8E2 110BD 110CD")),
    (["regionalindicator", "ri"], regionalIndicator),
    (["singlequote", "sq"], .ranges "27"),
    (["wsegspace"], .ranges "20 1680 2000-2006 2008-200A 205F 3000"),
    (["zwj"], .ranges "200D")]

/-- Letters of lower case for sentences. -/
def sentenceLower : Description :=
  .without lowercase (.union graphemeExtend (.ranges "10D0-10FA 10FD-10FF"))

/-- Letters of upper case for sentences. -/
def sentenceUpper : Description :=
  .without (.union uppercase (.category .titlecaseLetter)) (.ranges "1C90-1CBA 1CBD-1CBF")

/-- Marks that belong to the sentence of the character before them. -/
def sentenceExtend : Description :=
  .anyOf [graphemeExtend, .category .spacingMark, .ranges "200D"]

/-- Full stops, which may end an abbreviation. -/
def fullStops : Description :=
  .ranges "2E 2024 FE52 FF0E"

/-- Classes for the boundaries of sentences. -/
def sentenceClasses : List (List String × Description) :=
  [(["aterm", "at"], fullStops),
    (["close", "cl"],
      .union
        (.categories
          [.openPunctuation, .closePunctuation, .initialPunctuation, .finalPunctuation])
        (.ranges "22 27 275B-2760 2E00-2E01 2E06-2E08 2E0B 1F676-1F678")),
    (["cr"], .ranges "D"),
    (["extend", "ex"], sentenceExtend),
    (["format", "fo"], .without (.category .format) (.union graphemeExtend (.ranges "200D"))),
    (["lf"], .ranges "A"),
    (["lower", "lo"], sentenceLower),
    (["numeric", "nu"], .union (.category .decimalNumber) (.ranges "66B-66C")),
    (["oletter", "le"],
      .without (.union alphabetic (.ranges "5F3"))
        (.anyOf [sentenceLower, sentenceUpper, sentenceExtend])),
    (["scontinue", "sc"],
      .ranges
        "2C-2D 3A 55D 60C-60D 7F8 1802 1808 2013-2014 3001 FE10-FE11 FE13 FE31-FE32 FE50-FE51 FE55
        FE58 FE63 FF0C-FF0D FF1A FF64"),
    (["sep", "se"], .ranges "85 2028-2029"),
    (["sp"], .without whiteSpace (.ranges "A D 85 2028-2029")),
    (["sterm", "st"], .without sentenceTerminal fullStops),
    (["upper", "up"], sentenceUpper)]

/-- The characters of the class with a name, in a table of classes. -/
def named? (classes : List (List String × Description)) (name : String) : Option CharSet :=
  (classes.find? fun (names, _) => names.contains name).map fun (_, d) => d.set

end Lineage.Unicode.Boundary
