import TextScan.Text.Basic
import TextScan.Unicode.Ranges

/-!
# Characters by name

A pattern may give a character by its name (`named?`). The names of Hangul syllables and of unified
ideographs follow rules. All other names are listed, by rows of characters whose names begin alike
(`rows`); control characters have no names, but are known by others (`aliases`). Listed are the
blocks of Latin letters up to Latin Extended-A, Greek and Coptic, Cyrillic, General Punctuation and
Currency Symbols; the characters of other blocks are not known by name.
-/

namespace TextScan.Unicode

/-! ## Names by rule -/

/-- The place of the longest spelling that a text begins with, and the text after it. -/
def longest? (spellings : List String) (t : Text) : Option (Nat × Text) :=
  spellings.zipIdx.foldl
    (fun best entry =>
      match entry.1.toList.isPrefixOf? t, best with
      | none, _ => best
      | some rest, none => some (entry.2, rest)
      | some rest, some found =>
        if rest.length < found.2.length then some (entry.2, rest) else best)
    none

/-- How the first parts of Hangul syllables are spelt. -/
def initials : List String :=
  ["G", "GG", "N", "D", "DD", "R", "M", "B", "BB", "S", "SS", "", "J", "JJ", "C", "K", "T", "P",
    "H"]

/-- How the middle parts of Hangul syllables are spelt. -/
def medials : List String :=
  ["A", "AE", "YA", "YAE", "EO", "E", "YEO", "YE", "O", "WA", "WAE", "OE", "YO", "U", "WEO", "WE",
    "WI", "YU", "EU", "YI", "I"]

/-- How the last parts of Hangul syllables are spelt. -/
def finals : List String :=
  ["", "G", "GG", "GS", "N", "NJ", "NH", "D", "L", "LG", "LM", "LB", "LS", "LT", "LP", "LH", "M",
    "B", "BS", "S", "SS", "NG", "J", "C", "K", "T", "P", "H"]

/-- The code point of the Hangul syllable with a spelling. -/
def syllable? (spelling : Text) : Option Nat := do
  let (initial, t) ← longest? initials spelling
  let (medial, t) ← longest? medials t
  let (final, t) ← longest? finals t
  if t.isEmpty then
    some (0xac00 + (initial * medials.length + medial) * finals.length + final)
  else none

/-- The unified ideographs. -/
def ideographs : Ranges :=
  [(0x3400, 0x4dbf), (0x4e00, 0x9fff), (0x20000, 0x2a6df), (0x2a700, 0x2b738), (0x2b740, 0x2b81d),
   (0x2b820, 0x2cea1), (0x2ceb0, 0x2ebe0), (0x30000, 0x3134a)]

/-- The code point of the unified ideograph that four or five upper-case hexadecimal digits stand
for. -/
def ideograph? (digits : Text) : Option Nat := do
  let values ← digits.mapM ("0123456789ABCDEF".toList.idxOf? ·)
  let code := values.foldl (16 * · + ·) 0
  if (digits.length = 4 ∨ digits.length = 5) ∧ ideographs.has code then some code else none

/-! ## Names that are listed -/

/-- Characters with consecutive code points whose names begin alike: for each ending in turn, there
is one with each of the beginnings. -/
structure NameRow where
  /-- The first code point. -/
  first : Nat
  /-- How the names begin. -/
  stems : List String
  /-- How they end. -/
  endings : List String

/-- The code point of the character of a row with a name. -/
def NameRow.find? (row : NameRow) (name : Text) : Option Nat :=
  row.stems.zipIdx.findSome? fun stem => do
    let ending ← stem.1.toList.isPrefixOf? name
    let place ← row.endings.findIdx? (·.toList == ending)
    some (row.first + place * row.stems.length + stem.2)

/-- The rows of characters with names, block by block. -/
def rows : List NameRow := [
  -- Basic Latin.
  ⟨0x0020, [""],
    ["SPACE", "EXCLAMATION MARK", "QUOTATION MARK", "NUMBER SIGN", "DOLLAR SIGN", "PERCENT SIGN",
      "AMPERSAND", "APOSTROPHE", "LEFT PARENTHESIS", "RIGHT PARENTHESIS", "ASTERISK", "PLUS SIGN",
      "COMMA", "HYPHEN-MINUS", "FULL STOP", "SOLIDUS"]⟩,
  ⟨0x0030, ["DIGIT "],
    ["ZERO", "ONE", "TWO", "THREE", "FOUR", "FIVE", "SIX", "SEVEN", "EIGHT", "NINE"]⟩,
  ⟨0x003a, [""],
    ["COLON", "SEMICOLON", "LESS-THAN SIGN", "EQUALS SIGN", "GREATER-THAN SIGN", "QUESTION MARK",
      "COMMERCIAL AT"]⟩,
  ⟨0x0041, ["LATIN CAPITAL LETTER "],
    ["A", "B", "C", "D", "E", "F", "G", "H", "I", "J", "K", "L", "M", "N", "O", "P", "Q", "R",
      "S", "T", "U", "V", "W", "X", "Y", "Z"]⟩,
  ⟨0x005b, [""],
    ["LEFT SQUARE BRACKET", "REVERSE SOLIDUS", "RIGHT SQUARE BRACKET", "CIRCUMFLEX ACCENT",
      "LOW LINE", "GRAVE ACCENT"]⟩,
  ⟨0x0061, ["LATIN SMALL LETTER "],
    ["A", "B", "C", "D", "E", "F", "G", "H", "I", "J", "K", "L", "M", "N", "O", "P", "Q", "R",
      "S", "T", "U", "V", "W", "X", "Y", "Z"]⟩,
  ⟨0x007b, [""], ["LEFT CURLY BRACKET", "VERTICAL LINE", "RIGHT CURLY BRACKET", "TILDE"]⟩,
  -- Latin-1 Supplement.
  ⟨0x00a0, [""],
    ["NO-BREAK SPACE", "INVERTED EXCLAMATION MARK", "CENT SIGN", "POUND SIGN", "CURRENCY SIGN",
      "YEN SIGN", "BROKEN BAR", "SECTION SIGN", "DIAERESIS", "COPYRIGHT SIGN",
      "FEMININE ORDINAL INDICATOR", "LEFT-POINTING DOUBLE ANGLE QUOTATION MARK", "NOT SIGN",
      "SOFT HYPHEN", "REGISTERED SIGN", "MACRON", "DEGREE SIGN", "PLUS-MINUS SIGN",
      "SUPERSCRIPT TWO", "SUPERSCRIPT THREE", "ACUTE ACCENT", "MICRO SIGN", "PILCROW SIGN",
      "MIDDLE DOT", "CEDILLA", "SUPERSCRIPT ONE", "MASCULINE ORDINAL INDICATOR",
      "RIGHT-POINTING DOUBLE ANGLE QUOTATION MARK", "VULGAR FRACTION ONE QUARTER",
      "VULGAR FRACTION ONE HALF", "VULGAR FRACTION THREE QUARTERS", "INVERTED QUESTION MARK"]⟩,
  ⟨0x00c0, ["LATIN CAPITAL LETTER "],
    ["A WITH GRAVE", "A WITH ACUTE", "A WITH CIRCUMFLEX", "A WITH TILDE", "A WITH DIAERESIS",
      "A WITH RING ABOVE", "AE", "C WITH CEDILLA", "E WITH GRAVE", "E WITH ACUTE",
      "E WITH CIRCUMFLEX", "E WITH DIAERESIS", "I WITH GRAVE", "I WITH ACUTE",
      "I WITH CIRCUMFLEX", "I WITH DIAERESIS", "ETH", "N WITH TILDE", "O WITH GRAVE",
      "O WITH ACUTE", "O WITH CIRCUMFLEX", "O WITH TILDE", "O WITH DIAERESIS"]⟩,
  ⟨0x00d7, [""], ["MULTIPLICATION SIGN"]⟩,
  ⟨0x00d8, ["LATIN CAPITAL LETTER "],
    ["O WITH STROKE", "U WITH GRAVE", "U WITH ACUTE", "U WITH CIRCUMFLEX", "U WITH DIAERESIS",
      "Y WITH ACUTE", "THORN"]⟩,
  ⟨0x00df, ["LATIN SMALL LETTER "],
    ["SHARP S", "A WITH GRAVE", "A WITH ACUTE", "A WITH CIRCUMFLEX", "A WITH TILDE",
      "A WITH DIAERESIS", "A WITH RING ABOVE", "AE", "C WITH CEDILLA", "E WITH GRAVE",
      "E WITH ACUTE", "E WITH CIRCUMFLEX", "E WITH DIAERESIS", "I WITH GRAVE", "I WITH ACUTE",
      "I WITH CIRCUMFLEX", "I WITH DIAERESIS", "ETH", "N WITH TILDE", "O WITH GRAVE",
      "O WITH ACUTE", "O WITH CIRCUMFLEX", "O WITH TILDE", "O WITH DIAERESIS"]⟩,
  ⟨0x00f7, [""], ["DIVISION SIGN"]⟩,
  ⟨0x00f8, ["LATIN SMALL LETTER "],
    ["O WITH STROKE", "U WITH GRAVE", "U WITH ACUTE", "U WITH CIRCUMFLEX", "U WITH DIAERESIS",
      "Y WITH ACUTE", "THORN", "Y WITH DIAERESIS"]⟩,
  -- Latin Extended-A.
  ⟨0x0100, ["LATIN CAPITAL LETTER ", "LATIN SMALL LETTER "],
    ["A WITH MACRON", "A WITH BREVE", "A WITH OGONEK", "C WITH ACUTE", "C WITH CIRCUMFLEX",
      "C WITH DOT ABOVE", "C WITH CARON", "D WITH CARON", "D WITH STROKE", "E WITH MACRON",
      "E WITH BREVE", "E WITH DOT ABOVE", "E WITH OGONEK", "E WITH CARON", "G WITH CIRCUMFLEX",
      "G WITH BREVE", "G WITH DOT ABOVE", "G WITH CEDILLA", "H WITH CIRCUMFLEX", "H WITH STROKE",
      "I WITH TILDE", "I WITH MACRON", "I WITH BREVE", "I WITH OGONEK"]⟩,
  ⟨0x0130, ["LATIN "], ["CAPITAL LETTER I WITH DOT ABOVE", "SMALL LETTER DOTLESS I"]⟩,
  ⟨0x0132, ["LATIN CAPITAL ", "LATIN SMALL "],
    ["LIGATURE IJ", "LETTER J WITH CIRCUMFLEX", "LETTER K WITH CEDILLA"]⟩,
  ⟨0x0138, [""], ["LATIN SMALL LETTER KRA"]⟩,
  ⟨0x0139, ["LATIN CAPITAL LETTER ", "LATIN SMALL LETTER "],
    ["L WITH ACUTE", "L WITH CEDILLA", "L WITH CARON", "L WITH MIDDLE DOT", "L WITH STROKE",
      "N WITH ACUTE", "N WITH CEDILLA", "N WITH CARON"]⟩,
  ⟨0x0149, [""], ["LATIN SMALL LETTER N PRECEDED BY APOSTROPHE"]⟩,
  ⟨0x014a, ["LATIN CAPITAL ", "LATIN SMALL "],
    ["LETTER ENG", "LETTER O WITH MACRON", "LETTER O WITH BREVE", "LETTER O WITH DOUBLE ACUTE",
      "LIGATURE OE"]⟩,
  ⟨0x0154, ["LATIN CAPITAL LETTER ", "LATIN SMALL LETTER "],
    ["R WITH ACUTE", "R WITH CEDILLA", "R WITH CARON", "S WITH ACUTE", "S WITH CIRCUMFLEX",
      "S WITH CEDILLA", "S WITH CARON", "T WITH CEDILLA", "T WITH CARON", "T WITH STROKE",
      "U WITH TILDE", "U WITH MACRON", "U WITH BREVE", "U WITH RING ABOVE", "U WITH DOUBLE ACUTE",
      "U WITH OGONEK", "W WITH CIRCUMFLEX", "Y WITH CIRCUMFLEX"]⟩,
  ⟨0x0178, [""], ["LATIN CAPITAL LETTER Y WITH DIAERESIS"]⟩,
  ⟨0x0179, ["LATIN CAPITAL LETTER Z WITH ", "LATIN SMALL LETTER Z WITH "],
    ["ACUTE", "DOT ABOVE", "CARON"]⟩,
  ⟨0x017f, [""], ["LATIN SMALL LETTER LONG S"]⟩,
  -- Greek and Coptic.
  ⟨0x0370, ["GREEK CAPITAL ", "GREEK SMALL "], ["LETTER HETA", "LETTER ARCHAIC SAMPI"]⟩,
  ⟨0x0374, ["GREEK "],
    ["NUMERAL SIGN", "LOWER NUMERAL SIGN", "CAPITAL LETTER PAMPHYLIAN DIGAMMA",
      "SMALL LETTER PAMPHYLIAN DIGAMMA"]⟩,
  ⟨0x037a, ["GREEK "],
    ["YPOGEGRAMMENI", "SMALL REVERSED LUNATE SIGMA SYMBOL", "SMALL DOTTED LUNATE SIGMA SYMBOL",
      "SMALL REVERSED DOTTED LUNATE SIGMA SYMBOL", "QUESTION MARK", "CAPITAL LETTER YOT"]⟩,
  ⟨0x0384, ["GREEK "],
    ["TONOS", "DIALYTIKA TONOS", "CAPITAL LETTER ALPHA WITH TONOS", "ANO TELEIA",
      "CAPITAL LETTER EPSILON WITH TONOS", "CAPITAL LETTER ETA WITH TONOS",
      "CAPITAL LETTER IOTA WITH TONOS"]⟩,
  ⟨0x038c, [""], ["GREEK CAPITAL LETTER OMICRON WITH TONOS"]⟩,
  ⟨0x038e, ["GREEK "],
    ["CAPITAL LETTER UPSILON WITH TONOS", "CAPITAL LETTER OMEGA WITH TONOS",
      "SMALL LETTER IOTA WITH DIALYTIKA AND TONOS"]⟩,
  ⟨0x0391, ["GREEK CAPITAL LETTER "],
    ["ALPHA", "BETA", "GAMMA", "DELTA", "EPSILON", "ZETA", "ETA", "THETA", "IOTA", "KAPPA",
      "LAMDA", "MU", "NU", "XI", "OMICRON", "PI", "RHO"]⟩,
  ⟨0x03a3, ["GREEK CAPITAL LETTER "],
    ["SIGMA", "TAU", "UPSILON", "PHI", "CHI", "PSI", "OMEGA", "IOTA WITH DIALYTIKA",
      "UPSILON WITH DIALYTIKA"]⟩,
  ⟨0x03ac, ["GREEK SMALL LETTER "],
    ["ALPHA WITH TONOS", "EPSILON WITH TONOS", "ETA WITH TONOS", "IOTA WITH TONOS",
      "UPSILON WITH DIALYTIKA AND TONOS", "ALPHA", "BETA", "GAMMA", "DELTA", "EPSILON", "ZETA",
      "ETA", "THETA", "IOTA", "KAPPA", "LAMDA", "MU", "NU", "XI", "OMICRON", "PI", "RHO",
      "FINAL SIGMA", "SIGMA", "TAU", "UPSILON", "PHI", "CHI", "PSI", "OMEGA",
      "IOTA WITH DIALYTIKA", "UPSILON WITH DIALYTIKA", "OMICRON WITH TONOS", "UPSILON WITH TONOS",
      "OMEGA WITH TONOS"]⟩,
  ⟨0x03cf, ["GREEK "],
    ["CAPITAL KAI SYMBOL", "BETA SYMBOL", "THETA SYMBOL", "UPSILON WITH HOOK SYMBOL",
      "UPSILON WITH ACUTE AND HOOK SYMBOL", "UPSILON WITH DIAERESIS AND HOOK SYMBOL",
      "PHI SYMBOL", "PI SYMBOL", "KAI SYMBOL"]⟩,
  ⟨0x03d8, ["GREEK LETTER ", "GREEK SMALL LETTER "],
    ["ARCHAIC KOPPA", "STIGMA", "DIGAMMA", "KOPPA", "SAMPI"]⟩,
  ⟨0x03e2, ["COPTIC CAPITAL LETTER ", "COPTIC SMALL LETTER "],
    ["SHEI", "FEI", "KHEI", "HORI", "GANGIA", "SHIMA", "DEI"]⟩,
  ⟨0x03f0, ["GREEK "],
    ["KAPPA SYMBOL", "RHO SYMBOL", "LUNATE SIGMA SYMBOL", "LETTER YOT", "CAPITAL THETA SYMBOL",
      "LUNATE EPSILON SYMBOL", "REVERSED LUNATE EPSILON SYMBOL", "CAPITAL LETTER SHO",
      "SMALL LETTER SHO", "CAPITAL LUNATE SIGMA SYMBOL", "CAPITAL LETTER SAN", "SMALL LETTER SAN",
      "RHO WITH STROKE SYMBOL", "CAPITAL REVERSED LUNATE SIGMA SYMBOL",
      "CAPITAL DOTTED LUNATE SIGMA SYMBOL", "CAPITAL REVERSED DOTTED LUNATE SIGMA SYMBOL"]⟩,
  -- Cyrillic.
  ⟨0x0400, ["CYRILLIC CAPITAL LETTER "],
    ["IE WITH GRAVE", "IO", "DJE", "GJE", "UKRAINIAN IE", "DZE", "BYELORUSSIAN-UKRAINIAN I", "YI",
      "JE", "LJE", "NJE", "TSHE", "KJE", "I WITH GRAVE", "SHORT U", "DZHE", "A", "BE", "VE",
      "GHE", "DE", "IE", "ZHE", "ZE", "I", "SHORT I", "KA", "EL", "EM", "EN", "O", "PE", "ER",
      "ES", "TE", "U", "EF", "HA", "TSE", "CHE", "SHA", "SHCHA", "HARD SIGN", "YERU", "SOFT SIGN",
      "E", "YU", "YA"]⟩,
  ⟨0x0430, ["CYRILLIC SMALL LETTER "],
    ["A", "BE", "VE", "GHE", "DE", "IE", "ZHE", "ZE", "I", "SHORT I", "KA", "EL", "EM", "EN", "O",
      "PE", "ER", "ES", "TE", "U", "EF", "HA", "TSE", "CHE", "SHA", "SHCHA", "HARD SIGN", "YERU",
      "SOFT SIGN", "E", "YU", "YA", "IE WITH GRAVE", "IO", "DJE", "GJE", "UKRAINIAN IE", "DZE",
      "BYELORUSSIAN-UKRAINIAN I", "YI", "JE", "LJE", "NJE", "TSHE", "KJE", "I WITH GRAVE",
      "SHORT U", "DZHE"]⟩,
  ⟨0x0460, ["CYRILLIC CAPITAL LETTER ", "CYRILLIC SMALL LETTER "],
    ["OMEGA", "YAT", "IOTIFIED E", "LITTLE YUS", "IOTIFIED LITTLE YUS", "BIG YUS",
      "IOTIFIED BIG YUS", "KSI", "PSI", "FITA", "IZHITSA", "IZHITSA WITH DOUBLE GRAVE ACCENT",
      "UK", "ROUND OMEGA", "OMEGA WITH TITLO", "OT", "KOPPA"]⟩,
  ⟨0x0482, [""], ["CYRILLIC THOUSANDS SIGN"]⟩,
  ⟨0x0483, ["COMBINING CYRILLIC "],
    ["TITLO", "PALATALIZATION", "DASIA PNEUMATA", "PSILI PNEUMATA", "POKRYTIE",
      "HUNDRED THOUSANDS SIGN", "MILLIONS SIGN"]⟩,
  ⟨0x048a, ["CYRILLIC CAPITAL LETTER ", "CYRILLIC SMALL LETTER "],
    ["SHORT I WITH TAIL", "SEMISOFT SIGN", "ER WITH TICK", "GHE WITH UPTURN", "GHE WITH STROKE",
      "GHE WITH MIDDLE HOOK", "ZHE WITH DESCENDER", "ZE WITH DESCENDER", "KA WITH DESCENDER",
      "KA WITH VERTICAL STROKE", "KA WITH STROKE", "BASHKIR KA", "EN WITH DESCENDER"]⟩,
  ⟨0x04a4, ["CYRILLIC CAPITAL ", "CYRILLIC SMALL "],
    ["LIGATURE EN GHE", "LETTER PE WITH MIDDLE HOOK", "LETTER ABKHASIAN HA",
      "LETTER ES WITH DESCENDER", "LETTER TE WITH DESCENDER", "LETTER STRAIGHT U",
      "LETTER STRAIGHT U WITH STROKE", "LETTER HA WITH DESCENDER", "LIGATURE TE TSE",
      "LETTER CHE WITH DESCENDER", "LETTER CHE WITH VERTICAL STROKE", "LETTER SHHA",
      "LETTER ABKHASIAN CHE", "LETTER ABKHASIAN CHE WITH DESCENDER"]⟩,
  ⟨0x04c0, [""], ["CYRILLIC LETTER PALOCHKA"]⟩,
  ⟨0x04c1, ["CYRILLIC CAPITAL LETTER ", "CYRILLIC SMALL LETTER "],
    ["ZHE WITH BREVE", "KA WITH HOOK", "EL WITH TAIL", "EN WITH HOOK", "EN WITH TAIL",
      "KHAKASSIAN CHE", "EM WITH TAIL"]⟩,
  ⟨0x04cf, [""], ["CYRILLIC SMALL LETTER PALOCHKA"]⟩,
  ⟨0x04d0, ["CYRILLIC CAPITAL ", "CYRILLIC SMALL "],
    ["LETTER A WITH BREVE", "LETTER A WITH DIAERESIS", "LIGATURE A IE"]⟩,
  ⟨0x04d6, ["CYRILLIC CAPITAL LETTER ", "CYRILLIC SMALL LETTER "],
    ["IE WITH BREVE", "SCHWA", "SCHWA WITH DIAERESIS", "ZHE WITH DIAERESIS", "ZE WITH DIAERESIS",
      "ABKHASIAN DZE", "I WITH MACRON", "I WITH DIAERESIS", "O WITH DIAERESIS", "BARRED O",
      "BARRED O WITH DIAERESIS", "E WITH DIAERESIS", "U WITH MACRON", "U WITH DIAERESIS",
      "U WITH DOUBLE ACUTE", "CHE WITH DIAERESIS", "GHE WITH DESCENDER", "YERU WITH DIAERESIS",
      "GHE WITH STROKE AND HOOK", "HA WITH HOOK", "HA WITH STROKE"]⟩,
  -- General Punctuation.
  ⟨0x2000, [""],
    ["EN QUAD", "EM QUAD", "EN SPACE", "EM SPACE", "THREE-PER-EM SPACE", "FOUR-PER-EM SPACE",
      "SIX-PER-EM SPACE", "FIGURE SPACE", "PUNCTUATION SPACE", "THIN SPACE", "HAIR SPACE",
      "ZERO WIDTH SPACE", "ZERO WIDTH NON-JOINER", "ZERO WIDTH JOINER", "LEFT-TO-RIGHT MARK",
      "RIGHT-TO-LEFT MARK", "HYPHEN", "NON-BREAKING HYPHEN", "FIGURE DASH", "EN DASH", "EM DASH",
      "HORIZONTAL BAR", "DOUBLE VERTICAL LINE", "DOUBLE LOW LINE", "LEFT SINGLE QUOTATION MARK",
      "RIGHT SINGLE QUOTATION MARK", "SINGLE LOW-9 QUOTATION MARK",
      "SINGLE HIGH-REVERSED-9 QUOTATION MARK", "LEFT DOUBLE QUOTATION MARK",
      "RIGHT DOUBLE QUOTATION MARK", "DOUBLE LOW-9 QUOTATION MARK",
      "DOUBLE HIGH-REVERSED-9 QUOTATION MARK", "DAGGER", "DOUBLE DAGGER", "BULLET",
      "TRIANGULAR BULLET", "ONE DOT LEADER", "TWO DOT LEADER", "HORIZONTAL ELLIPSIS",
      "HYPHENATION POINT", "LINE SEPARATOR", "PARAGRAPH SEPARATOR", "LEFT-TO-RIGHT EMBEDDING",
      "RIGHT-TO-LEFT EMBEDDING", "POP DIRECTIONAL FORMATTING", "LEFT-TO-RIGHT OVERRIDE",
      "RIGHT-TO-LEFT OVERRIDE", "NARROW NO-BREAK SPACE", "PER MILLE SIGN",
      "PER TEN THOUSAND SIGN", "PRIME", "DOUBLE PRIME", "TRIPLE PRIME", "REVERSED PRIME",
      "REVERSED DOUBLE PRIME", "REVERSED TRIPLE PRIME", "CARET",
      "SINGLE LEFT-POINTING ANGLE QUOTATION MARK", "SINGLE RIGHT-POINTING ANGLE QUOTATION MARK",
      "REFERENCE MARK", "DOUBLE EXCLAMATION MARK", "INTERROBANG", "OVERLINE", "UNDERTIE",
      "CHARACTER TIE", "CARET INSERTION POINT", "ASTERISM", "HYPHEN BULLET", "FRACTION SLASH",
      "LEFT SQUARE BRACKET WITH QUILL", "RIGHT SQUARE BRACKET WITH QUILL", "DOUBLE QUESTION MARK",
      "QUESTION EXCLAMATION MARK", "EXCLAMATION QUESTION MARK", "TIRONIAN SIGN ET",
      "REVERSED PILCROW SIGN", "BLACK LEFTWARDS BULLET", "BLACK RIGHTWARDS BULLET",
      "LOW ASTERISK", "REVERSED SEMICOLON", "CLOSE UP", "TWO ASTERISKS ALIGNED VERTICALLY",
      "COMMERCIAL MINUS SIGN", "SWUNG DASH", "INVERTED UNDERTIE", "FLOWER PUNCTUATION MARK",
      "THREE DOT PUNCTUATION", "QUADRUPLE PRIME", "FOUR DOT PUNCTUATION", "FIVE DOT PUNCTUATION",
      "TWO DOT PUNCTUATION", "FOUR DOT MARK", "DOTTED CROSS", "TRICOLON", "VERTICAL FOUR DOTS",
      "MEDIUM MATHEMATICAL SPACE", "WORD JOINER", "FUNCTION APPLICATION", "INVISIBLE TIMES",
      "INVISIBLE SEPARATOR", "INVISIBLE PLUS"]⟩,
  ⟨0x2066, [""],
    ["LEFT-TO-RIGHT ISOLATE", "RIGHT-TO-LEFT ISOLATE", "FIRST STRONG ISOLATE",
      "POP DIRECTIONAL ISOLATE"]⟩,
  ⟨0x206a, ["INHIBIT ", "ACTIVATE "], ["SYMMETRIC SWAPPING", "ARABIC FORM SHAPING"]⟩,
  ⟨0x206e, [""], ["NATIONAL DIGIT SHAPES", "NOMINAL DIGIT SHAPES"]⟩,
  -- Currency Symbols.
  ⟨0x20a0, [""],
    ["EURO-CURRENCY SIGN", "COLON SIGN", "CRUZEIRO SIGN", "FRENCH FRANC SIGN", "LIRA SIGN",
      "MILL SIGN", "NAIRA SIGN", "PESETA SIGN", "RUPEE SIGN", "WON SIGN", "NEW SHEQEL SIGN",
      "DONG SIGN", "EURO SIGN", "KIP SIGN", "TUGRIK SIGN", "DRACHMA SIGN", "GERMAN PENNY SIGN",
      "PESO SIGN", "GUARANI SIGN", "AUSTRAL SIGN", "HRYVNIA SIGN", "CEDI SIGN",
      "LIVRE TOURNOIS SIGN", "SPESMILO SIGN", "TENGE SIGN", "INDIAN RUPEE SIGN",
      "TURKISH LIRA SIGN", "NORDIC MARK SIGN", "MANAT SIGN", "RUBLE SIGN", "LARI SIGN",
      "BITCOIN SIGN", "SOM SIGN"]⟩]

/-- Characters with other names than those in the rows. -/
def aliases : List (Nat × List String) :=
  [(0x00, ["NULL", "NUL"]), (0x01, ["START OF HEADING", "SOH"]), (0x02, ["START OF TEXT", "STX"]),
   (0x03, ["END OF TEXT", "ETX"]), (0x04, ["END OF TRANSMISSION", "EOT"]),
   (0x05, ["ENQUIRY", "ENQ"]), (0x06, ["ACKNOWLEDGE", "ACK"]), (0x07, ["ALERT", "BEL"]),
   (0x08, ["BACKSPACE", "BS"]),
   (0x09, ["CHARACTER TABULATION", "HORIZONTAL TABULATION", "HT", "TAB"]),
   (0x0a, ["LINE FEED", "NEW LINE", "END OF LINE", "EOL", "LF", "NL"]),
   (0x0b, ["LINE TABULATION", "VERTICAL TABULATION", "VT"]), (0x0c, ["FORM FEED", "FF"]),
   (0x0d, ["CARRIAGE RETURN", "CR"]), (0x0e, ["SHIFT OUT", "LOCKING-SHIFT ONE", "SO"]),
   (0x0f, ["SHIFT IN", "LOCKING-SHIFT ZERO", "SI"]), (0x10, ["DATA LINK ESCAPE", "DLE"]),
   (0x11, ["DEVICE CONTROL ONE", "DC1"]), (0x12, ["DEVICE CONTROL TWO", "DC2"]),
   (0x13, ["DEVICE CONTROL THREE", "DC3"]), (0x14, ["DEVICE CONTROL FOUR", "DC4"]),
   (0x15, ["NEGATIVE ACKNOWLEDGE", "NAK"]), (0x16, ["SYNCHRONOUS IDLE", "SYN"]),
   (0x17, ["END OF TRANSMISSION BLOCK", "ETB"]), (0x18, ["CANCEL", "CAN"]),
   (0x19, ["END OF MEDIUM", "EOM"]), (0x1a, ["SUBSTITUTE", "SUB"]), (0x1b, ["ESCAPE", "ESC"]),
   (0x1c, ["INFORMATION SEPARATOR FOUR", "FILE SEPARATOR", "FS"]),
   (0x1d, ["INFORMATION SEPARATOR THREE", "GROUP SEPARATOR", "GS"]),
   (0x1e, ["INFORMATION SEPARATOR TWO", "RECORD SEPARATOR", "RS"]),
   (0x1f, ["INFORMATION SEPARATOR ONE", "UNIT SEPARATOR", "US"]), (0x20, ["SP"]),
   (0x7f, ["DELETE", "DEL"]), (0x80, ["PADDING CHARACTER", "PAD"]),
   (0x81, ["HIGH OCTET PRESET", "HOP"]), (0x82, ["BREAK PERMITTED HERE", "BPH"]),
   (0x83, ["NO BREAK HERE", "NBH"]), (0x84, ["INDEX", "IND"]), (0x85, ["NEXT LINE", "NEL"]),
   (0x86, ["START OF SELECTED AREA", "SSA"]), (0x87, ["END OF SELECTED AREA", "ESA"]),
   (0x88, ["CHARACTER TABULATION SET", "HORIZONTAL TABULATION SET", "HTS"]),
   (0x89, ["CHARACTER TABULATION WITH JUSTIFICATION",
      "HORIZONTAL TABULATION WITH JUSTIFICATION", "HTJ"]),
   (0x8a, ["LINE TABULATION SET", "VERTICAL TABULATION SET", "VTS"]),
   (0x8b, ["PARTIAL LINE FORWARD", "PARTIAL LINE DOWN", "PLD"]),
   (0x8c, ["PARTIAL LINE BACKWARD", "PARTIAL LINE UP", "PLU"]),
   (0x8d, ["REVERSE LINE FEED", "REVERSE INDEX", "RI"]),
   (0x8e, ["SINGLE SHIFT TWO", "SINGLE-SHIFT-2", "SS2"]),
   (0x8f, ["SINGLE SHIFT THREE", "SINGLE-SHIFT-3", "SS3"]),
   (0x90, ["DEVICE CONTROL STRING", "DCS"]), (0x91, ["PRIVATE USE ONE", "PRIVATE USE-1", "PU1"]),
   (0x92, ["PRIVATE USE TWO", "PRIVATE USE-2", "PU2"]), (0x93, ["SET TRANSMIT STATE", "STS"]),
   (0x94, ["CANCEL CHARACTER", "CCH"]), (0x95, ["MESSAGE WAITING", "MW"]),
   (0x96, ["START OF GUARDED AREA", "START OF PROTECTED AREA", "SPA"]),
   (0x97, ["END OF GUARDED AREA", "END OF PROTECTED AREA", "EPA"]),
   (0x98, ["START OF STRING", "SOS"]), (0x99, ["SINGLE GRAPHIC CHARACTER INTRODUCER", "SGC"]),
   (0x9a, ["SINGLE CHARACTER INTRODUCER", "SCI"]), (0x9b, ["CONTROL SEQUENCE INTRODUCER", "CSI"]),
   (0x9c, ["STRING TERMINATOR", "ST"]), (0x9d, ["OPERATING SYSTEM COMMAND", "OSC"]),
   (0x9e, ["PRIVACY MESSAGE", "PM"]), (0x9f, ["APPLICATION PROGRAM COMMAND", "APC"]),
   (0xa0, ["NBSP"]), (0xad, ["SHY"]), (0x200b, ["ZWSP"]), (0x200c, ["ZWNJ"]), (0x200d, ["ZWJ"]),
   (0x200e, ["LRM"]), (0x200f, ["RLM"]), (0x202a, ["LRE"]), (0x202b, ["RLE"]), (0x202c, ["PDF"]),
   (0x202d, ["LRO"]), (0x202e, ["RLO"]), (0x202f, ["NNBSP"]), (0x205f, ["MMSP"]),
   (0x2060, ["WJ"]), (0x2066, ["LRI"]), (0x2067, ["RLI"]), (0x2068, ["FSI"]), (0x2069, ["PDI"])]

/-! ## All names -/

/-- The code point of the character with a name. Upper and lower case count as the same, except in
the names that follow rules. -/
def named? (name : Text) : Option Nat :=
  let spelling? := "HANGUL SYLLABLE ".toList.isPrefixOf? name
  let digits? := "CJK UNIFIED IDEOGRAPH-".toList.isPrefixOf? name
  match spelling?, digits? with
  | some spelling, _ => syllable? spelling
  | none, some digits => ideograph? digits
  | none, none =>
    let name := name.map Char.toUpper
    (rows.findSome? (·.find? name)).or
      ((aliases.find? fun entry => entry.2.any (·.toList == name)).map Prod.fst)

end TextScan.Unicode
