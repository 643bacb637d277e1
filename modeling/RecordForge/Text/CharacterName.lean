import RecordForge.Text.Literal

/-!
# Names of characters

The names of characters of the scripts and signs that texts are mostly written with: Latin and Greek
letters, punctuation, currencies, arrows and some operators. Case does not count in a name.
-/

namespace RecordForge.Text

/-- Characters by name. -/
def characterNames : List (String × Nat) := [
  ("SPACE", 0x20), ("EXCLAMATION MARK", 0x21), ("QUOTATION MARK", 0x22), ("NUMBER SIGN", 0x23),
  ("DOLLAR SIGN", 0x24), ("PERCENT SIGN", 0x25), ("AMPERSAND", 0x26), ("APOSTROPHE", 0x27),
  ("LEFT PARENTHESIS", 0x28), ("RIGHT PARENTHESIS", 0x29), ("ASTERISK", 0x2a),
  ("PLUS SIGN", 0x2b), ("COMMA", 0x2c), ("HYPHEN-MINUS", 0x2d), ("FULL STOP", 0x2e),
  ("SOLIDUS", 0x2f), ("DIGIT ZERO", 0x30), ("DIGIT ONE", 0x31), ("DIGIT TWO", 0x32),
  ("DIGIT THREE", 0x33), ("DIGIT FOUR", 0x34), ("DIGIT FIVE", 0x35), ("DIGIT SIX", 0x36),
  ("DIGIT SEVEN", 0x37), ("DIGIT EIGHT", 0x38), ("DIGIT NINE", 0x39), ("COLON", 0x3a),
  ("SEMICOLON", 0x3b), ("LESS-THAN SIGN", 0x3c), ("EQUALS SIGN", 0x3d),
  ("GREATER-THAN SIGN", 0x3e), ("QUESTION MARK", 0x3f), ("COMMERCIAL AT", 0x40),
  ("LATIN CAPITAL LETTER A", 0x41), ("LATIN CAPITAL LETTER B", 0x42),
  ("LATIN CAPITAL LETTER C", 0x43), ("LATIN CAPITAL LETTER D", 0x44),
  ("LATIN CAPITAL LETTER E", 0x45), ("LATIN CAPITAL LETTER F", 0x46),
  ("LATIN CAPITAL LETTER G", 0x47), ("LATIN CAPITAL LETTER H", 0x48),
  ("LATIN CAPITAL LETTER I", 0x49), ("LATIN CAPITAL LETTER J", 0x4a),
  ("LATIN CAPITAL LETTER K", 0x4b), ("LATIN CAPITAL LETTER L", 0x4c),
  ("LATIN CAPITAL LETTER M", 0x4d), ("LATIN CAPITAL LETTER N", 0x4e),
  ("LATIN CAPITAL LETTER O", 0x4f), ("LATIN CAPITAL LETTER P", 0x50),
  ("LATIN CAPITAL LETTER Q", 0x51), ("LATIN CAPITAL LETTER R", 0x52),
  ("LATIN CAPITAL LETTER S", 0x53), ("LATIN CAPITAL LETTER T", 0x54),
  ("LATIN CAPITAL LETTER U", 0x55), ("LATIN CAPITAL LETTER V", 0x56),
  ("LATIN CAPITAL LETTER W", 0x57), ("LATIN CAPITAL LETTER X", 0x58),
  ("LATIN CAPITAL LETTER Y", 0x59), ("LATIN CAPITAL LETTER Z", 0x5a),
  ("LEFT SQUARE BRACKET", 0x5b), ("REVERSE SOLIDUS", 0x5c), ("RIGHT SQUARE BRACKET", 0x5d),
  ("CIRCUMFLEX ACCENT", 0x5e), ("LOW LINE", 0x5f), ("GRAVE ACCENT", 0x60),
  ("LATIN SMALL LETTER A", 0x61), ("LATIN SMALL LETTER B", 0x62), ("LATIN SMALL LETTER C", 0x63),
  ("LATIN SMALL LETTER D", 0x64), ("LATIN SMALL LETTER E", 0x65), ("LATIN SMALL LETTER F", 0x66),
  ("LATIN SMALL LETTER G", 0x67), ("LATIN SMALL LETTER H", 0x68), ("LATIN SMALL LETTER I", 0x69),
  ("LATIN SMALL LETTER J", 0x6a), ("LATIN SMALL LETTER K", 0x6b), ("LATIN SMALL LETTER L", 0x6c),
  ("LATIN SMALL LETTER M", 0x6d), ("LATIN SMALL LETTER N", 0x6e), ("LATIN SMALL LETTER O", 0x6f),
  ("LATIN SMALL LETTER P", 0x70), ("LATIN SMALL LETTER Q", 0x71), ("LATIN SMALL LETTER R", 0x72),
  ("LATIN SMALL LETTER S", 0x73), ("LATIN SMALL LETTER T", 0x74), ("LATIN SMALL LETTER U", 0x75),
  ("LATIN SMALL LETTER V", 0x76), ("LATIN SMALL LETTER W", 0x77), ("LATIN SMALL LETTER X", 0x78),
  ("LATIN SMALL LETTER Y", 0x79), ("LATIN SMALL LETTER Z", 0x7a), ("LEFT CURLY BRACKET", 0x7b),
  ("VERTICAL LINE", 0x7c), ("RIGHT CURLY BRACKET", 0x7d), ("TILDE", 0x7e),
  ("NO-BREAK SPACE", 0xa0), ("INVERTED EXCLAMATION MARK", 0xa1), ("CENT SIGN", 0xa2),
  ("POUND SIGN", 0xa3), ("CURRENCY SIGN", 0xa4), ("YEN SIGN", 0xa5), ("BROKEN BAR", 0xa6),
  ("SECTION SIGN", 0xa7), ("DIAERESIS", 0xa8), ("COPYRIGHT SIGN", 0xa9),
  ("FEMININE ORDINAL INDICATOR", 0xaa), ("LEFT-POINTING DOUBLE ANGLE QUOTATION MARK", 0xab),
  ("NOT SIGN", 0xac), ("SOFT HYPHEN", 0xad), ("REGISTERED SIGN", 0xae), ("MACRON", 0xaf),
  ("DEGREE SIGN", 0xb0), ("PLUS-MINUS SIGN", 0xb1), ("SUPERSCRIPT TWO", 0xb2),
  ("SUPERSCRIPT THREE", 0xb3), ("ACUTE ACCENT", 0xb4), ("MICRO SIGN", 0xb5),
  ("PILCROW SIGN", 0xb6), ("MIDDLE DOT", 0xb7), ("CEDILLA", 0xb8), ("SUPERSCRIPT ONE", 0xb9),
  ("MASCULINE ORDINAL INDICATOR", 0xba), ("RIGHT-POINTING DOUBLE ANGLE QUOTATION MARK", 0xbb),
  ("VULGAR FRACTION ONE QUARTER", 0xbc), ("VULGAR FRACTION ONE HALF", 0xbd),
  ("VULGAR FRACTION THREE QUARTERS", 0xbe), ("INVERTED QUESTION MARK", 0xbf),
  ("LATIN CAPITAL LETTER A WITH GRAVE", 0xc0), ("LATIN CAPITAL LETTER A WITH ACUTE", 0xc1),
  ("LATIN CAPITAL LETTER A WITH CIRCUMFLEX", 0xc2), ("LATIN CAPITAL LETTER A WITH TILDE", 0xc3),
  ("LATIN CAPITAL LETTER A WITH DIAERESIS", 0xc4),
  ("LATIN CAPITAL LETTER A WITH RING ABOVE", 0xc5), ("LATIN CAPITAL LETTER AE", 0xc6),
  ("LATIN CAPITAL LETTER C WITH CEDILLA", 0xc7), ("LATIN CAPITAL LETTER E WITH GRAVE", 0xc8),
  ("LATIN CAPITAL LETTER E WITH ACUTE", 0xc9), ("LATIN CAPITAL LETTER E WITH CIRCUMFLEX", 0xca),
  ("LATIN CAPITAL LETTER E WITH DIAERESIS", 0xcb), ("LATIN CAPITAL LETTER I WITH GRAVE", 0xcc),
  ("LATIN CAPITAL LETTER I WITH ACUTE", 0xcd), ("LATIN CAPITAL LETTER I WITH CIRCUMFLEX", 0xce),
  ("LATIN CAPITAL LETTER I WITH DIAERESIS", 0xcf), ("LATIN CAPITAL LETTER ETH", 0xd0),
  ("LATIN CAPITAL LETTER N WITH TILDE", 0xd1), ("LATIN CAPITAL LETTER O WITH GRAVE", 0xd2),
  ("LATIN CAPITAL LETTER O WITH ACUTE", 0xd3), ("LATIN CAPITAL LETTER O WITH CIRCUMFLEX", 0xd4),
  ("LATIN CAPITAL LETTER O WITH TILDE", 0xd5), ("LATIN CAPITAL LETTER O WITH DIAERESIS", 0xd6),
  ("MULTIPLICATION SIGN", 0xd7), ("LATIN CAPITAL LETTER O WITH STROKE", 0xd8),
  ("LATIN CAPITAL LETTER U WITH GRAVE", 0xd9), ("LATIN CAPITAL LETTER U WITH ACUTE", 0xda),
  ("LATIN CAPITAL LETTER U WITH CIRCUMFLEX", 0xdb),
  ("LATIN CAPITAL LETTER U WITH DIAERESIS", 0xdc), ("LATIN CAPITAL LETTER Y WITH ACUTE", 0xdd),
  ("LATIN CAPITAL LETTER THORN", 0xde), ("LATIN SMALL LETTER SHARP S", 0xdf),
  ("LATIN SMALL LETTER A WITH GRAVE", 0xe0), ("LATIN SMALL LETTER A WITH ACUTE", 0xe1),
  ("LATIN SMALL LETTER A WITH CIRCUMFLEX", 0xe2), ("LATIN SMALL LETTER A WITH TILDE", 0xe3),
  ("LATIN SMALL LETTER A WITH DIAERESIS", 0xe4), ("LATIN SMALL LETTER A WITH RING ABOVE", 0xe5),
  ("LATIN SMALL LETTER AE", 0xe6), ("LATIN SMALL LETTER C WITH CEDILLA", 0xe7),
  ("LATIN SMALL LETTER E WITH GRAVE", 0xe8), ("LATIN SMALL LETTER E WITH ACUTE", 0xe9),
  ("LATIN SMALL LETTER E WITH CIRCUMFLEX", 0xea), ("LATIN SMALL LETTER E WITH DIAERESIS", 0xeb),
  ("LATIN SMALL LETTER I WITH GRAVE", 0xec), ("LATIN SMALL LETTER I WITH ACUTE", 0xed),
  ("LATIN SMALL LETTER I WITH CIRCUMFLEX", 0xee), ("LATIN SMALL LETTER I WITH DIAERESIS", 0xef),
  ("LATIN SMALL LETTER ETH", 0xf0), ("LATIN SMALL LETTER N WITH TILDE", 0xf1),
  ("LATIN SMALL LETTER O WITH GRAVE", 0xf2), ("LATIN SMALL LETTER O WITH ACUTE", 0xf3),
  ("LATIN SMALL LETTER O WITH CIRCUMFLEX", 0xf4), ("LATIN SMALL LETTER O WITH TILDE", 0xf5),
  ("LATIN SMALL LETTER O WITH DIAERESIS", 0xf6), ("DIVISION SIGN", 0xf7),
  ("LATIN SMALL LETTER O WITH STROKE", 0xf8), ("LATIN SMALL LETTER U WITH GRAVE", 0xf9),
  ("LATIN SMALL LETTER U WITH ACUTE", 0xfa), ("LATIN SMALL LETTER U WITH CIRCUMFLEX", 0xfb),
  ("LATIN SMALL LETTER U WITH DIAERESIS", 0xfc), ("LATIN SMALL LETTER Y WITH ACUTE", 0xfd),
  ("LATIN SMALL LETTER THORN", 0xfe), ("LATIN SMALL LETTER Y WITH DIAERESIS", 0xff),
  ("GREEK CAPITAL LETTER ALPHA", 0x391), ("GREEK CAPITAL LETTER BETA", 0x392),
  ("GREEK CAPITAL LETTER GAMMA", 0x393), ("GREEK CAPITAL LETTER DELTA", 0x394),
  ("GREEK CAPITAL LETTER EPSILON", 0x395), ("GREEK CAPITAL LETTER ZETA", 0x396),
  ("GREEK CAPITAL LETTER ETA", 0x397), ("GREEK CAPITAL LETTER THETA", 0x398),
  ("GREEK CAPITAL LETTER IOTA", 0x399), ("GREEK CAPITAL LETTER KAPPA", 0x39a),
  ("GREEK CAPITAL LETTER LAMDA", 0x39b), ("GREEK CAPITAL LETTER MU", 0x39c),
  ("GREEK CAPITAL LETTER NU", 0x39d), ("GREEK CAPITAL LETTER XI", 0x39e),
  ("GREEK CAPITAL LETTER OMICRON", 0x39f), ("GREEK CAPITAL LETTER PI", 0x3a0),
  ("GREEK CAPITAL LETTER RHO", 0x3a1), ("GREEK CAPITAL LETTER SIGMA", 0x3a3),
  ("GREEK CAPITAL LETTER TAU", 0x3a4), ("GREEK CAPITAL LETTER UPSILON", 0x3a5),
  ("GREEK CAPITAL LETTER PHI", 0x3a6), ("GREEK CAPITAL LETTER CHI", 0x3a7),
  ("GREEK CAPITAL LETTER PSI", 0x3a8), ("GREEK CAPITAL LETTER OMEGA", 0x3a9),
  ("GREEK CAPITAL LETTER IOTA WITH DIALYTIKA", 0x3aa),
  ("GREEK CAPITAL LETTER UPSILON WITH DIALYTIKA", 0x3ab),
  ("GREEK SMALL LETTER ALPHA WITH TONOS", 0x3ac),
  ("GREEK SMALL LETTER EPSILON WITH TONOS", 0x3ad), ("GREEK SMALL LETTER ETA WITH TONOS", 0x3ae),
  ("GREEK SMALL LETTER IOTA WITH TONOS", 0x3af),
  ("GREEK SMALL LETTER UPSILON WITH DIALYTIKA AND TONOS", 0x3b0),
  ("GREEK SMALL LETTER ALPHA", 0x3b1), ("GREEK SMALL LETTER BETA", 0x3b2),
  ("GREEK SMALL LETTER GAMMA", 0x3b3), ("GREEK SMALL LETTER DELTA", 0x3b4),
  ("GREEK SMALL LETTER EPSILON", 0x3b5), ("GREEK SMALL LETTER ZETA", 0x3b6),
  ("GREEK SMALL LETTER ETA", 0x3b7), ("GREEK SMALL LETTER THETA", 0x3b8),
  ("GREEK SMALL LETTER IOTA", 0x3b9), ("GREEK SMALL LETTER KAPPA", 0x3ba),
  ("GREEK SMALL LETTER LAMDA", 0x3bb), ("GREEK SMALL LETTER MU", 0x3bc),
  ("GREEK SMALL LETTER NU", 0x3bd), ("GREEK SMALL LETTER XI", 0x3be),
  ("GREEK SMALL LETTER OMICRON", 0x3bf), ("GREEK SMALL LETTER PI", 0x3c0),
  ("GREEK SMALL LETTER RHO", 0x3c1), ("GREEK SMALL LETTER FINAL SIGMA", 0x3c2),
  ("GREEK SMALL LETTER SIGMA", 0x3c3), ("GREEK SMALL LETTER TAU", 0x3c4),
  ("GREEK SMALL LETTER UPSILON", 0x3c5), ("GREEK SMALL LETTER PHI", 0x3c6),
  ("GREEK SMALL LETTER CHI", 0x3c7), ("GREEK SMALL LETTER PSI", 0x3c8),
  ("GREEK SMALL LETTER OMEGA", 0x3c9), ("HYPHEN", 0x2010), ("NON-BREAKING HYPHEN", 0x2011),
  ("FIGURE DASH", 0x2012), ("EN DASH", 0x2013), ("EM DASH", 0x2014), ("HORIZONTAL BAR", 0x2015),
  ("DOUBLE VERTICAL LINE", 0x2016), ("DOUBLE LOW LINE", 0x2017),
  ("LEFT SINGLE QUOTATION MARK", 0x2018), ("RIGHT SINGLE QUOTATION MARK", 0x2019),
  ("SINGLE LOW-9 QUOTATION MARK", 0x201a), ("SINGLE HIGH-REVERSED-9 QUOTATION MARK", 0x201b),
  ("LEFT DOUBLE QUOTATION MARK", 0x201c), ("RIGHT DOUBLE QUOTATION MARK", 0x201d),
  ("DOUBLE LOW-9 QUOTATION MARK", 0x201e), ("DOUBLE HIGH-REVERSED-9 QUOTATION MARK", 0x201f),
  ("DAGGER", 0x2020), ("DOUBLE DAGGER", 0x2021), ("BULLET", 0x2022),
  ("TRIANGULAR BULLET", 0x2023), ("ONE DOT LEADER", 0x2024), ("TWO DOT LEADER", 0x2025),
  ("HORIZONTAL ELLIPSIS", 0x2026), ("HYPHENATION POINT", 0x2027), ("PER MILLE SIGN", 0x2030),
  ("PER TEN THOUSAND SIGN", 0x2031), ("PRIME", 0x2032), ("DOUBLE PRIME", 0x2033),
  ("TRIPLE PRIME", 0x2034), ("REVERSED PRIME", 0x2035), ("REVERSED DOUBLE PRIME", 0x2036),
  ("REVERSED TRIPLE PRIME", 0x2037), ("CARET", 0x2038),
  ("SINGLE LEFT-POINTING ANGLE QUOTATION MARK", 0x2039),
  ("SINGLE RIGHT-POINTING ANGLE QUOTATION MARK", 0x203a), ("REFERENCE MARK", 0x203b),
  ("DOUBLE EXCLAMATION MARK", 0x203c), ("INTERROBANG", 0x203d), ("OVERLINE", 0x203e),
  ("UNDERTIE", 0x203f), ("CHARACTER TIE", 0x2040), ("CARET INSERTION POINT", 0x2041),
  ("ASTERISM", 0x2042), ("HYPHEN BULLET", 0x2043), ("FRACTION SLASH", 0x2044),
  ("LEFT SQUARE BRACKET WITH QUILL", 0x2045), ("RIGHT SQUARE BRACKET WITH QUILL", 0x2046),
  ("DOUBLE QUESTION MARK", 0x2047), ("QUESTION EXCLAMATION MARK", 0x2048),
  ("EXCLAMATION QUESTION MARK", 0x2049), ("TIRONIAN SIGN ET", 0x204a),
  ("REVERSED PILCROW SIGN", 0x204b), ("BLACK LEFTWARDS BULLET", 0x204c),
  ("BLACK RIGHTWARDS BULLET", 0x204d), ("LOW ASTERISK", 0x204e), ("REVERSED SEMICOLON", 0x204f),
  ("CLOSE UP", 0x2050), ("TWO ASTERISKS ALIGNED VERTICALLY", 0x2051),
  ("COMMERCIAL MINUS SIGN", 0x2052), ("SWUNG DASH", 0x2053), ("INVERTED UNDERTIE", 0x2054),
  ("FLOWER PUNCTUATION MARK", 0x2055), ("THREE DOT PUNCTUATION", 0x2056),
  ("QUADRUPLE PRIME", 0x2057), ("FOUR DOT PUNCTUATION", 0x2058),
  ("FIVE DOT PUNCTUATION", 0x2059), ("TWO DOT PUNCTUATION", 0x205a), ("FOUR DOT MARK", 0x205b),
  ("DOTTED CROSS", 0x205c), ("TRICOLON", 0x205d), ("VERTICAL FOUR DOTS", 0x205e),
  ("EURO-CURRENCY SIGN", 0x20a0), ("COLON SIGN", 0x20a1), ("CRUZEIRO SIGN", 0x20a2),
  ("FRENCH FRANC SIGN", 0x20a3), ("LIRA SIGN", 0x20a4), ("MILL SIGN", 0x20a5),
  ("NAIRA SIGN", 0x20a6), ("PESETA SIGN", 0x20a7), ("RUPEE SIGN", 0x20a8), ("WON SIGN", 0x20a9),
  ("NEW SHEQEL SIGN", 0x20aa), ("DONG SIGN", 0x20ab), ("EURO SIGN", 0x20ac),
  ("KIP SIGN", 0x20ad), ("TUGRIK SIGN", 0x20ae), ("DRACHMA SIGN", 0x20af),
  ("GERMAN PENNY SIGN", 0x20b0), ("PESO SIGN", 0x20b1), ("GUARANI SIGN", 0x20b2),
  ("AUSTRAL SIGN", 0x20b3), ("HRYVNIA SIGN", 0x20b4), ("CEDI SIGN", 0x20b5),
  ("LIVRE TOURNOIS SIGN", 0x20b6), ("SPESMILO SIGN", 0x20b7), ("TENGE SIGN", 0x20b8),
  ("INDIAN RUPEE SIGN", 0x20b9), ("TURKISH LIRA SIGN", 0x20ba), ("NORDIC MARK SIGN", 0x20bb),
  ("MANAT SIGN", 0x20bc), ("RUBLE SIGN", 0x20bd), ("LARI SIGN", 0x20be),
  ("BITCOIN SIGN", 0x20bf), ("LEFTWARDS ARROW", 0x2190), ("UPWARDS ARROW", 0x2191),
  ("RIGHTWARDS ARROW", 0x2192), ("DOWNWARDS ARROW", 0x2193), ("LEFT RIGHT ARROW", 0x2194),
  ("UP DOWN ARROW", 0x2195), ("NORTH WEST ARROW", 0x2196), ("NORTH EAST ARROW", 0x2197),
  ("SOUTH EAST ARROW", 0x2198), ("SOUTH WEST ARROW", 0x2199), ("FOR ALL", 0x2200),
  ("COMPLEMENT", 0x2201), ("PARTIAL DIFFERENTIAL", 0x2202), ("THERE EXISTS", 0x2203),
  ("THERE DOES NOT EXIST", 0x2204), ("EMPTY SET", 0x2205), ("INCREMENT", 0x2206),
  ("NABLA", 0x2207), ("ELEMENT OF", 0x2208), ("NOT AN ELEMENT OF", 0x2209),
  ("SMALL ELEMENT OF", 0x220a), ("CONTAINS AS MEMBER", 0x220b),
  ("DOES NOT CONTAIN AS MEMBER", 0x220c), ("SMALL CONTAINS AS MEMBER", 0x220d),
  ("END OF PROOF", 0x220e), ("N-ARY PRODUCT", 0x220f), ("N-ARY COPRODUCT", 0x2210),
  ("N-ARY SUMMATION", 0x2211), ("NOT EQUAL TO", 0x2260), ("IDENTICAL TO", 0x2261),
  ("NOT IDENTICAL TO", 0x2262), ("STRICTLY EQUIVALENT TO", 0x2263),
  ("LESS-THAN OR EQUAL TO", 0x2264), ("GREATER-THAN OR EQUAL TO", 0x2265),
  ("BLACK SUN WITH RAYS", 0x2600), ("CLOUD", 0x2601), ("UMBRELLA", 0x2602), ("SNOWMAN", 0x2603),
  ("COMET", 0x2604), ("BLACK STAR", 0x2605), ("WHITE STAR", 0x2606)]

/-- The code point of a name. -/
def codeOfName? (name : String) : Option Nat :=
  characterNames.lookup (name.map Char.toUpper)

end RecordForge.Text
