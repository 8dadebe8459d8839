/-!
# Table of character names

The standard names of characters: of the alphabets of Europe, the marks of ordinary text, arrows,
mathematical and other symbols, the Japanese syllables and pictographs. Characters that follow one
another and whose names start alike stand together. Control characters have no names of their own
but several that they are known by.

## Main definitions

* `NameRun`: characters that follow one another
* `nameRuns`: the names of characters
* `otherNames`: the further names that some characters are known by
-/

namespace ImportOrder

/-- **Characters that follow one another**: the code point of the first, what all their names start
with, and how the names go on, in rows with commas between them. -/
structure NameRun where
  first : Nat
  lead : String
  rows : List String
deriving Repr

/-- The names of characters. -/
def nameRuns : List NameRun := [
  ⟨0x20, "", [
    "SPACE, EXCLAMATION MARK, QUOTATION MARK, NUMBER SIGN, DOLLAR SIGN, PERCENT SIGN, AMPERSAND",
    "APOSTROPHE, LEFT PARENTHESIS, RIGHT PARENTHESIS, ASTERISK, PLUS SIGN, COMMA, HYPHEN-MINUS",
    "FULL STOP, SOLIDUS"]⟩,
  ⟨0x30, "DIGIT ", ["ZERO, ONE, TWO, THREE, FOUR, FIVE, SIX, SEVEN, EIGHT, NINE"]⟩,
  ⟨0x3a, "", [
    "COLON, SEMICOLON, LESS-THAN SIGN, EQUALS SIGN, GREATER-THAN SIGN, QUESTION MARK",
    "COMMERCIAL AT"]⟩,
  ⟨0x41, "LATIN CAPITAL LETTER ", [
    "A, B, C, D, E, F, G, H, I, J, K, L, M, N, O, P, Q, R, S, T, U, V, W, X, Y, Z"]⟩,
  ⟨0x5b, "", [
    "LEFT SQUARE BRACKET, REVERSE SOLIDUS, RIGHT SQUARE BRACKET, CIRCUMFLEX ACCENT, LOW LINE",
    "GRAVE ACCENT"]⟩,
  ⟨0x61, "LATIN SMALL LETTER ", [
    "A, B, C, D, E, F, G, H, I, J, K, L, M, N, O, P, Q, R, S, T, U, V, W, X, Y, Z"]⟩,
  ⟨0x7b, "", ["LEFT CURLY BRACKET, VERTICAL LINE, RIGHT CURLY BRACKET, TILDE"]⟩,
  ⟨0xa0, "", [
    "NO-BREAK SPACE, INVERTED EXCLAMATION MARK, CENT SIGN, POUND SIGN, CURRENCY SIGN, YEN SIGN",
    "BROKEN BAR, SECTION SIGN, DIAERESIS"]⟩,
  ⟨0xa9, "COPY", ["RIGHT SIGN"]⟩,
  ⟨0xaa, "", [
    "FEMININE ORDINAL INDICATOR, LEFT-POINTING DOUBLE ANGLE QUOTATION MARK, NOT SIGN, SOFT HYPHEN",
    "REGISTERED SIGN, MACRON, DEGREE SIGN, PLUS-MINUS SIGN, SUPERSCRIPT TWO, SUPERSCRIPT THREE",
    "ACUTE ACCENT, MICRO SIGN, PILCROW SIGN, MIDDLE DOT, CEDILLA, SUPERSCRIPT ONE",
    "MASCULINE ORDINAL INDICATOR, RIGHT-POINTING DOUBLE ANGLE QUOTATION MARK",
    "VULGAR FRACTION ONE QUARTER, VULGAR FRACTION ONE HALF, VULGAR FRACTION THREE QUARTERS",
    "INVERTED QUESTION MARK"]⟩,
  ⟨0xc0, "LATIN CAPITAL LETTER ", [
    "A WITH GRAVE, A WITH ACUTE, A WITH CIRCUMFLEX, A WITH TILDE, A WITH DIAERESIS",
    "A WITH RING ABOVE, AE, C WITH CEDILLA, E WITH GRAVE, E WITH ACUTE, E WITH CIRCUMFLEX",
    "E WITH DIAERESIS, I WITH GRAVE, I WITH ACUTE, I WITH CIRCUMFLEX, I WITH DIAERESIS, ETH",
    "N WITH TILDE, O WITH GRAVE, O WITH ACUTE, O WITH CIRCUMFLEX, O WITH TILDE, O WITH DIAERESIS"]⟩,
  ⟨0xd7, "MULTIPLICATION ", ["SIGN"]⟩,
  ⟨0xd8, "LATIN CAPITAL LETTER ", [
    "O WITH STROKE, U WITH GRAVE, U WITH ACUTE, U WITH CIRCUMFLEX, U WITH DIAERESIS, Y WITH ACUTE",
    "THORN"]⟩,
  ⟨0xdf, "LATIN SMALL LETTER ", [
    "SHARP S, A WITH GRAVE, A WITH ACUTE, A WITH CIRCUMFLEX, A WITH TILDE, A WITH DIAERESIS",
    "A WITH RING ABOVE, AE, C WITH CEDILLA, E WITH GRAVE, E WITH ACUTE, E WITH CIRCUMFLEX",
    "E WITH DIAERESIS, I WITH GRAVE, I WITH ACUTE, I WITH CIRCUMFLEX, I WITH DIAERESIS, ETH",
    "N WITH TILDE, O WITH GRAVE, O WITH ACUTE, O WITH CIRCUMFLEX, O WITH TILDE, O WITH DIAERESIS"]⟩,
  ⟨0xf7, "DIVISION ", ["SIGN"]⟩,
  ⟨0xf8, "LATIN SMALL LETTER ", [
    "O WITH STROKE, U WITH GRAVE, U WITH ACUTE, U WITH CIRCUMFLEX, U WITH DIAERESIS, Y WITH ACUTE",
    "THORN, Y WITH DIAERESIS"]⟩,
  ⟨0x100, "LATIN ", [
    "CAPITAL LETTER A WITH MACRON, SMALL LETTER A WITH MACRON, CAPITAL LETTER A WITH BREVE",
    "SMALL LETTER A WITH BREVE, CAPITAL LETTER A WITH OGONEK, SMALL LETTER A WITH OGONEK",
    "CAPITAL LETTER C WITH ACUTE, SMALL LETTER C WITH ACUTE, CAPITAL LETTER C WITH CIRCUMFLEX",
    "SMALL LETTER C WITH CIRCUMFLEX, CAPITAL LETTER C WITH DOT ABOVE",
    "SMALL LETTER C WITH DOT ABOVE, CAPITAL LETTER C WITH CARON, SMALL LETTER C WITH CARON",
    "CAPITAL LETTER D WITH CARON, SMALL LETTER D WITH CARON, CAPITAL LETTER D WITH STROKE",
    "SMALL LETTER D WITH STROKE, CAPITAL LETTER E WITH MACRON, SMALL LETTER E WITH MACRON",
    "CAPITAL LETTER E WITH BREVE, SMALL LETTER E WITH BREVE, CAPITAL LETTER E WITH DOT ABOVE",
    "SMALL LETTER E WITH DOT ABOVE, CAPITAL LETTER E WITH OGONEK, SMALL LETTER E WITH OGONEK",
    "CAPITAL LETTER E WITH CARON, SMALL LETTER E WITH CARON, CAPITAL LETTER G WITH CIRCUMFLEX",
    "SMALL LETTER G WITH CIRCUMFLEX, CAPITAL LETTER G WITH BREVE, SMALL LETTER G WITH BREVE",
    "CAPITAL LETTER G WITH DOT ABOVE, SMALL LETTER G WITH DOT ABOVE",
    "CAPITAL LETTER G WITH CEDILLA, SMALL LETTER G WITH CEDILLA, CAPITAL LETTER H WITH CIRCUMFLEX",
    "SMALL LETTER H WITH CIRCUMFLEX, CAPITAL LETTER H WITH STROKE, SMALL LETTER H WITH STROKE",
    "CAPITAL LETTER I WITH TILDE, SMALL LETTER I WITH TILDE, CAPITAL LETTER I WITH MACRON",
    "SMALL LETTER I WITH MACRON, CAPITAL LETTER I WITH BREVE, SMALL LETTER I WITH BREVE",
    "CAPITAL LETTER I WITH OGONEK, SMALL LETTER I WITH OGONEK, CAPITAL LETTER I WITH DOT ABOVE",
    "SMALL LETTER DOTLESS I, CAPITAL LIGATURE IJ, SMALL LIGATURE IJ",
    "CAPITAL LETTER J WITH CIRCUMFLEX, SMALL LETTER J WITH CIRCUMFLEX",
    "CAPITAL LETTER K WITH CEDILLA, SMALL LETTER K WITH CEDILLA, SMALL LETTER KRA",
    "CAPITAL LETTER L WITH ACUTE, SMALL LETTER L WITH ACUTE, CAPITAL LETTER L WITH CEDILLA",
    "SMALL LETTER L WITH CEDILLA, CAPITAL LETTER L WITH CARON, SMALL LETTER L WITH CARON",
    "CAPITAL LETTER L WITH MIDDLE DOT, SMALL LETTER L WITH MIDDLE DOT",
    "CAPITAL LETTER L WITH STROKE, SMALL LETTER L WITH STROKE, CAPITAL LETTER N WITH ACUTE",
    "SMALL LETTER N WITH ACUTE, CAPITAL LETTER N WITH CEDILLA, SMALL LETTER N WITH CEDILLA",
    "CAPITAL LETTER N WITH CARON, SMALL LETTER N WITH CARON",
    "SMALL LETTER N PRECEDED BY APOSTROPHE, CAPITAL LETTER ENG, SMALL LETTER ENG",
    "CAPITAL LETTER O WITH MACRON, SMALL LETTER O WITH MACRON, CAPITAL LETTER O WITH BREVE",
    "SMALL LETTER O WITH BREVE, CAPITAL LETTER O WITH DOUBLE ACUTE",
    "SMALL LETTER O WITH DOUBLE ACUTE, CAPITAL LIGATURE OE, SMALL LIGATURE OE",
    "CAPITAL LETTER R WITH ACUTE, SMALL LETTER R WITH ACUTE, CAPITAL LETTER R WITH CEDILLA",
    "SMALL LETTER R WITH CEDILLA, CAPITAL LETTER R WITH CARON, SMALL LETTER R WITH CARON",
    "CAPITAL LETTER S WITH ACUTE, SMALL LETTER S WITH ACUTE, CAPITAL LETTER S WITH CIRCUMFLEX",
    "SMALL LETTER S WITH CIRCUMFLEX, CAPITAL LETTER S WITH CEDILLA, SMALL LETTER S WITH CEDILLA",
    "CAPITAL LETTER S WITH CARON, SMALL LETTER S WITH CARON, CAPITAL LETTER T WITH CEDILLA",
    "SMALL LETTER T WITH CEDILLA, CAPITAL LETTER T WITH CARON, SMALL LETTER T WITH CARON",
    "CAPITAL LETTER T WITH STROKE, SMALL LETTER T WITH STROKE, CAPITAL LETTER U WITH TILDE",
    "SMALL LETTER U WITH TILDE, CAPITAL LETTER U WITH MACRON, SMALL LETTER U WITH MACRON",
    "CAPITAL LETTER U WITH BREVE, SMALL LETTER U WITH BREVE, CAPITAL LETTER U WITH RING ABOVE",
    "SMALL LETTER U WITH RING ABOVE, CAPITAL LETTER U WITH DOUBLE ACUTE",
    "SMALL LETTER U WITH DOUBLE ACUTE, CAPITAL LETTER U WITH OGONEK, SMALL LETTER U WITH OGONEK",
    "CAPITAL LETTER W WITH CIRCUMFLEX, SMALL LETTER W WITH CIRCUMFLEX",
    "CAPITAL LETTER Y WITH CIRCUMFLEX, SMALL LETTER Y WITH CIRCUMFLEX",
    "CAPITAL LETTER Y WITH DIAERESIS, CAPITAL LETTER Z WITH ACUTE, SMALL LETTER Z WITH ACUTE",
    "CAPITAL LETTER Z WITH DOT ABOVE, SMALL LETTER Z WITH DOT ABOVE, CAPITAL LETTER Z WITH CARON",
    "SMALL LETTER Z WITH CARON, SMALL LETTER LONG S"]⟩,
  ⟨0x300, "COMBINING ", [
    "GRAVE ACCENT, ACUTE ACCENT, CIRCUMFLEX ACCENT, TILDE, MACRON, OVERLINE, BREVE, DOT ABOVE",
    "DIAERESIS, HOOK ABOVE, RING ABOVE, DOUBLE ACUTE ACCENT, CARON, VERTICAL LINE ABOVE",
    "DOUBLE VERTICAL LINE ABOVE, DOUBLE GRAVE ACCENT, CANDRABINDU, INVERTED BREVE",
    "TURNED COMMA ABOVE, COMMA ABOVE, REVERSED COMMA ABOVE, COMMA ABOVE RIGHT, GRAVE ACCENT BELOW",
    "ACUTE ACCENT BELOW, LEFT TACK BELOW, RIGHT TACK BELOW, LEFT ANGLE ABOVE, HORN",
    "LEFT HALF RING BELOW, UP TACK BELOW, DOWN TACK BELOW, PLUS SIGN BELOW, MINUS SIGN BELOW",
    "PALATALIZED HOOK BELOW, RETROFLEX HOOK BELOW, DOT BELOW, DIAERESIS BELOW, RING BELOW",
    "COMMA BELOW, CEDILLA, OGONEK, VERTICAL LINE BELOW, BRIDGE BELOW, INVERTED DOUBLE ARCH BELOW",
    "CARON BELOW, CIRCUMFLEX ACCENT BELOW, BREVE BELOW, INVERTED BREVE BELOW, TILDE BELOW",
    "MACRON BELOW, LOW LINE, DOUBLE LOW LINE, TILDE OVERLAY, SHORT STROKE OVERLAY",
    "LONG STROKE OVERLAY, SHORT SOLIDUS OVERLAY, LONG SOLIDUS OVERLAY, RIGHT HALF RING BELOW",
    "INVERTED BRIDGE BELOW, SQUARE BELOW, SEAGULL BELOW, X ABOVE, VERTICAL TILDE, DOUBLE OVERLINE",
    "GRAVE TONE MARK, ACUTE TONE MARK, GREEK PERISPOMENI, GREEK KORONIS, GREEK DIALYTIKA TONOS",
    "GREEK YPOGEGRAMMENI, BRIDGE ABOVE, EQUALS SIGN BELOW, DOUBLE VERTICAL LINE BELOW",
    "LEFT ANGLE BELOW, NOT TILDE ABOVE, HOMOTHETIC ABOVE, ALMOST EQUAL TO ABOVE",
    "LEFT RIGHT ARROW BELOW, UPWARDS ARROW BELOW, GRAPHEME JOINER, RIGHT ARROWHEAD ABOVE",
    "LEFT HALF RING ABOVE, FERMATA, X BELOW, LEFT ARROWHEAD BELOW, RIGHT ARROWHEAD BELOW",
    "RIGHT ARROWHEAD AND UP ARROWHEAD BELOW, RIGHT HALF RING ABOVE, DOT ABOVE RIGHT",
    "ASTERISK BELOW, DOUBLE RING BELOW, ZIGZAG ABOVE"]⟩,
  ⟨0x35c, "COMBINING DOUBLE ", [
    "BREVE BELOW, BREVE, MACRON, MACRON BELOW, TILDE, INVERTED BREVE, RIGHTWARDS ARROW BELOW"]⟩,
  ⟨0x363, "COMBINING LATIN SMALL LETTER ", ["A, E, I, O, U, C, D, H, M, R, T, V, X"]⟩,
  ⟨0x370, "GREEK ", [
    "CAPITAL LETTER HETA, SMALL LETTER HETA, CAPITAL LETTER ARCHAIC SAMPI",
    "SMALL LETTER ARCHAIC SAMPI, NUMERAL SIGN, LOWER NUMERAL SIGN",
    "CAPITAL LETTER PAMPHYLIAN DIGAMMA, SMALL LETTER PAMPHYLIAN DIGAMMA"]⟩,
  ⟨0x37a, "GREEK ", [
    "YPOGEGRAMMENI, SMALL REVERSED LUNATE SIGMA SYMBOL, SMALL DOTTED LUNATE SIGMA SYMBOL",
    "SMALL REVERSED DOTTED LUNATE SIGMA SYMBOL, QUESTION MARK, CAPITAL LETTER YOT"]⟩,
  ⟨0x384, "GREEK ", ["TONOS, DIALYTIKA TONOS, CAPITAL LETTER ALPHA WITH TONOS, ANO TELEIA"]⟩,
  ⟨0x388, "GREEK CAPITAL LETTER ", ["EPSILON WITH TONOS, ETA WITH TONOS, IOTA WITH TONOS"]⟩,
  ⟨0x38c, "GREEK CAPITAL LETTER OMICRON WITH ", ["TONOS"]⟩,
  ⟨0x38e, "GREEK ", [
    "CAPITAL LETTER UPSILON WITH TONOS, CAPITAL LETTER OMEGA WITH TONOS",
    "SMALL LETTER IOTA WITH DIALYTIKA AND TONOS"]⟩,
  ⟨0x391, "GREEK CAPITAL LETTER ", [
    "ALPHA, BETA, GAMMA, DELTA, EPSILON, ZETA, ETA, THETA, IOTA, KAPPA, LAMDA, MU, NU, XI",
    "OMICRON, PI, RHO"]⟩,
  ⟨0x3a3, "GREEK CAPITAL LETTER ", [
    "SIGMA, TAU, UPSILON, PHI, CHI, PSI, OMEGA, IOTA WITH DIALYTIKA, UPSILON WITH DIALYTIKA"]⟩,
  ⟨0x3ac, "GREEK SMALL LETTER ", [
    "ALPHA WITH TONOS, EPSILON WITH TONOS, ETA WITH TONOS, IOTA WITH TONOS",
    "UPSILON WITH DIALYTIKA AND TONOS, ALPHA, BETA, GAMMA, DELTA, EPSILON, ZETA, ETA, THETA, IOTA",
    "KAPPA, LAMDA, MU, NU, XI, OMICRON, PI, RHO, FINAL SIGMA, SIGMA, TAU, UPSILON, PHI, CHI, PSI",
    "OMEGA, IOTA WITH DIALYTIKA, UPSILON WITH DIALYTIKA, OMICRON WITH TONOS, UPSILON WITH TONOS",
    "OMEGA WITH TONOS"]⟩,
  ⟨0x3cf, "GREEK ", [
    "CAPITAL KAI SYMBOL, BETA SYMBOL, THETA SYMBOL, UPSILON WITH HOOK SYMBOL",
    "UPSILON WITH ACUTE AND HOOK SYMBOL, UPSILON WITH DIAERESIS AND HOOK SYMBOL, PHI SYMBOL",
    "PI SYMBOL, KAI SYMBOL, LETTER ARCHAIC KOPPA, SMALL LETTER ARCHAIC KOPPA, LETTER STIGMA",
    "SMALL LETTER STIGMA, LETTER DIGAMMA, SMALL LETTER DIGAMMA, LETTER KOPPA, SMALL LETTER KOPPA",
    "LETTER SAMPI, SMALL LETTER SAMPI"]⟩,
  ⟨0x3e2, "COPTIC ", [
    "CAPITAL LETTER SHEI, SMALL LETTER SHEI, CAPITAL LETTER FEI, SMALL LETTER FEI",
    "CAPITAL LETTER KHEI, SMALL LETTER KHEI, CAPITAL LETTER HORI, SMALL LETTER HORI",
    "CAPITAL LETTER GANGIA, SMALL LETTER GANGIA, CAPITAL LETTER SHIMA, SMALL LETTER SHIMA",
    "CAPITAL LETTER DEI, SMALL LETTER DEI"]⟩,
  ⟨0x3f0, "GREEK ", [
    "KAPPA SYMBOL, RHO SYMBOL, LUNATE SIGMA SYMBOL, LETTER YOT, CAPITAL THETA SYMBOL",
    "LUNATE EPSILON SYMBOL, REVERSED LUNATE EPSILON SYMBOL, CAPITAL LETTER SHO, SMALL LETTER SHO",
    "CAPITAL LUNATE SIGMA SYMBOL, CAPITAL LETTER SAN, SMALL LETTER SAN, RHO WITH STROKE SYMBOL",
    "CAPITAL REVERSED LUNATE SIGMA SYMBOL, CAPITAL DOTTED LUNATE SIGMA SYMBOL",
    "CAPITAL REVERSED DOTTED LUNATE SIGMA SYMBOL"]⟩,
  ⟨0x400, "CYRILLIC CAPITAL LETTER ", [
    "IE WITH GRAVE, IO, DJE, GJE, UKRAINIAN IE, DZE, BYELORUSSIAN-UKRAINIAN I, YI, JE, LJE, NJE",
    "TSHE, KJE, I WITH GRAVE, SHORT U, DZHE, A, BE, VE, GHE, DE, IE, ZHE, ZE, I, SHORT I, KA, EL",
    "EM, EN, O, PE, ER, ES, TE, U, EF, HA, TSE, CHE, SHA, SHCHA, HARD SIGN, YERU, SOFT SIGN, E",
    "YU, YA"]⟩,
  ⟨0x430, "CYRILLIC SMALL LETTER ", [
    "A, BE, VE, GHE, DE, IE, ZHE, ZE, I, SHORT I, KA, EL, EM, EN, O, PE, ER, ES, TE, U, EF, HA",
    "TSE, CHE, SHA, SHCHA, HARD SIGN, YERU, SOFT SIGN, E, YU, YA, IE WITH GRAVE, IO, DJE, GJE",
    "UKRAINIAN IE, DZE, BYELORUSSIAN-UKRAINIAN I, YI, JE, LJE, NJE, TSHE, KJE, I WITH GRAVE",
    "SHORT U, DZHE"]⟩,
  ⟨0x5d0, "HEBREW LETTER ", [
    "ALEF, BET, GIMEL, DALET, HE, VAV, ZAYIN, HET, TET, YOD, FINAL KAF, KAF, LAMED, FINAL MEM",
    "MEM, FINAL NUN, NUN, SAMEKH, AYIN, FINAL PE, PE, FINAL TSADI, TSADI, QOF, RESH, SHIN, TAV"]⟩,
  ⟨0x2000, "", [
    "EN QUAD, EM QUAD, EN SPACE, EM SPACE, THREE-PER-EM SPACE, FOUR-PER-EM SPACE",
    "SIX-PER-EM SPACE, FIGURE SPACE, PUNCTUATION SPACE, THIN SPACE, HAIR SPACE, ZERO WIDTH SPACE",
    "ZERO WIDTH NON-JOINER, ZERO WIDTH JOINER, LEFT-TO-RIGHT MARK, RIGHT-TO-LEFT MARK, HYPHEN",
    "NON-BREAKING HYPHEN, FIGURE DASH, EN DASH, EM DASH, HORIZONTAL BAR, DOUBLE VERTICAL LINE",
    "DOUBLE LOW LINE, LEFT SINGLE QUOTATION MARK, RIGHT SINGLE QUOTATION MARK",
    "SINGLE LOW-9 QUOTATION MARK, SINGLE HIGH-REVERSED-9 QUOTATION MARK",
    "LEFT DOUBLE QUOTATION MARK, RIGHT DOUBLE QUOTATION MARK, DOUBLE LOW-9 QUOTATION MARK",
    "DOUBLE HIGH-REVERSED-9 QUOTATION MARK, DAGGER, DOUBLE DAGGER, BULLET, TRIANGULAR BULLET",
    "ONE DOT LEADER, TWO DOT LEADER, HORIZONTAL ELLIPSIS, HYPHENATION POINT, LINE SEPARATOR",
    "PARAGRAPH SEPARATOR, LEFT-TO-RIGHT EMBEDDING, RIGHT-TO-LEFT EMBEDDING",
    "POP DIRECTIONAL FORMATTING, LEFT-TO-RIGHT OVERRIDE, RIGHT-TO-LEFT OVERRIDE",
    "NARROW NO-BREAK SPACE, PER MILLE SIGN, PER TEN THOUSAND SIGN, PRIME, DOUBLE PRIME",
    "TRIPLE PRIME, REVERSED PRIME, REVERSED DOUBLE PRIME, REVERSED TRIPLE PRIME, CARET",
    "SINGLE LEFT-POINTING ANGLE QUOTATION MARK, SINGLE RIGHT-POINTING ANGLE QUOTATION MARK",
    "REFERENCE MARK, DOUBLE EXCLAMATION MARK, INTERROBANG, OVERLINE, UNDERTIE, CHARACTER TIE",
    "CARET INSERTION POINT, ASTERISM, HYPHEN BULLET, FRACTION SLASH",
    "LEFT SQUARE BRACKET WITH QUILL, RIGHT SQUARE BRACKET WITH QUILL, DOUBLE QUESTION MARK",
    "QUESTION EXCLAMATION MARK, EXCLAMATION QUESTION MARK, TIRONIAN SIGN ET",
    "REVERSED PILCROW SIGN, BLACK LEFTWARDS BULLET, BLACK RIGHTWARDS BULLET, LOW ASTERISK",
    "REVERSED SEMICOLON, CLOSE UP, TWO ASTERISKS ALIGNED VERTICALLY, COMMERCIAL MINUS SIGN",
    "SWUNG DASH, INVERTED UNDERTIE, FLOWER PUNCTUATION MARK, THREE DOT PUNCTUATION",
    "QUADRUPLE PRIME, FOUR DOT PUNCTUATION, FIVE DOT PUNCTUATION, TWO DOT PUNCTUATION",
    "FOUR DOT MARK, DOTTED CROSS, TRICOLON, VERTICAL FOUR DOTS, MEDIUM MATHEMATICAL SPACE",
    "WORD JOINER, FUNCTION APPLICATION, INVISIBLE TIMES, INVISIBLE SEPARATOR, INVISIBLE PLUS"]⟩,
  ⟨0x2066, "", [
    "LEFT-TO-RIGHT ISOLATE, RIGHT-TO-LEFT ISOLATE, FIRST STRONG ISOLATE, POP DIRECTIONAL ISOLATE",
    "INHIBIT SYMMETRIC SWAPPING, ACTIVATE SYMMETRIC SWAPPING, INHIBIT ARABIC FORM SHAPING",
    "ACTIVATE ARABIC FORM SHAPING, NATIONAL DIGIT SHAPES, NOMINAL DIGIT SHAPES"]⟩,
  ⟨0x2070, "SUPERSCRIPT ", ["ZERO, LATIN SMALL LETTER I"]⟩,
  ⟨0x2074, "SUPERSCRIPT ", [
    "FOUR, FIVE, SIX, SEVEN, EIGHT, NINE, PLUS SIGN, MINUS, EQUALS SIGN, LEFT PARENTHESIS",
    "RIGHT PARENTHESIS, LATIN SMALL LETTER N"]⟩,
  ⟨0x2080, "SUBSCRIPT ", [
    "ZERO, ONE, TWO, THREE, FOUR, FIVE, SIX, SEVEN, EIGHT, NINE, PLUS SIGN, MINUS, EQUALS SIGN",
    "LEFT PARENTHESIS, RIGHT PARENTHESIS"]⟩,
  ⟨0x2090, "LATIN SUBSCRIPT SMALL LETTER ", ["A, E, O, X, SCHWA, H, K, L, M, N, P, S, T"]⟩,
  ⟨0x20a0, "", [
    "EURO-CURRENCY SIGN, COLON SIGN, CRUZEIRO SIGN, FRENCH FRANC SIGN, LIRA SIGN, MILL SIGN",
    "NAIRA SIGN, PESETA SIGN, RUPEE SIGN, WON SIGN, NEW SHEQEL SIGN, DONG SIGN, EURO SIGN",
    "KIP SIGN, TUGRIK SIGN, DRACHMA SIGN, GERMAN PENNY SIGN, PESO SIGN, GUARANI SIGN",
    "AUSTRAL SIGN, HRYVNIA SIGN, CEDI SIGN, LIVRE TOURNOIS SIGN, SPESMILO SIGN, TENGE SIGN",
    "INDIAN RUPEE SIGN, TURKISH LIRA SIGN, NORDIC MARK SIGN, MANAT SIGN, RUBLE SIGN, LARI SIGN",
    "BITCOIN SIGN, SOM SIGN"]⟩,
  ⟨0x2100, "", [
    "ACCOUNT OF, ADDRESSED TO THE SUBJECT, DOUBLE-STRUCK CAPITAL C, DEGREE CELSIUS",
    "CENTRE LINE SYMBOL, CARE OF, CADA UNA, EULER CONSTANT, SCRUPLE, DEGREE FAHRENHEIT",
    "SCRIPT SMALL G, SCRIPT CAPITAL H, BLACK-LETTER CAPITAL H, DOUBLE-STRUCK CAPITAL H",
    "PLANCK CONSTANT, PLANCK CONSTANT OVER TWO PI, SCRIPT CAPITAL I, BLACK-LETTER CAPITAL I",
    "SCRIPT CAPITAL L, SCRIPT SMALL L, L B BAR SYMBOL, DOUBLE-STRUCK CAPITAL N, NUMERO SIGN"]⟩,
  ⟨0x2117, "SOUND RECORDING COPY", ["RIGHT"]⟩,
  ⟨0x2118, "", [
    "SCRIPT CAPITAL P, DOUBLE-STRUCK CAPITAL P, DOUBLE-STRUCK CAPITAL Q, SCRIPT CAPITAL R",
    "BLACK-LETTER CAPITAL R, DOUBLE-STRUCK CAPITAL R, PRESCRIPTION TAKE, RESPONSE, SERVICE MARK",
    "TELEPHONE SIGN, TRADE MARK SIGN, VERSICLE, DOUBLE-STRUCK CAPITAL Z, OUNCE SIGN, OHM SIGN",
    "INVERTED OHM SIGN, BLACK-LETTER CAPITAL Z, TURNED GREEK SMALL LETTER IOTA, KELVIN SIGN",
    "ANGSTROM SIGN, SCRIPT CAPITAL B, BLACK-LETTER CAPITAL C, ESTIMATED SYMBOL, SCRIPT SMALL E",
    "SCRIPT CAPITAL E, SCRIPT CAPITAL F, TURNED CAPITAL F, SCRIPT CAPITAL M, SCRIPT SMALL O",
    "ALEF SYMBOL, BET SYMBOL, GIMEL SYMBOL, DALET SYMBOL, INFORMATION SOURCE, ROTATED CAPITAL Q",
    "FACSIMILE SIGN"]⟩,
  ⟨0x213c, "DOUBLE-STRUCK ", ["SMALL PI, SMALL GAMMA, CAPITAL GAMMA, CAPITAL PI, N-ARY SUMMATION"]⟩,
  ⟨0x2141, "TURNED SANS-SERIF CAPITAL ", ["G, L"]⟩,
  ⟨0x2143, "", ["REVERSED SANS-SERIF CAPITAL L, TURNED SANS-SERIF CAPITAL Y"]⟩,
  ⟨0x2145, "DOUBLE-STRUCK ITALIC ", ["CAPITAL D, SMALL D, SMALL E, SMALL I, SMALL J"]⟩,
  ⟨0x214a, "", [
    "PROPERTY LINE, TURNED AMPERSAND, PER SIGN, AKTIESELSKAB, TURNED SMALL F",
    "SYMBOL FOR SAMARITAN SOURCE"]⟩,
  ⟨0x2150, "VULGAR FRACTION ", [
    "ONE SEVENTH, ONE NINTH, ONE TENTH, ONE THIRD, TWO THIRDS, ONE FIFTH, TWO FIFTHS",
    "THREE FIFTHS, FOUR FIFTHS, ONE SIXTH, FIVE SIXTHS, ONE EIGHTH, THREE EIGHTHS, FIVE EIGHTHS",
    "SEVEN EIGHTHS"]⟩,
  ⟨0x215f, "FRACTION NUMERATOR ", ["ONE"]⟩,
  ⟨0x2160, "ROMAN NUMERAL ", [
    "ONE, TWO, THREE, FOUR, FIVE, SIX, SEVEN, EIGHT, NINE, TEN, ELEVEN, TWELVE, FIFTY",
    "ONE HUNDRED, FIVE HUNDRED, ONE THOUSAND"]⟩,
  ⟨0x2170, "SMALL ROMAN NUMERAL ", [
    "ONE, TWO, THREE, FOUR, FIVE, SIX, SEVEN, EIGHT, NINE, TEN, ELEVEN, TWELVE, FIFTY",
    "ONE HUNDRED, FIVE HUNDRED, ONE THOUSAND"]⟩,
  ⟨0x2180, "ROMAN NUMERAL ", [
    "ONE THOUSAND C D, FIVE THOUSAND, TEN THOUSAND, REVERSED ONE HUNDRED"]⟩,
  ⟨0x2184, "", [
    "LATIN SMALL LETTER REVERSED C, ROMAN NUMERAL SIX LATE FORM, ROMAN NUMERAL FIFTY EARLY FORM",
    "ROMAN NUMERAL FIFTY THOUSAND, ROMAN NUMERAL ONE HUNDRED THOUSAND",
    "VULGAR FRACTION ZERO THIRDS, TURNED DIGIT TWO, TURNED DIGIT THREE"]⟩,
  ⟨0x2190, "", [
    "LEFTWARDS ARROW, UPWARDS ARROW, RIGHTWARDS ARROW, DOWNWARDS ARROW, LEFT RIGHT ARROW",
    "UP DOWN ARROW, NORTH WEST ARROW, NORTH EAST ARROW, SOUTH EAST ARROW, SOUTH WEST ARROW",
    "LEFTWARDS ARROW WITH STROKE, RIGHTWARDS ARROW WITH STROKE, LEFTWARDS WAVE ARROW",
    "RIGHTWARDS WAVE ARROW, LEFTWARDS TWO HEADED ARROW, UPWARDS TWO HEADED ARROW",
    "RIGHTWARDS TWO HEADED ARROW, DOWNWARDS TWO HEADED ARROW, LEFTWARDS ARROW WITH TAIL",
    "RIGHTWARDS ARROW WITH TAIL, LEFTWARDS ARROW FROM BAR, UPWARDS ARROW FROM BAR",
    "RIGHTWARDS ARROW FROM BAR, DOWNWARDS ARROW FROM BAR, UP DOWN ARROW WITH BASE",
    "LEFTWARDS ARROW WITH HOOK, RIGHTWARDS ARROW WITH HOOK, LEFTWARDS ARROW WITH LOOP",
    "RIGHTWARDS ARROW WITH LOOP, LEFT RIGHT WAVE ARROW, LEFT RIGHT ARROW WITH STROKE",
    "DOWNWARDS ZIGZAG ARROW, UPWARDS ARROW WITH TIP LEFTWARDS, UPWARDS ARROW WITH TIP RIGHTWARDS",
    "DOWNWARDS ARROW WITH TIP LEFTWARDS, DOWNWARDS ARROW WITH TIP RIGHTWARDS",
    "RIGHTWARDS ARROW WITH CORNER DOWNWARDS, DOWNWARDS ARROW WITH CORNER LEFTWARDS",
    "ANTICLOCKWISE TOP SEMICIRCLE ARROW, CLOCKWISE TOP SEMICIRCLE ARROW",
    "NORTH WEST ARROW TO LONG BAR, LEFTWARDS ARROW TO BAR OVER RIGHTWARDS ARROW TO BAR",
    "ANTICLOCKWISE OPEN CIRCLE ARROW, CLOCKWISE OPEN CIRCLE ARROW"]⟩,
  ⟨0x21bc, "LEFTWARDS HARPOON WITH BARB ", ["UPWARDS, DOWNWARDS"]⟩,
  ⟨0x21be, "UPWARDS HARPOON WITH BARB ", ["RIGHTWARDS, LEFTWARDS"]⟩,
  ⟨0x21c0, "RIGHTWARDS HARPOON WITH BARB ", ["UPWARDS, DOWNWARDS"]⟩,
  ⟨0x21c2, "DOWNWARDS HARPOON WITH BARB ", ["RIGHTWARDS, LEFTWARDS"]⟩,
  ⟨0x21c4, "", [
    "RIGHTWARDS ARROW OVER LEFTWARDS ARROW, UPWARDS ARROW LEFTWARDS OF DOWNWARDS ARROW",
    "LEFTWARDS ARROW OVER RIGHTWARDS ARROW, LEFTWARDS PAIRED ARROWS, UPWARDS PAIRED ARROWS",
    "RIGHTWARDS PAIRED ARROWS, DOWNWARDS PAIRED ARROWS, LEFTWARDS HARPOON OVER RIGHTWARDS HARPOON",
    "RIGHTWARDS HARPOON OVER LEFTWARDS HARPOON, LEFTWARDS DOUBLE ARROW WITH STROKE",
    "LEFT RIGHT DOUBLE ARROW WITH STROKE, RIGHTWARDS DOUBLE ARROW WITH STROKE",
    "LEFTWARDS DOUBLE ARROW, UPWARDS DOUBLE ARROW, RIGHTWARDS DOUBLE ARROW",
    "DOWNWARDS DOUBLE ARROW, LEFT RIGHT DOUBLE ARROW, UP DOWN DOUBLE ARROW",
    "NORTH WEST DOUBLE ARROW, NORTH EAST DOUBLE ARROW, SOUTH EAST DOUBLE ARROW",
    "SOUTH WEST DOUBLE ARROW, LEFTWARDS TRIPLE ARROW, RIGHTWARDS TRIPLE ARROW",
    "LEFTWARDS SQUIGGLE ARROW, RIGHTWARDS SQUIGGLE ARROW, UPWARDS ARROW WITH DOUBLE STROKE",
    "DOWNWARDS ARROW WITH DOUBLE STROKE, LEFTWARDS DASHED ARROW, UPWARDS DASHED ARROW",
    "RIGHTWARDS DASHED ARROW, DOWNWARDS DASHED ARROW, LEFTWARDS ARROW TO BAR",
    "RIGHTWARDS ARROW TO BAR, LEFTWARDS WHITE ARROW, UPWARDS WHITE ARROW, RIGHTWARDS WHITE ARROW",
    "DOWNWARDS WHITE ARROW"]⟩,
  ⟨0x21ea, "UPWARDS WHITE ", [
    "ARROW FROM BAR, ARROW ON PEDESTAL, ARROW ON PEDESTAL WITH HORIZONTAL BAR",
    "ARROW ON PEDESTAL WITH VERTICAL BAR, DOUBLE ARROW, DOUBLE ARROW ON PEDESTAL"]⟩,
  ⟨0x21f0, "", [
    "RIGHTWARDS WHITE ARROW FROM WALL, NORTH WEST ARROW TO CORNER, SOUTH EAST ARROW TO CORNER",
    "UP DOWN WHITE ARROW, RIGHT ARROW WITH SMALL CIRCLE",
    "DOWNWARDS ARROW LEFTWARDS OF UPWARDS ARROW, THREE RIGHTWARDS ARROWS",
    "LEFTWARDS ARROW WITH VERTICAL STROKE, RIGHTWARDS ARROW WITH VERTICAL STROKE",
    "LEFT RIGHT ARROW WITH VERTICAL STROKE, LEFTWARDS ARROW WITH DOUBLE VERTICAL STROKE",
    "RIGHTWARDS ARROW WITH DOUBLE VERTICAL STROKE, LEFT RIGHT ARROW WITH DOUBLE VERTICAL STROKE",
    "LEFTWARDS OPEN-HEADED ARROW, RIGHTWARDS OPEN-HEADED ARROW, LEFT RIGHT OPEN-HEADED ARROW",
    "FOR ALL, COMPLEMENT, PARTIAL DIFFERENTIAL, THERE EXISTS, THERE DOES NOT EXIST, EMPTY SET",
    "INCREMENT, NABLA, ELEMENT OF, NOT AN ELEMENT OF, SMALL ELEMENT OF, CONTAINS AS MEMBER",
    "DOES NOT CONTAIN AS MEMBER, SMALL CONTAINS AS MEMBER, END OF PROOF, N-ARY PRODUCT",
    "N-ARY COPRODUCT, N-ARY SUMMATION, MINUS SIGN, MINUS-OR-PLUS SIGN, DOT PLUS, DIVISION SLASH",
    "SET MINUS, ASTERISK OPERATOR, RING OPERATOR, BULLET OPERATOR, SQUARE ROOT, CUBE ROOT",
    "FOURTH ROOT, PROPORTIONAL TO, INFINITY, RIGHT ANGLE, ANGLE, MEASURED ANGLE, SPHERICAL ANGLE",
    "DIVIDES, DOES NOT DIVIDE, PARALLEL TO, NOT PARALLEL TO, LOGICAL AND, LOGICAL OR",
    "INTERSECTION, UNION, INTEGRAL, DOUBLE INTEGRAL, TRIPLE INTEGRAL, CONTOUR INTEGRAL",
    "SURFACE INTEGRAL, VOLUME INTEGRAL, CLOCKWISE INTEGRAL, CLOCKWISE CONTOUR INTEGRAL",
    "ANTICLOCKWISE CONTOUR INTEGRAL, THEREFORE, BECAUSE, RATIO, PROPORTION, DOT MINUS, EXCESS",
    "GEOMETRIC PROPORTION, HOMOTHETIC, TILDE OPERATOR, REVERSED TILDE, INVERTED LAZY S, SINE WAVE",
    "WREATH PRODUCT, NOT TILDE, MINUS TILDE, ASYMPTOTICALLY EQUAL TO, NOT ASYMPTOTICALLY EQUAL TO",
    "APPROXIMATELY EQUAL TO, APPROXIMATELY BUT NOT ACTUALLY EQUAL TO",
    "NEITHER APPROXIMATELY NOR ACTUALLY EQUAL TO, ALMOST EQUAL TO, NOT ALMOST EQUAL TO",
    "ALMOST EQUAL OR EQUAL TO, TRIPLE TILDE, ALL EQUAL TO, EQUIVALENT TO",
    "GEOMETRICALLY EQUIVALENT TO, DIFFERENCE BETWEEN, APPROACHES THE LIMIT",
    "GEOMETRICALLY EQUAL TO, APPROXIMATELY EQUAL TO OR THE IMAGE OF",
    "IMAGE OF OR APPROXIMATELY EQUAL TO, COLON EQUALS, EQUALS COLON, RING IN EQUAL TO",
    "RING EQUAL TO, CORRESPONDS TO, ESTIMATES, EQUIANGULAR TO, STAR EQUALS, DELTA EQUAL TO",
    "EQUAL TO BY DEFINITION, MEASURED BY, QUESTIONED EQUAL TO, NOT EQUAL TO, IDENTICAL TO",
    "NOT IDENTICAL TO, STRICTLY EQUIVALENT TO, LESS-THAN OR EQUAL TO, GREATER-THAN OR EQUAL TO",
    "LESS-THAN OVER EQUAL TO, GREATER-THAN OVER EQUAL TO, LESS-THAN BUT NOT EQUAL TO",
    "GREATER-THAN BUT NOT EQUAL TO, MUCH LESS-THAN, MUCH GREATER-THAN, BETWEEN, NOT EQUIVALENT TO",
    "NOT LESS-THAN, NOT GREATER-THAN, NEITHER LESS-THAN NOR EQUAL TO",
    "NEITHER GREATER-THAN NOR EQUAL TO, LESS-THAN OR EQUIVALENT TO, GREATER-THAN OR EQUIVALENT TO",
    "NEITHER LESS-THAN NOR EQUIVALENT TO, NEITHER GREATER-THAN NOR EQUIVALENT TO",
    "LESS-THAN OR GREATER-THAN, GREATER-THAN OR LESS-THAN, NEITHER LESS-THAN NOR GREATER-THAN",
    "NEITHER GREATER-THAN NOR LESS-THAN, PRECEDES, SUCCEEDS, PRECEDES OR EQUAL TO",
    "SUCCEEDS OR EQUAL TO, PRECEDES OR EQUIVALENT TO, SUCCEEDS OR EQUIVALENT TO, DOES NOT PRECEDE",
    "DOES NOT SUCCEED, SUBSET OF, SUPERSET OF, NOT A SUBSET OF, NOT A SUPERSET OF",
    "SUBSET OF OR EQUAL TO, SUPERSET OF OR EQUAL TO, NEITHER A SUBSET OF NOR EQUAL TO",
    "NEITHER A SUPERSET OF NOR EQUAL TO, SUBSET OF WITH NOT EQUAL TO",
    "SUPERSET OF WITH NOT EQUAL TO, MULTISET, MULTISET MULTIPLICATION, MULTISET UNION"]⟩,
  ⟨0x228f, "SQUARE ", ["IMAGE OF"]⟩,
  ⟨0x2290, "SQUARE ORIG", ["INAL OF"]⟩,
  ⟨0x2291, "SQUARE ", ["IMAGE OF OR EQUAL TO"]⟩,
  ⟨0x2292, "SQUARE ORIG", ["INAL OF OR EQUAL TO"]⟩,
  ⟨0x2293, "SQUARE ", ["CAP, CUP"]⟩,
  ⟨0x2295, "CIRCLED ", [
    "PLUS, MINUS, TIMES, DIVISION SLASH, DOT OPERATOR, RING OPERATOR, ASTERISK OPERATOR, EQUALS",
    "DASH"]⟩,
  ⟨0x229e, "SQUARED ", ["PLUS, MINUS, TIMES, DOT OPERATOR"]⟩,
  ⟨0x22a2, "", [
    "RIGHT TACK, LEFT TACK, DOWN TACK, UP TACK, ASSERTION, MODELS, TRUE, FORCES",
    "TRIPLE VERTICAL BAR RIGHT TURNSTILE, DOUBLE VERTICAL BAR DOUBLE RIGHT TURNSTILE",
    "DOES NOT PROVE, NOT TRUE, DOES NOT FORCE, NEGATED DOUBLE VERTICAL BAR DOUBLE RIGHT TURNSTILE",
    "PRECEDES UNDER RELATION, SUCCEEDS UNDER RELATION, NORMAL SUBGROUP OF",
    "CONTAINS AS NORMAL SUBGROUP, NORMAL SUBGROUP OF OR EQUAL TO",
    "CONTAINS AS NORMAL SUBGROUP OR EQUAL TO"]⟩,
  ⟨0x22b6, "ORIG", ["INAL OF"]⟩,
  ⟨0x22b7, "", [
    "IMAGE OF, MULTIMAP, HERMITIAN CONJUGATE MATRIX, INTERCALATE, XOR, NAND, NOR",
    "RIGHT ANGLE WITH ARC, RIGHT TRIANGLE, N-ARY LOGICAL AND, N-ARY LOGICAL OR",
    "N-ARY INTERSECTION, N-ARY UNION, DIAMOND OPERATOR, DOT OPERATOR, STAR OPERATOR",
    "DIVISION TIMES, BOWTIE, LEFT NORMAL FACTOR SEMIDIRECT PRODUCT",
    "RIGHT NORMAL FACTOR SEMIDIRECT PRODUCT, LEFT SEMIDIRECT PRODUCT, RIGHT SEMIDIRECT PRODUCT",
    "REVERSED TILDE EQUALS, CURLY LOGICAL OR, CURLY LOGICAL AND, DOUBLE SUBSET, DOUBLE SUPERSET",
    "DOUBLE INTERSECTION, DOUBLE UNION, PITCHFORK, EQUAL AND PARALLEL TO, LESS-THAN WITH DOT",
    "GREATER-THAN WITH DOT, VERY MUCH LESS-THAN, VERY MUCH GREATER-THAN",
    "LESS-THAN EQUAL TO OR GREATER-THAN, GREATER-THAN EQUAL TO OR LESS-THAN",
    "EQUAL TO OR LESS-THAN, EQUAL TO OR GREATER-THAN, EQUAL TO OR PRECEDES, EQUAL TO OR SUCCEEDS",
    "DOES NOT PRECEDE OR EQUAL, DOES NOT SUCCEED OR EQUAL, NOT SQUARE IMAGE OF OR EQUAL TO"]⟩,
  ⟨0x22e3, "NOT SQUARE ORIG", ["INAL OF OR EQUAL TO"]⟩,
  ⟨0x22e4, "", ["SQUARE IMAGE OF OR NOT EQUAL TO"]⟩,
  ⟨0x22e5, "SQUARE ORIG", ["INAL OF OR NOT EQUAL TO"]⟩,
  ⟨0x22e6, "", [
    "LESS-THAN BUT NOT EQUIVALENT TO, GREATER-THAN BUT NOT EQUIVALENT TO",
    "PRECEDES BUT NOT EQUIVALENT TO, SUCCEEDS BUT NOT EQUIVALENT TO, NOT NORMAL SUBGROUP OF",
    "DOES NOT CONTAIN AS NORMAL SUBGROUP, NOT NORMAL SUBGROUP OF OR EQUAL TO",
    "DOES NOT CONTAIN AS NORMAL SUBGROUP OR EQUAL, VERTICAL ELLIPSIS, MIDLINE HORIZONTAL ELLIPSIS",
    "UP RIGHT DIAGONAL ELLIPSIS, DOWN RIGHT DIAGONAL ELLIPSIS",
    "ELEMENT OF WITH LONG HORIZONTAL STROKE",
    "ELEMENT OF WITH VERTICAL BAR AT END OF HORIZONTAL STROKE",
    "SMALL ELEMENT OF WITH VERTICAL BAR AT END OF HORIZONTAL STROKE, ELEMENT OF WITH DOT ABOVE",
    "ELEMENT OF WITH OVERBAR, SMALL ELEMENT OF WITH OVERBAR, ELEMENT OF WITH UNDERBAR",
    "ELEMENT OF WITH TWO HORIZONTAL STROKES, CONTAINS WITH LONG HORIZONTAL STROKE",
    "CONTAINS WITH VERTICAL BAR AT END OF HORIZONTAL STROKE",
    "SMALL CONTAINS WITH VERTICAL BAR AT END OF HORIZONTAL STROKE, CONTAINS WITH OVERBAR",
    "SMALL CONTAINS WITH OVERBAR, Z NOTATION BAG MEMBERSHIP"]⟩,
  ⟨0x2500, "BOX DRAWINGS ", [
    "LIGHT HORIZONTAL, HEAVY HORIZONTAL, LIGHT VERTICAL, HEAVY VERTICAL",
    "LIGHT TRIPLE DASH HORIZONTAL, HEAVY TRIPLE DASH HORIZONTAL, LIGHT TRIPLE DASH VERTICAL",
    "HEAVY TRIPLE DASH VERTICAL, LIGHT QUADRUPLE DASH HORIZONTAL, HEAVY QUADRUPLE DASH HORIZONTAL",
    "LIGHT QUADRUPLE DASH VERTICAL, HEAVY QUADRUPLE DASH VERTICAL, LIGHT DOWN AND RIGHT",
    "DOWN LIGHT AND RIGHT HEAVY, DOWN HEAVY AND RIGHT LIGHT, HEAVY DOWN AND RIGHT",
    "LIGHT DOWN AND LEFT, DOWN LIGHT AND LEFT HEAVY, DOWN HEAVY AND LEFT LIGHT",
    "HEAVY DOWN AND LEFT, LIGHT UP AND RIGHT, UP LIGHT AND RIGHT HEAVY, UP HEAVY AND RIGHT LIGHT",
    "HEAVY UP AND RIGHT, LIGHT UP AND LEFT, UP LIGHT AND LEFT HEAVY, UP HEAVY AND LEFT LIGHT",
    "HEAVY UP AND LEFT, LIGHT VERTICAL AND RIGHT, VERTICAL LIGHT AND RIGHT HEAVY",
    "UP HEAVY AND RIGHT DOWN LIGHT, DOWN HEAVY AND RIGHT UP LIGHT, VERTICAL HEAVY AND RIGHT LIGHT",
    "DOWN LIGHT AND RIGHT UP HEAVY, UP LIGHT AND RIGHT DOWN HEAVY, HEAVY VERTICAL AND RIGHT",
    "LIGHT VERTICAL AND LEFT, VERTICAL LIGHT AND LEFT HEAVY, UP HEAVY AND LEFT DOWN LIGHT",
    "DOWN HEAVY AND LEFT UP LIGHT, VERTICAL HEAVY AND LEFT LIGHT, DOWN LIGHT AND LEFT UP HEAVY",
    "UP LIGHT AND LEFT DOWN HEAVY, HEAVY VERTICAL AND LEFT, LIGHT DOWN AND HORIZONTAL",
    "LEFT HEAVY AND RIGHT DOWN LIGHT, RIGHT HEAVY AND LEFT DOWN LIGHT",
    "DOWN LIGHT AND HORIZONTAL HEAVY, DOWN HEAVY AND HORIZONTAL LIGHT",
    "RIGHT LIGHT AND LEFT DOWN HEAVY, LEFT LIGHT AND RIGHT DOWN HEAVY, HEAVY DOWN AND HORIZONTAL",
    "LIGHT UP AND HORIZONTAL, LEFT HEAVY AND RIGHT UP LIGHT, RIGHT HEAVY AND LEFT UP LIGHT",
    "UP LIGHT AND HORIZONTAL HEAVY, UP HEAVY AND HORIZONTAL LIGHT, RIGHT LIGHT AND LEFT UP HEAVY",
    "LEFT LIGHT AND RIGHT UP HEAVY, HEAVY UP AND HORIZONTAL, LIGHT VERTICAL AND HORIZONTAL",
    "LEFT HEAVY AND RIGHT VERTICAL LIGHT, RIGHT HEAVY AND LEFT VERTICAL LIGHT",
    "VERTICAL LIGHT AND HORIZONTAL HEAVY, UP HEAVY AND DOWN HORIZONTAL LIGHT",
    "DOWN HEAVY AND UP HORIZONTAL LIGHT, VERTICAL HEAVY AND HORIZONTAL LIGHT",
    "LEFT UP HEAVY AND RIGHT DOWN LIGHT, RIGHT UP HEAVY AND LEFT DOWN LIGHT",
    "LEFT DOWN HEAVY AND RIGHT UP LIGHT, RIGHT DOWN HEAVY AND LEFT UP LIGHT",
    "DOWN LIGHT AND UP HORIZONTAL HEAVY, UP LIGHT AND DOWN HORIZONTAL HEAVY",
    "RIGHT LIGHT AND LEFT VERTICAL HEAVY, LEFT LIGHT AND RIGHT VERTICAL HEAVY",
    "HEAVY VERTICAL AND HORIZONTAL, LIGHT DOUBLE DASH HORIZONTAL, HEAVY DOUBLE DASH HORIZONTAL",
    "LIGHT DOUBLE DASH VERTICAL, HEAVY DOUBLE DASH VERTICAL, DOUBLE HORIZONTAL, DOUBLE VERTICAL",
    "DOWN SINGLE AND RIGHT DOUBLE, DOWN DOUBLE AND RIGHT SINGLE, DOUBLE DOWN AND RIGHT",
    "DOWN SINGLE AND LEFT DOUBLE, DOWN DOUBLE AND LEFT SINGLE, DOUBLE DOWN AND LEFT",
    "UP SINGLE AND RIGHT DOUBLE, UP DOUBLE AND RIGHT SINGLE, DOUBLE UP AND RIGHT",
    "UP SINGLE AND LEFT DOUBLE, UP DOUBLE AND LEFT SINGLE, DOUBLE UP AND LEFT",
    "VERTICAL SINGLE AND RIGHT DOUBLE, VERTICAL DOUBLE AND RIGHT SINGLE",
    "DOUBLE VERTICAL AND RIGHT, VERTICAL SINGLE AND LEFT DOUBLE, VERTICAL DOUBLE AND LEFT SINGLE",
    "DOUBLE VERTICAL AND LEFT, DOWN SINGLE AND HORIZONTAL DOUBLE",
    "DOWN DOUBLE AND HORIZONTAL SINGLE, DOUBLE DOWN AND HORIZONTAL",
    "UP SINGLE AND HORIZONTAL DOUBLE, UP DOUBLE AND HORIZONTAL SINGLE, DOUBLE UP AND HORIZONTAL",
    "VERTICAL SINGLE AND HORIZONTAL DOUBLE, VERTICAL DOUBLE AND HORIZONTAL SINGLE",
    "DOUBLE VERTICAL AND HORIZONTAL, LIGHT ARC DOWN AND RIGHT, LIGHT ARC DOWN AND LEFT",
    "LIGHT ARC UP AND LEFT, LIGHT ARC UP AND RIGHT, LIGHT DIAGONAL UPPER RIGHT TO LOWER LEFT",
    "LIGHT DIAGONAL UPPER LEFT TO LOWER RIGHT, LIGHT DIAGONAL CROSS, LIGHT LEFT, LIGHT UP",
    "LIGHT RIGHT, LIGHT DOWN, HEAVY LEFT, HEAVY UP, HEAVY RIGHT, HEAVY DOWN",
    "LIGHT LEFT AND HEAVY RIGHT, LIGHT UP AND HEAVY DOWN, HEAVY LEFT AND LIGHT RIGHT",
    "HEAVY UP AND LIGHT DOWN"]⟩,
  ⟨0x2580, "", [
    "UPPER HALF BLOCK, LOWER ONE EIGHTH BLOCK, LOWER ONE QUARTER BLOCK, LOWER THREE EIGHTHS BLOCK",
    "LOWER HALF BLOCK, LOWER FIVE EIGHTHS BLOCK, LOWER THREE QUARTERS BLOCK",
    "LOWER SEVEN EIGHTHS BLOCK, FULL BLOCK, LEFT SEVEN EIGHTHS BLOCK, LEFT THREE QUARTERS BLOCK",
    "LEFT FIVE EIGHTHS BLOCK, LEFT HALF BLOCK, LEFT THREE EIGHTHS BLOCK, LEFT ONE QUARTER BLOCK",
    "LEFT ONE EIGHTH BLOCK, RIGHT HALF BLOCK, LIGHT SHADE, MEDIUM SHADE, DARK SHADE",
    "UPPER ONE EIGHTH BLOCK, RIGHT ONE EIGHTH BLOCK, QUADRANT LOWER LEFT, QUADRANT LOWER RIGHT"]⟩,
  ⟨0x2598, "QUADRANT UPPER ", [
    "LEFT, LEFT AND LOWER LEFT AND LOWER RIGHT, LEFT AND LOWER RIGHT",
    "LEFT AND UPPER RIGHT AND LOWER LEFT, LEFT AND UPPER RIGHT AND LOWER RIGHT, RIGHT",
    "RIGHT AND LOWER LEFT, RIGHT AND LOWER LEFT AND LOWER RIGHT"]⟩,
  ⟨0x25a0, "", [
    "BLACK SQUARE, WHITE SQUARE, WHITE SQUARE WITH ROUNDED CORNERS",
    "WHITE SQUARE CONTAINING BLACK SMALL SQUARE"]⟩,
  ⟨0x25a4, "SQUARE WITH ", [
    "HORIZONTAL FILL, VERTICAL FILL, ORTHOGONAL CROSSHATCH FILL, UPPER LEFT TO LOWER RIGHT FILL",
    "UPPER RIGHT TO LOWER LEFT FILL, DIAGONAL CROSSHATCH FILL"]⟩,
  ⟨0x25aa, "", [
    "BLACK SMALL SQUARE, WHITE SMALL SQUARE, BLACK RECTANGLE, WHITE RECTANGLE",
    "BLACK VERTICAL RECTANGLE, WHITE VERTICAL RECTANGLE, BLACK PARALLELOGRAM, WHITE PARALLELOGRAM",
    "BLACK UP-POINTING TRIANGLE, WHITE UP-POINTING TRIANGLE, BLACK UP-POINTING SMALL TRIANGLE",
    "WHITE UP-POINTING SMALL TRIANGLE, BLACK RIGHT-POINTING TRIANGLE",
    "WHITE RIGHT-POINTING TRIANGLE, BLACK RIGHT-POINTING SMALL TRIANGLE",
    "WHITE RIGHT-POINTING SMALL TRIANGLE, BLACK RIGHT-POINTING POINTER",
    "WHITE RIGHT-POINTING POINTER, BLACK DOWN-POINTING TRIANGLE, WHITE DOWN-POINTING TRIANGLE",
    "BLACK DOWN-POINTING SMALL TRIANGLE, WHITE DOWN-POINTING SMALL TRIANGLE",
    "BLACK LEFT-POINTING TRIANGLE, WHITE LEFT-POINTING TRIANGLE",
    "BLACK LEFT-POINTING SMALL TRIANGLE, WHITE LEFT-POINTING SMALL TRIANGLE",
    "BLACK LEFT-POINTING POINTER, WHITE LEFT-POINTING POINTER, BLACK DIAMOND, WHITE DIAMOND",
    "WHITE DIAMOND CONTAINING BLACK SMALL DIAMOND, FISHEYE, LOZENGE, WHITE CIRCLE, DOTTED CIRCLE",
    "CIRCLE WITH VERTICAL FILL, BULLSEYE, BLACK CIRCLE"]⟩,
  ⟨0x25d0, "CIRCLE WITH ", [
    "LEFT HALF BLACK, RIGHT HALF BLACK, LOWER HALF BLACK, UPPER HALF BLACK",
    "UPPER RIGHT QUADRANT BLACK, ALL BUT UPPER LEFT QUADRANT BLACK"]⟩,
  ⟨0x25d6, "", [
    "LEFT HALF BLACK CIRCLE, RIGHT HALF BLACK CIRCLE, INVERSE BULLET, INVERSE WHITE CIRCLE",
    "UPPER HALF INVERSE WHITE CIRCLE, LOWER HALF INVERSE WHITE CIRCLE",
    "UPPER LEFT QUADRANT CIRCULAR ARC, UPPER RIGHT QUADRANT CIRCULAR ARC",
    "LOWER RIGHT QUADRANT CIRCULAR ARC, LOWER LEFT QUADRANT CIRCULAR ARC, UPPER HALF CIRCLE",
    "LOWER HALF CIRCLE, BLACK LOWER RIGHT TRIANGLE, BLACK LOWER LEFT TRIANGLE",
    "BLACK UPPER LEFT TRIANGLE, BLACK UPPER RIGHT TRIANGLE, WHITE BULLET",
    "SQUARE WITH LEFT HALF BLACK, SQUARE WITH RIGHT HALF BLACK",
    "SQUARE WITH UPPER LEFT DIAGONAL HALF BLACK, SQUARE WITH LOWER RIGHT DIAGONAL HALF BLACK",
    "WHITE SQUARE WITH VERTICAL BISECTING LINE, WHITE UP-POINTING TRIANGLE WITH DOT",
    "UP-POINTING TRIANGLE WITH LEFT HALF BLACK, UP-POINTING TRIANGLE WITH RIGHT HALF BLACK",
    "LARGE CIRCLE"]⟩,
  ⟨0x25f0, "WHITE SQUARE WITH ", [
    "UPPER LEFT QUADRANT, LOWER LEFT QUADRANT, LOWER RIGHT QUADRANT, UPPER RIGHT QUADRANT"]⟩,
  ⟨0x25f4, "WHITE CIRCLE WITH ", [
    "UPPER LEFT QUADRANT, LOWER LEFT QUADRANT, LOWER RIGHT QUADRANT, UPPER RIGHT QUADRANT"]⟩,
  ⟨0x25f8, "", [
    "UPPER LEFT TRIANGLE, UPPER RIGHT TRIANGLE, LOWER LEFT TRIANGLE, WHITE MEDIUM SQUARE",
    "BLACK MEDIUM SQUARE, WHITE MEDIUM SMALL SQUARE, BLACK MEDIUM SMALL SQUARE",
    "LOWER RIGHT TRIANGLE, BLACK SUN WITH RAYS, CLOUD, UMBRELLA, SNOWMAN, COMET, BLACK STAR",
    "WHITE STAR, LIGHTNING, THUNDERSTORM, SUN, ASCENDING NODE, DESCENDING NODE, CONJUNCTION",
    "OPPOSITION, BLACK TELEPHONE, WHITE TELEPHONE, BALLOT BOX, BALLOT BOX WITH CHECK",
    "BALLOT BOX WITH X, SALTIRE, UMBRELLA WITH RAIN DROPS, HOT BEVERAGE, WHITE SHOGI PIECE",
    "BLACK SHOGI PIECE, SHAMROCK, REVERSED ROTATED FLORAL HEART BULLET, BLACK LEFT POINTING INDEX",
    "BLACK RIGHT POINTING INDEX, WHITE LEFT POINTING INDEX, WHITE UP POINTING INDEX",
    "WHITE RIGHT POINTING INDEX, WHITE DOWN POINTING INDEX, SKULL AND CROSSBONES, CAUTION SIGN",
    "RADIOACTIVE SIGN, BIOHAZARD SIGN, CADUCEUS, ANKH, ORTHODOX CROSS, CHI RHO, CROSS OF LORRAINE",
    "CROSS OF JERUSALEM, STAR AND CRESCENT, FARSI SYMBOL, ADI SHAKTI, HAMMER AND SICKLE",
    "PEACE SYMBOL, YIN YANG"]⟩,
  ⟨0x2630, "TRIGRAM FOR ", ["HEAVEN, LAKE, FIRE, THUNDER, WIND, WATER, MOUNTAIN, EARTH"]⟩,
  ⟨0x2638, "", [
    "WHEEL OF DHARMA, WHITE FROWNING FACE, WHITE SMILING FACE, BLACK SMILING FACE",
    "WHITE SUN WITH RAYS, FIRST QUARTER MOON, LAST QUARTER MOON, MERCURY, FEMALE SIGN, EARTH",
    "MALE SIGN, JUPITER, SATURN, URANUS, NEPTUNE, PLUTO, ARIES, TAURUS, GEMINI, CANCER, LEO",
    "VIRGO, LIBRA, SCORPIUS, SAGITTARIUS, CAPRICORN, AQUARIUS, PISCES"]⟩,
  ⟨0x2654, "WHITE CHESS ", ["KING, QUEEN, ROOK, BISHOP, KNIGHT, PAWN"]⟩,
  ⟨0x265a, "BLACK CHESS ", ["KING, QUEEN, ROOK, BISHOP, KNIGHT, PAWN"]⟩,
  ⟨0x2660, "", [
    "BLACK SPADE SUIT, WHITE HEART SUIT, WHITE DIAMOND SUIT, BLACK CLUB SUIT, WHITE SPADE SUIT",
    "BLACK HEART SUIT, BLACK DIAMOND SUIT, WHITE CLUB SUIT, HOT SPRINGS, QUARTER NOTE",
    "EIGHTH NOTE, BEAMED EIGHTH NOTES, BEAMED SIXTEENTH NOTES, MUSIC FLAT SIGN",
    "MUSIC NATURAL SIGN, MUSIC SHARP SIGN, WEST SYRIAC CROSS, EAST SYRIAC CROSS",
    "UNIVERSAL RECYCLING SYMBOL"]⟩,
  ⟨0x2673, "RECYCLING SYMBOL FOR ", [
    "TYPE-1 PLASTICS, TYPE-2 PLASTICS, TYPE-3 PLASTICS, TYPE-4 PLASTICS, TYPE-5 PLASTICS",
    "TYPE-6 PLASTICS, TYPE-7 PLASTICS, GENERIC MATERIALS"]⟩,
  ⟨0x267b, "", [
    "BLACK UNIVERSAL RECYCLING SYMBOL, RECYCLED PAPER SYMBOL, PARTIALLY-RECYCLED PAPER SYMBOL",
    "PERMANENT PAPER SIGN, WHEELCHAIR SYMBOL, DIE FACE-1, DIE FACE-2, DIE FACE-3, DIE FACE-4",
    "DIE FACE-5, DIE FACE-6, WHITE CIRCLE WITH DOT RIGHT, WHITE CIRCLE WITH TWO DOTS",
    "BLACK CIRCLE WITH WHITE DOT RIGHT, BLACK CIRCLE WITH TWO WHITE DOTS, MONOGRAM FOR YANG",
    "MONOGRAM FOR YIN, DIGRAM FOR GREATER YANG, DIGRAM FOR LESSER YIN, DIGRAM FOR LESSER YANG",
    "DIGRAM FOR GREATER YIN, WHITE FLAG, BLACK FLAG, HAMMER AND PICK, ANCHOR, CROSSED SWORDS",
    "STAFF OF AESCULAPIUS, SCALES, ALEMBIC, FLOWER, GEAR, STAFF OF HERMES, ATOM SYMBOL",
    "FLEUR-DE-LIS, OUTLINED WHITE STAR, THREE LINES CONVERGING RIGHT, THREE LINES CONVERGING LEFT",
    "WARNING SIGN, HIGH VOLTAGE SIGN, DOUBLED FEMALE SIGN, DOUBLED MALE SIGN",
    "INTERLOCKED FEMALE AND MALE SIGN, MALE AND FEMALE SIGN, MALE WITH STROKE SIGN",
    "MALE WITH STROKE AND MALE AND FEMALE SIGN, VERTICAL MALE WITH STROKE SIGN",
    "HORIZONTAL MALE WITH STROKE SIGN, MEDIUM WHITE CIRCLE, MEDIUM BLACK CIRCLE",
    "MEDIUM SMALL WHITE CIRCLE, MARRIAGE SYMBOL, DIVORCE SYMBOL, UNMARRIED PARTNERSHIP SYMBOL",
    "COFFIN, FUNERAL URN, NEUTER, CERES, PALLAS, JUNO, VESTA, CHIRON, BLACK MOON LILITH, SEXTILE",
    "SEMISEXTILE, QUINCUNX, SESQUIQUADRATE, SOCCER BALL, BASEBALL, SQUARED KEY",
    "WHITE DRAUGHTS MAN, WHITE DRAUGHTS KING, BLACK DRAUGHTS MAN, BLACK DRAUGHTS KING",
    "SNOWMAN WITHOUT SNOW, SUN BEHIND CLOUD, RAIN, BLACK SNOWMAN, THUNDER CLOUD AND RAIN",
    "TURNED WHITE SHOGI PIECE, TURNED BLACK SHOGI PIECE, WHITE DIAMOND IN SQUARE, CROSSING LANES",
    "DISABLED CAR, OPHIUCHUS, PICK, CAR SLIDING, HELMET WITH WHITE CROSS, CIRCLED CROSSING LANES",
    "CHAINS, NO ENTRY, ALTERNATE ONE-WAY LEFT WAY TRAFFIC, BLACK TWO-WAY LEFT WAY TRAFFIC",
    "WHITE TWO-WAY LEFT WAY TRAFFIC, BLACK LEFT LANE MERGE, WHITE LEFT LANE MERGE",
    "DRIVE SLOW SIGN, HEAVY WHITE DOWN-POINTING TRIANGLE, LEFT CLOSED ENTRY, SQUARED SALTIRE",
    "FALLING DIAGONAL IN WHITE CIRCLE IN BLACK SQUARE, BLACK TRUCK, RESTRICTED LEFT ENTRY-1",
    "RESTRICTED LEFT ENTRY-2, ASTRONOMICAL SYMBOL FOR URANUS",
    "HEAVY CIRCLE WITH STROKE AND TWO DOTS ABOVE, PENTAGRAM, RIGHT-HANDED INTERLACED PENTAGRAM",
    "LEFT-HANDED INTERLACED PENTAGRAM, INVERTED PENTAGRAM, BLACK CROSS ON SHIELD, SHINTO SHRINE",
    "CHURCH, CASTLE, HISTORIC SITE, GEAR WITHOUT HUB, GEAR WITH HANDLES",
    "MAP SYMBOL FOR LIGHTHOUSE, MOUNTAIN, UMBRELLA ON GROUND, FOUNTAIN, FLAG IN HOLE, FERRY",
    "SAILBOAT, SQUARE FOUR CORNERS, SKIER, ICE SKATE, PERSON WITH BALL, TENT",
    "JAPANESE BANK SYMBOL, HEADSTONE GRAVEYARD SYMBOL, FUEL PUMP, CUP ON BLACK SQUARE",
    "WHITE FLAG WITH HORIZONTAL MIDDLE BLACK STRIPE, BLACK SAFETY SCISSORS, UPPER BLADE SCISSORS",
    "BLACK SCISSORS, LOWER BLADE SCISSORS, WHITE SCISSORS, WHITE HEAVY CHECK MARK",
    "TELEPHONE LOCATION SIGN, TAPE DRIVE, AIRPLANE, ENVELOPE, RAISED FIST, RAISED HAND",
    "VICTORY HAND, WRITING HAND, LOWER RIGHT PENCIL, PENCIL, UPPER RIGHT PENCIL, WHITE NIB",
    "BLACK NIB, CHECK MARK, HEAVY CHECK MARK, MULTIPLICATION X, HEAVY MULTIPLICATION X, BALLOT X",
    "HEAVY BALLOT X, OUTLINED GREEK CROSS, HEAVY GREEK CROSS, OPEN CENTRE CROSS",
    "HEAVY OPEN CENTRE CROSS, LATIN CROSS, SHADOWED WHITE LATIN CROSS, OUTLINED LATIN CROSS",
    "MALTESE CROSS, STAR OF DAVID, FOUR TEARDROP-SPOKED ASTERISK, FOUR BALLOON-SPOKED ASTERISK",
    "HEAVY FOUR BALLOON-SPOKED ASTERISK, FOUR CLUB-SPOKED ASTERISK, BLACK FOUR POINTED STAR",
    "WHITE FOUR POINTED STAR, SPARKLES, STRESS OUTLINED WHITE STAR, CIRCLED WHITE STAR",
    "OPEN CENTRE BLACK STAR, BLACK CENTRE WHITE STAR, OUTLINED BLACK STAR",
    "HEAVY OUTLINED BLACK STAR, PINWHEEL STAR, SHADOWED WHITE STAR, HEAVY ASTERISK",
    "OPEN CENTRE ASTERISK, EIGHT SPOKED ASTERISK, EIGHT POINTED BLACK STAR",
    "EIGHT POINTED PINWHEEL STAR, SIX POINTED BLACK STAR, EIGHT POINTED RECTILINEAR BLACK STAR",
    "HEAVY EIGHT POINTED RECTILINEAR BLACK STAR, TWELVE POINTED BLACK STAR",
    "SIXTEEN POINTED ASTERISK, TEARDROP-SPOKED ASTERISK, OPEN CENTRE TEARDROP-SPOKED ASTERISK",
    "HEAVY TEARDROP-SPOKED ASTERISK, SIX PETALLED BLACK AND WHITE FLORETTE, BLACK FLORETTE",
    "WHITE FLORETTE, EIGHT PETALLED OUTLINED BLACK FLORETTE",
    "CIRCLED OPEN CENTRE EIGHT POINTED STAR, HEAVY TEARDROP-SPOKED PINWHEEL ASTERISK, SNOWFLAKE",
    "TIGHT TRIFOLIATE SNOWFLAKE, HEAVY CHEVRON SNOWFLAKE, SPARKLE, HEAVY SPARKLE",
    "BALLOON-SPOKED ASTERISK, EIGHT TEARDROP-SPOKED PROPELLER ASTERISK",
    "HEAVY EIGHT TEARDROP-SPOKED PROPELLER ASTERISK, CROSS MARK, SHADOWED WHITE CIRCLE",
    "NEGATIVE SQUARED CROSS MARK, LOWER RIGHT DROP-SHADOWED WHITE SQUARE",
    "UPPER RIGHT DROP-SHADOWED WHITE SQUARE, LOWER RIGHT SHADOWED WHITE SQUARE",
    "UPPER RIGHT SHADOWED WHITE SQUARE, BLACK QUESTION MARK ORNAMENT",
    "WHITE QUESTION MARK ORNAMENT, WHITE EXCLAMATION MARK ORNAMENT, BLACK DIAMOND MINUS WHITE X",
    "HEAVY EXCLAMATION MARK SYMBOL, LIGHT VERTICAL BAR, MEDIUM VERTICAL BAR, HEAVY VERTICAL BAR",
    "HEAVY SINGLE TURNED COMMA QUOTATION MARK ORNAMENT",
    "HEAVY SINGLE COMMA QUOTATION MARK ORNAMENT",
    "HEAVY DOUBLE TURNED COMMA QUOTATION MARK ORNAMENT",
    "HEAVY DOUBLE COMMA QUOTATION MARK ORNAMENT, HEAVY LOW SINGLE COMMA QUOTATION MARK ORNAMENT",
    "HEAVY LOW DOUBLE COMMA QUOTATION MARK ORNAMENT, CURVED STEM PARAGRAPH SIGN ORNAMENT",
    "HEAVY EXCLAMATION MARK ORNAMENT, HEAVY HEART EXCLAMATION MARK ORNAMENT, HEAVY BLACK HEART",
    "ROTATED HEAVY BLACK HEART BULLET, FLORAL HEART, ROTATED FLORAL HEART BULLET",
    "MEDIUM LEFT PARENTHESIS ORNAMENT, MEDIUM RIGHT PARENTHESIS ORNAMENT",
    "MEDIUM FLATTENED LEFT PARENTHESIS ORNAMENT, MEDIUM FLATTENED RIGHT PARENTHESIS ORNAMENT",
    "MEDIUM LEFT-POINTING ANGLE BRACKET ORNAMENT, MEDIUM RIGHT-POINTING ANGLE BRACKET ORNAMENT",
    "HEAVY LEFT-POINTING ANGLE QUOTATION MARK ORNAMENT",
    "HEAVY RIGHT-POINTING ANGLE QUOTATION MARK ORNAMENT",
    "HEAVY LEFT-POINTING ANGLE BRACKET ORNAMENT, HEAVY RIGHT-POINTING ANGLE BRACKET ORNAMENT",
    "LIGHT LEFT TORTOISE SHELL BRACKET ORNAMENT, LIGHT RIGHT TORTOISE SHELL BRACKET ORNAMENT",
    "MEDIUM LEFT CURLY BRACKET ORNAMENT, MEDIUM RIGHT CURLY BRACKET ORNAMENT"]⟩,
  ⟨0x2776, "DINGBAT NEGATIVE CIRCLED DIGIT ", [
    "ONE, TWO, THREE, FOUR, FIVE, SIX, SEVEN, EIGHT, NINE"]⟩,
  ⟨0x277f, "DINGBAT NEGATIVE CIRCLED NUMBER ", ["TEN"]⟩,
  ⟨0x2780, "DINGBAT CIRCLED SANS-SERIF ", [
    "DIGIT ONE, DIGIT TWO, DIGIT THREE, DIGIT FOUR, DIGIT FIVE, DIGIT SIX, DIGIT SEVEN",
    "DIGIT EIGHT, DIGIT NINE, NUMBER TEN"]⟩,
  ⟨0x278a, "DINGBAT NEGATIVE CIRCLED SANS-SERIF ", [
    "DIGIT ONE, DIGIT TWO, DIGIT THREE, DIGIT FOUR, DIGIT FIVE, DIGIT SIX, DIGIT SEVEN",
    "DIGIT EIGHT, DIGIT NINE, NUMBER TEN"]⟩,
  ⟨0x2794, "HEAVY ", [
    "WIDE-HEADED RIGHTWARDS ARROW, PLUS SIGN, MINUS SIGN, DIVISION SIGN, SOUTH EAST ARROW",
    "RIGHTWARDS ARROW, NORTH EAST ARROW"]⟩,
  ⟨0x279b, "", [
    "DRAFTING POINT RIGHTWARDS ARROW, HEAVY ROUND-TIPPED RIGHTWARDS ARROW",
    "TRIANGLE-HEADED RIGHTWARDS ARROW, HEAVY TRIANGLE-HEADED RIGHTWARDS ARROW",
    "DASHED TRIANGLE-HEADED RIGHTWARDS ARROW, HEAVY DASHED TRIANGLE-HEADED RIGHTWARDS ARROW",
    "BLACK RIGHTWARDS ARROW, THREE-D TOP-LIGHTED RIGHTWARDS ARROWHEAD",
    "THREE-D BOTTOM-LIGHTED RIGHTWARDS ARROWHEAD, BLACK RIGHTWARDS ARROWHEAD",
    "HEAVY BLACK CURVED DOWNWARDS AND RIGHTWARDS ARROW",
    "HEAVY BLACK CURVED UPWARDS AND RIGHTWARDS ARROW, SQUAT BLACK RIGHTWARDS ARROW",
    "HEAVY CONCAVE-POINTED BLACK RIGHTWARDS ARROW, RIGHT-SHADED WHITE RIGHTWARDS ARROW",
    "LEFT-SHADED WHITE RIGHTWARDS ARROW, BACK-TILTED SHADOWED WHITE RIGHTWARDS ARROW",
    "FRONT-TILTED SHADOWED WHITE RIGHTWARDS ARROW",
    "HEAVY LOWER RIGHT-SHADOWED WHITE RIGHTWARDS ARROW",
    "HEAVY UPPER RIGHT-SHADOWED WHITE RIGHTWARDS ARROW",
    "NOTCHED LOWER RIGHT-SHADOWED WHITE RIGHTWARDS ARROW, CURLY LOOP",
    "NOTCHED UPPER RIGHT-SHADOWED WHITE RIGHTWARDS ARROW, CIRCLED HEAVY WHITE RIGHTWARDS ARROW",
    "WHITE-FEATHERED RIGHTWARDS ARROW"]⟩,
  ⟨0x27b4, "BLACK-FEATHERED ", ["SOUTH EAST ARROW, RIGHTWARDS ARROW, NORTH EAST ARROW"]⟩,
  ⟨0x27b7, "HEAVY BLACK-FEATHERED ", ["SOUTH EAST ARROW, RIGHTWARDS ARROW, NORTH EAST ARROW"]⟩,
  ⟨0x27ba, "", [
    "TEARDROP-BARBED RIGHTWARDS ARROW, HEAVY TEARDROP-SHANKED RIGHTWARDS ARROW",
    "WEDGE-TAILED RIGHTWARDS ARROW, HEAVY WEDGE-TAILED RIGHTWARDS ARROW",
    "OPEN-OUTLINED RIGHTWARDS ARROW, DOUBLE CURLY LOOP"]⟩,
  ⟨0x3000, "IDEOGRAPHIC ", ["SPACE, COMMA, FULL STOP"]⟩,
  ⟨0x3003, "", [
    "DITTO MARK, JAPANESE INDUSTRIAL STANDARD SYMBOL, IDEOGRAPHIC ITERATION MARK",
    "IDEOGRAPHIC CLOSING MARK, IDEOGRAPHIC NUMBER ZERO, LEFT ANGLE BRACKET, RIGHT ANGLE BRACKET",
    "LEFT DOUBLE ANGLE BRACKET, RIGHT DOUBLE ANGLE BRACKET, LEFT CORNER BRACKET",
    "RIGHT CORNER BRACKET, LEFT WHITE CORNER BRACKET, RIGHT WHITE CORNER BRACKET",
    "LEFT BLACK LENTICULAR BRACKET, RIGHT BLACK LENTICULAR BRACKET, POSTAL MARK, GETA MARK",
    "LEFT TORTOISE SHELL BRACKET, RIGHT TORTOISE SHELL BRACKET, LEFT WHITE LENTICULAR BRACKET",
    "RIGHT WHITE LENTICULAR BRACKET, LEFT WHITE TORTOISE SHELL BRACKET",
    "RIGHT WHITE TORTOISE SHELL BRACKET, LEFT WHITE SQUARE BRACKET, RIGHT WHITE SQUARE BRACKET",
    "WAVE DASH, REVERSED DOUBLE PRIME QUOTATION MARK, DOUBLE PRIME QUOTATION MARK",
    "LOW DOUBLE PRIME QUOTATION MARK, POSTAL MARK FACE"]⟩,
  ⟨0x3021, "HANGZHOU NUMERAL ", ["ONE, TWO, THREE, FOUR, FIVE, SIX, SEVEN, EIGHT, NINE"]⟩,
  ⟨0x302a, "IDEOGRAPHIC ", [
    "LEVEL TONE MARK, RISING TONE MARK, DEPARTING TONE MARK, ENTERING TONE MARK"]⟩,
  ⟨0x302e, "", ["HANGUL SINGLE DOT TONE MARK, HANGUL DOUBLE DOT TONE MARK, WAVY DASH"]⟩,
  ⟨0x3031, "VERTICAL KANA REPEAT ", [
    "MARK, WITH VOICED SOUND MARK, MARK UPPER HALF, WITH VOICED SOUND MARK UPPER HALF",
    "MARK LOWER HALF"]⟩,
  ⟨0x3036, "", [
    "CIRCLED POSTAL MARK, IDEOGRAPHIC TELEGRAPH LINE FEED SEPARATOR SYMBOL, HANGZHOU NUMERAL TEN",
    "HANGZHOU NUMERAL TWENTY, HANGZHOU NUMERAL THIRTY, VERTICAL IDEOGRAPHIC ITERATION MARK",
    "MASU MARK, PART ALTERNATION MARK, IDEOGRAPHIC VARIATION INDICATOR",
    "IDEOGRAPHIC HALF FILL SPACE"]⟩,
  ⟨0x3041, "HIRAGANA LETTER ", [
    "SMALL A, A, SMALL I, I, SMALL U, U, SMALL E, E, SMALL O, O, KA, GA, KI, GI, KU, GU, KE, GE",
    "KO, GO, SA, ZA, SI, ZI, SU, ZU, SE, ZE, SO, ZO, TA, DA, TI, DI, SMALL TU, TU, DU, TE, DE, TO",
    "DO, NA, NI, NU, NE, NO, HA, BA, PA, HI, BI, PI, HU, BU, PU, HE, BE, PE, HO, BO, PO, MA, MI",
    "MU, ME, MO, SMALL YA, YA, SMALL YU, YU, SMALL YO, YO, RA, RI, RU, RE, RO, SMALL WA, WA, WI",
    "WE, WO, N, VU, SMALL KA, SMALL KE"]⟩,
  ⟨0x3099, "COMBINING KATAKANA-HIRAGANA ", ["VOICED SOUND MARK, SEMI-VOICED SOUND MARK"]⟩,
  ⟨0x309b, "", [
    "KATAKANA-HIRAGANA VOICED SOUND MARK, KATAKANA-HIRAGANA SEMI-VOICED SOUND MARK",
    "HIRAGANA ITERATION MARK, HIRAGANA VOICED ITERATION MARK, HIRAGANA DIGRAPH YORI",
    "KATAKANA-HIRAGANA DOUBLE HYPHEN"]⟩,
  ⟨0x30a1, "KATAKANA LETTER ", [
    "SMALL A, A, SMALL I, I, SMALL U, U, SMALL E, E, SMALL O, O, KA, GA, KI, GI, KU, GU, KE, GE",
    "KO, GO, SA, ZA, SI, ZI, SU, ZU, SE, ZE, SO, ZO, TA, DA, TI, DI, SMALL TU, TU, DU, TE, DE, TO",
    "DO, NA, NI, NU, NE, NO, HA, BA, PA, HI, BI, PI, HU, BU, PU, HE, BE, PE, HO, BO, PO, MA, MI",
    "MU, ME, MO, SMALL YA, YA, SMALL YU, YU, SMALL YO, YO, RA, RI, RU, RE, RO, SMALL WA, WA, WI",
    "WE, WO, N, VU, SMALL KA, SMALL KE, VA, VI, VE, VO"]⟩,
  ⟨0x30fb, "", [
    "KATAKANA MIDDLE DOT, KATAKANA-HIRAGANA PROLONGED SOUND MARK, KATAKANA ITERATION MARK",
    "KATAKANA VOICED ITERATION MARK, KATAKANA DIGRAPH KOTO"]⟩,
  ⟨0xfb00, "LATIN SMALL LIGATURE ", ["FF, FI, FL, FFI, FFL, LONG S T, ST"]⟩,
  ⟨0xfe00, "VS", ["1, 2, 3, 4, 5, 6, 7, 8, 9, 10, 11, 12, 13, 14, 15, 16"]⟩,
  ⟨0xfe00, "VARIATION ", [
    "SELECTOR-1, SELECTOR-2, SELECTOR-3, SELECTOR-4, SELECTOR-5, SELECTOR-6, SELECTOR-7",
    "SELECTOR-8, SELECTOR-9, SELECTOR-10, SELECTOR-11, SELECTOR-12, SELECTOR-13, SELECTOR-14",
    "SELECTOR-15, SELECTOR-16"]⟩,
  ⟨0xfeff, "ZERO WIDTH NO-BREAK ", ["SPACE"]⟩,
  ⟨0xfff9, "INTERLINEAR ANNOTATION ", ["ANCHOR, SEPARATOR, TERMINATOR"]⟩,
  ⟨0xfffc, "", ["OBJECT REPLACEMENT CHARACTER, REPLACEMENT CHARACTER"]⟩,
  ⟨0x1f300, "", [
    "CYCLONE, FOGGY, CLOSED UMBRELLA, NIGHT WITH STARS, SUNRISE OVER MOUNTAINS, SUNRISE",
    "CITYSCAPE AT DUSK, SUNSET OVER BUILDINGS, RAINBOW, BRIDGE AT NIGHT, WATER WAVE, VOLCANO",
    "MILKY WAY, EARTH GLOBE EUROPE-AFRICA, EARTH GLOBE AMERICAS, EARTH GLOBE ASIA-AUSTRALIA",
    "GLOBE WITH MERIDIANS, NEW MOON SYMBOL, WAXING CRESCENT MOON SYMBOL",
    "FIRST QUARTER MOON SYMBOL, WAXING GIBBOUS MOON SYMBOL, FULL MOON SYMBOL",
    "WANING GIBBOUS MOON SYMBOL, LAST QUARTER MOON SYMBOL, WANING CRESCENT MOON SYMBOL",
    "CRESCENT MOON, NEW MOON WITH FACE, FIRST QUARTER MOON WITH FACE, LAST QUARTER MOON WITH FACE",
    "FULL MOON WITH FACE, SUN WITH FACE, GLOWING STAR, SHOOTING STAR, THERMOMETER, BLACK DROPLET",
    "WHITE SUN, WHITE SUN WITH SMALL CLOUD, WHITE SUN BEHIND CLOUD",
    "WHITE SUN BEHIND CLOUD WITH RAIN, CLOUD WITH RAIN, CLOUD WITH SNOW, CLOUD WITH LIGHTNING",
    "CLOUD WITH TORNADO, FOG, WIND BLOWING FACE, HOT DOG, TACO, BURRITO, CHESTNUT, SEEDLING",
    "EVERGREEN TREE, DECIDUOUS TREE, PALM TREE, CACTUS, HOT PEPPER, TULIP, CHERRY BLOSSOM, ROSE",
    "HIBISCUS, SUNFLOWER, BLOSSOM, EAR OF MAIZE, EAR OF RICE, HERB, FOUR LEAF CLOVER, MAPLE LEAF",
    "FALLEN LEAF, LEAF FLUTTERING IN WIND, MUSHROOM, TOMATO, AUBERGINE, GRAPES, MELON, WATERMELON",
    "TANGERINE, LEMON, BANANA, PINEAPPLE, RED APPLE, GREEN APPLE, PEAR, PEACH, CHERRIES",
    "STRAWBERRY, HAMBURGER, SLICE OF PIZZA, MEAT ON BONE, POULTRY LEG, RICE CRACKER, RICE BALL",
    "COOKED RICE, CURRY AND RICE, STEAMING BOWL, SPAGHETTI, BREAD, FRENCH FRIES",
    "ROASTED SWEET POTATO, DANGO, ODEN, SUSHI, FRIED SHRIMP, FISH CAKE WITH SWIRL DESIGN",
    "SOFT ICE CREAM, SHAVED ICE, ICE CREAM, DOUGHNUT, COOKIE, CHOCOLATE BAR, CANDY, LOLLIPOP",
    "CUSTARD, HONEY POT, SHORTCAKE, BENTO BOX, POT OF FOOD, COOKING, FORK AND KNIFE",
    "TEACUP WITHOUT HANDLE, SAKE BOTTLE AND CUP, WINE GLASS, COCKTAIL GLASS, TROPICAL DRINK",
    "BEER MUG, CLINKING BEER MUGS, BABY BOTTLE, FORK AND KNIFE WITH PLATE",
    "BOTTLE WITH POPPING CORK, POPCORN, RIBBON, WRAPPED PRESENT, BIRTHDAY CAKE, JACK-O-LANTERN",
    "CHRISTMAS TREE, FATHER CHRISTMAS, FIREWORKS, FIREWORK SPARKLER, BALLOON, PARTY POPPER",
    "CONFETTI BALL, TANABATA TREE, CROSSED FLAGS, PINE DECORATION, JAPANESE DOLLS, CARP STREAMER",
    "WIND CHIME, MOON VIEWING CEREMONY, SCHOOL SATCHEL, GRADUATION CAP",
    "HEART WITH TIP ON THE LEFT, BOUQUET OF FLOWERS, MILITARY MEDAL, REMINDER RIBBON",
    "MUSICAL KEYBOARD WITH JACKS, STUDIO MICROPHONE, LEVEL SLIDER, CONTROL KNOBS",
    "BEAMED ASCENDING MUSICAL NOTES, BEAMED DESCENDING MUSICAL NOTES, FILM FRAMES",
    "ADMISSION TICKETS, CAROUSEL HORSE, FERRIS WHEEL, ROLLER COASTER, FISHING POLE AND FISH",
    "MICROPHONE, MOVIE CAMERA, CINEMA, HEADPHONE, ARTIST PALETTE, TOP HAT, CIRCUS TENT, TICKET",
    "CLAPPER BOARD, PERFORMING ARTS, VIDEO GAME, DIRECT HIT, SLOT MACHINE, BILLIARDS, GAME DIE",
    "BOWLING, FLOWER PLAYING CARDS, MUSICAL NOTE, MULTIPLE MUSICAL NOTES, SAXOPHONE, GUITAR",
    "MUSICAL KEYBOARD, TRUMPET, VIOLIN, MUSICAL SCORE, RUNNING SHIRT WITH SASH",
    "TENNIS RACQUET AND BALL, SKI AND SKI BOOT, BASKETBALL AND HOOP, CHEQUERED FLAG, SNOWBOARDER",
    "RUNNER, SURFER, SPORTS MEDAL, TROPHY, HORSE RACING, AMERICAN FOOTBALL, RUGBY FOOTBALL",
    "SWIMMER, WEIGHT LIFTER, GOLFER, RACING MOTORCYCLE, RACING CAR, CRICKET BAT AND BALL",
    "VOLLEYBALL, FIELD HOCKEY STICK AND BALL, ICE HOCKEY STICK AND PUCK",
    "TABLE TENNIS PADDLE AND BALL, SNOW CAPPED MOUNTAIN, CAMPING, BEACH WITH UMBRELLA",
    "BUILDING CONSTRUCTION, HOUSE BUILDINGS, CITYSCAPE, DERELICT HOUSE BUILDING",
    "CLASSICAL BUILDING, DESERT, DESERT ISLAND, NATIONAL PARK, STADIUM, HOUSE BUILDING",
    "HOUSE WITH GARDEN, OFFICE BUILDING, JAPANESE POST OFFICE, EUROPEAN POST OFFICE, HOSPITAL",
    "BANK, AUTOMATED TELLER MACHINE, HOTEL, LOVE HOTEL, CONVENIENCE STORE, SCHOOL",
    "DEPARTMENT STORE, FACTORY, IZAKAYA LANTERN, JAPANESE CASTLE, EUROPEAN CASTLE, WHITE PENNANT",
    "BLACK PENNANT, WAVING WHITE FLAG, WAVING BLACK FLAG, ROSETTE, BLACK ROSETTE, LABEL",
    "BADMINTON RACQUET AND SHUTTLECOCK, BOW AND ARROW, AMPHORA"]⟩,
  ⟨0x1f3fb, "EMOJI MODIFIER FITZPATRICK ", ["TYPE-1-2, TYPE-3, TYPE-4, TYPE-5, TYPE-6"]⟩,
  ⟨0x1f400, "", [
    "RAT, MOUSE, OX, WATER BUFFALO, COW, TIGER, LEOPARD, RABBIT, CAT, DRAGON, CROCODILE, WHALE",
    "SNAIL, SNAKE, HORSE, RAM, GOAT, SHEEP, MONKEY, ROOSTER, CHICKEN, DOG, PIG, BOAR, ELEPHANT",
    "OCTOPUS, SPIRAL SHELL, BUG, ANT, HONEYBEE, LADY BEETLE, FISH, TROPICAL FISH, BLOWFISH",
    "TURTLE, HATCHING CHICK, BABY CHICK, FRONT-FACING BABY CHICK, BIRD, PENGUIN, KOALA, POODLE",
    "DROMEDARY CAMEL, BACTRIAN CAMEL, DOLPHIN, MOUSE FACE, COW FACE, TIGER FACE, RABBIT FACE",
    "CAT FACE, DRAGON FACE, SPOUTING WHALE, HORSE FACE, MONKEY FACE, DOG FACE, PIG FACE",
    "FROG FACE, HAMSTER FACE, WOLF FACE, BEAR FACE, PANDA FACE, PIG NOSE, PAW PRINTS, CHIPMUNK",
    "EYES, EYE, EAR, NOSE, MOUTH, TONGUE, WHITE UP POINTING BACKHAND INDEX",
    "WHITE DOWN POINTING BACKHAND INDEX, WHITE LEFT POINTING BACKHAND INDEX",
    "WHITE RIGHT POINTING BACKHAND INDEX, FISTED HAND SIGN, WAVING HAND SIGN, OK HAND SIGN",
    "THUMBS UP SIGN, THUMBS DOWN SIGN, CLAPPING HANDS SIGN, OPEN HANDS SIGN, CROWN, WOMANS HAT",
    "EYEGLASSES, NECKTIE, T-SHIRT, JEANS, DRESS, KIMONO, BIKINI, WOMANS CLOTHES, PURSE, HANDBAG",
    "POUCH, MANS SHOE, ATHLETIC SHOE, HIGH-HEELED SHOE, WOMANS SANDAL, WOMANS BOOTS, FOOTPRINTS",
    "BUST IN SILHOUETTE, BUSTS IN SILHOUETTE, BOY, GIRL, MAN, WOMAN, FAMILY",
    "MAN AND WOMAN HOLDING HANDS, TWO MEN HOLDING HANDS, TWO WOMEN HOLDING HANDS, POLICE OFFICER",
    "WOMAN WITH BUNNY EARS, BRIDE WITH VEIL, PERSON WITH BLOND HAIR, MAN WITH GUA PI MAO",
    "MAN WITH TURBAN, OLDER MAN, OLDER WOMAN, BABY, CONSTRUCTION WORKER, PRINCESS, JAPANESE OGRE",
    "JAPANESE GOBLIN, GHOST, BABY ANGEL, EXTRATERRESTRIAL ALIEN, ALIEN MONSTER, IMP, SKULL",
    "INFORMATION DESK PERSON, GUARDSMAN, DANCER, LIPSTICK, NAIL POLISH, FACE MASSAGE, HAIRCUT",
    "BARBER POLE, SYRINGE, PILL, KISS MARK, LOVE LETTER, RING, GEM STONE, KISS, BOUQUET",
    "COUPLE WITH HEART, WEDDING, BEATING HEART, BROKEN HEART, TWO HEARTS, SPARKLING HEART",
    "GROWING HEART, HEART WITH ARROW, BLUE HEART, GREEN HEART, YELLOW HEART, PURPLE HEART",
    "HEART WITH RIBBON, REVOLVING HEARTS, HEART DECORATION, DIAMOND SHAPE WITH A DOT INSIDE",
    "ELECTRIC LIGHT BULB, ANGER SYMBOL, BOMB, SLEEPING SYMBOL, COLLISION SYMBOL",
    "SPLASHING SWEAT SYMBOL, DROPLET, DASH SYMBOL, PILE OF POO, FLEXED BICEPS, DIZZY SYMBOL",
    "SPEECH BALLOON, THOUGHT BALLOON, WHITE FLOWER, HUNDRED POINTS SYMBOL, MONEY BAG",
    "CURRENCY EXCHANGE, HEAVY DOLLAR SIGN, CREDIT CARD, BANKNOTE WITH YEN SIGN",
    "BANKNOTE WITH DOLLAR SIGN, BANKNOTE WITH EURO SIGN, BANKNOTE WITH POUND SIGN",
    "MONEY WITH WINGS, CHART WITH UPWARDS TREND AND YEN SIGN, SEAT, PERSONAL COMPUTER, BRIEFCASE",
    "MINIDISC, FLOPPY DISK, OPTICAL DISC, DVD, FILE FOLDER, OPEN FILE FOLDER, PAGE WITH CURL",
    "PAGE FACING UP, CALENDAR, TEAR-OFF CALENDAR, CARD INDEX, CHART WITH UPWARDS TREND",
    "CHART WITH DOWNWARDS TREND, BAR CHART, CLIPBOARD, PUSHPIN, ROUND PUSHPIN, PAPERCLIP",
    "STRAIGHT RULER, TRIANGULAR RULER, BOOKMARK TABS, LEDGER, NOTEBOOK",
    "NOTEBOOK WITH DECORATIVE COVER, CLOSED BOOK, OPEN BOOK, GREEN BOOK, BLUE BOOK, ORANGE BOOK",
    "BOOKS, NAME BADGE, SCROLL, MEMO, TELEPHONE RECEIVER, PAGER, FAX MACHINE, SATELLITE ANTENNA",
    "PUBLIC ADDRESS LOUDSPEAKER, CHEERING MEGAPHONE, OUTBOX TRAY, INBOX TRAY, PACKAGE",
    "E-MAIL SYMBOL, INCOMING ENVELOPE, ENVELOPE WITH DOWNWARDS ARROW ABOVE",
    "CLOSED MAILBOX WITH LOWERED FLAG, CLOSED MAILBOX WITH RAISED FLAG",
    "OPEN MAILBOX WITH RAISED FLAG, OPEN MAILBOX WITH LOWERED FLAG, POSTBOX, POSTAL HORN",
    "NEWSPAPER, MOBILE PHONE, MOBILE PHONE WITH RIGHTWARDS ARROW AT LEFT, VIBRATION MODE",
    "MOBILE PHONE OFF, NO MOBILE PHONES, ANTENNA WITH BARS, CAMERA, CAMERA WITH FLASH",
    "VIDEO CAMERA, TELEVISION, RADIO, VIDEOCASSETTE, FILM PROJECTOR, PORTABLE STEREO",
    "PRAYER BEADS, TWISTED RIGHTWARDS ARROWS"]⟩,
  ⟨0x1f501, "CLOCKWISE RIGHTWARDS AND LEFTWARDS OPEN CIRCLE ", [
    "ARROWS, ARROWS WITH CIRCLED ONE OVERLAY"]⟩,
  ⟨0x1f503, "", [
    "CLOCKWISE DOWNWARDS AND UPWARDS OPEN CIRCLE ARROWS",
    "ANTICLOCKWISE DOWNWARDS AND UPWARDS OPEN CIRCLE ARROWS, LOW BRIGHTNESS SYMBOL",
    "HIGH BRIGHTNESS SYMBOL, SPEAKER WITH CANCELLATION STROKE, SPEAKER",
    "SPEAKER WITH ONE SOUND WAVE, SPEAKER WITH THREE SOUND WAVES, BATTERY, ELECTRIC PLUG",
    "LEFT-POINTING MAGNIFYING GLASS, RIGHT-POINTING MAGNIFYING GLASS, LOCK WITH INK PEN",
    "CLOSED LOCK WITH KEY, KEY, LOCK, OPEN LOCK, BELL, BELL WITH CANCELLATION STROKE, BOOKMARK",
    "LINK SYMBOL, RADIO BUTTON, BACK WITH LEFTWARDS ARROW ABOVE, END WITH LEFTWARDS ARROW ABOVE",
    "ON WITH EXCLAMATION MARK WITH LEFT RIGHT ARROW ABOVE, SOON WITH RIGHTWARDS ARROW ABOVE",
    "TOP WITH UPWARDS ARROW ABOVE, NO ONE UNDER EIGHTEEN SYMBOL, KEYCAP TEN"]⟩,
  ⟨0x1f520, "INPUT SYMBOL FOR ", [
    "LATIN CAPITAL LETTERS, LATIN SMALL LETTERS, NUMBERS, SYMBOLS, LATIN LETTERS"]⟩,
  ⟨0x1f525, "", [
    "FIRE, ELECTRIC TORCH, WRENCH, HAMMER, NUT AND BOLT, HOCHO, PISTOL, MICROSCOPE, TELESCOPE",
    "CRYSTAL BALL, SIX POINTED STAR WITH MIDDLE DOT, JAPANESE SYMBOL FOR BEGINNER, TRIDENT EMBLEM",
    "BLACK SQUARE BUTTON, WHITE SQUARE BUTTON, LARGE RED CIRCLE, LARGE BLUE CIRCLE",
    "LARGE ORANGE DIAMOND, LARGE BLUE DIAMOND, SMALL ORANGE DIAMOND, SMALL BLUE DIAMOND",
    "UP-POINTING RED TRIANGLE, DOWN-POINTING RED TRIANGLE, UP-POINTING SMALL RED TRIANGLE",
    "DOWN-POINTING SMALL RED TRIANGLE, LOWER RIGHT SHADOWED WHITE CIRCLE",
    "UPPER RIGHT SHADOWED WHITE CIRCLE, CIRCLED CROSS POMMEE, CROSS POMMEE WITH HALF-CIRCLE BELOW",
    "CROSS POMMEE, NOTCHED LEFT SEMICIRCLE WITH THREE DOTS",
    "NOTCHED RIGHT SEMICIRCLE WITH THREE DOTS, SYMBOL FOR MARKS CHAPTER, WHITE LATIN CROSS",
    "HEAVY LATIN CROSS, CELTIC CROSS, OM SYMBOL, DOVE OF PEACE, KAABA, MOSQUE, SYNAGOGUE",
    "MENORAH WITH NINE BRANCHES, BOWL OF HYGIEIA"]⟩,
  ⟨0x1f550, "CLOCK FACE ", [
    "ONE OCLOCK, TWO OCLOCK, THREE OCLOCK, FOUR OCLOCK, FIVE OCLOCK, SIX OCLOCK, SEVEN OCLOCK",
    "EIGHT OCLOCK, NINE OCLOCK, TEN OCLOCK, ELEVEN OCLOCK, TWELVE OCLOCK, ONE-THIRTY, TWO-THIRTY",
    "THREE-THIRTY, FOUR-THIRTY, FIVE-THIRTY, SIX-THIRTY, SEVEN-THIRTY, EIGHT-THIRTY, NINE-THIRTY",
    "TEN-THIRTY, ELEVEN-THIRTY, TWELVE-THIRTY"]⟩,
  ⟨0x1f568, "", [
    "RIGHT SPEAKER, RIGHT SPEAKER WITH ONE SOUND WAVE, RIGHT SPEAKER WITH THREE SOUND WAVES",
    "BULLHORN, BULLHORN WITH SOUND WAVES, RINGING BELL, BOOK, CANDLE, MANTELPIECE CLOCK",
    "BLACK SKULL AND CROSSBONES, NO PIRACY, HOLE, MAN IN BUSINESS SUIT LEVITATING, SLEUTH OR SPY",
    "DARK SUNGLASSES, SPIDER, SPIDER WEB, JOYSTICK, MAN DANCING, LEFT HAND TELEPHONE RECEIVER",
    "TELEPHONE RECEIVER WITH PAGE, RIGHT HAND TELEPHONE RECEIVER, WHITE TOUCHTONE TELEPHONE",
    "BLACK TOUCHTONE TELEPHONE, TELEPHONE ON TOP OF MODEM, CLAMSHELL MOBILE PHONE",
    "BACK OF ENVELOPE, STAMPED ENVELOPE, ENVELOPE WITH LIGHTNING, FLYING ENVELOPE",
    "PEN OVER STAMPED ENVELOPE, LINKED PAPERCLIPS, BLACK PUSHPIN"]⟩,
  ⟨0x1f589, "LOWER LEFT ", ["PENCIL, BALLPOINT PEN, FOUNTAIN PEN, PAINTBRUSH, CRAYON"]⟩,
  ⟨0x1f58e, "", [
    "LEFT WRITING HAND, TURNED OK HAND SIGN, RAISED HAND WITH FINGERS SPLAYED",
    "REVERSED RAISED HAND WITH FINGERS SPLAYED, REVERSED THUMBS UP SIGN",
    "REVERSED THUMBS DOWN SIGN, REVERSED VICTORY HAND, REVERSED HAND WITH MIDDLE FINGER EXTENDED",
    "RAISED HAND WITH PART BETWEEN MIDDLE AND RING FINGERS, WHITE DOWN POINTING LEFT HAND INDEX",
    "SIDEWAYS WHITE LEFT POINTING INDEX, SIDEWAYS WHITE RIGHT POINTING INDEX",
    "SIDEWAYS BLACK LEFT POINTING INDEX, SIDEWAYS BLACK RIGHT POINTING INDEX",
    "BLACK LEFT POINTING BACKHAND INDEX, BLACK RIGHT POINTING BACKHAND INDEX",
    "SIDEWAYS WHITE UP POINTING INDEX, SIDEWAYS WHITE DOWN POINTING INDEX",
    "SIDEWAYS BLACK UP POINTING INDEX, SIDEWAYS BLACK DOWN POINTING INDEX",
    "BLACK UP POINTING BACKHAND INDEX, BLACK DOWN POINTING BACKHAND INDEX, BLACK HEART",
    "DESKTOP COMPUTER, KEYBOARD AND MOUSE, THREE NETWORKED COMPUTERS, PRINTER, POCKET CALCULATOR",
    "BLACK HARD SHELL FLOPPY DISK, WHITE HARD SHELL FLOPPY DISK, SOFT SHELL FLOPPY DISK",
    "TAPE CARTRIDGE, WIRED KEYBOARD, ONE BUTTON MOUSE, TWO BUTTON MOUSE, THREE BUTTON MOUSE",
    "TRACKBALL, OLD PERSONAL COMPUTER, HARD DISK, SCREEN, PRINTER ICON, FAX ICON",
    "OPTICAL DISC ICON, DOCUMENT WITH TEXT, DOCUMENT WITH TEXT AND PICTURE, DOCUMENT WITH PICTURE",
    "FRAME WITH PICTURE, FRAME WITH TILES, FRAME WITH AN X, BLACK FOLDER, FOLDER, OPEN FOLDER",
    "CARD INDEX DIVIDERS, CARD FILE BOX, FILE CABINET, EMPTY NOTE, EMPTY NOTE PAGE",
    "EMPTY NOTE PAD, NOTE, NOTE PAGE, NOTE PAD, EMPTY DOCUMENT, EMPTY PAGE, EMPTY PAGES, DOCUMENT",
    "PAGE, PAGES, WASTEBASKET, SPIRAL NOTE PAD, SPIRAL CALENDAR PAD, DESKTOP WINDOW, MINIMIZE",
    "MAXIMIZE, OVERLAP, CLOCKWISE RIGHT AND LEFT SEMICIRCLE ARROWS, CANCELLATION X",
    "INCREASE FONT SIZE SYMBOL, DECREASE FONT SIZE SYMBOL, COMPRESSION, OLD KEY",
    "ROLLED-UP NEWSPAPER, PAGE WITH CIRCLED TEXT, STOCK CHART, DAGGER KNIFE, LIPS",
    "SPEAKING HEAD IN SILHOUETTE, THREE RAYS ABOVE, THREE RAYS BELOW, THREE RAYS LEFT",
    "THREE RAYS RIGHT, LEFT SPEECH BUBBLE, RIGHT SPEECH BUBBLE, TWO SPEECH BUBBLES",
    "THREE SPEECH BUBBLES, LEFT THOUGHT BUBBLE, RIGHT THOUGHT BUBBLE, LEFT ANGER BUBBLE",
    "RIGHT ANGER BUBBLE, MOOD BUBBLE, LIGHTNING MOOD BUBBLE, LIGHTNING MOOD",
    "BALLOT BOX WITH BALLOT, BALLOT SCRIPT X, BALLOT BOX WITH SCRIPT X, BALLOT BOLD SCRIPT X",
    "BALLOT BOX WITH BOLD SCRIPT X, LIGHT CHECK MARK, BALLOT BOX WITH BOLD CHECK, WORLD MAP",
    "MOUNT FUJI, TOKYO TOWER, STATUE OF LIBERTY, SILHOUETTE OF JAPAN, MOYAI, GRINNING FACE",
    "GRINNING FACE WITH SMILING EYES, FACE WITH TEARS OF JOY"]⟩,
  ⟨0x1f603, "SMILING FACE WITH ", [
    "OPEN MOUTH, OPEN MOUTH AND SMILING EYES, OPEN MOUTH AND COLD SWEAT",
    "OPEN MOUTH AND TIGHTLY-CLOSED EYES, HALO, HORNS"]⟩,
  ⟨0x1f609, "", [
    "WINKING FACE, SMILING FACE WITH SMILING EYES, FACE SAVOURING DELICIOUS FOOD, RELIEVED FACE",
    "SMILING FACE WITH HEART-SHAPED EYES, SMILING FACE WITH SUNGLASSES, SMIRKING FACE",
    "NEUTRAL FACE, EXPRESSIONLESS FACE, UNAMUSED FACE, FACE WITH COLD SWEAT, PENSIVE FACE",
    "CONFUSED FACE, CONFOUNDED FACE, KISSING FACE, FACE THROWING A KISS",
    "KISSING FACE WITH SMILING EYES, KISSING FACE WITH CLOSED EYES, FACE WITH STUCK-OUT TONGUE",
    "FACE WITH STUCK-OUT TONGUE AND WINKING EYE",
    "FACE WITH STUCK-OUT TONGUE AND TIGHTLY-CLOSED EYES, DISAPPOINTED FACE, WORRIED FACE",
    "ANGRY FACE, POUTING FACE, CRYING FACE, PERSEVERING FACE, FACE WITH LOOK OF TRIUMPH",
    "DISAPPOINTED BUT RELIEVED FACE, FROWNING FACE WITH OPEN MOUTH, ANGUISHED FACE, FEARFUL FACE",
    "WEARY FACE, SLEEPY FACE, TIRED FACE, GRIMACING FACE, LOUDLY CRYING FACE",
    "FACE WITH OPEN MOUTH, HUSHED FACE, FACE WITH OPEN MOUTH AND COLD SWEAT",
    "FACE SCREAMING IN FEAR, ASTONISHED FACE, FLUSHED FACE, SLEEPING FACE, DIZZY FACE",
    "FACE WITHOUT MOUTH, FACE WITH MEDICAL MASK, GRINNING CAT FACE WITH SMILING EYES",
    "CAT FACE WITH TEARS OF JOY, SMILING CAT FACE WITH OPEN MOUTH",
    "SMILING CAT FACE WITH HEART-SHAPED EYES, CAT FACE WITH WRY SMILE",
    "KISSING CAT FACE WITH CLOSED EYES, POUTING CAT FACE, CRYING CAT FACE, WEARY CAT FACE",
    "SLIGHTLY FROWNING FACE, SLIGHTLY SMILING FACE, UPSIDE-DOWN FACE, FACE WITH ROLLING EYES",
    "FACE WITH NO GOOD GESTURE, FACE WITH OK GESTURE, PERSON BOWING DEEPLY, SEE-NO-EVIL MONKEY",
    "HEAR-NO-EVIL MONKEY, SPEAK-NO-EVIL MONKEY, HAPPY PERSON RAISING ONE HAND",
    "PERSON RAISING BOTH HANDS IN CELEBRATION, PERSON FROWNING, PERSON WITH POUTING FACE",
    "PERSON WITH FOLDED HANDS"]⟩,
  ⟨0x1f680, "", [
    "ROCKET, HELICOPTER, STEAM LOCOMOTIVE, RAILWAY CAR, HIGH-SPEED TRAIN",
    "HIGH-SPEED TRAIN WITH BULLET NOSE, TRAIN, METRO, LIGHT RAIL, STATION, TRAM, TRAM CAR, BUS",
    "ONCOMING BUS, TROLLEYBUS, BUS STOP, MINIBUS, AMBULANCE, FIRE ENGINE, POLICE CAR",
    "ONCOMING POLICE CAR, TAXI, ONCOMING TAXI, AUTOMOBILE, ONCOMING AUTOMOBILE",
    "RECREATIONAL VEHICLE, DELIVERY TRUCK, ARTICULATED LORRY, TRACTOR, MONORAIL, MOUNTAIN RAILWAY",
    "SUSPENSION RAILWAY, MOUNTAIN CABLEWAY, AERIAL TRAMWAY, SHIP, ROWBOAT, SPEEDBOAT",
    "HORIZONTAL TRAFFIC LIGHT, VERTICAL TRAFFIC LIGHT, CONSTRUCTION SIGN",
    "POLICE CARS REVOLVING LIGHT, TRIANGULAR FLAG ON POST, DOOR, NO ENTRY SIGN, SMOKING SYMBOL",
    "NO SMOKING SYMBOL, PUT LITTER IN ITS PLACE SYMBOL, DO NOT LITTER SYMBOL",
    "POTABLE WATER SYMBOL, NON-POTABLE WATER SYMBOL, BICYCLE, NO BICYCLES, BICYCLIST",
    "MOUNTAIN BICYCLIST, PEDESTRIAN, NO PEDESTRIANS, CHILDREN CROSSING, MENS SYMBOL",
    "WOMENS SYMBOL, RESTROOM, BABY SYMBOL, TOILET, WATER CLOSET, SHOWER, BATH, BATHTUB",
    "PASSPORT CONTROL, CUSTOMS, BAGGAGE CLAIM, LEFT LUGGAGE, TRIANGLE WITH ROUNDED CORNERS",
    "PROHIBITED SIGN, CIRCLED INFORMATION SOURCE, BOYS SYMBOL, GIRLS SYMBOL, COUCH AND LAMP",
    "SLEEPING ACCOMMODATION, SHOPPING BAGS, BELLHOP BELL, BED, PLACE OF WORSHIP, OCTAGONAL SIGN",
    "SHOPPING TROLLEY, STUPA, PAGODA, HINDU TEMPLE, HUT, ELEVATOR"]⟩,
  ⟨0x1f6dd, "", [
    "PLAYGROUND SLIDE, WHEEL, RING BUOY, HAMMER AND WRENCH, SHIELD, OIL DRUM, MOTORWAY",
    "RAILWAY TRACK, MOTOR BOAT, UP-POINTING MILITARY AIRPLANE, UP-POINTING AIRPLANE",
    "UP-POINTING SMALL AIRPLANE, SMALL AIRPLANE, NORTHEAST-POINTING AIRPLANE, AIRPLANE DEPARTURE",
    "AIRPLANE ARRIVING"]⟩,
  ⟨0x1f6f0, "", [
    "SATELLITE, ONCOMING FIRE ENGINE, DIESEL LOCOMOTIVE, PASSENGER SHIP, SCOOTER, MOTOR SCOOTER",
    "CANOE, SLED, FLYING SAUCER, SKATEBOARD, AUTO RICKSHAW, PICKUP TRUCK, ROLLER SKATE"]⟩,
  ⟨0x1f900, "CIRCLED CROSS ", ["FORMEE WITH FOUR DOTS, FORMEE WITH TWO DOTS, FORMEE"]⟩,
  ⟨0x1f903, "LEFT HALF CIRCLE WITH ", ["FOUR DOTS, THREE DOTS, TWO DOTS, DOT"]⟩,
  ⟨0x1f907, "LEFT HALF ", ["CIRCLE"]⟩,
  ⟨0x1f908, "DOWNWARD FACING ", ["HOOK, NOTCHED HOOK, HOOK WITH DOT, NOTCHED HOOK WITH DOT"]⟩,
  ⟨0x1f90c, "", [
    "PINCHED FINGERS, WHITE HEART, BROWN HEART, PINCHING HAND, ZIPPER-MOUTH FACE",
    "MONEY-MOUTH FACE, FACE WITH THERMOMETER, NERD FACE, THINKING FACE, FACE WITH HEAD-BANDAGE",
    "ROBOT FACE, HUGGING FACE, SIGN OF THE HORNS, CALL ME HAND, RAISED BACK OF HAND",
    "LEFT-FACING FIST, RIGHT-FACING FIST, HANDSHAKE, HAND WITH INDEX AND MIDDLE FINGERS CROSSED",
    "I LOVE YOU HAND SIGN, FACE WITH COWBOY HAT, CLOWN FACE, NAUSEATED FACE",
    "ROLLING ON THE FLOOR LAUGHING, DROOLING FACE, LYING FACE, FACE PALM, SNEEZING FACE",
    "FACE WITH ONE EYEBROW RAISED, GRINNING FACE WITH STAR EYES",
    "GRINNING FACE WITH ONE LARGE AND ONE SMALL EYE, FACE WITH FINGER COVERING CLOSED LIPS",
    "SERIOUS FACE WITH SYMBOLS COVERING MOUTH",
    "SMILING FACE WITH SMILING EYES AND HAND COVERING MOUTH, FACE WITH OPEN MOUTH VOMITING",
    "SHOCKED FACE WITH EXPLODING HEAD, PREGNANT WOMAN, BREAST-FEEDING, PALMS UP TOGETHER, SELFIE",
    "PRINCE, MAN IN TUXEDO, MOTHER CHRISTMAS, SHRUG, PERSON DOING CARTWHEEL, JUGGLING, FENCER",
    "MODERN PENTATHLON, WRESTLERS, WATER POLO, HANDBALL, DIVING MASK, WILTED FLOWER",
    "DRUM WITH DRUMSTICKS, CLINKING GLASSES, TUMBLER GLASS, SPOON, GOAL NET, RIFLE",
    "FIRST PLACE MEDAL, SECOND PLACE MEDAL, THIRD PLACE MEDAL, BOXING GLOVE, MARTIAL ARTS UNIFORM",
    "CURLING STONE, LACROSSE STICK AND BALL, SOFTBALL, FLYING DISC, CROISSANT, AVOCADO, CUCUMBER",
    "BACON, POTATO, CARROT, BAGUETTE BREAD, GREEN SALAD, SHALLOW PAN OF FOOD, STUFFED FLATBREAD",
    "EGG, GLASS OF MILK, PEANUTS, KIWIFRUIT, PANCAKES, DUMPLING, FORTUNE COOKIE, TAKEOUT BOX",
    "CHOPSTICKS, BOWL WITH SPOON, CUP WITH STRAW, COCONUT, BROCCOLI, PIE, PRETZEL, CUT OF MEAT",
    "SANDWICH, CANNED FOOD, LEAFY GREEN, MANGO, MOON CAKE, BAGEL",
    "SMILING FACE WITH SMILING EYES AND THREE HEARTS, YAWNING FACE, SMILING FACE WITH TEAR",
    "FACE WITH PARTY HORN AND PARTY HAT, FACE WITH UNEVEN EYES AND WAVY MOUTH, OVERHEATED FACE",
    "FREEZING FACE, NINJA, DISGUISED FACE, FACE HOLDING BACK TEARS, FACE WITH PLEADING EYES, SARI",
    "LAB COAT, GOGGLES, HIKING BOOT, FLAT SHOE, CRAB, LION FACE, SCORPION, TURKEY, UNICORN FACE",
    "EAGLE, DUCK, BAT, SHARK, OWL, FOX FACE, BUTTERFLY, DEER, GORILLA, LIZARD, RHINOCEROS, SHRIMP",
    "SQUID, GIRAFFE FACE, ZEBRA FACE, HEDGEHOG, SAUROPOD, T-REX, CRICKET, KANGAROO, LLAMA",
    "PEACOCK, HIPPOPOTAMUS, PARROT, RACCOON, LOBSTER, MOSQUITO, MICROBE, BADGER, SWAN, MAMMOTH",
    "DODO, SLOTH, OTTER, ORANGUTAN, SKUNK, FLAMINGO, OYSTER, BEAVER, BISON, SEAL, GUIDE DOG",
    "PROBING CANE"]⟩,
  ⟨0x1f9b0, "EMOJI COMPONENT ", ["RED HAIR, CURLY HAIR, BALD, WHITE HAIR"]⟩,
  ⟨0x1f9b4, "", [
    "BONE, LEG, FOOT, TOOTH, SUPERHERO, SUPERVILLAIN, SAFETY VEST, EAR WITH HEARING AID",
    "MOTORIZED WHEELCHAIR, MANUAL WHEELCHAIR, MECHANICAL ARM, MECHANICAL LEG, CHEESE WEDGE",
    "CUPCAKE, SALT SHAKER, BEVERAGE BOX, GARLIC, ONION, FALAFEL, WAFFLE, BUTTER, MATE DRINK",
    "ICE CUBE, BUBBLE TEA, TROLL, STANDING PERSON, KNEELING PERSON, DEAF PERSON",
    "FACE WITH MONOCLE, ADULT, CHILD, OLDER ADULT, BEARDED PERSON, PERSON WITH HEADSCARF",
    "PERSON IN STEAMY ROOM, PERSON CLIMBING, PERSON IN LOTUS POSITION, MAGE, FAIRY, VAMPIRE",
    "MERPERSON, ELF, GENIE, ZOMBIE, BRAIN, ORANGE HEART, BILLED CAP, SCARF, GLOVES, COAT, SOCKS",
    "RED GIFT ENVELOPE, FIRECRACKER, JIGSAW PUZZLE PIECE, TEST TUBE, PETRI DISH, DNA DOUBLE HELIX",
    "COMPASS, ABACUS, FIRE EXTINGUISHER, TOOLBOX, BRICK, MAGNET, LUGGAGE, LOTION BOTTLE",
    "SPOOL OF THREAD, BALL OF YARN, SAFETY PIN, TEDDY BEAR, BROOM, BASKET, ROLL OF PAPER",
    "BAR OF SOAP, SPONGE, RECEIPT, NAZAR AMULET"]⟩]

/-- The further names that some characters are known by. -/
def otherNames : List (String × Nat) := [
  ("NULL", 0x0), ("NUL", 0x0), ("START OF HEADING", 0x1), ("SOH", 0x1), ("START OF TEXT", 0x2),
  ("STX", 0x2), ("END OF TEXT", 0x3), ("ETX", 0x3), ("END OF TRANSMISSION", 0x4), ("EOT", 0x4),
  ("ENQUIRY", 0x5), ("ENQ", 0x5), ("ACKNOWLEDGE", 0x6), ("ACK", 0x6), ("ALERT", 0x7), ("BEL", 0x7),
  ("BACKSPACE", 0x8), ("BS", 0x8), ("CHARACTER TABULATION", 0x9), ("HORIZONTAL TABULATION", 0x9),
  ("HT", 0x9), ("TAB", 0x9), ("LINE FEED", 0xa), ("NEW LINE", 0xa), ("END OF LINE", 0xa),
  ("LF", 0xa), ("NL", 0xa), ("EOL", 0xa), ("LINE TABULATION", 0xb), ("VERTICAL TABULATION", 0xb),
  ("VT", 0xb), ("FORM FEED", 0xc), ("FF", 0xc), ("CARRIAGE RETURN", 0xd), ("CR", 0xd),
  ("SHIFT OUT", 0xe), ("LOCKING-SHIFT ONE", 0xe), ("SO", 0xe), ("SHIFT IN", 0xf),
  ("LOCKING-SHIFT ZERO", 0xf), ("SI", 0xf), ("DATA LINK ESCAPE", 0x10), ("DLE", 0x10),
  ("DEVICE CONTROL ONE", 0x11), ("DC1", 0x11), ("DEVICE CONTROL TWO", 0x12), ("DC2", 0x12),
  ("DEVICE CONTROL THREE", 0x13), ("DC3", 0x13), ("DEVICE CONTROL FOUR", 0x14), ("DC4", 0x14),
  ("NEGATIVE ACKNOWLEDGE", 0x15), ("NAK", 0x15), ("SYNCHRONOUS IDLE", 0x16), ("SYN", 0x16),
  ("END OF TRANSMISSION BLOCK", 0x17), ("ETB", 0x17), ("CANCEL", 0x18), ("CAN", 0x18),
  ("END OF MEDIUM", 0x19), ("EOM", 0x19), ("SUBSTITUTE", 0x1a), ("SUB", 0x1a), ("ESCAPE", 0x1b),
  ("ESC", 0x1b), ("INFORMATION SEPARATOR FOUR", 0x1c), ("FILE SEPARATOR", 0x1c), ("FS", 0x1c),
  ("INFORMATION SEPARATOR THREE", 0x1d), ("GROUP SEPARATOR", 0x1d), ("GS", 0x1d),
  ("INFORMATION SEPARATOR TWO", 0x1e), ("RECORD SEPARATOR", 0x1e), ("RS", 0x1e),
  ("INFORMATION SEPARATOR ONE", 0x1f), ("UNIT SEPARATOR", 0x1f), ("US", 0x1f), ("SP", 0x20),
  ("DELETE", 0x7f), ("DEL", 0x7f), ("PADDING CHARACTER", 0x80), ("PAD", 0x80),
  ("HIGH OCTET PRESET", 0x81), ("HOP", 0x81), ("BREAK PERMITTED HERE", 0x82), ("BPH", 0x82),
  ("NO BREAK HERE", 0x83), ("NBH", 0x83), ("INDEX", 0x84), ("IND", 0x84), ("NEXT LINE", 0x85),
  ("NEL", 0x85), ("START OF SELECTED AREA", 0x86), ("SSA", 0x86), ("END OF SELECTED AREA", 0x87),
  ("ESA", 0x87), ("CHARACTER TABULATION SET", 0x88), ("HORIZONTAL TABULATION SET", 0x88),
  ("HTS", 0x88), ("CHARACTER TABULATION WITH JUSTIFICATION", 0x89),
  ("HORIZONTAL TABULATION WITH JUSTIFICATION", 0x89), ("HTJ", 0x89), ("LINE TABULATION SET", 0x8a),
  ("VERTICAL TABULATION SET", 0x8a), ("VTS", 0x8a), ("PARTIAL LINE FORWARD", 0x8b),
  ("PARTIAL LINE DOWN", 0x8b), ("PLD", 0x8b), ("PARTIAL LINE BACKWARD", 0x8c),
  ("PARTIAL LINE UP", 0x8c), ("PLU", 0x8c), ("REVERSE LINE FEED", 0x8d), ("REVERSE INDEX", 0x8d),
  ("RI", 0x8d), ("SINGLE SHIFT TWO", 0x8e), ("SINGLE-SHIFT-2", 0x8e), ("SS2", 0x8e),
  ("SINGLE SHIFT THREE", 0x8f), ("SINGLE-SHIFT-3", 0x8f), ("SS3", 0x8f),
  ("DEVICE CONTROL STRING", 0x90), ("DCS", 0x90), ("PRIVATE USE ONE", 0x91),
  ("PRIVATE USE-1", 0x91), ("PU1", 0x91), ("PRIVATE USE TWO", 0x92), ("PRIVATE USE-2", 0x92),
  ("PU2", 0x92), ("SET TRANSMIT STATE", 0x93), ("STS", 0x93), ("CANCEL CHARACTER", 0x94),
  ("CCH", 0x94), ("MESSAGE WAITING", 0x95), ("MW", 0x95), ("START OF GUARDED AREA", 0x96),
  ("START OF PROTECTED AREA", 0x96), ("SPA", 0x96), ("END OF GUARDED AREA", 0x97),
  ("END OF PROTECTED AREA", 0x97), ("EPA", 0x97), ("START OF STRING", 0x98), ("SOS", 0x98),
  ("SINGLE GRAPHIC CHARACTER INTRODUCER", 0x99), ("SGC", 0x99),
  ("SINGLE CHARACTER INTRODUCER", 0x9a), ("SCI", 0x9a), ("CONTROL SEQUENCE INTRODUCER", 0x9b),
  ("CSI", 0x9b), ("STRING TERMINATOR", 0x9c), ("ST", 0x9c), ("OPERATING SYSTEM COMMAND", 0x9d),
  ("OSC", 0x9d), ("PRIVACY MESSAGE", 0x9e), ("PM", 0x9e), ("APPLICATION PROGRAM COMMAND", 0x9f),
  ("APC", 0x9f), ("NBSP", 0xa0), ("SHY", 0xad), ("LATIN CAPITAL LETTER GHA", 0x1a2),
  ("LATIN SMALL LETTER GHA", 0x1a3), ("CGJ", 0x34f), ("ALM", 0x61c),
  ("SYRIAC SUBLINEAR COLON SKEWED LEFT", 0x709), ("KANNADA LETTER LLLA", 0xcde),
  ("LAO LETTER FO FON", 0xe9d), ("LAO LETTER FO FAY", 0xe9f), ("LAO LETTER RO", 0xea3),
  ("LAO LETTER LO", 0xea5), ("TIBETAN MARK BKA- SHOG GI MGO RGYAN", 0xfd0),
  ("HANGUL JONGSEONG YESIEUNG-KIYEOK", 0x11ec), ("MONGOLIAN FREE VARIATION SELECTOR ONE", 0x180b),
  ("FVS1", 0x180b), ("FVS2", 0x180c), ("FVS3", 0x180d), ("MVS", 0x180e), ("FVS4", 0x180f),
  ("ZWSP", 0x200b), ("ZWNJ", 0x200c), ("ZWJ", 0x200d), ("LRM", 0x200e), ("RLM", 0x200f),
  ("LRE", 0x202a), ("RLE", 0x202b), ("PDF", 0x202c), ("LRO", 0x202d), ("RLO", 0x202e),
  ("NNBSP", 0x202f), ("MMSP", 0x205f), ("WJ", 0x2060), ("LRI", 0x2066), ("RLI", 0x2067),
  ("FSI", 0x2068), ("PDI", 0x2069), ("WEIERSTRASS ELLIPTIC FUNCTION", 0x2118),
  ("MICR ON US SYMBOL", 0x2448), ("MICR DASH SYMBOL", 0x2449),
  ("LEFTWARDS TRIANGLE-HEADED ARROW WITH DOUBLE VERTICAL STROKE", 0x2b7a),
  ("RIGHTWARDS TRIANGLE-HEADED ARROW WITH DOUBLE VERTICAL STROKE", 0x2b7c),
  ("YI SYLLABLE ITERATION MARK", 0xa015),
  ("PRESENTATION FORM FOR VERTICAL RIGHT WHITE LENTICULAR BRACKET", 0xfe18),
  ("BYTE ORDER MARK", 0xfeff), ("BOM", 0xfeff), ("ZWNBSP", 0xfeff),
  ("CUNEIFORM SIGN NU11 TENU", 0x122d4), ("CUNEIFORM SIGN NU11 OVER NU11 BUR OVER BUR", 0x122d5),
  ("MEDEFAIDRIN CAPITAL LETTER H", 0x16e56),
  ("BYZANTINE MUSICAL SYMBOL FTHORA SKLIRON CHROMA VASIS", 0x1d0c5)]

end ImportOrder
