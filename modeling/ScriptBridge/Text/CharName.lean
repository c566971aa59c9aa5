/-!
The Unicode names of characters: those of the Latin, Greek and Cyrillic letters, of the common
punctuation and symbols, and the names and abbreviations of the controls.
-/

namespace ScriptBridge.Text

/-- The names of consecutive code points. -/
structure NameRun where
  first : Nat
  names : List String
deriving Repr, DecidableEq

def nameRuns : List NameRun :=
  [⟨32,
    ["SPACE", "EXCLAMATION MARK", "QUOTATION MARK", "NUMBER SIGN", "DOLLAR SIGN", "PERCENT SIGN",
     "AMPERSAND", "APOSTROPHE", "LEFT PARENTHESIS", "RIGHT PARENTHESIS", "ASTERISK", "PLUS SIGN",
     "COMMA", "HYPHEN-MINUS", "FULL STOP", "SOLIDUS", "DIGIT ZERO", "DIGIT ONE", "DIGIT TWO",
     "DIGIT THREE", "DIGIT FOUR", "DIGIT FIVE", "DIGIT SIX", "DIGIT SEVEN", "DIGIT EIGHT",
     "DIGIT NINE", "COLON", "SEMICOLON", "LESS-THAN SIGN", "EQUALS SIGN", "GREATER-THAN SIGN",
     "QUESTION MARK", "COMMERCIAL AT", "LATIN CAPITAL LETTER A", "LATIN CAPITAL LETTER B",
     "LATIN CAPITAL LETTER C", "LATIN CAPITAL LETTER D", "LATIN CAPITAL LETTER E",
     "LATIN CAPITAL LETTER F", "LATIN CAPITAL LETTER G", "LATIN CAPITAL LETTER H",
     "LATIN CAPITAL LETTER I", "LATIN CAPITAL LETTER J", "LATIN CAPITAL LETTER K",
     "LATIN CAPITAL LETTER L", "LATIN CAPITAL LETTER M", "LATIN CAPITAL LETTER N",
     "LATIN CAPITAL LETTER O", "LATIN CAPITAL LETTER P", "LATIN CAPITAL LETTER Q",
     "LATIN CAPITAL LETTER R", "LATIN CAPITAL LETTER S", "LATIN CAPITAL LETTER T",
     "LATIN CAPITAL LETTER U", "LATIN CAPITAL LETTER V", "LATIN CAPITAL LETTER W",
     "LATIN CAPITAL LETTER X", "LATIN CAPITAL LETTER Y", "LATIN CAPITAL LETTER Z",
     "LEFT SQUARE BRACKET", "REVERSE SOLIDUS", "RIGHT SQUARE BRACKET", "CIRCUMFLEX ACCENT",
     "LOW LINE", "GRAVE ACCENT", "LATIN SMALL LETTER A", "LATIN SMALL LETTER B",
     "LATIN SMALL LETTER C", "LATIN SMALL LETTER D", "LATIN SMALL LETTER E",
     "LATIN SMALL LETTER F", "LATIN SMALL LETTER G", "LATIN SMALL LETTER H",
     "LATIN SMALL LETTER I", "LATIN SMALL LETTER J", "LATIN SMALL LETTER K",
     "LATIN SMALL LETTER L", "LATIN SMALL LETTER M", "LATIN SMALL LETTER N",
     "LATIN SMALL LETTER O", "LATIN SMALL LETTER P", "LATIN SMALL LETTER Q",
     "LATIN SMALL LETTER R", "LATIN SMALL LETTER S", "LATIN SMALL LETTER T",
     "LATIN SMALL LETTER U", "LATIN SMALL LETTER V", "LATIN SMALL LETTER W",
     "LATIN SMALL LETTER X", "LATIN SMALL LETTER Y", "LATIN SMALL LETTER Z", "LEFT CURLY BRACKET",
     "VERTICAL LINE", "RIGHT CURLY BRACKET", "TILDE"]⟩,
   ⟨160,
    ["NO-BREAK SPACE", "INVERTED EXCLAMATION MARK", "CENT SIGN", "POUND SIGN", "CURRENCY SIGN",
     "YEN SIGN", "BROKEN BAR", "SECTION SIGN", "DIAERESIS", "COPYRIGHT SIGN",
     "FEMININE ORDINAL INDICATOR", "LEFT-POINTING DOUBLE ANGLE QUOTATION MARK", "NOT SIGN",
     "SOFT HYPHEN", "REGISTERED SIGN", "MACRON", "DEGREE SIGN", "PLUS-MINUS SIGN",
     "SUPERSCRIPT TWO", "SUPERSCRIPT THREE", "ACUTE ACCENT", "MICRO SIGN", "PILCROW SIGN",
     "MIDDLE DOT", "CEDILLA", "SUPERSCRIPT ONE", "MASCULINE ORDINAL INDICATOR",
     "RIGHT-POINTING DOUBLE ANGLE QUOTATION MARK", "VULGAR FRACTION ONE QUARTER",
     "VULGAR FRACTION ONE HALF", "VULGAR FRACTION THREE QUARTERS", "INVERTED QUESTION MARK",
     "LATIN CAPITAL LETTER A WITH GRAVE", "LATIN CAPITAL LETTER A WITH ACUTE",
     "LATIN CAPITAL LETTER A WITH CIRCUMFLEX", "LATIN CAPITAL LETTER A WITH TILDE",
     "LATIN CAPITAL LETTER A WITH DIAERESIS", "LATIN CAPITAL LETTER A WITH RING ABOVE",
     "LATIN CAPITAL LETTER AE", "LATIN CAPITAL LETTER C WITH CEDILLA",
     "LATIN CAPITAL LETTER E WITH GRAVE", "LATIN CAPITAL LETTER E WITH ACUTE",
     "LATIN CAPITAL LETTER E WITH CIRCUMFLEX", "LATIN CAPITAL LETTER E WITH DIAERESIS",
     "LATIN CAPITAL LETTER I WITH GRAVE", "LATIN CAPITAL LETTER I WITH ACUTE",
     "LATIN CAPITAL LETTER I WITH CIRCUMFLEX", "LATIN CAPITAL LETTER I WITH DIAERESIS",
     "LATIN CAPITAL LETTER ETH", "LATIN CAPITAL LETTER N WITH TILDE",
     "LATIN CAPITAL LETTER O WITH GRAVE", "LATIN CAPITAL LETTER O WITH ACUTE",
     "LATIN CAPITAL LETTER O WITH CIRCUMFLEX", "LATIN CAPITAL LETTER O WITH TILDE",
     "LATIN CAPITAL LETTER O WITH DIAERESIS", "MULTIPLICATION SIGN",
     "LATIN CAPITAL LETTER O WITH STROKE", "LATIN CAPITAL LETTER U WITH GRAVE",
     "LATIN CAPITAL LETTER U WITH ACUTE", "LATIN CAPITAL LETTER U WITH CIRCUMFLEX",
     "LATIN CAPITAL LETTER U WITH DIAERESIS", "LATIN CAPITAL LETTER Y WITH ACUTE",
     "LATIN CAPITAL LETTER THORN", "LATIN SMALL LETTER SHARP S",
     "LATIN SMALL LETTER A WITH GRAVE", "LATIN SMALL LETTER A WITH ACUTE",
     "LATIN SMALL LETTER A WITH CIRCUMFLEX", "LATIN SMALL LETTER A WITH TILDE",
     "LATIN SMALL LETTER A WITH DIAERESIS", "LATIN SMALL LETTER A WITH RING ABOVE",
     "LATIN SMALL LETTER AE", "LATIN SMALL LETTER C WITH CEDILLA",
     "LATIN SMALL LETTER E WITH GRAVE", "LATIN SMALL LETTER E WITH ACUTE",
     "LATIN SMALL LETTER E WITH CIRCUMFLEX", "LATIN SMALL LETTER E WITH DIAERESIS",
     "LATIN SMALL LETTER I WITH GRAVE", "LATIN SMALL LETTER I WITH ACUTE",
     "LATIN SMALL LETTER I WITH CIRCUMFLEX", "LATIN SMALL LETTER I WITH DIAERESIS",
     "LATIN SMALL LETTER ETH", "LATIN SMALL LETTER N WITH TILDE",
     "LATIN SMALL LETTER O WITH GRAVE", "LATIN SMALL LETTER O WITH ACUTE",
     "LATIN SMALL LETTER O WITH CIRCUMFLEX", "LATIN SMALL LETTER O WITH TILDE",
     "LATIN SMALL LETTER O WITH DIAERESIS", "DIVISION SIGN", "LATIN SMALL LETTER O WITH STROKE",
     "LATIN SMALL LETTER U WITH GRAVE", "LATIN SMALL LETTER U WITH ACUTE",
     "LATIN SMALL LETTER U WITH CIRCUMFLEX", "LATIN SMALL LETTER U WITH DIAERESIS",
     "LATIN SMALL LETTER Y WITH ACUTE", "LATIN SMALL LETTER THORN",
     "LATIN SMALL LETTER Y WITH DIAERESIS", "LATIN CAPITAL LETTER A WITH MACRON",
     "LATIN SMALL LETTER A WITH MACRON", "LATIN CAPITAL LETTER A WITH BREVE",
     "LATIN SMALL LETTER A WITH BREVE", "LATIN CAPITAL LETTER A WITH OGONEK",
     "LATIN SMALL LETTER A WITH OGONEK", "LATIN CAPITAL LETTER C WITH ACUTE",
     "LATIN SMALL LETTER C WITH ACUTE", "LATIN CAPITAL LETTER C WITH CIRCUMFLEX",
     "LATIN SMALL LETTER C WITH CIRCUMFLEX", "LATIN CAPITAL LETTER C WITH DOT ABOVE",
     "LATIN SMALL LETTER C WITH DOT ABOVE", "LATIN CAPITAL LETTER C WITH CARON",
     "LATIN SMALL LETTER C WITH CARON", "LATIN CAPITAL LETTER D WITH CARON",
     "LATIN SMALL LETTER D WITH CARON", "LATIN CAPITAL LETTER D WITH STROKE",
     "LATIN SMALL LETTER D WITH STROKE", "LATIN CAPITAL LETTER E WITH MACRON",
     "LATIN SMALL LETTER E WITH MACRON", "LATIN CAPITAL LETTER E WITH BREVE",
     "LATIN SMALL LETTER E WITH BREVE", "LATIN CAPITAL LETTER E WITH DOT ABOVE",
     "LATIN SMALL LETTER E WITH DOT ABOVE", "LATIN CAPITAL LETTER E WITH OGONEK",
     "LATIN SMALL LETTER E WITH OGONEK", "LATIN CAPITAL LETTER E WITH CARON",
     "LATIN SMALL LETTER E WITH CARON", "LATIN CAPITAL LETTER G WITH CIRCUMFLEX",
     "LATIN SMALL LETTER G WITH CIRCUMFLEX", "LATIN CAPITAL LETTER G WITH BREVE",
     "LATIN SMALL LETTER G WITH BREVE", "LATIN CAPITAL LETTER G WITH DOT ABOVE",
     "LATIN SMALL LETTER G WITH DOT ABOVE", "LATIN CAPITAL LETTER G WITH CEDILLA",
     "LATIN SMALL LETTER G WITH CEDILLA", "LATIN CAPITAL LETTER H WITH CIRCUMFLEX",
     "LATIN SMALL LETTER H WITH CIRCUMFLEX", "LATIN CAPITAL LETTER H WITH STROKE",
     "LATIN SMALL LETTER H WITH STROKE", "LATIN CAPITAL LETTER I WITH TILDE",
     "LATIN SMALL LETTER I WITH TILDE", "LATIN CAPITAL LETTER I WITH MACRON",
     "LATIN SMALL LETTER I WITH MACRON", "LATIN CAPITAL LETTER I WITH BREVE",
     "LATIN SMALL LETTER I WITH BREVE", "LATIN CAPITAL LETTER I WITH OGONEK",
     "LATIN SMALL LETTER I WITH OGONEK", "LATIN CAPITAL LETTER I WITH DOT ABOVE",
     "LATIN SMALL LETTER DOTLESS I", "LATIN CAPITAL LIGATURE IJ", "LATIN SMALL LIGATURE IJ",
     "LATIN CAPITAL LETTER J WITH CIRCUMFLEX", "LATIN SMALL LETTER J WITH CIRCUMFLEX",
     "LATIN CAPITAL LETTER K WITH CEDILLA", "LATIN SMALL LETTER K WITH CEDILLA",
     "LATIN SMALL LETTER KRA", "LATIN CAPITAL LETTER L WITH ACUTE",
     "LATIN SMALL LETTER L WITH ACUTE", "LATIN CAPITAL LETTER L WITH CEDILLA",
     "LATIN SMALL LETTER L WITH CEDILLA", "LATIN CAPITAL LETTER L WITH CARON",
     "LATIN SMALL LETTER L WITH CARON", "LATIN CAPITAL LETTER L WITH MIDDLE DOT",
     "LATIN SMALL LETTER L WITH MIDDLE DOT", "LATIN CAPITAL LETTER L WITH STROKE",
     "LATIN SMALL LETTER L WITH STROKE", "LATIN CAPITAL LETTER N WITH ACUTE",
     "LATIN SMALL LETTER N WITH ACUTE", "LATIN CAPITAL LETTER N WITH CEDILLA",
     "LATIN SMALL LETTER N WITH CEDILLA", "LATIN CAPITAL LETTER N WITH CARON",
     "LATIN SMALL LETTER N WITH CARON", "LATIN SMALL LETTER N PRECEDED BY APOSTROPHE",
     "LATIN CAPITAL LETTER ENG", "LATIN SMALL LETTER ENG", "LATIN CAPITAL LETTER O WITH MACRON",
     "LATIN SMALL LETTER O WITH MACRON", "LATIN CAPITAL LETTER O WITH BREVE",
     "LATIN SMALL LETTER O WITH BREVE", "LATIN CAPITAL LETTER O WITH DOUBLE ACUTE",
     "LATIN SMALL LETTER O WITH DOUBLE ACUTE", "LATIN CAPITAL LIGATURE OE",
     "LATIN SMALL LIGATURE OE", "LATIN CAPITAL LETTER R WITH ACUTE",
     "LATIN SMALL LETTER R WITH ACUTE", "LATIN CAPITAL LETTER R WITH CEDILLA",
     "LATIN SMALL LETTER R WITH CEDILLA", "LATIN CAPITAL LETTER R WITH CARON",
     "LATIN SMALL LETTER R WITH CARON", "LATIN CAPITAL LETTER S WITH ACUTE",
     "LATIN SMALL LETTER S WITH ACUTE", "LATIN CAPITAL LETTER S WITH CIRCUMFLEX",
     "LATIN SMALL LETTER S WITH CIRCUMFLEX", "LATIN CAPITAL LETTER S WITH CEDILLA",
     "LATIN SMALL LETTER S WITH CEDILLA", "LATIN CAPITAL LETTER S WITH CARON",
     "LATIN SMALL LETTER S WITH CARON", "LATIN CAPITAL LETTER T WITH CEDILLA",
     "LATIN SMALL LETTER T WITH CEDILLA", "LATIN CAPITAL LETTER T WITH CARON",
     "LATIN SMALL LETTER T WITH CARON", "LATIN CAPITAL LETTER T WITH STROKE",
     "LATIN SMALL LETTER T WITH STROKE", "LATIN CAPITAL LETTER U WITH TILDE",
     "LATIN SMALL LETTER U WITH TILDE", "LATIN CAPITAL LETTER U WITH MACRON",
     "LATIN SMALL LETTER U WITH MACRON", "LATIN CAPITAL LETTER U WITH BREVE",
     "LATIN SMALL LETTER U WITH BREVE", "LATIN CAPITAL LETTER U WITH RING ABOVE",
     "LATIN SMALL LETTER U WITH RING ABOVE", "LATIN CAPITAL LETTER U WITH DOUBLE ACUTE",
     "LATIN SMALL LETTER U WITH DOUBLE ACUTE", "LATIN CAPITAL LETTER U WITH OGONEK",
     "LATIN SMALL LETTER U WITH OGONEK", "LATIN CAPITAL LETTER W WITH CIRCUMFLEX",
     "LATIN SMALL LETTER W WITH CIRCUMFLEX", "LATIN CAPITAL LETTER Y WITH CIRCUMFLEX",
     "LATIN SMALL LETTER Y WITH CIRCUMFLEX", "LATIN CAPITAL LETTER Y WITH DIAERESIS",
     "LATIN CAPITAL LETTER Z WITH ACUTE", "LATIN SMALL LETTER Z WITH ACUTE",
     "LATIN CAPITAL LETTER Z WITH DOT ABOVE", "LATIN SMALL LETTER Z WITH DOT ABOVE",
     "LATIN CAPITAL LETTER Z WITH CARON", "LATIN SMALL LETTER Z WITH CARON",
     "LATIN SMALL LETTER LONG S", "LATIN SMALL LETTER B WITH STROKE",
     "LATIN CAPITAL LETTER B WITH HOOK", "LATIN CAPITAL LETTER B WITH TOPBAR",
     "LATIN SMALL LETTER B WITH TOPBAR", "LATIN CAPITAL LETTER TONE SIX",
     "LATIN SMALL LETTER TONE SIX", "LATIN CAPITAL LETTER OPEN O",
     "LATIN CAPITAL LETTER C WITH HOOK", "LATIN SMALL LETTER C WITH HOOK",
     "LATIN CAPITAL LETTER AFRICAN D", "LATIN CAPITAL LETTER D WITH HOOK",
     "LATIN CAPITAL LETTER D WITH TOPBAR", "LATIN SMALL LETTER D WITH TOPBAR",
     "LATIN SMALL LETTER TURNED DELTA", "LATIN CAPITAL LETTER REVERSED E",
     "LATIN CAPITAL LETTER SCHWA", "LATIN CAPITAL LETTER OPEN E",
     "LATIN CAPITAL LETTER F WITH HOOK", "LATIN SMALL LETTER F WITH HOOK",
     "LATIN CAPITAL LETTER G WITH HOOK", "LATIN CAPITAL LETTER GAMMA", "LATIN SMALL LETTER HV",
     "LATIN CAPITAL LETTER IOTA", "LATIN CAPITAL LETTER I WITH STROKE",
     "LATIN CAPITAL LETTER K WITH HOOK", "LATIN SMALL LETTER K WITH HOOK",
     "LATIN SMALL LETTER L WITH BAR", "LATIN SMALL LETTER LAMBDA WITH STROKE",
     "LATIN CAPITAL LETTER TURNED M", "LATIN CAPITAL LETTER N WITH LEFT HOOK",
     "LATIN SMALL LETTER N WITH LONG RIGHT LEG", "LATIN CAPITAL LETTER O WITH MIDDLE TILDE",
     "LATIN CAPITAL LETTER O WITH HORN", "LATIN SMALL LETTER O WITH HORN",
     "LATIN CAPITAL LETTER OI", "LATIN SMALL LETTER OI", "LATIN CAPITAL LETTER P WITH HOOK",
     "LATIN SMALL LETTER P WITH HOOK", "LATIN LETTER YR", "LATIN CAPITAL LETTER TONE TWO",
     "LATIN SMALL LETTER TONE TWO", "LATIN CAPITAL LETTER ESH", "LATIN LETTER REVERSED ESH LOOP",
     "LATIN SMALL LETTER T WITH PALATAL HOOK", "LATIN CAPITAL LETTER T WITH HOOK",
     "LATIN SMALL LETTER T WITH HOOK", "LATIN CAPITAL LETTER T WITH RETROFLEX HOOK",
     "LATIN CAPITAL LETTER U WITH HORN", "LATIN SMALL LETTER U WITH HORN",
     "LATIN CAPITAL LETTER UPSILON", "LATIN CAPITAL LETTER V WITH HOOK",
     "LATIN CAPITAL LETTER Y WITH HOOK", "LATIN SMALL LETTER Y WITH HOOK",
     "LATIN CAPITAL LETTER Z WITH STROKE", "LATIN SMALL LETTER Z WITH STROKE",
     "LATIN CAPITAL LETTER EZH", "LATIN CAPITAL LETTER EZH REVERSED",
     "LATIN SMALL LETTER EZH REVERSED", "LATIN SMALL LETTER EZH WITH TAIL",
     "LATIN LETTER TWO WITH STROKE", "LATIN CAPITAL LETTER TONE FIVE",
     "LATIN SMALL LETTER TONE FIVE", "LATIN LETTER INVERTED GLOTTAL STOP WITH STROKE",
     "LATIN LETTER WYNN", "LATIN LETTER DENTAL CLICK", "LATIN LETTER LATERAL CLICK",
     "LATIN LETTER ALVEOLAR CLICK", "LATIN LETTER RETROFLEX CLICK",
     "LATIN CAPITAL LETTER DZ WITH CARON",
     "LATIN CAPITAL LETTER D WITH SMALL LETTER Z WITH CARON", "LATIN SMALL LETTER DZ WITH CARON",
     "LATIN CAPITAL LETTER LJ", "LATIN CAPITAL LETTER L WITH SMALL LETTER J",
     "LATIN SMALL LETTER LJ", "LATIN CAPITAL LETTER NJ",
     "LATIN CAPITAL LETTER N WITH SMALL LETTER J", "LATIN SMALL LETTER NJ",
     "LATIN CAPITAL LETTER A WITH CARON", "LATIN SMALL LETTER A WITH CARON",
     "LATIN CAPITAL LETTER I WITH CARON", "LATIN SMALL LETTER I WITH CARON",
     "LATIN CAPITAL LETTER O WITH CARON", "LATIN SMALL LETTER O WITH CARON",
     "LATIN CAPITAL LETTER U WITH CARON", "LATIN SMALL LETTER U WITH CARON",
     "LATIN CAPITAL LETTER U WITH DIAERESIS AND MACRON",
     "LATIN SMALL LETTER U WITH DIAERESIS AND MACRON",
     "LATIN CAPITAL LETTER U WITH DIAERESIS AND ACUTE",
     "LATIN SMALL LETTER U WITH DIAERESIS AND ACUTE",
     "LATIN CAPITAL LETTER U WITH DIAERESIS AND CARON",
     "LATIN SMALL LETTER U WITH DIAERESIS AND CARON",
     "LATIN CAPITAL LETTER U WITH DIAERESIS AND GRAVE",
     "LATIN SMALL LETTER U WITH DIAERESIS AND GRAVE", "LATIN SMALL LETTER TURNED E",
     "LATIN CAPITAL LETTER A WITH DIAERESIS AND MACRON",
     "LATIN SMALL LETTER A WITH DIAERESIS AND MACRON",
     "LATIN CAPITAL LETTER A WITH DOT ABOVE AND MACRON",
     "LATIN SMALL LETTER A WITH DOT ABOVE AND MACRON", "LATIN CAPITAL LETTER AE WITH MACRON",
     "LATIN SMALL LETTER AE WITH MACRON", "LATIN CAPITAL LETTER G WITH STROKE",
     "LATIN SMALL LETTER G WITH STROKE", "LATIN CAPITAL LETTER G WITH CARON",
     "LATIN SMALL LETTER G WITH CARON", "LATIN CAPITAL LETTER K WITH CARON",
     "LATIN SMALL LETTER K WITH CARON", "LATIN CAPITAL LETTER O WITH OGONEK",
     "LATIN SMALL LETTER O WITH OGONEK", "LATIN CAPITAL LETTER O WITH OGONEK AND MACRON",
     "LATIN SMALL LETTER O WITH OGONEK AND MACRON", "LATIN CAPITAL LETTER EZH WITH CARON",
     "LATIN SMALL LETTER EZH WITH CARON", "LATIN SMALL LETTER J WITH CARON",
     "LATIN CAPITAL LETTER DZ", "LATIN CAPITAL LETTER D WITH SMALL LETTER Z",
     "LATIN SMALL LETTER DZ", "LATIN CAPITAL LETTER G WITH ACUTE",
     "LATIN SMALL LETTER G WITH ACUTE", "LATIN CAPITAL LETTER HWAIR", "LATIN CAPITAL LETTER WYNN",
     "LATIN CAPITAL LETTER N WITH GRAVE", "LATIN SMALL LETTER N WITH GRAVE",
     "LATIN CAPITAL LETTER A WITH RING ABOVE AND ACUTE",
     "LATIN SMALL LETTER A WITH RING ABOVE AND ACUTE", "LATIN CAPITAL LETTER AE WITH ACUTE",
     "LATIN SMALL LETTER AE WITH ACUTE", "LATIN CAPITAL LETTER O WITH STROKE AND ACUTE",
     "LATIN SMALL LETTER O WITH STROKE AND ACUTE", "LATIN CAPITAL LETTER A WITH DOUBLE GRAVE",
     "LATIN SMALL LETTER A WITH DOUBLE GRAVE", "LATIN CAPITAL LETTER A WITH INVERTED BREVE",
     "LATIN SMALL LETTER A WITH INVERTED BREVE", "LATIN CAPITAL LETTER E WITH DOUBLE GRAVE",
     "LATIN SMALL LETTER E WITH DOUBLE GRAVE", "LATIN CAPITAL LETTER E WITH INVERTED BREVE",
     "LATIN SMALL LETTER E WITH INVERTED BREVE", "LATIN CAPITAL LETTER I WITH DOUBLE GRAVE",
     "LATIN SMALL LETTER I WITH DOUBLE GRAVE", "LATIN CAPITAL LETTER I WITH INVERTED BREVE",
     "LATIN SMALL LETTER I WITH INVERTED BREVE", "LATIN CAPITAL LETTER O WITH DOUBLE GRAVE",
     "LATIN SMALL LETTER O WITH DOUBLE GRAVE", "LATIN CAPITAL LETTER O WITH INVERTED BREVE",
     "LATIN SMALL LETTER O WITH INVERTED BREVE", "LATIN CAPITAL LETTER R WITH DOUBLE GRAVE",
     "LATIN SMALL LETTER R WITH DOUBLE GRAVE", "LATIN CAPITAL LETTER R WITH INVERTED BREVE",
     "LATIN SMALL LETTER R WITH INVERTED BREVE", "LATIN CAPITAL LETTER U WITH DOUBLE GRAVE",
     "LATIN SMALL LETTER U WITH DOUBLE GRAVE", "LATIN CAPITAL LETTER U WITH INVERTED BREVE",
     "LATIN SMALL LETTER U WITH INVERTED BREVE", "LATIN CAPITAL LETTER S WITH COMMA BELOW",
     "LATIN SMALL LETTER S WITH COMMA BELOW", "LATIN CAPITAL LETTER T WITH COMMA BELOW",
     "LATIN SMALL LETTER T WITH COMMA BELOW", "LATIN CAPITAL LETTER YOGH",
     "LATIN SMALL LETTER YOGH", "LATIN CAPITAL LETTER H WITH CARON",
     "LATIN SMALL LETTER H WITH CARON", "LATIN CAPITAL LETTER N WITH LONG RIGHT LEG",
     "LATIN SMALL LETTER D WITH CURL", "LATIN CAPITAL LETTER OU", "LATIN SMALL LETTER OU",
     "LATIN CAPITAL LETTER Z WITH HOOK", "LATIN SMALL LETTER Z WITH HOOK",
     "LATIN CAPITAL LETTER A WITH DOT ABOVE", "LATIN SMALL LETTER A WITH DOT ABOVE",
     "LATIN CAPITAL LETTER E WITH CEDILLA", "LATIN SMALL LETTER E WITH CEDILLA",
     "LATIN CAPITAL LETTER O WITH DIAERESIS AND MACRON",
     "LATIN SMALL LETTER O WITH DIAERESIS AND MACRON",
     "LATIN CAPITAL LETTER O WITH TILDE AND MACRON", "LATIN SMALL LETTER O WITH TILDE AND MACRON",
     "LATIN CAPITAL LETTER O WITH DOT ABOVE", "LATIN SMALL LETTER O WITH DOT ABOVE",
     "LATIN CAPITAL LETTER O WITH DOT ABOVE AND MACRON",
     "LATIN SMALL LETTER O WITH DOT ABOVE AND MACRON", "LATIN CAPITAL LETTER Y WITH MACRON",
     "LATIN SMALL LETTER Y WITH MACRON", "LATIN SMALL LETTER L WITH CURL",
     "LATIN SMALL LETTER N WITH CURL", "LATIN SMALL LETTER T WITH CURL",
     "LATIN SMALL LETTER DOTLESS J", "LATIN SMALL LETTER DB DIGRAPH",
     "LATIN SMALL LETTER QP DIGRAPH", "LATIN CAPITAL LETTER A WITH STROKE",
     "LATIN CAPITAL LETTER C WITH STROKE", "LATIN SMALL LETTER C WITH STROKE",
     "LATIN CAPITAL LETTER L WITH BAR", "LATIN CAPITAL LETTER T WITH DIAGONAL STROKE",
     "LATIN SMALL LETTER S WITH SWASH TAIL", "LATIN SMALL LETTER Z WITH SWASH TAIL",
     "LATIN CAPITAL LETTER GLOTTAL STOP", "LATIN SMALL LETTER GLOTTAL STOP",
     "LATIN CAPITAL LETTER B WITH STROKE", "LATIN CAPITAL LETTER U BAR",
     "LATIN CAPITAL LETTER TURNED V", "LATIN CAPITAL LETTER E WITH STROKE",
     "LATIN SMALL LETTER E WITH STROKE", "LATIN CAPITAL LETTER J WITH STROKE",
     "LATIN SMALL LETTER J WITH STROKE", "LATIN CAPITAL LETTER SMALL Q WITH HOOK TAIL",
     "LATIN SMALL LETTER Q WITH HOOK TAIL", "LATIN CAPITAL LETTER R WITH STROKE",
     "LATIN SMALL LETTER R WITH STROKE", "LATIN CAPITAL LETTER Y WITH STROKE",
     "LATIN SMALL LETTER Y WITH STROKE"]⟩,
   ⟨768,
    ["COMBINING GRAVE ACCENT", "COMBINING ACUTE ACCENT", "COMBINING CIRCUMFLEX ACCENT",
     "COMBINING TILDE", "COMBINING MACRON", "COMBINING OVERLINE", "COMBINING BREVE",
     "COMBINING DOT ABOVE", "COMBINING DIAERESIS", "COMBINING HOOK ABOVE", "COMBINING RING ABOVE",
     "COMBINING DOUBLE ACUTE ACCENT", "COMBINING CARON", "COMBINING VERTICAL LINE ABOVE",
     "COMBINING DOUBLE VERTICAL LINE ABOVE", "COMBINING DOUBLE GRAVE ACCENT",
     "COMBINING CANDRABINDU", "COMBINING INVERTED BREVE", "COMBINING TURNED COMMA ABOVE",
     "COMBINING COMMA ABOVE", "COMBINING REVERSED COMMA ABOVE", "COMBINING COMMA ABOVE RIGHT",
     "COMBINING GRAVE ACCENT BELOW", "COMBINING ACUTE ACCENT BELOW", "COMBINING LEFT TACK BELOW",
     "COMBINING RIGHT TACK BELOW", "COMBINING LEFT ANGLE ABOVE", "COMBINING HORN",
     "COMBINING LEFT HALF RING BELOW", "COMBINING UP TACK BELOW", "COMBINING DOWN TACK BELOW",
     "COMBINING PLUS SIGN BELOW", "COMBINING MINUS SIGN BELOW",
     "COMBINING PALATALIZED HOOK BELOW", "COMBINING RETROFLEX HOOK BELOW", "COMBINING DOT BELOW",
     "COMBINING DIAERESIS BELOW", "COMBINING RING BELOW", "COMBINING COMMA BELOW",
     "COMBINING CEDILLA", "COMBINING OGONEK", "COMBINING VERTICAL LINE BELOW",
     "COMBINING BRIDGE BELOW", "COMBINING INVERTED DOUBLE ARCH BELOW", "COMBINING CARON BELOW",
     "COMBINING CIRCUMFLEX ACCENT BELOW", "COMBINING BREVE BELOW",
     "COMBINING INVERTED BREVE BELOW", "COMBINING TILDE BELOW", "COMBINING MACRON BELOW",
     "COMBINING LOW LINE", "COMBINING DOUBLE LOW LINE", "COMBINING TILDE OVERLAY",
     "COMBINING SHORT STROKE OVERLAY", "COMBINING LONG STROKE OVERLAY",
     "COMBINING SHORT SOLIDUS OVERLAY", "COMBINING LONG SOLIDUS OVERLAY",
     "COMBINING RIGHT HALF RING BELOW", "COMBINING INVERTED BRIDGE BELOW",
     "COMBINING SQUARE BELOW", "COMBINING SEAGULL BELOW", "COMBINING X ABOVE",
     "COMBINING VERTICAL TILDE", "COMBINING DOUBLE OVERLINE", "COMBINING GRAVE TONE MARK",
     "COMBINING ACUTE TONE MARK", "COMBINING GREEK PERISPOMENI", "COMBINING GREEK KORONIS",
     "COMBINING GREEK DIALYTIKA TONOS", "COMBINING GREEK YPOGEGRAMMENI", "COMBINING BRIDGE ABOVE",
     "COMBINING EQUALS SIGN BELOW", "COMBINING DOUBLE VERTICAL LINE BELOW",
     "COMBINING LEFT ANGLE BELOW", "COMBINING NOT TILDE ABOVE", "COMBINING HOMOTHETIC ABOVE",
     "COMBINING ALMOST EQUAL TO ABOVE", "COMBINING LEFT RIGHT ARROW BELOW",
     "COMBINING UPWARDS ARROW BELOW", "COMBINING GRAPHEME JOINER",
     "COMBINING RIGHT ARROWHEAD ABOVE", "COMBINING LEFT HALF RING ABOVE", "COMBINING FERMATA",
     "COMBINING X BELOW", "COMBINING LEFT ARROWHEAD BELOW", "COMBINING RIGHT ARROWHEAD BELOW",
     "COMBINING RIGHT ARROWHEAD AND UP ARROWHEAD BELOW", "COMBINING RIGHT HALF RING ABOVE",
     "COMBINING DOT ABOVE RIGHT", "COMBINING ASTERISK BELOW", "COMBINING DOUBLE RING BELOW",
     "COMBINING ZIGZAG ABOVE", "COMBINING DOUBLE BREVE BELOW", "COMBINING DOUBLE BREVE",
     "COMBINING DOUBLE MACRON", "COMBINING DOUBLE MACRON BELOW", "COMBINING DOUBLE TILDE",
     "COMBINING DOUBLE INVERTED BREVE", "COMBINING DOUBLE RIGHTWARDS ARROW BELOW",
     "COMBINING LATIN SMALL LETTER A", "COMBINING LATIN SMALL LETTER E",
     "COMBINING LATIN SMALL LETTER I", "COMBINING LATIN SMALL LETTER O",
     "COMBINING LATIN SMALL LETTER U", "COMBINING LATIN SMALL LETTER C",
     "COMBINING LATIN SMALL LETTER D", "COMBINING LATIN SMALL LETTER H",
     "COMBINING LATIN SMALL LETTER M", "COMBINING LATIN SMALL LETTER R",
     "COMBINING LATIN SMALL LETTER T", "COMBINING LATIN SMALL LETTER V",
     "COMBINING LATIN SMALL LETTER X", "GREEK CAPITAL LETTER HETA", "GREEK SMALL LETTER HETA",
     "GREEK CAPITAL LETTER ARCHAIC SAMPI", "GREEK SMALL LETTER ARCHAIC SAMPI",
     "GREEK NUMERAL SIGN", "GREEK LOWER NUMERAL SIGN", "GREEK CAPITAL LETTER PAMPHYLIAN DIGAMMA",
     "GREEK SMALL LETTER PAMPHYLIAN DIGAMMA"]⟩,
   ⟨890,
    ["GREEK YPOGEGRAMMENI", "GREEK SMALL REVERSED LUNATE SIGMA SYMBOL",
     "GREEK SMALL DOTTED LUNATE SIGMA SYMBOL", "GREEK SMALL REVERSED DOTTED LUNATE SIGMA SYMBOL",
     "GREEK QUESTION MARK", "GREEK CAPITAL LETTER YOT"]⟩,
   ⟨900,
    ["GREEK TONOS", "GREEK DIALYTIKA TONOS", "GREEK CAPITAL LETTER ALPHA WITH TONOS",
     "GREEK ANO TELEIA", "GREEK CAPITAL LETTER EPSILON WITH TONOS",
     "GREEK CAPITAL LETTER ETA WITH TONOS", "GREEK CAPITAL LETTER IOTA WITH TONOS"]⟩,
   ⟨908,
    ["GREEK CAPITAL LETTER OMICRON WITH TONOS"]⟩,
   ⟨910,
    ["GREEK CAPITAL LETTER UPSILON WITH TONOS", "GREEK CAPITAL LETTER OMEGA WITH TONOS",
     "GREEK SMALL LETTER IOTA WITH DIALYTIKA AND TONOS", "GREEK CAPITAL LETTER ALPHA",
     "GREEK CAPITAL LETTER BETA", "GREEK CAPITAL LETTER GAMMA", "GREEK CAPITAL LETTER DELTA",
     "GREEK CAPITAL LETTER EPSILON", "GREEK CAPITAL LETTER ZETA", "GREEK CAPITAL LETTER ETA",
     "GREEK CAPITAL LETTER THETA", "GREEK CAPITAL LETTER IOTA", "GREEK CAPITAL LETTER KAPPA",
     "GREEK CAPITAL LETTER LAMDA", "GREEK CAPITAL LETTER MU", "GREEK CAPITAL LETTER NU",
     "GREEK CAPITAL LETTER XI", "GREEK CAPITAL LETTER OMICRON", "GREEK CAPITAL LETTER PI",
     "GREEK CAPITAL LETTER RHO"]⟩,
   ⟨931,
    ["GREEK CAPITAL LETTER SIGMA", "GREEK CAPITAL LETTER TAU", "GREEK CAPITAL LETTER UPSILON",
     "GREEK CAPITAL LETTER PHI", "GREEK CAPITAL LETTER CHI", "GREEK CAPITAL LETTER PSI",
     "GREEK CAPITAL LETTER OMEGA", "GREEK CAPITAL LETTER IOTA WITH DIALYTIKA",
     "GREEK CAPITAL LETTER UPSILON WITH DIALYTIKA", "GREEK SMALL LETTER ALPHA WITH TONOS",
     "GREEK SMALL LETTER EPSILON WITH TONOS", "GREEK SMALL LETTER ETA WITH TONOS",
     "GREEK SMALL LETTER IOTA WITH TONOS", "GREEK SMALL LETTER UPSILON WITH DIALYTIKA AND TONOS",
     "GREEK SMALL LETTER ALPHA", "GREEK SMALL LETTER BETA", "GREEK SMALL LETTER GAMMA",
     "GREEK SMALL LETTER DELTA", "GREEK SMALL LETTER EPSILON", "GREEK SMALL LETTER ZETA",
     "GREEK SMALL LETTER ETA", "GREEK SMALL LETTER THETA", "GREEK SMALL LETTER IOTA",
     "GREEK SMALL LETTER KAPPA", "GREEK SMALL LETTER LAMDA", "GREEK SMALL LETTER MU",
     "GREEK SMALL LETTER NU", "GREEK SMALL LETTER XI", "GREEK SMALL LETTER OMICRON",
     "GREEK SMALL LETTER PI", "GREEK SMALL LETTER RHO", "GREEK SMALL LETTER FINAL SIGMA",
     "GREEK SMALL LETTER SIGMA", "GREEK SMALL LETTER TAU", "GREEK SMALL LETTER UPSILON",
     "GREEK SMALL LETTER PHI", "GREEK SMALL LETTER CHI", "GREEK SMALL LETTER PSI",
     "GREEK SMALL LETTER OMEGA", "GREEK SMALL LETTER IOTA WITH DIALYTIKA",
     "GREEK SMALL LETTER UPSILON WITH DIALYTIKA", "GREEK SMALL LETTER OMICRON WITH TONOS",
     "GREEK SMALL LETTER UPSILON WITH TONOS", "GREEK SMALL LETTER OMEGA WITH TONOS",
     "GREEK CAPITAL KAI SYMBOL", "GREEK BETA SYMBOL", "GREEK THETA SYMBOL",
     "GREEK UPSILON WITH HOOK SYMBOL", "GREEK UPSILON WITH ACUTE AND HOOK SYMBOL",
     "GREEK UPSILON WITH DIAERESIS AND HOOK SYMBOL", "GREEK PHI SYMBOL", "GREEK PI SYMBOL",
     "GREEK KAI SYMBOL", "GREEK LETTER ARCHAIC KOPPA", "GREEK SMALL LETTER ARCHAIC KOPPA",
     "GREEK LETTER STIGMA", "GREEK SMALL LETTER STIGMA", "GREEK LETTER DIGAMMA",
     "GREEK SMALL LETTER DIGAMMA", "GREEK LETTER KOPPA", "GREEK SMALL LETTER KOPPA",
     "GREEK LETTER SAMPI", "GREEK SMALL LETTER SAMPI", "COPTIC CAPITAL LETTER SHEI",
     "COPTIC SMALL LETTER SHEI", "COPTIC CAPITAL LETTER FEI", "COPTIC SMALL LETTER FEI",
     "COPTIC CAPITAL LETTER KHEI", "COPTIC SMALL LETTER KHEI", "COPTIC CAPITAL LETTER HORI",
     "COPTIC SMALL LETTER HORI", "COPTIC CAPITAL LETTER GANGIA", "COPTIC SMALL LETTER GANGIA",
     "COPTIC CAPITAL LETTER SHIMA", "COPTIC SMALL LETTER SHIMA", "COPTIC CAPITAL LETTER DEI",
     "COPTIC SMALL LETTER DEI", "GREEK KAPPA SYMBOL", "GREEK RHO SYMBOL",
     "GREEK LUNATE SIGMA SYMBOL", "GREEK LETTER YOT", "GREEK CAPITAL THETA SYMBOL",
     "GREEK LUNATE EPSILON SYMBOL", "GREEK REVERSED LUNATE EPSILON SYMBOL",
     "GREEK CAPITAL LETTER SHO", "GREEK SMALL LETTER SHO", "GREEK CAPITAL LUNATE SIGMA SYMBOL",
     "GREEK CAPITAL LETTER SAN", "GREEK SMALL LETTER SAN", "GREEK RHO WITH STROKE SYMBOL",
     "GREEK CAPITAL REVERSED LUNATE SIGMA SYMBOL", "GREEK CAPITAL DOTTED LUNATE SIGMA SYMBOL",
     "GREEK CAPITAL REVERSED DOTTED LUNATE SIGMA SYMBOL"]⟩,
   ⟨1024,
    ["CYRILLIC CAPITAL LETTER IE WITH GRAVE", "CYRILLIC CAPITAL LETTER IO",
     "CYRILLIC CAPITAL LETTER DJE", "CYRILLIC CAPITAL LETTER GJE",
     "CYRILLIC CAPITAL LETTER UKRAINIAN IE", "CYRILLIC CAPITAL LETTER DZE",
     "CYRILLIC CAPITAL LETTER BYELORUSSIAN-UKRAINIAN I", "CYRILLIC CAPITAL LETTER YI",
     "CYRILLIC CAPITAL LETTER JE", "CYRILLIC CAPITAL LETTER LJE", "CYRILLIC CAPITAL LETTER NJE",
     "CYRILLIC CAPITAL LETTER TSHE", "CYRILLIC CAPITAL LETTER KJE",
     "CYRILLIC CAPITAL LETTER I WITH GRAVE", "CYRILLIC CAPITAL LETTER SHORT U",
     "CYRILLIC CAPITAL LETTER DZHE", "CYRILLIC CAPITAL LETTER A", "CYRILLIC CAPITAL LETTER BE",
     "CYRILLIC CAPITAL LETTER VE", "CYRILLIC CAPITAL LETTER GHE", "CYRILLIC CAPITAL LETTER DE",
     "CYRILLIC CAPITAL LETTER IE", "CYRILLIC CAPITAL LETTER ZHE", "CYRILLIC CAPITAL LETTER ZE",
     "CYRILLIC CAPITAL LETTER I", "CYRILLIC CAPITAL LETTER SHORT I", "CYRILLIC CAPITAL LETTER KA",
     "CYRILLIC CAPITAL LETTER EL", "CYRILLIC CAPITAL LETTER EM", "CYRILLIC CAPITAL LETTER EN",
     "CYRILLIC CAPITAL LETTER O", "CYRILLIC CAPITAL LETTER PE", "CYRILLIC CAPITAL LETTER ER",
     "CYRILLIC CAPITAL LETTER ES", "CYRILLIC CAPITAL LETTER TE", "CYRILLIC CAPITAL LETTER U",
     "CYRILLIC CAPITAL LETTER EF", "CYRILLIC CAPITAL LETTER HA", "CYRILLIC CAPITAL LETTER TSE",
     "CYRILLIC CAPITAL LETTER CHE", "CYRILLIC CAPITAL LETTER SHA",
     "CYRILLIC CAPITAL LETTER SHCHA", "CYRILLIC CAPITAL LETTER HARD SIGN",
     "CYRILLIC CAPITAL LETTER YERU", "CYRILLIC CAPITAL LETTER SOFT SIGN",
     "CYRILLIC CAPITAL LETTER E", "CYRILLIC CAPITAL LETTER YU", "CYRILLIC CAPITAL LETTER YA",
     "CYRILLIC SMALL LETTER A", "CYRILLIC SMALL LETTER BE", "CYRILLIC SMALL LETTER VE",
     "CYRILLIC SMALL LETTER GHE", "CYRILLIC SMALL LETTER DE", "CYRILLIC SMALL LETTER IE",
     "CYRILLIC SMALL LETTER ZHE", "CYRILLIC SMALL LETTER ZE", "CYRILLIC SMALL LETTER I",
     "CYRILLIC SMALL LETTER SHORT I", "CYRILLIC SMALL LETTER KA", "CYRILLIC SMALL LETTER EL",
     "CYRILLIC SMALL LETTER EM", "CYRILLIC SMALL LETTER EN", "CYRILLIC SMALL LETTER O",
     "CYRILLIC SMALL LETTER PE", "CYRILLIC SMALL LETTER ER", "CYRILLIC SMALL LETTER ES",
     "CYRILLIC SMALL LETTER TE", "CYRILLIC SMALL LETTER U", "CYRILLIC SMALL LETTER EF",
     "CYRILLIC SMALL LETTER HA", "CYRILLIC SMALL LETTER TSE", "CYRILLIC SMALL LETTER CHE",
     "CYRILLIC SMALL LETTER SHA", "CYRILLIC SMALL LETTER SHCHA",
     "CYRILLIC SMALL LETTER HARD SIGN", "CYRILLIC SMALL LETTER YERU",
     "CYRILLIC SMALL LETTER SOFT SIGN", "CYRILLIC SMALL LETTER E", "CYRILLIC SMALL LETTER YU",
     "CYRILLIC SMALL LETTER YA", "CYRILLIC SMALL LETTER IE WITH GRAVE",
     "CYRILLIC SMALL LETTER IO", "CYRILLIC SMALL LETTER DJE", "CYRILLIC SMALL LETTER GJE",
     "CYRILLIC SMALL LETTER UKRAINIAN IE", "CYRILLIC SMALL LETTER DZE",
     "CYRILLIC SMALL LETTER BYELORUSSIAN-UKRAINIAN I", "CYRILLIC SMALL LETTER YI",
     "CYRILLIC SMALL LETTER JE", "CYRILLIC SMALL LETTER LJE", "CYRILLIC SMALL LETTER NJE",
     "CYRILLIC SMALL LETTER TSHE", "CYRILLIC SMALL LETTER KJE",
     "CYRILLIC SMALL LETTER I WITH GRAVE", "CYRILLIC SMALL LETTER SHORT U",
     "CYRILLIC SMALL LETTER DZHE"]⟩,
   ⟨1488,
    ["HEBREW LETTER ALEF", "HEBREW LETTER BET", "HEBREW LETTER GIMEL", "HEBREW LETTER DALET",
     "HEBREW LETTER HE", "HEBREW LETTER VAV", "HEBREW LETTER ZAYIN", "HEBREW LETTER HET",
     "HEBREW LETTER TET", "HEBREW LETTER YOD", "HEBREW LETTER FINAL KAF", "HEBREW LETTER KAF",
     "HEBREW LETTER LAMED", "HEBREW LETTER FINAL MEM", "HEBREW LETTER MEM",
     "HEBREW LETTER FINAL NUN", "HEBREW LETTER NUN", "HEBREW LETTER SAMEKH", "HEBREW LETTER AYIN",
     "HEBREW LETTER FINAL PE", "HEBREW LETTER PE", "HEBREW LETTER FINAL TSADI",
     "HEBREW LETTER TSADI", "HEBREW LETTER QOF", "HEBREW LETTER RESH", "HEBREW LETTER SHIN",
     "HEBREW LETTER TAV"]⟩,
   ⟨1632,
    ["ARABIC-INDIC DIGIT ZERO", "ARABIC-INDIC DIGIT ONE", "ARABIC-INDIC DIGIT TWO",
     "ARABIC-INDIC DIGIT THREE", "ARABIC-INDIC DIGIT FOUR", "ARABIC-INDIC DIGIT FIVE",
     "ARABIC-INDIC DIGIT SIX", "ARABIC-INDIC DIGIT SEVEN", "ARABIC-INDIC DIGIT EIGHT",
     "ARABIC-INDIC DIGIT NINE"]⟩,
   ⟨2406,
    ["DEVANAGARI DIGIT ZERO", "DEVANAGARI DIGIT ONE", "DEVANAGARI DIGIT TWO",
     "DEVANAGARI DIGIT THREE", "DEVANAGARI DIGIT FOUR", "DEVANAGARI DIGIT FIVE",
     "DEVANAGARI DIGIT SIX", "DEVANAGARI DIGIT SEVEN", "DEVANAGARI DIGIT EIGHT",
     "DEVANAGARI DIGIT NINE"]⟩,
   ⟨7838,
    ["LATIN CAPITAL LETTER SHARP S"]⟩,
   ⟨8192,
    ["EN QUAD", "EM QUAD", "EN SPACE", "EM SPACE", "THREE-PER-EM SPACE", "FOUR-PER-EM SPACE",
     "SIX-PER-EM SPACE", "FIGURE SPACE", "PUNCTUATION SPACE", "THIN SPACE", "HAIR SPACE",
     "ZERO WIDTH SPACE", "ZERO WIDTH NON-JOINER", "ZERO WIDTH JOINER", "LEFT-TO-RIGHT MARK",
     "RIGHT-TO-LEFT MARK", "HYPHEN", "NON-BREAKING HYPHEN", "FIGURE DASH", "EN DASH", "EM DASH",
     "HORIZONTAL BAR", "DOUBLE VERTICAL LINE", "DOUBLE LOW LINE", "LEFT SINGLE QUOTATION MARK",
     "RIGHT SINGLE QUOTATION MARK", "SINGLE LOW-9 QUOTATION MARK",
     "SINGLE HIGH-REVERSED-9 QUOTATION MARK", "LEFT DOUBLE QUOTATION MARK",
     "RIGHT DOUBLE QUOTATION MARK", "DOUBLE LOW-9 QUOTATION MARK",
     "DOUBLE HIGH-REVERSED-9 QUOTATION MARK", "DAGGER", "DOUBLE DAGGER", "BULLET",
     "TRIANGULAR BULLET", "ONE DOT LEADER", "TWO DOT LEADER", "HORIZONTAL ELLIPSIS",
     "HYPHENATION POINT", "LINE SEPARATOR", "PARAGRAPH SEPARATOR", "LEFT-TO-RIGHT EMBEDDING",
     "RIGHT-TO-LEFT EMBEDDING", "POP DIRECTIONAL FORMATTING", "LEFT-TO-RIGHT OVERRIDE",
     "RIGHT-TO-LEFT OVERRIDE", "NARROW NO-BREAK SPACE", "PER MILLE SIGN", "PER TEN THOUSAND SIGN",
     "PRIME", "DOUBLE PRIME", "TRIPLE PRIME", "REVERSED PRIME", "REVERSED DOUBLE PRIME",
     "REVERSED TRIPLE PRIME", "CARET", "SINGLE LEFT-POINTING ANGLE QUOTATION MARK",
     "SINGLE RIGHT-POINTING ANGLE QUOTATION MARK", "REFERENCE MARK", "DOUBLE EXCLAMATION MARK",
     "INTERROBANG", "OVERLINE", "UNDERTIE", "CHARACTER TIE", "CARET INSERTION POINT", "ASTERISM",
     "HYPHEN BULLET", "FRACTION SLASH", "LEFT SQUARE BRACKET WITH QUILL",
     "RIGHT SQUARE BRACKET WITH QUILL", "DOUBLE QUESTION MARK", "QUESTION EXCLAMATION MARK",
     "EXCLAMATION QUESTION MARK", "TIRONIAN SIGN ET", "REVERSED PILCROW SIGN",
     "BLACK LEFTWARDS BULLET", "BLACK RIGHTWARDS BULLET", "LOW ASTERISK", "REVERSED SEMICOLON",
     "CLOSE UP", "TWO ASTERISKS ALIGNED VERTICALLY", "COMMERCIAL MINUS SIGN", "SWUNG DASH",
     "INVERTED UNDERTIE", "FLOWER PUNCTUATION MARK", "THREE DOT PUNCTUATION", "QUADRUPLE PRIME",
     "FOUR DOT PUNCTUATION", "FIVE DOT PUNCTUATION", "TWO DOT PUNCTUATION", "FOUR DOT MARK",
     "DOTTED CROSS", "TRICOLON", "VERTICAL FOUR DOTS", "MEDIUM MATHEMATICAL SPACE", "WORD JOINER",
     "FUNCTION APPLICATION", "INVISIBLE TIMES", "INVISIBLE SEPARATOR", "INVISIBLE PLUS"]⟩,
   ⟨8294,
    ["LEFT-TO-RIGHT ISOLATE", "RIGHT-TO-LEFT ISOLATE", "FIRST STRONG ISOLATE",
     "POP DIRECTIONAL ISOLATE", "INHIBIT SYMMETRIC SWAPPING", "ACTIVATE SYMMETRIC SWAPPING",
     "INHIBIT ARABIC FORM SHAPING", "ACTIVATE ARABIC FORM SHAPING", "NATIONAL DIGIT SHAPES",
     "NOMINAL DIGIT SHAPES"]⟩,
   ⟨8352,
    ["EURO-CURRENCY SIGN", "COLON SIGN", "CRUZEIRO SIGN", "FRENCH FRANC SIGN", "LIRA SIGN",
     "MILL SIGN", "NAIRA SIGN", "PESETA SIGN", "RUPEE SIGN", "WON SIGN", "NEW SHEQEL SIGN",
     "DONG SIGN", "EURO SIGN", "KIP SIGN", "TUGRIK SIGN", "DRACHMA SIGN", "GERMAN PENNY SIGN",
     "PESO SIGN", "GUARANI SIGN", "AUSTRAL SIGN", "HRYVNIA SIGN", "CEDI SIGN",
     "LIVRE TOURNOIS SIGN", "SPESMILO SIGN", "TENGE SIGN", "INDIAN RUPEE SIGN",
     "TURKISH LIRA SIGN", "NORDIC MARK SIGN", "MANAT SIGN", "RUBLE SIGN", "LARI SIGN",
     "BITCOIN SIGN"]⟩,
   ⟨8448,
    ["ACCOUNT OF", "ADDRESSED TO THE SUBJECT", "DOUBLE-STRUCK CAPITAL C", "DEGREE CELSIUS",
     "CENTRE LINE SYMBOL", "CARE OF", "CADA UNA", "EULER CONSTANT", "SCRUPLE",
     "DEGREE FAHRENHEIT", "SCRIPT SMALL G", "SCRIPT CAPITAL H", "BLACK-LETTER CAPITAL H",
     "DOUBLE-STRUCK CAPITAL H", "PLANCK CONSTANT", "PLANCK CONSTANT OVER TWO PI",
     "SCRIPT CAPITAL I", "BLACK-LETTER CAPITAL I", "SCRIPT CAPITAL L", "SCRIPT SMALL L",
     "L B BAR SYMBOL", "DOUBLE-STRUCK CAPITAL N", "NUMERO SIGN", "SOUND RECORDING COPYRIGHT",
     "SCRIPT CAPITAL P", "DOUBLE-STRUCK CAPITAL P", "DOUBLE-STRUCK CAPITAL Q", "SCRIPT CAPITAL R",
     "BLACK-LETTER CAPITAL R", "DOUBLE-STRUCK CAPITAL R", "PRESCRIPTION TAKE", "RESPONSE",
     "SERVICE MARK", "TELEPHONE SIGN", "TRADE MARK SIGN", "VERSICLE", "DOUBLE-STRUCK CAPITAL Z",
     "OUNCE SIGN", "OHM SIGN", "INVERTED OHM SIGN", "BLACK-LETTER CAPITAL Z",
     "TURNED GREEK SMALL LETTER IOTA", "KELVIN SIGN", "ANGSTROM SIGN", "SCRIPT CAPITAL B",
     "BLACK-LETTER CAPITAL C", "ESTIMATED SYMBOL", "SCRIPT SMALL E", "SCRIPT CAPITAL E",
     "SCRIPT CAPITAL F", "TURNED CAPITAL F", "SCRIPT CAPITAL M", "SCRIPT SMALL O", "ALEF SYMBOL",
     "BET SYMBOL", "GIMEL SYMBOL", "DALET SYMBOL", "INFORMATION SOURCE", "ROTATED CAPITAL Q",
     "FACSIMILE SIGN", "DOUBLE-STRUCK SMALL PI", "DOUBLE-STRUCK SMALL GAMMA",
     "DOUBLE-STRUCK CAPITAL GAMMA", "DOUBLE-STRUCK CAPITAL PI", "DOUBLE-STRUCK N-ARY SUMMATION",
     "TURNED SANS-SERIF CAPITAL G", "TURNED SANS-SERIF CAPITAL L",
     "REVERSED SANS-SERIF CAPITAL L", "TURNED SANS-SERIF CAPITAL Y",
     "DOUBLE-STRUCK ITALIC CAPITAL D", "DOUBLE-STRUCK ITALIC SMALL D",
     "DOUBLE-STRUCK ITALIC SMALL E", "DOUBLE-STRUCK ITALIC SMALL I",
     "DOUBLE-STRUCK ITALIC SMALL J", "PROPERTY LINE", "TURNED AMPERSAND", "PER SIGN",
     "AKTIESELSKAB", "TURNED SMALL F", "SYMBOL FOR SAMARITAN SOURCE"]⟩,
   ⟨8544,
    ["ROMAN NUMERAL ONE", "ROMAN NUMERAL TWO", "ROMAN NUMERAL THREE", "ROMAN NUMERAL FOUR",
     "ROMAN NUMERAL FIVE", "ROMAN NUMERAL SIX", "ROMAN NUMERAL SEVEN", "ROMAN NUMERAL EIGHT",
     "ROMAN NUMERAL NINE", "ROMAN NUMERAL TEN", "ROMAN NUMERAL ELEVEN", "ROMAN NUMERAL TWELVE",
     "ROMAN NUMERAL FIFTY", "ROMAN NUMERAL ONE HUNDRED", "ROMAN NUMERAL FIVE HUNDRED",
     "ROMAN NUMERAL ONE THOUSAND", "SMALL ROMAN NUMERAL ONE", "SMALL ROMAN NUMERAL TWO",
     "SMALL ROMAN NUMERAL THREE", "SMALL ROMAN NUMERAL FOUR", "SMALL ROMAN NUMERAL FIVE",
     "SMALL ROMAN NUMERAL SIX", "SMALL ROMAN NUMERAL SEVEN", "SMALL ROMAN NUMERAL EIGHT",
     "SMALL ROMAN NUMERAL NINE", "SMALL ROMAN NUMERAL TEN", "SMALL ROMAN NUMERAL ELEVEN",
     "SMALL ROMAN NUMERAL TWELVE", "SMALL ROMAN NUMERAL FIFTY", "SMALL ROMAN NUMERAL ONE HUNDRED",
     "SMALL ROMAN NUMERAL FIVE HUNDRED", "SMALL ROMAN NUMERAL ONE THOUSAND"]⟩,
   ⟨8592,
    ["LEFTWARDS ARROW", "UPWARDS ARROW", "RIGHTWARDS ARROW", "DOWNWARDS ARROW"]⟩,
   ⟨8704,
    ["FOR ALL", "COMPLEMENT", "PARTIAL DIFFERENTIAL", "THERE EXISTS"]⟩,
   ⟨8709,
    ["EMPTY SET", "INCREMENT", "NABLA", "ELEMENT OF", "NOT AN ELEMENT OF", "SMALL ELEMENT OF",
     "CONTAINS AS MEMBER", "DOES NOT CONTAIN AS MEMBER", "SMALL CONTAINS AS MEMBER",
     "END OF PROOF", "N-ARY PRODUCT", "N-ARY COPRODUCT", "N-ARY SUMMATION", "MINUS SIGN",
     "MINUS-OR-PLUS SIGN", "DOT PLUS", "DIVISION SLASH", "SET MINUS", "ASTERISK OPERATOR",
     "RING OPERATOR", "BULLET OPERATOR", "SQUARE ROOT", "CUBE ROOT", "FOURTH ROOT",
     "PROPORTIONAL TO", "INFINITY"]⟩,
   ⟨8800,
    ["NOT EQUAL TO", "IDENTICAL TO", "NOT IDENTICAL TO", "STRICTLY EQUIVALENT TO",
     "LESS-THAN OR EQUAL TO", "GREATER-THAN OR EQUAL TO"]⟩,
   ⟨9472,
    ["BOX DRAWINGS LIGHT HORIZONTAL", "BOX DRAWINGS HEAVY HORIZONTAL",
     "BOX DRAWINGS LIGHT VERTICAL", "BOX DRAWINGS HEAVY VERTICAL"]⟩,
   ⟨9728,
    ["BLACK SUN WITH RAYS", "CLOUD", "UMBRELLA", "SNOWMAN", "COMET", "BLACK STAR", "WHITE STAR"]⟩,
   ⟨10003,
    ["CHECK MARK", "HEAVY CHECK MARK", "MULTIPLICATION X", "HEAVY MULTIPLICATION X", "BALLOT X"]⟩,
   ⟨10084,
    ["HEAVY BLACK HEART"]⟩,
   ⟨12288,
    ["IDEOGRAPHIC SPACE", "IDEOGRAPHIC COMMA", "IDEOGRAPHIC FULL STOP"]⟩,
   ⟨12353,
    ["HIRAGANA LETTER SMALL A", "HIRAGANA LETTER A", "HIRAGANA LETTER SMALL I",
     "HIRAGANA LETTER I", "HIRAGANA LETTER SMALL U", "HIRAGANA LETTER U",
     "HIRAGANA LETTER SMALL E", "HIRAGANA LETTER E", "HIRAGANA LETTER SMALL O",
     "HIRAGANA LETTER O", "HIRAGANA LETTER KA", "HIRAGANA LETTER GA", "HIRAGANA LETTER KI",
     "HIRAGANA LETTER GI", "HIRAGANA LETTER KU", "HIRAGANA LETTER GU", "HIRAGANA LETTER KE",
     "HIRAGANA LETTER GE", "HIRAGANA LETTER KO", "HIRAGANA LETTER GO", "HIRAGANA LETTER SA",
     "HIRAGANA LETTER ZA", "HIRAGANA LETTER SI", "HIRAGANA LETTER ZI", "HIRAGANA LETTER SU",
     "HIRAGANA LETTER ZU", "HIRAGANA LETTER SE", "HIRAGANA LETTER ZE", "HIRAGANA LETTER SO",
     "HIRAGANA LETTER ZO", "HIRAGANA LETTER TA", "HIRAGANA LETTER DA", "HIRAGANA LETTER TI",
     "HIRAGANA LETTER DI", "HIRAGANA LETTER SMALL TU", "HIRAGANA LETTER TU", "HIRAGANA LETTER DU",
     "HIRAGANA LETTER TE", "HIRAGANA LETTER DE", "HIRAGANA LETTER TO", "HIRAGANA LETTER DO",
     "HIRAGANA LETTER NA", "HIRAGANA LETTER NI", "HIRAGANA LETTER NU", "HIRAGANA LETTER NE",
     "HIRAGANA LETTER NO", "HIRAGANA LETTER HA", "HIRAGANA LETTER BA", "HIRAGANA LETTER PA",
     "HIRAGANA LETTER HI", "HIRAGANA LETTER BI", "HIRAGANA LETTER PI", "HIRAGANA LETTER HU",
     "HIRAGANA LETTER BU", "HIRAGANA LETTER PU", "HIRAGANA LETTER HE", "HIRAGANA LETTER BE",
     "HIRAGANA LETTER PE", "HIRAGANA LETTER HO", "HIRAGANA LETTER BO", "HIRAGANA LETTER PO",
     "HIRAGANA LETTER MA", "HIRAGANA LETTER MI", "HIRAGANA LETTER MU", "HIRAGANA LETTER ME",
     "HIRAGANA LETTER MO", "HIRAGANA LETTER SMALL YA", "HIRAGANA LETTER YA",
     "HIRAGANA LETTER SMALL YU", "HIRAGANA LETTER YU", "HIRAGANA LETTER SMALL YO",
     "HIRAGANA LETTER YO", "HIRAGANA LETTER RA", "HIRAGANA LETTER RI", "HIRAGANA LETTER RU",
     "HIRAGANA LETTER RE", "HIRAGANA LETTER RO", "HIRAGANA LETTER SMALL WA", "HIRAGANA LETTER WA",
     "HIRAGANA LETTER WI", "HIRAGANA LETTER WE", "HIRAGANA LETTER WO", "HIRAGANA LETTER N",
     "HIRAGANA LETTER VU", "HIRAGANA LETTER SMALL KA", "HIRAGANA LETTER SMALL KE"]⟩,
   ⟨12449,
    ["KATAKANA LETTER SMALL A", "KATAKANA LETTER A", "KATAKANA LETTER SMALL I",
     "KATAKANA LETTER I", "KATAKANA LETTER SMALL U", "KATAKANA LETTER U",
     "KATAKANA LETTER SMALL E", "KATAKANA LETTER E", "KATAKANA LETTER SMALL O",
     "KATAKANA LETTER O", "KATAKANA LETTER KA", "KATAKANA LETTER GA", "KATAKANA LETTER KI",
     "KATAKANA LETTER GI", "KATAKANA LETTER KU", "KATAKANA LETTER GU", "KATAKANA LETTER KE",
     "KATAKANA LETTER GE", "KATAKANA LETTER KO", "KATAKANA LETTER GO", "KATAKANA LETTER SA",
     "KATAKANA LETTER ZA", "KATAKANA LETTER SI", "KATAKANA LETTER ZI", "KATAKANA LETTER SU",
     "KATAKANA LETTER ZU", "KATAKANA LETTER SE", "KATAKANA LETTER ZE", "KATAKANA LETTER SO",
     "KATAKANA LETTER ZO", "KATAKANA LETTER TA", "KATAKANA LETTER DA", "KATAKANA LETTER TI",
     "KATAKANA LETTER DI", "KATAKANA LETTER SMALL TU", "KATAKANA LETTER TU", "KATAKANA LETTER DU",
     "KATAKANA LETTER TE", "KATAKANA LETTER DE", "KATAKANA LETTER TO", "KATAKANA LETTER DO",
     "KATAKANA LETTER NA", "KATAKANA LETTER NI", "KATAKANA LETTER NU", "KATAKANA LETTER NE",
     "KATAKANA LETTER NO", "KATAKANA LETTER HA", "KATAKANA LETTER BA", "KATAKANA LETTER PA",
     "KATAKANA LETTER HI", "KATAKANA LETTER BI", "KATAKANA LETTER PI", "KATAKANA LETTER HU",
     "KATAKANA LETTER BU", "KATAKANA LETTER PU", "KATAKANA LETTER HE", "KATAKANA LETTER BE",
     "KATAKANA LETTER PE", "KATAKANA LETTER HO", "KATAKANA LETTER BO", "KATAKANA LETTER PO",
     "KATAKANA LETTER MA", "KATAKANA LETTER MI", "KATAKANA LETTER MU", "KATAKANA LETTER ME",
     "KATAKANA LETTER MO", "KATAKANA LETTER SMALL YA", "KATAKANA LETTER YA",
     "KATAKANA LETTER SMALL YU", "KATAKANA LETTER YU", "KATAKANA LETTER SMALL YO",
     "KATAKANA LETTER YO", "KATAKANA LETTER RA", "KATAKANA LETTER RI", "KATAKANA LETTER RU",
     "KATAKANA LETTER RE", "KATAKANA LETTER RO", "KATAKANA LETTER SMALL WA", "KATAKANA LETTER WA",
     "KATAKANA LETTER WI", "KATAKANA LETTER WE", "KATAKANA LETTER WO", "KATAKANA LETTER N",
     "KATAKANA LETTER VU", "KATAKANA LETTER SMALL KA", "KATAKANA LETTER SMALL KE",
     "KATAKANA LETTER VA", "KATAKANA LETTER VI", "KATAKANA LETTER VE", "KATAKANA LETTER VO"]⟩,
   ⟨64256,
    ["LATIN SMALL LIGATURE FF", "LATIN SMALL LIGATURE FI", "LATIN SMALL LIGATURE FL",
     "LATIN SMALL LIGATURE FFI", "LATIN SMALL LIGATURE FFL", "LATIN SMALL LIGATURE LONG S T",
     "LATIN SMALL LIGATURE ST"]⟩,
   ⟨65279,
    ["ZERO WIDTH NO-BREAK SPACE"]⟩,
   ⟨65296,
    ["FULLWIDTH DIGIT ZERO", "FULLWIDTH DIGIT ONE", "FULLWIDTH DIGIT TWO",
     "FULLWIDTH DIGIT THREE", "FULLWIDTH DIGIT FOUR", "FULLWIDTH DIGIT FIVE",
     "FULLWIDTH DIGIT SIX", "FULLWIDTH DIGIT SEVEN", "FULLWIDTH DIGIT EIGHT",
     "FULLWIDTH DIGIT NINE"]⟩,
   ⟨65313,
    ["FULLWIDTH LATIN CAPITAL LETTER A", "FULLWIDTH LATIN CAPITAL LETTER B",
     "FULLWIDTH LATIN CAPITAL LETTER C", "FULLWIDTH LATIN CAPITAL LETTER D",
     "FULLWIDTH LATIN CAPITAL LETTER E", "FULLWIDTH LATIN CAPITAL LETTER F",
     "FULLWIDTH LATIN CAPITAL LETTER G", "FULLWIDTH LATIN CAPITAL LETTER H",
     "FULLWIDTH LATIN CAPITAL LETTER I", "FULLWIDTH LATIN CAPITAL LETTER J",
     "FULLWIDTH LATIN CAPITAL LETTER K", "FULLWIDTH LATIN CAPITAL LETTER L",
     "FULLWIDTH LATIN CAPITAL LETTER M", "FULLWIDTH LATIN CAPITAL LETTER N",
     "FULLWIDTH LATIN CAPITAL LETTER O", "FULLWIDTH LATIN CAPITAL LETTER P",
     "FULLWIDTH LATIN CAPITAL LETTER Q", "FULLWIDTH LATIN CAPITAL LETTER R",
     "FULLWIDTH LATIN CAPITAL LETTER S", "FULLWIDTH LATIN CAPITAL LETTER T",
     "FULLWIDTH LATIN CAPITAL LETTER U", "FULLWIDTH LATIN CAPITAL LETTER V",
     "FULLWIDTH LATIN CAPITAL LETTER W", "FULLWIDTH LATIN CAPITAL LETTER X",
     "FULLWIDTH LATIN CAPITAL LETTER Y", "FULLWIDTH LATIN CAPITAL LETTER Z"]⟩,
   ⟨65345,
    ["FULLWIDTH LATIN SMALL LETTER A", "FULLWIDTH LATIN SMALL LETTER B",
     "FULLWIDTH LATIN SMALL LETTER C", "FULLWIDTH LATIN SMALL LETTER D",
     "FULLWIDTH LATIN SMALL LETTER E", "FULLWIDTH LATIN SMALL LETTER F",
     "FULLWIDTH LATIN SMALL LETTER G", "FULLWIDTH LATIN SMALL LETTER H",
     "FULLWIDTH LATIN SMALL LETTER I", "FULLWIDTH LATIN SMALL LETTER J",
     "FULLWIDTH LATIN SMALL LETTER K", "FULLWIDTH LATIN SMALL LETTER L",
     "FULLWIDTH LATIN SMALL LETTER M", "FULLWIDTH LATIN SMALL LETTER N",
     "FULLWIDTH LATIN SMALL LETTER O", "FULLWIDTH LATIN SMALL LETTER P",
     "FULLWIDTH LATIN SMALL LETTER Q", "FULLWIDTH LATIN SMALL LETTER R",
     "FULLWIDTH LATIN SMALL LETTER S", "FULLWIDTH LATIN SMALL LETTER T",
     "FULLWIDTH LATIN SMALL LETTER U", "FULLWIDTH LATIN SMALL LETTER V",
     "FULLWIDTH LATIN SMALL LETTER W", "FULLWIDTH LATIN SMALL LETTER X",
     "FULLWIDTH LATIN SMALL LETTER Y", "FULLWIDTH LATIN SMALL LETTER Z"]⟩,
   ⟨65533,
    ["REPLACEMENT CHARACTER"]⟩,
   ⟨66560,
    ["DESERET CAPITAL LETTER LONG I", "DESERET CAPITAL LETTER LONG E",
     "DESERET CAPITAL LETTER LONG A", "DESERET CAPITAL LETTER LONG AH",
     "DESERET CAPITAL LETTER LONG O", "DESERET CAPITAL LETTER LONG OO",
     "DESERET CAPITAL LETTER SHORT I", "DESERET CAPITAL LETTER SHORT E",
     "DESERET CAPITAL LETTER SHORT A", "DESERET CAPITAL LETTER SHORT AH",
     "DESERET CAPITAL LETTER SHORT O", "DESERET CAPITAL LETTER SHORT OO",
     "DESERET CAPITAL LETTER AY", "DESERET CAPITAL LETTER OW", "DESERET CAPITAL LETTER WU",
     "DESERET CAPITAL LETTER YEE", "DESERET CAPITAL LETTER H", "DESERET CAPITAL LETTER PEE",
     "DESERET CAPITAL LETTER BEE", "DESERET CAPITAL LETTER TEE", "DESERET CAPITAL LETTER DEE",
     "DESERET CAPITAL LETTER CHEE", "DESERET CAPITAL LETTER JEE", "DESERET CAPITAL LETTER KAY",
     "DESERET CAPITAL LETTER GAY", "DESERET CAPITAL LETTER EF", "DESERET CAPITAL LETTER VEE",
     "DESERET CAPITAL LETTER ETH", "DESERET CAPITAL LETTER THEE", "DESERET CAPITAL LETTER ES",
     "DESERET CAPITAL LETTER ZEE", "DESERET CAPITAL LETTER ESH", "DESERET CAPITAL LETTER ZHEE",
     "DESERET CAPITAL LETTER ER", "DESERET CAPITAL LETTER EL", "DESERET CAPITAL LETTER EM",
     "DESERET CAPITAL LETTER EN", "DESERET CAPITAL LETTER ENG", "DESERET CAPITAL LETTER OI",
     "DESERET CAPITAL LETTER EW", "DESERET SMALL LETTER LONG I", "DESERET SMALL LETTER LONG E",
     "DESERET SMALL LETTER LONG A", "DESERET SMALL LETTER LONG AH", "DESERET SMALL LETTER LONG O",
     "DESERET SMALL LETTER LONG OO", "DESERET SMALL LETTER SHORT I",
     "DESERET SMALL LETTER SHORT E", "DESERET SMALL LETTER SHORT A",
     "DESERET SMALL LETTER SHORT AH", "DESERET SMALL LETTER SHORT O",
     "DESERET SMALL LETTER SHORT OO", "DESERET SMALL LETTER AY", "DESERET SMALL LETTER OW",
     "DESERET SMALL LETTER WU", "DESERET SMALL LETTER YEE", "DESERET SMALL LETTER H",
     "DESERET SMALL LETTER PEE", "DESERET SMALL LETTER BEE", "DESERET SMALL LETTER TEE",
     "DESERET SMALL LETTER DEE", "DESERET SMALL LETTER CHEE", "DESERET SMALL LETTER JEE",
     "DESERET SMALL LETTER KAY", "DESERET SMALL LETTER GAY", "DESERET SMALL LETTER EF",
     "DESERET SMALL LETTER VEE", "DESERET SMALL LETTER ETH", "DESERET SMALL LETTER THEE",
     "DESERET SMALL LETTER ES", "DESERET SMALL LETTER ZEE", "DESERET SMALL LETTER ESH",
     "DESERET SMALL LETTER ZHEE", "DESERET SMALL LETTER ER", "DESERET SMALL LETTER EL",
     "DESERET SMALL LETTER EM", "DESERET SMALL LETTER EN", "DESERET SMALL LETTER ENG",
     "DESERET SMALL LETTER OI", "DESERET SMALL LETTER EW"]⟩,
   ⟨128169,
    ["PILE OF POO"]⟩,
   ⟨128512,
    ["GRINNING FACE", "GRINNING FACE WITH SMILING EYES", "FACE WITH TEARS OF JOY",
     "SMILING FACE WITH OPEN MOUTH", "SMILING FACE WITH OPEN MOUTH AND SMILING EYES",
     "SMILING FACE WITH OPEN MOUTH AND COLD SWEAT",
     "SMILING FACE WITH OPEN MOUTH AND TIGHTLY-CLOSED EYES", "SMILING FACE WITH HALO",
     "SMILING FACE WITH HORNS", "WINKING FACE", "SMILING FACE WITH SMILING EYES",
     "FACE SAVOURING DELICIOUS FOOD", "RELIEVED FACE", "SMILING FACE WITH HEART-SHAPED EYES",
     "SMILING FACE WITH SUNGLASSES", "SMIRKING FACE", "NEUTRAL FACE", "EXPRESSIONLESS FACE",
     "UNAMUSED FACE", "FACE WITH COLD SWEAT", "PENSIVE FACE", "CONFUSED FACE", "CONFOUNDED FACE",
     "KISSING FACE", "FACE THROWING A KISS", "KISSING FACE WITH SMILING EYES",
     "KISSING FACE WITH CLOSED EYES", "FACE WITH STUCK-OUT TONGUE",
     "FACE WITH STUCK-OUT TONGUE AND WINKING EYE",
     "FACE WITH STUCK-OUT TONGUE AND TIGHTLY-CLOSED EYES", "DISAPPOINTED FACE", "WORRIED FACE",
     "ANGRY FACE", "POUTING FACE", "CRYING FACE", "PERSEVERING FACE", "FACE WITH LOOK OF TRIUMPH",
     "DISAPPOINTED BUT RELIEVED FACE", "FROWNING FACE WITH OPEN MOUTH", "ANGUISHED FACE",
     "FEARFUL FACE", "WEARY FACE", "SLEEPY FACE", "TIRED FACE", "GRIMACING FACE",
     "LOUDLY CRYING FACE", "FACE WITH OPEN MOUTH", "HUSHED FACE",
     "FACE WITH OPEN MOUTH AND COLD SWEAT", "FACE SCREAMING IN FEAR", "ASTONISHED FACE",
     "FLUSHED FACE", "SLEEPING FACE", "DIZZY FACE", "FACE WITHOUT MOUTH",
     "FACE WITH MEDICAL MASK", "GRINNING CAT FACE WITH SMILING EYES",
     "CAT FACE WITH TEARS OF JOY", "SMILING CAT FACE WITH OPEN MOUTH",
     "SMILING CAT FACE WITH HEART-SHAPED EYES", "CAT FACE WITH WRY SMILE",
     "KISSING CAT FACE WITH CLOSED EYES", "POUTING CAT FACE", "CRYING CAT FACE", "WEARY CAT FACE",
     "SLIGHTLY FROWNING FACE", "SLIGHTLY SMILING FACE", "UPSIDE-DOWN FACE",
     "FACE WITH ROLLING EYES", "FACE WITH NO GOOD GESTURE", "FACE WITH OK GESTURE",
     "PERSON BOWING DEEPLY", "SEE-NO-EVIL MONKEY", "HEAR-NO-EVIL MONKEY", "SPEAK-NO-EVIL MONKEY",
     "HAPPY PERSON RAISING ONE HAND", "PERSON RAISING BOTH HANDS IN CELEBRATION",
     "PERSON FROWNING", "PERSON WITH POUTING FACE", "PERSON WITH FOLDED HANDS"]⟩]

/-- Other names of code points, most of them controls. -/
def aliases : List (String × Nat) :=
  [("START OF HEADING", 1), ("SOH", 1), ("START OF TEXT", 2), ("STX", 2), ("END OF TEXT", 3),
   ("ETX", 3), ("END OF TRANSMISSION", 4), ("EOT", 4), ("ENQUIRY", 5), ("ENQ", 5),
   ("ACKNOWLEDGE", 6), ("ACK", 6), ("ALERT", 7), ("BEL", 7), ("BACKSPACE", 8), ("BS", 8),
   ("CHARACTER TABULATION", 9), ("HORIZONTAL TABULATION", 9), ("HT", 9), ("TAB", 9),
   ("LINE FEED", 10), ("NEW LINE", 10), ("END OF LINE", 10), ("LF", 10), ("NL", 10), ("EOL", 10),
   ("LINE TABULATION", 11), ("VERTICAL TABULATION", 11), ("VT", 11), ("FORM FEED", 12),
   ("FF", 12), ("CARRIAGE RETURN", 13), ("CR", 13), ("SHIFT OUT", 14), ("LOCKING-SHIFT ONE", 14),
   ("SO", 14), ("SHIFT IN", 15), ("LOCKING-SHIFT ZERO", 15), ("SI", 15), ("DATA LINK ESCAPE", 16),
   ("DLE", 16), ("DEVICE CONTROL ONE", 17), ("DC1", 17), ("DEVICE CONTROL TWO", 18), ("DC2", 18),
   ("DEVICE CONTROL THREE", 19), ("DC3", 19), ("DEVICE CONTROL FOUR", 20), ("DC4", 20),
   ("NEGATIVE ACKNOWLEDGE", 21), ("NAK", 21), ("SYNCHRONOUS IDLE", 22), ("SYN", 22),
   ("END OF TRANSMISSION BLOCK", 23), ("ETB", 23), ("CANCEL", 24), ("CAN", 24),
   ("END OF MEDIUM", 25), ("EOM", 25), ("SUBSTITUTE", 26), ("SUB", 26), ("ESCAPE", 27),
   ("ESC", 27), ("INFORMATION SEPARATOR FOUR", 28), ("FILE SEPARATOR", 28), ("FS", 28),
   ("INFORMATION SEPARATOR THREE", 29), ("GROUP SEPARATOR", 29), ("GS", 29),
   ("INFORMATION SEPARATOR TWO", 30), ("RECORD SEPARATOR", 30), ("RS", 30),
   ("INFORMATION SEPARATOR ONE", 31), ("UNIT SEPARATOR", 31), ("US", 31), ("SP", 32),
   ("DELETE", 127), ("DEL", 127), ("NEXT LINE", 133), ("NEL", 133), ("NBSP", 160), ("SHY", 173),
   ("ZWSP", 8203), ("ZWNJ", 8204), ("ZWJ", 8205), ("LRM", 8206), ("RLM", 8207), ("LRE", 8234),
   ("RLE", 8235), ("PDF", 8236), ("LRO", 8237), ("RLO", 8238), ("NNBSP", 8239), ("WJ", 8288),
   ("BYTE ORDER MARK", 65279), ("BOM", 65279), ("ZWNBSP", 65279),
   ("LATIN CAPITAL LETTER GHA", 418), ("LATIN SMALL LETTER GHA", 419), ("NULL", 0),
   ("PADDING CHARACTER", 128), ("PAD", 128), ("HIGH OCTET PRESET", 129), ("HOP", 129),
   ("BREAK PERMITTED HERE", 130), ("BPH", 130), ("NO BREAK HERE", 131), ("NBH", 131),
   ("INDEX", 132), ("IND", 132), ("START OF SELECTED AREA", 134), ("SSA", 134),
   ("END OF SELECTED AREA", 135), ("ESA", 135), ("CHARACTER TABULATION SET", 136),
   ("HORIZONTAL TABULATION SET", 136), ("HTS", 136),
   ("CHARACTER TABULATION WITH JUSTIFICATION", 137), ("HTJ", 137), ("LINE TABULATION SET", 138),
   ("VTS", 138), ("PARTIAL LINE FORWARD", 139), ("PLD", 139), ("PARTIAL LINE BACKWARD", 140),
   ("PLU", 140), ("REVERSE LINE FEED", 141), ("RI", 141), ("SINGLE SHIFT TWO", 142), ("SS2", 142),
   ("SINGLE SHIFT THREE", 143), ("SS3", 143), ("DEVICE CONTROL STRING", 144), ("DCS", 144),
   ("PRIVATE USE ONE", 145), ("PU1", 145), ("PRIVATE USE TWO", 146), ("PU2", 146),
   ("SET TRANSMIT STATE", 147), ("STS", 147), ("CANCEL CHARACTER", 148), ("CCH", 148),
   ("MESSAGE WAITING", 149), ("MW", 149), ("START OF GUARDED AREA", 150),
   ("START OF PROTECTED AREA", 150), ("SPA", 150), ("END OF GUARDED AREA", 151),
   ("END OF PROTECTED AREA", 151), ("EPA", 151), ("START OF STRING", 152), ("SOS", 152),
   ("SINGLE GRAPHIC CHARACTER INTRODUCER", 153), ("SGC", 153),
   ("SINGLE CHARACTER INTRODUCER", 154), ("SCI", 154), ("CONTROL SEQUENCE INTRODUCER", 155),
   ("CSI", 155), ("STRING TERMINATOR", 156), ("ST", 156), ("OPERATING SYSTEM COMMAND", 157),
   ("OSC", 157), ("PRIVACY MESSAGE", 158), ("PM", 158), ("APPLICATION PROGRAM COMMAND", 159),
   ("APC", 159), ("CGJ", 847), ("LRI", 8294), ("RLI", 8295), ("FSI", 8296), ("PDI", 8297),
   ("MMSP", 8287), ("WEIERSTRASS ELLIPTIC FUNCTION", 8472)]

/-- The code point of a name within a run. -/
def NameRun.code? (run : NameRun) (name : String) : Option Nat :=
  (run.names.findIdx? (· == name)).map (run.first + ·)

/-- The code point that a name denotes. Capitals and small letters are alike in names. -/
def codeOfName? (name : String) : Option Nat :=
  let name := name.toUpper
  (nameRuns.findSome? (·.code? name)).or (aliases.lookup name)

end ScriptBridge.Text
