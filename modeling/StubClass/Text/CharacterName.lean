set_option autoImplicit false
set_option maxRecDepth 4096

/-! # Names of characters

The names that Unicode gives to characters. Ideographs are named by their code points and syllables
of Hangul by their parts; of the other names, those of the more common characters are listed. -/

namespace StubClass.Text

/-! ## Listed names -/

/-- Names of characters that follow one another, from a first code point on, with strokes between
them. -/
def listedNames : List (Nat × String) :=
  [
    (0x0020,
      "SPACE|EXCLAMATION MARK|QUOTATION MARK|NUMBER SIGN|DOLLAR SIGN|PERCENT SIGN|AMPERSAND|"
      ++ "APOSTROPHE|LEFT PARENTHESIS|RIGHT PARENTHESIS|ASTERISK|PLUS SIGN|COMMA|HYPHEN-MINUS|"
      ++ "FULL STOP|SOLIDUS|DIGIT ZERO|DIGIT ONE|DIGIT TWO|DIGIT THREE|DIGIT FOUR|DIGIT FIVE|"
      ++ "DIGIT SIX|DIGIT SEVEN|DIGIT EIGHT|DIGIT NINE|COLON|SEMICOLON|LESS-THAN SIGN|EQUALS "
      ++ "SIGN|GREATER-THAN SIGN|QUESTION MARK|COMMERCIAL AT|LATIN CAPITAL LETTER A|LATIN "
      ++ "CAPITAL LETTER B|LATIN CAPITAL LETTER C|LATIN CAPITAL LETTER D|LATIN CAPITAL LETTER E|"
      ++ "LATIN CAPITAL LETTER F|LATIN CAPITAL LETTER G|LATIN CAPITAL LETTER H|LATIN CAPITAL "
      ++ "LETTER I|LATIN CAPITAL LETTER J|LATIN CAPITAL LETTER K|LATIN CAPITAL LETTER L|LATIN "
      ++ "CAPITAL LETTER M|LATIN CAPITAL LETTER N|LATIN CAPITAL LETTER O|LATIN CAPITAL LETTER P|"
      ++ "LATIN CAPITAL LETTER Q|LATIN CAPITAL LETTER R|LATIN CAPITAL LETTER S|LATIN CAPITAL "
      ++ "LETTER T|LATIN CAPITAL LETTER U|LATIN CAPITAL LETTER V|LATIN CAPITAL LETTER W|LATIN "
      ++ "CAPITAL LETTER X|LATIN CAPITAL LETTER Y|LATIN CAPITAL LETTER Z|LEFT SQUARE BRACKET|"
      ++ "REVERSE SOLIDUS|RIGHT SQUARE BRACKET|CIRCUMFLEX ACCENT|LOW LINE|GRAVE ACCENT|LATIN "
      ++ "SMALL LETTER A|LATIN SMALL LETTER B|LATIN SMALL LETTER C|LATIN SMALL LETTER D|LATIN "
      ++ "SMALL LETTER E|LATIN SMALL LETTER F|LATIN SMALL LETTER G|LATIN SMALL LETTER H|LATIN "
      ++ "SMALL LETTER I|LATIN SMALL LETTER J|LATIN SMALL LETTER K|LATIN SMALL LETTER L|LATIN "
      ++ "SMALL LETTER M|LATIN SMALL LETTER N|LATIN SMALL LETTER O|LATIN SMALL LETTER P|LATIN "
      ++ "SMALL LETTER Q|LATIN SMALL LETTER R|LATIN SMALL LETTER S|LATIN SMALL LETTER T|LATIN "
      ++ "SMALL LETTER U|LATIN SMALL LETTER V|LATIN SMALL LETTER W|LATIN SMALL LETTER X|LATIN "
      ++ "SMALL LETTER Y|LATIN SMALL LETTER Z|LEFT CURLY BRACKET|VERTICAL LINE|RIGHT CURLY "
      ++ "BRACKET|TILDE"),
    (0x00a0,
      "NO-BREAK SPACE|INVERTED EXCLAMATION MARK|CENT SIGN|POUND SIGN|CURRENCY SIGN|YEN SIGN|"
      ++ "BROKEN BAR|SECTION SIGN|DIAERESIS|COPYRIGHT SIGN|FEMININE ORDINAL INDICATOR|"
      ++ "LEFT-POINTING DOUBLE ANGLE QUOTATION MARK|NOT SIGN|SOFT HYPHEN|REGISTERED SIGN|MACRON|"
      ++ "DEGREE SIGN|PLUS-MINUS SIGN|SUPERSCRIPT TWO|SUPERSCRIPT THREE|ACUTE ACCENT|MICRO SIGN|"
      ++ "PILCROW SIGN|MIDDLE DOT|CEDILLA|SUPERSCRIPT ONE|MASCULINE ORDINAL INDICATOR|"
      ++ "RIGHT-POINTING DOUBLE ANGLE QUOTATION MARK|VULGAR FRACTION ONE QUARTER|VULGAR "
      ++ "FRACTION ONE HALF|VULGAR FRACTION THREE QUARTERS|INVERTED QUESTION MARK|LATIN CAPITAL "
      ++ "LETTER A WITH GRAVE|LATIN CAPITAL LETTER A WITH ACUTE|LATIN CAPITAL LETTER A WITH "
      ++ "CIRCUMFLEX|LATIN CAPITAL LETTER A WITH TILDE|LATIN CAPITAL LETTER A WITH DIAERESIS|"
      ++ "LATIN CAPITAL LETTER A WITH RING ABOVE|LATIN CAPITAL LETTER AE|LATIN CAPITAL LETTER C "
      ++ "WITH CEDILLA|LATIN CAPITAL LETTER E WITH GRAVE|LATIN CAPITAL LETTER E WITH ACUTE|"
      ++ "LATIN CAPITAL LETTER E WITH CIRCUMFLEX|LATIN CAPITAL LETTER E WITH DIAERESIS|LATIN "
      ++ "CAPITAL LETTER I WITH GRAVE|LATIN CAPITAL LETTER I WITH ACUTE|LATIN CAPITAL LETTER I "
      ++ "WITH CIRCUMFLEX|LATIN CAPITAL LETTER I WITH DIAERESIS|LATIN CAPITAL LETTER ETH|LATIN "
      ++ "CAPITAL LETTER N WITH TILDE|LATIN CAPITAL LETTER O WITH GRAVE|LATIN CAPITAL LETTER O "
      ++ "WITH ACUTE|LATIN CAPITAL LETTER O WITH CIRCUMFLEX|LATIN CAPITAL LETTER O WITH TILDE|"
      ++ "LATIN CAPITAL LETTER O WITH DIAERESIS|MULTIPLICATION SIGN|LATIN CAPITAL LETTER O WITH "
      ++ "STROKE|LATIN CAPITAL LETTER U WITH GRAVE|LATIN CAPITAL LETTER U WITH ACUTE|LATIN "
      ++ "CAPITAL LETTER U WITH CIRCUMFLEX|LATIN CAPITAL LETTER U WITH DIAERESIS|LATIN CAPITAL "
      ++ "LETTER Y WITH ACUTE|LATIN CAPITAL LETTER THORN|LATIN SMALL LETTER SHARP S|LATIN SMALL "
      ++ "LETTER A WITH GRAVE|LATIN SMALL LETTER A WITH ACUTE|LATIN SMALL LETTER A WITH "
      ++ "CIRCUMFLEX|LATIN SMALL LETTER A WITH TILDE|LATIN SMALL LETTER A WITH DIAERESIS|LATIN "
      ++ "SMALL LETTER A WITH RING ABOVE|LATIN SMALL LETTER AE|LATIN SMALL LETTER C WITH "
      ++ "CEDILLA|LATIN SMALL LETTER E WITH GRAVE|LATIN SMALL LETTER E WITH ACUTE|LATIN SMALL "
      ++ "LETTER E WITH CIRCUMFLEX|LATIN SMALL LETTER E WITH DIAERESIS|LATIN SMALL LETTER I "
      ++ "WITH GRAVE|LATIN SMALL LETTER I WITH ACUTE|LATIN SMALL LETTER I WITH CIRCUMFLEX|LATIN "
      ++ "SMALL LETTER I WITH DIAERESIS|LATIN SMALL LETTER ETH|LATIN SMALL LETTER N WITH TILDE|"
      ++ "LATIN SMALL LETTER O WITH GRAVE|LATIN SMALL LETTER O WITH ACUTE|LATIN SMALL LETTER O "
      ++ "WITH CIRCUMFLEX|LATIN SMALL LETTER O WITH TILDE|LATIN SMALL LETTER O WITH DIAERESIS|"
      ++ "DIVISION SIGN|LATIN SMALL LETTER O WITH STROKE|LATIN SMALL LETTER U WITH GRAVE|LATIN "
      ++ "SMALL LETTER U WITH ACUTE|LATIN SMALL LETTER U WITH CIRCUMFLEX|LATIN SMALL LETTER U "
      ++ "WITH DIAERESIS|LATIN SMALL LETTER Y WITH ACUTE|LATIN SMALL LETTER THORN|LATIN SMALL "
      ++ "LETTER Y WITH DIAERESIS|LATIN CAPITAL LETTER A WITH MACRON|LATIN SMALL LETTER A WITH "
      ++ "MACRON|LATIN CAPITAL LETTER A WITH BREVE|LATIN SMALL LETTER A WITH BREVE|LATIN "
      ++ "CAPITAL LETTER A WITH OGONEK|LATIN SMALL LETTER A WITH OGONEK|LATIN CAPITAL LETTER C "
      ++ "WITH ACUTE|LATIN SMALL LETTER C WITH ACUTE|LATIN CAPITAL LETTER C WITH CIRCUMFLEX|"
      ++ "LATIN SMALL LETTER C WITH CIRCUMFLEX|LATIN CAPITAL LETTER C WITH DOT ABOVE|LATIN "
      ++ "SMALL LETTER C WITH DOT ABOVE|LATIN CAPITAL LETTER C WITH CARON|LATIN SMALL LETTER C "
      ++ "WITH CARON|LATIN CAPITAL LETTER D WITH CARON|LATIN SMALL LETTER D WITH CARON|LATIN "
      ++ "CAPITAL LETTER D WITH STROKE|LATIN SMALL LETTER D WITH STROKE|LATIN CAPITAL LETTER E "
      ++ "WITH MACRON|LATIN SMALL LETTER E WITH MACRON|LATIN CAPITAL LETTER E WITH BREVE|LATIN "
      ++ "SMALL LETTER E WITH BREVE|LATIN CAPITAL LETTER E WITH DOT ABOVE|LATIN SMALL LETTER E "
      ++ "WITH DOT ABOVE|LATIN CAPITAL LETTER E WITH OGONEK|LATIN SMALL LETTER E WITH OGONEK|"
      ++ "LATIN CAPITAL LETTER E WITH CARON|LATIN SMALL LETTER E WITH CARON|LATIN CAPITAL "
      ++ "LETTER G WITH CIRCUMFLEX|LATIN SMALL LETTER G WITH CIRCUMFLEX|LATIN CAPITAL LETTER G "
      ++ "WITH BREVE|LATIN SMALL LETTER G WITH BREVE|LATIN CAPITAL LETTER G WITH DOT ABOVE|"
      ++ "LATIN SMALL LETTER G WITH DOT ABOVE|LATIN CAPITAL LETTER G WITH CEDILLA|LATIN SMALL "
      ++ "LETTER G WITH CEDILLA|LATIN CAPITAL LETTER H WITH CIRCUMFLEX|LATIN SMALL LETTER H "
      ++ "WITH CIRCUMFLEX|LATIN CAPITAL LETTER H WITH STROKE|LATIN SMALL LETTER H WITH STROKE|"
      ++ "LATIN CAPITAL LETTER I WITH TILDE|LATIN SMALL LETTER I WITH TILDE|LATIN CAPITAL "
      ++ "LETTER I WITH MACRON|LATIN SMALL LETTER I WITH MACRON|LATIN CAPITAL LETTER I WITH "
      ++ "BREVE|LATIN SMALL LETTER I WITH BREVE|LATIN CAPITAL LETTER I WITH OGONEK|LATIN SMALL "
      ++ "LETTER I WITH OGONEK|LATIN CAPITAL LETTER I WITH DOT ABOVE|LATIN SMALL LETTER DOTLESS "
      ++ "I|LATIN CAPITAL LIGATURE IJ|LATIN SMALL LIGATURE IJ|LATIN CAPITAL LETTER J WITH "
      ++ "CIRCUMFLEX|LATIN SMALL LETTER J WITH CIRCUMFLEX|LATIN CAPITAL LETTER K WITH CEDILLA|"
      ++ "LATIN SMALL LETTER K WITH CEDILLA|LATIN SMALL LETTER KRA|LATIN CAPITAL LETTER L WITH "
      ++ "ACUTE|LATIN SMALL LETTER L WITH ACUTE|LATIN CAPITAL LETTER L WITH CEDILLA|LATIN SMALL "
      ++ "LETTER L WITH CEDILLA|LATIN CAPITAL LETTER L WITH CARON|LATIN SMALL LETTER L WITH "
      ++ "CARON|LATIN CAPITAL LETTER L WITH MIDDLE DOT|LATIN SMALL LETTER L WITH MIDDLE DOT|"
      ++ "LATIN CAPITAL LETTER L WITH STROKE|LATIN SMALL LETTER L WITH STROKE|LATIN CAPITAL "
      ++ "LETTER N WITH ACUTE|LATIN SMALL LETTER N WITH ACUTE|LATIN CAPITAL LETTER N WITH "
      ++ "CEDILLA|LATIN SMALL LETTER N WITH CEDILLA|LATIN CAPITAL LETTER N WITH CARON|LATIN "
      ++ "SMALL LETTER N WITH CARON|LATIN SMALL LETTER N PRECEDED BY APOSTROPHE|LATIN CAPITAL "
      ++ "LETTER ENG|LATIN SMALL LETTER ENG|LATIN CAPITAL LETTER O WITH MACRON|LATIN SMALL "
      ++ "LETTER O WITH MACRON|LATIN CAPITAL LETTER O WITH BREVE|LATIN SMALL LETTER O WITH "
      ++ "BREVE|LATIN CAPITAL LETTER O WITH DOUBLE ACUTE|LATIN SMALL LETTER O WITH DOUBLE ACUTE|"
      ++ "LATIN CAPITAL LIGATURE OE|LATIN SMALL LIGATURE OE|LATIN CAPITAL LETTER R WITH ACUTE|"
      ++ "LATIN SMALL LETTER R WITH ACUTE|LATIN CAPITAL LETTER R WITH CEDILLA|LATIN SMALL "
      ++ "LETTER R WITH CEDILLA|LATIN CAPITAL LETTER R WITH CARON|LATIN SMALL LETTER R WITH "
      ++ "CARON|LATIN CAPITAL LETTER S WITH ACUTE|LATIN SMALL LETTER S WITH ACUTE|LATIN CAPITAL "
      ++ "LETTER S WITH CIRCUMFLEX|LATIN SMALL LETTER S WITH CIRCUMFLEX|LATIN CAPITAL LETTER S "
      ++ "WITH CEDILLA|LATIN SMALL LETTER S WITH CEDILLA|LATIN CAPITAL LETTER S WITH CARON|"
      ++ "LATIN SMALL LETTER S WITH CARON|LATIN CAPITAL LETTER T WITH CEDILLA|LATIN SMALL "
      ++ "LETTER T WITH CEDILLA|LATIN CAPITAL LETTER T WITH CARON|LATIN SMALL LETTER T WITH "
      ++ "CARON|LATIN CAPITAL LETTER T WITH STROKE|LATIN SMALL LETTER T WITH STROKE|LATIN "
      ++ "CAPITAL LETTER U WITH TILDE|LATIN SMALL LETTER U WITH TILDE|LATIN CAPITAL LETTER U "
      ++ "WITH MACRON|LATIN SMALL LETTER U WITH MACRON|LATIN CAPITAL LETTER U WITH BREVE|LATIN "
      ++ "SMALL LETTER U WITH BREVE|LATIN CAPITAL LETTER U WITH RING ABOVE|LATIN SMALL LETTER U "
      ++ "WITH RING ABOVE|LATIN CAPITAL LETTER U WITH DOUBLE ACUTE|LATIN SMALL LETTER U WITH "
      ++ "DOUBLE ACUTE|LATIN CAPITAL LETTER U WITH OGONEK|LATIN SMALL LETTER U WITH OGONEK|"
      ++ "LATIN CAPITAL LETTER W WITH CIRCUMFLEX|LATIN SMALL LETTER W WITH CIRCUMFLEX|LATIN "
      ++ "CAPITAL LETTER Y WITH CIRCUMFLEX|LATIN SMALL LETTER Y WITH CIRCUMFLEX|LATIN CAPITAL "
      ++ "LETTER Y WITH DIAERESIS|LATIN CAPITAL LETTER Z WITH ACUTE|LATIN SMALL LETTER Z WITH "
      ++ "ACUTE|LATIN CAPITAL LETTER Z WITH DOT ABOVE|LATIN SMALL LETTER Z WITH DOT ABOVE|LATIN "
      ++ "CAPITAL LETTER Z WITH CARON|LATIN SMALL LETTER Z WITH CARON|LATIN SMALL LETTER LONG S"),
    (0x0300,
      "COMBINING GRAVE ACCENT|COMBINING ACUTE ACCENT|COMBINING CIRCUMFLEX ACCENT|COMBINING "
      ++ "TILDE|COMBINING MACRON|COMBINING OVERLINE|COMBINING BREVE|COMBINING DOT ABOVE|"
      ++ "COMBINING DIAERESIS|COMBINING HOOK ABOVE|COMBINING RING ABOVE|COMBINING DOUBLE ACUTE "
      ++ "ACCENT|COMBINING CARON|COMBINING VERTICAL LINE ABOVE|COMBINING DOUBLE VERTICAL LINE "
      ++ "ABOVE|COMBINING DOUBLE GRAVE ACCENT|COMBINING CANDRABINDU|COMBINING INVERTED BREVE|"
      ++ "COMBINING TURNED COMMA ABOVE|COMBINING COMMA ABOVE|COMBINING REVERSED COMMA ABOVE|"
      ++ "COMBINING COMMA ABOVE RIGHT|COMBINING GRAVE ACCENT BELOW|COMBINING ACUTE ACCENT BELOW|"
      ++ "COMBINING LEFT TACK BELOW|COMBINING RIGHT TACK BELOW|COMBINING LEFT ANGLE ABOVE|"
      ++ "COMBINING HORN|COMBINING LEFT HALF RING BELOW|COMBINING UP TACK BELOW|COMBINING DOWN "
      ++ "TACK BELOW|COMBINING PLUS SIGN BELOW|COMBINING MINUS SIGN BELOW|COMBINING PALATALIZED "
      ++ "HOOK BELOW|COMBINING RETROFLEX HOOK BELOW|COMBINING DOT BELOW|COMBINING DIAERESIS "
      ++ "BELOW|COMBINING RING BELOW|COMBINING COMMA BELOW|COMBINING CEDILLA|COMBINING OGONEK|"
      ++ "COMBINING VERTICAL LINE BELOW|COMBINING BRIDGE BELOW|COMBINING INVERTED DOUBLE ARCH "
      ++ "BELOW|COMBINING CARON BELOW|COMBINING CIRCUMFLEX ACCENT BELOW|COMBINING BREVE BELOW|"
      ++ "COMBINING INVERTED BREVE BELOW|COMBINING TILDE BELOW|COMBINING MACRON BELOW|COMBINING "
      ++ "LOW LINE|COMBINING DOUBLE LOW LINE|COMBINING TILDE OVERLAY|COMBINING SHORT STROKE "
      ++ "OVERLAY|COMBINING LONG STROKE OVERLAY|COMBINING SHORT SOLIDUS OVERLAY|COMBINING LONG "
      ++ "SOLIDUS OVERLAY|COMBINING RIGHT HALF RING BELOW|COMBINING INVERTED BRIDGE BELOW|"
      ++ "COMBINING SQUARE BELOW|COMBINING SEAGULL BELOW|COMBINING X ABOVE|COMBINING VERTICAL "
      ++ "TILDE|COMBINING DOUBLE OVERLINE|COMBINING GRAVE TONE MARK|COMBINING ACUTE TONE MARK|"
      ++ "COMBINING GREEK PERISPOMENI|COMBINING GREEK KORONIS|COMBINING GREEK DIALYTIKA TONOS|"
      ++ "COMBINING GREEK YPOGEGRAMMENI|COMBINING BRIDGE ABOVE|COMBINING EQUALS SIGN BELOW|"
      ++ "COMBINING DOUBLE VERTICAL LINE BELOW|COMBINING LEFT ANGLE BELOW|COMBINING NOT TILDE "
      ++ "ABOVE|COMBINING HOMOTHETIC ABOVE|COMBINING ALMOST EQUAL TO ABOVE|COMBINING LEFT RIGHT "
      ++ "ARROW BELOW|COMBINING UPWARDS ARROW BELOW|COMBINING GRAPHEME JOINER|COMBINING RIGHT "
      ++ "ARROWHEAD ABOVE|COMBINING LEFT HALF RING ABOVE|COMBINING FERMATA|COMBINING X BELOW|"
      ++ "COMBINING LEFT ARROWHEAD BELOW|COMBINING RIGHT ARROWHEAD BELOW|COMBINING RIGHT "
      ++ "ARROWHEAD AND UP ARROWHEAD BELOW|COMBINING RIGHT HALF RING ABOVE|COMBINING DOT ABOVE "
      ++ "RIGHT|COMBINING ASTERISK BELOW|COMBINING DOUBLE RING BELOW|COMBINING ZIGZAG ABOVE|"
      ++ "COMBINING DOUBLE BREVE BELOW|COMBINING DOUBLE BREVE|COMBINING DOUBLE MACRON|COMBINING "
      ++ "DOUBLE MACRON BELOW|COMBINING DOUBLE TILDE|COMBINING DOUBLE INVERTED BREVE|COMBINING "
      ++ "DOUBLE RIGHTWARDS ARROW BELOW|COMBINING LATIN SMALL LETTER A|COMBINING LATIN SMALL "
      ++ "LETTER E|COMBINING LATIN SMALL LETTER I|COMBINING LATIN SMALL LETTER O|COMBINING "
      ++ "LATIN SMALL LETTER U|COMBINING LATIN SMALL LETTER C|COMBINING LATIN SMALL LETTER D|"
      ++ "COMBINING LATIN SMALL LETTER H|COMBINING LATIN SMALL LETTER M|COMBINING LATIN SMALL "
      ++ "LETTER R|COMBINING LATIN SMALL LETTER T|COMBINING LATIN SMALL LETTER V|COMBINING "
      ++ "LATIN SMALL LETTER X"),
    (0x0384,
      "GREEK TONOS|GREEK DIALYTIKA TONOS|GREEK CAPITAL LETTER ALPHA WITH TONOS|GREEK ANO "
      ++ "TELEIA|GREEK CAPITAL LETTER EPSILON WITH TONOS|GREEK CAPITAL LETTER ETA WITH TONOS|"
      ++ "GREEK CAPITAL LETTER IOTA WITH TONOS"),
    (0x038c,
      "GREEK CAPITAL LETTER OMICRON WITH TONOS"),
    (0x038e,
      "GREEK CAPITAL LETTER UPSILON WITH TONOS|GREEK CAPITAL LETTER OMEGA WITH TONOS|GREEK "
      ++ "SMALL LETTER IOTA WITH DIALYTIKA AND TONOS|GREEK CAPITAL LETTER ALPHA|GREEK CAPITAL "
      ++ "LETTER BETA|GREEK CAPITAL LETTER GAMMA|GREEK CAPITAL LETTER DELTA|GREEK CAPITAL "
      ++ "LETTER EPSILON|GREEK CAPITAL LETTER ZETA|GREEK CAPITAL LETTER ETA|GREEK CAPITAL "
      ++ "LETTER THETA|GREEK CAPITAL LETTER IOTA|GREEK CAPITAL LETTER KAPPA|GREEK CAPITAL "
      ++ "LETTER LAMDA|GREEK CAPITAL LETTER MU|GREEK CAPITAL LETTER NU|GREEK CAPITAL LETTER XI|"
      ++ "GREEK CAPITAL LETTER OMICRON|GREEK CAPITAL LETTER PI|GREEK CAPITAL LETTER RHO"),
    (0x03a3,
      "GREEK CAPITAL LETTER SIGMA|GREEK CAPITAL LETTER TAU|GREEK CAPITAL LETTER UPSILON|"
      ++ "GREEK CAPITAL LETTER PHI|GREEK CAPITAL LETTER CHI|GREEK CAPITAL LETTER PSI|GREEK "
      ++ "CAPITAL LETTER OMEGA|GREEK CAPITAL LETTER IOTA WITH DIALYTIKA|GREEK CAPITAL LETTER "
      ++ "UPSILON WITH DIALYTIKA|GREEK SMALL LETTER ALPHA WITH TONOS|GREEK SMALL LETTER EPSILON "
      ++ "WITH TONOS|GREEK SMALL LETTER ETA WITH TONOS|GREEK SMALL LETTER IOTA WITH TONOS|GREEK "
      ++ "SMALL LETTER UPSILON WITH DIALYTIKA AND TONOS|GREEK SMALL LETTER ALPHA|GREEK SMALL "
      ++ "LETTER BETA|GREEK SMALL LETTER GAMMA|GREEK SMALL LETTER DELTA|GREEK SMALL LETTER "
      ++ "EPSILON|GREEK SMALL LETTER ZETA|GREEK SMALL LETTER ETA|GREEK SMALL LETTER THETA|GREEK "
      ++ "SMALL LETTER IOTA|GREEK SMALL LETTER KAPPA|GREEK SMALL LETTER LAMDA|GREEK SMALL "
      ++ "LETTER MU|GREEK SMALL LETTER NU|GREEK SMALL LETTER XI|GREEK SMALL LETTER OMICRON|"
      ++ "GREEK SMALL LETTER PI|GREEK SMALL LETTER RHO|GREEK SMALL LETTER FINAL SIGMA|GREEK "
      ++ "SMALL LETTER SIGMA|GREEK SMALL LETTER TAU|GREEK SMALL LETTER UPSILON|GREEK SMALL "
      ++ "LETTER PHI|GREEK SMALL LETTER CHI|GREEK SMALL LETTER PSI|GREEK SMALL LETTER OMEGA|"
      ++ "GREEK SMALL LETTER IOTA WITH DIALYTIKA|GREEK SMALL LETTER UPSILON WITH DIALYTIKA|"
      ++ "GREEK SMALL LETTER OMICRON WITH TONOS|GREEK SMALL LETTER UPSILON WITH TONOS|GREEK "
      ++ "SMALL LETTER OMEGA WITH TONOS"),
    (0x0400,
      "CYRILLIC CAPITAL LETTER IE WITH GRAVE|CYRILLIC CAPITAL LETTER IO|CYRILLIC CAPITAL "
      ++ "LETTER DJE|CYRILLIC CAPITAL LETTER GJE|CYRILLIC CAPITAL LETTER UKRAINIAN IE|CYRILLIC "
      ++ "CAPITAL LETTER DZE|CYRILLIC CAPITAL LETTER BYELORUSSIAN-UKRAINIAN I|CYRILLIC CAPITAL "
      ++ "LETTER YI|CYRILLIC CAPITAL LETTER JE|CYRILLIC CAPITAL LETTER LJE|CYRILLIC CAPITAL "
      ++ "LETTER NJE|CYRILLIC CAPITAL LETTER TSHE|CYRILLIC CAPITAL LETTER KJE|CYRILLIC CAPITAL "
      ++ "LETTER I WITH GRAVE|CYRILLIC CAPITAL LETTER SHORT U|CYRILLIC CAPITAL LETTER DZHE|"
      ++ "CYRILLIC CAPITAL LETTER A|CYRILLIC CAPITAL LETTER BE|CYRILLIC CAPITAL LETTER VE|"
      ++ "CYRILLIC CAPITAL LETTER GHE|CYRILLIC CAPITAL LETTER DE|CYRILLIC CAPITAL LETTER IE|"
      ++ "CYRILLIC CAPITAL LETTER ZHE|CYRILLIC CAPITAL LETTER ZE|CYRILLIC CAPITAL LETTER I|"
      ++ "CYRILLIC CAPITAL LETTER SHORT I|CYRILLIC CAPITAL LETTER KA|CYRILLIC CAPITAL LETTER EL|"
      ++ "CYRILLIC CAPITAL LETTER EM|CYRILLIC CAPITAL LETTER EN|CYRILLIC CAPITAL LETTER O|"
      ++ "CYRILLIC CAPITAL LETTER PE|CYRILLIC CAPITAL LETTER ER|CYRILLIC CAPITAL LETTER ES|"
      ++ "CYRILLIC CAPITAL LETTER TE|CYRILLIC CAPITAL LETTER U|CYRILLIC CAPITAL LETTER EF|"
      ++ "CYRILLIC CAPITAL LETTER HA|CYRILLIC CAPITAL LETTER TSE|CYRILLIC CAPITAL LETTER CHE|"
      ++ "CYRILLIC CAPITAL LETTER SHA|CYRILLIC CAPITAL LETTER SHCHA|CYRILLIC CAPITAL LETTER "
      ++ "HARD SIGN|CYRILLIC CAPITAL LETTER YERU|CYRILLIC CAPITAL LETTER SOFT SIGN|CYRILLIC "
      ++ "CAPITAL LETTER E|CYRILLIC CAPITAL LETTER YU|CYRILLIC CAPITAL LETTER YA|CYRILLIC SMALL "
      ++ "LETTER A|CYRILLIC SMALL LETTER BE|CYRILLIC SMALL LETTER VE|CYRILLIC SMALL LETTER GHE|"
      ++ "CYRILLIC SMALL LETTER DE|CYRILLIC SMALL LETTER IE|CYRILLIC SMALL LETTER ZHE|CYRILLIC "
      ++ "SMALL LETTER ZE|CYRILLIC SMALL LETTER I|CYRILLIC SMALL LETTER SHORT I|CYRILLIC SMALL "
      ++ "LETTER KA|CYRILLIC SMALL LETTER EL|CYRILLIC SMALL LETTER EM|CYRILLIC SMALL LETTER EN|"
      ++ "CYRILLIC SMALL LETTER O|CYRILLIC SMALL LETTER PE|CYRILLIC SMALL LETTER ER|CYRILLIC "
      ++ "SMALL LETTER ES|CYRILLIC SMALL LETTER TE|CYRILLIC SMALL LETTER U|CYRILLIC SMALL "
      ++ "LETTER EF|CYRILLIC SMALL LETTER HA|CYRILLIC SMALL LETTER TSE|CYRILLIC SMALL LETTER "
      ++ "CHE|CYRILLIC SMALL LETTER SHA|CYRILLIC SMALL LETTER SHCHA|CYRILLIC SMALL LETTER HARD "
      ++ "SIGN|CYRILLIC SMALL LETTER YERU|CYRILLIC SMALL LETTER SOFT SIGN|CYRILLIC SMALL LETTER "
      ++ "E|CYRILLIC SMALL LETTER YU|CYRILLIC SMALL LETTER YA|CYRILLIC SMALL LETTER IE WITH "
      ++ "GRAVE|CYRILLIC SMALL LETTER IO|CYRILLIC SMALL LETTER DJE|CYRILLIC SMALL LETTER GJE|"
      ++ "CYRILLIC SMALL LETTER UKRAINIAN IE|CYRILLIC SMALL LETTER DZE|CYRILLIC SMALL LETTER "
      ++ "BYELORUSSIAN-UKRAINIAN I|CYRILLIC SMALL LETTER YI|CYRILLIC SMALL LETTER JE|CYRILLIC "
      ++ "SMALL LETTER LJE|CYRILLIC SMALL LETTER NJE|CYRILLIC SMALL LETTER TSHE|CYRILLIC SMALL "
      ++ "LETTER KJE|CYRILLIC SMALL LETTER I WITH GRAVE|CYRILLIC SMALL LETTER SHORT U|CYRILLIC "
      ++ "SMALL LETTER DZHE"),
    (0x0490,
      "CYRILLIC CAPITAL LETTER GHE WITH UPTURN|CYRILLIC SMALL LETTER GHE WITH UPTURN"),
    (0x05d0,
      "HEBREW LETTER ALEF|HEBREW LETTER BET|HEBREW LETTER GIMEL|HEBREW LETTER DALET|HEBREW "
      ++ "LETTER HE|HEBREW LETTER VAV|HEBREW LETTER ZAYIN|HEBREW LETTER HET|HEBREW LETTER TET|"
      ++ "HEBREW LETTER YOD|HEBREW LETTER FINAL KAF|HEBREW LETTER KAF|HEBREW LETTER LAMED|"
      ++ "HEBREW LETTER FINAL MEM|HEBREW LETTER MEM|HEBREW LETTER FINAL NUN|HEBREW LETTER NUN|"
      ++ "HEBREW LETTER SAMEKH|HEBREW LETTER AYIN|HEBREW LETTER FINAL PE|HEBREW LETTER PE|"
      ++ "HEBREW LETTER FINAL TSADI|HEBREW LETTER TSADI|HEBREW LETTER QOF|HEBREW LETTER RESH|"
      ++ "HEBREW LETTER SHIN|HEBREW LETTER TAV"),
    (0x0621,
      "ARABIC LETTER HAMZA|ARABIC LETTER ALEF WITH MADDA ABOVE|ARABIC LETTER ALEF WITH HAMZA "
      ++ "ABOVE|ARABIC LETTER WAW WITH HAMZA ABOVE|ARABIC LETTER ALEF WITH HAMZA BELOW|ARABIC "
      ++ "LETTER YEH WITH HAMZA ABOVE|ARABIC LETTER ALEF|ARABIC LETTER BEH|ARABIC LETTER TEH "
      ++ "MARBUTA|ARABIC LETTER TEH|ARABIC LETTER THEH|ARABIC LETTER JEEM|ARABIC LETTER HAH|"
      ++ "ARABIC LETTER KHAH|ARABIC LETTER DAL|ARABIC LETTER THAL|ARABIC LETTER REH|ARABIC "
      ++ "LETTER ZAIN|ARABIC LETTER SEEN|ARABIC LETTER SHEEN|ARABIC LETTER SAD|ARABIC LETTER "
      ++ "DAD|ARABIC LETTER TAH|ARABIC LETTER ZAH|ARABIC LETTER AIN|ARABIC LETTER GHAIN|ARABIC "
      ++ "LETTER KEHEH WITH TWO DOTS ABOVE|ARABIC LETTER KEHEH WITH THREE DOTS BELOW|ARABIC "
      ++ "LETTER FARSI YEH WITH INVERTED V|ARABIC LETTER FARSI YEH WITH TWO DOTS ABOVE|ARABIC "
      ++ "LETTER FARSI YEH WITH THREE DOTS ABOVE|ARABIC TATWEEL|ARABIC LETTER FEH|ARABIC LETTER "
      ++ "QAF|ARABIC LETTER KAF|ARABIC LETTER LAM|ARABIC LETTER MEEM|ARABIC LETTER NOON|ARABIC "
      ++ "LETTER HEH|ARABIC LETTER WAW|ARABIC LETTER ALEF MAKSURA|ARABIC LETTER YEH"),
    (0x0660,
      "ARABIC-INDIC DIGIT ZERO|ARABIC-INDIC DIGIT ONE|ARABIC-INDIC DIGIT TWO|ARABIC-INDIC "
      ++ "DIGIT THREE|ARABIC-INDIC DIGIT FOUR|ARABIC-INDIC DIGIT FIVE|ARABIC-INDIC DIGIT SIX|"
      ++ "ARABIC-INDIC DIGIT SEVEN|ARABIC-INDIC DIGIT EIGHT|ARABIC-INDIC DIGIT NINE"),
    (0x1e80,
      "LATIN CAPITAL LETTER W WITH GRAVE|LATIN SMALL LETTER W WITH GRAVE|LATIN CAPITAL "
      ++ "LETTER W WITH ACUTE|LATIN SMALL LETTER W WITH ACUTE|LATIN CAPITAL LETTER W WITH "
      ++ "DIAERESIS|LATIN SMALL LETTER W WITH DIAERESIS"),
    (0x1e9e,
      "LATIN CAPITAL LETTER SHARP S"),
    (0x2000,
      "EN QUAD|EM QUAD|EN SPACE|EM SPACE|THREE-PER-EM SPACE|FOUR-PER-EM SPACE|SIX-PER-EM "
      ++ "SPACE|FIGURE SPACE|PUNCTUATION SPACE|THIN SPACE|HAIR SPACE|ZERO WIDTH SPACE|ZERO "
      ++ "WIDTH NON-JOINER|ZERO WIDTH JOINER|LEFT-TO-RIGHT MARK|RIGHT-TO-LEFT MARK|HYPHEN|"
      ++ "NON-BREAKING HYPHEN|FIGURE DASH|EN DASH|EM DASH|HORIZONTAL BAR|DOUBLE VERTICAL LINE|"
      ++ "DOUBLE LOW LINE|LEFT SINGLE QUOTATION MARK|RIGHT SINGLE QUOTATION MARK|SINGLE LOW-9 "
      ++ "QUOTATION MARK|SINGLE HIGH-REVERSED-9 QUOTATION MARK|LEFT DOUBLE QUOTATION MARK|RIGHT "
      ++ "DOUBLE QUOTATION MARK|DOUBLE LOW-9 QUOTATION MARK|DOUBLE HIGH-REVERSED-9 QUOTATION "
      ++ "MARK|DAGGER|DOUBLE DAGGER|BULLET|TRIANGULAR BULLET|ONE DOT LEADER|TWO DOT LEADER|"
      ++ "HORIZONTAL ELLIPSIS|HYPHENATION POINT"),
    (0x202f,
      "NARROW NO-BREAK SPACE|PER MILLE SIGN|PER TEN THOUSAND SIGN|PRIME|DOUBLE PRIME|TRIPLE "
      ++ "PRIME|REVERSED PRIME|REVERSED DOUBLE PRIME|REVERSED TRIPLE PRIME|CARET|SINGLE "
      ++ "LEFT-POINTING ANGLE QUOTATION MARK|SINGLE RIGHT-POINTING ANGLE QUOTATION MARK|"
      ++ "REFERENCE MARK|DOUBLE EXCLAMATION MARK|INTERROBANG|OVERLINE"),
    (0x2070,
      "SUPERSCRIPT ZERO|SUPERSCRIPT LATIN SMALL LETTER I"),
    (0x2074,
      "SUPERSCRIPT FOUR|SUPERSCRIPT FIVE|SUPERSCRIPT SIX|SUPERSCRIPT SEVEN|SUPERSCRIPT EIGHT|"
      ++ "SUPERSCRIPT NINE|SUPERSCRIPT PLUS SIGN|SUPERSCRIPT MINUS|SUPERSCRIPT EQUALS SIGN|"
      ++ "SUPERSCRIPT LEFT PARENTHESIS|SUPERSCRIPT RIGHT PARENTHESIS|SUPERSCRIPT LATIN SMALL "
      ++ "LETTER N|SUBSCRIPT ZERO|SUBSCRIPT ONE|SUBSCRIPT TWO|SUBSCRIPT THREE|SUBSCRIPT FOUR|"
      ++ "SUBSCRIPT FIVE|SUBSCRIPT SIX|SUBSCRIPT SEVEN|SUBSCRIPT EIGHT|SUBSCRIPT NINE"),
    (0x20a0,
      "EURO-CURRENCY SIGN|COLON SIGN|CRUZEIRO SIGN|FRENCH FRANC SIGN|LIRA SIGN|MILL SIGN|"
      ++ "NAIRA SIGN|PESETA SIGN|RUPEE SIGN|WON SIGN|NEW SHEQEL SIGN|DONG SIGN|EURO SIGN|KIP "
      ++ "SIGN|TUGRIK SIGN|DRACHMA SIGN|GERMAN PENNY SIGN|PESO SIGN|GUARANI SIGN|AUSTRAL SIGN|"
      ++ "HRYVNIA SIGN|CEDI SIGN|LIVRE TOURNOIS SIGN|SPESMILO SIGN|TENGE SIGN|INDIAN RUPEE SIGN|"
      ++ "TURKISH LIRA SIGN|NORDIC MARK SIGN|MANAT SIGN|RUBLE SIGN|LARI SIGN|BITCOIN SIGN|SOM "
      ++ "SIGN"),
    (0x2100,
      "ACCOUNT OF|ADDRESSED TO THE SUBJECT|DOUBLE-STRUCK CAPITAL C|DEGREE CELSIUS|CENTRE "
      ++ "LINE SYMBOL|CARE OF|CADA UNA|EULER CONSTANT|SCRUPLE|DEGREE FAHRENHEIT|SCRIPT SMALL G|"
      ++ "SCRIPT CAPITAL H|BLACK-LETTER CAPITAL H|DOUBLE-STRUCK CAPITAL H|PLANCK CONSTANT|"
      ++ "PLANCK CONSTANT OVER TWO PI|SCRIPT CAPITAL I|BLACK-LETTER CAPITAL I|SCRIPT CAPITAL L|"
      ++ "SCRIPT SMALL L|L B BAR SYMBOL|DOUBLE-STRUCK CAPITAL N|NUMERO SIGN|SOUND RECORDING "
      ++ "COPYRIGHT|SCRIPT CAPITAL P|DOUBLE-STRUCK CAPITAL P|DOUBLE-STRUCK CAPITAL Q|SCRIPT "
      ++ "CAPITAL R|BLACK-LETTER CAPITAL R|DOUBLE-STRUCK CAPITAL R|PRESCRIPTION TAKE|RESPONSE|"
      ++ "SERVICE MARK|TELEPHONE SIGN|TRADE MARK SIGN|VERSICLE|DOUBLE-STRUCK CAPITAL Z|OUNCE "
      ++ "SIGN|OHM SIGN|INVERTED OHM SIGN"),
    (0x2150,
      "VULGAR FRACTION ONE SEVENTH|VULGAR FRACTION ONE NINTH|VULGAR FRACTION ONE TENTH|"
      ++ "VULGAR FRACTION ONE THIRD|VULGAR FRACTION TWO THIRDS|VULGAR FRACTION ONE FIFTH|VULGAR "
      ++ "FRACTION TWO FIFTHS|VULGAR FRACTION THREE FIFTHS|VULGAR FRACTION FOUR FIFTHS|VULGAR "
      ++ "FRACTION ONE SIXTH|VULGAR FRACTION FIVE SIXTHS|VULGAR FRACTION ONE EIGHTH|VULGAR "
      ++ "FRACTION THREE EIGHTHS|VULGAR FRACTION FIVE EIGHTHS|VULGAR FRACTION SEVEN EIGHTHS"),
    (0x2160,
      "ROMAN NUMERAL ONE|ROMAN NUMERAL TWO|ROMAN NUMERAL THREE|ROMAN NUMERAL FOUR|ROMAN "
      ++ "NUMERAL FIVE|ROMAN NUMERAL SIX|ROMAN NUMERAL SEVEN|ROMAN NUMERAL EIGHT|ROMAN NUMERAL "
      ++ "NINE|ROMAN NUMERAL TEN|ROMAN NUMERAL ELEVEN|ROMAN NUMERAL TWELVE"),
    (0x2190,
      "LEFTWARDS ARROW|UPWARDS ARROW|RIGHTWARDS ARROW|DOWNWARDS ARROW|LEFT RIGHT ARROW|UP "
      ++ "DOWN ARROW|NORTH WEST ARROW|NORTH EAST ARROW|SOUTH EAST ARROW|SOUTH WEST ARROW|"
      ++ "LEFTWARDS ARROW WITH STROKE|RIGHTWARDS ARROW WITH STROKE|LEFTWARDS WAVE ARROW|"
      ++ "RIGHTWARDS WAVE ARROW|LEFTWARDS TWO HEADED ARROW|UPWARDS TWO HEADED ARROW|RIGHTWARDS "
      ++ "TWO HEADED ARROW|DOWNWARDS TWO HEADED ARROW|LEFTWARDS ARROW WITH TAIL|RIGHTWARDS "
      ++ "ARROW WITH TAIL|LEFTWARDS ARROW FROM BAR|UPWARDS ARROW FROM BAR|RIGHTWARDS ARROW FROM "
      ++ "BAR|DOWNWARDS ARROW FROM BAR|UP DOWN ARROW WITH BASE|LEFTWARDS ARROW WITH HOOK"),
    (0x21d0,
      "LEFTWARDS DOUBLE ARROW|UPWARDS DOUBLE ARROW|RIGHTWARDS DOUBLE ARROW|DOWNWARDS DOUBLE "
      ++ "ARROW|LEFT RIGHT DOUBLE ARROW|UP DOWN DOUBLE ARROW"),
    (0x2200,
      "FOR ALL|COMPLEMENT|PARTIAL DIFFERENTIAL|THERE EXISTS|THERE DOES NOT EXIST|EMPTY SET|"
      ++ "INCREMENT|NABLA|ELEMENT OF|NOT AN ELEMENT OF|SMALL ELEMENT OF|CONTAINS AS MEMBER|DOES "
      ++ "NOT CONTAIN AS MEMBER|SMALL CONTAINS AS MEMBER|END OF PROOF|N-ARY PRODUCT|N-ARY "
      ++ "COPRODUCT|N-ARY SUMMATION|MINUS SIGN|MINUS-OR-PLUS SIGN|DOT PLUS|DIVISION SLASH|SET "
      ++ "MINUS|ASTERISK OPERATOR|RING OPERATOR|BULLET OPERATOR|SQUARE ROOT|CUBE ROOT|FOURTH "
      ++ "ROOT|PROPORTIONAL TO|INFINITY|RIGHT ANGLE|ANGLE|MEASURED ANGLE|SPHERICAL ANGLE|"
      ++ "DIVIDES|DOES NOT DIVIDE|PARALLEL TO|NOT PARALLEL TO|LOGICAL AND|LOGICAL OR|"
      ++ "INTERSECTION|UNION|INTEGRAL"),
    (0x2243,
      "ASYMPTOTICALLY EQUAL TO|NOT ASYMPTOTICALLY EQUAL TO|APPROXIMATELY EQUAL TO|"
      ++ "APPROXIMATELY BUT NOT ACTUALLY EQUAL TO|NEITHER APPROXIMATELY NOR ACTUALLY EQUAL TO|"
      ++ "ALMOST EQUAL TO|NOT ALMOST EQUAL TO|ALMOST EQUAL OR EQUAL TO|TRIPLE TILDE|ALL EQUAL "
      ++ "TO|EQUIVALENT TO|GEOMETRICALLY EQUIVALENT TO|DIFFERENCE BETWEEN|APPROACHES THE LIMIT|"
      ++ "GEOMETRICALLY EQUAL TO|APPROXIMATELY EQUAL TO OR THE IMAGE OF|IMAGE OF OR "
      ++ "APPROXIMATELY EQUAL TO|COLON EQUALS|EQUALS COLON|RING IN EQUAL TO|RING EQUAL TO|"
      ++ "CORRESPONDS TO|ESTIMATES|EQUIANGULAR TO|STAR EQUALS|DELTA EQUAL TO|EQUAL TO BY "
      ++ "DEFINITION|MEASURED BY|QUESTIONED EQUAL TO|NOT EQUAL TO|IDENTICAL TO|NOT IDENTICAL TO|"
      ++ "STRICTLY EQUIVALENT TO|LESS-THAN OR EQUAL TO|GREATER-THAN OR EQUAL TO|LESS-THAN OVER "
      ++ "EQUAL TO|GREATER-THAN OVER EQUAL TO"),
    (0x22c5,
      "DOT OPERATOR"),
    (0x2318,
      "PLACE OF INTEREST SIGN|TURNED NOT SIGN|WATCH|HOURGLASS"),
    (0x2460,
      "CIRCLED DIGIT ONE|CIRCLED DIGIT TWO|CIRCLED DIGIT THREE|CIRCLED DIGIT FOUR|CIRCLED "
      ++ "DIGIT FIVE|CIRCLED DIGIT SIX|CIRCLED DIGIT SEVEN|CIRCLED DIGIT EIGHT|CIRCLED DIGIT "
      ++ "NINE|CIRCLED NUMBER TEN|CIRCLED NUMBER ELEVEN|CIRCLED NUMBER TWELVE|CIRCLED NUMBER "
      ++ "THIRTEEN|CIRCLED NUMBER FOURTEEN|CIRCLED NUMBER FIFTEEN|CIRCLED NUMBER SIXTEEN|"
      ++ "CIRCLED NUMBER SEVENTEEN|CIRCLED NUMBER EIGHTEEN|CIRCLED NUMBER NINETEEN|CIRCLED "
      ++ "NUMBER TWENTY"),
    (0x2500,
      "BOX DRAWINGS LIGHT HORIZONTAL|BOX DRAWINGS HEAVY HORIZONTAL|BOX DRAWINGS LIGHT "
      ++ "VERTICAL|BOX DRAWINGS HEAVY VERTICAL"),
    (0x25a0,
      "BLACK SQUARE|WHITE SQUARE"),
    (0x25b2,
      "BLACK UP-POINTING TRIANGLE|WHITE UP-POINTING TRIANGLE|BLACK UP-POINTING SMALL "
      ++ "TRIANGLE|WHITE UP-POINTING SMALL TRIANGLE|BLACK RIGHT-POINTING TRIANGLE|WHITE "
      ++ "RIGHT-POINTING TRIANGLE"),
    (0x25bc,
      "BLACK DOWN-POINTING TRIANGLE|WHITE DOWN-POINTING TRIANGLE|BLACK DOWN-POINTING SMALL "
      ++ "TRIANGLE|WHITE DOWN-POINTING SMALL TRIANGLE|BLACK LEFT-POINTING TRIANGLE|WHITE "
      ++ "LEFT-POINTING TRIANGLE"),
    (0x25ca,
      "LOZENGE|WHITE CIRCLE|DOTTED CIRCLE|CIRCLE WITH VERTICAL FILL|BULLSEYE|BLACK CIRCLE"),
    (0x2600,
      "BLACK SUN WITH RAYS|CLOUD|UMBRELLA|SNOWMAN|COMET|BLACK STAR|WHITE STAR"),
    (0x2639,
      "WHITE FROWNING FACE|WHITE SMILING FACE|BLACK SMILING FACE"),
    (0x2660,
      "BLACK SPADE SUIT|WHITE HEART SUIT|WHITE DIAMOND SUIT|BLACK CLUB SUIT|WHITE SPADE SUIT|"
      ++ "BLACK HEART SUIT|BLACK DIAMOND SUIT|WHITE CLUB SUIT|HOT SPRINGS|QUARTER NOTE|EIGHTH "
      ++ "NOTE|BEAMED EIGHTH NOTES|BEAMED SIXTEENTH NOTES|MUSIC FLAT SIGN|MUSIC NATURAL SIGN|"
      ++ "MUSIC SHARP SIGN"),
    (0x2713,
      "CHECK MARK|HEAVY CHECK MARK|MULTIPLICATION X|HEAVY MULTIPLICATION X|BALLOT X|HEAVY "
      ++ "BALLOT X"),
    (0x2764,
      "HEAVY BLACK HEART"),
    (0x3000,
      "IDEOGRAPHIC SPACE|IDEOGRAPHIC COMMA|IDEOGRAPHIC FULL STOP"),
    (0x300c,
      "LEFT CORNER BRACKET|RIGHT CORNER BRACKET|LEFT WHITE CORNER BRACKET|RIGHT WHITE CORNER "
      ++ "BRACKET"),
    (0x3041,
      "HIRAGANA LETTER SMALL A|HIRAGANA LETTER A|HIRAGANA LETTER SMALL I|HIRAGANA LETTER I|"
      ++ "HIRAGANA LETTER SMALL U|HIRAGANA LETTER U|HIRAGANA LETTER SMALL E|HIRAGANA LETTER E|"
      ++ "HIRAGANA LETTER SMALL O|HIRAGANA LETTER O|HIRAGANA LETTER KA|HIRAGANA LETTER GA|"
      ++ "HIRAGANA LETTER KI|HIRAGANA LETTER GI|HIRAGANA LETTER KU|HIRAGANA LETTER GU|HIRAGANA "
      ++ "LETTER KE|HIRAGANA LETTER GE|HIRAGANA LETTER KO|HIRAGANA LETTER GO|HIRAGANA LETTER SA|"
      ++ "HIRAGANA LETTER ZA|HIRAGANA LETTER SI|HIRAGANA LETTER ZI|HIRAGANA LETTER SU|HIRAGANA "
      ++ "LETTER ZU|HIRAGANA LETTER SE|HIRAGANA LETTER ZE|HIRAGANA LETTER SO|HIRAGANA LETTER ZO|"
      ++ "HIRAGANA LETTER TA|HIRAGANA LETTER DA|HIRAGANA LETTER TI|HIRAGANA LETTER DI|HIRAGANA "
      ++ "LETTER SMALL TU|HIRAGANA LETTER TU|HIRAGANA LETTER DU|HIRAGANA LETTER TE|HIRAGANA "
      ++ "LETTER DE|HIRAGANA LETTER TO|HIRAGANA LETTER DO|HIRAGANA LETTER NA|HIRAGANA LETTER NI|"
      ++ "HIRAGANA LETTER NU|HIRAGANA LETTER NE|HIRAGANA LETTER NO|HIRAGANA LETTER HA|HIRAGANA "
      ++ "LETTER BA|HIRAGANA LETTER PA|HIRAGANA LETTER HI|HIRAGANA LETTER BI|HIRAGANA LETTER PI|"
      ++ "HIRAGANA LETTER HU|HIRAGANA LETTER BU|HIRAGANA LETTER PU|HIRAGANA LETTER HE|HIRAGANA "
      ++ "LETTER BE|HIRAGANA LETTER PE|HIRAGANA LETTER HO|HIRAGANA LETTER BO|HIRAGANA LETTER PO|"
      ++ "HIRAGANA LETTER MA|HIRAGANA LETTER MI|HIRAGANA LETTER MU|HIRAGANA LETTER ME|HIRAGANA "
      ++ "LETTER MO|HIRAGANA LETTER SMALL YA|HIRAGANA LETTER YA|HIRAGANA LETTER SMALL YU|"
      ++ "HIRAGANA LETTER YU|HIRAGANA LETTER SMALL YO|HIRAGANA LETTER YO|HIRAGANA LETTER RA|"
      ++ "HIRAGANA LETTER RI|HIRAGANA LETTER RU|HIRAGANA LETTER RE|HIRAGANA LETTER RO|HIRAGANA "
      ++ "LETTER SMALL WA|HIRAGANA LETTER WA|HIRAGANA LETTER WI|HIRAGANA LETTER WE|HIRAGANA "
      ++ "LETTER WO|HIRAGANA LETTER N|HIRAGANA LETTER VU|HIRAGANA LETTER SMALL KA|HIRAGANA "
      ++ "LETTER SMALL KE"),
    (0x30a1,
      "KATAKANA LETTER SMALL A|KATAKANA LETTER A|KATAKANA LETTER SMALL I|KATAKANA LETTER I|"
      ++ "KATAKANA LETTER SMALL U|KATAKANA LETTER U|KATAKANA LETTER SMALL E|KATAKANA LETTER E|"
      ++ "KATAKANA LETTER SMALL O|KATAKANA LETTER O|KATAKANA LETTER KA|KATAKANA LETTER GA|"
      ++ "KATAKANA LETTER KI|KATAKANA LETTER GI|KATAKANA LETTER KU|KATAKANA LETTER GU|KATAKANA "
      ++ "LETTER KE|KATAKANA LETTER GE|KATAKANA LETTER KO|KATAKANA LETTER GO|KATAKANA LETTER SA|"
      ++ "KATAKANA LETTER ZA|KATAKANA LETTER SI|KATAKANA LETTER ZI|KATAKANA LETTER SU|KATAKANA "
      ++ "LETTER ZU|KATAKANA LETTER SE|KATAKANA LETTER ZE|KATAKANA LETTER SO|KATAKANA LETTER ZO|"
      ++ "KATAKANA LETTER TA|KATAKANA LETTER DA|KATAKANA LETTER TI|KATAKANA LETTER DI|KATAKANA "
      ++ "LETTER SMALL TU|KATAKANA LETTER TU|KATAKANA LETTER DU|KATAKANA LETTER TE|KATAKANA "
      ++ "LETTER DE|KATAKANA LETTER TO|KATAKANA LETTER DO|KATAKANA LETTER NA|KATAKANA LETTER NI|"
      ++ "KATAKANA LETTER NU|KATAKANA LETTER NE|KATAKANA LETTER NO|KATAKANA LETTER HA|KATAKANA "
      ++ "LETTER BA|KATAKANA LETTER PA|KATAKANA LETTER HI|KATAKANA LETTER BI|KATAKANA LETTER PI|"
      ++ "KATAKANA LETTER HU|KATAKANA LETTER BU|KATAKANA LETTER PU|KATAKANA LETTER HE|KATAKANA "
      ++ "LETTER BE|KATAKANA LETTER PE|KATAKANA LETTER HO|KATAKANA LETTER BO|KATAKANA LETTER PO|"
      ++ "KATAKANA LETTER MA|KATAKANA LETTER MI|KATAKANA LETTER MU|KATAKANA LETTER ME|KATAKANA "
      ++ "LETTER MO|KATAKANA LETTER SMALL YA|KATAKANA LETTER YA|KATAKANA LETTER SMALL YU|"
      ++ "KATAKANA LETTER YU|KATAKANA LETTER SMALL YO|KATAKANA LETTER YO|KATAKANA LETTER RA|"
      ++ "KATAKANA LETTER RI|KATAKANA LETTER RU|KATAKANA LETTER RE|KATAKANA LETTER RO|KATAKANA "
      ++ "LETTER SMALL WA|KATAKANA LETTER WA|KATAKANA LETTER WI|KATAKANA LETTER WE|KATAKANA "
      ++ "LETTER WO|KATAKANA LETTER N|KATAKANA LETTER VU|KATAKANA LETTER SMALL KA|KATAKANA "
      ++ "LETTER SMALL KE|KATAKANA LETTER VA|KATAKANA LETTER VI|KATAKANA LETTER VE|KATAKANA "
      ++ "LETTER VO|KATAKANA MIDDLE DOT|KATAKANA-HIRAGANA PROLONGED SOUND MARK"),
    (0xfb01,
      "LATIN SMALL LIGATURE FI|LATIN SMALL LIGATURE FL"),
    (0xff01,
      "FULLWIDTH EXCLAMATION MARK|FULLWIDTH QUOTATION MARK|FULLWIDTH NUMBER SIGN|FULLWIDTH "
      ++ "DOLLAR SIGN|FULLWIDTH PERCENT SIGN|FULLWIDTH AMPERSAND|FULLWIDTH APOSTROPHE|FULLWIDTH "
      ++ "LEFT PARENTHESIS|FULLWIDTH RIGHT PARENTHESIS|FULLWIDTH ASTERISK|FULLWIDTH PLUS SIGN|"
      ++ "FULLWIDTH COMMA|FULLWIDTH HYPHEN-MINUS|FULLWIDTH FULL STOP|FULLWIDTH SOLIDUS|"
      ++ "FULLWIDTH DIGIT ZERO|FULLWIDTH DIGIT ONE|FULLWIDTH DIGIT TWO|FULLWIDTH DIGIT THREE|"
      ++ "FULLWIDTH DIGIT FOUR|FULLWIDTH DIGIT FIVE|FULLWIDTH DIGIT SIX|FULLWIDTH DIGIT SEVEN|"
      ++ "FULLWIDTH DIGIT EIGHT|FULLWIDTH DIGIT NINE|FULLWIDTH COLON|FULLWIDTH SEMICOLON|"
      ++ "FULLWIDTH LESS-THAN SIGN|FULLWIDTH EQUALS SIGN|FULLWIDTH GREATER-THAN SIGN|FULLWIDTH "
      ++ "QUESTION MARK|FULLWIDTH COMMERCIAL AT|FULLWIDTH LATIN CAPITAL LETTER A|FULLWIDTH "
      ++ "LATIN CAPITAL LETTER B|FULLWIDTH LATIN CAPITAL LETTER C|FULLWIDTH LATIN CAPITAL "
      ++ "LETTER D|FULLWIDTH LATIN CAPITAL LETTER E|FULLWIDTH LATIN CAPITAL LETTER F|FULLWIDTH "
      ++ "LATIN CAPITAL LETTER G|FULLWIDTH LATIN CAPITAL LETTER H|FULLWIDTH LATIN CAPITAL "
      ++ "LETTER I|FULLWIDTH LATIN CAPITAL LETTER J|FULLWIDTH LATIN CAPITAL LETTER K|FULLWIDTH "
      ++ "LATIN CAPITAL LETTER L|FULLWIDTH LATIN CAPITAL LETTER M|FULLWIDTH LATIN CAPITAL "
      ++ "LETTER N|FULLWIDTH LATIN CAPITAL LETTER O|FULLWIDTH LATIN CAPITAL LETTER P|FULLWIDTH "
      ++ "LATIN CAPITAL LETTER Q|FULLWIDTH LATIN CAPITAL LETTER R|FULLWIDTH LATIN CAPITAL "
      ++ "LETTER S|FULLWIDTH LATIN CAPITAL LETTER T|FULLWIDTH LATIN CAPITAL LETTER U|FULLWIDTH "
      ++ "LATIN CAPITAL LETTER V|FULLWIDTH LATIN CAPITAL LETTER W|FULLWIDTH LATIN CAPITAL "
      ++ "LETTER X|FULLWIDTH LATIN CAPITAL LETTER Y|FULLWIDTH LATIN CAPITAL LETTER Z|FULLWIDTH "
      ++ "LEFT SQUARE BRACKET|FULLWIDTH REVERSE SOLIDUS|FULLWIDTH RIGHT SQUARE BRACKET|"
      ++ "FULLWIDTH CIRCUMFLEX ACCENT|FULLWIDTH LOW LINE|FULLWIDTH GRAVE ACCENT|FULLWIDTH LATIN "
      ++ "SMALL LETTER A|FULLWIDTH LATIN SMALL LETTER B|FULLWIDTH LATIN SMALL LETTER C|"
      ++ "FULLWIDTH LATIN SMALL LETTER D|FULLWIDTH LATIN SMALL LETTER E|FULLWIDTH LATIN SMALL "
      ++ "LETTER F|FULLWIDTH LATIN SMALL LETTER G|FULLWIDTH LATIN SMALL LETTER H|FULLWIDTH "
      ++ "LATIN SMALL LETTER I|FULLWIDTH LATIN SMALL LETTER J|FULLWIDTH LATIN SMALL LETTER K|"
      ++ "FULLWIDTH LATIN SMALL LETTER L|FULLWIDTH LATIN SMALL LETTER M|FULLWIDTH LATIN SMALL "
      ++ "LETTER N|FULLWIDTH LATIN SMALL LETTER O|FULLWIDTH LATIN SMALL LETTER P|FULLWIDTH "
      ++ "LATIN SMALL LETTER Q|FULLWIDTH LATIN SMALL LETTER R|FULLWIDTH LATIN SMALL LETTER S|"
      ++ "FULLWIDTH LATIN SMALL LETTER T|FULLWIDTH LATIN SMALL LETTER U|FULLWIDTH LATIN SMALL "
      ++ "LETTER V|FULLWIDTH LATIN SMALL LETTER W|FULLWIDTH LATIN SMALL LETTER X|FULLWIDTH "
      ++ "LATIN SMALL LETTER Y|FULLWIDTH LATIN SMALL LETTER Z|FULLWIDTH LEFT CURLY BRACKET|"
      ++ "FULLWIDTH VERTICAL LINE|FULLWIDTH RIGHT CURLY BRACKET|FULLWIDTH TILDE"),
    (0xfeff,
      "ZERO WIDTH NO-BREAK SPACE"),
    (0xfffc,
      "OBJECT REPLACEMENT CHARACTER|REPLACEMENT CHARACTER"),
    (0x1d400,
      "MATHEMATICAL BOLD CAPITAL A|MATHEMATICAL BOLD CAPITAL B|MATHEMATICAL BOLD CAPITAL C|"
      ++ "MATHEMATICAL BOLD CAPITAL D|MATHEMATICAL BOLD CAPITAL E|MATHEMATICAL BOLD CAPITAL F|"
      ++ "MATHEMATICAL BOLD CAPITAL G|MATHEMATICAL BOLD CAPITAL H|MATHEMATICAL BOLD CAPITAL I|"
      ++ "MATHEMATICAL BOLD CAPITAL J|MATHEMATICAL BOLD CAPITAL K|MATHEMATICAL BOLD CAPITAL L|"
      ++ "MATHEMATICAL BOLD CAPITAL M|MATHEMATICAL BOLD CAPITAL N|MATHEMATICAL BOLD CAPITAL O|"
      ++ "MATHEMATICAL BOLD CAPITAL P|MATHEMATICAL BOLD CAPITAL Q|MATHEMATICAL BOLD CAPITAL R|"
      ++ "MATHEMATICAL BOLD CAPITAL S|MATHEMATICAL BOLD CAPITAL T|MATHEMATICAL BOLD CAPITAL U|"
      ++ "MATHEMATICAL BOLD CAPITAL V|MATHEMATICAL BOLD CAPITAL W|MATHEMATICAL BOLD CAPITAL X|"
      ++ "MATHEMATICAL BOLD CAPITAL Y|MATHEMATICAL BOLD CAPITAL Z"),
    (0x1f389,
      "PARTY POPPER"),
    (0x1f40d,
      "SNAKE"),
    (0x1f44d,
      "THUMBS UP SIGN"),
    (0x1f4a9,
      "PILE OF POO"),
    (0x1f525,
      "FIRE"),
    (0x1f600,
      "GRINNING FACE|GRINNING FACE WITH SMILING EYES|FACE WITH TEARS OF JOY|SMILING FACE "
      ++ "WITH OPEN MOUTH|SMILING FACE WITH OPEN MOUTH AND SMILING EYES|SMILING FACE WITH OPEN "
      ++ "MOUTH AND COLD SWEAT|SMILING FACE WITH OPEN MOUTH AND TIGHTLY-CLOSED EYES|SMILING "
      ++ "FACE WITH HALO|SMILING FACE WITH HORNS|WINKING FACE|SMILING FACE WITH SMILING EYES|"
      ++ "FACE SAVOURING DELICIOUS FOOD|RELIEVED FACE|SMILING FACE WITH HEART-SHAPED EYES|"
      ++ "SMILING FACE WITH SUNGLASSES|SMIRKING FACE|NEUTRAL FACE|EXPRESSIONLESS FACE|UNAMUSED "
      ++ "FACE|FACE WITH COLD SWEAT|PENSIVE FACE|CONFUSED FACE|CONFOUNDED FACE|KISSING FACE|"
      ++ "FACE THROWING A KISS|KISSING FACE WITH SMILING EYES|KISSING FACE WITH CLOSED EYES|"
      ++ "FACE WITH STUCK-OUT TONGUE|FACE WITH STUCK-OUT TONGUE AND WINKING EYE|FACE WITH "
      ++ "STUCK-OUT TONGUE AND TIGHTLY-CLOSED EYES|DISAPPOINTED FACE|WORRIED FACE|ANGRY FACE|"
      ++ "POUTING FACE|CRYING FACE|PERSEVERING FACE|FACE WITH LOOK OF TRIUMPH|DISAPPOINTED BUT "
      ++ "RELIEVED FACE|FROWNING FACE WITH OPEN MOUTH|ANGUISHED FACE|FEARFUL FACE|WEARY FACE|"
      ++ "SLEEPY FACE|TIRED FACE|GRIMACING FACE|LOUDLY CRYING FACE|FACE WITH OPEN MOUTH|HUSHED "
      ++ "FACE|FACE WITH OPEN MOUTH AND COLD SWEAT|FACE SCREAMING IN FEAR|ASTONISHED FACE|"
      ++ "FLUSHED FACE|SLEEPING FACE|DIZZY FACE|FACE WITHOUT MOUTH|FACE WITH MEDICAL MASK|"
      ++ "GRINNING CAT FACE WITH SMILING EYES|CAT FACE WITH TEARS OF JOY|SMILING CAT FACE WITH "
      ++ "OPEN MOUTH|SMILING CAT FACE WITH HEART-SHAPED EYES|CAT FACE WITH WRY SMILE|KISSING "
      ++ "CAT FACE WITH CLOSED EYES|POUTING CAT FACE|CRYING CAT FACE|WEARY CAT FACE|SLIGHTLY "
      ++ "FROWNING FACE|SLIGHTLY SMILING FACE|UPSIDE-DOWN FACE|FACE WITH ROLLING EYES|FACE WITH "
      ++ "NO GOOD GESTURE|FACE WITH OK GESTURE|PERSON BOWING DEEPLY|SEE-NO-EVIL MONKEY|"
      ++ "HEAR-NO-EVIL MONKEY|SPEAK-NO-EVIL MONKEY|HAPPY PERSON RAISING ONE HAND|PERSON RAISING "
      ++ "BOTH HANDS IN CELEBRATION|PERSON FROWNING|PERSON WITH POUTING FACE|PERSON WITH FOLDED "
      ++ "HANDS"),
    (0x1f680,
      "ROCKET")]

/-! ## Composed names -/

/-- The ranges of ideographs with the first words of their names. -/
def ideographs : List (Nat × Nat × String) :=
  [(0x3400, 0x4dbf, "CJK UNIFIED IDEOGRAPH-"), (0x4e00, 0x9fff, "CJK UNIFIED IDEOGRAPH-"),
    (0x20000, 0x2a6df, "CJK UNIFIED IDEOGRAPH-"),
    (0x2a700, 0x2b738, "CJK UNIFIED IDEOGRAPH-"),
    (0x2b740, 0x2b81d, "CJK UNIFIED IDEOGRAPH-"),
    (0x2b820, 0x2cea1, "CJK UNIFIED IDEOGRAPH-"),
    (0x2ceb0, 0x2ebe0, "CJK UNIFIED IDEOGRAPH-"),
    (0x30000, 0x3134a, "CJK UNIFIED IDEOGRAPH-"),
    (0xf900, 0xfa6d, "CJK COMPATIBILITY IDEOGRAPH-"),
    (0xfa70, 0xfad9, "CJK COMPATIBILITY IDEOGRAPH-"),
    (0x2f800, 0x2fa1d, "CJK COMPATIBILITY IDEOGRAPH-")]

/-- The names of the first parts of syllables. -/
def leadingParts : List String :=
  ["G", "GG", "N", "D", "DD", "R", "M", "B", "BB", "S", "SS", "", "J", "JJ", "C", "K", "T", "P",
    "H"]

/-- The names of the middle parts of syllables. -/
def middleParts : List String :=
  ["A", "AE", "YA", "YAE", "EO", "E", "YEO", "YE", "O", "WA", "WAE", "OE", "YO", "U", "WEO", "WE",
    "WI", "YU", "EU", "YI", "I"]

/-- The names of the last parts of syllables. -/
def trailingParts : List String :=
  ["", "G", "GG", "GS", "N", "NJ", "NH", "D", "L", "LG", "LM", "LB", "LS", "LT", "LP", "LH", "M",
    "B", "BS", "S", "SS", "NG", "J", "C", "K", "T", "P", "H"]

/-- A number in large hexadecimal digits. -/
def largeDigits (n : Nat) : String :=
  String.ofList ((Nat.toDigits 16 n).map Char.toUpper)

/-- The name of a syllable by its number. -/
def syllableName (n : Nat) : String :=
  let part (names : List String) (i : Nat) : String := names.getD i ""
  "HANGUL SYLLABLE " ++ part leadingParts (n / 588) ++ part middleParts (n % 588 / 28)
    ++ part trailingParts (n % 28)

/-! ## Looking up -/

/-- The name of a character, if it is known. -/
def characterName? (c : Char) : Option String :=
  let n := c.toNat
  if 0xac00 ≤ n && n < 0xac00 + 11172 then some (syllableName (n - 0xac00))
  else
    match ideographs.find? fun r => r.1 ≤ n && n ≤ r.2.1 with
    | some (_, _, words) => some (words ++ largeDigits n)
    | none =>
      listedNames.findSome? fun (first, names) =>
        if first ≤ n then (names.splitOn "|")[n - first]? else none

/-- The character of a name, whatever the case of its letters. -/
def characterNamed? (name : String) : Option Char :=
  let name := String.ofList (name.toList.map Char.toUpper)
  let listed := listedNames.findSome? fun (first, names) =>
    ((names.splitOn "|").findIdx? (· == name)).map fun i => Char.ofNat (first + i)
  let composed := (ideographs.findSome? fun (first, last, words) =>
    (List.range (last - first + 1)).findSome? fun i =>
      if words ++ largeDigits (first + i) == name then some (Char.ofNat (first + i)) else none)
  let syllable := (List.range 11172).find? fun i => syllableName i == name
  listed.or ((if name.startsWith "CJK" then composed else none).or
    (if name.startsWith "HANGUL" then syllable.map fun i => Char.ofNat (0xac00 + i) else none))

end StubClass.Text
