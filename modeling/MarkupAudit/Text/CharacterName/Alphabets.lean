/-!
# Names of characters: alphabets

A table of the letters, marks and signs of the alphabets and syllabaries below U+2000. An entry
starts with a small letter, which says how many words of the name before it the name shares: none
for `a`. A code point follows the letter unless it is one more than that of the entry before.
-/

namespace MarkupAudit.CharacterName

/-- The names of the letters, marks and signs of the alphabets and syllabaries below U+2000. -/
def alphabets : String :=
  "a20 SPACE a EXCLAMATION MARK a QUOTATION MARK a NUMBER SIGN a DOLLAR SIGN a PERCENT SIGN a
   AMPERSAND a APOSTROPHE a LEFT PARENTHESIS a RIGHT PARENTHESIS a ASTERISK a PLUS SIGN a COMMA a
   HYPHEN-MINUS a FULL STOP a SOLIDUS a DIGIT ZERO b ONE b TWO b THREE b FOUR b FIVE b SIX b
   SEVEN b EIGHT b NINE a COLON a SEMICOLON a LESS-THAN SIGN a EQUALS SIGN a GREATER-THAN SIGN a
   QUESTION MARK a COMMERCIAL AT a LATIN CAPITAL LETTER A d B d C d D d E d F d G d H d I d J d K
   d L d M d N d O d P d Q d R d S d T d U d V d W d X d Y d Z a LEFT SQUARE BRACKET a REVERSE
   SOLIDUS a RIGHT SQUARE BRACKET a CIRCUMFLEX ACCENT a LOW LINE a GRAVE ACCENT a LATIN SMALL
   LETTER A d B d C d D d E d F d G d H d I d J d K d L d M d N d O d P d Q d R d S d T d U d V d
   W d X d Y d Z a LEFT CURLY BRACKET a VERTICAL LINE a RIGHT CURLY BRACKET a TILDE aA0 NO-BREAK
   SPACE a INVERTED EXCLAMATION MARK a CENT SIGN a POUND SIGN a CURRENCY SIGN a YEN SIGN a BROKEN
   BAR a SECTION SIGN a DIAERESIS a COPYRIGHT SIGN a FEMININE ORDINAL INDICATOR a LEFT-POINTING
   DOUBLE ANGLE QUOTATION MARK a NOT SIGN a SOFT HYPHEN a REGISTERED SIGN a MACRON a DEGREE SIGN
   a PLUS-MINUS SIGN a SUPERSCRIPT TWO b THREE a ACUTE ACCENT a MICRO SIGN a PILCROW SIGN a
   MIDDLE DOT a CEDILLA a SUPERSCRIPT ONE a MASCULINE ORDINAL INDICATOR a RIGHT-POINTING DOUBLE
   ANGLE QUOTATION MARK a VULGAR FRACTION ONE QUARTER d HALF c THREE QUARTERS a INVERTED QUESTION
   MARK a LATIN CAPITAL LETTER A WITH GRAVE f ACUTE f CIRCUMFLEX f TILDE f DIAERESIS f RING ABOVE
   d AE d C WITH CEDILLA d E WITH GRAVE f ACUTE f CIRCUMFLEX f DIAERESIS d I WITH GRAVE f ACUTE f
   CIRCUMFLEX f DIAERESIS d ETH d N WITH TILDE d O WITH GRAVE f ACUTE f CIRCUMFLEX f TILDE f
   DIAERESIS a MULTIPLICATION SIGN a LATIN CAPITAL LETTER O WITH STROKE d U WITH GRAVE f ACUTE f
   CIRCUMFLEX f DIAERESIS d Y WITH ACUTE d THORN b SMALL LETTER SHARP S d A WITH GRAVE f ACUTE f
   CIRCUMFLEX f TILDE f DIAERESIS f RING ABOVE d AE d C WITH CEDILLA d E WITH GRAVE f ACUTE f
   CIRCUMFLEX f DIAERESIS d I WITH GRAVE f ACUTE f CIRCUMFLEX f DIAERESIS d ETH d N WITH TILDE d
   O WITH GRAVE f ACUTE f CIRCUMFLEX f TILDE f DIAERESIS a DIVISION SIGN a LATIN SMALL LETTER O
   WITH STROKE d U WITH GRAVE f ACUTE f CIRCUMFLEX f DIAERESIS d Y WITH ACUTE d THORN d Y WITH
   DIAERESIS b CAPITAL LETTER A WITH MACRON b SMALL LETTER A WITH MACRON b CAPITAL LETTER A WITH
   BREVE b SMALL LETTER A WITH BREVE b CAPITAL LETTER A WITH OGONEK b SMALL LETTER A WITH OGONEK
   b CAPITAL LETTER C WITH ACUTE b SMALL LETTER C WITH ACUTE b CAPITAL LETTER C WITH CIRCUMFLEX b
   SMALL LETTER C WITH CIRCUMFLEX b CAPITAL LETTER C WITH DOT ABOVE b SMALL LETTER C WITH DOT
   ABOVE b CAPITAL LETTER C WITH CARON b SMALL LETTER C WITH CARON b CAPITAL LETTER D WITH CARON
   b SMALL LETTER D WITH CARON b CAPITAL LETTER D WITH STROKE b SMALL LETTER D WITH STROKE b
   CAPITAL LETTER E WITH MACRON b SMALL LETTER E WITH MACRON b CAPITAL LETTER E WITH BREVE b
   SMALL LETTER E WITH BREVE b CAPITAL LETTER E WITH DOT ABOVE b SMALL LETTER E WITH DOT ABOVE b
   CAPITAL LETTER E WITH OGONEK b SMALL LETTER E WITH OGONEK b CAPITAL LETTER E WITH CARON b
   SMALL LETTER E WITH CARON b CAPITAL LETTER G WITH CIRCUMFLEX b SMALL LETTER G WITH CIRCUMFLEX
   b CAPITAL LETTER G WITH BREVE b SMALL LETTER G WITH BREVE b CAPITAL LETTER G WITH DOT ABOVE b
   SMALL LETTER G WITH DOT ABOVE b CAPITAL LETTER G WITH CEDILLA b SMALL LETTER G WITH CEDILLA b
   CAPITAL LETTER H WITH CIRCUMFLEX b SMALL LETTER H WITH CIRCUMFLEX b CAPITAL LETTER H WITH
   STROKE b SMALL LETTER H WITH STROKE b CAPITAL LETTER I WITH TILDE b SMALL LETTER I WITH TILDE
   b CAPITAL LETTER I WITH MACRON b SMALL LETTER I WITH MACRON b CAPITAL LETTER I WITH BREVE b
   SMALL LETTER I WITH BREVE b CAPITAL LETTER I WITH OGONEK b SMALL LETTER I WITH OGONEK b
   CAPITAL LETTER I WITH DOT ABOVE b SMALL LETTER DOTLESS I b CAPITAL LIGATURE IJ b SMALL
   LIGATURE IJ b CAPITAL LETTER J WITH CIRCUMFLEX b SMALL LETTER J WITH CIRCUMFLEX b CAPITAL
   LETTER K WITH CEDILLA b SMALL LETTER K WITH CEDILLA d KRA b CAPITAL LETTER L WITH ACUTE b
   SMALL LETTER L WITH ACUTE b CAPITAL LETTER L WITH CEDILLA b SMALL LETTER L WITH CEDILLA b
   CAPITAL LETTER L WITH CARON b SMALL LETTER L WITH CARON b CAPITAL LETTER L WITH MIDDLE DOT b
   SMALL LETTER L WITH MIDDLE DOT b CAPITAL LETTER L WITH STROKE b SMALL LETTER L WITH STROKE b
   CAPITAL LETTER N WITH ACUTE b SMALL LETTER N WITH ACUTE b CAPITAL LETTER N WITH CEDILLA b
   SMALL LETTER N WITH CEDILLA b CAPITAL LETTER N WITH CARON b SMALL LETTER N WITH CARON e
   PRECEDED BY APOSTROPHE b CAPITAL LETTER ENG b SMALL LETTER ENG b CAPITAL LETTER O WITH MACRON
   b SMALL LETTER O WITH MACRON b CAPITAL LETTER O WITH BREVE b SMALL LETTER O WITH BREVE b
   CAPITAL LETTER O WITH DOUBLE ACUTE b SMALL LETTER O WITH DOUBLE ACUTE b CAPITAL LIGATURE OE b
   SMALL LIGATURE OE b CAPITAL LETTER R WITH ACUTE b SMALL LETTER R WITH ACUTE b CAPITAL LETTER R
   WITH CEDILLA b SMALL LETTER R WITH CEDILLA b CAPITAL LETTER R WITH CARON b SMALL LETTER R WITH
   CARON b CAPITAL LETTER S WITH ACUTE b SMALL LETTER S WITH ACUTE b CAPITAL LETTER S WITH
   CIRCUMFLEX b SMALL LETTER S WITH CIRCUMFLEX b CAPITAL LETTER S WITH CEDILLA b SMALL LETTER S
   WITH CEDILLA b CAPITAL LETTER S WITH CARON b SMALL LETTER S WITH CARON b CAPITAL LETTER T WITH
   CEDILLA b SMALL LETTER T WITH CEDILLA b CAPITAL LETTER T WITH CARON b SMALL LETTER T WITH
   CARON b CAPITAL LETTER T WITH STROKE b SMALL LETTER T WITH STROKE b CAPITAL LETTER U WITH
   TILDE b SMALL LETTER U WITH TILDE b CAPITAL LETTER U WITH MACRON b SMALL LETTER U WITH MACRON
   b CAPITAL LETTER U WITH BREVE b SMALL LETTER U WITH BREVE b CAPITAL LETTER U WITH RING ABOVE b
   SMALL LETTER U WITH RING ABOVE b CAPITAL LETTER U WITH DOUBLE ACUTE b SMALL LETTER U WITH
   DOUBLE ACUTE b CAPITAL LETTER U WITH OGONEK b SMALL LETTER U WITH OGONEK b CAPITAL LETTER W
   WITH CIRCUMFLEX b SMALL LETTER W WITH CIRCUMFLEX b CAPITAL LETTER Y WITH CIRCUMFLEX b SMALL
   LETTER Y WITH CIRCUMFLEX b CAPITAL LETTER Y WITH DIAERESIS d Z WITH ACUTE b SMALL LETTER Z
   WITH ACUTE b CAPITAL LETTER Z WITH DOT ABOVE b SMALL LETTER Z WITH DOT ABOVE b CAPITAL LETTER
   Z WITH CARON b SMALL LETTER Z WITH CARON d LONG S d B WITH STROKE b CAPITAL LETTER B WITH HOOK
   f TOPBAR b SMALL LETTER B WITH TOPBAR b CAPITAL LETTER TONE SIX b SMALL LETTER TONE SIX b
   CAPITAL LETTER OPEN O d C WITH HOOK b SMALL LETTER C WITH HOOK b CAPITAL LETTER AFRICAN D d D
   WITH HOOK f TOPBAR b SMALL LETTER D WITH TOPBAR d TURNED DELTA b CAPITAL LETTER REVERSED E d
   SCHWA d OPEN E d F WITH HOOK b SMALL LETTER F WITH HOOK b CAPITAL LETTER G WITH HOOK d GAMMA b
   SMALL LETTER HV b CAPITAL LETTER IOTA d I WITH STROKE d K WITH HOOK b SMALL LETTER K WITH HOOK
   d L WITH BAR d LAMBDA WITH STROKE b CAPITAL LETTER TURNED M d N WITH LEFT HOOK b SMALL LETTER
   N WITH LONG RIGHT LEG b CAPITAL LETTER O WITH MIDDLE TILDE f HORN b SMALL LETTER O WITH HORN b
   CAPITAL LETTER OI b SMALL LETTER OI b CAPITAL LETTER P WITH HOOK b SMALL LETTER P WITH HOOK b
   LETTER YR b CAPITAL LETTER TONE TWO b SMALL LETTER TONE TWO b CAPITAL LETTER ESH b LETTER
   REVERSED ESH LOOP b SMALL LETTER T WITH PALATAL HOOK b CAPITAL LETTER T WITH HOOK b SMALL
   LETTER T WITH HOOK b CAPITAL LETTER T WITH RETROFLEX HOOK d U WITH HORN b SMALL LETTER U WITH
   HORN b CAPITAL LETTER UPSILON d V WITH HOOK d Y WITH HOOK b SMALL LETTER Y WITH HOOK b CAPITAL
   LETTER Z WITH STROKE b SMALL LETTER Z WITH STROKE b CAPITAL LETTER EZH e REVERSED b SMALL
   LETTER EZH REVERSED e WITH TAIL b LETTER TWO WITH STROKE b CAPITAL LETTER TONE FIVE b SMALL
   LETTER TONE FIVE b LETTER INVERTED GLOTTAL STOP WITH STROKE c WYNN c DENTAL CLICK c LATERAL
   CLICK c ALVEOLAR CLICK c RETROFLEX CLICK b CAPITAL LETTER DZ WITH CARON d D WITH SMALL LETTER
   Z WITH CARON b SMALL LETTER DZ WITH CARON b CAPITAL LETTER LJ d L WITH SMALL LETTER J b SMALL
   LETTER LJ b CAPITAL LETTER NJ d N WITH SMALL LETTER J b SMALL LETTER NJ b CAPITAL LETTER A
   WITH CARON b SMALL LETTER A WITH CARON b CAPITAL LETTER I WITH CARON b SMALL LETTER I WITH
   CARON b CAPITAL LETTER O WITH CARON b SMALL LETTER O WITH CARON b CAPITAL LETTER U WITH CARON
   b SMALL LETTER U WITH CARON b CAPITAL LETTER U WITH DIAERESIS AND MACRON b SMALL LETTER U WITH
   DIAERESIS AND MACRON b CAPITAL LETTER U WITH DIAERESIS AND ACUTE b SMALL LETTER U WITH
   DIAERESIS AND ACUTE b CAPITAL LETTER U WITH DIAERESIS AND CARON b SMALL LETTER U WITH
   DIAERESIS AND CARON b CAPITAL LETTER U WITH DIAERESIS AND GRAVE b SMALL LETTER U WITH
   DIAERESIS AND GRAVE d TURNED E b CAPITAL LETTER A WITH DIAERESIS AND MACRON b SMALL LETTER A
   WITH DIAERESIS AND MACRON b CAPITAL LETTER A WITH DOT ABOVE AND MACRON b SMALL LETTER A WITH
   DOT ABOVE AND MACRON b CAPITAL LETTER AE WITH MACRON b SMALL LETTER AE WITH MACRON b CAPITAL
   LETTER G WITH STROKE b SMALL LETTER G WITH STROKE b CAPITAL LETTER G WITH CARON b SMALL LETTER
   G WITH CARON b CAPITAL LETTER K WITH CARON b SMALL LETTER K WITH CARON b CAPITAL LETTER O WITH
   OGONEK b SMALL LETTER O WITH OGONEK b CAPITAL LETTER O WITH OGONEK AND MACRON b SMALL LETTER O
   WITH OGONEK AND MACRON b CAPITAL LETTER EZH WITH CARON b SMALL LETTER EZH WITH CARON d J WITH
   CARON b CAPITAL LETTER DZ d D WITH SMALL LETTER Z b SMALL LETTER DZ b CAPITAL LETTER G WITH
   ACUTE b SMALL LETTER G WITH ACUTE b CAPITAL LETTER HWAIR d WYNN d N WITH GRAVE b SMALL LETTER
   N WITH GRAVE b CAPITAL LETTER A WITH RING ABOVE AND ACUTE b SMALL LETTER A WITH RING ABOVE AND
   ACUTE b CAPITAL LETTER AE WITH ACUTE b SMALL LETTER AE WITH ACUTE b CAPITAL LETTER O WITH
   STROKE AND ACUTE b SMALL LETTER O WITH STROKE AND ACUTE b CAPITAL LETTER A WITH DOUBLE GRAVE b
   SMALL LETTER A WITH DOUBLE GRAVE b CAPITAL LETTER A WITH INVERTED BREVE b SMALL LETTER A WITH
   INVERTED BREVE b CAPITAL LETTER E WITH DOUBLE GRAVE b SMALL LETTER E WITH DOUBLE GRAVE b
   CAPITAL LETTER E WITH INVERTED BREVE b SMALL LETTER E WITH INVERTED BREVE b CAPITAL LETTER I
   WITH DOUBLE GRAVE b SMALL LETTER I WITH DOUBLE GRAVE b CAPITAL LETTER I WITH INVERTED BREVE b
   SMALL LETTER I WITH INVERTED BREVE b CAPITAL LETTER O WITH DOUBLE GRAVE b SMALL LETTER O WITH
   DOUBLE GRAVE b CAPITAL LETTER O WITH INVERTED BREVE b SMALL LETTER O WITH INVERTED BREVE b
   CAPITAL LETTER R WITH DOUBLE GRAVE b SMALL LETTER R WITH DOUBLE GRAVE b CAPITAL LETTER R WITH
   INVERTED BREVE b SMALL LETTER R WITH INVERTED BREVE b CAPITAL LETTER U WITH DOUBLE GRAVE b
   SMALL LETTER U WITH DOUBLE GRAVE b CAPITAL LETTER U WITH INVERTED BREVE b SMALL LETTER U WITH
   INVERTED BREVE b CAPITAL LETTER S WITH COMMA BELOW b SMALL LETTER S WITH COMMA BELOW b CAPITAL
   LETTER T WITH COMMA BELOW b SMALL LETTER T WITH COMMA BELOW b CAPITAL LETTER YOGH b SMALL
   LETTER YOGH b CAPITAL LETTER H WITH CARON b SMALL LETTER H WITH CARON b CAPITAL LETTER N WITH
   LONG RIGHT LEG b SMALL LETTER D WITH CURL b CAPITAL LETTER OU b SMALL LETTER OU b CAPITAL
   LETTER Z WITH HOOK b SMALL LETTER Z WITH HOOK b CAPITAL LETTER A WITH DOT ABOVE b SMALL LETTER
   A WITH DOT ABOVE b CAPITAL LETTER E WITH CEDILLA b SMALL LETTER E WITH CEDILLA b CAPITAL
   LETTER O WITH DIAERESIS AND MACRON b SMALL LETTER O WITH DIAERESIS AND MACRON b CAPITAL LETTER
   O WITH TILDE AND MACRON b SMALL LETTER O WITH TILDE AND MACRON b CAPITAL LETTER O WITH DOT
   ABOVE b SMALL LETTER O WITH DOT ABOVE b CAPITAL LETTER O WITH DOT ABOVE AND MACRON b SMALL
   LETTER O WITH DOT ABOVE AND MACRON b CAPITAL LETTER Y WITH MACRON b SMALL LETTER Y WITH MACRON
   d L WITH CURL d N WITH CURL d T WITH CURL d DOTLESS J d DB DIGRAPH d QP DIGRAPH b CAPITAL
   LETTER A WITH STROKE d C WITH STROKE b SMALL LETTER C WITH STROKE b CAPITAL LETTER L WITH BAR
   d T WITH DIAGONAL STROKE b SMALL LETTER S WITH SWASH TAIL d Z WITH SWASH TAIL b CAPITAL LETTER
   GLOTTAL STOP b SMALL LETTER GLOTTAL STOP b CAPITAL LETTER B WITH STROKE d U BAR d TURNED V d E
   WITH STROKE b SMALL LETTER E WITH STROKE b CAPITAL LETTER J WITH STROKE b SMALL LETTER J WITH
   STROKE b CAPITAL LETTER SMALL Q WITH HOOK TAIL b SMALL LETTER Q WITH HOOK TAIL b CAPITAL
   LETTER R WITH STROKE b SMALL LETTER R WITH STROKE b CAPITAL LETTER Y WITH STROKE b SMALL
   LETTER Y WITH STROKE d TURNED A d ALPHA d TURNED ALPHA d B WITH HOOK d OPEN O d C WITH CURL d
   D WITH TAIL f HOOK d REVERSED E d SCHWA e WITH HOOK d OPEN E d REVERSED OPEN E g WITH HOOK d
   CLOSED REVERSED OPEN E d DOTLESS J WITH STROKE d G WITH HOOK d SCRIPT G b LETTER SMALL CAPITAL
   G b SMALL LETTER GAMMA d RAMS HORN d TURNED H d H WITH HOOK d HENG WITH HOOK d I WITH STROKE d
   IOTA b LETTER SMALL CAPITAL I b SMALL LETTER L WITH MIDDLE TILDE f BELT f RETROFLEX HOOK d
   LEZH d TURNED M f WITH LONG LEG d M WITH HOOK d N WITH LEFT HOOK f RETROFLEX HOOK b LETTER
   SMALL CAPITAL N b SMALL LETTER BARRED O b LETTER SMALL CAPITAL OE b SMALL LETTER CLOSED OMEGA
   d PHI d TURNED R f WITH LONG LEG g HOOK d R WITH LONG LEG f TAIL f FISHHOOK d REVERSED R WITH
   FISHHOOK b LETTER SMALL CAPITAL R e INVERTED R b SMALL LETTER S WITH HOOK d ESH d DOTLESS J
   WITH STROKE AND HOOK d SQUAT REVERSED ESH d ESH WITH CURL d TURNED T d T WITH RETROFLEX HOOK d
   U BAR d UPSILON d V WITH HOOK d TURNED V e W e Y b LETTER SMALL CAPITAL Y b SMALL LETTER Z
   WITH RETROFLEX HOOK f CURL d EZH e WITH CURL b LETTER GLOTTAL STOP c PHARYNGEAL VOICED
   FRICATIVE c INVERTED GLOTTAL STOP c STRETCHED C c BILABIAL CLICK c SMALL CAPITAL B b SMALL
   LETTER CLOSED OPEN E b LETTER SMALL CAPITAL G WITH HOOK e H b SMALL LETTER J WITH CROSSED-TAIL
   d TURNED K b LETTER SMALL CAPITAL L b SMALL LETTER Q WITH HOOK b LETTER GLOTTAL STOP WITH
   STROKE c REVERSED GLOTTAL STOP WITH STROKE b SMALL LETTER DZ DIGRAPH d DEZH DIGRAPH d DZ
   DIGRAPH WITH CURL d TS DIGRAPH d TESH DIGRAPH d TC DIGRAPH WITH CURL d FENG DIGRAPH d LS
   DIGRAPH d LZ DIGRAPH b LETTER BILABIAL PERCUSSIVE c BIDENTAL PERCUSSIVE b SMALL LETTER TURNED
   H WITH FISHHOOK h AND TAIL a MODIFIER LETTER SMALL H e WITH HOOK d J d R d TURNED R f WITH
   HOOK d CAPITAL INVERTED R d W d Y c PRIME c DOUBLE PRIME c TURNED COMMA c APOSTROPHE c
   REVERSED COMMA c RIGHT HALF RING c LEFT HALF RING c GLOTTAL STOP c REVERSED GLOTTAL STOP c
   LEFT ARROWHEAD c RIGHT ARROWHEAD c UP ARROWHEAD c DOWN ARROWHEAD c CIRCUMFLEX ACCENT a CARON a
   MODIFIER LETTER VERTICAL LINE c MACRON c ACUTE ACCENT c GRAVE ACCENT c LOW VERTICAL LINE d
   MACRON d GRAVE ACCENT d ACUTE ACCENT c TRIANGULAR COLON c HALF TRIANGULAR COLON c CENTRED
   RIGHT HALF RING d LEFT HALF RING c UP TACK c DOWN TACK c PLUS SIGN c MINUS SIGN a BREVE a DOT
   ABOVE a RING ABOVE a OGONEK a SMALL TILDE a DOUBLE ACUTE ACCENT a MODIFIER LETTER RHOTIC HOOK
   c CROSS ACCENT c SMALL GAMMA d L d S d X d REVERSED GLOTTAL STOP c EXTRA-HIGH TONE BAR c HIGH
   TONE BAR c MID TONE BAR c LOW TONE BAR c EXTRA-LOW TONE BAR c YIN DEPARTING TONE MARK c YANG
   DEPARTING TONE MARK c VOICING c UNASPIRATED c DOUBLE APOSTROPHE c LOW DOWN ARROWHEAD d UP
   ARROWHEAD d LEFT ARROWHEAD d RIGHT ARROWHEAD d RING c MIDDLE GRAVE ACCENT d DOUBLE GRAVE
   ACCENT e ACUTE ACCENT c LOW TILDE c RAISED COLON c BEGIN HIGH TONE c END HIGH TONE c BEGIN LOW
   TONE c END LOW TONE c SHELF c OPEN SHELF c LOW LEFT ARROW a COMBINING GRAVE ACCENT b ACUTE
   ACCENT b CIRCUMFLEX ACCENT b TILDE b MACRON b OVERLINE b BREVE b DOT ABOVE b DIAERESIS b HOOK
   ABOVE b RING ABOVE b DOUBLE ACUTE ACCENT b CARON b VERTICAL LINE ABOVE b DOUBLE VERTICAL LINE
   ABOVE c GRAVE ACCENT b CANDRABINDU b INVERTED BREVE b TURNED COMMA ABOVE b COMMA ABOVE b
   REVERSED COMMA ABOVE b COMMA ABOVE RIGHT b GRAVE ACCENT BELOW b ACUTE ACCENT BELOW b LEFT TACK
   BELOW b RIGHT TACK BELOW b LEFT ANGLE ABOVE b HORN b LEFT HALF RING BELOW b UP TACK BELOW b
   DOWN TACK BELOW b PLUS SIGN BELOW b MINUS SIGN BELOW b PALATALIZED HOOK BELOW b RETROFLEX HOOK
   BELOW b DOT BELOW b DIAERESIS BELOW b RING BELOW b COMMA BELOW b CEDILLA b OGONEK b VERTICAL
   LINE BELOW b BRIDGE BELOW b INVERTED DOUBLE ARCH BELOW b CARON BELOW b CIRCUMFLEX ACCENT BELOW
   b BREVE BELOW b INVERTED BREVE BELOW b TILDE BELOW b MACRON BELOW b LOW LINE b DOUBLE LOW LINE
   b TILDE OVERLAY b SHORT STROKE OVERLAY b LONG STROKE OVERLAY b SHORT SOLIDUS OVERLAY b LONG
   SOLIDUS OVERLAY b RIGHT HALF RING BELOW b INVERTED BRIDGE BELOW b SQUARE BELOW b SEAGULL BELOW
   b X ABOVE b VERTICAL TILDE b DOUBLE OVERLINE b GRAVE TONE MARK b ACUTE TONE MARK b GREEK
   PERISPOMENI c KORONIS c DIALYTIKA TONOS c YPOGEGRAMMENI b BRIDGE ABOVE b EQUALS SIGN BELOW b
   DOUBLE VERTICAL LINE BELOW b LEFT ANGLE BELOW b NOT TILDE ABOVE b HOMOTHETIC ABOVE b ALMOST
   EQUAL TO ABOVE b LEFT RIGHT ARROW BELOW b UPWARDS ARROW BELOW b GRAPHEME JOINER b RIGHT
   ARROWHEAD ABOVE b LEFT HALF RING ABOVE b FERMATA b X BELOW b LEFT ARROWHEAD BELOW b RIGHT
   ARROWHEAD BELOW d AND UP ARROWHEAD BELOW c HALF RING ABOVE b DOT ABOVE RIGHT b ASTERISK BELOW
   b DOUBLE RING BELOW b ZIGZAG ABOVE b DOUBLE BREVE BELOW d c MACRON d BELOW c TILDE c INVERTED
   BREVE c RIGHTWARDS ARROW BELOW b LATIN SMALL LETTER A e E e I e O e U e C e D e H e M e R e T
   e V e X a GREEK CAPITAL LETTER HETA b SMALL LETTER HETA b CAPITAL LETTER ARCHAIC SAMPI b SMALL
   LETTER ARCHAIC SAMPI b NUMERAL SIGN b LOWER NUMERAL SIGN b CAPITAL LETTER PAMPHYLIAN DIGAMMA b
   SMALL LETTER PAMPHYLIAN DIGAMMA b37A YPOGEGRAMMENI b SMALL REVERSED LUNATE SIGMA SYMBOL c
   DOTTED LUNATE SIGMA SYMBOL c REVERSED DOTTED LUNATE SIGMA SYMBOL b QUESTION MARK b CAPITAL
   LETTER YOT b384 TONOS b DIALYTIKA TONOS b CAPITAL LETTER ALPHA WITH TONOS b ANO TELEIA b
   CAPITAL LETTER EPSILON WITH TONOS d ETA WITH TONOS d IOTA WITH TONOS d38C OMICRON WITH TONOS
   d38E UPSILON WITH TONOS d OMEGA WITH TONOS b SMALL LETTER IOTA WITH DIALYTIKA AND TONOS b
   CAPITAL LETTER ALPHA d BETA d GAMMA d DELTA d EPSILON d ZETA d ETA d THETA d IOTA d KAPPA d
   LAMDA d MU d NU d XI d OMICRON d PI d RHO d3A3 SIGMA d TAU d UPSILON d PHI d CHI d PSI d OMEGA
   d IOTA WITH DIALYTIKA d UPSILON WITH DIALYTIKA b SMALL LETTER ALPHA WITH TONOS d EPSILON WITH
   TONOS d ETA WITH TONOS d IOTA WITH TONOS d UPSILON WITH DIALYTIKA AND TONOS d ALPHA d BETA d
   GAMMA d DELTA d EPSILON d ZETA d ETA d THETA d IOTA d KAPPA d LAMDA d MU d NU d XI d OMICRON d
   PI d RHO d FINAL SIGMA d SIGMA d TAU d UPSILON d PHI d CHI d PSI d OMEGA d IOTA WITH DIALYTIKA
   d UPSILON WITH DIALYTIKA d OMICRON WITH TONOS d UPSILON WITH TONOS d OMEGA WITH TONOS b
   CAPITAL KAI SYMBOL b BETA SYMBOL b THETA SYMBOL b UPSILON WITH HOOK SYMBOL d ACUTE AND HOOK
   SYMBOL d DIAERESIS AND HOOK SYMBOL b PHI SYMBOL b PI SYMBOL b KAI SYMBOL b LETTER ARCHAIC
   KOPPA b SMALL LETTER ARCHAIC KOPPA b LETTER STIGMA b SMALL LETTER STIGMA b LETTER DIGAMMA b
   SMALL LETTER DIGAMMA b LETTER KOPPA b SMALL LETTER KOPPA b LETTER SAMPI b SMALL LETTER SAMPI a
   COPTIC CAPITAL LETTER SHEI b SMALL LETTER SHEI b CAPITAL LETTER FEI b SMALL LETTER FEI b
   CAPITAL LETTER KHEI b SMALL LETTER KHEI b CAPITAL LETTER HORI b SMALL LETTER HORI b CAPITAL
   LETTER GANGIA b SMALL LETTER GANGIA b CAPITAL LETTER SHIMA b SMALL LETTER SHIMA b CAPITAL
   LETTER DEI b SMALL LETTER DEI a GREEK KAPPA SYMBOL b RHO SYMBOL b LUNATE SIGMA SYMBOL b LETTER
   YOT b CAPITAL THETA SYMBOL b LUNATE EPSILON SYMBOL b REVERSED LUNATE EPSILON SYMBOL b CAPITAL
   LETTER SHO b SMALL LETTER SHO b CAPITAL LUNATE SIGMA SYMBOL c LETTER SAN b SMALL LETTER SAN b
   RHO WITH STROKE SYMBOL b CAPITAL REVERSED LUNATE SIGMA SYMBOL c DOTTED LUNATE SIGMA SYMBOL c
   REVERSED DOTTED LUNATE SIGMA SYMBOL a CYRILLIC CAPITAL LETTER IE WITH GRAVE d IO d DJE d GJE d
   UKRAINIAN IE d DZE d BYELORUSSIAN-UKRAINIAN I d YI d JE d LJE d NJE d TSHE d KJE d I WITH
   GRAVE d SHORT U d DZHE d A d BE d VE d GHE d DE d IE d ZHE d ZE d I d SHORT I d KA d EL d EM d
   EN d O d PE d ER d ES d TE d U d EF d HA d TSE d CHE d SHA d SHCHA d HARD SIGN d YERU d SOFT
   SIGN d E d YU d YA b SMALL LETTER A d BE d VE d GHE d DE d IE d ZHE d ZE d I d SHORT I d KA d
   EL d EM d EN d O d PE d ER d ES d TE d U d EF d HA d TSE d CHE d SHA d SHCHA d HARD SIGN d
   YERU d SOFT SIGN d E d YU d YA d IE WITH GRAVE d IO d DJE d GJE d UKRAINIAN IE d DZE d
   BYELORUSSIAN-UKRAINIAN I d YI d JE d LJE d NJE d TSHE d KJE d I WITH GRAVE d SHORT U d DZHE b
   CAPITAL LETTER OMEGA b SMALL LETTER OMEGA b CAPITAL LETTER YAT b SMALL LETTER YAT b CAPITAL
   LETTER IOTIFIED E b SMALL LETTER IOTIFIED E b CAPITAL LETTER LITTLE YUS b SMALL LETTER LITTLE
   YUS b CAPITAL LETTER IOTIFIED LITTLE YUS b SMALL LETTER IOTIFIED LITTLE YUS b CAPITAL LETTER
   BIG YUS b SMALL LETTER BIG YUS b CAPITAL LETTER IOTIFIED BIG YUS b SMALL LETTER IOTIFIED BIG
   YUS b CAPITAL LETTER KSI b SMALL LETTER KSI b CAPITAL LETTER PSI b SMALL LETTER PSI b CAPITAL
   LETTER FITA b SMALL LETTER FITA b CAPITAL LETTER IZHITSA b SMALL LETTER IZHITSA b CAPITAL
   LETTER IZHITSA WITH DOUBLE GRAVE ACCENT b SMALL LETTER IZHITSA WITH DOUBLE GRAVE ACCENT b
   CAPITAL LETTER UK b SMALL LETTER UK b CAPITAL LETTER ROUND OMEGA b SMALL LETTER ROUND OMEGA b
   CAPITAL LETTER OMEGA WITH TITLO b SMALL LETTER OMEGA WITH TITLO b CAPITAL LETTER OT b SMALL
   LETTER OT b CAPITAL LETTER KOPPA b SMALL LETTER KOPPA b THOUSANDS SIGN a COMBINING CYRILLIC
   TITLO c PALATALIZATION c DASIA PNEUMATA c PSILI PNEUMATA c POKRYTIE c HUNDRED THOUSANDS SIGN c
   MILLIONS SIGN a CYRILLIC CAPITAL LETTER SHORT I WITH TAIL b SMALL LETTER SHORT I WITH TAIL b
   CAPITAL LETTER SEMISOFT SIGN b SMALL LETTER SEMISOFT SIGN b CAPITAL LETTER ER WITH TICK b
   SMALL LETTER ER WITH TICK b CAPITAL LETTER GHE WITH UPTURN b SMALL LETTER GHE WITH UPTURN b
   CAPITAL LETTER GHE WITH STROKE b SMALL LETTER GHE WITH STROKE b CAPITAL LETTER GHE WITH MIDDLE
   HOOK b SMALL LETTER GHE WITH MIDDLE HOOK b CAPITAL LETTER ZHE WITH DESCENDER b SMALL LETTER
   ZHE WITH DESCENDER b CAPITAL LETTER ZE WITH DESCENDER b SMALL LETTER ZE WITH DESCENDER b
   CAPITAL LETTER KA WITH DESCENDER b SMALL LETTER KA WITH DESCENDER b CAPITAL LETTER KA WITH
   VERTICAL STROKE b SMALL LETTER KA WITH VERTICAL STROKE b CAPITAL LETTER KA WITH STROKE b SMALL
   LETTER KA WITH STROKE b CAPITAL LETTER BASHKIR KA b SMALL LETTER BASHKIR KA b CAPITAL LETTER
   EN WITH DESCENDER b SMALL LETTER EN WITH DESCENDER b CAPITAL LIGATURE EN GHE b SMALL LIGATURE
   EN GHE b CAPITAL LETTER PE WITH MIDDLE HOOK b SMALL LETTER PE WITH MIDDLE HOOK b CAPITAL
   LETTER ABKHASIAN HA b SMALL LETTER ABKHASIAN HA b CAPITAL LETTER ES WITH DESCENDER b SMALL
   LETTER ES WITH DESCENDER b CAPITAL LETTER TE WITH DESCENDER b SMALL LETTER TE WITH DESCENDER b
   CAPITAL LETTER STRAIGHT U b SMALL LETTER STRAIGHT U b CAPITAL LETTER STRAIGHT U WITH STROKE b
   SMALL LETTER STRAIGHT U WITH STROKE b CAPITAL LETTER HA WITH DESCENDER b SMALL LETTER HA WITH
   DESCENDER b CAPITAL LIGATURE TE TSE b SMALL LIGATURE TE TSE b CAPITAL LETTER CHE WITH
   DESCENDER b SMALL LETTER CHE WITH DESCENDER b CAPITAL LETTER CHE WITH VERTICAL STROKE b SMALL
   LETTER CHE WITH VERTICAL STROKE b CAPITAL LETTER SHHA b SMALL LETTER SHHA b CAPITAL LETTER
   ABKHASIAN CHE b SMALL LETTER ABKHASIAN CHE b CAPITAL LETTER ABKHASIAN CHE WITH DESCENDER b
   SMALL LETTER ABKHASIAN CHE WITH DESCENDER b LETTER PALOCHKA b CAPITAL LETTER ZHE WITH BREVE b
   SMALL LETTER ZHE WITH BREVE b CAPITAL LETTER KA WITH HOOK b SMALL LETTER KA WITH HOOK b
   CAPITAL LETTER EL WITH TAIL b SMALL LETTER EL WITH TAIL b CAPITAL LETTER EN WITH HOOK b SMALL
   LETTER EN WITH HOOK b CAPITAL LETTER EN WITH TAIL b SMALL LETTER EN WITH TAIL b CAPITAL LETTER
   KHAKASSIAN CHE b SMALL LETTER KHAKASSIAN CHE b CAPITAL LETTER EM WITH TAIL b SMALL LETTER EM
   WITH TAIL d PALOCHKA b CAPITAL LETTER A WITH BREVE b SMALL LETTER A WITH BREVE b CAPITAL
   LETTER A WITH DIAERESIS b SMALL LETTER A WITH DIAERESIS b CAPITAL LIGATURE A IE b SMALL
   LIGATURE A IE b CAPITAL LETTER IE WITH BREVE b SMALL LETTER IE WITH BREVE b CAPITAL LETTER
   SCHWA b SMALL LETTER SCHWA b CAPITAL LETTER SCHWA WITH DIAERESIS b SMALL LETTER SCHWA WITH
   DIAERESIS b CAPITAL LETTER ZHE WITH DIAERESIS b SMALL LETTER ZHE WITH DIAERESIS b CAPITAL
   LETTER ZE WITH DIAERESIS b SMALL LETTER ZE WITH DIAERESIS b CAPITAL LETTER ABKHASIAN DZE b
   SMALL LETTER ABKHASIAN DZE b CAPITAL LETTER I WITH MACRON b SMALL LETTER I WITH MACRON b
   CAPITAL LETTER I WITH DIAERESIS b SMALL LETTER I WITH DIAERESIS b CAPITAL LETTER O WITH
   DIAERESIS b SMALL LETTER O WITH DIAERESIS b CAPITAL LETTER BARRED O b SMALL LETTER BARRED O b
   CAPITAL LETTER BARRED O WITH DIAERESIS b SMALL LETTER BARRED O WITH DIAERESIS b CAPITAL LETTER
   E WITH DIAERESIS b SMALL LETTER E WITH DIAERESIS b CAPITAL LETTER U WITH MACRON b SMALL LETTER
   U WITH MACRON b CAPITAL LETTER U WITH DIAERESIS b SMALL LETTER U WITH DIAERESIS b CAPITAL
   LETTER U WITH DOUBLE ACUTE b SMALL LETTER U WITH DOUBLE ACUTE b CAPITAL LETTER CHE WITH
   DIAERESIS b SMALL LETTER CHE WITH DIAERESIS b CAPITAL LETTER GHE WITH DESCENDER b SMALL LETTER
   GHE WITH DESCENDER b CAPITAL LETTER YERU WITH DIAERESIS b SMALL LETTER YERU WITH DIAERESIS b
   CAPITAL LETTER GHE WITH STROKE AND HOOK b SMALL LETTER GHE WITH STROKE AND HOOK b CAPITAL
   LETTER HA WITH HOOK b SMALL LETTER HA WITH HOOK b CAPITAL LETTER HA WITH STROKE b SMALL LETTER
   HA WITH STROKE b CAPITAL LETTER KOMI DE b SMALL LETTER KOMI DE b CAPITAL LETTER KOMI DJE b
   SMALL LETTER KOMI DJE b CAPITAL LETTER KOMI ZJE b SMALL LETTER KOMI ZJE b CAPITAL LETTER KOMI
   DZJE b SMALL LETTER KOMI DZJE b CAPITAL LETTER KOMI LJE b SMALL LETTER KOMI LJE b CAPITAL
   LETTER KOMI NJE b SMALL LETTER KOMI NJE b CAPITAL LETTER KOMI SJE b SMALL LETTER KOMI SJE b
   CAPITAL LETTER KOMI TJE b SMALL LETTER KOMI TJE b CAPITAL LETTER REVERSED ZE b SMALL LETTER
   REVERSED ZE b CAPITAL LETTER EL WITH HOOK b SMALL LETTER EL WITH HOOK b CAPITAL LETTER LHA b
   SMALL LETTER LHA b CAPITAL LETTER RHA b SMALL LETTER RHA b CAPITAL LETTER YAE b SMALL LETTER
   YAE b CAPITAL LETTER QA b SMALL LETTER QA b CAPITAL LETTER WE b SMALL LETTER WE b CAPITAL
   LETTER ALEUT KA b SMALL LETTER ALEUT KA b CAPITAL LETTER EL WITH MIDDLE HOOK b SMALL LETTER EL
   WITH MIDDLE HOOK b CAPITAL LETTER EN WITH MIDDLE HOOK b SMALL LETTER EN WITH MIDDLE HOOK b
   CAPITAL LETTER PE WITH DESCENDER b SMALL LETTER PE WITH DESCENDER b CAPITAL LETTER SHHA WITH
   DESCENDER b SMALL LETTER SHHA WITH DESCENDER b CAPITAL LETTER EN WITH LEFT HOOK b SMALL LETTER
   EN WITH LEFT HOOK b CAPITAL LETTER DZZHE b SMALL LETTER DZZHE b CAPITAL LETTER DCHE b SMALL
   LETTER DCHE b CAPITAL LETTER EL WITH DESCENDER b SMALL LETTER EL WITH DESCENDER a531 ARMENIAN
   CAPITAL LETTER AYB d BEN d GIM d DA d ECH d ZA d EH d ET d TO d ZHE d INI d LIWN d XEH d CA d
   KEN d HO d JA d GHAD d CHEH d MEN d YI d NOW d SHA d VO d CHA d PEH d JHEH d RA d SEH d VEW d
   TIWN d REH d CO d YIWN d PIWR d KEH d OH d FEH b559 MODIFIER LETTER LEFT HALF RING b
   APOSTROPHE b EMPHASIS MARK b EXCLAMATION MARK b COMMA b QUESTION MARK b ABBREVIATION MARK b
   SMALL LETTER TURNED AYB d AYB d BEN d GIM d DA d ECH d ZA d EH d ET d TO d ZHE d INI d LIWN d
   XEH d CA d KEN d HO d JA d GHAD d CHEH d MEN d YI d NOW d SHA d VO d CHA d PEH d JHEH d RA d
   SEH d VEW d TIWN d REH d CO d YIWN d PIWR d KEH d OH d FEH c LIGATURE ECH YIWN c LETTER YI
   WITH STROKE b FULL STOP b HYPHEN a58D RIGHT-FACING ARMENIAN ETERNITY SIGN a LEFT-FACING
   ARMENIAN ETERNITY SIGN a ARMENIAN DRAM SIGN a591 HEBREW ACCENT ETNAHTA c SEGOL c SHALSHELET c
   ZAQEF QATAN d GADOL c TIPEHA c REVIA c ZARQA c PASHTA c YETIV c TEVIR c GERESH d MUQDAM c
   GERSHAYIM c QARNEY PARA c TELISHA GEDOLA c PAZER c ATNAH HAFUKH c MUNAH c MAHAPAKH c MERKHA d
   KEFULA c DARGA c QADMA c TELISHA QETANA c YERAH BEN YOMO c OLE c ILUY c DEHI c ZINOR b MARK
   MASORA CIRCLE b POINT SHEVA c HATAF SEGOL d PATAH d QAMATS c HIRIQ c TSERE c SEGOL c PATAH c
   QAMATS c HOLAM d HASER FOR VAV c QUBUTS c DAGESH OR MAPIQ c METEG b PUNCTUATION MAQAF b POINT
   RAFE b PUNCTUATION PASEQ b POINT SHIN DOT c SIN DOT b PUNCTUATION SOF PASUQ b MARK UPPER DOT c
   LOWER DOT b PUNCTUATION NUN HAFUKHA b POINT QAMATS QATAN b5D0 LETTER ALEF c BET c GIMEL c
   DALET c HE c VAV c ZAYIN c HET c TET c YOD c FINAL KAF c KAF c LAMED c FINAL MEM c MEM c FINAL
   NUN c NUN c SAMEKH c AYIN c FINAL PE c PE c FINAL TSADI c TSADI c QOF c RESH c SHIN c TAV b5EF
   YOD TRIANGLE b LIGATURE YIDDISH DOUBLE VAV d VAV YOD d DOUBLE YOD b PUNCTUATION GERESH c
   GERSHAYIM a600 ARABIC NUMBER SIGN b SIGN SANAH b FOOTNOTE MARKER b SIGN SAFHA c SAMVAT b
   NUMBER MARK ABOVE a ARABIC-INDIC CUBE ROOT b FOURTH ROOT a ARABIC RAY a ARABIC-INDIC PER MILLE
   SIGN c TEN THOUSAND SIGN a AFGHANI SIGN a ARABIC COMMA b DATE SEPARATOR b POETIC VERSE SIGN b
   SIGN MISRA c SALLALLAHOU ALAYHE WASSALLAM c ALAYHE ASSALLAM c RAHMATULLAH ALAYHE c RADI
   ALLAHOU ANHU c TAKHALLUS b SMALL HIGH TAH d LIGATURE ALEF WITH LAM WITH YEH d ZAIN c FATHA c
   DAMMA c KASRA b SEMICOLON b LETTER MARK b END OF TEXT MARK b TRIPLE DOT PUNCTUATION MARK b
   QUESTION MARK b LETTER KASHMIRI YEH c HAMZA c ALEF WITH MADDA ABOVE e HAMZA ABOVE c WAW WITH
   HAMZA ABOVE c ALEF WITH HAMZA BELOW c YEH WITH HAMZA ABOVE c ALEF c BEH c TEH MARBUTA d c THEH
   c JEEM c HAH c KHAH c DAL c THAL c REH c ZAIN c SEEN c SHEEN c SAD c DAD c TAH c ZAH c AIN c
   GHAIN c KEHEH WITH TWO DOTS ABOVE e THREE DOTS BELOW c FARSI YEH WITH INVERTED V f TWO DOTS
   ABOVE f THREE DOTS ABOVE b TATWEEL b LETTER FEH c QAF c KAF c LAM c MEEM c NOON c HEH c WAW c
   ALEF MAKSURA c YEH b FATHATAN b DAMMATAN b KASRATAN b FATHA b DAMMA b KASRA b SHADDA b SUKUN b
   MADDAH ABOVE b HAMZA ABOVE c BELOW b SUBSCRIPT ALEF b INVERTED DAMMA b MARK NOON GHUNNA b
   ZWARAKAY b VOWEL SIGN SMALL V ABOVE d INVERTED SMALL V ABOVE d DOT BELOW b REVERSED DAMMA b
   FATHA WITH TWO DOTS b WAVY HAMZA BELOW a ARABIC-INDIC DIGIT ZERO c ONE c TWO c THREE c FOUR c
   FIVE c SIX c SEVEN c EIGHT c NINE a ARABIC PERCENT SIGN b DECIMAL SEPARATOR b THOUSANDS
   SEPARATOR b FIVE POINTED STAR b LETTER DOTLESS BEH d QAF c SUPERSCRIPT ALEF c ALEF WASLA d
   WITH WAVY HAMZA ABOVE g BELOW c HIGH HAMZA e ALEF e WAW c U WITH HAMZA ABOVE c HIGH HAMZA YEH
   c TTEH c TTEHEH c BEEH c TEH WITH RING e THREE DOTS ABOVE DOWNWARDS c PEH c TEHEH c BEHEH c
   HAH WITH HAMZA ABOVE e TWO DOTS VERTICAL ABOVE c NYEH c DYEH c HAH WITH THREE DOTS ABOVE c
   TCHEH c TCHEHEH c DDAL c DAL WITH RING e DOT BELOW g AND SMALL TAH c DAHAL c DDAHAL c DUL c
   DAL WITH THREE DOTS ABOVE DOWNWARDS e FOUR DOTS ABOVE c RREH c REH WITH SMALL V e RING e DOT
   BELOW e SMALL V BELOW e DOT BELOW AND DOT ABOVE e TWO DOTS ABOVE c JEH c REH WITH FOUR DOTS
   ABOVE c SEEN WITH DOT BELOW AND DOT ABOVE e THREE DOTS BELOW h AND THREE DOTS ABOVE c SAD WITH
   TWO DOTS BELOW e THREE DOTS ABOVE c TAH WITH THREE DOTS ABOVE c AIN WITH THREE DOTS ABOVE c
   DOTLESS FEH c FEH WITH DOT MOVED BELOW f BELOW c VEH c FEH WITH THREE DOTS BELOW c PEHEH c QAF
   WITH DOT ABOVE e THREE DOTS ABOVE c KEHEH c SWASH KAF c KAF WITH RING e DOT ABOVE c NG c KAF
   WITH THREE DOTS BELOW c GAF d WITH RING c NGOEH c GAF WITH TWO DOTS BELOW c GUEH c GAF WITH
   THREE DOTS ABOVE c LAM WITH SMALL V e DOT ABOVE e THREE DOTS ABOVE g BELOW c NOON WITH DOT
   BELOW d GHUNNA c RNOON c NOON WITH RING e THREE DOTS ABOVE c HEH DOACHASHMEE c TCHEH WITH DOT
   ABOVE c HEH WITH YEH ABOVE d GOAL e WITH HAMZA ABOVE c TEH MARBUTA GOAL c WAW WITH RING c
   KIRGHIZ OE c OE c U c YU c KIRGHIZ YU c WAW WITH TWO DOTS ABOVE c VE c FARSI YEH c YEH WITH
   TAIL e SMALL V c WAW WITH DOT ABOVE c E c YEH WITH THREE DOTS BELOW d BARREE e WITH HAMZA
   ABOVE b FULL STOP b LETTER AE b SMALL HIGH LIGATURE SAD WITH LAM WITH ALEF MAKSURA e QAF WITH
   LAM WITH ALEF MAKSURA d MEEM INITIAL FORM d LAM ALEF d JEEM d THREE DOTS d SEEN b END OF AYAH
   b START OF RUB EL HIZB b SMALL HIGH ROUNDED ZERO d UPRIGHT RECTANGULAR ZERO d DOTLESS HEAD OF
   KHAH d MEEM ISOLATED FORM c LOW SEEN c HIGH MADDA c WAW c YEH c HIGH YEH d NOON b PLACE OF
   SAJDAH b EMPTY CENTRE LOW STOP d HIGH STOP b ROUNDED HIGH STOP WITH FILLED CENTRE b SMALL LOW
   MEEM b LETTER DAL WITH INVERTED V c REH WITH INVERTED V a EXTENDED ARABIC-INDIC DIGIT ZERO d
   ONE d TWO d THREE d FOUR d FIVE d SIX d SEVEN d EIGHT d NINE a ARABIC LETTER SHEEN WITH DOT
   BELOW c DAD WITH DOT BELOW c GHAIN WITH DOT BELOW b SIGN SINDHI AMPERSAND d POSTPOSITION MEN b
   LETTER HEH WITH INVERTED V a SYRIAC END OF PARAGRAPH b SUPRALINEAR FULL STOP b SUBLINEAR FULL
   STOP b SUPRALINEAR COLON b SUBLINEAR COLON b HORIZONTAL COLON b COLON SKEWED LEFT d RIGHT b
   SUPRALINEAR COLON SKEWED LEFT b SUBLINEAR COLON SKEWED RIGHT b CONTRACTION b HARKLEAN OBELUS c
   METOBELUS c ASTERISCUS b70F ABBREVIATION MARK b LETTER ALAPH c SUPERSCRIPT ALAPH c BETH c
   GAMAL d GARSHUNI c DALATH c DOTLESS DALATH RISH c HE c WAW c ZAIN c HETH c TETH d GARSHUNI c
   YUDH d HE c KAPH c LAMADH c MIM c NUN c SEMKATH c FINAL SEMKATH c E c PE c REVERSED PE c SADHE
   c QAPH c RISH c SHIN c TAW c PERSIAN BHETH d GHAMAL d DHALATH b PTHAHA ABOVE c BELOW c DOTTED
   b ZQAPHA ABOVE c BELOW c DOTTED b RBASA ABOVE c BELOW b DOTTED ZLAMA HORIZONTAL d ANGULAR b
   HBASA ABOVE c BELOW b HBASA-ESASA DOTTED b ESASA ABOVE c BELOW b RWAHA b FEMININE DOT b
   QUSHSHAYA b RUKKAKHA b TWO VERTICAL DOTS ABOVE e BELOW b THREE DOTS ABOVE d BELOW b OBLIQUE
   LINE ABOVE d BELOW b MUSIC b BARREKH b74D LETTER SOGDIAN ZHAIN d KHAPH d FE a ARABIC LETTER
   BEH WITH THREE DOTS HORIZONTALLY BELOW e DOT BELOW AND THREE DOTS ABOVE e THREE DOTS POINTING
   UPWARDS BELOW j AND TWO DOTS ABOVE e TWO DOTS BELOW AND DOT ABOVE e INVERTED SMALL V BELOW e
   SMALL V c HAH WITH TWO DOTS ABOVE e THREE DOTS POINTING UPWARDS BELOW c DAL WITH TWO DOTS
   VERTICALLY BELOW AND SMALL TAH e INVERTED SMALL V BELOW c REH WITH STROKE c SEEN WITH FOUR
   DOTS ABOVE c AIN WITH TWO DOTS ABOVE e THREE DOTS POINTING DOWNWARDS ABOVE e TWO DOTS
   VERTICALLY ABOVE c FEH WITH TWO DOTS BELOW e THREE DOTS POINTING UPWARDS BELOW c KEHEH WITH
   DOT ABOVE e THREE DOTS ABOVE g POINTING UPWARDS BELOW c MEEM WITH DOT ABOVE f BELOW c NOON
   WITH TWO DOTS BELOW e SMALL TAH f V c LAM WITH BAR c REH WITH TWO DOTS VERTICALLY ABOVE e
   HAMZA ABOVE c SEEN WITH TWO DOTS VERTICALLY ABOVE c HAH WITH SMALL ARABIC LETTER TAH BELOW i
   AND TWO DOTS c SEEN WITH SMALL ARABIC LETTER TAH AND TWO DOTS c REH WITH SMALL ARABIC LETTER
   TAH AND TWO DOTS c HAH WITH SMALL ARABIC LETTER TAH ABOVE c ALEF WITH EXTENDED ARABIC-INDIC
   DIGIT TWO ABOVE h THREE ABOVE c FARSI YEH WITH EXTENDED ARABIC-INDIC DIGIT TWO ABOVE i THREE
   ABOVE i FOUR BELOW c WAW WITH EXTENDED ARABIC-INDIC DIGIT TWO ABOVE h THREE ABOVE c YEH BARREE
   WITH EXTENDED ARABIC-INDIC DIGIT TWO ABOVE i THREE ABOVE c HAH WITH EXTENDED ARABIC-INDIC
   DIGIT FOUR BELOW c SEEN WITH EXTENDED ARABIC-INDIC DIGIT FOUR ABOVE e INVERTED V c KAF WITH
   TWO DOTS ABOVE a THAANA LETTER HAA c SHAVIYANI c NOONU c RAA c BAA c LHAVIYANI c KAAFU c ALIFU
   c VAAVU c MEEMU c FAAFU c DHAALU c THAA c LAAMU c GAAFU c GNAVIYANI c SEENU c DAVIYANI c
   ZAVIYANI c TAVIYANI c YAA c PAVIYANI c JAVIYANI c CHAVIYANI c TTAA c HHAA c KHAA c THAALU c
   ZAA c SHEENU c SAADHU c DAADHU c TO c ZO c AINU c GHAINU c QAAFU c WAAVU b ABAFILI b AABAAFILI
   b IBIFILI b EEBEEFILI b UBUFILI b OOBOOFILI b EBEFILI b EYBEYFILI b OBOFILI b OABOAFILI b
   SUKUN b LETTER NAA a7C0 NKO DIGIT ZERO c ONE c TWO c THREE c FOUR c FIVE c SIX c SEVEN c EIGHT
   c NINE b LETTER A c EE c I c E c U c OO c O c DAGBASINNA c N c BA c PA c TA c JA c CHA c DA c
   RA c RRA c SA c GBA c FA c KA c LA c NA WOLOSO c MA c NYA c NA c HA c WA c YA c NYA WOLOSO c
   JONA JA d CHA d RA b COMBINING SHORT HIGH TONE d LOW TONE d RISING TONE c LONG DESCENDING TONE
   d HIGH TONE d LOW TONE d RISING TONE c NASALIZATION MARK c DOUBLE DOT ABOVE b HIGH TONE
   APOSTROPHE b LOW TONE APOSTROPHE b SYMBOL OO DENNEN c GBAKURUNEN b COMMA b EXCLAMATION MARK b
   LAJANYALAN b7FD DANTAYALAN b DOROME SIGN b TAMAN SIGN a SAMARITAN LETTER ALAF c BIT c GAMAN c
   DALAT c IY c BAA c ZEN c IT c TIT c YUT c KAAF c LABAT c MIM c NUN c SINGAAT c IN c FI c
   TSAADIY c QUF c RISH c SHAN c TAAF b MARK IN c IN-ALAF c OCCLUSION c DAGESH b MODIFIER LETTER
   EPENTHETIC YUT b MARK EPENTHETIC YUT b VOWEL SIGN LONG E d E d OVERLONG AA d LONG AA d AA d
   OVERLONG A d LONG A d A b MODIFIER LETTER SHORT A b VOWEL SIGN SHORT A d LONG U d U b MODIFIER
   LETTER I b VOWEL SIGN LONG I d I d O d SUKUN b MARK NEQUDAA b830 PUNCTUATION NEQUDAA c AFSAAQ
   c ANGED c BAU c ATMAAU c SHIYYAALAA b ABBREVIATION MARK b PUNCTUATION MELODIC QITSA c ZIQAA c
   QITSA c ZAEF c TURU c ARKAANU c SOF MASHFAAT c ANNAAU a840 MANDAIC LETTER HALQA c AB c AG c AD
   c AH c USHENNA c AZ c IT c ATT c AKSA c AK c AL c AM c AN c AS c IN c AP c ASZ c AQ c AR c ASH
   c AT c DUSHENNA c KAD c AIN b AFFRICATION MARK b VOCALIZATION MARK b GEMINATION MARK b85E
   PUNCTUATION a860 SYRIAC LETTER MALAYALAM NGA d JA d NYA d TTA d NNA d NNNA d BHA d RA d LLA d
   LLLA d SSA a870 ARABIC LETTER ALEF WITH ATTACHED FATHA f TOP RIGHT FATHA e RIGHT MIDDLE STROKE
   e LEFT MIDDLE STROKE e ATTACHED KASRA f BOTTOM RIGHT KASRA f ROUND DOT ABOVE f RIGHT ROUND DOT
   f LEFT ROUND DOT f ROUND DOT BELOW e DOT ABOVE e ATTACHED TOP RIGHT FATHA AND DOT ABOVE e
   RIGHT MIDDLE STROKE AND DOT ABOVE e ATTACHED BOTTOM RIGHT KASRA AND DOT ABOVE f TOP RIGHT
   FATHA AND LEFT RING e RIGHT MIDDLE STROKE AND LEFT RING e ATTACHED BOTTOM RIGHT KASRA AND LEFT
   RING f RIGHT HAMZA f LEFT HAMZA b TATWEEL WITH OVERSTRUCK HAMZA e WAW d TWO DOTS BELOW b
   LETTER THIN YEH b BASELINE ROUND DOT b RAISED ROUND DOT b LETTER NOON WITH INVERTED SMALL V c
   HAH WITH INVERTED SMALL V BELOW c TAH WITH DOT BELOW e THREE DOTS BELOW c KEHEH WITH TWO DOTS
   VERTICALLY BELOW b VERTICAL TAIL b890 POUND MARK ABOVE b PIASTRE MARK ABOVE b898 SMALL HIGH
   WORD AL-JUZ c LOW WORD ISHMAAM e IMAALA e TASHEEL b MADDA WAAJIB b SUPERSCRIPT ALEF MOKHASSAS
   b DOUBLED MADDA b HALF MADDA OVER MADDA b LETTER BEH WITH SMALL V BELOW e HAMZA ABOVE c JEEM
   WITH TWO DOTS ABOVE c TAH WITH TWO DOTS ABOVE c FEH WITH DOT BELOW AND THREE DOTS ABOVE c QAF
   WITH DOT BELOW c LAM WITH DOUBLE BAR c MEEM WITH THREE DOTS ABOVE c YEH WITH TWO DOTS BELOW
   AND HAMZA ABOVE i DOT ABOVE c REH WITH LOOP c WAW WITH DOT WITHIN c ROHINGYA YEH c LOW ALEF c
   DAL WITH THREE DOTS BELOW c SAD WITH THREE DOTS BELOW c GAF WITH INVERTED STROKE c STRAIGHT
   WAW c ZAIN WITH INVERTED V ABOVE c AIN WITH THREE DOTS BELOW c KAF WITH DOT BELOW c QAF WITH
   DOT BELOW AND NO DOTS ABOVE c BEH WITH SMALL MEEM ABOVE c PEH WITH SMALL MEEM ABOVE c TEH WITH
   SMALL TEH ABOVE c REH WITH SMALL NOON ABOVE c YEH WITH TWO DOTS BELOW AND SMALL NOON ABOVE c
   AFRICAN FEH d QAF d NOON c PEH WITH SMALL V c TEH WITH SMALL V c TTEH WITH SMALL V c TCHEH
   WITH SMALL V c KEHEH WITH SMALL V c GHAIN WITH THREE DOTS ABOVE c AFRICAN QAF WITH THREE DOTS
   ABOVE c JEEM WITH THREE DOTS ABOVE g BELOW c LAM WITH SMALL ARABIC LETTER TAH ABOVE c GRAF b
   SMALL FARSI YEH c HIGH FARSI YEH d YEH BARREE WITH TWO DOTS BELOW d WORD SAH d ZAH b LARGE
   ROUND DOT ABOVE e BELOW b SUKUN BELOW b LARGE CIRCLE BELOW c ROUND DOT INSIDE CIRCLE BELOW b
   SMALL LOW WAW c HIGH WORD AR-RUB d SAD d AIN d QAF d NOON WITH KASRA c LOW NOON WITH KASRA c
   HIGH WORD ATH-THALATHA e AS-SAJDA e AN-NISF e SAKTA e QIF e WAQFA d FOOTNOTE MARKER d SIGN
   SAFHA b DISPUTED END OF AYAH b TURNED DAMMA BELOW b CURLY FATHA c DAMMA c KASRA c FATHATAN c
   DAMMATAN c KASRATAN b TONE ONE DOT ABOVE c TWO DOTS ABOVE c LOOP ABOVE c ONE DOT BELOW c TWO
   DOTS BELOW c LOOP BELOW b OPEN FATHATAN c DAMMATAN c KASRATAN b SMALL HIGH WAW b FATHA WITH
   RING d DOT ABOVE b KASRA WITH DOT BELOW b LEFT ARROWHEAD ABOVE b RIGHT ARROWHEAD ABOVE b LEFT
   ARROWHEAD BELOW b RIGHT ARROWHEAD BELOW b DOUBLE RIGHT ARROWHEAD ABOVE f WITH DOT b RIGHT
   ARROWHEAD ABOVE WITH DOT b DAMMA WITH DOT b MARK SIDEWAYS NOON GHUNNA a DEVANAGARI SIGN
   INVERTED CANDRABINDU c CANDRABINDU c ANUSVARA c VISARGA b LETTER SHORT A c A c AA c I c II c U
   c UU c VOCALIC R d L c CANDRA E c SHORT E c E c AI c CANDRA O c SHORT O c O c AU c KA c KHA c
   GA c GHA c NGA c CA c CHA c JA c JHA c NYA c TTA c TTHA c DDA c DDHA c NNA c TA c THA c DA c
   DHA c NA c NNNA c PA c PHA c BA c BHA c MA c YA c RA c RRA c LA c LLA c LLLA c VA c SHA c SSA
   c SA c HA b VOWEL SIGN OE d OOE b SIGN NUKTA c AVAGRAHA b VOWEL SIGN AA d I d II d U d UU d
   VOCALIC R e RR d CANDRA E d SHORT E d E d AI d CANDRA O d SHORT O d O d AU b SIGN VIRAMA b
   VOWEL SIGN PRISHTHAMATRA E d AW b OM b STRESS SIGN UDATTA d ANUDATTA b GRAVE ACCENT b ACUTE
   ACCENT b VOWEL SIGN CANDRA LONG E d UE d UUE b LETTER QA c KHHA c GHHA c ZA c DDDHA c RHA c FA
   c YYA c VOCALIC RR d LL b VOWEL SIGN VOCALIC L e LL b DANDA b DOUBLE DANDA b DIGIT ZERO c ONE
   c TWO c THREE c FOUR c FIVE c SIX c SEVEN c EIGHT c NINE b ABBREVIATION SIGN b SIGN HIGH
   SPACING DOT b LETTER CANDRA A c OE c OOE c AW c UE c UUE c MARWARI DDA c ZHA c HEAVY YA c GGA
   c JJA c GLOTTAL STOP c DDDA c BBA a BENGALI ANJI b SIGN CANDRABINDU c ANUSVARA c VISARGA b985
   LETTER A c AA c I c II c U c UU c VOCALIC R d L c98F E c AI c993 O c AU c KA c KHA c GA c GHA
   c NGA c CA c CHA c JA c JHA c NYA c TTA c TTHA c DDA c DDHA c NNA c TA c THA c DA c DHA c NA
   c9AA PA c PHA c BA c BHA c MA c YA c RA c9B2 LA c9B6 SHA c SSA c SA c HA b9BC SIGN NUKTA c
   AVAGRAHA b VOWEL SIGN AA d I d II d U d UU d VOCALIC R e RR d9C7 E d AI d9CB O d AU b SIGN
   VIRAMA b LETTER KHANDA TA b9D7 AU LENGTH MARK b9DC LETTER RRA c RHA c9DF YYA c VOCALIC RR d LL
   b VOWEL SIGN VOCALIC L e LL b9E6 DIGIT ZERO c ONE c TWO c THREE c FOUR c FIVE c SIX c SEVEN c
   EIGHT c NINE b LETTER RA WITH MIDDLE DIAGONAL e LOWER DIAGONAL b RUPEE MARK c SIGN b CURRENCY
   NUMERATOR ONE d TWO d THREE d FOUR d ONE LESS THAN THE DENOMINATOR c DENOMINATOR SIXTEEN b
   ISSHAR b GANDA MARK b LETTER VEDIC ANUSVARA b ABBREVIATION SIGN b SANDHI MARK aA01 GURMUKHI
   SIGN ADAK BINDI c BINDI c VISARGA bA05 LETTER A c AA c I c II c U c UU cA0F EE c AI cA13 OO c
   AU c KA c KHA c GA c GHA c NGA c CA c CHA c JA c JHA c NYA c TTA c TTHA c DDA c DDHA c NNA c
   TA c THA c DA c DHA c NA cA2A PA c PHA c BA c BHA c MA c YA c RA cA32 LA c LLA cA35 VA c SHA
   cA38 SA c HA bA3C SIGN NUKTA bA3E VOWEL SIGN AA d I d II d U d UU dA47 EE d AI dA4B OO d AU b
   SIGN VIRAMA cA51 UDAAT bA59 LETTER KHHA c GHHA c ZA c RRA cA5E FA bA66 DIGIT ZERO c ONE c TWO
   c THREE c FOUR c FIVE c SIX c SEVEN c EIGHT c NINE b TIPPI b ADDAK b IRI b URA b EK ONKAR b
   SIGN YAKASH b ABBREVIATION SIGN aA81 GUJARATI SIGN CANDRABINDU c ANUSVARA c VISARGA bA85
   LETTER A c AA c I c II c U c UU c VOCALIC R d L b VOWEL CANDRA E bA8F LETTER E c AI b VOWEL
   CANDRA O bA93 LETTER O c AU c KA c KHA c GA c GHA c NGA c CA c CHA c JA c JHA c NYA c TTA c
   TTHA c DDA c DDHA c NNA c TA c THA c DA c DHA c NA cAAA PA c PHA c BA c BHA c MA c YA c RA
   cAB2 LA c LLA cAB5 VA c SHA c SSA c SA c HA bABC SIGN NUKTA c AVAGRAHA b VOWEL SIGN AA d I d
   II d U d UU d VOCALIC R e RR d CANDRA E dAC7 E d AI d CANDRA O dACB O d AU b SIGN VIRAMA bAD0
   OM bAE0 LETTER VOCALIC RR d LL b VOWEL SIGN VOCALIC L e LL bAE6 DIGIT ZERO c ONE c TWO c THREE
   c FOUR c FIVE c SIX c SEVEN c EIGHT c NINE b ABBREVIATION SIGN b RUPEE SIGN bAF9 LETTER ZHA b
   SIGN SUKUN c SHADDA c MADDAH c THREE-DOT NUKTA ABOVE c CIRCLE NUKTA ABOVE c TWO-CIRCLE NUKTA
   ABOVE aB01 ORIYA SIGN CANDRABINDU c ANUSVARA c VISARGA bB05 LETTER A c AA c I c II c U c UU c
   VOCALIC R d L cB0F E c AI cB13 O c AU c KA c KHA c GA c GHA c NGA c CA c CHA c JA c JHA c NYA
   c TTA c TTHA c DDA c DDHA c NNA c TA c THA c DA c DHA c NA cB2A PA c PHA c BA c BHA c MA c YA
   c RA cB32 LA c LLA cB35 VA c SHA c SSA c SA c HA bB3C SIGN NUKTA c AVAGRAHA b VOWEL SIGN AA d
   I d II d U d UU d VOCALIC R e RR dB47 E d AI dB4B O d AU b SIGN VIRAMA cB55 OVERLINE b AI
   LENGTH MARK b AU LENGTH MARK bB5C LETTER RRA c RHA cB5F YYA c VOCALIC RR d LL b VOWEL SIGN
   VOCALIC L e LL bB66 DIGIT ZERO c ONE c TWO c THREE c FOUR c FIVE c SIX c SEVEN c EIGHT c NINE
   b ISSHAR b LETTER WA b FRACTION ONE QUARTER d HALF c THREE QUARTERS c ONE SIXTEENTH d EIGHTH c
   THREE SIXTEENTHS aB82 TAMIL SIGN ANUSVARA c VISARGA bB85 LETTER A c AA c I c II c U c UU cB8E
   E c EE c AI cB92 O c OO c AU c KA cB99 NGA c CA cB9C JA cB9E NYA c TTA cBA3 NNA c TA cBA8 NA c
   NNNA c PA cBAE MA c YA c RA c RRA c LA c LLA c LLLA c VA c SHA c SSA c SA c HA bBBE VOWEL SIGN
   AA d I d II d U d UU dBC6 E d EE d AI dBCA O d OO d AU b SIGN VIRAMA bBD0 OM bBD7 AU LENGTH
   MARK bBE6 DIGIT ZERO c ONE c TWO c THREE c FOUR c FIVE c SIX c SEVEN c EIGHT c NINE b NUMBER
   TEN c ONE HUNDRED d THOUSAND b DAY SIGN b MONTH SIGN b YEAR SIGN b DEBIT SIGN b CREDIT SIGN b
   AS ABOVE SIGN b RUPEE SIGN b NUMBER SIGN aC00 TELUGU SIGN COMBINING CANDRABINDU ABOVE c
   CANDRABINDU c ANUSVARA c VISARGA c COMBINING ANUSVARA ABOVE b LETTER A c AA c I c II c U c UU
   c VOCALIC R d L cC0E E c EE c AI cC12 O c OO c AU c KA c KHA c GA c GHA c NGA c CA c CHA c JA
   c JHA c NYA c TTA c TTHA c DDA c DDHA c NNA c TA c THA c DA c DHA c NA cC2A PA c PHA c BA c
   BHA c MA c YA c RA c RRA c LA c LLA c LLLA c VA c SHA c SSA c SA c HA bC3C SIGN NUKTA c
   AVAGRAHA b VOWEL SIGN AA d I d II d U d UU d VOCALIC R e RR dC46 E d EE d AI dC4A O d OO d AU
   b SIGN VIRAMA bC55 LENGTH MARK b AI LENGTH MARK bC58 LETTER TSA c DZA c RRRA cC5D NAKAARA
   POLLU cC60 VOCALIC RR d LL b VOWEL SIGN VOCALIC L e LL bC66 DIGIT ZERO c ONE c TWO c THREE c
   FOUR c FIVE c SIX c SEVEN c EIGHT c NINE bC77 SIGN SIDDHAM b FRACTION DIGIT ZERO FOR ODD
   POWERS OF FOUR d ONE FOR ODD POWERS OF FOUR d TWO FOR ODD POWERS OF FOUR d THREE FOR ODD
   POWERS OF FOUR d ONE FOR EVEN POWERS OF FOUR d TWO FOR EVEN POWERS OF FOUR d THREE FOR EVEN
   POWERS OF FOUR b SIGN TUUMU a KANNADA SIGN SPACING CANDRABINDU c CANDRABINDU c ANUSVARA c
   VISARGA c SIDDHAM b LETTER A c AA c I c II c U c UU c VOCALIC R d L cC8E E c EE c AI cC92 O c
   OO c AU c KA c KHA c GA c GHA c NGA c CA c CHA c JA c JHA c NYA c TTA c TTHA c DDA c DDHA c
   NNA c TA c THA c DA c DHA c NA cCAA PA c PHA c BA c BHA c MA c YA c RA c RRA c LA c LLA cCB5
   VA c SHA c SSA c SA c HA bCBC SIGN NUKTA c AVAGRAHA b VOWEL SIGN AA d I d II d U d UU d
   VOCALIC R e RR dCC6 E d EE d AI dCCA O d OO d AU b SIGN VIRAMA bCD5 LENGTH MARK b AI LENGTH
   MARK bCDD LETTER NAKAARA POLLU c FA cCE0 VOCALIC RR d LL b VOWEL SIGN VOCALIC L e LL bCE6
   DIGIT ZERO c ONE c TWO c THREE c FOUR c FIVE c SIX c SEVEN c EIGHT c NINE bCF1 SIGN
   JIHVAMULIYA c UPADHMANIYA aD00 MALAYALAM SIGN COMBINING ANUSVARA ABOVE c CANDRABINDU c
   ANUSVARA c VISARGA b LETTER VEDIC ANUSVARA c A c AA c I c II c U c UU c VOCALIC R d L cD0E E c
   EE c AI cD12 O c OO c AU c KA c KHA c GA c GHA c NGA c CA c CHA c JA c JHA c NYA c TTA c TTHA
   c DDA c DDHA c NNA c TA c THA c DA c DHA c NA c NNNA c PA c PHA c BA c BHA c MA c YA c RA c
   RRA c LA c LLA c LLLA c VA c SHA c SSA c SA c HA c TTTA b SIGN VERTICAL BAR VIRAMA c CIRCULAR
   VIRAMA c AVAGRAHA b VOWEL SIGN AA d I d II d U d UU d VOCALIC R e RR dD46 E d EE d AI dD4A O d
   OO d AU b SIGN VIRAMA b LETTER DOT REPH b SIGN PARA bD54 LETTER CHILLU M d Y d LLL b AU LENGTH
   MARK b FRACTION ONE ONE-HUNDRED-AND-SIXTIETH d FORTIETH c THREE EIGHTIETHS c ONE TWENTIETH d
   TENTH c THREE TWENTIETHS c ONE FIFTH b LETTER ARCHAIC II c VOCALIC RR d LL b VOWEL SIGN
   VOCALIC L e LL bD66 DIGIT ZERO c ONE c TWO c THREE c FOUR c FIVE c SIX c SEVEN c EIGHT c NINE
   b NUMBER TEN c ONE HUNDRED d THOUSAND b FRACTION ONE QUARTER d HALF c THREE QUARTERS c ONE
   SIXTEENTH d EIGHTH c THREE SIXTEENTHS b DATE MARK b LETTER CHILLU NN d N d RR d L d LL d K
   aD81 SINHALA SIGN CANDRABINDU c ANUSVARAYA c VISARGAYA bD85 LETTER AYANNA c AAYANNA c AEYANNA
   c AEEYANNA c IYANNA c IIYANNA c UYANNA c UUYANNA c IRUYANNA c IRUUYANNA c ILUYANNA c ILUUYANNA
   c EYANNA c EEYANNA c AIYANNA c OYANNA c OOYANNA c AUYANNA cD9A ALPAPRAANA KAYANNA c
   MAHAAPRAANA KAYANNA c ALPAPRAANA GAYANNA c MAHAAPRAANA GAYANNA c KANTAJA NAASIKYAYA c SANYAKA
   GAYANNA c ALPAPRAANA CAYANNA c MAHAAPRAANA CAYANNA c ALPAPRAANA JAYANNA c MAHAAPRAANA JAYANNA
   c TAALUJA NAASIKYAYA d SANYOOGA NAAKSIKYAYA c SANYAKA JAYANNA c ALPAPRAANA TTAYANNA c
   MAHAAPRAANA TTAYANNA c ALPAPRAANA DDAYANNA c MAHAAPRAANA DDAYANNA c MUURDHAJA NAYANNA c
   SANYAKA DDAYANNA c ALPAPRAANA TAYANNA c MAHAAPRAANA TAYANNA c ALPAPRAANA DAYANNA c MAHAAPRAANA
   DAYANNA c DANTAJA NAYANNA cDB3 SANYAKA DAYANNA c ALPAPRAANA PAYANNA c MAHAAPRAANA PAYANNA c
   ALPAPRAANA BAYANNA c MAHAAPRAANA BAYANNA c MAYANNA c AMBA BAYANNA c YAYANNA c RAYANNA cDBD
   DANTAJA LAYANNA cDC0 VAYANNA c TAALUJA SAYANNA c MUURDHAJA SAYANNA c DANTAJA SAYANNA c HAYANNA
   c MUURDHAJA LAYANNA c FAYANNA bDCA SIGN AL-LAKUNA bDCF VOWEL SIGN AELA-PILLA d KETTI
   AEDA-PILLA d DIGA AEDA-PILLA d KETTI IS-PILLA d DIGA IS-PILLA d KETTI PAA-PILLA dDD6 DIGA
   PAA-PILLA dDD8 GAETTA-PILLA d KOMBUVA d DIGA KOMBUVA d KOMBU DEKA d KOMBUVA HAA AELA-PILLA f
   DIGA AELA-PILLA f GAYANUKITTA d GAYANUKITTA bDE6 LITH DIGIT ZERO d ONE d TWO d THREE d FOUR d
   FIVE d SIX d SEVEN d EIGHT d NINE bDF2 VOWEL SIGN DIGA GAETTA-PILLA e GAYANUKITTA b
   PUNCTUATION KUNDDALIYA aE01 THAI CHARACTER KO KAI c KHO KHAI d KHUAT d KHWAI d KHON d RAKHANG
   c NGO NGU c CHO CHAN d CHING d CHANG c SO SO c CHO CHOE c YO YING c DO CHADA c TO PATAK c THO
   THAN d NANGMONTHO d PHUTHAO c NO NEN c DO DEK c TO TAO c THO THUNG d THAHAN d THONG c NO NU c
   BO BAIMAI c PO PLA c PHO PHUNG c FO FA c PHO PHAN c FO FAN c PHO SAMPHAO c MO MA c YO YAK c RO
   RUA c RU c LO LING c LU c WO WAEN c SO SALA d RUSI d SUA c HO HIP c LO CHULA c O ANG c HO
   NOKHUK c PAIYANNOI c SARA A c MAI HAN-AKAT c SARA AA d AM d I d II d UE d UEE d U d UU c
   PHINTHU bE3F CURRENCY SYMBOL BAHT b CHARACTER SARA E d AE d O d AI MAIMUAN e MAIMALAI c
   LAKKHANGYAO c MAIYAMOK c MAITAIKHU c MAI EK d THO d TRI d CHATTAWA c THANTHAKHAT c NIKHAHIT c
   YAMAKKAN c FONGMAN b DIGIT ZERO c ONE c TWO c THREE c FOUR c FIVE c SIX c SEVEN c EIGHT c NINE
   b CHARACTER ANGKHANKHU c KHOMUT aE81 LAO LETTER KO c KHO SUNG dE84 TAM cE86 PALI GHA c NGO c
   CO c PALI CHA c SO TAM cE8C PALI JHA c NYO c PALI NYA d TTA d TTHA d DDA d DDHA d NNA c DO c
   TO c THO SUNG d TAM c PALI DHA c NO c BO c PO c PHO SUNG c FO TAM c PHO TAM c FO SUNG c PALI
   BHA c MO c YO c LO LING dEA5 LOOT cEA7 WO c SANSKRIT SHA d SSA c SO SUNG c HO SUNG c PALI LLA
   c O c HO TAM b ELLIPSIS b VOWEL SIGN A d MAI KAN d AA d AM d I d II d Y d YY d U d UU b SIGN
   PALI VIRAMA b VOWEL SIGN MAI KON b SEMIVOWEL SIGN LO d NYO bEC0 VOWEL SIGN E d EI d O d AY d
   AI bEC6 KO LA bEC8 TONE MAI EK d THO d TI d CATAWA b CANCELLATION MARK b NIGGAHITA bED0 DIGIT
   ZERO c ONE c TWO c THREE c FOUR c FIVE c SIX c SEVEN c EIGHT c NINE bEDC HO NO c MO b LETTER
   KHMU GO d NYO aF00 TIBETAN SYLLABLE OM b MARK GTER YIG MGO TRUNCATED A f -UM RNAM BCAD MA g
   GTER TSHEG MA c INITIAL YIG MGO MDUN MA c CLOSING YIG MGO SGAB MA c CARET YIG MGO PHUR SHAD MA
   c YIG MGO TSHEG SHAD MA c SBRUL SHAD c BSKUR YIG MGO c BKA- SHOG YIG MGO c INTERSYLLABIC TSHEG
   c DELIMITER TSHEG BSTAR c SHAD c NYIS SHAD c TSHEG SHAD c NYIS TSHEG SHAD c RIN CHEN SPUNGS
   SHAD c RGYA GRAM SHAD c CARET -DZUD RTAGS ME LONG CAN c GTER TSHEG b LOGOTYPE SIGN CHAD RTAGS
   d LHAG RTAGS b ASTROLOGICAL SIGN SGRA GCAN -CHAR RTAGS d -KHYUD PA d SDONG TSHUGS b SIGN RDEL
   DKAR GCIG e GNYIS e GSUM d NAG GCIG e GNYIS d DKAR RDEL NAG b DIGIT ZERO c ONE c TWO c THREE c
   FOUR c FIVE c SIX c SEVEN c EIGHT c NINE c HALF ONE d TWO d THREE d FOUR d FIVE d SIX d SEVEN
   d EIGHT d NINE d ZERO b MARK BSDUS RTAGS c NGAS BZUNG NYI ZLA c CARET -DZUD RTAGS BZHI MIG CAN
   c NGAS BZUNG SGOR RTAGS c CHE MGO c TSA -PHRU c GUG RTAGS GYON e GYAS c ANG KHANG GYON e GYAS
   b SIGN YAR TSHES c MAR TSHES b LETTER KA c KHA c GA c GHA c NGA c CA c CHA c JA cF49 NYA c TTA
   c TTHA c DDA c DDHA c NNA c TA c THA c DA c DHA c NA c PA c PHA c BA c BHA c MA c TSA c TSHA c
   DZA c DZHA c WA c ZHA c ZA c -A c YA c RA c LA c SHA c SSA c SA c HA c A c KSSA c FIXED-FORM
   RA c KKA c RRA bF71 VOWEL SIGN AA d I d II d U d UU d VOCALIC R e RR e L e LL d E d EE d O d
   OO b SIGN RJES SU NGA RO c RNAM BCAD b VOWEL SIGN REVERSED I e II b SIGN NYI ZLA NAA DA c SNA
   LDAN b MARK HALANTA c PALUTA b SIGN LCI RTAGS c YANG RTAGS c LCE TSA CAN c MCHU CAN c GRU CAN
   RGYINGS d MED RGYINGS c INVERTED MCHU CAN b SUBJOINED SIGN LCE TSA CAN d MCHU CAN d INVERTED
   MCHU CAN c LETTER KA d KHA d GA d GHA d NGA d CA d CHA d JA dF99 NYA d TTA d TTHA d DDA d DDHA
   d NNA d TA d THA d DA d DHA d NA d PA d PHA d BA d BHA d MA d TSA d TSHA d DZA d DZHA d WA d
   ZHA d ZA d -A d YA d RA d LA d SHA d SSA d SA d HA d A d KSSA d FIXED-FORM WA e YA e RA bFBE
   KU RU KHA e BZHI MIG CAN b CANTILLATION SIGN HEAVY BEAT d LIGHT BEAT d CANG TE-U d SBUB -CHAL
   b SYMBOL DRIL BU c RDO RJE c PADMA GDAN c RDO RJE RGYA GRAM c PHUR PA c NOR BU e NYIS -KHYIL e
   GSUM -KHYIL e BZHI -KHYIL bFCE SIGN RDEL NAG RDEL DKAR e GSUM b MARK BSKA- SHOG GI MGO RGYAN c
   MNYAM YIG GI MGO RGYAN c NYIS TSHEG c INITIAL BRDA RNYING YIG MGO MDUN MA c CLOSING BRDA
   RNYING YIG MGO SGAB MA a RIGHT-FACING SVASTI SIGN a LEFT-FACING SVASTI SIGN a RIGHT-FACING
   SVASTI SIGN WITH DOTS a LEFT-FACING SVASTI SIGN WITH DOTS a TIBETAN MARK LEADING MCHAN RTAGS c
   TRAILING MCHAN RTAGS a1000 MYANMAR LETTER KA c KHA c GA c GHA c NGA c CA c CHA c JA c JHA c
   NYA c NNYA c TTA c TTHA c DDA c DDHA c NNA c TA c THA c DA c DHA c NA c PA c PHA c BA c BHA c
   MA c YA c RA c LA c WA c SA c HA c LLA c A c SHAN A c I c II c U c UU c E c MON E c O c AU b
   VOWEL SIGN TALL AA d AA d I d II d U d UU d E d AI d MON II e O d E ABOVE b SIGN ANUSVARA c
   DOT BELOW c VISARGA c VIRAMA c ASAT b CONSONANT SIGN MEDIAL YA e RA e WA e HA b LETTER GREAT
   SA b DIGIT ZERO c ONE c TWO c THREE c FOUR c FIVE c SIX c SEVEN c EIGHT c NINE b SIGN LITTLE
   SECTION c SECTION b SYMBOL LOCATIVE c COMPLETED c AFOREMENTIONED c GENITIVE b LETTER SHA c SSA
   c VOCALIC R d RR d L d LL b VOWEL SIGN VOCALIC R e RR e L e LL b LETTER MON NGA d JHA d BBA d
   BBE b CONSONANT SIGN MON MEDIAL NA f MA f LA b LETTER SGAW KAREN SHA b VOWEL SIGN SGAW KAREN
   EU b TONE MARK SGAW KAREN HATHI f KE PHO b LETTER WESTERN PWO KAREN THA f PWA b VOWEL SIGN
   WESTERN PWO KAREN EU g UE b SIGN WESTERN PWO KAREN TONE-1 f TONE-2 f TONE-3 f TONE-4 f TONE-5
   b LETTER EASTERN PWO KAREN NNA f YWA f GHWA b VOWEL SIGN GEBA KAREN I d KAYAH OE e U e EE b
   LETTER SHAN KA d KHA d GA d CA d ZA d NYA d DA d NA d PHA d FA d BA d THA d HA b CONSONANT
   SIGN SHAN MEDIAL WA b VOWEL SIGN SHAN AA e E f ABOVE e FINAL Y b SIGN SHAN TONE-2 d TONE-3 d
   TONE-5 d TONE-6 d COUNCIL TONE-2 e TONE-3 e EMPHATIC TONE b LETTER RUMAI PALAUNG FA b SIGN
   RUMAI PALAUNG TONE-5 b SHAN DIGIT ZERO d ONE d TWO d THREE d FOUR d FIVE d SIX d SEVEN d EIGHT
   d NINE b SIGN KHAMTI TONE-1 d TONE-3 b VOWEL SIGN AITON A e AI b SYMBOL SHAN ONE d EXCLAMATION
   a GEORGIAN CAPITAL LETTER AN d BAN d GAN d DON d EN d VIN d ZEN d TAN d IN d KAN d LAS d MAN d
   NAR d ON d PAR d ZHAR d RAE d SAN d TAR d UN d PHAR d KHAR d GHAN d QAR d SHIN d CHIN d CAN d
   JIL d CIL d CHAR d XAN d JHAN d HAE d HE d HIE d WE d HAR d HOE d10C7 YN d10CD AEN b10D0
   LETTER AN c BAN c GAN c DON c EN c VIN c ZEN c TAN c IN c KAN c LAS c MAN c NAR c ON c PAR c
   ZHAR c RAE c SAN c TAR c UN c PHAR c KHAR c GHAN c QAR c SHIN c CHIN c CAN c JIL c CIL c CHAR
   c XAN c JHAN c HAE c HE c HIE c WE c HAR c HOE c FI c YN c ELIFI c TURNED GAN c AIN b
   PARAGRAPH SEPARATOR a MODIFIER LETTER GEORGIAN NAR a GEORGIAN LETTER AEN c HARD SIGN c LABIAL
   SIGN a HANGUL CHOSEONG KIYEOK c SSANGKIYEOK c NIEUN c TIKEUT c SSANGTIKEUT c RIEUL c MIEUM c
   PIEUP c SSANGPIEUP c SIOS c SSANGSIOS c IEUNG c CIEUC c SSANGCIEUC c CHIEUCH c KHIEUKH c
   THIEUTH c PHIEUPH c HIEUH c NIEUN-KIYEOK c SSANGNIEUN c NIEUN-TIKEUT c NIEUN-PIEUP c
   TIKEUT-KIYEOK c RIEUL-NIEUN c SSANGRIEUL c RIEUL-HIEUH c KAPYEOUNRIEUL c MIEUM-PIEUP c
   KAPYEOUNMIEUM c PIEUP-KIYEOK c PIEUP-NIEUN c PIEUP-TIKEUT c PIEUP-SIOS c PIEUP-SIOS-KIYEOK c
   PIEUP-SIOS-TIKEUT c PIEUP-SIOS-PIEUP c PIEUP-SSANGSIOS c PIEUP-SIOS-CIEUC c PIEUP-CIEUC c
   PIEUP-CHIEUCH c PIEUP-THIEUTH c PIEUP-PHIEUPH c KAPYEOUNPIEUP c KAPYEOUNSSANGPIEUP c
   SIOS-KIYEOK c SIOS-NIEUN c SIOS-TIKEUT c SIOS-RIEUL c SIOS-MIEUM c SIOS-PIEUP c
   SIOS-PIEUP-KIYEOK c SIOS-SSANGSIOS c SIOS-IEUNG c SIOS-CIEUC c SIOS-CHIEUCH c SIOS-KHIEUKH c
   SIOS-THIEUTH c SIOS-PHIEUPH c SIOS-HIEUH c CHITUEUMSIOS c CHITUEUMSSANGSIOS c CEONGCHIEUMSIOS
   c CEONGCHIEUMSSANGSIOS c PANSIOS c IEUNG-KIYEOK c IEUNG-TIKEUT c IEUNG-MIEUM c IEUNG-PIEUP c
   IEUNG-SIOS c IEUNG-PANSIOS c SSANGIEUNG c IEUNG-CIEUC c IEUNG-CHIEUCH c IEUNG-THIEUTH c
   IEUNG-PHIEUPH c YESIEUNG c CIEUC-IEUNG c CHITUEUMCIEUC c CHITUEUMSSANGCIEUC c CEONGCHIEUMCIEUC
   c CEONGCHIEUMSSANGCIEUC c CHIEUCH-KHIEUKH c CHIEUCH-HIEUH c CHITUEUMCHIEUCH c
   CEONGCHIEUMCHIEUCH c PHIEUPH-PIEUP c KAPYEOUNPHIEUPH c SSANGHIEUH c YEORINHIEUH c
   KIYEOK-TIKEUT c NIEUN-SIOS c NIEUN-CIEUC c NIEUN-HIEUH c TIKEUT-RIEUL c FILLER b JUNGSEONG
   FILLER c A c AE c YA c YAE c EO c E c YEO c YE c O c WA c WAE c OE c YO c U c WEO c WE c WI c
   YU c EU c YI c I c A-O c A-U c YA-O c YA-YO c EO-O c EO-U c EO-EU c YEO-O c YEO-U c O-EO c O-E
   c O-YE c O-O c O-U c YO-YA c YO-YAE c YO-YEO c YO-O c YO-I c U-A c U-AE c U-EO-EU c U-YE c U-U
   c YU-A c YU-EO c YU-E c YU-YEO c YU-YE c YU-U c YU-I c EU-U c EU-EU c YI-U c I-A c I-YA c I-O
   c I-U c I-EU c I-ARAEA c ARAEA c ARAEA-EO c ARAEA-U c ARAEA-I c SSANGARAEA c A-EU c YA-U c
   YEO-YA c O-YA c O-YAE b JONGSEONG KIYEOK c SSANGKIYEOK c KIYEOK-SIOS c NIEUN c NIEUN-CIEUC c
   NIEUN-HIEUH c TIKEUT c RIEUL c RIEUL-KIYEOK c RIEUL-MIEUM c RIEUL-PIEUP c RIEUL-SIOS c
   RIEUL-THIEUTH c RIEUL-PHIEUPH c RIEUL-HIEUH c MIEUM c PIEUP c PIEUP-SIOS c SIOS c SSANGSIOS c
   IEUNG c CIEUC c CHIEUCH c KHIEUKH c THIEUTH c PHIEUPH c HIEUH c KIYEOK-RIEUL c
   KIYEOK-SIOS-KIYEOK c NIEUN-KIYEOK c NIEUN-TIKEUT c NIEUN-SIOS c NIEUN-PANSIOS c NIEUN-THIEUTH
   c TIKEUT-KIYEOK c TIKEUT-RIEUL c RIEUL-KIYEOK-SIOS c RIEUL-NIEUN c RIEUL-TIKEUT c
   RIEUL-TIKEUT-HIEUH c SSANGRIEUL c RIEUL-MIEUM-KIYEOK c RIEUL-MIEUM-SIOS c RIEUL-PIEUP-SIOS c
   RIEUL-PIEUP-HIEUH c RIEUL-KAPYEOUNPIEUP c RIEUL-SSANGSIOS c RIEUL-PANSIOS c RIEUL-KHIEUKH c
   RIEUL-YEORINHIEUH c MIEUM-KIYEOK c MIEUM-RIEUL c MIEUM-PIEUP c MIEUM-SIOS c MIEUM-SSANGSIOS c
   MIEUM-PANSIOS c MIEUM-CHIEUCH c MIEUM-HIEUH c KAPYEOUNMIEUM c PIEUP-RIEUL c PIEUP-PHIEUPH c
   PIEUP-HIEUH c KAPYEOUNPIEUP c SIOS-KIYEOK c SIOS-TIKEUT c SIOS-RIEUL c SIOS-PIEUP c PANSIOS c
   IEUNG-KIYEOK c IEUNG-SSANGKIYEOK c SSANGIEUNG c IEUNG-KHIEUKH c YESIEUNG c YESIEUNG-SIOS c
   YESIEUNG-PANSIOS c PHIEUPH-PIEUP c KAPYEOUNPHIEUPH c HIEUH-NIEUN c HIEUH-RIEUL c HIEUH-MIEUM c
   HIEUH-PIEUP c YEORINHIEUH c KIYEOK-NIEUN c KIYEOK-PIEUP c KIYEOK-CHIEUCH c KIYEOK-KHIEUKH c
   KIYEOK-HIEUH c SSANGNIEUN a ETHIOPIC SYLLABLE HA c HU c HI c HAA c HEE c HE c HO c HOA c LA c
   LU c LI c LAA c LEE c LE c LO c LWA c HHA c HHU c HHI c HHAA c HHEE c HHE c HHO c HHWA c MA c
   MU c MI c MAA c MEE c ME c MO c MWA c SZA c SZU c SZI c SZAA c SZEE c SZE c SZO c SZWA c RA c
   RU c RI c RAA c REE c RE c RO c RWA c SA c SU c SI c SAA c SEE c SE c SO c SWA c SHA c SHU c
   SHI c SHAA c SHEE c SHE c SHO c SHWA c QA c QU c QI c QAA c QEE c QE c QO c QOA c QWA c124A
   QWI c QWAA c QWEE c QWE c1250 QHA c QHU c QHI c QHAA c QHEE c QHE c QHO c1258 QHWA c125A QHWI
   c QHWAA c QHWEE c QHWE c1260 BA c BU c BI c BAA c BEE c BE c BO c BWA c VA c VU c VI c VAA c
   VEE c VE c VO c VWA c TA c TU c TI c TAA c TEE c TE c TO c TWA c CA c CU c CI c CAA c CEE c CE
   c CO c CWA c XA c XU c XI c XAA c XEE c XE c XO c XOA c XWA c128A XWI c XWAA c XWEE c XWE
   c1290 NA c NU c NI c NAA c NEE c NE c NO c NWA c NYA c NYU c NYI c NYAA c NYEE c NYE c NYO c
   NYWA c GLOTTAL A d U d I d AA d EE d E d O d WA c KA c KU c KI c KAA c KEE c KE c KO c KOA c
   KWA c12B2 KWI c KWAA c KWEE c KWE c12B8 KXA c KXU c KXI c KXAA c KXEE c KXE c KXO c12C0 KXWA
   c12C2 KXWI c KXWAA c KXWEE c KXWE c12C8 WA c WU c WI c WAA c WEE c WE c WO c WOA c PHARYNGEAL
   A d U d I d AA d EE d E d O c12D8 ZA c ZU c ZI c ZAA c ZEE c ZE c ZO c ZWA c ZHA c ZHU c ZHI c
   ZHAA c ZHEE c ZHE c ZHO c ZHWA c YA c YU c YI c YAA c YEE c YE c YO c YOA c DA c DU c DI c DAA
   c DEE c DE c DO c DWA c DDA c DDU c DDI c DDAA c DDEE c DDE c DDO c DDWA c JA c JU c JI c JAA
   c JEE c JE c JO c JWA c GA c GU c GI c GAA c GEE c GE c GO c GOA c GWA c1312 GWI c GWAA c GWEE
   c GWE c1318 GGA c GGU c GGI c GGAA c GGEE c GGE c GGO c GGWAA c THA c THU c THI c THAA c THEE
   c THE c THO c THWA c CHA c CHU c CHI c CHAA c CHEE c CHE c CHO c CHWA c PHA c PHU c PHI c PHAA
   c PHEE c PHE c PHO c PHWA c TSA c TSU c TSI c TSAA c TSEE c TSE c TSO c TSWA c TZA c TZU c TZI
   c TZAA c TZEE c TZE c TZO c TZOA c FA c FU c FI c FAA c FEE c FE c FO c FWA c PA c PU c PI c
   PAA c PEE c PE c PO c PWA c RYA c MYA c FYA b135D COMBINING GEMINATION AND VOWEL LENGTH MARK c
   VOWEL LENGTH MARK c GEMINATION MARK b SECTION MARK b WORDSPACE b FULL STOP b COMMA b SEMICOLON
   b COLON b PREFACE COLON b QUESTION MARK b PARAGRAPH SEPARATOR b DIGIT ONE c TWO c THREE c FOUR
   c FIVE c SIX c SEVEN c EIGHT c NINE b NUMBER TEN c TWENTY c THIRTY c FORTY c FIFTY c SIXTY c
   SEVENTY c EIGHTY c NINETY c HUNDRED c TEN THOUSAND b1380 SYLLABLE SEBATBEIT MWA c MWI c MWEE c
   MWE c SEBATBEIT BWA c BWI c BWEE c BWE c SEBATBEIT FWA c FWI c FWEE c FWE c SEBATBEIT PWA c
   PWI c PWEE c PWE b TONAL MARK YIZET d DERET d RIKRIK d SHORT RIKRIK d DIFAT d KENAT d CHIRET d
   HIDET d DERET-HIDET d KURT a13A0 CHEROKEE LETTER A c E c I c O c U c V c GA c KA c GE c GI c
   GO c GU c GV c HA c HE c HI c HO c HU c HV c LA c LE c LI c LO c LU c LV c MA c ME c MI c MO c
   MU c NA c HNA c NAH c NE c NI c NO c NU c NV c QUA c QUE c QUI c QUO c QUU c QUV c SA c S c SE
   c SI c SO c SU c SV c DA c TA c DE c TE c DI c TI c DO c DU c DV c DLA c TLA c TLE c TLI c TLO
   c TLU c TLV c TSA c TSE c TSI c TSO c TSU c TSV c WA c WE c WI c WO c WU c WV c YA c YE c YI c
   YO c YU c YV c MV b13F8 SMALL LETTER YE d YI d YO d YU d YV d MV a1400 CANADIAN SYLLABICS
   HYPHEN c E c AAI c I c II c O c OO c Y-CREE OO c CARRIER EE d I c A c AA c WE c WEST-CREE WE c
   WI c WEST-CREE WI c WII c WEST-CREE WII c WO c WEST-CREE WO c WOO c WEST-CREE WOO c NASKAPI
   WOO c WA c WEST-CREE WA c WAA c WEST-CREE WAA c NASKAPI WAA c AI c Y-CREE W c GLOTTAL STOP c
   FINAL ACUTE d GRAVE d BOTTOM HALF RING d TOP HALF RING d RIGHT HALF RING d RING d DOUBLE ACUTE
   e SHORT VERTICAL STROKES d MIDDLE DOT d SHORT HORIZONTAL STROKE d PLUS d DOWN TACK c EN c IN c
   ON c AN c PE c PAAI c PI c PII c PO c POO c Y-CREE POO c CARRIER HEE d HI c PA c PAA c PWE c
   WEST-CREE PWE c PWI c WEST-CREE PWI c PWII c WEST-CREE PWII c PWO c WEST-CREE PWO c PWOO c
   WEST-CREE PWOO c PWA c WEST-CREE PWA c PWAA c WEST-CREE PWAA c Y-CREE PWAA c P c WEST-CREE P c
   CARRIER H c TE c TAAI c TI c TII c TO c TOO c Y-CREE TOO c CARRIER DEE d DI c TA c TAA c TWE c
   WEST-CREE TWE c TWI c WEST-CREE TWI c TWII c WEST-CREE TWII c TWO c WEST-CREE TWO c TWOO c
   WEST-CREE TWOO c TWA c WEST-CREE TWA c TWAA c WEST-CREE TWAA c NASKAPI TWAA c T c TTE c TTI c
   TTO c TTA c KE c KAAI c KI c KII c KO c KOO c Y-CREE KOO c KA c KAA c KWE c WEST-CREE KWE c
   KWI c WEST-CREE KWI c KWII c WEST-CREE KWII c KWO c WEST-CREE KWO c KWOO c WEST-CREE KWOO c
   KWA c WEST-CREE KWA c KWAA c WEST-CREE KWAA c NASKAPI KWAA c K c KW c SOUTH-SLAVEY KEH d KIH d
   KOH d KAH c CE c CAAI c CI c CII c CO c COO c Y-CREE COO c CA c CAA c CWE c WEST-CREE CWE c
   CWI c WEST-CREE CWI c CWII c WEST-CREE CWII c CWO c WEST-CREE CWO c CWOO c WEST-CREE CWOO c
   CWA c WEST-CREE CWA c CWAA c WEST-CREE CWAA c NASKAPI CWAA c C c SAYISI TH c ME c MAAI c MI c
   MII c MO c MOO c Y-CREE MOO c MA c MAA c MWE c WEST-CREE MWE c MWI c WEST-CREE MWI c MWII c
   WEST-CREE MWII c MWO c WEST-CREE MWO c MWOO c WEST-CREE MWOO c MWA c WEST-CREE MWA c MWAA c
   WEST-CREE MWAA c NASKAPI MWAA c M c WEST-CREE M c MH c ATHAPASCAN M c SAYISI M c NE c NAAI c
   NI c NII c NO c NOO c Y-CREE NOO c NA c NAA c NWE c WEST-CREE NWE c NWA c WEST-CREE NWA c NWAA
   c WEST-CREE NWAA c NASKAPI NWAA c N c CARRIER NG c NH c LE c LAAI c LI c LII c LO c LOO c
   Y-CREE LOO c LA c LAA c LWE c WEST-CREE LWE c LWI c WEST-CREE LWI c LWII c WEST-CREE LWII c
   LWO c WEST-CREE LWO c LWOO c WEST-CREE LWOO c LWA c WEST-CREE LWA c LWAA c WEST-CREE LWAA c L
   c WEST-CREE L c MEDIAL L c SE c SAAI c SI c SII c SO c SOO c Y-CREE SOO c SA c SAA c SWE c
   WEST-CREE SWE c SWI c WEST-CREE SWI c SWII c WEST-CREE SWII c SWO c WEST-CREE SWO c SWOO c
   WEST-CREE SWOO c SWA c WEST-CREE SWA c SWAA c WEST-CREE SWAA c NASKAPI SWAA c S c ATHAPASCAN S
   c SW c BLACKFOOT S c MOOSE-CREE SK c NASKAPI SKW d S-W d SPWA d STWA d SKWA d SCWA c SHE c SHI
   c SHII c SHO c SHOO c SHA c SHAA c SHWE c WEST-CREE SHWE c SHWI c WEST-CREE SHWI c SHWII c
   WEST-CREE SHWII c SHWO c WEST-CREE SHWO c SHWOO c WEST-CREE SHWOO c SHWA c WEST-CREE SHWA c
   SHWAA c WEST-CREE SHWAA c SH c YE c YAAI c YI c YII c YO c YOO c Y-CREE YOO c YA c YAA c YWE c
   WEST-CREE YWE c YWI c WEST-CREE YWI c YWII c WEST-CREE YWII c YWO c WEST-CREE YWO c YWOO c
   WEST-CREE YWOO c YWA c WEST-CREE YWA c YWAA c WEST-CREE YWAA c NASKAPI YWAA c Y c BIBLE-CREE Y
   c WEST-CREE Y c SAYISI YI c RE c R-CREE RE c WEST-CREE LE c RAAI c RI c RII c RO c ROO c
   WEST-CREE LO c RA c RAA c WEST-CREE LA c RWAA c WEST-CREE RWAA c R c WEST-CREE R c MEDIAL R c
   FE c FAAI c FI c FII c FO c FOO c FA c FAA c FWAA c WEST-CREE FWAA c F c THE c N-CREE THE c
   THI c N-CREE THI c THII c N-CREE THII c THO c THOO c THA c THAA c THWAA c WEST-CREE THWAA c TH
   c TTHE c TTHI c TTHO c TTHA c TTH c TYE c TYI c TYO c TYA c NUNAVIK HE d HI d HII d HO d HOO d
   HA d HAA d H c NUNAVUT H c HK c QAAI c QI c QII c QO c QOO c QA c QAA c Q c TLHE c TLHI c TLHO
   c TLHA c WEST-CREE RE d RI d RO d RA c NGAAI c NGI c NGII c NGO c NGOO c NGA c NGAA c NG c NNG
   c SAYISI SHE d SHI d SHO d SHA c WOODS-CREE THE d THI d THO d THA d TH c LHI c LHII c LHO c
   LHOO c LHA c LHAA c LH c TH-CREE THE d THI d THII d THO d THOO d THA d THAA d TH c AIVILIK B c
   BLACKFOOT E d I d O d A d WE d WI d WO d WA d NE d NI d NO d NA d KE d KI d KO d KA c SAYISI
   HE d HI d HO d HA c CARRIER GHU d GHO d GHE d GHEE d GHI d GHA d RU d RO d RE d REE d RI d RA
   d WU d WO d WE d WEE d WI d WA d HWU d HWO d HWE d HWEE d HWI d HWA d THU d THO d THE d THEE d
   THI d THA d TTU d TTO d TTE d TTEE d TTI d TTA d PU d PO d PE d PEE d PI d PA d P d GU d GO d
   GE d GEE d GI d GA d KHU d KHO d KHE d KHEE d KHI d KHA d KKU d KKO d KKE d KKEE d KKI d KKA d
   KK d NU d NO d NE d NEE d NI d NA d MU d MO d ME d MEE d MI d MA d YU d YO d YE d YEE d YI d
   YA d JU c SAYISI JU c CARRIER JO d JE d JEE d JI c SAYISI JI c CARRIER JA d JJU d JJO d JJE d
   JJEE d JJI d JJA d LU d LO d LE d LEE d LI d LA d DLU d DLO d DLE d DLEE d DLI d DLA d LHU d
   LHO d LHE d LHEE d LHI d LHA d TLHU d TLHO d TLHE d TLHEE d TLHI d TLHA d TLU d TLO d TLE d
   TLEE d TLI d TLA d ZU d ZO d ZE d ZEE d ZI d ZA d Z d INITIAL Z d DZU d DZO d DZE d DZEE d DZI
   d DZA d SU d SO d SE d SEE d SI d SA d SHU d SHO d SHE d SHEE d SHI d SHA d SH d TSU d TSO d
   TSE d TSEE d TSI d TSA d CHU d CHO d CHE d CHEE d CHI d CHA d TTSU d TTSO d TTSE d TTSEE d
   TTSI d TTSA c CHI SIGN c FULL STOP c QAI c NGAI c NNGI c NNGII c NNGO c NNGOO c NNGA c NNGAA c
   WOODS-CREE THWEE d THWI d THWII d THWO d THWOO d THWA d THWAA d FINAL TH c BLACKFOOT W a OGHAM
   SPACE MARK b LETTER BEITH c LUIS c FEARN c SAIL c NION c UATH c DAIR c TINNE c COLL c CEIRT c
   MUIN c GORT c NGEADAL c STRAIF c RUIS c AILM c ONN c UR c EADHADH c IODHADH c EABHADH c OR c
   UILLEANN c IFIN c EAMHANCHOLL c PEITH b FEATHER MARK b REVERSED FEATHER MARK a16A0 RUNIC
   LETTER FEHU FEOH FE F c V c URUZ UR U c YR c Y c W c THURISAZ THURS THORN c ETH c ANSUZ A c OS
   O c AC A c AESC c LONG-BRANCH-OSS O c SHORT-TWIG-OSS O c O c OE c ON c RAIDO RAD REID R c
   KAUNA c CEN c KAUN K c G c ENG c GEBO GYFU G c GAR c WUNJO WYNN W c HAGLAZ H c HAEGL H c
   LONG-BRANCH-HAGALL H c SHORT-TWIG-HAGALL H c NAUDIZ NYD NAUD N c SHORT-TWIG-NAUD N c DOTTED-N
   c ISAZ IS ISS I c E c JERAN J c GER c LONG-BRANCH-AR AE c SHORT-TWIG-AR A c IWAZ EOH c PERTHO
   PEORTH P c ALGIZ EOLHX c SOWILO S c SIGEL LONG-BRANCH-SOL S c SHORT-TWIG-SOL S c C c Z c TIWAZ
   TIR TYR T c SHORT-TWIG-TYR T c D c BERKANAN BEORC BJARKAN B c SHORT-TWIG-BJARKAN B c DOTTED-P
   c OPEN-P c EHWAZ EH E c MANNAZ MAN M c LONG-BRANCH-MADR M c SHORT-TWIG-MADR M c LAUKAZ LAGU
   LOGR L c DOTTED-L c INGWAZ c ING c DAGAZ DAEG D c OTHALAN ETHEL O c EAR c IOR c CWEORTH c CALC
   c CEALC c STAN c LONG-BRANCH-YR c SHORT-TWIG-YR c ICELANDIC-YR c Q c X b SINGLE PUNCTUATION b
   MULTIPLE PUNCTUATION b CROSS PUNCTUATION b ARLAUG SYMBOL b TVIMADUR SYMBOL b BELGTHOR SYMBOL b
   LETTER K c SH c OO c FRANKS CASKET OS e IS e EH e AC e AESC a1700 TAGALOG LETTER A c I c U c
   KA c GA c NGA c TA c DA c NA c PA c BA c MA c YA c RA c LA c WA c SA c HA b VOWEL SIGN I d U b
   SIGN VIRAMA c PAMUDPOD b171F LETTER ARCHAIC RA a HANUNOO LETTER A c I c U c KA c GA c NGA c TA
   c DA c NA c PA c BA c MA c YA c RA c LA c WA c SA c HA b VOWEL SIGN I d U b SIGN PAMUDPOD a
   PHILIPPINE SINGLE PUNCTUATION b DOUBLE PUNCTUATION a1740 BUHID LETTER A c I c U c KA c GA c
   NGA c TA c DA c NA c PA c BA c MA c YA c RA c LA c WA c SA c HA b VOWEL SIGN I d U a1760
   TAGBANWA LETTER A c I c U c KA c GA c NGA c TA c DA c NA c PA c BA c MA c YA c176E LA c WA c
   SA b1772 VOWEL SIGN I d U a1780 KHMER LETTER KA c KHA c KO c KHO c NGO c CA c CHA c CO c CHO c
   NYO c DA c TTHA c DO c TTHO c NNO c TA c THA c TO c THO c NO c BA c PHA c PO c PHO c MO c YO c
   RO c LO c VO c SHA c SSO c SA c HA c LA c QA b INDEPENDENT VOWEL QAQ d QAA d QI d QII d QU d
   QUK d QUU d QUUV d RY d RYY d LY d LYY d QE d QAI d QOO TYPE ONE f TWO d QAU b VOWEL INHERENT
   AQ d AA c SIGN AA d I d II d Y d YY d U d UU d UA d OE d YA d IE d E d AE d AI d OO d AU b
   SIGN NIKAHIT c REAHMUK c YUUKALEAPINTU c MUUSIKATOAN c TRIISAP c BANTOC c ROBAT c TOANDAKHIAT
   c KAKABAT c AHSDA c SAMYOK SANNYA c VIRIAM c COENG c BATHAMASAT c KHAN c BARIYOOSAN c CAMNUC
   PII KUUH c LEK TOO c BEYYAL c PHNAEK MUAN c KOOMUUT b CURRENCY SYMBOL RIEL b SIGN
   AVAKRAHASANYA c ATTHACAN b17E0 DIGIT ZERO c ONE c TWO c THREE c FOUR c FIVE c SIX c SEVEN c
   EIGHT c NINE b17F0 SYMBOL LEK ATTAK SON e MUOY e PII e BEI e BUON e PRAM e PRAM-MUOY e
   PRAM-PII e PRAM-BEI e PRAM-BUON a1800 MONGOLIAN BIRGA b ELLIPSIS b COMMA b FULL STOP b COLON b
   FOUR DOTS b TODO SOFT HYPHEN b SIBE SYLLABLE BOUNDARY MARKER b MANCHU COMMA c FULL STOP b
   NIRUGU b FREE VARIATION SELECTOR ONE e TWO e THREE b VOWEL SEPARATOR b FREE VARIATION SELECTOR
   FOUR b DIGIT ZERO c ONE c TWO c THREE c FOUR c FIVE c SIX c SEVEN c EIGHT c NINE b1820 LETTER
   A c E c I c O c U c OE c UE c EE c NA c ANG c BA c PA c QA c GA c MA c LA c SA c SHA c TA c DA
   c CHA c JA c YA c RA c WA c FA c KA c KHA c TSA c ZA c HAA c ZRA c LHA c ZHI c CHI c TODO LONG
   VOWEL SIGN d E d I d O d U d OE d UE d ANG d BA d PA d QA d GA d MA d TA d DA d CHA d JA d TSA
   d YA d WA d KA d GAA d HAA d JIA d NIA d DZA c SIBE E d I d IY d UE d U d ANG d KA d GA d HA d
   PA d SHA d TA d DA d JA d FA d GAA d HAA d TSA d ZA d RAA d CHA d ZHA c MANCHU I d KA d RA d
   FA d ZHA c CHA WITH TWO DOTS c1880 ALI GALI ANUSVARA ONE e VISARGA ONE e DAMARU e UBADAMA e
   INVERTED UBADAMA e BALUDA e THREE BALUDA e A e I e KA e NGA e CA e TTA e TTHA e DDA e NNA e TA
   e DA e PA e PHA e SSA e ZHA e ZA e AH c TODO ALI GALI TA f ZHA c MANCHU ALI GALI GHA f NGA f
   CA f JHA f TTA f DDHA f TA f DHA f SSA f CYA f ZHA f ZA c ALI GALI HALF U f YA c MANCHU ALI
   GALI BHA c ALI GALI DAGALGA c MANCHU ALI GALI LHA a18B0 CANADIAN SYLLABICS OY c AY c AAY c WAY
   c POY c PAY c PWOY c TAY c KAY c KWAY c MAY c NOY c NAY c LAY c SOY c SAY c SHOY c SHAY c
   SHWOY c YOY c YAY c RAY c NWI c OJIBWAY NWI c NWII c OJIBWAY NWII c NWO c OJIBWAY NWO c NWOO c
   OJIBWAY NWOO c RWEE c RWI c RWII c RWO c RWOO c RWA c OJIBWAY P d T d K d C d M d N d S d SH c
   EASTERN W c WESTERN W c FINAL SMALL RING d RAISED DOT c R-CREE RWE c WEST-CREE LOO d LAA c
   THWE c THWA c TTHWE c TTHOO c TTHAA c TLHWE c TLHOO c SAYISI SHWE d SHOO d HOO c CARRIER GWU d
   DENE GEE d GAA d GWA c SAYISI JUU c CARRIER JWA c BEAVER DENE L e R c CARRIER DENTAL S a1900
   LIMBU VOWEL-CARRIER LETTER b LETTER KA c KHA c GA c GHA c NGA c CA c CHA c JA c JHA c YAN c TA
   c THA c DA c DHA c NA c PA c PHA c BA c BHA c MA c YA c RA c LA c WA c SHA c SSA c SA c HA c
   GYAN c TRA b1920 VOWEL SIGN A d I d U d EE d AI d OO d AU d E d O b SUBJOINED LETTER YA d RA d
   WA b1930 SMALL LETTER KA d NGA d ANUSVARA d TA d NA d PA d MA d RA d LA b SIGN MUKPHRENG c
   KEMPHRENG c SA-I c1940 LOO b1944 EXCLAMATION MARK b QUESTION MARK b DIGIT ZERO c ONE c TWO c
   THREE c FOUR c FIVE c SIX c SEVEN c EIGHT c NINE a TAI LE LETTER KA d XA d NGA d TSA d SA d YA
   d TA d THA d LA d PA d PHA d MA d FA d VA d HA d QA d KHA d TSHA d NA d A d I d EE d EH d U d
   OO d O d UE d E d AUE d AI d1970 TONE-2 d TONE-3 d TONE-4 d TONE-5 d TONE-6 a1980 NEW TAI LUE
   LETTER HIGH QA e LOW QA e HIGH KA f XA f NGA e LOW KA f XA f NGA e HIGH TSA f SA f YA e LOW
   TSA f SA f YA e HIGH TA f THA f NA e LOW TA f THA f NA e HIGH PA f PHA f MA e LOW PA f PHA f
   MA e HIGH FA f VA f LA e LOW FA f VA f LA e HIGH HA f DA f BA e LOW HA f DA f BA e HIGH KVA f
   XVA e LOW KVA f XVA e HIGH SUA e LOW SUA d19B0 VOWEL SIGN VOWEL SHORTENER f AA f II f U f UU f
   E f AE f O f OA f UE f AY f AAY f UY f OY f OAY f UEY f IY d LETTER FINAL V f NG f N f M f K f
   D f B d TONE MARK-1 e MARK-2 d19D0 DIGIT ZERO e ONE e TWO e THREE e FOUR e FIVE e SIX e SEVEN
   e EIGHT e NINE d THAM DIGIT ONE d19DE SIGN LAE e LAEV a KHMER SYMBOL PATHAMASAT c MUOY KOET c
   PII KOET c BEI KOET c BUON KOET c PRAM KOET c PRAM-MUOY KOET c PRAM-PII KOET c PRAM-BEI KOET c
   PRAM-BUON KOET c DAP KOET c DAP-MUOY KOET c DAP-PII KOET c DAP-BEI KOET c DAP-BUON KOET c
   DAP-PRAM KOET c TUTEYASAT c MUOY ROC c PII ROC c BEI ROC c BUON ROC c PRAM ROC c PRAM-MUOY ROC
   c PRAM-PII ROC c PRAM-BEI ROC c PRAM-BUON ROC c DAP ROC c DAP-MUOY ROC c DAP-PII ROC c DAP-BEI
   ROC c DAP-BUON ROC c DAP-PRAM ROC a BUGINESE LETTER KA c GA c NGA c NGKA c PA c BA c MA c MPA
   c TA c DA c NA c NRA c CA c JA c NYA c NYCA c YA c RA c LA c VA c SA c A c HA b VOWEL SIGN I d
   U d E d O d AE b1A1E PALLAWA b END OF SECTION a TAI THAM LETTER HIGH KA e KHA e KXA d LOW KA e
   KXA e KHA d NGA d HIGH CA e CHA d LOW CA e SA e CHA d NYA d RATA d HIGH RATHA d DA d LOW RATHA
   d RANA d HIGH TA e THA d LOW TA e THA d NA d BA d HIGH PA e PHA e FA d LOW PA e FA e PHA d MA
   d LOW YA d HIGH YA d RA d RUE d LA d LUE d WA d HIGH SHA e SSA e SA e HA d LLA d A d LOW HA d
   I d II d U d UU d EE d OO d LAE d GREAT SA c CONSONANT SIGN MEDIAL RA f LA e LA TANG LAI c
   SIGN MAI KANG LAI c CONSONANT SIGN FINAL NGA e LOW PA e HIGH RATHA OR LOW PA e MA e BA e SA
   c1A60 SIGN SAKOT c VOWEL SIGN A e MAI SAT e AA e TALL AA e I e II e UE e UUE e U e UU e O e OA
   BELOW e OY e E e AE e OO e AI e THAM AI e OA ABOVE c SIGN MAI KANG d TONE-1 d TONE-2 d KHUEN
   TONE-3 e TONE-4 e TONE-5 d RA HAAM d MAI SAM d KHUEN-LUE KARAN c1A7F COMBINING CRYPTOGRAMMIC
   DOT c HORA DIGIT ZERO e ONE e TWO e THREE e FOUR e FIVE e SIX e SEVEN e EIGHT e NINE c1A90
   THAM DIGIT ZERO e ONE e TWO e THREE e FOUR e FIVE e SIX e SEVEN e EIGHT e NINE c1AA0 SIGN
   WIANG d WIANGWAAK d SAWAN d KEOW d HOY d DOKMAI d REVERSED ROTATED RANA d MAI YAMOK d KAAN d
   KAANKUU d SATKAAN d SATKAANKUU d HANG d CAANG a1AB0 COMBINING DOUBLED CIRCUMFLEX ACCENT b
   DIAERESIS-RING b INFINITY b DOWNWARDS ARROW b TRIPLE DOT b X-X BELOW b WIGGLY LINE BELOW b
   OPEN MARK BELOW b DOUBLE OPEN MARK BELOW b LIGHT CENTRALIZATION STROKE BELOW b STRONG
   CENTRALIZATION STROKE BELOW b PARENTHESES ABOVE b DOUBLE PARENTHESES ABOVE b PARENTHESES BELOW
   c OVERLAY b LATIN SMALL LETTER W BELOW e TURNED W BELOW b LEFT PARENTHESIS ABOVE LEFT b RIGHT
   PARENTHESIS ABOVE RIGHT b LEFT PARENTHESIS BELOW LEFT b RIGHT PARENTHESIS BELOW RIGHT b SQUARE
   BRACKETS ABOVE b NUMBER SIGN ABOVE b INVERTED DOUBLE ARCH ABOVE b PLUS SIGN ABOVE b DOUBLE
   PLUS SIGN ABOVE e BELOW b TRIPLE ACUTE ACCENT b LATIN SMALL LETTER INSULAR G f R f T a1B00
   BALINESE SIGN ULU RICEM d CANDRA c CECEK c SURANG c BISAH b LETTER AKARA d TEDUNG c IKARA d
   TEDUNG c UKARA d TEDUNG c RA REPA e TEDUNG c LA LENGA e TEDUNG c EKARA c AIKARA c OKARA d
   TEDUNG c KA d MAHAPRANA c GA d GORA c NGA c CA d LACA c JA d JERA c NYA c TA LATIK d MURDA
   MAHAPRANA c DA MURDA ALPAPRANA e MAHAPRANA c NA RAMBAT c TA d TAWA c DA d MADU c NA c PA d
   KAPAL c BA d KEMBANG c MA c YA c RA c LA c WA c SA SAGA d SAPA d c HA b SIGN REREKAN b VOWEL
   SIGN TEDUNG d ULU e SARI d SUKU e ILUT d RA REPA f TEDUNG d LA LENGA f TEDUNG d TALING e REPA
   e TEDUNG e REPA TEDUNG d PEPET e TEDUNG b ADEG ADEG b LETTER KAF SASAK c KHOT SASAK c TZIR
   SASAK c EF SASAK c VE SASAK c ZAL SASAK c ASYURA SASAK c ARCHAIC JNYA b1B50 DIGIT ZERO c ONE c
   TWO c THREE c FOUR c FIVE c SIX c SEVEN c EIGHT c NINE b PANTI b PAMADA b WINDU b CARIK
   PAMUNGKAH c SIKI c PAREREN b PAMENENG b MUSICAL SYMBOL DONG d DENG d DUNG d DANG e SURANG d
   DING d DAENG d DEUNG d DAING d DANG GEDE d COMBINING TEGEH e ENDEP e KEMPUL e KEMPLI e JEGOGAN
   e KEMPUL WITH JEGOGAN e KEMPLI WITH JEGOGAN e BENDE e GONG d RIGHT-HAND OPEN DUG f DAG e
   CLOSED TUK f TAK d LEFT-HAND OPEN PANG f PUNG e CLOSED PLAK f PLUK e OPEN PING b PANTI LANTANG
   b PAMADA LANTANG a1B80 SUNDANESE SIGN PANYECEK c PANGLAYAR c PANGWISAD b LETTER A c I c U c AE
   c O c E c EU c KA c QA c GA c NGA c CA c JA c ZA c NYA c TA c DA c NA c PA c FA c VA c BA c MA
   c YA c RA c LA c WA c SA c XA c HA b CONSONANT SIGN PAMINGKAL d PANYAKRA d PANYIKU b VOWEL
   SIGN PANGHULU d PANYUKU d PANAELAENG d PANOLONG d PAMEPET d PANEULEUNG b SIGN PAMAAEH c VIRAMA
   b CONSONANT SIGN PASANGAN MA e WA b LETTER KHA c SYA b DIGIT ZERO c ONE c TWO c THREE c FOUR c
   FIVE c SIX c SEVEN c EIGHT c NINE b AVAGRAHA b LETTER REU c LEU c BHA c FINAL K d M a BATAK
   LETTER A c SIMALUNGUN A c HA c SIMALUNGUN HA c MANDAILING HA c BA c KARO BA c PA c SIMALUNGUN
   PA c NA c MANDAILING NA c WA c SIMALUNGUN WA c PAKPAK WA c GA c SIMALUNGUN GA c JA c DA c RA c
   SIMALUNGUN RA c MA c SIMALUNGUN MA c SOUTHERN TA c NORTHERN TA c SA c SIMALUNGUN SA c
   MANDAILING SA c YA c SIMALUNGUN YA c NGA c LA c SIMALUNGUN LA c NYA c CA c NDA c MBA c I c U b
   SIGN TOMPI b VOWEL SIGN E d PAKPAK E d EE d I d KARO I d O d KARO O d U e FOR SIMALUNGUN SA b
   CONSONANT SIGN NG d H b PANGOLAT b PANONGONAN b1BFC SYMBOL BINDU NA METEK d PINARBORAS d JUDUL
   d PANGOLAT a LEPCHA LETTER KA c KLA c KHA c GA c GLA c NGA c CA c CHA c JA c NYA c TA c THA c
   DA c NA c PA c PLA c PHA c FA c FLA c BA c BLA c MA c MLA c TSA c TSHA c DZA c YA c RA c LA c
   HA c HLA c VA c SA c SHA c WA c A b SUBJOINED LETTER YA d RA b VOWEL SIGN AA d I d O d OO d U
   d UU d E b CONSONANT SIGN K d M d L d N d P d R d T d NYIN-DO d KANG b SIGN RAN c NUKTA b1C3B
   PUNCTUATION TA-ROL c NYET THYOOM TA-ROL c CER-WA c TSHOOK CER-WA d b DIGIT ZERO c ONE c TWO c
   THREE c FOUR c FIVE c SIX c SEVEN c EIGHT c NINE b1C4D LETTER TTA c TTHA c DDA a OL CHIKI
   DIGIT ZERO d ONE d TWO d THREE d FOUR d FIVE d SIX d SEVEN d EIGHT d NINE c LETTER LA d AT d
   AG d ANG d AL d LAA d AAK d AAJ d AAM d AAW d LI d IS d IH d INY d IR d LU d UC d UD d UNN d
   UY d LE d EP d EDD d EN d ERR d LO d OTT d OB d OV d OH c MU TTUDDAG c GAAHLAA TTUDDAAG c
   MU-GAAHLAA TTUDDAAG c RELAA c PHAARKAA c AHAD c PUNCTUATION MUCAAD d DOUBLE MUCAAD a CYRILLIC
   SMALL LETTER ROUNDED VE d LONG-LEGGED DE d NARROW O d WIDE ES d TALL TE d THREE-LEGGED TE d
   TALL HARD SIGN e YAT d UNBLENDED UK a1C90 GEORGIAN MTAVRULI CAPITAL LETTER AN e BAN e GAN e
   DON e EN e VIN e ZEN e TAN e IN e KAN e LAS e MAN e NAR e ON e PAR e ZHAR e RAE e SAN e TAR e
   UN e PHAR e KHAR e GHAN e QAR e SHIN e CHIN e CAN e JIL e CIL e CHAR e XAN e JHAN e HAE e HE e
   HIE e WE e HAR e HOE e FI e YN e ELIFI e TURNED GAN e AIN e1CBD AEN e HARD SIGN e LABIAL SIGN
   a SUNDANESE PUNCTUATION BINDU SURYA d PANGLONG d PURNAMA d CAKRA d LEU SATANGA d KA SATANGA d
   DA SATANGA d BA SATANGA a1CD0 VEDIC TONE KARSHANA c SHARA c PRENKHA b SIGN NIHSHVASA c
   YAJURVEDIC MIDLINE SVARITA b TONE YAJURVEDIC AGGRAVATED INDEPENDENT SVARITA d INDEPENDENT
   SVARITA d KATHAKA INDEPENDENT SVARITA c CANDRA BELOW c YAJURVEDIC KATHAKA INDEPENDENT SVARITA
   SCHROEDER c DOUBLE SVARITA c TRIPLE SVARITA c KATHAKA ANUDATTA c DOT BELOW c TWO DOTS BELOW c
   THREE DOTS BELOW c RIGVEDIC KASHMIRI INDEPENDENT SVARITA c ATHARVAVEDIC INDEPENDENT SVARITA b
   SIGN VISARGA SVARITA d UDATTA c REVERSED VISARGA UDATTA c VISARGA ANUDATTA c REVERSED VISARGA
   ANUDATTA c VISARGA UDATTA WITH TAIL d ANUDATTA WITH TAIL c ANUSVARA ANTARGOMUKHA d
   BAHIRGOMUKHA d VAMAGOMUKHA e WITH TAIL c TIRYAK c HEXIFORM LONG ANUSVARA c LONG ANUSVARA c
   RTHANG LONG ANUSVARA c ANUSVARA UBHAYATO MUKHA c ARDHAVISARGA c ROTATED ARDHAVISARGA b TONE
   CANDRA ABOVE b SIGN JIHVAMULIYA c UPADHMANIYA c ATIKRAMA b TONE RING ABOVE c DOUBLE RING ABOVE
   b SIGN DOUBLE ANUSVARA ANTARGOMUKHA a1D00 LATIN LETTER SMALL CAPITAL A e AE b SMALL LETTER
   TURNED AE b LETTER SMALL CAPITAL BARRED B e C e D e ETH e E b SMALL LETTER TURNED OPEN E e I b
   LETTER SMALL CAPITAL J e K e L WITH STROKE e M e REVERSED N e O e OPEN O b SMALL LETTER
   SIDEWAYS O e OPEN O e O WITH STROKE d TURNED OE b LETTER SMALL CAPITAL OU b SMALL LETTER TOP
   HALF O d BOTTOM HALF O b LETTER SMALL CAPITAL P e REVERSED R e TURNED R e T e U b SMALL LETTER
   SIDEWAYS U e DIAERESIZED U e TURNED M b LETTER SMALL CAPITAL V e W e Z e EZH c VOICED
   LARYNGEAL SPIRANT c AIN a GREEK LETTER SMALL CAPITAL GAMMA e LAMDA e PI e RHO e PSI a CYRILLIC
   LETTER SMALL CAPITAL EL a MODIFIER LETTER CAPITAL A d AE d B d BARRED B d D d E d REVERSED E d
   G d H d I d J d K d L d M d N d REVERSED N d O d OU d P d R d T d U d W c SMALL A d TURNED A d
   ALPHA d TURNED AE d B d D d E d SCHWA d OPEN E d TURNED OPEN E d G d TURNED I d K d M d ENG d
   O d OPEN O d TOP HALF O d BOTTOM HALF O d P d T d U d SIDEWAYS U d TURNED M d V d AIN d BETA d
   GREEK GAMMA d DELTA d GREEK PHI d CHI a LATIN SUBSCRIPT SMALL LETTER I e R e U e V a GREEK
   SUBSCRIPT SMALL LETTER BETA e GAMMA e RHO e PHI e CHI a LATIN SMALL LETTER UE d B WITH MIDDLE
   TILDE d D WITH MIDDLE TILDE d F WITH MIDDLE TILDE d M WITH MIDDLE TILDE d N WITH MIDDLE TILDE
   d P WITH MIDDLE TILDE d R WITH MIDDLE TILDE f FISHHOOK AND MIDDLE TILDE d S WITH MIDDLE TILDE
   d T WITH MIDDLE TILDE d Z WITH MIDDLE TILDE d TURNED G a MODIFIER LETTER CYRILLIC EN a LATIN
   SMALL LETTER INSULAR G d TH WITH STRIKETHROUGH c CAPITAL LETTER I WITH STROKE c LETTER IOTA
   WITH STROKE d P WITH STROKE c CAPITAL LETTER U WITH STROKE c LETTER UPSILON WITH STROKE d B
   WITH PALATAL HOOK d D WITH PALATAL HOOK d F WITH PALATAL HOOK d G WITH PALATAL HOOK d K WITH
   PALATAL HOOK d L WITH PALATAL HOOK d M WITH PALATAL HOOK d N WITH PALATAL HOOK d P WITH
   PALATAL HOOK d R WITH PALATAL HOOK d S WITH PALATAL HOOK d ESH WITH PALATAL HOOK d V WITH
   PALATAL HOOK d X WITH PALATAL HOOK d Z WITH PALATAL HOOK d A WITH RETROFLEX HOOK d ALPHA WITH
   RETROFLEX HOOK d D WITH HOOK AND TAIL d E WITH RETROFLEX HOOK d OPEN E WITH RETROFLEX HOOK d
   REVERSED OPEN E WITH RETROFLEX HOOK d SCHWA WITH RETROFLEX HOOK d I WITH RETROFLEX HOOK d OPEN
   O WITH RETROFLEX HOOK d ESH WITH RETROFLEX HOOK d U WITH RETROFLEX HOOK d EZH WITH RETROFLEX
   HOOK a MODIFIER LETTER SMALL TURNED ALPHA d C e WITH CURL d ETH d REVERSED OPEN E d F d
   DOTLESS J WITH STROKE d SCRIPT G d TURNED H d I WITH STROKE d IOTA d CAPITAL I f WITH STROKE d
   J WITH CROSSED-TAIL d L WITH RETROFLEX HOOK f PALATAL HOOK d CAPITAL L d M WITH HOOK d TURNED
   M WITH LONG LEG d N WITH LEFT HOOK f RETROFLEX HOOK d CAPITAL N d BARRED O d PHI d S WITH HOOK
   d ESH d T WITH PALATAL HOOK d U BAR d UPSILON d CAPITAL U d V WITH HOOK d TURNED V d Z e WITH
   RETROFLEX HOOK f CURL d EZH d THETA a COMBINING DOTTED GRAVE ACCENT c ACUTE ACCENT b SNAKE
   BELOW b SUSPENSION MARK b MACRON-ACUTE b GRAVE-MACRON b MACRON-GRAVE b ACUTE-MACRON b
   GRAVE-ACUTE-GRAVE b ACUTE-GRAVE-ACUTE b LATIN SMALL LETTER R BELOW b BREVE-MACRON b
   MACRON-BREVE b DOUBLE CIRCUMFLEX ABOVE b OGONEK ABOVE b ZIGZAG BELOW b IS BELOW b UR ABOVE b
   US ABOVE b LATIN SMALL LETTER FLATTENED OPEN A ABOVE e AE e AO e AV e C CEDILLA e INSULAR D e
   ETH e G c LETTER SMALL CAPITAL G c SMALL LETTER K e L c LETTER SMALL CAPITAL L f M c SMALL
   LETTER N c LETTER SMALL CAPITAL N f R c SMALL LETTER R ROTUNDA e S e LONG S e Z e ALPHA e B e
   BETA e SCHWA e F e L WITH DOUBLE MIDDLE TILDE e O WITH LIGHT CENTRALIZATION STROKE e P e ESH e
   U WITH LIGHT CENTRALIZATION STROKE e W e A WITH DIAERESIS e O WITH DIAERESIS e U WITH
   DIAERESIS b UP TACK ABOVE b KAVYKA ABOVE RIGHT d LEFT b DOT ABOVE LEFT b WIDE INVERTED BRIDGE
   BELOW b DOT BELOW LEFT b DELETION MARK b DOUBLE INVERTED BREVE BELOW b ALMOST EQUAL TO BELOW b
   LEFT ARROWHEAD ABOVE b RIGHT ARROWHEAD AND DOWN ARROWHEAD BELOW a LATIN CAPITAL LETTER A WITH
   RING BELOW b SMALL LETTER A WITH RING BELOW b CAPITAL LETTER B WITH DOT ABOVE b SMALL LETTER B
   WITH DOT ABOVE b CAPITAL LETTER B WITH DOT BELOW b SMALL LETTER B WITH DOT BELOW b CAPITAL
   LETTER B WITH LINE BELOW b SMALL LETTER B WITH LINE BELOW b CAPITAL LETTER C WITH CEDILLA AND
   ACUTE b SMALL LETTER C WITH CEDILLA AND ACUTE b CAPITAL LETTER D WITH DOT ABOVE b SMALL LETTER
   D WITH DOT ABOVE b CAPITAL LETTER D WITH DOT BELOW b SMALL LETTER D WITH DOT BELOW b CAPITAL
   LETTER D WITH LINE BELOW b SMALL LETTER D WITH LINE BELOW b CAPITAL LETTER D WITH CEDILLA b
   SMALL LETTER D WITH CEDILLA b CAPITAL LETTER D WITH CIRCUMFLEX BELOW b SMALL LETTER D WITH
   CIRCUMFLEX BELOW b CAPITAL LETTER E WITH MACRON AND GRAVE b SMALL LETTER E WITH MACRON AND
   GRAVE b CAPITAL LETTER E WITH MACRON AND ACUTE b SMALL LETTER E WITH MACRON AND ACUTE b
   CAPITAL LETTER E WITH CIRCUMFLEX BELOW b SMALL LETTER E WITH CIRCUMFLEX BELOW b CAPITAL LETTER
   E WITH TILDE BELOW b SMALL LETTER E WITH TILDE BELOW b CAPITAL LETTER E WITH CEDILLA AND BREVE
   b SMALL LETTER E WITH CEDILLA AND BREVE b CAPITAL LETTER F WITH DOT ABOVE b SMALL LETTER F
   WITH DOT ABOVE b CAPITAL LETTER G WITH MACRON b SMALL LETTER G WITH MACRON b CAPITAL LETTER H
   WITH DOT ABOVE b SMALL LETTER H WITH DOT ABOVE b CAPITAL LETTER H WITH DOT BELOW b SMALL
   LETTER H WITH DOT BELOW b CAPITAL LETTER H WITH DIAERESIS b SMALL LETTER H WITH DIAERESIS b
   CAPITAL LETTER H WITH CEDILLA b SMALL LETTER H WITH CEDILLA b CAPITAL LETTER H WITH BREVE
   BELOW b SMALL LETTER H WITH BREVE BELOW b CAPITAL LETTER I WITH TILDE BELOW b SMALL LETTER I
   WITH TILDE BELOW b CAPITAL LETTER I WITH DIAERESIS AND ACUTE b SMALL LETTER I WITH DIAERESIS
   AND ACUTE b CAPITAL LETTER K WITH ACUTE b SMALL LETTER K WITH ACUTE b CAPITAL LETTER K WITH
   DOT BELOW b SMALL LETTER K WITH DOT BELOW b CAPITAL LETTER K WITH LINE BELOW b SMALL LETTER K
   WITH LINE BELOW b CAPITAL LETTER L WITH DOT BELOW b SMALL LETTER L WITH DOT BELOW b CAPITAL
   LETTER L WITH DOT BELOW AND MACRON b SMALL LETTER L WITH DOT BELOW AND MACRON b CAPITAL LETTER
   L WITH LINE BELOW b SMALL LETTER L WITH LINE BELOW b CAPITAL LETTER L WITH CIRCUMFLEX BELOW b
   SMALL LETTER L WITH CIRCUMFLEX BELOW b CAPITAL LETTER M WITH ACUTE b SMALL LETTER M WITH ACUTE
   b CAPITAL LETTER M WITH DOT ABOVE b SMALL LETTER M WITH DOT ABOVE b CAPITAL LETTER M WITH DOT
   BELOW b SMALL LETTER M WITH DOT BELOW b CAPITAL LETTER N WITH DOT ABOVE b SMALL LETTER N WITH
   DOT ABOVE b CAPITAL LETTER N WITH DOT BELOW b SMALL LETTER N WITH DOT BELOW b CAPITAL LETTER N
   WITH LINE BELOW b SMALL LETTER N WITH LINE BELOW b CAPITAL LETTER N WITH CIRCUMFLEX BELOW b
   SMALL LETTER N WITH CIRCUMFLEX BELOW b CAPITAL LETTER O WITH TILDE AND ACUTE b SMALL LETTER O
   WITH TILDE AND ACUTE b CAPITAL LETTER O WITH TILDE AND DIAERESIS b SMALL LETTER O WITH TILDE
   AND DIAERESIS b CAPITAL LETTER O WITH MACRON AND GRAVE b SMALL LETTER O WITH MACRON AND GRAVE
   b CAPITAL LETTER O WITH MACRON AND ACUTE b SMALL LETTER O WITH MACRON AND ACUTE b CAPITAL
   LETTER P WITH ACUTE b SMALL LETTER P WITH ACUTE b CAPITAL LETTER P WITH DOT ABOVE b SMALL
   LETTER P WITH DOT ABOVE b CAPITAL LETTER R WITH DOT ABOVE b SMALL LETTER R WITH DOT ABOVE b
   CAPITAL LETTER R WITH DOT BELOW b SMALL LETTER R WITH DOT BELOW b CAPITAL LETTER R WITH DOT
   BELOW AND MACRON b SMALL LETTER R WITH DOT BELOW AND MACRON b CAPITAL LETTER R WITH LINE BELOW
   b SMALL LETTER R WITH LINE BELOW b CAPITAL LETTER S WITH DOT ABOVE b SMALL LETTER S WITH DOT
   ABOVE b CAPITAL LETTER S WITH DOT BELOW b SMALL LETTER S WITH DOT BELOW b CAPITAL LETTER S
   WITH ACUTE AND DOT ABOVE b SMALL LETTER S WITH ACUTE AND DOT ABOVE b CAPITAL LETTER S WITH
   CARON AND DOT ABOVE b SMALL LETTER S WITH CARON AND DOT ABOVE b CAPITAL LETTER S WITH DOT
   BELOW AND DOT ABOVE b SMALL LETTER S WITH DOT BELOW AND DOT ABOVE b CAPITAL LETTER T WITH DOT
   ABOVE b SMALL LETTER T WITH DOT ABOVE b CAPITAL LETTER T WITH DOT BELOW b SMALL LETTER T WITH
   DOT BELOW b CAPITAL LETTER T WITH LINE BELOW b SMALL LETTER T WITH LINE BELOW b CAPITAL LETTER
   T WITH CIRCUMFLEX BELOW b SMALL LETTER T WITH CIRCUMFLEX BELOW b CAPITAL LETTER U WITH
   DIAERESIS BELOW b SMALL LETTER U WITH DIAERESIS BELOW b CAPITAL LETTER U WITH TILDE BELOW b
   SMALL LETTER U WITH TILDE BELOW b CAPITAL LETTER U WITH CIRCUMFLEX BELOW b SMALL LETTER U WITH
   CIRCUMFLEX BELOW b CAPITAL LETTER U WITH TILDE AND ACUTE b SMALL LETTER U WITH TILDE AND ACUTE
   b CAPITAL LETTER U WITH MACRON AND DIAERESIS b SMALL LETTER U WITH MACRON AND DIAERESIS b
   CAPITAL LETTER V WITH TILDE b SMALL LETTER V WITH TILDE b CAPITAL LETTER V WITH DOT BELOW b
   SMALL LETTER V WITH DOT BELOW b CAPITAL LETTER W WITH GRAVE b SMALL LETTER W WITH GRAVE b
   CAPITAL LETTER W WITH ACUTE b SMALL LETTER W WITH ACUTE b CAPITAL LETTER W WITH DIAERESIS b
   SMALL LETTER W WITH DIAERESIS b CAPITAL LETTER W WITH DOT ABOVE b SMALL LETTER W WITH DOT
   ABOVE b CAPITAL LETTER W WITH DOT BELOW b SMALL LETTER W WITH DOT BELOW b CAPITAL LETTER X
   WITH DOT ABOVE b SMALL LETTER X WITH DOT ABOVE b CAPITAL LETTER X WITH DIAERESIS b SMALL
   LETTER X WITH DIAERESIS b CAPITAL LETTER Y WITH DOT ABOVE b SMALL LETTER Y WITH DOT ABOVE b
   CAPITAL LETTER Z WITH CIRCUMFLEX b SMALL LETTER Z WITH CIRCUMFLEX b CAPITAL LETTER Z WITH DOT
   BELOW b SMALL LETTER Z WITH DOT BELOW b CAPITAL LETTER Z WITH LINE BELOW b SMALL LETTER Z WITH
   LINE BELOW d H WITH LINE BELOW d T WITH DIAERESIS d W WITH RING ABOVE d Y WITH RING ABOVE d A
   WITH RIGHT HALF RING d LONG S WITH DOT ABOVE g DIAGONAL STROKE g HIGH STROKE b CAPITAL LETTER
   SHARP S b SMALL LETTER DELTA b CAPITAL LETTER A WITH DOT BELOW b SMALL LETTER A WITH DOT BELOW
   b CAPITAL LETTER A WITH HOOK ABOVE b SMALL LETTER A WITH HOOK ABOVE b CAPITAL LETTER A WITH
   CIRCUMFLEX AND ACUTE b SMALL LETTER A WITH CIRCUMFLEX AND ACUTE b CAPITAL LETTER A WITH
   CIRCUMFLEX AND GRAVE b SMALL LETTER A WITH CIRCUMFLEX AND GRAVE b CAPITAL LETTER A WITH
   CIRCUMFLEX AND HOOK ABOVE b SMALL LETTER A WITH CIRCUMFLEX AND HOOK ABOVE b CAPITAL LETTER A
   WITH CIRCUMFLEX AND TILDE b SMALL LETTER A WITH CIRCUMFLEX AND TILDE b CAPITAL LETTER A WITH
   CIRCUMFLEX AND DOT BELOW b SMALL LETTER A WITH CIRCUMFLEX AND DOT BELOW b CAPITAL LETTER A
   WITH BREVE AND ACUTE b SMALL LETTER A WITH BREVE AND ACUTE b CAPITAL LETTER A WITH BREVE AND
   GRAVE b SMALL LETTER A WITH BREVE AND GRAVE b CAPITAL LETTER A WITH BREVE AND HOOK ABOVE b
   SMALL LETTER A WITH BREVE AND HOOK ABOVE b CAPITAL LETTER A WITH BREVE AND TILDE b SMALL
   LETTER A WITH BREVE AND TILDE b CAPITAL LETTER A WITH BREVE AND DOT BELOW b SMALL LETTER A
   WITH BREVE AND DOT BELOW b CAPITAL LETTER E WITH DOT BELOW b SMALL LETTER E WITH DOT BELOW b
   CAPITAL LETTER E WITH HOOK ABOVE b SMALL LETTER E WITH HOOK ABOVE b CAPITAL LETTER E WITH
   TILDE b SMALL LETTER E WITH TILDE b CAPITAL LETTER E WITH CIRCUMFLEX AND ACUTE b SMALL LETTER
   E WITH CIRCUMFLEX AND ACUTE b CAPITAL LETTER E WITH CIRCUMFLEX AND GRAVE b SMALL LETTER E WITH
   CIRCUMFLEX AND GRAVE b CAPITAL LETTER E WITH CIRCUMFLEX AND HOOK ABOVE b SMALL LETTER E WITH
   CIRCUMFLEX AND HOOK ABOVE b CAPITAL LETTER E WITH CIRCUMFLEX AND TILDE b SMALL LETTER E WITH
   CIRCUMFLEX AND TILDE b CAPITAL LETTER E WITH CIRCUMFLEX AND DOT BELOW b SMALL LETTER E WITH
   CIRCUMFLEX AND DOT BELOW b CAPITAL LETTER I WITH HOOK ABOVE b SMALL LETTER I WITH HOOK ABOVE b
   CAPITAL LETTER I WITH DOT BELOW b SMALL LETTER I WITH DOT BELOW b CAPITAL LETTER O WITH DOT
   BELOW b SMALL LETTER O WITH DOT BELOW b CAPITAL LETTER O WITH HOOK ABOVE b SMALL LETTER O WITH
   HOOK ABOVE b CAPITAL LETTER O WITH CIRCUMFLEX AND ACUTE b SMALL LETTER O WITH CIRCUMFLEX AND
   ACUTE b CAPITAL LETTER O WITH CIRCUMFLEX AND GRAVE b SMALL LETTER O WITH CIRCUMFLEX AND GRAVE
   b CAPITAL LETTER O WITH CIRCUMFLEX AND HOOK ABOVE b SMALL LETTER O WITH CIRCUMFLEX AND HOOK
   ABOVE b CAPITAL LETTER O WITH CIRCUMFLEX AND TILDE b SMALL LETTER O WITH CIRCUMFLEX AND TILDE
   b CAPITAL LETTER O WITH CIRCUMFLEX AND DOT BELOW b SMALL LETTER O WITH CIRCUMFLEX AND DOT
   BELOW b CAPITAL LETTER O WITH HORN AND ACUTE b SMALL LETTER O WITH HORN AND ACUTE b CAPITAL
   LETTER O WITH HORN AND GRAVE b SMALL LETTER O WITH HORN AND GRAVE b CAPITAL LETTER O WITH HORN
   AND HOOK ABOVE b SMALL LETTER O WITH HORN AND HOOK ABOVE b CAPITAL LETTER O WITH HORN AND
   TILDE b SMALL LETTER O WITH HORN AND TILDE b CAPITAL LETTER O WITH HORN AND DOT BELOW b SMALL
   LETTER O WITH HORN AND DOT BELOW b CAPITAL LETTER U WITH DOT BELOW b SMALL LETTER U WITH DOT
   BELOW b CAPITAL LETTER U WITH HOOK ABOVE b SMALL LETTER U WITH HOOK ABOVE b CAPITAL LETTER U
   WITH HORN AND ACUTE b SMALL LETTER U WITH HORN AND ACUTE b CAPITAL LETTER U WITH HORN AND
   GRAVE b SMALL LETTER U WITH HORN AND GRAVE b CAPITAL LETTER U WITH HORN AND HOOK ABOVE b SMALL
   LETTER U WITH HORN AND HOOK ABOVE b CAPITAL LETTER U WITH HORN AND TILDE b SMALL LETTER U WITH
   HORN AND TILDE b CAPITAL LETTER U WITH HORN AND DOT BELOW b SMALL LETTER U WITH HORN AND DOT
   BELOW b CAPITAL LETTER Y WITH GRAVE b SMALL LETTER Y WITH GRAVE b CAPITAL LETTER Y WITH DOT
   BELOW b SMALL LETTER Y WITH DOT BELOW b CAPITAL LETTER Y WITH HOOK ABOVE b SMALL LETTER Y WITH
   HOOK ABOVE b CAPITAL LETTER Y WITH TILDE b SMALL LETTER Y WITH TILDE b CAPITAL LETTER
   MIDDLE-WELSH LL b SMALL LETTER MIDDLE-WELSH LL b CAPITAL LETTER MIDDLE-WELSH V b SMALL LETTER
   MIDDLE-WELSH V b CAPITAL LETTER Y WITH LOOP b SMALL LETTER Y WITH LOOP a GREEK SMALL LETTER
   ALPHA WITH PSILI f DASIA f PSILI AND VARIA f DASIA AND VARIA f PSILI AND OXIA f DASIA AND OXIA
   f PSILI AND PERISPOMENI f DASIA AND PERISPOMENI b CAPITAL LETTER ALPHA WITH PSILI f DASIA f
   PSILI AND VARIA f DASIA AND VARIA f PSILI AND OXIA f DASIA AND OXIA f PSILI AND PERISPOMENI f
   DASIA AND PERISPOMENI b SMALL LETTER EPSILON WITH PSILI f DASIA f PSILI AND VARIA f DASIA AND
   VARIA f PSILI AND OXIA f DASIA AND OXIA b1F18 CAPITAL LETTER EPSILON WITH PSILI f DASIA f
   PSILI AND VARIA f DASIA AND VARIA f PSILI AND OXIA f DASIA AND OXIA b1F20 SMALL LETTER ETA
   WITH PSILI f DASIA f PSILI AND VARIA f DASIA AND VARIA f PSILI AND OXIA f DASIA AND OXIA f
   PSILI AND PERISPOMENI f DASIA AND PERISPOMENI b CAPITAL LETTER ETA WITH PSILI f DASIA f PSILI
   AND VARIA f DASIA AND VARIA f PSILI AND OXIA f DASIA AND OXIA f PSILI AND PERISPOMENI f DASIA
   AND PERISPOMENI b SMALL LETTER IOTA WITH PSILI f DASIA f PSILI AND VARIA f DASIA AND VARIA f
   PSILI AND OXIA f DASIA AND OXIA f PSILI AND PERISPOMENI f DASIA AND PERISPOMENI b CAPITAL
   LETTER IOTA WITH PSILI f DASIA f PSILI AND VARIA f DASIA AND VARIA f PSILI AND OXIA f DASIA
   AND OXIA f PSILI AND PERISPOMENI f DASIA AND PERISPOMENI b SMALL LETTER OMICRON WITH PSILI f
   DASIA f PSILI AND VARIA f DASIA AND VARIA f PSILI AND OXIA f DASIA AND OXIA b1F48 CAPITAL
   LETTER OMICRON WITH PSILI f DASIA f PSILI AND VARIA f DASIA AND VARIA f PSILI AND OXIA f DASIA
   AND OXIA b1F50 SMALL LETTER UPSILON WITH PSILI f DASIA f PSILI AND VARIA f DASIA AND VARIA f
   PSILI AND OXIA f DASIA AND OXIA f PSILI AND PERISPOMENI f DASIA AND PERISPOMENI b1F59 CAPITAL
   LETTER UPSILON WITH DASIA g1F5B AND VARIA h1F5D OXIA h1F5F PERISPOMENI b SMALL LETTER OMEGA
   WITH PSILI f DASIA f PSILI AND VARIA f DASIA AND VARIA f PSILI AND OXIA f DASIA AND OXIA f
   PSILI AND PERISPOMENI f DASIA AND PERISPOMENI b CAPITAL LETTER OMEGA WITH PSILI f DASIA f
   PSILI AND VARIA f DASIA AND VARIA f PSILI AND OXIA f DASIA AND OXIA f PSILI AND PERISPOMENI f
   DASIA AND PERISPOMENI b SMALL LETTER ALPHA WITH VARIA f OXIA d EPSILON WITH VARIA f OXIA d ETA
   WITH VARIA f OXIA d IOTA WITH VARIA f OXIA d OMICRON WITH VARIA f OXIA d UPSILON WITH VARIA f
   OXIA d OMEGA WITH VARIA f OXIA d1F80 ALPHA WITH PSILI AND YPOGEGRAMMENI f DASIA AND
   YPOGEGRAMMENI f PSILI AND VARIA AND YPOGEGRAMMENI f DASIA AND VARIA AND YPOGEGRAMMENI f PSILI
   AND OXIA AND YPOGEGRAMMENI f DASIA AND OXIA AND YPOGEGRAMMENI f PSILI AND PERISPOMENI AND
   YPOGEGRAMMENI f DASIA AND PERISPOMENI AND YPOGEGRAMMENI b CAPITAL LETTER ALPHA WITH PSILI AND
   PROSGEGRAMMENI f DASIA AND PROSGEGRAMMENI f PSILI AND VARIA AND PROSGEGRAMMENI f DASIA AND
   VARIA AND PROSGEGRAMMENI f PSILI AND OXIA AND PROSGEGRAMMENI f DASIA AND OXIA AND
   PROSGEGRAMMENI f PSILI AND PERISPOMENI AND PROSGEGRAMMENI f DASIA AND PERISPOMENI AND
   PROSGEGRAMMENI b SMALL LETTER ETA WITH PSILI AND YPOGEGRAMMENI f DASIA AND YPOGEGRAMMENI f
   PSILI AND VARIA AND YPOGEGRAMMENI f DASIA AND VARIA AND YPOGEGRAMMENI f PSILI AND OXIA AND
   YPOGEGRAMMENI f DASIA AND OXIA AND YPOGEGRAMMENI f PSILI AND PERISPOMENI AND YPOGEGRAMMENI f
   DASIA AND PERISPOMENI AND YPOGEGRAMMENI b CAPITAL LETTER ETA WITH PSILI AND PROSGEGRAMMENI f
   DASIA AND PROSGEGRAMMENI f PSILI AND VARIA AND PROSGEGRAMMENI f DASIA AND VARIA AND
   PROSGEGRAMMENI f PSILI AND OXIA AND PROSGEGRAMMENI f DASIA AND OXIA AND PROSGEGRAMMENI f PSILI
   AND PERISPOMENI AND PROSGEGRAMMENI f DASIA AND PERISPOMENI AND PROSGEGRAMMENI b SMALL LETTER
   OMEGA WITH PSILI AND YPOGEGRAMMENI f DASIA AND YPOGEGRAMMENI f PSILI AND VARIA AND
   YPOGEGRAMMENI f DASIA AND VARIA AND YPOGEGRAMMENI f PSILI AND OXIA AND YPOGEGRAMMENI f DASIA
   AND OXIA AND YPOGEGRAMMENI f PSILI AND PERISPOMENI AND YPOGEGRAMMENI f DASIA AND PERISPOMENI
   AND YPOGEGRAMMENI b CAPITAL LETTER OMEGA WITH PSILI AND PROSGEGRAMMENI f DASIA AND
   PROSGEGRAMMENI f PSILI AND VARIA AND PROSGEGRAMMENI f DASIA AND VARIA AND PROSGEGRAMMENI f
   PSILI AND OXIA AND PROSGEGRAMMENI f DASIA AND OXIA AND PROSGEGRAMMENI f PSILI AND PERISPOMENI
   AND PROSGEGRAMMENI f DASIA AND PERISPOMENI AND PROSGEGRAMMENI b SMALL LETTER ALPHA WITH VRACHY
   f MACRON f VARIA AND YPOGEGRAMMENI f YPOGEGRAMMENI f OXIA AND YPOGEGRAMMENI f1FB6 PERISPOMENI
   g AND YPOGEGRAMMENI b CAPITAL LETTER ALPHA WITH VRACHY f MACRON f VARIA f OXIA f
   PROSGEGRAMMENI b KORONIS b PROSGEGRAMMENI b PSILI b PERISPOMENI b DIALYTIKA AND PERISPOMENI b
   SMALL LETTER ETA WITH VARIA AND YPOGEGRAMMENI f YPOGEGRAMMENI f OXIA AND YPOGEGRAMMENI f1FC6
   PERISPOMENI g AND YPOGEGRAMMENI b CAPITAL LETTER EPSILON WITH VARIA f OXIA d ETA WITH VARIA f
   OXIA f PROSGEGRAMMENI b PSILI AND VARIA d OXIA d PERISPOMENI b SMALL LETTER IOTA WITH VRACHY f
   MACRON f DIALYTIKA AND VARIA h OXIA f1FD6 PERISPOMENI f DIALYTIKA AND PERISPOMENI b CAPITAL
   LETTER IOTA WITH VRACHY f MACRON f VARIA f OXIA b1FDD DASIA AND VARIA d OXIA d PERISPOMENI b
   SMALL LETTER UPSILON WITH VRACHY f MACRON f DIALYTIKA AND VARIA h OXIA d RHO WITH PSILI f
   DASIA d UPSILON WITH PERISPOMENI f DIALYTIKA AND PERISPOMENI b CAPITAL LETTER UPSILON WITH
   VRACHY f MACRON f VARIA f OXIA d RHO WITH DASIA b DIALYTIKA AND VARIA d OXIA b VARIA b1FF2
   SMALL LETTER OMEGA WITH VARIA AND YPOGEGRAMMENI f YPOGEGRAMMENI f OXIA AND YPOGEGRAMMENI f1FF6
   PERISPOMENI g AND YPOGEGRAMMENI b CAPITAL LETTER OMICRON WITH VARIA f OXIA d OMEGA WITH VARIA
   f OXIA f PROSGEGRAMMENI b OXIA b DASIA"

end MarkupAudit.CharacterName
