/-!
# Names of characters: symbols

A table of punctuation, arrows, technical and mathematical symbols from U+2000 on. An entry starts
with a small letter, which says how many words of the name before it the name shares: none for `a`.
A code point follows the letter unless it is one more than that of the entry before.
-/

namespace MarkupAudit.CharacterName

/-- The names of punctuation, arrows, technical and mathematical symbols from U+2000 on. -/
def symbols : String :=
  "a2000 EN QUAD a EM QUAD a EN SPACE a EM SPACE a THREE-PER-EM SPACE a FOUR-PER-EM SPACE a
   SIX-PER-EM SPACE a FIGURE SPACE a PUNCTUATION SPACE a THIN SPACE a HAIR SPACE a ZERO WIDTH
   SPACE c NON-JOINER c JOINER a LEFT-TO-RIGHT MARK a RIGHT-TO-LEFT MARK a HYPHEN a NON-BREAKING
   HYPHEN a FIGURE DASH a EN DASH a EM DASH a HORIZONTAL BAR a DOUBLE VERTICAL LINE b LOW LINE a
   LEFT SINGLE QUOTATION MARK a RIGHT SINGLE QUOTATION MARK a SINGLE LOW-9 QUOTATION MARK b
   HIGH-REVERSED-9 QUOTATION MARK a LEFT DOUBLE QUOTATION MARK a RIGHT DOUBLE QUOTATION MARK a
   DOUBLE LOW-9 QUOTATION MARK b HIGH-REVERSED-9 QUOTATION MARK a DAGGER a DOUBLE DAGGER a BULLET
   a TRIANGULAR BULLET a ONE DOT LEADER a TWO DOT LEADER a HORIZONTAL ELLIPSIS a HYPHENATION
   POINT a LINE SEPARATOR a PARAGRAPH SEPARATOR a LEFT-TO-RIGHT EMBEDDING a RIGHT-TO-LEFT
   EMBEDDING a POP DIRECTIONAL FORMATTING a LEFT-TO-RIGHT OVERRIDE a RIGHT-TO-LEFT OVERRIDE a
   NARROW NO-BREAK SPACE a PER MILLE SIGN b TEN THOUSAND SIGN a PRIME a DOUBLE PRIME a TRIPLE
   PRIME a REVERSED PRIME b DOUBLE PRIME b TRIPLE PRIME a CARET a SINGLE LEFT-POINTING ANGLE
   QUOTATION MARK b RIGHT-POINTING ANGLE QUOTATION MARK a REFERENCE MARK a DOUBLE EXCLAMATION
   MARK a INTERROBANG a OVERLINE a UNDERTIE a CHARACTER TIE a CARET INSERTION POINT a ASTERISM a
   HYPHEN BULLET a FRACTION SLASH a LEFT SQUARE BRACKET WITH QUILL a RIGHT SQUARE BRACKET WITH
   QUILL a DOUBLE QUESTION MARK a QUESTION EXCLAMATION MARK a EXCLAMATION QUESTION MARK a
   TIRONIAN SIGN ET a REVERSED PILCROW SIGN a BLACK LEFTWARDS BULLET b RIGHTWARDS BULLET a LOW
   ASTERISK a REVERSED SEMICOLON a CLOSE UP a TWO ASTERISKS ALIGNED VERTICALLY a COMMERCIAL MINUS
   SIGN a SWUNG DASH a INVERTED UNDERTIE a FLOWER PUNCTUATION MARK a THREE DOT PUNCTUATION a
   QUADRUPLE PRIME a FOUR DOT PUNCTUATION a FIVE DOT PUNCTUATION a TWO DOT PUNCTUATION a FOUR DOT
   MARK a DOTTED CROSS a TRICOLON a VERTICAL FOUR DOTS a MEDIUM MATHEMATICAL SPACE a WORD JOINER
   a FUNCTION APPLICATION a INVISIBLE TIMES b SEPARATOR b PLUS a2066 LEFT-TO-RIGHT ISOLATE a
   RIGHT-TO-LEFT ISOLATE a FIRST STRONG ISOLATE a POP DIRECTIONAL ISOLATE a INHIBIT SYMMETRIC
   SWAPPING a ACTIVATE SYMMETRIC SWAPPING a INHIBIT ARABIC FORM SHAPING a ACTIVATE ARABIC FORM
   SHAPING a NATIONAL DIGIT SHAPES a NOMINAL DIGIT SHAPES a SUPERSCRIPT ZERO b LATIN SMALL LETTER
   I b2074 FOUR b FIVE b SIX b SEVEN b EIGHT b NINE b PLUS SIGN b MINUS b EQUALS SIGN b LEFT
   PARENTHESIS b RIGHT PARENTHESIS b LATIN SMALL LETTER N a SUBSCRIPT ZERO b ONE b TWO b THREE b
   FOUR b FIVE b SIX b SEVEN b EIGHT b NINE b PLUS SIGN b MINUS b EQUALS SIGN b LEFT PARENTHESIS
   b RIGHT PARENTHESIS a2090 LATIN SUBSCRIPT SMALL LETTER A e E e O e X e SCHWA e H e K e L e M e
   N e P e S e T a20A0 EURO-CURRENCY SIGN a COLON SIGN a CRUZEIRO SIGN a FRENCH FRANC SIGN a LIRA
   SIGN a MILL SIGN a NAIRA SIGN a PESETA SIGN a RUPEE SIGN a WON SIGN a NEW SHEQEL SIGN a DONG
   SIGN a EURO SIGN a KIP SIGN a TUGRIK SIGN a DRACHMA SIGN a GERMAN PENNY SIGN a PESO SIGN a
   GUARANI SIGN a AUSTRAL SIGN a HRYVNIA SIGN a CEDI SIGN a LIVRE TOURNOIS SIGN a SPESMILO SIGN a
   TENGE SIGN a INDIAN RUPEE SIGN a TURKISH LIRA SIGN a NORDIC MARK SIGN a MANAT SIGN a RUBLE
   SIGN a LARI SIGN a BITCOIN SIGN a SOM SIGN a20D0 COMBINING LEFT HARPOON ABOVE b RIGHT HARPOON
   ABOVE b LONG VERTICAL LINE OVERLAY b SHORT VERTICAL LINE OVERLAY b ANTICLOCKWISE ARROW ABOVE b
   CLOCKWISE ARROW ABOVE b LEFT ARROW ABOVE b RIGHT ARROW ABOVE b RING OVERLAY b CLOCKWISE RING
   OVERLAY b ANTICLOCKWISE RING OVERLAY b THREE DOTS ABOVE b FOUR DOTS ABOVE b ENCLOSING CIRCLE c
   SQUARE c DIAMOND c CIRCLE BACKSLASH b LEFT RIGHT ARROW ABOVE b ENCLOSING SCREEN c KEYCAP c
   UPWARD POINTING TRIANGLE b REVERSE SOLIDUS OVERLAY b DOUBLE VERTICAL STROKE OVERLAY b ANNUITY
   SYMBOL b TRIPLE UNDERDOT b WIDE BRIDGE ABOVE b LEFTWARDS ARROW OVERLAY b LONG DOUBLE SOLIDUS
   OVERLAY b RIGHTWARDS HARPOON WITH BARB DOWNWARDS b LEFTWARDS HARPOON WITH BARB DOWNWARDS b
   LEFT ARROW BELOW b RIGHT ARROW BELOW b ASTERISK ABOVE a2100 ACCOUNT OF a ADDRESSED TO THE
   SUBJECT a DOUBLE-STRUCK CAPITAL C a DEGREE CELSIUS a CENTRE LINE SYMBOL a CARE OF a CADA UNA a
   EULER CONSTANT a SCRUPLE a DEGREE FAHRENHEIT a SCRIPT SMALL G b CAPITAL H a BLACK-LETTER
   CAPITAL H a DOUBLE-STRUCK CAPITAL H a PLANCK CONSTANT c OVER TWO PI a SCRIPT CAPITAL I a
   BLACK-LETTER CAPITAL I a SCRIPT CAPITAL L b SMALL L a L B BAR SYMBOL a DOUBLE-STRUCK CAPITAL N
   a NUMERO SIGN a SOUND RECORDING COPYRIGHT a SCRIPT CAPITAL P a DOUBLE-STRUCK CAPITAL P c Q a
   SCRIPT CAPITAL R a BLACK-LETTER CAPITAL R a DOUBLE-STRUCK CAPITAL R a PRESCRIPTION TAKE a
   RESPONSE a SERVICE MARK a TELEPHONE SIGN a TRADE MARK SIGN a VERSICLE a DOUBLE-STRUCK CAPITAL
   Z a OUNCE SIGN a OHM SIGN a INVERTED OHM SIGN a BLACK-LETTER CAPITAL Z a TURNED GREEK SMALL
   LETTER IOTA a KELVIN SIGN a ANGSTROM SIGN a SCRIPT CAPITAL B a BLACK-LETTER CAPITAL C a
   ESTIMATED SYMBOL a SCRIPT SMALL E b CAPITAL E c F a TURNED CAPITAL F a SCRIPT CAPITAL M b
   SMALL O a ALEF SYMBOL a BET SYMBOL a GIMEL SYMBOL a DALET SYMBOL a INFORMATION SOURCE a
   ROTATED CAPITAL Q a FACSIMILE SIGN a DOUBLE-STRUCK SMALL PI c GAMMA b CAPITAL GAMMA c PI b
   N-ARY SUMMATION a TURNED SANS-SERIF CAPITAL G d L a REVERSED SANS-SERIF CAPITAL L a TURNED
   SANS-SERIF CAPITAL Y a DOUBLE-STRUCK ITALIC CAPITAL D c SMALL D d E d I d J a PROPERTY LINE a
   TURNED AMPERSAND a PER SIGN a AKTIESELSKAB a TURNED SMALL F a SYMBOL FOR SAMARITAN SOURCE a
   VULGAR FRACTION ONE SEVENTH d NINTH d TENTH d THIRD c TWO THIRDS c ONE FIFTH c TWO FIFTHS c
   THREE FIFTHS c FOUR FIFTHS c ONE SIXTH c FIVE SIXTHS c ONE EIGHTH c THREE EIGHTHS c FIVE
   EIGHTHS c SEVEN EIGHTHS a FRACTION NUMERATOR ONE a ROMAN NUMERAL ONE c TWO c THREE c FOUR c
   FIVE c SIX c SEVEN c EIGHT c NINE c TEN c ELEVEN c TWELVE c FIFTY c ONE HUNDRED c FIVE HUNDRED
   c ONE THOUSAND a SMALL ROMAN NUMERAL ONE d TWO d THREE d FOUR d FIVE d SIX d SEVEN d EIGHT d
   NINE d TEN d ELEVEN d TWELVE d FIFTY d ONE HUNDRED d FIVE HUNDRED d ONE THOUSAND a ROMAN
   NUMERAL ONE THOUSAND C D c FIVE THOUSAND c TEN THOUSAND c REVERSED ONE HUNDRED a LATIN SMALL
   LETTER REVERSED C a ROMAN NUMERAL SIX LATE FORM c FIFTY EARLY FORM d THOUSAND c ONE HUNDRED
   THOUSAND a VULGAR FRACTION ZERO THIRDS a TURNED DIGIT TWO c THREE a2190 LEFTWARDS ARROW a
   UPWARDS ARROW a RIGHTWARDS ARROW a DOWNWARDS ARROW a LEFT RIGHT ARROW a UP DOWN ARROW a NORTH
   WEST ARROW b EAST ARROW a SOUTH EAST ARROW b WEST ARROW a LEFTWARDS ARROW WITH STROKE a
   RIGHTWARDS ARROW WITH STROKE a LEFTWARDS WAVE ARROW a RIGHTWARDS WAVE ARROW a LEFTWARDS TWO
   HEADED ARROW a UPWARDS TWO HEADED ARROW a RIGHTWARDS TWO HEADED ARROW a DOWNWARDS TWO HEADED
   ARROW a LEFTWARDS ARROW WITH TAIL a RIGHTWARDS ARROW WITH TAIL a LEFTWARDS ARROW FROM BAR a
   UPWARDS ARROW FROM BAR a RIGHTWARDS ARROW FROM BAR a DOWNWARDS ARROW FROM BAR a UP DOWN ARROW
   WITH BASE a LEFTWARDS ARROW WITH HOOK a RIGHTWARDS ARROW WITH HOOK a LEFTWARDS ARROW WITH LOOP
   a RIGHTWARDS ARROW WITH LOOP a LEFT RIGHT WAVE ARROW c ARROW WITH STROKE a DOWNWARDS ZIGZAG
   ARROW a UPWARDS ARROW WITH TIP LEFTWARDS e RIGHTWARDS a DOWNWARDS ARROW WITH TIP LEFTWARDS e
   RIGHTWARDS a RIGHTWARDS ARROW WITH CORNER DOWNWARDS a DOWNWARDS ARROW WITH CORNER LEFTWARDS a
   ANTICLOCKWISE TOP SEMICIRCLE ARROW a CLOCKWISE TOP SEMICIRCLE ARROW a NORTH WEST ARROW TO LONG
   BAR a LEFTWARDS ARROW TO BAR OVER RIGHTWARDS ARROW TO BAR a ANTICLOCKWISE OPEN CIRCLE ARROW a
   CLOCKWISE OPEN CIRCLE ARROW a LEFTWARDS HARPOON WITH BARB UPWARDS e DOWNWARDS a UPWARDS
   HARPOON WITH BARB RIGHTWARDS e LEFTWARDS a RIGHTWARDS HARPOON WITH BARB UPWARDS e DOWNWARDS a
   DOWNWARDS HARPOON WITH BARB RIGHTWARDS e LEFTWARDS a RIGHTWARDS ARROW OVER LEFTWARDS ARROW a
   UPWARDS ARROW LEFTWARDS OF DOWNWARDS ARROW a LEFTWARDS ARROW OVER RIGHTWARDS ARROW b PAIRED
   ARROWS a UPWARDS PAIRED ARROWS a RIGHTWARDS PAIRED ARROWS a DOWNWARDS PAIRED ARROWS a
   LEFTWARDS HARPOON OVER RIGHTWARDS HARPOON a RIGHTWARDS HARPOON OVER LEFTWARDS HARPOON a
   LEFTWARDS DOUBLE ARROW WITH STROKE a LEFT RIGHT DOUBLE ARROW WITH STROKE a RIGHTWARDS DOUBLE
   ARROW WITH STROKE a LEFTWARDS DOUBLE ARROW a UPWARDS DOUBLE ARROW a RIGHTWARDS DOUBLE ARROW a
   DOWNWARDS DOUBLE ARROW a LEFT RIGHT DOUBLE ARROW a UP DOWN DOUBLE ARROW a NORTH WEST DOUBLE
   ARROW b EAST DOUBLE ARROW a SOUTH EAST DOUBLE ARROW b WEST DOUBLE ARROW a LEFTWARDS TRIPLE
   ARROW a RIGHTWARDS TRIPLE ARROW a LEFTWARDS SQUIGGLE ARROW a RIGHTWARDS SQUIGGLE ARROW a
   UPWARDS ARROW WITH DOUBLE STROKE a DOWNWARDS ARROW WITH DOUBLE STROKE a LEFTWARDS DASHED ARROW
   a UPWARDS DASHED ARROW a RIGHTWARDS DASHED ARROW a DOWNWARDS DASHED ARROW a LEFTWARDS ARROW TO
   BAR a RIGHTWARDS ARROW TO BAR a LEFTWARDS WHITE ARROW a UPWARDS WHITE ARROW a RIGHTWARDS WHITE
   ARROW a DOWNWARDS WHITE ARROW a UPWARDS WHITE ARROW FROM BAR d ON PEDESTAL f WITH HORIZONTAL
   BAR g VERTICAL BAR c DOUBLE ARROW e ON PEDESTAL a RIGHTWARDS WHITE ARROW FROM WALL a NORTH
   WEST ARROW TO CORNER a SOUTH EAST ARROW TO CORNER a UP DOWN WHITE ARROW a RIGHT ARROW WITH
   SMALL CIRCLE a DOWNWARDS ARROW LEFTWARDS OF UPWARDS ARROW a THREE RIGHTWARDS ARROWS a
   LEFTWARDS ARROW WITH VERTICAL STROKE a RIGHTWARDS ARROW WITH VERTICAL STROKE a LEFT RIGHT
   ARROW WITH VERTICAL STROKE a LEFTWARDS ARROW WITH DOUBLE VERTICAL STROKE a RIGHTWARDS ARROW
   WITH DOUBLE VERTICAL STROKE a LEFT RIGHT ARROW WITH DOUBLE VERTICAL STROKE a LEFTWARDS
   OPEN-HEADED ARROW a RIGHTWARDS OPEN-HEADED ARROW a LEFT RIGHT OPEN-HEADED ARROW a FOR ALL a
   COMPLEMENT a PARTIAL DIFFERENTIAL a THERE EXISTS b DOES NOT EXIST a EMPTY SET a INCREMENT a
   NABLA a ELEMENT OF a NOT AN ELEMENT OF a SMALL ELEMENT OF a CONTAINS AS MEMBER a DOES NOT
   CONTAIN AS MEMBER a SMALL CONTAINS AS MEMBER a END OF PROOF a N-ARY PRODUCT b COPRODUCT b
   SUMMATION a MINUS SIGN a MINUS-OR-PLUS SIGN a DOT PLUS a DIVISION SLASH a SET MINUS a ASTERISK
   OPERATOR a RING OPERATOR a BULLET OPERATOR a SQUARE ROOT a CUBE ROOT a FOURTH ROOT a
   PROPORTIONAL TO a INFINITY a RIGHT ANGLE a ANGLE a MEASURED ANGLE a SPHERICAL ANGLE a DIVIDES
   a DOES NOT DIVIDE a PARALLEL TO a NOT PARALLEL TO a LOGICAL AND b OR a INTERSECTION a UNION a
   INTEGRAL a DOUBLE INTEGRAL a TRIPLE INTEGRAL a CONTOUR INTEGRAL a SURFACE INTEGRAL a VOLUME
   INTEGRAL a CLOCKWISE INTEGRAL b CONTOUR INTEGRAL a ANTICLOCKWISE CONTOUR INTEGRAL a THEREFORE
   a BECAUSE a RATIO a PROPORTION a DOT MINUS a EXCESS a GEOMETRIC PROPORTION a HOMOTHETIC a
   TILDE OPERATOR a REVERSED TILDE a INVERTED LAZY S a SINE WAVE a WREATH PRODUCT a NOT TILDE a
   MINUS TILDE a ASYMPTOTICALLY EQUAL TO a NOT ASYMPTOTICALLY EQUAL TO a APPROXIMATELY EQUAL TO b
   BUT NOT ACTUALLY EQUAL TO a NEITHER APPROXIMATELY NOR ACTUALLY EQUAL TO a ALMOST EQUAL TO a
   NOT ALMOST EQUAL TO a ALMOST EQUAL OR EQUAL TO a TRIPLE TILDE a ALL EQUAL TO a EQUIVALENT TO a
   GEOMETRICALLY EQUIVALENT TO a DIFFERENCE BETWEEN a APPROACHES THE LIMIT a GEOMETRICALLY EQUAL
   TO a APPROXIMATELY EQUAL TO OR THE IMAGE OF a IMAGE OF OR APPROXIMATELY EQUAL TO a COLON
   EQUALS a EQUALS COLON a RING IN EQUAL TO b EQUAL TO a CORRESPONDS TO a ESTIMATES a EQUIANGULAR
   TO a STAR EQUALS a DELTA EQUAL TO a EQUAL TO BY DEFINITION a MEASURED BY a QUESTIONED EQUAL TO
   a NOT EQUAL TO a IDENTICAL TO a NOT IDENTICAL TO a STRICTLY EQUIVALENT TO a LESS-THAN OR EQUAL
   TO a GREATER-THAN OR EQUAL TO a LESS-THAN OVER EQUAL TO a GREATER-THAN OVER EQUAL TO a
   LESS-THAN BUT NOT EQUAL TO a GREATER-THAN BUT NOT EQUAL TO a MUCH LESS-THAN b GREATER-THAN a
   BETWEEN a NOT EQUIVALENT TO b LESS-THAN b GREATER-THAN a NEITHER LESS-THAN NOR EQUAL TO b
   GREATER-THAN NOR EQUAL TO a LESS-THAN OR EQUIVALENT TO a GREATER-THAN OR EQUIVALENT TO a
   NEITHER LESS-THAN NOR EQUIVALENT TO b GREATER-THAN NOR EQUIVALENT TO a LESS-THAN OR
   GREATER-THAN a GREATER-THAN OR LESS-THAN a NEITHER LESS-THAN NOR GREATER-THAN b GREATER-THAN
   NOR LESS-THAN a PRECEDES a SUCCEEDS a PRECEDES OR EQUAL TO a SUCCEEDS OR EQUAL TO a PRECEDES
   OR EQUIVALENT TO a SUCCEEDS OR EQUIVALENT TO a DOES NOT PRECEDE c SUCCEED a SUBSET OF a
   SUPERSET OF a NOT A SUBSET OF c SUPERSET OF a SUBSET OF OR EQUAL TO a SUPERSET OF OR EQUAL TO
   a NEITHER A SUBSET OF NOR EQUAL TO c SUPERSET OF NOR EQUAL TO a SUBSET OF WITH NOT EQUAL TO a
   SUPERSET OF WITH NOT EQUAL TO a MULTISET b MULTIPLICATION b UNION a SQUARE IMAGE OF b ORIGINAL
   OF b IMAGE OF OR EQUAL TO b ORIGINAL OF OR EQUAL TO b CAP b CUP a CIRCLED PLUS b MINUS b TIMES
   b DIVISION SLASH b DOT OPERATOR b RING OPERATOR b ASTERISK OPERATOR b EQUALS b DASH a SQUARED
   PLUS b MINUS b TIMES b DOT OPERATOR a RIGHT TACK a LEFT TACK a DOWN TACK a UP TACK a ASSERTION
   a MODELS a TRUE a FORCES a TRIPLE VERTICAL BAR RIGHT TURNSTILE a DOUBLE VERTICAL BAR DOUBLE
   RIGHT TURNSTILE a DOES NOT PROVE a NOT TRUE a DOES NOT FORCE a NEGATED DOUBLE VERTICAL BAR
   DOUBLE RIGHT TURNSTILE a PRECEDES UNDER RELATION a SUCCEEDS UNDER RELATION a NORMAL SUBGROUP
   OF a CONTAINS AS NORMAL SUBGROUP a NORMAL SUBGROUP OF OR EQUAL TO a CONTAINS AS NORMAL
   SUBGROUP OR EQUAL TO a ORIGINAL OF a IMAGE OF a MULTIMAP a HERMITIAN CONJUGATE MATRIX a
   INTERCALATE a XOR a NAND a NOR a RIGHT ANGLE WITH ARC b TRIANGLE a N-ARY LOGICAL AND c OR b
   INTERSECTION b UNION a DIAMOND OPERATOR a DOT OPERATOR a STAR OPERATOR a DIVISION TIMES a
   BOWTIE a LEFT NORMAL FACTOR SEMIDIRECT PRODUCT a RIGHT NORMAL FACTOR SEMIDIRECT PRODUCT a LEFT
   SEMIDIRECT PRODUCT a RIGHT SEMIDIRECT PRODUCT a REVERSED TILDE EQUALS a CURLY LOGICAL OR c AND
   a DOUBLE SUBSET b SUPERSET b INTERSECTION b UNION a PITCHFORK a EQUAL AND PARALLEL TO a
   LESS-THAN WITH DOT a GREATER-THAN WITH DOT a VERY MUCH LESS-THAN c GREATER-THAN a LESS-THAN
   EQUAL TO OR GREATER-THAN a GREATER-THAN EQUAL TO OR LESS-THAN a EQUAL TO OR LESS-THAN d
   GREATER-THAN d PRECEDES d SUCCEEDS a DOES NOT PRECEDE OR EQUAL c SUCCEED OR EQUAL a NOT SQUARE
   IMAGE OF OR EQUAL TO c ORIGINAL OF OR EQUAL TO a SQUARE IMAGE OF OR NOT EQUAL TO b ORIGINAL OF
   OR NOT EQUAL TO a LESS-THAN BUT NOT EQUIVALENT TO a GREATER-THAN BUT NOT EQUIVALENT TO a
   PRECEDES BUT NOT EQUIVALENT TO a SUCCEEDS BUT NOT EQUIVALENT TO a NOT NORMAL SUBGROUP OF a
   DOES NOT CONTAIN AS NORMAL SUBGROUP a NOT NORMAL SUBGROUP OF OR EQUAL TO a DOES NOT CONTAIN AS
   NORMAL SUBGROUP OR EQUAL a VERTICAL ELLIPSIS a MIDLINE HORIZONTAL ELLIPSIS a UP RIGHT DIAGONAL
   ELLIPSIS a DOWN RIGHT DIAGONAL ELLIPSIS a ELEMENT OF WITH LONG HORIZONTAL STROKE d VERTICAL
   BAR AT END OF HORIZONTAL STROKE a SMALL ELEMENT OF WITH VERTICAL BAR AT END OF HORIZONTAL
   STROKE a ELEMENT OF WITH DOT ABOVE d OVERBAR a SMALL ELEMENT OF WITH OVERBAR a ELEMENT OF WITH
   UNDERBAR d TWO HORIZONTAL STROKES a CONTAINS WITH LONG HORIZONTAL STROKE c VERTICAL BAR AT END
   OF HORIZONTAL STROKE a SMALL CONTAINS WITH VERTICAL BAR AT END OF HORIZONTAL STROKE a CONTAINS
   WITH OVERBAR a SMALL CONTAINS WITH OVERBAR a Z NOTATION BAG MEMBERSHIP a DIAMETER SIGN a
   ELECTRIC ARROW a HOUSE a UP ARROWHEAD a DOWN ARROWHEAD a PROJECTIVE a PERSPECTIVE a WAVY LINE
   a LEFT CEILING a RIGHT CEILING a LEFT FLOOR a RIGHT FLOOR a BOTTOM RIGHT CROP b LEFT CROP a
   TOP RIGHT CROP b LEFT CROP a REVERSED NOT SIGN a SQUARE LOZENGE a ARC a SEGMENT a SECTOR a
   TELEPHONE RECORDER a POSITION INDICATOR a VIEWDATA SQUARE a PLACE OF INTEREST SIGN a TURNED
   NOT SIGN a WATCH a HOURGLASS a TOP LEFT CORNER b RIGHT CORNER a BOTTOM LEFT CORNER b RIGHT
   CORNER a TOP HALF INTEGRAL a BOTTOM HALF INTEGRAL a FROWN a SMILE a UP ARROWHEAD BETWEEN TWO
   HORIZONTAL BARS a OPTION KEY a ERASE TO THE RIGHT a X IN A RECTANGLE BOX a KEYBOARD a
   LEFT-POINTING ANGLE BRACKET a RIGHT-POINTING ANGLE BRACKET a ERASE TO THE LEFT a BENZENE RING
   a CYLINDRICITY a ALL AROUND-PROFILE a SYMMETRY a TOTAL RUNOUT a DIMENSION ORIGIN a CONICAL
   TAPER a SLOPE a COUNTERBORE a COUNTERSINK a APL FUNCTIONAL SYMBOL I-BEAM d SQUISH QUAD d QUAD
   EQUAL e DIVIDE e DIAMOND e JOT e CIRCLE d CIRCLE STILE e JOT d SLASH BAR d BACKSLASH BAR d
   QUAD SLASH e BACKSLASH e LESS-THAN e GREATER-THAN d LEFTWARDS VANE d RIGHTWARDS VANE d QUAD
   LEFTWARDS ARROW e RIGHTWARDS ARROW d CIRCLE BACKSLASH d DOWN TACK UNDERBAR d DELTA STILE d
   QUAD DOWN CARET e DELTA d DOWN TACK JOT d UPWARDS VANE d QUAD UPWARDS ARROW d UP TACK OVERBAR
   d DEL STILE d QUAD UP CARET e DEL d UP TACK JOT d DOWNWARDS VANE d QUAD DOWNWARDS ARROW d
   QUOTE UNDERBAR d DELTA UNDERBAR d DIAMOND UNDERBAR d JOT UNDERBAR d CIRCLE UNDERBAR d UP SHOE
   JOT d QUOTE QUAD d CIRCLE STAR d QUAD COLON d UP TACK DIAERESIS d DEL DIAERESIS d STAR
   DIAERESIS d JOT DIAERESIS d CIRCLE DIAERESIS d DOWN SHOE STILE d LEFT SHOE STILE d TILDE
   DIAERESIS d GREATER-THAN DIAERESIS d COMMA BAR d DEL TILDE d ZILDE d STILE TILDE d SEMICOLON
   UNDERBAR d QUAD NOT EQUAL e QUESTION d DOWN CARET TILDE d UP CARET TILDE d IOTA d RHO d OMEGA
   d ALPHA UNDERBAR d EPSILON UNDERBAR d IOTA UNDERBAR d OMEGA UNDERBAR d ALPHA a NOT CHECK MARK
   a RIGHT ANGLE WITH DOWNWARDS ZIGZAG ARROW a SHOULDERED OPEN BOX a BELL SYMBOL a VERTICAL LINE
   WITH MIDDLE DOT a INSERTION SYMBOL a CONTINUOUS UNDERLINE SYMBOL a DISCONTINUOUS UNDERLINE
   SYMBOL a EMPHASIS SYMBOL a COMPOSITION SYMBOL a WHITE SQUARE WITH CENTRE VERTICAL LINE a ENTER
   SYMBOL a ALTERNATIVE KEY SYMBOL a HELM SYMBOL a CIRCLED HORIZONTAL BAR WITH NOTCH b TRIANGLE
   DOWN a BROKEN CIRCLE WITH NORTHWEST ARROW a UNDO SYMBOL a MONOSTABLE SYMBOL a HYSTERESIS
   SYMBOL a OPEN-CIRCUIT-OUTPUT H-TYPE SYMBOL b L-TYPE SYMBOL a PASSIVE-PULL-DOWN-OUTPUT SYMBOL a
   PASSIVE-PULL-UP-OUTPUT SYMBOL a DIRECT CURRENT SYMBOL FORM TWO a SOFTWARE-FUNCTION SYMBOL a
   APL FUNCTIONAL SYMBOL QUAD a DECIMAL SEPARATOR KEY SYMBOL a PREVIOUS PAGE a NEXT PAGE a PRINT
   SCREEN SYMBOL a CLEAR SCREEN SYMBOL a LEFT PARENTHESIS UPPER HOOK c EXTENSION c LOWER HOOK a
   RIGHT PARENTHESIS UPPER HOOK c EXTENSION c LOWER HOOK a LEFT SQUARE BRACKET UPPER CORNER d
   EXTENSION d LOWER CORNER a RIGHT SQUARE BRACKET UPPER CORNER d EXTENSION d LOWER CORNER a LEFT
   CURLY BRACKET UPPER HOOK d MIDDLE PIECE d LOWER HOOK a CURLY BRACKET EXTENSION a RIGHT CURLY
   BRACKET UPPER HOOK d MIDDLE PIECE d LOWER HOOK a INTEGRAL EXTENSION a HORIZONTAL LINE
   EXTENSION a UPPER LEFT OR LOWER RIGHT CURLY BRACKET SECTION b RIGHT OR LOWER LEFT CURLY
   BRACKET SECTION a SUMMATION TOP b BOTTOM a TOP SQUARE BRACKET a BOTTOM SQUARE BRACKET d OVER
   TOP SQUARE BRACKET a RADICAL SYMBOL BOTTOM a LEFT VERTICAL BOX LINE a RIGHT VERTICAL BOX LINE
   a HORIZONTAL SCAN LINE-1 c LINE-3 c LINE-7 c LINE-9 a DENTISTRY SYMBOL LIGHT VERTICAL AND TOP
   RIGHT f BOTTOM RIGHT e WITH CIRCLE d DOWN AND HORIZONTAL WITH CIRCLE d UP AND HORIZONTAL WITH
   CIRCLE d VERTICAL WITH TRIANGLE d DOWN AND HORIZONTAL WITH TRIANGLE d UP AND HORIZONTAL WITH
   TRIANGLE d VERTICAL AND WAVE d DOWN AND HORIZONTAL WITH WAVE d UP AND HORIZONTAL WITH WAVE d
   DOWN AND HORIZONTAL d UP AND HORIZONTAL d VERTICAL AND TOP LEFT f BOTTOM LEFT a SQUARE FOOT a
   RETURN SYMBOL a EJECT SYMBOL a VERTICAL LINE EXTENSION a METRICAL BREVE b LONG OVER SHORT b
   SHORT OVER LONG b LONG OVER TWO SHORTS b TWO SHORTS OVER LONG d JOINED b TRISEME b TETRASEME b
   PENTASEME a EARTH GROUND a FUSE a TOP PARENTHESIS a BOTTOM PARENTHESIS a TOP CURLY BRACKET a
   BOTTOM CURLY BRACKET a TOP TORTOISE SHELL BRACKET a BOTTOM TORTOISE SHELL BRACKET a WHITE
   TRAPEZIUM a BENZENE RING WITH CIRCLE a STRAIGHTNESS a FLATNESS a AC CURRENT a ELECTRICAL
   INTERSECTION a DECIMAL EXPONENT SYMBOL a BLACK RIGHT-POINTING DOUBLE TRIANGLE b LEFT-POINTING
   DOUBLE TRIANGLE b UP-POINTING DOUBLE TRIANGLE b DOWN-POINTING DOUBLE TRIANGLE b RIGHT-POINTING
   DOUBLE TRIANGLE WITH VERTICAL BAR b LEFT-POINTING DOUBLE TRIANGLE WITH VERTICAL BAR b
   RIGHT-POINTING TRIANGLE WITH DOUBLE VERTICAL BAR a ALARM CLOCK a STOPWATCH a TIMER CLOCK a
   HOURGLASS WITH FLOWING SAND a BLACK MEDIUM LEFT-POINTING TRIANGLE c RIGHT-POINTING TRIANGLE c
   UP-POINTING TRIANGLE c DOWN-POINTING TRIANGLE a DOUBLE VERTICAL BAR a BLACK SQUARE FOR STOP b
   CIRCLE FOR RECORD a POWER SYMBOL b ON-OFF SYMBOL b ON SYMBOL b SLEEP SYMBOL a OBSERVER EYE
   SYMBOL a SYMBOL FOR NULL c START OF HEADING e TEXT c END OF TEXT e TRANSMISSION c ENQUIRY c
   ACKNOWLEDGE c BELL c BACKSPACE c HORIZONTAL TABULATION c LINE FEED c VERTICAL TABULATION c
   FORM FEED c CARRIAGE RETURN c SHIFT OUT d IN c DATA LINK ESCAPE c DEVICE CONTROL ONE e TWO e
   THREE e FOUR c NEGATIVE ACKNOWLEDGE c SYNCHRONOUS IDLE c END OF TRANSMISSION BLOCK c CANCEL c
   END OF MEDIUM c SUBSTITUTE c ESCAPE c FILE SEPARATOR c GROUP SEPARATOR c RECORD SEPARATOR c
   UNIT SEPARATOR c SPACE c DELETE a BLANK SYMBOL a OPEN BOX a SYMBOL FOR NEWLINE c DELETE FORM
   TWO c SUBSTITUTE FORM TWO a2440 OCR HOOK b CHAIR b FORK b INVERTED FORK b BELT BUCKLE b BOW
   TIE b BRANCH BANK IDENTIFICATION b AMOUNT OF CHECK b DASH b CUSTOMER ACCOUNT NUMBER b DOUBLE
   BACKSLASH a2460 CIRCLED DIGIT ONE c TWO c THREE c FOUR c FIVE c SIX c SEVEN c EIGHT c NINE b
   NUMBER TEN c ELEVEN c TWELVE c THIRTEEN c FOURTEEN c FIFTEEN c SIXTEEN c SEVENTEEN c EIGHTEEN
   c NINETEEN c TWENTY a PARENTHESIZED DIGIT ONE c TWO c THREE c FOUR c FIVE c SIX c SEVEN c
   EIGHT c NINE b NUMBER TEN c ELEVEN c TWELVE c THIRTEEN c FOURTEEN c FIFTEEN c SIXTEEN c
   SEVENTEEN c EIGHTEEN c NINETEEN c TWENTY a DIGIT ONE FULL STOP b TWO FULL STOP b THREE FULL
   STOP b FOUR FULL STOP b FIVE FULL STOP b SIX FULL STOP b SEVEN FULL STOP b EIGHT FULL STOP b
   NINE FULL STOP a NUMBER TEN FULL STOP b ELEVEN FULL STOP b TWELVE FULL STOP b THIRTEEN FULL
   STOP b FOURTEEN FULL STOP b FIFTEEN FULL STOP b SIXTEEN FULL STOP b SEVENTEEN FULL STOP b
   EIGHTEEN FULL STOP b NINETEEN FULL STOP b TWENTY FULL STOP a PARENTHESIZED LATIN SMALL LETTER
   A e B e C e D e E e F e G e H e I e J e K e L e M e N e O e P e Q e R e S e T e U e V e W e X
   e Y e Z a CIRCLED LATIN CAPITAL LETTER A e B e C e D e E e F e G e H e I e J e K e L e M e N e
   O e P e Q e R e S e T e U e V e W e X e Y e Z c SMALL LETTER A e B e C e D e E e F e G e H e I
   e J e K e L e M e N e O e P e Q e R e S e T e U e V e W e X e Y e Z b DIGIT ZERO a NEGATIVE
   CIRCLED NUMBER ELEVEN d TWELVE d THIRTEEN d FOURTEEN d FIFTEEN d SIXTEEN d SEVENTEEN d
   EIGHTEEN d NINETEEN d TWENTY a DOUBLE CIRCLED DIGIT ONE d TWO d THREE d FOUR d FIVE d SIX d
   SEVEN d EIGHT d NINE c NUMBER TEN a NEGATIVE CIRCLED DIGIT ZERO a BOX DRAWINGS LIGHT
   HORIZONTAL c HEAVY HORIZONTAL c LIGHT VERTICAL c HEAVY VERTICAL c LIGHT TRIPLE DASH HORIZONTAL
   c HEAVY TRIPLE DASH HORIZONTAL c LIGHT TRIPLE DASH VERTICAL c HEAVY TRIPLE DASH VERTICAL c
   LIGHT QUADRUPLE DASH HORIZONTAL c HEAVY QUADRUPLE DASH HORIZONTAL c LIGHT QUADRUPLE DASH
   VERTICAL c HEAVY QUADRUPLE DASH VERTICAL c LIGHT DOWN AND RIGHT c DOWN LIGHT AND RIGHT HEAVY d
   HEAVY AND RIGHT LIGHT c HEAVY DOWN AND RIGHT c LIGHT DOWN AND LEFT c DOWN LIGHT AND LEFT HEAVY
   d HEAVY AND LEFT LIGHT c HEAVY DOWN AND LEFT c LIGHT UP AND RIGHT c UP LIGHT AND RIGHT HEAVY d
   HEAVY AND RIGHT LIGHT c HEAVY UP AND RIGHT c LIGHT UP AND LEFT c UP LIGHT AND LEFT HEAVY d
   HEAVY AND LEFT LIGHT c HEAVY UP AND LEFT c LIGHT VERTICAL AND RIGHT c VERTICAL LIGHT AND RIGHT
   HEAVY c UP HEAVY AND RIGHT DOWN LIGHT c DOWN HEAVY AND RIGHT UP LIGHT c VERTICAL HEAVY AND
   RIGHT LIGHT c DOWN LIGHT AND RIGHT UP HEAVY c UP LIGHT AND RIGHT DOWN HEAVY c HEAVY VERTICAL
   AND RIGHT c LIGHT VERTICAL AND LEFT c VERTICAL LIGHT AND LEFT HEAVY c UP HEAVY AND LEFT DOWN
   LIGHT c DOWN HEAVY AND LEFT UP LIGHT c VERTICAL HEAVY AND LEFT LIGHT c DOWN LIGHT AND LEFT UP
   HEAVY c UP LIGHT AND LEFT DOWN HEAVY c HEAVY VERTICAL AND LEFT c LIGHT DOWN AND HORIZONTAL c
   LEFT HEAVY AND RIGHT DOWN LIGHT c RIGHT HEAVY AND LEFT DOWN LIGHT c DOWN LIGHT AND HORIZONTAL
   HEAVY d HEAVY AND HORIZONTAL LIGHT c RIGHT LIGHT AND LEFT DOWN HEAVY c LEFT LIGHT AND RIGHT
   DOWN HEAVY c HEAVY DOWN AND HORIZONTAL c LIGHT UP AND HORIZONTAL c LEFT HEAVY AND RIGHT UP
   LIGHT c RIGHT HEAVY AND LEFT UP LIGHT c UP LIGHT AND HORIZONTAL HEAVY d HEAVY AND HORIZONTAL
   LIGHT c RIGHT LIGHT AND LEFT UP HEAVY c LEFT LIGHT AND RIGHT UP HEAVY c HEAVY UP AND
   HORIZONTAL c LIGHT VERTICAL AND HORIZONTAL c LEFT HEAVY AND RIGHT VERTICAL LIGHT c RIGHT HEAVY
   AND LEFT VERTICAL LIGHT c VERTICAL LIGHT AND HORIZONTAL HEAVY c UP HEAVY AND DOWN HORIZONTAL
   LIGHT c DOWN HEAVY AND UP HORIZONTAL LIGHT c VERTICAL HEAVY AND HORIZONTAL LIGHT c LEFT UP
   HEAVY AND RIGHT DOWN LIGHT c RIGHT UP HEAVY AND LEFT DOWN LIGHT c LEFT DOWN HEAVY AND RIGHT UP
   LIGHT c RIGHT DOWN HEAVY AND LEFT UP LIGHT c DOWN LIGHT AND UP HORIZONTAL HEAVY c UP LIGHT AND
   DOWN HORIZONTAL HEAVY c RIGHT LIGHT AND LEFT VERTICAL HEAVY c LEFT LIGHT AND RIGHT VERTICAL
   HEAVY c HEAVY VERTICAL AND HORIZONTAL c LIGHT DOUBLE DASH HORIZONTAL c HEAVY DOUBLE DASH
   HORIZONTAL c LIGHT DOUBLE DASH VERTICAL c HEAVY DOUBLE DASH VERTICAL c DOUBLE HORIZONTAL d
   VERTICAL c DOWN SINGLE AND RIGHT DOUBLE d DOUBLE AND RIGHT SINGLE c DOUBLE DOWN AND RIGHT c
   DOWN SINGLE AND LEFT DOUBLE d DOUBLE AND LEFT SINGLE c DOUBLE DOWN AND LEFT c UP SINGLE AND
   RIGHT DOUBLE d DOUBLE AND RIGHT SINGLE c DOUBLE UP AND RIGHT c UP SINGLE AND LEFT DOUBLE d
   DOUBLE AND LEFT SINGLE c DOUBLE UP AND LEFT c VERTICAL SINGLE AND RIGHT DOUBLE d DOUBLE AND
   RIGHT SINGLE c DOUBLE VERTICAL AND RIGHT c VERTICAL SINGLE AND LEFT DOUBLE d DOUBLE AND LEFT
   SINGLE c DOUBLE VERTICAL AND LEFT c DOWN SINGLE AND HORIZONTAL DOUBLE d DOUBLE AND HORIZONTAL
   SINGLE c DOUBLE DOWN AND HORIZONTAL c UP SINGLE AND HORIZONTAL DOUBLE d DOUBLE AND HORIZONTAL
   SINGLE c DOUBLE UP AND HORIZONTAL c VERTICAL SINGLE AND HORIZONTAL DOUBLE d DOUBLE AND
   HORIZONTAL SINGLE c DOUBLE VERTICAL AND HORIZONTAL c LIGHT ARC DOWN AND RIGHT g LEFT e UP AND
   LEFT g RIGHT d DIAGONAL UPPER RIGHT TO LOWER LEFT f LEFT TO LOWER RIGHT e CROSS d LEFT d UP d
   RIGHT d DOWN c HEAVY LEFT d UP d RIGHT d DOWN c LIGHT LEFT AND HEAVY RIGHT d UP AND HEAVY DOWN
   c HEAVY LEFT AND LIGHT RIGHT d UP AND LIGHT DOWN a UPPER HALF BLOCK a LOWER ONE EIGHTH BLOCK c
   QUARTER BLOCK b THREE EIGHTHS BLOCK b HALF BLOCK b FIVE EIGHTHS BLOCK b THREE QUARTERS BLOCK b
   SEVEN EIGHTHS BLOCK a FULL BLOCK a LEFT SEVEN EIGHTHS BLOCK b THREE QUARTERS BLOCK b FIVE
   EIGHTHS BLOCK b HALF BLOCK b THREE EIGHTHS BLOCK b ONE QUARTER BLOCK c EIGHTH BLOCK a RIGHT
   HALF BLOCK a LIGHT SHADE a MEDIUM SHADE a DARK SHADE a UPPER ONE EIGHTH BLOCK a RIGHT ONE
   EIGHTH BLOCK a QUADRANT LOWER LEFT c RIGHT b UPPER LEFT d AND LOWER LEFT AND LOWER RIGHT f
   RIGHT e UPPER RIGHT AND LOWER LEFT i RIGHT c RIGHT d AND LOWER LEFT g AND LOWER RIGHT a BLACK
   SQUARE a WHITE SQUARE c WITH ROUNDED CORNERS c CONTAINING BLACK SMALL SQUARE a SQUARE WITH
   HORIZONTAL FILL c VERTICAL FILL c ORTHOGONAL CROSSHATCH FILL c UPPER LEFT TO LOWER RIGHT FILL
   d RIGHT TO LOWER LEFT FILL c DIAGONAL CROSSHATCH FILL a BLACK SMALL SQUARE a WHITE SMALL
   SQUARE a BLACK RECTANGLE a WHITE RECTANGLE a BLACK VERTICAL RECTANGLE a WHITE VERTICAL
   RECTANGLE a BLACK PARALLELOGRAM a WHITE PARALLELOGRAM a BLACK UP-POINTING TRIANGLE a WHITE
   UP-POINTING TRIANGLE a BLACK UP-POINTING SMALL TRIANGLE a WHITE UP-POINTING SMALL TRIANGLE a
   BLACK RIGHT-POINTING TRIANGLE a WHITE RIGHT-POINTING TRIANGLE a BLACK RIGHT-POINTING SMALL
   TRIANGLE a WHITE RIGHT-POINTING SMALL TRIANGLE a BLACK RIGHT-POINTING POINTER a WHITE
   RIGHT-POINTING POINTER a BLACK DOWN-POINTING TRIANGLE a WHITE DOWN-POINTING TRIANGLE a BLACK
   DOWN-POINTING SMALL TRIANGLE a WHITE DOWN-POINTING SMALL TRIANGLE a BLACK LEFT-POINTING
   TRIANGLE a WHITE LEFT-POINTING TRIANGLE a BLACK LEFT-POINTING SMALL TRIANGLE a WHITE
   LEFT-POINTING SMALL TRIANGLE a BLACK LEFT-POINTING POINTER a WHITE LEFT-POINTING POINTER a
   BLACK DIAMOND a WHITE DIAMOND c CONTAINING BLACK SMALL DIAMOND a FISHEYE a LOZENGE a WHITE
   CIRCLE a DOTTED CIRCLE a CIRCLE WITH VERTICAL FILL a BULLSEYE a BLACK CIRCLE a CIRCLE WITH
   LEFT HALF BLACK c RIGHT HALF BLACK c LOWER HALF BLACK c UPPER HALF BLACK d RIGHT QUADRANT
   BLACK c ALL BUT UPPER LEFT QUADRANT BLACK a LEFT HALF BLACK CIRCLE a RIGHT HALF BLACK CIRCLE a
   INVERSE BULLET b WHITE CIRCLE a UPPER HALF INVERSE WHITE CIRCLE a LOWER HALF INVERSE WHITE
   CIRCLE a UPPER LEFT QUADRANT CIRCULAR ARC b RIGHT QUADRANT CIRCULAR ARC a LOWER RIGHT QUADRANT
   CIRCULAR ARC b LEFT QUADRANT CIRCULAR ARC a UPPER HALF CIRCLE a LOWER HALF CIRCLE a BLACK
   LOWER RIGHT TRIANGLE c LEFT TRIANGLE b UPPER LEFT TRIANGLE c RIGHT TRIANGLE a WHITE BULLET a
   SQUARE WITH LEFT HALF BLACK c RIGHT HALF BLACK c UPPER LEFT DIAGONAL HALF BLACK c LOWER RIGHT
   DIAGONAL HALF BLACK a WHITE SQUARE WITH VERTICAL BISECTING LINE b UP-POINTING TRIANGLE WITH
   DOT a UP-POINTING TRIANGLE WITH LEFT HALF BLACK d RIGHT HALF BLACK a LARGE CIRCLE a WHITE
   SQUARE WITH UPPER LEFT QUADRANT d LOWER LEFT QUADRANT e RIGHT QUADRANT d UPPER RIGHT QUADRANT
   b CIRCLE WITH UPPER LEFT QUADRANT d LOWER LEFT QUADRANT e RIGHT QUADRANT d UPPER RIGHT
   QUADRANT a UPPER LEFT TRIANGLE b RIGHT TRIANGLE a LOWER LEFT TRIANGLE a WHITE MEDIUM SQUARE a
   BLACK MEDIUM SQUARE a WHITE MEDIUM SMALL SQUARE a BLACK MEDIUM SMALL SQUARE a LOWER RIGHT
   TRIANGLE a BLACK SUN WITH RAYS a CLOUD a UMBRELLA a SNOWMAN a COMET a BLACK STAR a WHITE STAR
   a LIGHTNING a THUNDERSTORM a SUN a ASCENDING NODE a DESCENDING NODE a CONJUNCTION a OPPOSITION
   a BLACK TELEPHONE a WHITE TELEPHONE a BALLOT BOX c WITH CHECK d X a SALTIRE a UMBRELLA WITH
   RAIN DROPS a HOT BEVERAGE a WHITE SHOGI PIECE a BLACK SHOGI PIECE a SHAMROCK a REVERSED
   ROTATED FLORAL HEART BULLET a BLACK LEFT POINTING INDEX b RIGHT POINTING INDEX a WHITE LEFT
   POINTING INDEX b UP POINTING INDEX b RIGHT POINTING INDEX b DOWN POINTING INDEX a SKULL AND
   CROSSBONES a CAUTION SIGN a RADIOACTIVE SIGN a BIOHAZARD SIGN a CADUCEUS a ANKH a ORTHODOX
   CROSS a CHI RHO a CROSS OF LORRAINE c JERUSALEM a STAR AND CRESCENT a FARSI SYMBOL a ADI
   SHAKTI a HAMMER AND SICKLE a PEACE SYMBOL a YIN YANG a TRIGRAM FOR HEAVEN c LAKE c FIRE c
   THUNDER c WIND c WATER c MOUNTAIN c EARTH a WHEEL OF DHARMA a WHITE FROWNING FACE b SMILING
   FACE a BLACK SMILING FACE a WHITE SUN WITH RAYS a FIRST QUARTER MOON a LAST QUARTER MOON a
   MERCURY a FEMALE SIGN a EARTH a MALE SIGN a JUPITER a SATURN a URANUS a NEPTUNE a PLUTO a
   ARIES a TAURUS a GEMINI a CANCER a LEO a VIRGO a LIBRA a SCORPIUS a SAGITTARIUS a CAPRICORN a
   AQUARIUS a PISCES a WHITE CHESS KING c QUEEN c ROOK c BISHOP c KNIGHT c PAWN a BLACK CHESS
   KING c QUEEN c ROOK c BISHOP c KNIGHT c PAWN b SPADE SUIT a WHITE HEART SUIT b DIAMOND SUIT a
   BLACK CLUB SUIT a WHITE SPADE SUIT a BLACK HEART SUIT b DIAMOND SUIT a WHITE CLUB SUIT a HOT
   SPRINGS a QUARTER NOTE a EIGHTH NOTE a BEAMED EIGHTH NOTES b SIXTEENTH NOTES a MUSIC FLAT SIGN
   b NATURAL SIGN b SHARP SIGN a WEST SYRIAC CROSS a EAST SYRIAC CROSS a UNIVERSAL RECYCLING
   SYMBOL a RECYCLING SYMBOL FOR TYPE-1 PLASTICS d TYPE-2 PLASTICS d TYPE-3 PLASTICS d TYPE-4
   PLASTICS d TYPE-5 PLASTICS d TYPE-6 PLASTICS d TYPE-7 PLASTICS d GENERIC MATERIALS a BLACK
   UNIVERSAL RECYCLING SYMBOL a RECYCLED PAPER SYMBOL a PARTIALLY-RECYCLED PAPER SYMBOL a
   PERMANENT PAPER SIGN a WHEELCHAIR SYMBOL a DIE FACE-1 b FACE-2 b FACE-3 b FACE-4 b FACE-5 b
   FACE-6 a WHITE CIRCLE WITH DOT RIGHT d TWO DOTS a BLACK CIRCLE WITH WHITE DOT RIGHT d TWO
   WHITE DOTS a MONOGRAM FOR YANG c YIN a DIGRAM FOR GREATER YANG c LESSER YIN d YANG c GREATER
   YIN a WHITE FLAG a BLACK FLAG a HAMMER AND PICK a ANCHOR a CROSSED SWORDS a STAFF OF
   AESCULAPIUS a SCALES a ALEMBIC a FLOWER a GEAR a STAFF OF HERMES a ATOM SYMBOL a FLEUR-DE-LIS
   a OUTLINED WHITE STAR a THREE LINES CONVERGING RIGHT d LEFT a WARNING SIGN a HIGH VOLTAGE SIGN
   a DOUBLED FEMALE SIGN b MALE SIGN a INTERLOCKED FEMALE AND MALE SIGN a MALE AND FEMALE SIGN b
   WITH STROKE SIGN d AND MALE AND FEMALE SIGN a VERTICAL MALE WITH STROKE SIGN a HORIZONTAL MALE
   WITH STROKE SIGN a MEDIUM WHITE CIRCLE b BLACK CIRCLE b SMALL WHITE CIRCLE a MARRIAGE SYMBOL a
   DIVORCE SYMBOL a UNMARRIED PARTNERSHIP SYMBOL a COFFIN a FUNERAL URN a NEUTER a CERES a PALLAS
   a JUNO a VESTA a CHIRON a BLACK MOON LILITH a SEXTILE a SEMISEXTILE a QUINCUNX a
   SESQUIQUADRATE a SOCCER BALL a BASEBALL a SQUARED KEY a WHITE DRAUGHTS MAN c KING a BLACK
   DRAUGHTS MAN c KING a SNOWMAN WITHOUT SNOW a SUN BEHIND CLOUD a RAIN a BLACK SNOWMAN a THUNDER
   CLOUD AND RAIN a TURNED WHITE SHOGI PIECE b BLACK SHOGI PIECE a WHITE DIAMOND IN SQUARE a
   CROSSING LANES a DISABLED CAR a OPHIUCHUS a PICK a CAR SLIDING a HELMET WITH WHITE CROSS a
   CIRCLED CROSSING LANES a CHAINS a NO ENTRY a ALTERNATE ONE-WAY LEFT WAY TRAFFIC a BLACK
   TWO-WAY LEFT WAY TRAFFIC a WHITE TWO-WAY LEFT WAY TRAFFIC a BLACK LEFT LANE MERGE a WHITE LEFT
   LANE MERGE a DRIVE SLOW SIGN a HEAVY WHITE DOWN-POINTING TRIANGLE a LEFT CLOSED ENTRY a
   SQUARED SALTIRE a FALLING DIAGONAL IN WHITE CIRCLE IN BLACK SQUARE a BLACK TRUCK a RESTRICTED
   LEFT ENTRY-1 c ENTRY-2 a ASTRONOMICAL SYMBOL FOR URANUS a HEAVY CIRCLE WITH STROKE AND TWO
   DOTS ABOVE a PENTAGRAM a RIGHT-HANDED INTERLACED PENTAGRAM a LEFT-HANDED INTERLACED PENTAGRAM
   a INVERTED PENTAGRAM a BLACK CROSS ON SHIELD a SHINTO SHRINE a CHURCH a CASTLE a HISTORIC SITE
   a GEAR WITHOUT HUB b WITH HANDLES a MAP SYMBOL FOR LIGHTHOUSE a MOUNTAIN a UMBRELLA ON GROUND
   a FOUNTAIN a FLAG IN HOLE a FERRY a SAILBOAT a SQUARE FOUR CORNERS a SKIER a ICE SKATE a
   PERSON WITH BALL a TENT a JAPANESE BANK SYMBOL a HEADSTONE GRAVEYARD SYMBOL a FUEL PUMP a CUP
   ON BLACK SQUARE a WHITE FLAG WITH HORIZONTAL MIDDLE BLACK STRIPE a BLACK SAFETY SCISSORS a
   UPPER BLADE SCISSORS a BLACK SCISSORS a LOWER BLADE SCISSORS a WHITE SCISSORS b HEAVY CHECK
   MARK a TELEPHONE LOCATION SIGN a TAPE DRIVE a AIRPLANE a ENVELOPE a RAISED FIST b HAND a
   VICTORY HAND a WRITING HAND a LOWER RIGHT PENCIL a PENCIL a UPPER RIGHT PENCIL a WHITE NIB a
   BLACK NIB a CHECK MARK a HEAVY CHECK MARK a MULTIPLICATION X a HEAVY MULTIPLICATION X a BALLOT
   X a HEAVY BALLOT X a OUTLINED GREEK CROSS a HEAVY GREEK CROSS a OPEN CENTRE CROSS a HEAVY OPEN
   CENTRE CROSS a LATIN CROSS a SHADOWED WHITE LATIN CROSS a OUTLINED LATIN CROSS a MALTESE CROSS
   a STAR OF DAVID a FOUR TEARDROP-SPOKED ASTERISK b BALLOON-SPOKED ASTERISK a HEAVY FOUR
   BALLOON-SPOKED ASTERISK a FOUR CLUB-SPOKED ASTERISK a BLACK FOUR POINTED STAR a WHITE FOUR
   POINTED STAR a SPARKLES a STRESS OUTLINED WHITE STAR a CIRCLED WHITE STAR a OPEN CENTRE BLACK
   STAR a BLACK CENTRE WHITE STAR a OUTLINED BLACK STAR a HEAVY OUTLINED BLACK STAR a PINWHEEL
   STAR a SHADOWED WHITE STAR a HEAVY ASTERISK a OPEN CENTRE ASTERISK a EIGHT SPOKED ASTERISK b
   POINTED BLACK STAR c PINWHEEL STAR a SIX POINTED BLACK STAR a EIGHT POINTED RECTILINEAR BLACK
   STAR a HEAVY EIGHT POINTED RECTILINEAR BLACK STAR a TWELVE POINTED BLACK STAR a SIXTEEN
   POINTED ASTERISK a TEARDROP-SPOKED ASTERISK a OPEN CENTRE TEARDROP-SPOKED ASTERISK a HEAVY
   TEARDROP-SPOKED ASTERISK a SIX PETALLED BLACK AND WHITE FLORETTE a BLACK FLORETTE a WHITE
   FLORETTE a EIGHT PETALLED OUTLINED BLACK FLORETTE a CIRCLED OPEN CENTRE EIGHT POINTED STAR a
   HEAVY TEARDROP-SPOKED PINWHEEL ASTERISK a SNOWFLAKE a TIGHT TRIFOLIATE SNOWFLAKE a HEAVY
   CHEVRON SNOWFLAKE a SPARKLE a HEAVY SPARKLE a BALLOON-SPOKED ASTERISK a EIGHT TEARDROP-SPOKED
   PROPELLER ASTERISK a HEAVY EIGHT TEARDROP-SPOKED PROPELLER ASTERISK a CROSS MARK a SHADOWED
   WHITE CIRCLE a NEGATIVE SQUARED CROSS MARK a LOWER RIGHT DROP-SHADOWED WHITE SQUARE a UPPER
   RIGHT DROP-SHADOWED WHITE SQUARE a LOWER RIGHT SHADOWED WHITE SQUARE a UPPER RIGHT SHADOWED
   WHITE SQUARE a BLACK QUESTION MARK ORNAMENT a WHITE QUESTION MARK ORNAMENT b EXCLAMATION MARK
   ORNAMENT a BLACK DIAMOND MINUS WHITE X a HEAVY EXCLAMATION MARK SYMBOL a LIGHT VERTICAL BAR a
   MEDIUM VERTICAL BAR a HEAVY VERTICAL BAR b SINGLE TURNED COMMA QUOTATION MARK ORNAMENT c COMMA
   QUOTATION MARK ORNAMENT b DOUBLE TURNED COMMA QUOTATION MARK ORNAMENT c COMMA QUOTATION MARK
   ORNAMENT b LOW SINGLE COMMA QUOTATION MARK ORNAMENT c DOUBLE COMMA QUOTATION MARK ORNAMENT a
   CURVED STEM PARAGRAPH SIGN ORNAMENT a HEAVY EXCLAMATION MARK ORNAMENT b HEART EXCLAMATION MARK
   ORNAMENT b BLACK HEART a ROTATED HEAVY BLACK HEART BULLET a FLORAL HEART a ROTATED FLORAL
   HEART BULLET a MEDIUM LEFT PARENTHESIS ORNAMENT b RIGHT PARENTHESIS ORNAMENT b FLATTENED LEFT
   PARENTHESIS ORNAMENT c RIGHT PARENTHESIS ORNAMENT b LEFT-POINTING ANGLE BRACKET ORNAMENT b
   RIGHT-POINTING ANGLE BRACKET ORNAMENT a HEAVY LEFT-POINTING ANGLE QUOTATION MARK ORNAMENT b
   RIGHT-POINTING ANGLE QUOTATION MARK ORNAMENT b LEFT-POINTING ANGLE BRACKET ORNAMENT b
   RIGHT-POINTING ANGLE BRACKET ORNAMENT a LIGHT LEFT TORTOISE SHELL BRACKET ORNAMENT b RIGHT
   TORTOISE SHELL BRACKET ORNAMENT a MEDIUM LEFT CURLY BRACKET ORNAMENT b RIGHT CURLY BRACKET
   ORNAMENT a DINGBAT NEGATIVE CIRCLED DIGIT ONE e TWO e THREE e FOUR e FIVE e SIX e SEVEN e
   EIGHT e NINE d NUMBER TEN b CIRCLED SANS-SERIF DIGIT ONE e TWO e THREE e FOUR e FIVE e SIX e
   SEVEN e EIGHT e NINE d NUMBER TEN b NEGATIVE CIRCLED SANS-SERIF DIGIT ONE f TWO f THREE f FOUR
   f FIVE f SIX f SEVEN f EIGHT f NINE e NUMBER TEN a HEAVY WIDE-HEADED RIGHTWARDS ARROW b PLUS
   SIGN b MINUS SIGN b DIVISION SIGN b SOUTH EAST ARROW b RIGHTWARDS ARROW b NORTH EAST ARROW a
   DRAFTING POINT RIGHTWARDS ARROW a HEAVY ROUND-TIPPED RIGHTWARDS ARROW a TRIANGLE-HEADED
   RIGHTWARDS ARROW a HEAVY TRIANGLE-HEADED RIGHTWARDS ARROW a DASHED TRIANGLE-HEADED RIGHTWARDS
   ARROW a HEAVY DASHED TRIANGLE-HEADED RIGHTWARDS ARROW a BLACK RIGHTWARDS ARROW a THREE-D
   TOP-LIGHTED RIGHTWARDS ARROWHEAD b BOTTOM-LIGHTED RIGHTWARDS ARROWHEAD a BLACK RIGHTWARDS
   ARROWHEAD a HEAVY BLACK CURVED DOWNWARDS AND RIGHTWARDS ARROW d UPWARDS AND RIGHTWARDS ARROW a
   SQUAT BLACK RIGHTWARDS ARROW a HEAVY CONCAVE-POINTED BLACK RIGHTWARDS ARROW a RIGHT-SHADED
   WHITE RIGHTWARDS ARROW a LEFT-SHADED WHITE RIGHTWARDS ARROW a BACK-TILTED SHADOWED WHITE
   RIGHTWARDS ARROW a FRONT-TILTED SHADOWED WHITE RIGHTWARDS ARROW a HEAVY LOWER RIGHT-SHADOWED
   WHITE RIGHTWARDS ARROW b UPPER RIGHT-SHADOWED WHITE RIGHTWARDS ARROW a NOTCHED LOWER
   RIGHT-SHADOWED WHITE RIGHTWARDS ARROW a CURLY LOOP a NOTCHED UPPER RIGHT-SHADOWED WHITE
   RIGHTWARDS ARROW a CIRCLED HEAVY WHITE RIGHTWARDS ARROW a WHITE-FEATHERED RIGHTWARDS ARROW a
   BLACK-FEATHERED SOUTH EAST ARROW b RIGHTWARDS ARROW b NORTH EAST ARROW a HEAVY BLACK-FEATHERED
   SOUTH EAST ARROW c RIGHTWARDS ARROW c NORTH EAST ARROW a TEARDROP-BARBED RIGHTWARDS ARROW a
   HEAVY TEARDROP-SHANKED RIGHTWARDS ARROW a WEDGE-TAILED RIGHTWARDS ARROW a HEAVY WEDGE-TAILED
   RIGHTWARDS ARROW a OPEN-OUTLINED RIGHTWARDS ARROW a DOUBLE CURLY LOOP a THREE DIMENSIONAL
   ANGLE a WHITE TRIANGLE CONTAINING SMALL WHITE TRIANGLE a PERPENDICULAR a OPEN SUBSET b
   SUPERSET a LEFT S-SHAPED BAG DELIMITER a RIGHT S-SHAPED BAG DELIMITER a OR WITH DOT INSIDE a
   REVERSE SOLIDUS PRECEDING SUBSET a SUPERSET PRECEDING SOLIDUS a VERTICAL BAR WITH HORIZONTAL
   STROKE a MATHEMATICAL RISING DIAGONAL a LONG DIVISION a MATHEMATICAL FALLING DIAGONAL a
   SQUARED LOGICAL AND c OR a WHITE DIAMOND WITH CENTRED DOT a AND WITH DOT a ELEMENT OF OPENING
   UPWARDS a LOWER RIGHT CORNER WITH DOT a UPPER LEFT CORNER WITH DOT a LEFT OUTER JOIN a RIGHT
   OUTER JOIN a FULL OUTER JOIN a LARGE UP TACK b DOWN TACK a LEFT AND RIGHT DOUBLE TURNSTILE d
   TACK b MULTIMAP a LONG RIGHT TACK b LEFT TACK a UP TACK WITH CIRCLE ABOVE a LOZENGE DIVIDED BY
   HORIZONTAL RULE a WHITE CONCAVE-SIDED DIAMOND d WITH LEFTWARDS TICK e RIGHTWARDS TICK b SQUARE
   WITH LEFTWARDS TICK d RIGHTWARDS TICK a MATHEMATICAL LEFT WHITE SQUARE BRACKET b RIGHT WHITE
   SQUARE BRACKET b LEFT ANGLE BRACKET b RIGHT ANGLE BRACKET b LEFT DOUBLE ANGLE BRACKET b RIGHT
   DOUBLE ANGLE BRACKET b LEFT WHITE TORTOISE SHELL BRACKET b RIGHT WHITE TORTOISE SHELL BRACKET
   b LEFT FLATTENED PARENTHESIS b RIGHT FLATTENED PARENTHESIS a UPWARDS QUADRUPLE ARROW a
   DOWNWARDS QUADRUPLE ARROW a ANTICLOCKWISE GAPPED CIRCLE ARROW a CLOCKWISE GAPPED CIRCLE ARROW
   a RIGHT ARROW WITH CIRCLED PLUS a LONG LEFTWARDS ARROW b RIGHTWARDS ARROW b LEFT RIGHT ARROW b
   LEFTWARDS DOUBLE ARROW b RIGHTWARDS DOUBLE ARROW b LEFT RIGHT DOUBLE ARROW b LEFTWARDS ARROW
   FROM BAR b RIGHTWARDS ARROW FROM BAR b LEFTWARDS DOUBLE ARROW FROM BAR b RIGHTWARDS DOUBLE
   ARROW FROM BAR c SQUIGGLE ARROW a BRAILLE PATTERN BLANK c DOTS-1 c DOTS-2 c DOTS-12 c DOTS-3 c
   DOTS-13 c DOTS-23 c DOTS-123 c DOTS-4 c DOTS-14 c DOTS-24 c DOTS-124 c DOTS-34 c DOTS-134 c
   DOTS-234 c DOTS-1234 c DOTS-5 c DOTS-15 c DOTS-25 c DOTS-125 c DOTS-35 c DOTS-135 c DOTS-235 c
   DOTS-1235 c DOTS-45 c DOTS-145 c DOTS-245 c DOTS-1245 c DOTS-345 c DOTS-1345 c DOTS-2345 c
   DOTS-12345 c DOTS-6 c DOTS-16 c DOTS-26 c DOTS-126 c DOTS-36 c DOTS-136 c DOTS-236 c DOTS-1236
   c DOTS-46 c DOTS-146 c DOTS-246 c DOTS-1246 c DOTS-346 c DOTS-1346 c DOTS-2346 c DOTS-12346 c
   DOTS-56 c DOTS-156 c DOTS-256 c DOTS-1256 c DOTS-356 c DOTS-1356 c DOTS-2356 c DOTS-12356 c
   DOTS-456 c DOTS-1456 c DOTS-2456 c DOTS-12456 c DOTS-3456 c DOTS-13456 c DOTS-23456 c
   DOTS-123456 c DOTS-7 c DOTS-17 c DOTS-27 c DOTS-127 c DOTS-37 c DOTS-137 c DOTS-237 c
   DOTS-1237 c DOTS-47 c DOTS-147 c DOTS-247 c DOTS-1247 c DOTS-347 c DOTS-1347 c DOTS-2347 c
   DOTS-12347 c DOTS-57 c DOTS-157 c DOTS-257 c DOTS-1257 c DOTS-357 c DOTS-1357 c DOTS-2357 c
   DOTS-12357 c DOTS-457 c DOTS-1457 c DOTS-2457 c DOTS-12457 c DOTS-3457 c DOTS-13457 c
   DOTS-23457 c DOTS-123457 c DOTS-67 c DOTS-167 c DOTS-267 c DOTS-1267 c DOTS-367 c DOTS-1367 c
   DOTS-2367 c DOTS-12367 c DOTS-467 c DOTS-1467 c DOTS-2467 c DOTS-12467 c DOTS-3467 c
   DOTS-13467 c DOTS-23467 c DOTS-123467 c DOTS-567 c DOTS-1567 c DOTS-2567 c DOTS-12567 c
   DOTS-3567 c DOTS-13567 c DOTS-23567 c DOTS-123567 c DOTS-4567 c DOTS-14567 c DOTS-24567 c
   DOTS-124567 c DOTS-34567 c DOTS-134567 c DOTS-234567 c DOTS-1234567 c DOTS-8 c DOTS-18 c
   DOTS-28 c DOTS-128 c DOTS-38 c DOTS-138 c DOTS-238 c DOTS-1238 c DOTS-48 c DOTS-148 c DOTS-248
   c DOTS-1248 c DOTS-348 c DOTS-1348 c DOTS-2348 c DOTS-12348 c DOTS-58 c DOTS-158 c DOTS-258 c
   DOTS-1258 c DOTS-358 c DOTS-1358 c DOTS-2358 c DOTS-12358 c DOTS-458 c DOTS-1458 c DOTS-2458 c
   DOTS-12458 c DOTS-3458 c DOTS-13458 c DOTS-23458 c DOTS-123458 c DOTS-68 c DOTS-168 c DOTS-268
   c DOTS-1268 c DOTS-368 c DOTS-1368 c DOTS-2368 c DOTS-12368 c DOTS-468 c DOTS-1468 c DOTS-2468
   c DOTS-12468 c DOTS-3468 c DOTS-13468 c DOTS-23468 c DOTS-123468 c DOTS-568 c DOTS-1568 c
   DOTS-2568 c DOTS-12568 c DOTS-3568 c DOTS-13568 c DOTS-23568 c DOTS-123568 c DOTS-4568 c
   DOTS-14568 c DOTS-24568 c DOTS-124568 c DOTS-34568 c DOTS-134568 c DOTS-234568 c DOTS-1234568
   c DOTS-78 c DOTS-178 c DOTS-278 c DOTS-1278 c DOTS-378 c DOTS-1378 c DOTS-2378 c DOTS-12378 c
   DOTS-478 c DOTS-1478 c DOTS-2478 c DOTS-12478 c DOTS-3478 c DOTS-13478 c DOTS-23478 c
   DOTS-123478 c DOTS-578 c DOTS-1578 c DOTS-2578 c DOTS-12578 c DOTS-3578 c DOTS-13578 c
   DOTS-23578 c DOTS-123578 c DOTS-4578 c DOTS-14578 c DOTS-24578 c DOTS-124578 c DOTS-34578 c
   DOTS-134578 c DOTS-234578 c DOTS-1234578 c DOTS-678 c DOTS-1678 c DOTS-2678 c DOTS-12678 c
   DOTS-3678 c DOTS-13678 c DOTS-23678 c DOTS-123678 c DOTS-4678 c DOTS-14678 c DOTS-24678 c
   DOTS-124678 c DOTS-34678 c DOTS-134678 c DOTS-234678 c DOTS-1234678 c DOTS-5678 c DOTS-15678 c
   DOTS-25678 c DOTS-125678 c DOTS-35678 c DOTS-135678 c DOTS-235678 c DOTS-1235678 c DOTS-45678
   c DOTS-145678 c DOTS-245678 c DOTS-1245678 c DOTS-345678 c DOTS-1345678 c DOTS-2345678 c
   DOTS-12345678 a RIGHTWARDS TWO-HEADED ARROW WITH VERTICAL STROKE e DOUBLE VERTICAL STROKE a
   LEFTWARDS DOUBLE ARROW WITH VERTICAL STROKE a RIGHTWARDS DOUBLE ARROW WITH VERTICAL STROKE a
   LEFT RIGHT DOUBLE ARROW WITH VERTICAL STROKE a RIGHTWARDS TWO-HEADED ARROW FROM BAR a
   LEFTWARDS DOUBLE ARROW FROM BAR a RIGHTWARDS DOUBLE ARROW FROM BAR a DOWNWARDS ARROW WITH
   HORIZONTAL STROKE a UPWARDS ARROW WITH HORIZONTAL STROKE b TRIPLE ARROW a DOWNWARDS TRIPLE
   ARROW a LEFTWARDS DOUBLE DASH ARROW a RIGHTWARDS DOUBLE DASH ARROW a LEFTWARDS TRIPLE DASH
   ARROW a RIGHTWARDS TRIPLE DASH ARROW b TWO-HEADED TRIPLE DASH ARROW b ARROW WITH DOTTED STEM a
   UPWARDS ARROW TO BAR a DOWNWARDS ARROW TO BAR a RIGHTWARDS ARROW WITH TAIL WITH VERTICAL
   STROKE f DOUBLE VERTICAL STROKE b TWO-HEADED ARROW WITH TAIL f WITH VERTICAL STROKE g DOUBLE
   VERTICAL STROKE a LEFTWARDS ARROW-TAIL a RIGHTWARDS ARROW-TAIL a LEFTWARDS DOUBLE ARROW-TAIL a
   RIGHTWARDS DOUBLE ARROW-TAIL a LEFTWARDS ARROW TO BLACK DIAMOND a RIGHTWARDS ARROW TO BLACK
   DIAMOND a LEFTWARDS ARROW FROM BAR TO BLACK DIAMOND a RIGHTWARDS ARROW FROM BAR TO BLACK
   DIAMOND a NORTH WEST AND SOUTH EAST ARROW b EAST AND SOUTH WEST ARROW b WEST ARROW WITH HOOK b
   EAST ARROW WITH HOOK a SOUTH EAST ARROW WITH HOOK b WEST ARROW WITH HOOK a NORTH WEST ARROW
   AND NORTH EAST ARROW b EAST ARROW AND SOUTH EAST ARROW a SOUTH EAST ARROW AND SOUTH WEST ARROW
   b WEST ARROW AND NORTH WEST ARROW a RISING DIAGONAL CROSSING FALLING DIAGONAL a FALLING
   DIAGONAL CROSSING RISING DIAGONAL a SOUTH EAST ARROW CROSSING NORTH EAST ARROW a NORTH EAST
   ARROW CROSSING SOUTH EAST ARROW a FALLING DIAGONAL CROSSING NORTH EAST ARROW a RISING DIAGONAL
   CROSSING SOUTH EAST ARROW a NORTH EAST ARROW CROSSING NORTH WEST ARROW b WEST ARROW CROSSING
   NORTH EAST ARROW a WAVE ARROW POINTING DIRECTLY RIGHT a ARROW POINTING RIGHTWARDS THEN CURVING
   UPWARDS f DOWNWARDS c DOWNWARDS THEN CURVING LEFTWARDS f RIGHTWARDS a RIGHT-SIDE ARC CLOCKWISE
   ARROW a LEFT-SIDE ARC ANTICLOCKWISE ARROW a TOP ARC ANTICLOCKWISE ARROW a BOTTOM ARC
   ANTICLOCKWISE ARROW a TOP ARC CLOCKWISE ARROW WITH MINUS c ANTICLOCKWISE ARROW WITH PLUS a
   LOWER RIGHT SEMICIRCULAR CLOCKWISE ARROW b LEFT SEMICIRCULAR ANTICLOCKWISE ARROW a
   ANTICLOCKWISE CLOSED CIRCLE ARROW a CLOCKWISE CLOSED CIRCLE ARROW a RIGHTWARDS ARROW ABOVE
   SHORT LEFTWARDS ARROW a LEFTWARDS ARROW ABOVE SHORT RIGHTWARDS ARROW a SHORT RIGHTWARDS ARROW
   ABOVE LEFTWARDS ARROW a RIGHTWARDS ARROW WITH PLUS BELOW a LEFTWARDS ARROW WITH PLUS BELOW a
   RIGHTWARDS ARROW THROUGH X a LEFT RIGHT ARROW THROUGH SMALL CIRCLE a UPWARDS TWO-HEADED ARROW
   FROM SMALL CIRCLE a LEFT BARB UP RIGHT BARB DOWN HARPOON c DOWN RIGHT BARB UP HARPOON a UP
   BARB RIGHT DOWN BARB LEFT HARPOON c LEFT DOWN BARB RIGHT HARPOON a LEFT BARB UP RIGHT BARB UP
   HARPOON a UP BARB RIGHT DOWN BARB RIGHT HARPOON a LEFT BARB DOWN RIGHT BARB DOWN HARPOON a UP
   BARB LEFT DOWN BARB LEFT HARPOON a LEFTWARDS HARPOON WITH BARB UP TO BAR a RIGHTWARDS HARPOON
   WITH BARB UP TO BAR a UPWARDS HARPOON WITH BARB RIGHT TO BAR a DOWNWARDS HARPOON WITH BARB
   RIGHT TO BAR a LEFTWARDS HARPOON WITH BARB DOWN TO BAR a RIGHTWARDS HARPOON WITH BARB DOWN TO
   BAR a UPWARDS HARPOON WITH BARB LEFT TO BAR a DOWNWARDS HARPOON WITH BARB LEFT TO BAR a
   LEFTWARDS HARPOON WITH BARB UP FROM BAR a RIGHTWARDS HARPOON WITH BARB UP FROM BAR a UPWARDS
   HARPOON WITH BARB RIGHT FROM BAR a DOWNWARDS HARPOON WITH BARB RIGHT FROM BAR a LEFTWARDS
   HARPOON WITH BARB DOWN FROM BAR a RIGHTWARDS HARPOON WITH BARB DOWN FROM BAR a UPWARDS HARPOON
   WITH BARB LEFT FROM BAR a DOWNWARDS HARPOON WITH BARB LEFT FROM BAR a LEFTWARDS HARPOON WITH
   BARB UP ABOVE LEFTWARDS HARPOON WITH BARB DOWN a UPWARDS HARPOON WITH BARB LEFT BESIDE UPWARDS
   HARPOON WITH BARB RIGHT a RIGHTWARDS HARPOON WITH BARB UP ABOVE RIGHTWARDS HARPOON WITH BARB
   DOWN a DOWNWARDS HARPOON WITH BARB LEFT BESIDE DOWNWARDS HARPOON WITH BARB RIGHT a LEFTWARDS
   HARPOON WITH BARB UP ABOVE RIGHTWARDS HARPOON WITH BARB UP e DOWN ABOVE RIGHTWARDS HARPOON
   WITH BARB DOWN a RIGHTWARDS HARPOON WITH BARB UP ABOVE LEFTWARDS HARPOON WITH BARB UP e DOWN
   ABOVE LEFTWARDS HARPOON WITH BARB DOWN a LEFTWARDS HARPOON WITH BARB UP ABOVE LONG DASH e DOWN
   BELOW LONG DASH a RIGHTWARDS HARPOON WITH BARB UP ABOVE LONG DASH e DOWN BELOW LONG DASH a
   UPWARDS HARPOON WITH BARB LEFT BESIDE DOWNWARDS HARPOON WITH BARB RIGHT a DOWNWARDS HARPOON
   WITH BARB LEFT BESIDE UPWARDS HARPOON WITH BARB RIGHT a RIGHT DOUBLE ARROW WITH ROUNDED HEAD a
   EQUALS SIGN ABOVE RIGHTWARDS ARROW a TILDE OPERATOR ABOVE RIGHTWARDS ARROW a LEFTWARDS ARROW
   ABOVE TILDE OPERATOR a RIGHTWARDS ARROW ABOVE TILDE OPERATOR d ALMOST EQUAL TO a LESS-THAN
   ABOVE LEFTWARDS ARROW a LEFTWARDS ARROW THROUGH LESS-THAN a GREATER-THAN ABOVE RIGHTWARDS
   ARROW a SUBSET ABOVE RIGHTWARDS ARROW a LEFTWARDS ARROW THROUGH SUBSET a SUPERSET ABOVE
   LEFTWARDS ARROW a LEFT FISH TAIL a RIGHT FISH TAIL a UP FISH TAIL a DOWN FISH TAIL a TRIPLE
   VERTICAL BAR DELIMITER a Z NOTATION SPOT c TYPE COLON a LEFT WHITE CURLY BRACKET a RIGHT WHITE
   CURLY BRACKET a LEFT WHITE PARENTHESIS a RIGHT WHITE PARENTHESIS a Z NOTATION LEFT IMAGE
   BRACKET c RIGHT IMAGE BRACKET c LEFT BINDING BRACKET c RIGHT BINDING BRACKET a LEFT SQUARE
   BRACKET WITH UNDERBAR a RIGHT SQUARE BRACKET WITH UNDERBAR a LEFT SQUARE BRACKET WITH TICK IN
   TOP CORNER a RIGHT SQUARE BRACKET WITH TICK IN BOTTOM CORNER a LEFT SQUARE BRACKET WITH TICK
   IN BOTTOM CORNER a RIGHT SQUARE BRACKET WITH TICK IN TOP CORNER a LEFT ANGLE BRACKET WITH DOT
   a RIGHT ANGLE BRACKET WITH DOT a LEFT ARC LESS-THAN BRACKET a RIGHT ARC GREATER-THAN BRACKET a
   DOUBLE LEFT ARC GREATER-THAN BRACKET b RIGHT ARC LESS-THAN BRACKET a LEFT BLACK TORTOISE SHELL
   BRACKET a RIGHT BLACK TORTOISE SHELL BRACKET a DOTTED FENCE a VERTICAL ZIGZAG LINE a MEASURED
   ANGLE OPENING LEFT a RIGHT ANGLE VARIANT WITH SQUARE a MEASURED RIGHT ANGLE WITH DOT a ANGLE
   WITH S INSIDE a ACUTE ANGLE a SPHERICAL ANGLE OPENING LEFT d UP a TURNED ANGLE a REVERSED
   ANGLE a ANGLE WITH UNDERBAR a REVERSED ANGLE WITH UNDERBAR a OBLIQUE ANGLE OPENING UP d DOWN a
   MEASURED ANGLE WITH OPEN ARM ENDING IN ARROW POINTING UP AND RIGHT l LEFT j DOWN AND RIGHT l
   LEFT j RIGHT AND UP j LEFT AND UP j RIGHT AND DOWN j LEFT AND DOWN a REVERSED EMPTY SET a
   EMPTY SET WITH OVERBAR d SMALL CIRCLE ABOVE d RIGHT ARROW ABOVE d LEFT ARROW ABOVE a CIRCLE
   WITH HORIZONTAL BAR a CIRCLED VERTICAL BAR b PARALLEL b REVERSE SOLIDUS b PERPENDICULAR a
   CIRCLE DIVIDED BY HORIZONTAL BAR AND TOP HALF DIVIDED BY VERTICAL BAR b WITH SUPERIMPOSED X a
   CIRCLED ANTICLOCKWISE-ROTATED DIVISION SIGN a UP ARROW THROUGH CIRCLE a CIRCLED WHITE BULLET b
   BULLET b LESS-THAN b GREATER-THAN a CIRCLE WITH SMALL CIRCLE TO THE RIGHT c TWO HORIZONTAL
   STROKES TO THE RIGHT a SQUARED RISING DIAGONAL SLASH b FALLING DIAGONAL SLASH b ASTERISK b
   SMALL CIRCLE b SQUARE a TWO JOINED SQUARES a TRIANGLE WITH DOT ABOVE c UNDERBAR a S IN
   TRIANGLE a TRIANGLE WITH SERIFS AT BOTTOM a RIGHT TRIANGLE ABOVE LEFT TRIANGLE a LEFT TRIANGLE
   BESIDE VERTICAL BAR a VERTICAL BAR BESIDE RIGHT TRIANGLE a BOWTIE WITH LEFT HALF BLACK c RIGHT
   HALF BLACK a BLACK BOWTIE a TIMES WITH LEFT HALF BLACK c RIGHT HALF BLACK a WHITE HOURGLASS a
   BLACK HOURGLASS a LEFT WIGGLY FENCE a RIGHT WIGGLY FENCE a LEFT DOUBLE WIGGLY FENCE a RIGHT
   DOUBLE WIGGLY FENCE a INCOMPLETE INFINITY a TIE OVER INFINITY a INFINITY NEGATED WITH VERTICAL
   BAR a DOUBLE-ENDED MULTIMAP a SQUARE WITH CONTOURED OUTLINE a INCREASES AS a SHUFFLE PRODUCT a
   EQUALS SIGN AND SLANTED PARALLEL f WITH TILDE ABOVE a IDENTICAL TO AND SLANTED PARALLEL a
   GLEICH STARK a THERMODYNAMIC a DOWN-POINTING TRIANGLE WITH LEFT HALF BLACK d RIGHT HALF BLACK
   a BLACK DIAMOND WITH DOWN ARROW b LOZENGE a WHITE CIRCLE WITH DOWN ARROW a BLACK CIRCLE WITH
   DOWN ARROW a ERROR-BARRED WHITE SQUARE b BLACK SQUARE b WHITE DIAMOND b BLACK DIAMOND b WHITE
   CIRCLE b BLACK CIRCLE a RULE-DELAYED a REVERSE SOLIDUS OPERATOR a SOLIDUS WITH OVERBAR a
   REVERSE SOLIDUS WITH HORIZONTAL STROKE a BIG SOLIDUS b REVERSE SOLIDUS a DOUBLE PLUS a TRIPLE
   PLUS a LEFT-POINTING CURVED ANGLE BRACKET a RIGHT-POINTING CURVED ANGLE BRACKET a TINY a MINY
   a N-ARY CIRCLED DOT OPERATOR c PLUS OPERATOR c TIMES OPERATOR b UNION OPERATOR WITH DOT e PLUS
   b SQUARE INTERSECTION OPERATOR c UNION OPERATOR a TWO LOGICAL AND OPERATOR c OR OPERATOR a
   N-ARY TIMES OPERATOR a MODULO TWO SUM a SUMMATION WITH INTEGRAL a QUADRUPLE INTEGRAL OPERATOR
   a FINITE PART INTEGRAL a INTEGRAL WITH DOUBLE STROKE b AVERAGE WITH SLASH a CIRCULATION
   FUNCTION a ANTICLOCKWISE INTEGRATION a LINE INTEGRATION WITH RECTANGULAR PATH AROUND POLE d
   SEMICIRCULAR PATH AROUND POLE c NOT INCLUDING THE POLE a INTEGRAL AROUND A POINT OPERATOR a
   QUATERNION INTEGRAL OPERATOR a INTEGRAL WITH LEFTWARDS ARROW WITH HOOK c TIMES SIGN c
   INTERSECTION c UNION c OVERBAR c UNDERBAR a JOIN a LARGE LEFT TRIANGLE OPERATOR a Z NOTATION
   SCHEMA COMPOSITION d PIPING d PROJECTION a PLUS SIGN WITH SMALL CIRCLE ABOVE d CIRCUMFLEX
   ACCENT ABOVE d TILDE ABOVE d DOT BELOW d TILDE BELOW d SUBSCRIPT TWO d BLACK TRIANGLE a MINUS
   SIGN WITH COMMA ABOVE d DOT BELOW d FALLING DOTS d RISING DOTS a PLUS SIGN IN LEFT HALF CIRCLE
   d RIGHT HALF CIRCLE a VECTOR OR CROSS PRODUCT a MULTIPLICATION SIGN WITH DOT ABOVE d UNDERBAR
   a SEMIDIRECT PRODUCT WITH BOTTOM CLOSED a SMASH PRODUCT a MULTIPLICATION SIGN IN LEFT HALF
   CIRCLE d RIGHT HALF CIRCLE a CIRCLED MULTIPLICATION SIGN WITH CIRCUMFLEX ACCENT a
   MULTIPLICATION SIGN IN DOUBLE CIRCLE a CIRCLED DIVISION SIGN a PLUS SIGN IN TRIANGLE a MINUS
   SIGN IN TRIANGLE a MULTIPLICATION SIGN IN TRIANGLE a INTERIOR PRODUCT a RIGHTHAND INTERIOR
   PRODUCT a Z NOTATION RELATIONAL COMPOSITION a AMALGAMATION OR COPRODUCT a INTERSECTION WITH
   DOT a UNION WITH MINUS SIGN c OVERBAR a INTERSECTION WITH OVERBAR c LOGICAL AND a UNION WITH
   LOGICAL OR b ABOVE INTERSECTION a INTERSECTION ABOVE UNION a UNION ABOVE BAR ABOVE
   INTERSECTION a INTERSECTION ABOVE BAR ABOVE UNION a UNION BESIDE AND JOINED WITH UNION a
   INTERSECTION BESIDE AND JOINED WITH INTERSECTION a CLOSED UNION WITH SERIFS b INTERSECTION
   WITH SERIFS a DOUBLE SQUARE INTERSECTION c UNION a CLOSED UNION WITH SERIFS AND SMASH PRODUCT
   a LOGICAL AND WITH DOT ABOVE b OR WITH DOT ABOVE a DOUBLE LOGICAL AND c OR a TWO INTERSECTING
   LOGICAL AND d OR a SLOPING LARGE OR c AND a LOGICAL OR OVERLAPPING LOGICAL AND b AND WITH
   MIDDLE STEM b OR WITH MIDDLE STEM b AND WITH HORIZONTAL DASH b OR WITH HORIZONTAL DASH b AND
   WITH DOUBLE OVERBAR d UNDERBAR d DOUBLE UNDERBAR a SMALL VEE WITH UNDERBAR a LOGICAL OR WITH
   DOUBLE OVERBAR e UNDERBAR a Z NOTATION DOMAIN ANTIRESTRICTION c RANGE ANTIRESTRICTION a EQUALS
   SIGN WITH DOT BELOW a IDENTICAL WITH DOT ABOVE a TRIPLE HORIZONTAL BAR WITH DOUBLE VERTICAL
   STROKE e TRIPLE VERTICAL STROKE a TILDE OPERATOR WITH DOT ABOVE d RISING DOTS a SIMILAR MINUS
   SIMILAR a CONGRUENT WITH DOT ABOVE a EQUALS WITH ASTERISK a ALMOST EQUAL TO WITH CIRCUMFLEX
   ACCENT a APPROXIMATELY EQUAL OR EQUAL TO a EQUALS SIGN ABOVE PLUS SIGN a PLUS SIGN ABOVE
   EQUALS SIGN a EQUALS SIGN ABOVE TILDE OPERATOR a DOUBLE COLON EQUAL a TWO CONSECUTIVE EQUALS
   SIGNS a THREE CONSECUTIVE EQUALS SIGNS a EQUALS SIGN WITH TWO DOTS ABOVE AND TWO DOTS BELOW a
   EQUIVALENT WITH FOUR DOTS ABOVE a LESS-THAN WITH CIRCLE INSIDE a GREATER-THAN WITH CIRCLE
   INSIDE a LESS-THAN WITH QUESTION MARK ABOVE a GREATER-THAN WITH QUESTION MARK ABOVE a
   LESS-THAN OR SLANTED EQUAL TO a GREATER-THAN OR SLANTED EQUAL TO a LESS-THAN OR SLANTED EQUAL
   TO WITH DOT INSIDE a GREATER-THAN OR SLANTED EQUAL TO WITH DOT INSIDE a LESS-THAN OR SLANTED
   EQUAL TO WITH DOT ABOVE a GREATER-THAN OR SLANTED EQUAL TO WITH DOT ABOVE a LESS-THAN OR
   SLANTED EQUAL TO WITH DOT ABOVE RIGHT a GREATER-THAN OR SLANTED EQUAL TO WITH DOT ABOVE LEFT a
   LESS-THAN OR APPROXIMATE a GREATER-THAN OR APPROXIMATE a LESS-THAN AND SINGLE-LINE NOT EQUAL
   TO a GREATER-THAN AND SINGLE-LINE NOT EQUAL TO a LESS-THAN AND NOT APPROXIMATE a GREATER-THAN
   AND NOT APPROXIMATE a LESS-THAN ABOVE DOUBLE-LINE EQUAL ABOVE GREATER-THAN a GREATER-THAN
   ABOVE DOUBLE-LINE EQUAL ABOVE LESS-THAN a LESS-THAN ABOVE SIMILAR OR EQUAL a GREATER-THAN
   ABOVE SIMILAR OR EQUAL a LESS-THAN ABOVE SIMILAR ABOVE GREATER-THAN a GREATER-THAN ABOVE
   SIMILAR ABOVE LESS-THAN a LESS-THAN ABOVE GREATER-THAN ABOVE DOUBLE-LINE EQUAL a GREATER-THAN
   ABOVE LESS-THAN ABOVE DOUBLE-LINE EQUAL a LESS-THAN ABOVE SLANTED EQUAL ABOVE GREATER-THAN
   ABOVE SLANTED EQUAL a GREATER-THAN ABOVE SLANTED EQUAL ABOVE LESS-THAN ABOVE SLANTED EQUAL a
   SLANTED EQUAL TO OR LESS-THAN e GREATER-THAN e LESS-THAN WITH DOT INSIDE e GREATER-THAN WITH
   DOT INSIDE a DOUBLE-LINE EQUAL TO OR LESS-THAN e GREATER-THAN b SLANTED EQUAL TO OR LESS-THAN
   f GREATER-THAN a SIMILAR OR LESS-THAN c GREATER-THAN b ABOVE LESS-THAN ABOVE EQUALS SIGN c
   GREATER-THAN ABOVE EQUALS SIGN a DOUBLE NESTED LESS-THAN c GREATER-THAN c LESS-THAN WITH
   UNDERBAR a GREATER-THAN OVERLAPPING LESS-THAN b BESIDE LESS-THAN a LESS-THAN CLOSED BY CURVE a
   GREATER-THAN CLOSED BY CURVE a LESS-THAN CLOSED BY CURVE ABOVE SLANTED EQUAL a GREATER-THAN
   CLOSED BY CURVE ABOVE SLANTED EQUAL a SMALLER THAN a LARGER THAN a SMALLER THAN OR EQUAL TO a
   LARGER THAN OR EQUAL TO a EQUALS SIGN WITH BUMPY ABOVE a PRECEDES ABOVE SINGLE-LINE EQUALS
   SIGN a SUCCEEDS ABOVE SINGLE-LINE EQUALS SIGN a PRECEDES ABOVE SINGLE-LINE NOT EQUAL TO a
   SUCCEEDS ABOVE SINGLE-LINE NOT EQUAL TO a PRECEDES ABOVE EQUALS SIGN a SUCCEEDS ABOVE EQUALS
   SIGN a PRECEDES ABOVE NOT EQUAL TO a SUCCEEDS ABOVE NOT EQUAL TO a PRECEDES ABOVE ALMOST EQUAL
   TO a SUCCEEDS ABOVE ALMOST EQUAL TO a PRECEDES ABOVE NOT ALMOST EQUAL TO a SUCCEEDS ABOVE NOT
   ALMOST EQUAL TO a DOUBLE PRECEDES b SUCCEEDS a SUBSET WITH DOT a SUPERSET WITH DOT a SUBSET
   WITH PLUS SIGN BELOW a SUPERSET WITH PLUS SIGN BELOW a SUBSET WITH MULTIPLICATION SIGN BELOW a
   SUPERSET WITH MULTIPLICATION SIGN BELOW a SUBSET OF OR EQUAL TO WITH DOT ABOVE a SUPERSET OF
   OR EQUAL TO WITH DOT ABOVE a SUBSET OF ABOVE EQUALS SIGN a SUPERSET OF ABOVE EQUALS SIGN a
   SUBSET OF ABOVE TILDE OPERATOR a SUPERSET OF ABOVE TILDE OPERATOR a SUBSET OF ABOVE ALMOST
   EQUAL TO a SUPERSET OF ABOVE ALMOST EQUAL TO a SUBSET OF ABOVE NOT EQUAL TO a SUPERSET OF
   ABOVE NOT EQUAL TO a SQUARE LEFT OPEN BOX OPERATOR b RIGHT OPEN BOX OPERATOR a CLOSED SUBSET b
   SUPERSET b SUBSET OR EQUAL TO b SUPERSET OR EQUAL TO a SUBSET ABOVE SUPERSET a SUPERSET ABOVE
   SUBSET a SUBSET ABOVE SUBSET a SUPERSET ABOVE SUPERSET b BESIDE SUBSET c AND JOINED BY DASH
   WITH SUBSET a ELEMENT OF OPENING DOWNWARDS a PITCHFORK WITH TEE TOP a TRANSVERSAL INTERSECTION
   a FORKING a NONFORKING a SHORT LEFT TACK b DOWN TACK b UP TACK a PERPENDICULAR WITH S a
   VERTICAL BAR TRIPLE RIGHT TURNSTILE a DOUBLE VERTICAL BAR LEFT TURNSTILE a VERTICAL BAR DOUBLE
   LEFT TURNSTILE a DOUBLE VERTICAL BAR DOUBLE LEFT TURNSTILE a LONG DASH FROM LEFT MEMBER OF
   DOUBLE VERTICAL a SHORT DOWN TACK WITH OVERBAR b UP TACK WITH UNDERBAR d ABOVE SHORT DOWN TACK
   a DOUBLE DOWN TACK b UP TACK b STROKE NOT SIGN a REVERSED DOUBLE STROKE NOT SIGN a DOES NOT
   DIVIDE WITH REVERSED NEGATION SLASH a VERTICAL LINE WITH CIRCLE ABOVE e BELOW a DOWN TACK WITH
   CIRCLE BELOW a PARALLEL WITH HORIZONTAL STROKE c TILDE OPERATOR a TRIPLE VERTICAL BAR BINARY
   RELATION d WITH HORIZONTAL STROKE b COLON OPERATOR b NESTED LESS-THAN c GREATER-THAN a
   DOUBLE-LINE SLANTED LESS-THAN OR EQUAL TO c GREATER-THAN OR EQUAL TO a TRIPLE SOLIDUS BINARY
   RELATION a LARGE TRIPLE VERTICAL BAR OPERATOR a DOUBLE SOLIDUS OPERATOR a WHITE VERTICAL BAR a
   N-ARY WHITE VERTICAL BAR a NORTH EAST WHITE ARROW b WEST WHITE ARROW a SOUTH EAST WHITE ARROW
   b WEST WHITE ARROW a LEFT RIGHT WHITE ARROW a LEFTWARDS BLACK ARROW a UPWARDS BLACK ARROW a
   DOWNWARDS BLACK ARROW a NORTH EAST BLACK ARROW b WEST BLACK ARROW a SOUTH EAST BLACK ARROW b
   WEST BLACK ARROW a LEFT RIGHT BLACK ARROW a UP DOWN BLACK ARROW a RIGHTWARDS ARROW WITH TIP
   DOWNWARDS e UPWARDS a LEFTWARDS ARROW WITH TIP DOWNWARDS e UPWARDS a SQUARE WITH TOP HALF
   BLACK c BOTTOM HALF BLACK c UPPER RIGHT DIAGONAL HALF BLACK c LOWER LEFT DIAGONAL HALF BLACK a
   DIAMOND WITH LEFT HALF BLACK c RIGHT HALF BLACK c TOP HALF BLACK c BOTTOM HALF BLACK a DOTTED
   SQUARE a BLACK LARGE SQUARE a WHITE LARGE SQUARE a BLACK VERY SMALL SQUARE a WHITE VERY SMALL
   SQUARE a BLACK PENTAGON a WHITE PENTAGON b HEXAGON a BLACK HEXAGON a HORIZONTAL BLACK HEXAGON
   a BLACK LARGE CIRCLE b MEDIUM DIAMOND a WHITE MEDIUM DIAMOND a BLACK MEDIUM LOZENGE a WHITE
   MEDIUM LOZENGE a BLACK SMALL DIAMOND c LOZENGE a WHITE SMALL LOZENGE a BLACK HORIZONTAL
   ELLIPSE a WHITE HORIZONTAL ELLIPSE a BLACK VERTICAL ELLIPSE a WHITE VERTICAL ELLIPSE a LEFT
   ARROW WITH SMALL CIRCLE a THREE LEFTWARDS ARROWS a LEFT ARROW WITH CIRCLED PLUS a LONG
   LEFTWARDS SQUIGGLE ARROW a LEFTWARDS TWO-HEADED ARROW WITH VERTICAL STROKE e DOUBLE VERTICAL
   STROKE d FROM BAR c TRIPLE DASH ARROW b ARROW WITH DOTTED STEM d TAIL WITH VERTICAL STROKE f
   DOUBLE VERTICAL STROKE b TWO-HEADED ARROW WITH TAIL f WITH VERTICAL STROKE g DOUBLE VERTICAL
   STROKE b ARROW THROUGH X a WAVE ARROW POINTING DIRECTLY LEFT a EQUALS SIGN ABOVE LEFTWARDS
   ARROW a REVERSE TILDE OPERATOR ABOVE LEFTWARDS ARROW a LEFTWARDS ARROW ABOVE REVERSE ALMOST
   EQUAL TO a RIGHTWARDS ARROW THROUGH GREATER-THAN d SUPERSET a LEFTWARDS QUADRUPLE ARROW a
   RIGHTWARDS QUADRUPLE ARROW a REVERSE TILDE OPERATOR ABOVE RIGHTWARDS ARROW a RIGHTWARDS ARROW
   ABOVE REVERSE ALMOST EQUAL TO a TILDE OPERATOR ABOVE LEFTWARDS ARROW a LEFTWARDS ARROW ABOVE
   ALMOST EQUAL TO d REVERSE TILDE OPERATOR a RIGHTWARDS ARROW ABOVE REVERSE TILDE OPERATOR a
   DOWNWARDS TRIANGLE-HEADED ZIGZAG ARROW a SHORT SLANTED NORTH ARROW b BACKSLANTED SOUTH ARROW a
   WHITE MEDIUM STAR a BLACK SMALL STAR a WHITE SMALL STAR a BLACK RIGHT-POINTING PENTAGON a
   WHITE RIGHT-POINTING PENTAGON a HEAVY LARGE CIRCLE b OVAL WITH OVAL INSIDE b CIRCLE WITH
   CIRCLE INSIDE c b CIRCLED SALTIRE a SLANTED NORTH ARROW WITH HOOKED HEAD a BACKSLANTED SOUTH
   ARROW WITH HOOKED TAIL a SLANTED NORTH ARROW WITH HORIZONTAL TAIL a BACKSLANTED SOUTH ARROW
   WITH HORIZONTAL TAIL a BENT ARROW POINTING DOWNWARDS THEN NORTH EAST a SHORT BENT ARROW
   POINTING DOWNWARDS THEN NORTH EAST a LEFTWARDS TRIANGLE-HEADED ARROW a UPWARDS TRIANGLE-HEADED
   ARROW a RIGHTWARDS TRIANGLE-HEADED ARROW a DOWNWARDS TRIANGLE-HEADED ARROW a LEFT RIGHT
   TRIANGLE-HEADED ARROW a UP DOWN TRIANGLE-HEADED ARROW a NORTH WEST TRIANGLE-HEADED ARROW b
   EAST TRIANGLE-HEADED ARROW a SOUTH EAST TRIANGLE-HEADED ARROW b WEST TRIANGLE-HEADED ARROW a
   LEFTWARDS TRIANGLE-HEADED DASHED ARROW a UPWARDS TRIANGLE-HEADED DASHED ARROW a RIGHTWARDS
   TRIANGLE-HEADED DASHED ARROW a DOWNWARDS TRIANGLE-HEADED DASHED ARROW a CLOCKWISE
   TRIANGLE-HEADED OPEN CIRCLE ARROW a ANTICLOCKWISE TRIANGLE-HEADED OPEN CIRCLE ARROW a
   LEFTWARDS TRIANGLE-HEADED ARROW TO BAR a UPWARDS TRIANGLE-HEADED ARROW TO BAR a RIGHTWARDS
   TRIANGLE-HEADED ARROW TO BAR a DOWNWARDS TRIANGLE-HEADED ARROW TO BAR a2B76 NORTH WEST
   TRIANGLE-HEADED ARROW TO BAR b EAST TRIANGLE-HEADED ARROW TO BAR a SOUTH EAST TRIANGLE-HEADED
   ARROW TO BAR b WEST TRIANGLE-HEADED ARROW TO BAR a LEFTWARDS TRIANGLE-HEADED ARROW WITH DOUBLE
   HORIZONTAL STROKE a UPWARDS TRIANGLE-HEADED ARROW WITH DOUBLE HORIZONTAL STROKE a RIGHTWARDS
   TRIANGLE-HEADED ARROW WITH DOUBLE HORIZONTAL STROKE a DOWNWARDS TRIANGLE-HEADED ARROW WITH
   DOUBLE HORIZONTAL STROKE a HORIZONTAL TAB KEY a VERTICAL TAB KEY a LEFTWARDS TRIANGLE-HEADED
   ARROW OVER RIGHTWARDS TRIANGLE-HEADED ARROW a UPWARDS TRIANGLE-HEADED ARROW LEFTWARDS OF
   DOWNWARDS TRIANGLE-HEADED ARROW a RIGHTWARDS TRIANGLE-HEADED ARROW OVER LEFTWARDS
   TRIANGLE-HEADED ARROW a DOWNWARDS TRIANGLE-HEADED ARROW LEFTWARDS OF UPWARDS TRIANGLE-HEADED
   ARROW a LEFTWARDS TRIANGLE-HEADED PAIRED ARROWS a UPWARDS TRIANGLE-HEADED PAIRED ARROWS a
   RIGHTWARDS TRIANGLE-HEADED PAIRED ARROWS a DOWNWARDS TRIANGLE-HEADED PAIRED ARROWS a LEFTWARDS
   BLACK CIRCLED WHITE ARROW a UPWARDS BLACK CIRCLED WHITE ARROW a RIGHTWARDS BLACK CIRCLED WHITE
   ARROW a DOWNWARDS BLACK CIRCLED WHITE ARROW a ANTICLOCKWISE TRIANGLE-HEADED RIGHT U-SHAPED
   ARROW c BOTTOM U-SHAPED ARROW c LEFT U-SHAPED ARROW c TOP U-SHAPED ARROW a RETURN LEFT b RIGHT
   a NEWLINE LEFT b RIGHT a FOUR CORNER ARROWS CIRCLING ANTICLOCKWISE a RIGHTWARDS BLACK ARROW
   a2B97 SYMBOL FOR TYPE A ELECTRONICS a THREE-D TOP-LIGHTED LEFTWARDS EQUILATERAL ARROWHEAD b
   RIGHT-LIGHTED UPWARDS EQUILATERAL ARROWHEAD b TOP-LIGHTED RIGHTWARDS EQUILATERAL ARROWHEAD b
   LEFT-LIGHTED DOWNWARDS EQUILATERAL ARROWHEAD a BLACK LEFTWARDS EQUILATERAL ARROWHEAD b UPWARDS
   EQUILATERAL ARROWHEAD b RIGHTWARDS EQUILATERAL ARROWHEAD b DOWNWARDS EQUILATERAL ARROWHEAD a
   DOWNWARDS TRIANGLE-HEADED ARROW WITH LONG TIP LEFTWARDS g RIGHTWARDS a UPWARDS TRIANGLE-HEADED
   ARROW WITH LONG TIP LEFTWARDS g RIGHTWARDS a LEFTWARDS TRIANGLE-HEADED ARROW WITH LONG TIP
   UPWARDS a RIGHTWARDS TRIANGLE-HEADED ARROW WITH LONG TIP UPWARDS a LEFTWARDS TRIANGLE-HEADED
   ARROW WITH LONG TIP DOWNWARDS a RIGHTWARDS TRIANGLE-HEADED ARROW WITH LONG TIP DOWNWARDS a
   BLACK CURVED DOWNWARDS AND LEFTWARDS ARROW e RIGHTWARDS ARROW c UPWARDS AND LEFTWARDS ARROW e
   RIGHTWARDS ARROW c LEFTWARDS AND UPWARDS ARROW c RIGHTWARDS AND UPWARDS ARROW c LEFTWARDS AND
   DOWNWARDS ARROW c RIGHTWARDS AND DOWNWARDS ARROW a RIBBON ARROW DOWN LEFT d RIGHT c UP LEFT d
   RIGHT c LEFT UP c RIGHT UP c LEFT DOWN c RIGHT DOWN a UPWARDS WHITE ARROW FROM BAR WITH
   HORIZONTAL BAR a UP ARROWHEAD IN A RECTANGLE BOX a OVERLAPPING WHITE SQUARES c AND BLACK
   SQUARES b BLACK SQUARES a BALLOT BOX WITH LIGHT X a CIRCLED X b BOLD X a BLACK SQUARE CENTRED
   b DIAMOND CENTRED a TURNED BLACK PENTAGON a HORIZONTAL BLACK OCTAGON a BLACK OCTAGON b MEDIUM
   UP-POINTING TRIANGLE CENTRED c DOWN-POINTING TRIANGLE CENTRED c LEFT-POINTING TRIANGLE CENTRED
   c RIGHT-POINTING TRIANGLE CENTRED a NEPTUNE FORM TWO a TOP HALF BLACK CIRCLE a BOTTOM HALF
   BLACK CIRCLE a LIGHT FOUR POINTED BLACK CUSP a ROTATED LIGHT FOUR POINTED BLACK CUSP a WHITE
   FOUR POINTED CUSP a ROTATED WHITE FOUR POINTED CUSP a SQUARE POSITION INDICATOR a UNCERTAINTY
   SIGN a GROUP MARK a PLUTO FORM TWO c THREE c FOUR c FIVE a TRANSPLUTO a PROSERPINA a ASTRAEA a
   HYGIEA a PHOLUS a NESSUS a WHITE MOON SELENA a BLACK DIAMOND ON CROSS a TRUE LIGHT MOON ARTA a
   CUPIDO a HADES a ZEUS a KRONOS a APOLLON a ADMETOS a VULCANUS a POSEIDON a LEFT HALF BLACK
   STAR a RIGHT HALF BLACK STAR a STAR WITH LEFT HALF BLACK c RIGHT HALF BLACK a LEFTWARDS
   TWO-HEADED ARROW WITH TRIANGLE ARROWHEADS a UPWARDS TWO-HEADED ARROW WITH TRIANGLE ARROWHEADS
   a RIGHTWARDS TWO-HEADED ARROW WITH TRIANGLE ARROWHEADS a DOWNWARDS TWO-HEADED ARROW WITH
   TRIANGLE ARROWHEADS a ERIS FORM ONE c TWO a SEDNA a RUSSIAN ASTROLOGICAL SYMBOL VIGINTILE d
   NOVILE d QUINTILE d BINOVILE d SENTAGON d TREDECILE a EQUALS SIGN WITH INFINITY BELOW a UNITED
   SYMBOL a SEPARATED SYMBOL a DOUBLED SYMBOL a PASSED SYMBOL a REVERSED RIGHT ANGLE a
   HELLSCHREIBER PAUSE SYMBOL a GLAGOLITIC CAPITAL LETTER AZU d BUKY d VEDE d GLAGOLI d DOBRO d
   YESTU d ZHIVETE d DZELO d ZEMLJA d IZHE d INITIAL IZHE d I d DJERVI d KAKO d LJUDIJE d MYSLITE
   d NASHI d ONU d POKOJI d RITSI d SLOVO d TVRIDO d UKU d FRITU d HERU d OTU d PE d SHTA d TSI d
   CHRIVI d SHA d YERU d YERI d YATI d SPIDERY HA d YU d SMALL YUS f WITH TAIL d YO d IOTATED
   SMALL YUS d BIG YUS d IOTATED BIG YUS d FITA d IZHITSA d SHTAPIC d TROKUTASTI A d LATINATE
   MYSLITE d CAUDATE CHRIVI b SMALL LETTER AZU d BUKY d VEDE d GLAGOLI d DOBRO d YESTU d ZHIVETE
   d DZELO d ZEMLJA d IZHE d INITIAL IZHE d I d DJERVI d KAKO d LJUDIJE d MYSLITE d NASHI d ONU d
   POKOJI d RITSI d SLOVO d TVRIDO d UKU d FRITU d HERU d OTU d PE d SHTA d TSI d CHRIVI d SHA d
   YERU d YERI d YATI d SPIDERY HA d YU d SMALL YUS f WITH TAIL d YO d IOTATED SMALL YUS d BIG
   YUS d IOTATED BIG YUS d FITA d IZHITSA d SHTAPIC d TROKUTASTI A d LATINATE MYSLITE d CAUDATE
   CHRIVI a LATIN CAPITAL LETTER L WITH DOUBLE BAR b SMALL LETTER L WITH DOUBLE BAR b CAPITAL
   LETTER L WITH MIDDLE TILDE d P WITH STROKE d R WITH TAIL b SMALL LETTER A WITH STROKE d T WITH
   DIAGONAL STROKE b CAPITAL LETTER H WITH DESCENDER b SMALL LETTER H WITH DESCENDER b CAPITAL
   LETTER K WITH DESCENDER b SMALL LETTER K WITH DESCENDER b CAPITAL LETTER Z WITH DESCENDER b
   SMALL LETTER Z WITH DESCENDER b CAPITAL LETTER ALPHA d M WITH HOOK d TURNED A e ALPHA b SMALL
   LETTER V WITH RIGHT HOOK b CAPITAL LETTER W WITH HOOK b SMALL LETTER W WITH HOOK d V WITH CURL
   b CAPITAL LETTER HALF H b SMALL LETTER HALF H d TAILLESS PHI d E WITH NOTCH d TURNED R WITH
   TAIL d O WITH LOW RING INSIDE b LETTER SMALL CAPITAL TURNED E b SUBSCRIPT SMALL LETTER J a
   MODIFIER LETTER CAPITAL V a LATIN CAPITAL LETTER S WITH SWASH TAIL d Z WITH SWASH TAIL a
   COPTIC CAPITAL LETTER ALFA b SMALL LETTER ALFA b CAPITAL LETTER VIDA b SMALL LETTER VIDA b
   CAPITAL LETTER GAMMA b SMALL LETTER GAMMA b CAPITAL LETTER DALDA b SMALL LETTER DALDA b
   CAPITAL LETTER EIE b SMALL LETTER EIE b CAPITAL LETTER SOU b SMALL LETTER SOU b CAPITAL LETTER
   ZATA b SMALL LETTER ZATA b CAPITAL LETTER HATE b SMALL LETTER HATE b CAPITAL LETTER THETHE b
   SMALL LETTER THETHE b CAPITAL LETTER IAUDA b SMALL LETTER IAUDA b CAPITAL LETTER KAPA b SMALL
   LETTER KAPA b CAPITAL LETTER LAULA b SMALL LETTER LAULA b CAPITAL LETTER MI b SMALL LETTER MI
   b CAPITAL LETTER NI b SMALL LETTER NI b CAPITAL LETTER KSI b SMALL LETTER KSI b CAPITAL LETTER
   O b SMALL LETTER O b CAPITAL LETTER PI b SMALL LETTER PI b CAPITAL LETTER RO b SMALL LETTER RO
   b CAPITAL LETTER SIMA b SMALL LETTER SIMA b CAPITAL LETTER TAU b SMALL LETTER TAU b CAPITAL
   LETTER UA b SMALL LETTER UA b CAPITAL LETTER FI b SMALL LETTER FI b CAPITAL LETTER KHI b SMALL
   LETTER KHI b CAPITAL LETTER PSI b SMALL LETTER PSI b CAPITAL LETTER OOU b SMALL LETTER OOU b
   CAPITAL LETTER DIALECT-P ALEF b SMALL LETTER DIALECT-P ALEF b CAPITAL LETTER OLD COPTIC AIN b
   SMALL LETTER OLD COPTIC AIN b CAPITAL LETTER CRYPTOGRAMMIC EIE b SMALL LETTER CRYPTOGRAMMIC
   EIE b CAPITAL LETTER DIALECT-P KAPA b SMALL LETTER DIALECT-P KAPA b CAPITAL LETTER DIALECT-P
   NI b SMALL LETTER DIALECT-P NI b CAPITAL LETTER CRYPTOGRAMMIC NI b SMALL LETTER CRYPTOGRAMMIC
   NI b CAPITAL LETTER OLD COPTIC OOU b SMALL LETTER OLD COPTIC OOU b CAPITAL LETTER SAMPI b
   SMALL LETTER SAMPI b CAPITAL LETTER CROSSED SHEI b SMALL LETTER CROSSED SHEI b CAPITAL LETTER
   OLD COPTIC SHEI b SMALL LETTER OLD COPTIC SHEI b CAPITAL LETTER OLD COPTIC ESH b SMALL LETTER
   OLD COPTIC ESH b CAPITAL LETTER AKHMIMIC KHEI b SMALL LETTER AKHMIMIC KHEI b CAPITAL LETTER
   DIALECT-P HORI b SMALL LETTER DIALECT-P HORI b CAPITAL LETTER OLD COPTIC HORI b SMALL LETTER
   OLD COPTIC HORI b CAPITAL LETTER OLD COPTIC HA b SMALL LETTER OLD COPTIC HA b CAPITAL LETTER
   L-SHAPED HA b SMALL LETTER L-SHAPED HA b CAPITAL LETTER OLD COPTIC HEI b SMALL LETTER OLD
   COPTIC HEI b CAPITAL LETTER OLD COPTIC HAT b SMALL LETTER OLD COPTIC HAT b CAPITAL LETTER OLD
   COPTIC GANGIA b SMALL LETTER OLD COPTIC GANGIA b CAPITAL LETTER OLD COPTIC DJA b SMALL LETTER
   OLD COPTIC DJA b CAPITAL LETTER OLD COPTIC SHIMA b SMALL LETTER OLD COPTIC SHIMA b CAPITAL
   LETTER OLD NUBIAN SHIMA b SMALL LETTER OLD NUBIAN SHIMA b CAPITAL LETTER OLD NUBIAN NGI b
   SMALL LETTER OLD NUBIAN NGI b CAPITAL LETTER OLD NUBIAN NYI b SMALL LETTER OLD NUBIAN NYI b
   CAPITAL LETTER OLD NUBIAN WAU b SMALL LETTER OLD NUBIAN WAU b SYMBOL KAI c MI RO c PI RO c
   STAUROS c TAU RO c KHI RO c SHIMA SIMA b CAPITAL LETTER CRYPTOGRAMMIC SHEI b SMALL LETTER
   CRYPTOGRAMMIC SHEI b CAPITAL LETTER CRYPTOGRAMMIC GANGIA b SMALL LETTER CRYPTOGRAMMIC GANGIA b
   COMBINING NI ABOVE c SPIRITUS ASPER d LENIS b CAPITAL LETTER BOHAIRIC KHEI b SMALL LETTER
   BOHAIRIC KHEI b2CF9 OLD NUBIAN FULL STOP d DIRECT QUESTION MARK d INDIRECT QUESTION MARK d
   VERSE DIVIDER b FRACTION ONE HALF b FULL STOP b MORPHOLOGICAL DIVIDER a GEORGIAN SMALL LETTER
   AN d BAN d GAN d DON d EN d VIN d ZEN d TAN d IN d KAN d LAS d MAN d NAR d ON d PAR d ZHAR d
   RAE d SAN d TAR d UN d PHAR d KHAR d GHAN d QAR d SHIN d CHIN d CAN d JIL d CIL d CHAR d XAN d
   JHAN d HAE d HE d HIE d WE d HAR d HOE d2D27 YN d2D2D AEN a2D30 TIFINAGH LETTER YA c YAB c
   YABH c YAG c YAGHH c BERBER ACADEMY YAJ c YAJ c YAD c YADH c YADD c YADDH c YEY c YAF c YAK c
   TUAREG YAK c YAKHH c YAH c BERBER ACADEMY YAH c TUAREG YAH c YAHH c YAA c YAKH c TUAREG YAKH c
   YAQ c TUAREG YAQ c YI c YAZH c AHAGGAR YAZH c TUAREG YAZH c YAL c YAM c YAN c TUAREG YAGN d
   YANG c YAP c YU c YAR c YARR c YAGH c TUAREG YAGH c AYER YAGH c YAS c YASS c YASH c YAT c YATH
   c YACH c YATT c YAV c YAW c YAY c YAZ c TAWELLEMET YAZ c YAZZ c YE c YO b2D6F MODIFIER LETTER
   LABIALIZATION MARK b SEPARATOR MARK b2D7F CONSONANT JOINER a ETHIOPIC SYLLABLE LOA c MOA c ROA
   c SOA c SHOA c BOA c TOA c COA c NOA c NYOA c GLOTTAL OA c ZOA c DOA c DDOA c JOA c THOA c
   CHOA c PHOA c POA c GGWA c GGWI c GGWEE c GGWE c2DA0 SSA c SSU c SSI c SSAA c SSEE c SSE c SSO
   c2DA8 CCA c CCU c CCI c CCAA c CCEE c CCE c CCO c2DB0 ZZA c ZZU c ZZI c ZZAA c ZZEE c ZZE c
   ZZO c2DB8 CCHA c CCHU c CCHI c CCHAA c CCHEE c CCHE c CCHO c2DC0 QYA c QYU c QYI c QYAA c QYEE
   c QYE c QYO c2DC8 KYA c KYU c KYI c KYAA c KYEE c KYE c KYO c2DD0 XYA c XYU c XYI c XYAA c
   XYEE c XYE c XYO c2DD8 GYA c GYU c GYI c GYAA c GYEE c GYE c GYO a2DE0 COMBINING CYRILLIC
   LETTER BE d VE d GHE d DE d ZHE d ZE d KA d EL d EM d EN d O d PE d ER d ES d TE d HA d TSE d
   CHE d SHA d SHCHA d FITA d ES-TE d A d IE d DJERV d MONOGRAPH UK d YAT d YU d IOTIFIED A d
   LITTLE YUS d BIG YUS d IOTIFIED BIG YUS a RIGHT ANGLE SUBSTITUTION MARKER c DOTTED
   SUBSTITUTION MARKER a LEFT SUBSTITUTION BRACKET a RIGHT SUBSTITUTION BRACKET a LEFT DOTTED
   SUBSTITUTION BRACKET a RIGHT DOTTED SUBSTITUTION BRACKET a RAISED INTERPOLATION MARKER b
   DOTTED INTERPOLATION MARKER a DOTTED TRANSPOSITION MARKER a LEFT TRANSPOSITION BRACKET a RIGHT
   TRANSPOSITION BRACKET a RAISED SQUARE a LEFT RAISED OMISSION BRACKET a RIGHT RAISED OMISSION
   BRACKET a EDITORIAL CORONIS a PARAGRAPHOS a FORKED PARAGRAPHOS a REVERSED FORKED PARAGRAPHOS a
   HYPODIASTOLE a DOTTED OBELOS a DOWNWARDS ANCORA a UPWARDS ANCORA a DOTTED RIGHT-POINTING ANGLE
   a DOUBLE OBLIQUE HYPHEN a INVERTED INTERROBANG a PALM BRANCH a HYPHEN WITH DIAERESIS a TILDE
   WITH RING ABOVE a LEFT LOW PARAPHRASE BRACKET a RIGHT LOW PARAPHRASE BRACKET a TILDE WITH DOT
   ABOVE d BELOW a LEFT VERTICAL BAR WITH QUILL a RIGHT VERTICAL BAR WITH QUILL a TOP LEFT HALF
   BRACKET b RIGHT HALF BRACKET a BOTTOM LEFT HALF BRACKET b RIGHT HALF BRACKET a LEFT SIDEWAYS U
   BRACKET a RIGHT SIDEWAYS U BRACKET a LEFT DOUBLE PARENTHESIS a RIGHT DOUBLE PARENTHESIS a TWO
   DOTS OVER ONE DOT PUNCTUATION a ONE DOT OVER TWO DOTS PUNCTUATION a SQUARED FOUR DOT
   PUNCTUATION a FIVE DOT MARK a REVERSED QUESTION MARK a VERTICAL TILDE a RING POINT a WORD
   SEPARATOR MIDDLE DOT a TURNED COMMA a RAISED DOT b COMMA a TURNED SEMICOLON a DAGGER WITH LEFT
   GUARD c RIGHT GUARD a TURNED DAGGER a TOP HALF SECTION SIGN a TWO-EM DASH a THREE-EM DASH a
   STENOGRAPHIC FULL STOP a VERTICAL SIX DOTS a WIGGLY VERTICAL LINE a CAPITULUM a DOUBLE HYPHEN
   a REVERSED COMMA a DOUBLE LOW-REVERSED-9 QUOTATION MARK a DASH WITH LEFT UPTURN a DOUBLE
   SUSPENSION MARK a INVERTED LOW KAVYKA d WITH KAVYKA ABOVE a LOW KAVYKA c WITH DOT a DOUBLE
   STACKED COMMA a DOTTED SOLIDUS a TRIPLE DAGGER a MEDIEVAL COMMA a PARAGRAPHUS MARK a PUNCTUS
   ELEVATUS MARK a CORNISH VERSE DIVIDER a CROSS PATTY WITH RIGHT CROSSBAR d LEFT CROSSBAR a
   TIRONIAN SIGN CAPITAL ET a MEDIEVAL EXCLAMATION MARK b QUESTION MARK a LEFT SQUARE BRACKET
   WITH STROKE a RIGHT SQUARE BRACKET WITH STROKE a LEFT SQUARE BRACKET WITH DOUBLE STROKE a
   RIGHT SQUARE BRACKET WITH DOUBLE STROKE a TOP HALF LEFT PARENTHESIS c RIGHT PARENTHESIS a
   BOTTOM HALF LEFT PARENTHESIS c RIGHT PARENTHESIS a OBLIQUE HYPHEN a2E80 CJK RADICAL REPEAT c
   CLIFF c SECOND ONE d TWO d THREE c PERSON c BOX c TABLE c KNIFE ONE d TWO c DIVINATION c SEAL
   c SMALL ONE d TWO c LAME ONE d TWO d THREE d FOUR c SNAKE c THREAD c SNOUT ONE d TWO c HEART
   ONE d TWO c HAND c RAP c2E9B CHOKE c SUN c MOON c DEATH c MOTHER c CIVILIAN c WATER ONE d TWO
   c FIRE c PAW ONE d TWO c SIMPLIFIED HALF TREE TRUNK c COW c DOG c JADE c BOLT OF CLOTH c EYE c
   SPIRIT ONE d TWO c BAMBOO c SILK c C-SIMPLIFIED SILK c NET ONE d TWO d THREE d FOUR c MESH c
   SHEEP c RAM c EWE c OLD c BRUSH ONE d TWO c MEAT c MORTAR c GRASS ONE d TWO d THREE c TIGER c
   CLOTHES c WEST ONE d TWO c C-SIMPLIFIED SEE c SIMPLIFIED HORN c HORN c C-SIMPLIFIED SPEECH d
   SHELL c FOOT c C-SIMPLIFIED CART c SIMPLIFIED WALK c WALK ONE d TWO c CITY c C-SIMPLIFIED GOLD
   c LONG ONE d TWO c C-SIMPLIFIED LONG d GATE c MOUND ONE d TWO c RAIN c BLUE c C-SIMPLIFIED
   TANNED LEATHER d LEAF d WIND d FLY c EAT ONE d TWO d THREE c C-SIMPLIFIED EAT c HEAD c
   C-SIMPLIFIED HORSE c BONE c GHOST c C-SIMPLIFIED FISH d BIRD d SALT c SIMPLIFIED WHEAT d
   YELLOW c C-SIMPLIFIED FROG c J-SIMPLIFIED EVEN c C-SIMPLIFIED EVEN c J-SIMPLIFIED TOOTH c
   C-SIMPLIFIED TOOTH c J-SIMPLIFIED DRAGON c C-SIMPLIFIED DRAGON c TURTLE c J-SIMPLIFIED TURTLE
   c C-SIMPLIFIED TURTLE a2F00 KANGXI RADICAL ONE c LINE c DOT c SLASH c SECOND c HOOK c TWO c
   LID c MAN c LEGS c ENTER c EIGHT c DOWN BOX c COVER c ICE c TABLE c OPEN BOX c KNIFE c POWER c
   WRAP c SPOON c RIGHT OPEN BOX c HIDING ENCLOSURE c TEN c DIVINATION c SEAL c CLIFF c PRIVATE c
   AGAIN c MOUTH c ENCLOSURE c EARTH c SCHOLAR c GO d SLOWLY c EVENING c BIG c WOMAN c CHILD c
   ROOF c INCH c SMALL c LAME c CORPSE c SPROUT c MOUNTAIN c RIVER c WORK c ONESELF c TURBAN c
   DRY c SHORT THREAD c DOTTED CLIFF c LONG STRIDE c TWO HANDS c SHOOT c BOW c SNOUT c BRISTLE c
   STEP c HEART c HALBERD c DOOR c HAND c BRANCH c RAP c SCRIPT c DIPPER c AXE c SQUARE c NOT c
   SUN c SAY c MOON c TREE c LACK c STOP c DEATH c WEAPON c DO NOT c COMPARE c FUR c CLAN c STEAM
   c WATER c FIRE c CLAW c FATHER c DOUBLE X c HALF TREE TRUNK c SLICE c FANG c COW c DOG c
   PROFOUND c JADE c MELON c TILE c SWEET c LIFE c USE c FIELD c BOLT OF CLOTH c SICKNESS c
   DOTTED TENT c WHITE c SKIN c DISH c EYE c SPEAR c ARROW c STONE c SPIRIT c TRACK c GRAIN c
   CAVE c STAND c BAMBOO c RICE c SILK c JAR c NET c SHEEP c FEATHER c OLD c AND c PLOW c EAR c
   BRUSH c MEAT c MINISTER c SELF c ARRIVE c MORTAR c TONGUE c OPPOSE c BOAT c STOPPING c COLOR c
   GRASS c TIGER c INSECT c BLOOD c WALK ENCLOSURE c CLOTHES c WEST c SEE c HORN c SPEECH c
   VALLEY c BEAN c PIG c BADGER c SHELL c RED c RUN c FOOT c BODY c CART c BITTER c MORNING c
   WALK c CITY c WINE c DISTINGUISH c VILLAGE c GOLD c LONG c GATE c MOUND c SLAVE c SHORT TAILED
   BIRD c RAIN c BLUE c WRONG c FACE c LEATHER c TANNED LEATHER c LEEK c SOUND c LEAF c WIND c
   FLY c EAT c HEAD c FRAGRANT c HORSE c BONE c TALL c HAIR c FIGHT c SACRIFICIAL WINE c CAULDRON
   c GHOST c FISH c BIRD c SALT c DEER c WHEAT c HEMP c YELLOW c MILLET c BLACK c EMBROIDERY c
   FROG c TRIPOD c DRUM c RAT c NOSE c EVEN c TOOTH c DRAGON c TURTLE c FLUTE a2FF0 IDEOGRAPHIC
   DESCRIPTION CHARACTER LEFT TO RIGHT d ABOVE TO BELOW d LEFT TO MIDDLE AND RIGHT d ABOVE TO
   MIDDLE AND BELOW d FULL SURROUND d SURROUND FROM ABOVE f BELOW f LEFT f UPPER LEFT g RIGHT f
   LOWER LEFT d OVERLAID"

end MarkupAudit.CharacterName
