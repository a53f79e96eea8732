/-!
# Names of characters: East Asia

A table of the scripts and forms from U+3000 on. An entry starts with a small letter, which says how
many words of the name before it the name shares: none for `a`. A code point follows the letter
unless it is one more than that of the entry before.
-/

namespace MarkupAudit.CharacterName

/-- The names of the scripts and forms from U+3000 on. -/
def eastAsian : String :=
  "a3000 IDEOGRAPHIC SPACE b COMMA b FULL STOP a DITTO MARK a JAPANESE INDUSTRIAL STANDARD SYMBOL
   a IDEOGRAPHIC ITERATION MARK b CLOSING MARK b NUMBER ZERO a LEFT ANGLE BRACKET a RIGHT ANGLE
   BRACKET a LEFT DOUBLE ANGLE BRACKET a RIGHT DOUBLE ANGLE BRACKET a LEFT CORNER BRACKET a RIGHT
   CORNER BRACKET a LEFT WHITE CORNER BRACKET a RIGHT WHITE CORNER BRACKET a LEFT BLACK
   LENTICULAR BRACKET a RIGHT BLACK LENTICULAR BRACKET a POSTAL MARK a GETA MARK a LEFT TORTOISE
   SHELL BRACKET a RIGHT TORTOISE SHELL BRACKET a LEFT WHITE LENTICULAR BRACKET a RIGHT WHITE
   LENTICULAR BRACKET a LEFT WHITE TORTOISE SHELL BRACKET a RIGHT WHITE TORTOISE SHELL BRACKET a
   LEFT WHITE SQUARE BRACKET a RIGHT WHITE SQUARE BRACKET a WAVE DASH a REVERSED DOUBLE PRIME
   QUOTATION MARK a DOUBLE PRIME QUOTATION MARK a LOW DOUBLE PRIME QUOTATION MARK a POSTAL MARK
   FACE a HANGZHOU NUMERAL ONE c TWO c THREE c FOUR c FIVE c SIX c SEVEN c EIGHT c NINE a
   IDEOGRAPHIC LEVEL TONE MARK b RISING TONE MARK b DEPARTING TONE MARK b ENTERING TONE MARK a
   HANGUL SINGLE DOT TONE MARK b DOUBLE DOT TONE MARK a WAVY DASH a VERTICAL KANA REPEAT MARK d
   WITH VOICED SOUND MARK d MARK UPPER HALF d WITH VOICED SOUND MARK UPPER HALF d MARK LOWER HALF
   a CIRCLED POSTAL MARK a IDEOGRAPHIC TELEGRAPH LINE FEED SEPARATOR SYMBOL a HANGZHOU NUMERAL
   TEN c TWENTY c THIRTY a VERTICAL IDEOGRAPHIC ITERATION MARK a MASU MARK a PART ALTERNATION
   MARK a IDEOGRAPHIC VARIATION INDICATOR b HALF FILL SPACE a3041 HIRAGANA LETTER SMALL A c A c
   SMALL I c I c SMALL U c U c SMALL E c E c SMALL O c O c KA c GA c KI c GI c KU c GU c KE c GE
   c KO c GO c SA c ZA c SI c ZI c SU c ZU c SE c ZE c SO c ZO c TA c DA c TI c DI c SMALL TU c
   TU c DU c TE c DE c TO c DO c NA c NI c NU c NE c NO c HA c BA c PA c HI c BI c PI c HU c BU c
   PU c HE c BE c PE c HO c BO c PO c MA c MI c MU c ME c MO c SMALL YA c YA c SMALL YU c YU c
   SMALL YO c YO c RA c RI c RU c RE c RO c SMALL WA c WA c WI c WE c WO c N c VU c SMALL KA d KE
   a3099 COMBINING KATAKANA-HIRAGANA VOICED SOUND MARK c SEMI-VOICED SOUND MARK a
   KATAKANA-HIRAGANA VOICED SOUND MARK b SEMI-VOICED SOUND MARK a HIRAGANA ITERATION MARK b
   VOICED ITERATION MARK b DIGRAPH YORI a KATAKANA-HIRAGANA DOUBLE HYPHEN a KATAKANA LETTER SMALL
   A c A c SMALL I c I c SMALL U c U c SMALL E c E c SMALL O c O c KA c GA c KI c GI c KU c GU c
   KE c GE c KO c GO c SA c ZA c SI c ZI c SU c ZU c SE c ZE c SO c ZO c TA c DA c TI c DI c
   SMALL TU c TU c DU c TE c DE c TO c DO c NA c NI c NU c NE c NO c HA c BA c PA c HI c BI c PI
   c HU c BU c PU c HE c BE c PE c HO c BO c PO c MA c MI c MU c ME c MO c SMALL YA c YA c SMALL
   YU c YU c SMALL YO c YO c RA c RI c RU c RE c RO c SMALL WA c WA c WI c WE c WO c N c VU c
   SMALL KA d KE c VA c VI c VE c VO b MIDDLE DOT a KATAKANA-HIRAGANA PROLONGED SOUND MARK a
   KATAKANA ITERATION MARK b VOICED ITERATION MARK b DIGRAPH KOTO a3105 BOPOMOFO LETTER B c P c M
   c F c D c T c N c L c G c K c H c J c Q c X c ZH c CH c SH c R c Z c C c S c A c O c E c EH c
   AI c EI c AU c OU c AN c EN c ANG c ENG c ER c I c U c IU c V c NG c GN c IH c O WITH DOT
   ABOVE c NN a3131 HANGUL LETTER KIYEOK c SSANGKIYEOK c KIYEOK-SIOS c NIEUN c NIEUN-CIEUC c
   NIEUN-HIEUH c TIKEUT c SSANGTIKEUT c RIEUL c RIEUL-KIYEOK c RIEUL-MIEUM c RIEUL-PIEUP c
   RIEUL-SIOS c RIEUL-THIEUTH c RIEUL-PHIEUPH c RIEUL-HIEUH c MIEUM c PIEUP c SSANGPIEUP c
   PIEUP-SIOS c SIOS c SSANGSIOS c IEUNG c CIEUC c SSANGCIEUC c CHIEUCH c KHIEUKH c THIEUTH c
   PHIEUPH c HIEUH c A c AE c YA c YAE c EO c E c YEO c YE c O c WA c WAE c OE c YO c U c WEO c
   WE c WI c YU c EU c YI c I b FILLER b LETTER SSANGNIEUN c NIEUN-TIKEUT c NIEUN-SIOS c
   NIEUN-PANSIOS c RIEUL-KIYEOK-SIOS c RIEUL-TIKEUT c RIEUL-PIEUP-SIOS c RIEUL-PANSIOS c
   RIEUL-YEORINHIEUH c MIEUM-PIEUP c MIEUM-SIOS c MIEUM-PANSIOS c KAPYEOUNMIEUM c PIEUP-KIYEOK c
   PIEUP-TIKEUT c PIEUP-SIOS-KIYEOK c PIEUP-SIOS-TIKEUT c PIEUP-CIEUC c PIEUP-THIEUTH c
   KAPYEOUNPIEUP c KAPYEOUNSSANGPIEUP c SIOS-KIYEOK c SIOS-NIEUN c SIOS-TIKEUT c SIOS-PIEUP c
   SIOS-CIEUC c PANSIOS c SSANGIEUNG c YESIEUNG c YESIEUNG-SIOS c YESIEUNG-PANSIOS c
   KAPYEOUNPHIEUPH c SSANGHIEUH c YEORINHIEUH c YO-YA c YO-YAE c YO-I c YU-YEO c YU-YE c YU-I c
   ARAEA c ARAEAE a3190 IDEOGRAPHIC ANNOTATION LINKING MARK c REVERSE MARK c ONE MARK c TWO MARK
   c THREE MARK c FOUR MARK c TOP MARK c MIDDLE MARK c BOTTOM MARK c FIRST MARK c SECOND MARK c
   THIRD MARK c FOURTH MARK c HEAVEN MARK c EARTH MARK c MAN MARK a BOPOMOFO LETTER BU c ZI c JI
   c GU c EE c ENN c OO c ONN c IR c ANN c INN c UNN c IM c NGG c AINN c AUNN c AM c OM c ONG c
   INNN b FINAL LETTER P d T d K d H b LETTER GH c LH c ZY b FINAL LETTER G b LETTER GW c KW c OE
   c AH a CJK STROKE T c WG c XG c BXG c SW c HZZ c HZG c HP c HZWG c SZWG c HZT c HZZP c HPWG c
   HZW c HZZZ c N c H c S c P c SP c D c HZ c HG c SZ c SWZ c ST c SG c PD c PZ c TN c SZZ c SWG
   c HXWG c HZZZG c PG c Q a31F0 KATAKANA LETTER SMALL KU d SI d SU d TO d NU d HA d HI d HU d HE
   d HO d MU d RA d RI d RU d RE d RO a PARENTHESIZED HANGUL KIYEOK c NIEUN c TIKEUT c RIEUL c
   MIEUM c PIEUP c SIOS c IEUNG c CIEUC c CHIEUCH c KHIEUKH c THIEUTH c PHIEUPH c HIEUH c KIYEOK
   A c NIEUN A c TIKEUT A c RIEUL A c MIEUM A c PIEUP A c SIOS A c IEUNG A c CIEUC A c CHIEUCH A
   c KHIEUKH A c THIEUTH A c PHIEUPH A c HIEUH A c CIEUC U b KOREAN CHARACTER OJEON d O HU b3220
   IDEOGRAPH ONE c TWO c THREE c FOUR c FIVE c SIX c SEVEN c EIGHT c NINE c TEN c MOON c FIRE c
   WATER c WOOD c METAL c EARTH c SUN c STOCK c HAVE c SOCIETY c NAME c SPECIAL c FINANCIAL c
   CONGRATULATION c LABOR c REPRESENT c CALL c STUDY c SUPERVISE c ENTERPRISE c RESOURCE c
   ALLIANCE c FESTIVAL c REST c SELF c REACH a CIRCLED IDEOGRAPH QUESTION c KINDERGARTEN c SCHOOL
   c KOTO b NUMBER TEN ON BLACK SQUARE c TWENTY ON BLACK SQUARE c THIRTY ON BLACK SQUARE c FORTY
   ON BLACK SQUARE c FIFTY ON BLACK SQUARE c SIXTY ON BLACK SQUARE c SEVENTY ON BLACK SQUARE c
   EIGHTY ON BLACK SQUARE a PARTNERSHIP SIGN a CIRCLED NUMBER TWENTY ONE d TWO d THREE d FOUR d
   FIVE d SIX d SEVEN d EIGHT d NINE c THIRTY d ONE d TWO d THREE d FOUR d FIVE b HANGUL KIYEOK c
   NIEUN c TIKEUT c RIEUL c MIEUM c PIEUP c SIOS c IEUNG c CIEUC c CHIEUCH c KHIEUKH c THIEUTH c
   PHIEUPH c HIEUH c KIYEOK A c NIEUN A c TIKEUT A c RIEUL A c MIEUM A c PIEUP A c SIOS A c IEUNG
   A c CIEUC A c CHIEUCH A c KHIEUKH A c THIEUTH A c PHIEUPH A c HIEUH A b KOREAN CHARACTER
   CHAMKO d JUEUI b HANGUL IEUNG U a KOREAN STANDARD SYMBOL a CIRCLED IDEOGRAPH ONE c TWO c THREE
   c FOUR c FIVE c SIX c SEVEN c EIGHT c NINE c TEN c MOON c FIRE c WATER c WOOD c METAL c EARTH
   c SUN c STOCK c HAVE c SOCIETY c NAME c SPECIAL c FINANCIAL c CONGRATULATION c LABOR c SECRET
   c MALE c FEMALE c SUITABLE c EXCELLENT c PRINT c ATTENTION c ITEM c REST c COPY c CORRECT c
   HIGH c CENTRE c LOW c LEFT c RIGHT c MEDICINE c RELIGION c STUDY c SUPERVISE c ENTERPRISE c
   RESOURCE c ALLIANCE c NIGHT b NUMBER THIRTY SIX d SEVEN d EIGHT d NINE c FORTY d ONE d TWO d
   THREE d FOUR d FIVE d SIX d SEVEN d EIGHT d NINE c FIFTY a IDEOGRAPHIC TELEGRAPH SYMBOL FOR
   JANUARY e FEBRUARY e MARCH e APRIL e MAY e JUNE e JULY e AUGUST e SEPTEMBER e OCTOBER e
   NOVEMBER e DECEMBER a SQUARE HG b ERG b EV a LIMITED LIABILITY SIGN a CIRCLED KATAKANA A c I c
   U c E c O c KA c KI c KU c KE c KO c SA c SI c SU c SE c SO c TA c TI c TU c TE c TO c NA c NI
   c NU c NE c NO c HA c HI c HU c HE c HO c MA c MI c MU c ME c MO c YA c YU c YO c RA c RI c RU
   c RE c RO c WA c WI c WE c WO a SQUARE ERA NAME REIWA b APAATO b ARUHUA b ANPEA b AARU b
   ININGU b INTI b UON b ESUKUUDO b EEKAA b ONSU b OOMU b KAIRI b KARATTO b KARORII b GARON b
   GANMA b GIGA b GINII b KYURII b GIRUDAA b KIRO b KIROGURAMU b KIROMEETORU b KIROWATTO b GURAMU
   b GURAMUTON b KURUZEIRO b KUROONE b KEESU b KORUNA b KOOPO b SAIKURU b SANTIIMU b SIRINGU b
   SENTI b SENTO b DAASU b DESI b DORU b TON b NANO b NOTTO b HAITU b PAASENTO b PAATU b BAARERU
   b PIASUTORU b PIKURU b PIKO b BIRU b HUARADDO b HUIITO b BUSSYERU b HURAN b HEKUTAARU b PESO b
   PENIHI b HERUTU b PENSU b PEEZI b BEETA b POINTO b BORUTO b HON b PONDO b HOORU b HOON b
   MAIKURO b MAIRU b MAHHA b MARUKU b MANSYON b MIKURON b MIRI b MIRIBAARU b MEGA b MEGATON b
   MEETORU b YAADO b YAARU b YUAN b RITTORU b RIRA b RUPII b RUUBURU b REMU b RENTOGEN b WATTO a
   IDEOGRAPHIC TELEGRAPH SYMBOL FOR HOUR ZERO f ONE f TWO f THREE f FOUR f FIVE f SIX f SEVEN f
   EIGHT f NINE f TEN f ELEVEN f TWELVE f THIRTEEN f FOURTEEN f FIFTEEN f SIXTEEN f SEVENTEEN f
   EIGHTEEN f NINETEEN f TWENTY f TWENTY-ONE f TWENTY-TWO f TWENTY-THREE f TWENTY-FOUR a SQUARE
   HPA b DA b AU b BAR b OV b PC b DM c SQUARED c CUBED b IU b ERA NAME HEISEI d SYOUWA d TAISYOU
   d MEIZI b CORPORATION b PA AMPS b NA b MU A b MA b KA b KB b MB b GB b CAL b KCAL b PF b NF b
   MU F c G b MG b KG b HZ b KHZ b MHZ b GHZ b THZ b MU L b ML b DL b KL b FM b NM b MU M b MM b
   CM b KM b MM SQUARED b CM SQUARED b M SQUARED b KM SQUARED b MM CUBED b CM CUBED b M CUBED b
   KM CUBED b M OVER S e SQUARED b PA b KPA b MPA b GPA b RAD c OVER S e SQUARED b PS b NS b MU S
   b MS b PV b NV b MU V b MV b KV b MV MEGA b PW b NW b MU W b MW b KW b MW MEGA b K OHM b M OHM
   b AM b BQ b CC b CD b C OVER KG b CO b DB b GY b HA b HP b IN b KK b KM CAPITAL b KT b LM b LN
   b LOG b LX b MB SMALL b MIL b MOL b PH b PM b PPM b PR b SR b SV b WB b V OVER M b A OVER M a
   IDEOGRAPHIC TELEGRAPH SYMBOL FOR DAY ONE f TWO f THREE f FOUR f FIVE f SIX f SEVEN f EIGHT f
   NINE f TEN f ELEVEN f TWELVE f THIRTEEN f FOURTEEN f FIFTEEN f SIXTEEN f SEVENTEEN f EIGHTEEN
   f NINETEEN f TWENTY f TWENTY-ONE f TWENTY-TWO f TWENTY-THREE f TWENTY-FOUR f TWENTY-FIVE f
   TWENTY-SIX f TWENTY-SEVEN f TWENTY-EIGHT f TWENTY-NINE f THIRTY f THIRTY-ONE a SQUARE GAL
   a4DC0 HEXAGRAM FOR THE CREATIVE HEAVEN d RECEPTIVE EARTH c DIFFICULTY AT THE BEGINNING c
   YOUTHFUL FOLLY c WAITING c CONFLICT c THE ARMY c HOLDING TOGETHER c SMALL TAMING c TREADING c
   PEACE c STANDSTILL c FELLOWSHIP c GREAT POSSESSION c MODESTY c ENTHUSIASM c FOLLOWING c WORK
   ON THE DECAYED c APPROACH c CONTEMPLATION c BITING THROUGH c GRACE c SPLITTING APART c RETURN
   c INNOCENCE c GREAT TAMING c MOUTH CORNERS c GREAT PREPONDERANCE c THE ABYSMAL WATER d
   CLINGING FIRE c INFLUENCE c DURATION c RETREAT c GREAT POWER c PROGRESS c DARKENING OF THE
   LIGHT c THE FAMILY c OPPOSITION c OBSTRUCTION c DELIVERANCE c DECREASE c INCREASE c
   BREAKTHROUGH c COMING TO MEET c GATHERING TOGETHER c PUSHING UPWARD c OPPRESSION c THE WELL c
   REVOLUTION c THE CAULDRON d AROUSING THUNDER d KEEPING STILL MOUNTAIN c DEVELOPMENT c THE
   MARRYING MAIDEN c ABUNDANCE c THE WANDERER d GENTLE WIND d JOYOUS LAKE c DISPERSION c
   LIMITATION c INNER TRUTH c SMALL PREPONDERANCE c AFTER COMPLETION c BEFORE COMPLETION aA000 YI
   SYLLABLE IT c IX c I c IP c IET c IEX c IE c IEP c AT c AX c A c AP c UOX c UO c UOP c OT c OX
   c O c OP c EX c E c WU c BIT c BIX c BI c BIP c BIET c BIEX c BIE c BIEP c BAT c BAX c BA c
   BAP c BUOX c BUO c BUOP c BOT c BOX c BO c BOP c BEX c BE c BEP c BUT c BUX c BU c BUP c BURX
   c BUR c BYT c BYX c BY c BYP c BYRX c BYR c PIT c PIX c PI c PIP c PIEX c PIE c PIEP c PAT c
   PAX c PA c PAP c PUOX c PUO c PUOP c POT c POX c PO c POP c PUT c PUX c PU c PUP c PURX c PUR
   c PYT c PYX c PY c PYP c PYRX c PYR c BBIT c BBIX c BBI c BBIP c BBIET c BBIEX c BBIE c BBIEP
   c BBAT c BBAX c BBA c BBAP c BBUOX c BBUO c BBUOP c BBOT c BBOX c BBO c BBOP c BBEX c BBE c
   BBEP c BBUT c BBUX c BBU c BBUP c BBURX c BBUR c BBYT c BBYX c BBY c BBYP c NBIT c NBIX c NBI
   c NBIP c NBIEX c NBIE c NBIEP c NBAT c NBAX c NBA c NBAP c NBOT c NBOX c NBO c NBOP c NBUT c
   NBUX c NBU c NBUP c NBURX c NBUR c NBYT c NBYX c NBY c NBYP c NBYRX c NBYR c HMIT c HMIX c HMI
   c HMIP c HMIEX c HMIE c HMIEP c HMAT c HMAX c HMA c HMAP c HMUOX c HMUO c HMUOP c HMOT c HMOX
   c HMO c HMOP c HMUT c HMUX c HMU c HMUP c HMURX c HMUR c HMYX c HMY c HMYP c HMYRX c HMYR c
   MIT c MIX c MI c MIP c MIEX c MIE c MIEP c MAT c MAX c MA c MAP c MUOT c MUOX c MUO c MUOP c
   MOT c MOX c MO c MOP c MEX c ME c MUT c MUX c MU c MUP c MURX c MUR c MYT c MYX c MY c MYP c
   FIT c FIX c FI c FIP c FAT c FAX c FA c FAP c FOX c FO c FOP c FUT c FUX c FU c FUP c FURX c
   FUR c FYT c FYX c FY c FYP c VIT c VIX c VI c VIP c VIET c VIEX c VIE c VIEP c VAT c VAX c VA
   c VAP c VOT c VOX c VO c VOP c VEX c VEP c VUT c VUX c VU c VUP c VURX c VUR c VYT c VYX c VY
   c VYP c VYRX c VYR c DIT c DIX c DI c DIP c DIEX c DIE c DIEP c DAT c DAX c DA c DAP c DUOX c
   DUO c DOT c DOX c DO c DOP c DEX c DE c DEP c DUT c DUX c DU c DUP c DURX c DUR c TIT c TIX c
   TI c TIP c TIEX c TIE c TIEP c TAT c TAX c TA c TAP c TUOT c TUOX c TUO c TUOP c TOT c TOX c
   TO c TOP c TEX c TE c TEP c TUT c TUX c TU c TUP c TURX c TUR c DDIT c DDIX c DDI c DDIP c
   DDIEX c DDIE c DDIEP c DDAT c DDAX c DDA c DDAP c DDUOX c DDUO c DDUOP c DDOT c DDOX c DDO c
   DDOP c DDEX c DDE c DDEP c DDUT c DDUX c DDU c DDUP c DDURX c DDUR c NDIT c NDIX c NDI c NDIP
   c NDIEX c NDIE c NDAT c NDAX c NDA c NDAP c NDOT c NDOX c NDO c NDOP c NDEX c NDE c NDEP c
   NDUT c NDUX c NDU c NDUP c NDURX c NDUR c HNIT c HNIX c HNI c HNIP c HNIET c HNIEX c HNIE c
   HNIEP c HNAT c HNAX c HNA c HNAP c HNUOX c HNUO c HNOT c HNOX c HNOP c HNEX c HNE c HNEP c
   HNUT c NIT c NIX c NI c NIP c NIEX c NIE c NIEP c NAX c NA c NAP c NUOX c NUO c NUOP c NOT c
   NOX c NO c NOP c NEX c NE c NEP c NUT c NUX c NU c NUP c NURX c NUR c HLIT c HLIX c HLI c HLIP
   c HLIEX c HLIE c HLIEP c HLAT c HLAX c HLA c HLAP c HLUOX c HLUO c HLUOP c HLOX c HLO c HLOP c
   HLEX c HLE c HLEP c HLUT c HLUX c HLU c HLUP c HLURX c HLUR c HLYT c HLYX c HLY c HLYP c HLYRX
   c HLYR c LIT c LIX c LI c LIP c LIET c LIEX c LIE c LIEP c LAT c LAX c LA c LAP c LUOT c LUOX
   c LUO c LUOP c LOT c LOX c LO c LOP c LEX c LE c LEP c LUT c LUX c LU c LUP c LURX c LUR c LYT
   c LYX c LY c LYP c LYRX c LYR c GIT c GIX c GI c GIP c GIET c GIEX c GIE c GIEP c GAT c GAX c
   GA c GAP c GUOT c GUOX c GUO c GUOP c GOT c GOX c GO c GOP c GET c GEX c GE c GEP c GUT c GUX
   c GU c GUP c GURX c GUR c KIT c KIX c KI c KIP c KIEX c KIE c KIEP c KAT c KAX c KA c KAP c
   KUOX c KUO c KUOP c KOT c KOX c KO c KOP c KET c KEX c KE c KEP c KUT c KUX c KU c KUP c KURX
   c KUR c GGIT c GGIX c GGI c GGIEX c GGIE c GGIEP c GGAT c GGAX c GGA c GGAP c GGUOT c GGUOX c
   GGUO c GGUOP c GGOT c GGOX c GGO c GGOP c GGET c GGEX c GGE c GGEP c GGUT c GGUX c GGU c GGUP
   c GGURX c GGUR c MGIEX c MGIE c MGAT c MGAX c MGA c MGAP c MGUOX c MGUO c MGUOP c MGOT c MGOX
   c MGO c MGOP c MGEX c MGE c MGEP c MGUT c MGUX c MGU c MGUP c MGURX c MGUR c HXIT c HXIX c HXI
   c HXIP c HXIET c HXIEX c HXIE c HXIEP c HXAT c HXAX c HXA c HXAP c HXUOT c HXUOX c HXUO c
   HXUOP c HXOT c HXOX c HXO c HXOP c HXEX c HXE c HXEP c NGIEX c NGIE c NGIEP c NGAT c NGAX c
   NGA c NGAP c NGUOT c NGUOX c NGUO c NGOT c NGOX c NGO c NGOP c NGEX c NGE c NGEP c HIT c HIEX
   c HIE c HAT c HAX c HA c HAP c HUOT c HUOX c HUO c HUOP c HOT c HOX c HO c HOP c HEX c HE c
   HEP c WAT c WAX c WA c WAP c WUOX c WUO c WUOP c WOX c WO c WOP c WEX c WE c WEP c ZIT c ZIX c
   ZI c ZIP c ZIEX c ZIE c ZIEP c ZAT c ZAX c ZA c ZAP c ZUOX c ZUO c ZUOP c ZOT c ZOX c ZO c ZOP
   c ZEX c ZE c ZEP c ZUT c ZUX c ZU c ZUP c ZURX c ZUR c ZYT c ZYX c ZY c ZYP c ZYRX c ZYR c CIT
   c CIX c CI c CIP c CIET c CIEX c CIE c CIEP c CAT c CAX c CA c CAP c CUOX c CUO c CUOP c COT c
   COX c CO c COP c CEX c CE c CEP c CUT c CUX c CU c CUP c CURX c CUR c CYT c CYX c CY c CYP c
   CYRX c CYR c ZZIT c ZZIX c ZZI c ZZIP c ZZIET c ZZIEX c ZZIE c ZZIEP c ZZAT c ZZAX c ZZA c
   ZZAP c ZZOX c ZZO c ZZOP c ZZEX c ZZE c ZZEP c ZZUX c ZZU c ZZUP c ZZURX c ZZUR c ZZYT c ZZYX
   c ZZY c ZZYP c ZZYRX c ZZYR c NZIT c NZIX c NZI c NZIP c NZIEX c NZIE c NZIEP c NZAT c NZAX c
   NZA c NZAP c NZUOX c NZUO c NZOX c NZOP c NZEX c NZE c NZUX c NZU c NZUP c NZURX c NZUR c NZYT
   c NZYX c NZY c NZYP c NZYRX c NZYR c SIT c SIX c SI c SIP c SIEX c SIE c SIEP c SAT c SAX c SA
   c SAP c SUOX c SUO c SUOP c SOT c SOX c SO c SOP c SEX c SE c SEP c SUT c SUX c SU c SUP c
   SURX c SUR c SYT c SYX c SY c SYP c SYRX c SYR c SSIT c SSIX c SSI c SSIP c SSIEX c SSIE c
   SSIEP c SSAT c SSAX c SSA c SSAP c SSOT c SSOX c SSO c SSOP c SSEX c SSE c SSEP c SSUT c SSUX
   c SSU c SSUP c SSYT c SSYX c SSY c SSYP c SSYRX c SSYR c ZHAT c ZHAX c ZHA c ZHAP c ZHUOX c
   ZHUO c ZHUOP c ZHOT c ZHOX c ZHO c ZHOP c ZHET c ZHEX c ZHE c ZHEP c ZHUT c ZHUX c ZHU c ZHUP
   c ZHURX c ZHUR c ZHYT c ZHYX c ZHY c ZHYP c ZHYRX c ZHYR c CHAT c CHAX c CHA c CHAP c CHUOT c
   CHUOX c CHUO c CHUOP c CHOT c CHOX c CHO c CHOP c CHET c CHEX c CHE c CHEP c CHUX c CHU c CHUP
   c CHURX c CHUR c CHYT c CHYX c CHY c CHYP c CHYRX c CHYR c RRAX c RRA c RRUOX c RRUO c RROT c
   RROX c RRO c RROP c RRET c RREX c RRE c RREP c RRUT c RRUX c RRU c RRUP c RRURX c RRUR c RRYT
   c RRYX c RRY c RRYP c RRYRX c RRYR c NRAT c NRAX c NRA c NRAP c NROX c NRO c NROP c NRET c
   NREX c NRE c NREP c NRUT c NRUX c NRU c NRUP c NRURX c NRUR c NRYT c NRYX c NRY c NRYP c NRYRX
   c NRYR c SHAT c SHAX c SHA c SHAP c SHUOX c SHUO c SHUOP c SHOT c SHOX c SHO c SHOP c SHET c
   SHEX c SHE c SHEP c SHUT c SHUX c SHU c SHUP c SHURX c SHUR c SHYT c SHYX c SHY c SHYP c SHYRX
   c SHYR c RAT c RAX c RA c RAP c RUOX c RUO c RUOP c ROT c ROX c RO c ROP c REX c RE c REP c
   RUT c RUX c RU c RUP c RURX c RUR c RYT c RYX c RY c RYP c RYRX c RYR c JIT c JIX c JI c JIP c
   JIET c JIEX c JIE c JIEP c JUOT c JUOX c JUO c JUOP c JOT c JOX c JO c JOP c JUT c JUX c JU c
   JUP c JURX c JUR c JYT c JYX c JY c JYP c JYRX c JYR c QIT c QIX c QI c QIP c QIET c QIEX c
   QIE c QIEP c QUOT c QUOX c QUO c QUOP c QOT c QOX c QO c QOP c QUT c QUX c QU c QUP c QURX c
   QUR c QYT c QYX c QY c QYP c QYRX c QYR c JJIT c JJIX c JJI c JJIP c JJIET c JJIEX c JJIE c
   JJIEP c JJUOX c JJUO c JJUOP c JJOT c JJOX c JJO c JJOP c JJUT c JJUX c JJU c JJUP c JJURX c
   JJUR c JJYT c JJYX c JJY c JJYP c NJIT c NJIX c NJI c NJIP c NJIET c NJIEX c NJIE c NJIEP c
   NJUOX c NJUO c NJOT c NJOX c NJO c NJOP c NJUX c NJU c NJUP c NJURX c NJUR c NJYT c NJYX c NJY
   c NJYP c NJYRX c NJYR c NYIT c NYIX c NYI c NYIP c NYIET c NYIEX c NYIE c NYIEP c NYUOX c NYUO
   c NYUOP c NYOT c NYOX c NYO c NYOP c NYUT c NYUX c NYU c NYUP c XIT c XIX c XI c XIP c XIET c
   XIEX c XIE c XIEP c XUOX c XUO c XOT c XOX c XO c XOP c XYT c XYX c XY c XYP c XYRX c XYR c
   YIT c YIX c YI c YIP c YIET c YIEX c YIE c YIEP c YUOT c YUOX c YUO c YUOP c YOT c YOX c YO c
   YOP c YUT c YUX c YU c YUP c YURX c YUR c YYT c YYX c YY c YYP c YYRX c YYR bA490 RADICAL QOT
   c LI c KIT c NYIP c CYP c SSI c GGOP c GEP c MI c HXIT c LYR c BBUT c MOP c YO c PUT c HXUO c
   TAT c GA c ZUP c CYT c DDUR c BUR c GGUO c NYOP c TU c OP c JJUT c ZOT c PYT c HMO c YIT c VUR
   c SHY c VEP c ZA c JO c NZUP c JJY c GOT c JJIE c WO c DU c SHUR c LIE c CY c CUOP c CIP c
   HXOP c SHAT c ZUR c SHOP c CHE c ZZIET c NBIE c KE aA4D0 LISU LETTER BA c PA c PHA c DA c TA c
   THA c GA c KA c KHA c JA c CA c CHA c DZA c TSA c TSHA c MA c NA c LA c SA c ZHA c ZA c NGA c
   HA c XA c HHA c FA c WA c SHA c YA c GHA c A c AE c E c EU c I c O c U c UE c UH c OE c TONE
   MYA TI d NA PO d MYA CYA e BO e NA e JEU b PUNCTUATION COMMA c FULL STOP a VAI SYLLABLE EE c
   EEN c HEE c WEE c WEEN c PEE c BHEE c BEE c MBEE c KPEE c MGBEE c GBEE c FEE c VEE c TEE c
   THEE c DHEE c DHHEE c LEE c REE c DEE c NDEE c SEE c SHEE c ZEE c ZHEE c CEE c JEE c NJEE c
   YEE c KEE c NGGEE c GEE c MEE c NEE c NYEE c I c IN c HI c HIN c WI c WIN c PI c BHI c BI c
   MBI c KPI c MGBI c GBI c FI c VI c TI c THI c DHI c DHHI c LI c RI c DI c NDI c SI c SHI c ZI
   c ZHI c CI c JI c NJI c YI c KI c NGGI c GI c MI c NI c NYI c A c AN c NGAN c HA c HAN c WA c
   WAN c PA c BHA c BA c MBA c KPA c KPAN c MGBA c GBA c FA c VA c TA c THA c DHA c DHHA c LA c
   RA c DA c NDA c SA c SHA c ZA c ZHA c CA c JA c NJA c YA c KA c KAN c NGGA c GA c MA c NA c
   NYA c OO c OON c HOO c WOO c WOON c POO c BHOO c BOO c MBOO c KPOO c MGBOO c GBOO c FOO c VOO
   c TOO c THOO c DHOO c DHHOO c LOO c ROO c DOO c NDOO c SOO c SHOO c ZOO c ZHOO c COO c JOO c
   NJOO c YOO c KOO c NGGOO c GOO c MOO c NOO c NYOO c U c UN c HU c HUN c WU c WUN c PU c BHU c
   BU c MBU c KPU c MGBU c GBU c FU c VU c TU c THU c DHU c DHHU c LU c RU c DU c NDU c SU c SHU
   c ZU c ZHU c CU c JU c NJU c YU c KU c NGGU c GU c MU c NU c NYU c O c ON c NGON c HO c HON c
   WO c WON c PO c BHO c BO c MBO c KPO c MGBO c GBO c GBON c FO c VO c TO c THO c DHO c DHHO c
   LO c RO c DO c NDO c SO c SHO c ZO c ZHO c CO c JO c NJO c YO c KO c NGGO c GO c MO c NO c NYO
   c E c EN c NGEN c HE c HEN c WE c WEN c PE c BHE c BE c MBE c KPE c KPEN c MGBE c GBE c GBEN c
   FE c VE c TE c THE c DHE c DHHE c LE c RE c DE c NDE c SE c SHE c ZE c ZHE c CE c JE c NJE c
   YE c KE c NGGE c NGGEN c GE c GEN c ME c NE c NYE c NG c LENGTHENER b COMMA b FULL STOP b
   QUESTION MARK b SYLLABLE NDOLE FA d KA d SOO b SYMBOL FEENG c KEENG c TING c NII c BANG c FAA
   c TAA c DANG c DOONG c KUNG c TONG c DO-O c JONG b DIGIT ZERO c ONE c TWO c THREE c FOUR c
   FIVE c SIX c SEVEN c EIGHT c NINE b SYLLABLE NDOLE MA d DO aA640 CYRILLIC CAPITAL LETTER
   ZEMLYA b SMALL LETTER ZEMLYA b CAPITAL LETTER DZELO b SMALL LETTER DZELO b CAPITAL LETTER
   REVERSED DZE b SMALL LETTER REVERSED DZE b CAPITAL LETTER IOTA b SMALL LETTER IOTA b CAPITAL
   LETTER DJERV b SMALL LETTER DJERV b CAPITAL LETTER MONOGRAPH UK b SMALL LETTER MONOGRAPH UK b
   CAPITAL LETTER BROAD OMEGA b SMALL LETTER BROAD OMEGA b CAPITAL LETTER NEUTRAL YER b SMALL
   LETTER NEUTRAL YER b CAPITAL LETTER YERU WITH BACK YER b SMALL LETTER YERU WITH BACK YER b
   CAPITAL LETTER IOTIFIED YAT b SMALL LETTER IOTIFIED YAT b CAPITAL LETTER REVERSED YU b SMALL
   LETTER REVERSED YU b CAPITAL LETTER IOTIFIED A b SMALL LETTER IOTIFIED A b CAPITAL LETTER
   CLOSED LITTLE YUS b SMALL LETTER CLOSED LITTLE YUS b CAPITAL LETTER BLENDED YUS b SMALL LETTER
   BLENDED YUS b CAPITAL LETTER IOTIFIED CLOSED LITTLE YUS b SMALL LETTER IOTIFIED CLOSED LITTLE
   YUS b CAPITAL LETTER YN b SMALL LETTER YN b CAPITAL LETTER REVERSED TSE b SMALL LETTER
   REVERSED TSE b CAPITAL LETTER SOFT DE b SMALL LETTER SOFT DE b CAPITAL LETTER SOFT EL b SMALL
   LETTER SOFT EL b CAPITAL LETTER SOFT EM b SMALL LETTER SOFT EM b CAPITAL LETTER MONOCULAR O b
   SMALL LETTER MONOCULAR O b CAPITAL LETTER BINOCULAR O b SMALL LETTER BINOCULAR O b CAPITAL
   LETTER DOUBLE MONOCULAR O b SMALL LETTER DOUBLE MONOCULAR O b LETTER MULTIOCULAR O a COMBINING
   CYRILLIC VZMET c TEN MILLIONS SIGN c HUNDRED MILLIONS SIGN c THOUSAND MILLIONS SIGN a SLAVONIC
   ASTERISK a COMBINING CYRILLIC LETTER UKRAINIAN IE d I d YI d U d HARD SIGN d YERU d SOFT SIGN
   d OMEGA c KAVYKA c PAYEROK a CYRILLIC KAVYKA b PAYEROK b CAPITAL LETTER DWE b SMALL LETTER DWE
   b CAPITAL LETTER DZWE b SMALL LETTER DZWE b CAPITAL LETTER ZHWE b SMALL LETTER ZHWE b CAPITAL
   LETTER CCHE b SMALL LETTER CCHE b CAPITAL LETTER DZZE b SMALL LETTER DZZE b CAPITAL LETTER TE
   WITH MIDDLE HOOK b SMALL LETTER TE WITH MIDDLE HOOK b CAPITAL LETTER TWE b SMALL LETTER TWE b
   CAPITAL LETTER TSWE b SMALL LETTER TSWE b CAPITAL LETTER TSSE b SMALL LETTER TSSE b CAPITAL
   LETTER TCHE b SMALL LETTER TCHE b CAPITAL LETTER HWE b SMALL LETTER HWE b CAPITAL LETTER SHWE
   b SMALL LETTER SHWE b CAPITAL LETTER DOUBLE O b SMALL LETTER DOUBLE O b CAPITAL LETTER CROSSED
   O b SMALL LETTER CROSSED O a MODIFIER LETTER CYRILLIC HARD SIGN d SOFT SIGN a COMBINING
   CYRILLIC LETTER EF d IOTIFIED E a BAMUM LETTER A c KA c U c KU c EE c REE c TAE c O c NYI c I
   c LA c PA c RII c RIEE c LEEEE c MEEEE c TAA c NDAA c NJAEM c M c SUU c MU c SHII c SI c SHEUX
   c SEUX c KYEE c KET c NUAE c NU c NJUAE c YOQ c SHU c YUQ c YA c NSHA c KEUX c PEUX c NJEE c
   NTEE c PUE c WUE c PEE c FEE c RU c LU c MI c NI c REUX c RAE c KEN c NGKWAEN c NGGA c NGA c
   SHO c PUAE c FU c FOM c WA c NA c LI c PI c LOQ c KO c MBEN c REN c MEN c MA c TI c KI c MO c
   MBAA c TET c KPA c TEN c NTUU c SAMBA c FAAMAE c KOVUU c KOGHOM b COMBINING MARK KOQNDON d
   TUKWENTIS b NJAEMLI b FULL STOP b COLON b COMMA b SEMICOLON b QUESTION MARK aA700 MODIFIER
   LETTER CHINESE TONE YIN PING e YANG PING e YIN SHANG e YANG SHANG e YIN QU e YANG QU e YIN RU
   e YANG RU c EXTRA-HIGH DOTTED TONE BAR c HIGH DOTTED TONE BAR c MID DOTTED TONE BAR c LOW
   DOTTED TONE BAR c EXTRA-LOW DOTTED TONE BAR c EXTRA-HIGH DOTTED LEFT-STEM TONE BAR c HIGH
   DOTTED LEFT-STEM TONE BAR c MID DOTTED LEFT-STEM TONE BAR c LOW DOTTED LEFT-STEM TONE BAR c
   EXTRA-LOW DOTTED LEFT-STEM TONE BAR c EXTRA-HIGH LEFT-STEM TONE BAR c HIGH LEFT-STEM TONE BAR
   c MID LEFT-STEM TONE BAR c LOW LEFT-STEM TONE BAR c EXTRA-LOW LEFT-STEM TONE BAR c DOT
   VERTICAL BAR d SLASH d HORIZONTAL BAR c LOWER RIGHT CORNER ANGLE c RAISED UP ARROW d DOWN
   ARROW d EXCLAMATION MARK d INVERTED EXCLAMATION MARK c LOW INVERTED EXCLAMATION MARK c STRESS
   AND HIGH TONE e LOW TONE a LATIN CAPITAL LETTER EGYPTOLOGICAL ALEF b SMALL LETTER
   EGYPTOLOGICAL ALEF b CAPITAL LETTER EGYPTOLOGICAL AIN b SMALL LETTER EGYPTOLOGICAL AIN b
   CAPITAL LETTER HENG b SMALL LETTER HENG b CAPITAL LETTER TZ b SMALL LETTER TZ b CAPITAL LETTER
   TRESILLO b SMALL LETTER TRESILLO b CAPITAL LETTER CUATRILLO b SMALL LETTER CUATRILLO b CAPITAL
   LETTER CUATRILLO WITH COMMA b SMALL LETTER CUATRILLO WITH COMMA b LETTER SMALL CAPITAL F e S b
   CAPITAL LETTER AA b SMALL LETTER AA b CAPITAL LETTER AO b SMALL LETTER AO b CAPITAL LETTER AU
   b SMALL LETTER AU b CAPITAL LETTER AV b SMALL LETTER AV b CAPITAL LETTER AV WITH HORIZONTAL
   BAR b SMALL LETTER AV WITH HORIZONTAL BAR b CAPITAL LETTER AY b SMALL LETTER AY b CAPITAL
   LETTER REVERSED C WITH DOT b SMALL LETTER REVERSED C WITH DOT b CAPITAL LETTER K WITH STROKE b
   SMALL LETTER K WITH STROKE b CAPITAL LETTER K WITH DIAGONAL STROKE b SMALL LETTER K WITH
   DIAGONAL STROKE b CAPITAL LETTER K WITH STROKE AND DIAGONAL STROKE b SMALL LETTER K WITH
   STROKE AND DIAGONAL STROKE b CAPITAL LETTER BROKEN L b SMALL LETTER BROKEN L b CAPITAL LETTER
   L WITH HIGH STROKE b SMALL LETTER L WITH HIGH STROKE b CAPITAL LETTER O WITH LONG STROKE
   OVERLAY b SMALL LETTER O WITH LONG STROKE OVERLAY b CAPITAL LETTER O WITH LOOP b SMALL LETTER
   O WITH LOOP b CAPITAL LETTER OO b SMALL LETTER OO b CAPITAL LETTER P WITH STROKE THROUGH
   DESCENDER b SMALL LETTER P WITH STROKE THROUGH DESCENDER b CAPITAL LETTER P WITH FLOURISH b
   SMALL LETTER P WITH FLOURISH b CAPITAL LETTER P WITH SQUIRREL TAIL b SMALL LETTER P WITH
   SQUIRREL TAIL b CAPITAL LETTER Q WITH STROKE THROUGH DESCENDER b SMALL LETTER Q WITH STROKE
   THROUGH DESCENDER b CAPITAL LETTER Q WITH DIAGONAL STROKE b SMALL LETTER Q WITH DIAGONAL
   STROKE b CAPITAL LETTER R ROTUNDA b SMALL LETTER R ROTUNDA b CAPITAL LETTER RUM ROTUNDA b
   SMALL LETTER RUM ROTUNDA b CAPITAL LETTER V WITH DIAGONAL STROKE b SMALL LETTER V WITH
   DIAGONAL STROKE b CAPITAL LETTER VY b SMALL LETTER VY b CAPITAL LETTER VISIGOTHIC Z b SMALL
   LETTER VISIGOTHIC Z b CAPITAL LETTER THORN WITH STROKE b SMALL LETTER THORN WITH STROKE b
   CAPITAL LETTER THORN WITH STROKE THROUGH DESCENDER b SMALL LETTER THORN WITH STROKE THROUGH
   DESCENDER b CAPITAL LETTER VEND b SMALL LETTER VEND b CAPITAL LETTER ET b SMALL LETTER ET b
   CAPITAL LETTER IS b SMALL LETTER IS b CAPITAL LETTER CON b SMALL LETTER CON a MODIFIER LETTER
   US a LATIN SMALL LETTER DUM d LUM d MUM d NUM d RUM b LETTER SMALL CAPITAL RUM b SMALL LETTER
   TUM d UM b CAPITAL LETTER INSULAR D b SMALL LETTER INSULAR D b CAPITAL LETTER INSULAR F b
   SMALL LETTER INSULAR F b CAPITAL LETTER INSULAR G d TURNED INSULAR G b SMALL LETTER TURNED
   INSULAR G b CAPITAL LETTER TURNED L b SMALL LETTER TURNED L b CAPITAL LETTER INSULAR R b SMALL
   LETTER INSULAR R b CAPITAL LETTER INSULAR S b SMALL LETTER INSULAR S b CAPITAL LETTER INSULAR
   T b SMALL LETTER INSULAR T a MODIFIER LETTER LOW CIRCUMFLEX ACCENT c COLON c SHORT EQUALS SIGN
   a LATIN CAPITAL LETTER SALTILLO b SMALL LETTER SALTILLO b CAPITAL LETTER TURNED H b SMALL
   LETTER L WITH RETROFLEX HOOK AND BELT b LETTER SINOLOGICAL DOT b CAPITAL LETTER N WITH
   DESCENDER b SMALL LETTER N WITH DESCENDER b CAPITAL LETTER C WITH BAR b SMALL LETTER C WITH
   BAR f PALATAL HOOK d H WITH PALATAL HOOK b CAPITAL LETTER B WITH FLOURISH b SMALL LETTER B
   WITH FLOURISH b CAPITAL LETTER F WITH STROKE b SMALL LETTER F WITH STROKE b CAPITAL LETTER
   VOLAPUK AE b SMALL LETTER VOLAPUK AE b CAPITAL LETTER VOLAPUK OE b SMALL LETTER VOLAPUK OE b
   CAPITAL LETTER VOLAPUK UE b SMALL LETTER VOLAPUK UE b CAPITAL LETTER G WITH OBLIQUE STROKE b
   SMALL LETTER G WITH OBLIQUE STROKE b CAPITAL LETTER K WITH OBLIQUE STROKE b SMALL LETTER K
   WITH OBLIQUE STROKE b CAPITAL LETTER N WITH OBLIQUE STROKE b SMALL LETTER N WITH OBLIQUE
   STROKE b CAPITAL LETTER R WITH OBLIQUE STROKE b SMALL LETTER R WITH OBLIQUE STROKE b CAPITAL
   LETTER S WITH OBLIQUE STROKE b SMALL LETTER S WITH OBLIQUE STROKE b CAPITAL LETTER H WITH HOOK
   d REVERSED OPEN E d SCRIPT G d L WITH BELT d SMALL CAPITAL I b LETTER SMALL CAPITAL Q b
   CAPITAL LETTER TURNED K e T d J WITH CROSSED-TAIL d CHI d BETA b SMALL LETTER BETA b CAPITAL
   LETTER OMEGA b SMALL LETTER OMEGA b CAPITAL LETTER U WITH STROKE b SMALL LETTER U WITH STROKE
   b CAPITAL LETTER GLOTTAL A b SMALL LETTER GLOTTAL A b CAPITAL LETTER GLOTTAL I b SMALL LETTER
   GLOTTAL I b CAPITAL LETTER GLOTTAL U b SMALL LETTER GLOTTAL U b CAPITAL LETTER OLD POLISH O b
   SMALL LETTER OLD POLISH O b CAPITAL LETTER ANGLICANA W b SMALL LETTER ANGLICANA W b CAPITAL
   LETTER C WITH PALATAL HOOK d S WITH HOOK d Z WITH PALATAL HOOK d D WITH SHORT STROKE OVERLAY b
   SMALL LETTER D WITH SHORT STROKE OVERLAY b CAPITAL LETTER S WITH SHORT STROKE OVERLAY b SMALL
   LETTER S WITH SHORT STROKE OVERLAY bA7D0 CAPITAL LETTER CLOSED INSULAR G b SMALL LETTER CLOSED
   INSULAR G dA7D3 DOUBLE THORN eA7D5 WYNN b CAPITAL LETTER MIDDLE SCOTS S b SMALL LETTER MIDDLE
   SCOTS S b CAPITAL LETTER SIGMOID S b SMALL LETTER SIGMOID S aA7F2 MODIFIER LETTER CAPITAL C d
   F d Q a LATIN CAPITAL LETTER REVERSED HALF H b SMALL LETTER REVERSED HALF H b EPIGRAPHIC
   LETTER SIDEWAYS I a MODIFIER LETTER CAPITAL H WITH STROKE c SMALL LIGATURE OE a LATIN LETTER
   SMALL CAPITAL TURNED M b EPIGRAPHIC LETTER REVERSED F e P d INVERTED M d I LONGA d ARCHAIC M a
   SYLOTI NAGRI LETTER A d I c SIGN DVISVARA c LETTER U d E d O c SIGN HASANTA c LETTER KO d KHO
   d GO d GHO c SIGN ANUSVARA c LETTER CO d CHO d JO d JHO d TTO d TTHO d DDO d DDHO d TO d THO d
   DO d DHO d NO d PO d PHO d BO d BHO d MO d RO d LO d RRO d SO d HO c VOWEL SIGN A e I e U e E
   e OO c POETRY MARK-1 d MARK-2 d MARK-3 d MARK-4 c SIGN ALTERNATE HASANTA aA830 NORTH INDIC
   FRACTION ONE QUARTER e HALF d THREE QUARTERS d ONE SIXTEENTH e EIGHTH d THREE SIXTEENTHS c
   QUARTER MARK c PLACEHOLDER MARK c RUPEE MARK c QUANTITY MARK aA840 PHAGS-PA LETTER KA c KHA c
   GA c NGA c CA c CHA c JA c NYA c TA c THA c DA c NA c PA c PHA c BA c MA c TSA c TSHA c DZA c
   WA c ZHA c ZA c SMALL A c YA c RA c LA c SHA c SA c HA c A c I c U c E c O c QA c XA c FA c
   GGA c EE b SUBJOINED LETTER WA d YA b LETTER TTA c TTHA c DDA c NNA c ALTERNATE YA c VOICELESS
   SHA c VOICED HA c ASPIRATED FA b SUBJOINED LETTER RA b SUPERFIXED LETTER RA b LETTER
   CANDRABINDU b SINGLE HEAD MARK b DOUBLE HEAD MARK b MARK SHAD c DOUBLE SHAD aA880 SAURASHTRA
   SIGN ANUSVARA c VISARGA b LETTER A c AA c I c II c U c UU c VOCALIC R d RR d L d LL c E c EE c
   AI c O c OO c AU c KA c KHA c GA c GHA c NGA c CA c CHA c JA c JHA c NYA c TTA c TTHA c DDA c
   DDHA c NNA c TA c THA c DA c DHA c NA c PA c PHA c BA c BHA c MA c YA c RA c LA c VA c SHA c
   SSA c SA c HA c LLA b CONSONANT SIGN HAARU b VOWEL SIGN AA d I d II d U d UU d VOCALIC R e RR
   e L e LL d E d EE d AI d O d OO d AU b SIGN VIRAMA c CANDRABINDU bA8CE DANDA b DOUBLE DANDA b
   DIGIT ZERO c ONE c TWO c THREE c FOUR c FIVE c SIX c SEVEN c EIGHT c NINE aA8E0 COMBINING
   DEVANAGARI DIGIT ZERO d ONE d TWO d THREE d FOUR d FIVE d SIX d SEVEN d EIGHT d NINE c LETTER
   A d U d KA d NA d PA d RA d VI c SIGN AVAGRAHA a DEVANAGARI SIGN SPACING CANDRABINDU c
   CANDRABINDU VIRAMA c DOUBLE CANDRABINDU VIRAMA c CANDRABINDU TWO d THREE d AVAGRAHA c PUSHPIKA
   b GAP FILLER b CARET b HEADSTROKE b SIGN SIDDHAM b JAIN OM b LETTER AY b VOWEL SIGN AY a KAYAH
   LI DIGIT ZERO d ONE d TWO d THREE d FOUR d FIVE d SIX d SEVEN d EIGHT d NINE c LETTER KA d KHA
   d GA d NGA d SA d SHA d ZA d NYA d TA d HTA d NA d PA d PHA d MA d DA d BA d RA d YA d LA d WA
   d THA d HA d VA d CA d A d OE d I d OO c VOWEL UE d E d U d EE d O c TONE PLOPHU d CALYA e
   PLOPHU c SIGN CWI d SHYA a REJANG LETTER KA c GA c NGA c TA c DA c NA c PA c BA c MA c CA c JA
   c NYA c SA c RA c LA c YA c WA c HA c MBA c NGGA c NDA c NYJA c A b VOWEL SIGN I d U d E d AI
   d O d AU d EU d EA b CONSONANT SIGN NG d N d R d H b VIRAMA bA95F SECTION MARK a HANGUL
   CHOSEONG TIKEUT-MIEUM c TIKEUT-PIEUP c TIKEUT-SIOS c TIKEUT-CIEUC c RIEUL-KIYEOK c
   RIEUL-SSANGKIYEOK c RIEUL-TIKEUT c RIEUL-SSANGTIKEUT c RIEUL-MIEUM c RIEUL-PIEUP c
   RIEUL-SSANGPIEUP c RIEUL-KAPYEOUNPIEUP c RIEUL-SIOS c RIEUL-CIEUC c RIEUL-KHIEUKH c
   MIEUM-KIYEOK c MIEUM-TIKEUT c MIEUM-SIOS c PIEUP-SIOS-THIEUTH c PIEUP-KHIEUKH c PIEUP-HIEUH c
   SSANGSIOS-PIEUP c IEUNG-RIEUL c IEUNG-HIEUH c SSANGCIEUC-HIEUH c SSANGTHIEUTH c PHIEUPH-HIEUH
   c HIEUH-SIOS c SSANGYEORINHIEUH aA980 JAVANESE SIGN PANYANGGA c CECAK c LAYAR c WIGNYAN b
   LETTER A c I KAWI d c II c U c PA CEREK c NGA LELET e RASWADI c E c AI c O c KA d SASAK d
   MURDA c GA d MURDA c NGA c CA d MURDA c JA c NYA MURDA c JA MAHAPRANA c NYA c TTA d MAHAPRANA
   c DDA d MAHAPRANA c NA MURDA c TA d MURDA c DA d MAHAPRANA c NA c PA d MURDA c BA d MURDA c MA
   c YA c RA d AGUNG c LA c WA c SA MURDA d MAHAPRANA d c HA b SIGN CECAK TELU b VOWEL SIGN
   TARUNG d TOLONG d WULU e MELIK d SUKU e MENDUT d TALING d DIRGA MURE d PEPET b CONSONANT SIGN
   KERET d PENGKAL d CAKRA b PANGKON b LEFT RERENGGAN b RIGHT RERENGGAN b PADA ANDAP c MADYA c
   LUHUR c WINDU c PANGKAT c LINGSA c LUNGSI c ADEG d ADEG c PISELEH b TURNED PADA PISELEH bA9CF
   PANGRANGKEP b DIGIT ZERO c ONE c TWO c THREE c FOUR c FIVE c SIX c SEVEN c EIGHT c NINE bA9DE
   PADA TIRTA TUMETES c ISEN-ISEN a MYANMAR LETTER SHAN GHA d CHA d JHA d NNA d BHA b SIGN SHAN
   SAW b MODIFIER LETTER SHAN REDUPLICATION b LETTER TAI LAING NYA e FA e GA e GHA e JA e JHA e
   DDA e DDHA e NNA b TAI LAING DIGIT ZERO e ONE e TWO e THREE e FOUR e FIVE e SIX e SEVEN e
   EIGHT e NINE b LETTER TAI LAING LLA e DA e DHA e BA e BHA aAA00 CHAM LETTER A c I c U c E c AI
   c O c KA c KHA c GA c GHA c NGUE c NGA c CHA c CHHA c JA c JHA c NHUE c NHA c NHJA c TA c THA
   c DA c DHA c NUE c NA c DDA c PA c PPA c PHA c BA c BHA c MUE c MA c BBA c YA c RA c LA c VA c
   SSA c SA c HA b VOWEL SIGN AA d I d II d EI d U d OE d O d AI d AU d UE b CONSONANT SIGN YA d
   RA d LA d WA bAA40 LETTER FINAL K d G d NG b CONSONANT SIGN FINAL NG b LETTER FINAL CH d T d N
   d P d Y d R d L d SS b CONSONANT SIGN FINAL M e H bAA50 DIGIT ZERO c ONE c TWO c THREE c FOUR
   c FIVE c SIX c SEVEN c EIGHT c NINE bAA5C PUNCTUATION SPIRAL c DANDA c DOUBLE DANDA c TRIPLE
   DANDA a MYANMAR LETTER KHAMTI GA d CA d CHA d JA d JHA d NYA d TTA d TTHA d DDA d DDHA d DHA d
   NA d SA d HA d HHA d FA b MODIFIER LETTER KHAMTI REDUPLICATION b LETTER KHAMTI XA d ZA d RA b
   LOGOGRAM KHAMTI OAY d QN d HM b SYMBOL AITON EXCLAMATION d ONE d TWO b LETTER AITON RA b SIGN
   PAO KAREN TONE c TAI LAING TONE-2 e TONE-5 b LETTER SHWE PALAUNG CHA e SHA a TAI VIET LETTER
   LOW KO d HIGH KO d LOW KHO d HIGH KHO d LOW KHHO d HIGH KHHO d LOW GO d HIGH GO d LOW NGO d
   HIGH NGO d LOW CO d HIGH CO d LOW CHO d HIGH CHO d LOW SO d HIGH SO d LOW NYO d HIGH NYO d LOW
   DO d HIGH DO d LOW TO d HIGH TO d LOW THO d HIGH THO d LOW NO d HIGH NO d LOW BO d HIGH BO d
   LOW PO d HIGH PO d LOW PHO d HIGH PHO d LOW FO d HIGH FO d LOW MO d HIGH MO d LOW YO d HIGH YO
   d LOW RO d HIGH RO d LOW LO d HIGH LO d LOW VO d HIGH VO d LOW HO d HIGH HO d LOW O d HIGH O c
   MAI KANG c VOWEL AA d I d UE d U d E d O c MAI KHIT c VOWEL IA d UEA d UA d AUE d AY d AN d AM
   c TONE MAI EK e NUENG e THO e SONG cAADB SYMBOL KON d NUENG d SAM d HO HOI d KOI KOI a MEETEI
   MAYEK LETTER E d O d CHA d NYA d TTA d TTHA d DDA d DDHA d NNA d SHA d SSA c VOWEL SIGN II e
   UU e AAI e AU e AAU c CHEIKHAN c AHANG KHUDAM c ANJI c SYLLABLE REPETITION MARK c WORD
   REPETITION MARK c VOWEL SIGN VISARGA c VIRAMA aAB01 ETHIOPIC SYLLABLE TTHU c TTHI c TTHAA c
   TTHEE c TTHE c TTHO cAB09 DDHU c DDHI c DDHAA c DDHEE c DDHE c DDHO cAB11 DZU c DZI c DZAA c
   DZEE c DZE c DZO cAB20 CCHHA c CCHHU c CCHHI c CCHHAA c CCHHEE c CCHHE c CCHHO cAB28 BBA c BBU
   c BBI c BBAA c BBEE c BBE c BBO aAB30 LATIN SMALL LETTER BARRED ALPHA d A REVERSED-SCHWA d
   BLACKLETTER E d BARRED E d E WITH FLOURISH d LENIS F d SCRIPT G WITH CROSSED-TAIL d L WITH
   INVERTED LAZY S f DOUBLE MIDDLE TILDE f MIDDLE RING d M WITH CROSSED-TAIL d N WITH
   CROSSED-TAIL d ENG WITH CROSSED-TAIL d BLACKLETTER O f WITH STROKE d OPEN O WITH STROKE d
   INVERTED OE d TURNED OE WITH STROKE g HORIZONTAL STROKE e O OPEN-O g WITH STROKE d STIRRUP R b
   LETTER SMALL CAPITAL R WITH RIGHT LEG b SMALL LETTER R WITHOUT HANDLE d DOUBLE R d R WITH
   CROSSED-TAIL d DOUBLE R WITH CROSSED-TAIL d SCRIPT R f WITH RING d BASELINE ESH d U WITH SHORT
   RIGHT LEG e BAR WITH SHORT RIGHT LEG d UI d TURNED UI d U WITH LEFT HOOK d CHI e WITH LOW
   RIGHT RING g LEFT SERIF d X WITH LOW RIGHT RING f LONG LEFT LEG i AND LOW RIGHT RING i WITH
   SERIF d Y WITH SHORT RIGHT LEG a MODIFIER BREVE WITH INVERTED BREVE b LETTER SMALL HENG d L
   WITH INVERTED LAZY S f MIDDLE TILDE d U WITH LEFT HOOK a LATIN SMALL LETTER SAKHA YAT d
   IOTIFIED E d OPEN OE d UO d INVERTED ALPHA a GREEK LETTER SMALL CAPITAL OMEGA a LATIN SMALL
   LETTER DZ DIGRAPH WITH RETROFLEX HOOK d TS DIGRAPH WITH RETROFLEX HOOK d TURNED R WITH MIDDLE
   TILDE a MODIFIER LETTER SMALL TURNED W c LEFT TACK c RIGHT TACK aAB70 CHEROKEE SMALL LETTER A
   d E d I d O d U d V d GA d KA d GE d GI d GO d GU d GV d HA d HE d HI d HO d HU d HV d LA d LE
   d LI d LO d LU d LV d MA d ME d MI d MO d MU d NA d HNA d NAH d NE d NI d NO d NU d NV d QUA d
   QUE d QUI d QUO d QUU d QUV d SA d S d SE d SI d SO d SU d SV d DA d TA d DE d TE d DI d TI d
   DO d DU d DV d DLA d TLA d TLE d TLI d TLO d TLU d TLV d TSA d TSE d TSI d TSO d TSU d TSV d
   WA d WE d WI d WO d WU d WV d YA a MEETEI MAYEK LETTER KOK d SAM d LAI d MIT d PA d NA d CHIL
   d TIL d KHOU d NGOU d THOU d WAI d YANG d HUK d UN d I d PHAM d ATIYA d GOK d JHAM d RAI d BA
   d JIL d DIL d GHOU d DHOU d BHAM d KOK LONSUM d LAI LONSUM d MIT LONSUM d PA LONSUM d NA
   LONSUM d TIL LONSUM d NGOU LONSUM d I LONSUM c VOWEL SIGN ONAP e INAP e ANAP e YENAP e SOUNAP
   e UNAP e CHEINAP e NUNG c CHEIKHEI c LUM IYEK c APUN IYEK cABF0 DIGIT ZERO d ONE d TWO d THREE
   d FOUR d FIVE d SIX d SEVEN d EIGHT d NINE aD7B0 HANGUL JUNGSEONG O-YEO c O-O-I c YO-A c YO-AE
   c YO-EO c U-YEO c U-I-I c YU-AE c YU-O c EU-A c EU-EO c EU-E c EU-O c I-YA-O c I-YAE c I-YEO c
   I-YE c I-O-I c I-YO c I-YU c I-I c ARAEA-A c ARAEA-E bD7CB JONGSEONG NIEUN-RIEUL c
   NIEUN-CHIEUCH c SSANGTIKEUT c SSANGTIKEUT-PIEUP c TIKEUT-PIEUP c TIKEUT-SIOS c
   TIKEUT-SIOS-KIYEOK c TIKEUT-CIEUC c TIKEUT-CHIEUCH c TIKEUT-THIEUTH c RIEUL-SSANGKIYEOK c
   RIEUL-KIYEOK-HIEUH c SSANGRIEUL-KHIEUKH c RIEUL-MIEUM-HIEUH c RIEUL-PIEUP-TIKEUT c
   RIEUL-PIEUP-PHIEUPH c RIEUL-YESIEUNG c RIEUL-YEORINHIEUH-HIEUH c KAPYEOUNRIEUL c MIEUM-NIEUN c
   MIEUM-SSANGNIEUN c SSANGMIEUM c MIEUM-PIEUP-SIOS c MIEUM-CIEUC c PIEUP-TIKEUT c
   PIEUP-RIEUL-PHIEUPH c PIEUP-MIEUM c SSANGPIEUP c PIEUP-SIOS-TIKEUT c PIEUP-CIEUC c
   PIEUP-CHIEUCH c SIOS-MIEUM c SIOS-KAPYEOUNPIEUP c SSANGSIOS-KIYEOK c SSANGSIOS-TIKEUT c
   SIOS-PANSIOS c SIOS-CIEUC c SIOS-CHIEUCH c SIOS-THIEUTH c SIOS-HIEUH c PANSIOS-PIEUP c
   PANSIOS-KAPYEOUNPIEUP c YESIEUNG-MIEUM c YESIEUNG-HIEUH c CIEUC-PIEUP c CIEUC-SSANGPIEUP c
   SSANGCIEUC c PHIEUPH-SIOS c PHIEUPH-THIEUTH aFB00 LATIN SMALL LIGATURE FF d FI d FL d FFI d
   FFL d LONG S T d ST aFB13 ARMENIAN SMALL LIGATURE MEN NOW e ECH e INI d VEW NOW d MEN XEH
   aFB1D HEBREW LETTER YOD WITH HIRIQ b POINT JUDEO-SPANISH VARIKA b LIGATURE YIDDISH YOD YOD
   PATAH b LETTER ALTERNATIVE AYIN c WIDE ALEF d DALET d HE d KAF d LAMED d FINAL MEM d RESH d
   TAV c ALTERNATIVE PLUS SIGN c SHIN WITH SHIN DOT e SIN DOT e DAGESH AND SHIN DOT g SIN DOT c
   ALEF WITH PATAH e QAMATS e MAPIQ c BET WITH DAGESH c GIMEL WITH DAGESH c DALET WITH DAGESH c
   HE WITH MAPIQ c VAV WITH DAGESH c ZAYIN WITH DAGESH cFB38 TET WITH DAGESH c YOD WITH DAGESH c
   FINAL KAF WITH DAGESH c KAF WITH DAGESH c LAMED WITH DAGESH cFB3E MEM WITH DAGESH cFB40 NUN
   WITH DAGESH c SAMEKH WITH DAGESH cFB43 FINAL PE WITH DAGESH c PE WITH DAGESH cFB46 TSADI WITH
   DAGESH c QOF WITH DAGESH c RESH WITH DAGESH c SHIN WITH DAGESH c TAV WITH DAGESH c VAV WITH
   HOLAM c BET WITH RAFE c KAF WITH RAFE c PE WITH RAFE b LIGATURE ALEF LAMED a ARABIC LETTER
   ALEF WASLA ISOLATED FORM e FINAL FORM c BEEH ISOLATED FORM d FINAL FORM d INITIAL FORM d
   MEDIAL FORM c PEH ISOLATED FORM d FINAL FORM d INITIAL FORM d MEDIAL FORM c BEHEH ISOLATED
   FORM d FINAL FORM d INITIAL FORM d MEDIAL FORM c TTEHEH ISOLATED FORM d FINAL FORM d INITIAL
   FORM d MEDIAL FORM c TEHEH ISOLATED FORM d FINAL FORM d INITIAL FORM d MEDIAL FORM c TTEH
   ISOLATED FORM d FINAL FORM d INITIAL FORM d MEDIAL FORM c VEH ISOLATED FORM d FINAL FORM d
   INITIAL FORM d MEDIAL FORM c PEHEH ISOLATED FORM d FINAL FORM d INITIAL FORM d MEDIAL FORM c
   DYEH ISOLATED FORM d FINAL FORM d INITIAL FORM d MEDIAL FORM c NYEH ISOLATED FORM d FINAL FORM
   d INITIAL FORM d MEDIAL FORM c TCHEH ISOLATED FORM d FINAL FORM d INITIAL FORM d MEDIAL FORM c
   TCHEHEH ISOLATED FORM d FINAL FORM d INITIAL FORM d MEDIAL FORM c DDAHAL ISOLATED FORM d FINAL
   FORM c DAHAL ISOLATED FORM d FINAL FORM c DUL ISOLATED FORM d FINAL FORM c DDAL ISOLATED FORM
   d FINAL FORM c JEH ISOLATED FORM d FINAL FORM c RREH ISOLATED FORM d FINAL FORM c KEHEH
   ISOLATED FORM d FINAL FORM d INITIAL FORM d MEDIAL FORM c GAF ISOLATED FORM d FINAL FORM d
   INITIAL FORM d MEDIAL FORM c GUEH ISOLATED FORM d FINAL FORM d INITIAL FORM d MEDIAL FORM c
   NGOEH ISOLATED FORM d FINAL FORM d INITIAL FORM d MEDIAL FORM c NOON GHUNNA ISOLATED FORM e
   FINAL FORM c RNOON ISOLATED FORM d FINAL FORM d INITIAL FORM d MEDIAL FORM c HEH WITH YEH
   ABOVE ISOLATED FORM g FINAL FORM d GOAL ISOLATED FORM e FINAL FORM e INITIAL FORM e MEDIAL
   FORM d DOACHASHMEE ISOLATED FORM e FINAL FORM e INITIAL FORM e MEDIAL FORM c YEH BARREE
   ISOLATED FORM e FINAL FORM e WITH HAMZA ABOVE ISOLATED FORM h FINAL FORM b SYMBOL DOT ABOVE d
   BELOW c TWO DOTS ABOVE e BELOW c THREE DOTS ABOVE e BELOW e POINTING DOWNWARDS ABOVE g BELOW c
   FOUR DOTS ABOVE e BELOW c DOUBLE VERTICAL BAR BELOW c TWO DOTS VERTICALLY ABOVE f BELOW c RING
   c SMALL TAH ABOVE e BELOW c WASLA ABOVE bFBD3 LETTER NG ISOLATED FORM d FINAL FORM d INITIAL
   FORM d MEDIAL FORM c U ISOLATED FORM d FINAL FORM c OE ISOLATED FORM d FINAL FORM c YU
   ISOLATED FORM d FINAL FORM c U WITH HAMZA ABOVE ISOLATED FORM c VE ISOLATED FORM d FINAL FORM
   c KIRGHIZ OE ISOLATED FORM e FINAL FORM d YU ISOLATED FORM e FINAL FORM c E ISOLATED FORM d
   FINAL FORM d INITIAL FORM d MEDIAL FORM c UIGHUR KAZAKH KIRGHIZ ALEF MAKSURA INITIAL FORM h
   MEDIAL FORM b LIGATURE YEH WITH HAMZA ABOVE WITH ALEF ISOLATED FORM i FINAL FORM h AE ISOLATED
   FORM i FINAL FORM h WAW ISOLATED FORM i FINAL FORM h U ISOLATED FORM i FINAL FORM h OE
   ISOLATED FORM i FINAL FORM h YU ISOLATED FORM i FINAL FORM h E ISOLATED FORM i FINAL FORM i
   INITIAL FORM c UIGHUR KIRGHIZ YEH WITH HAMZA ABOVE WITH ALEF MAKSURA ISOLATED FORM l FINAL
   FORM l INITIAL FORM b LETTER FARSI YEH ISOLATED FORM e FINAL FORM e INITIAL FORM e MEDIAL FORM
   b LIGATURE YEH WITH HAMZA ABOVE WITH JEEM ISOLATED FORM h HAH ISOLATED FORM h MEEM ISOLATED
   FORM h ALEF MAKSURA ISOLATED FORM h YEH ISOLATED FORM c BEH WITH JEEM ISOLATED FORM e HAH
   ISOLATED FORM e KHAH ISOLATED FORM e MEEM ISOLATED FORM e ALEF MAKSURA ISOLATED FORM e YEH
   ISOLATED FORM c TEH WITH JEEM ISOLATED FORM e HAH ISOLATED FORM e KHAH ISOLATED FORM e MEEM
   ISOLATED FORM e ALEF MAKSURA ISOLATED FORM e YEH ISOLATED FORM c THEH WITH JEEM ISOLATED FORM
   e MEEM ISOLATED FORM e ALEF MAKSURA ISOLATED FORM e YEH ISOLATED FORM c JEEM WITH HAH ISOLATED
   FORM e MEEM ISOLATED FORM c HAH WITH JEEM ISOLATED FORM e MEEM ISOLATED FORM c KHAH WITH JEEM
   ISOLATED FORM e HAH ISOLATED FORM e MEEM ISOLATED FORM c SEEN WITH JEEM ISOLATED FORM e HAH
   ISOLATED FORM e KHAH ISOLATED FORM e MEEM ISOLATED FORM c SAD WITH HAH ISOLATED FORM e MEEM
   ISOLATED FORM c DAD WITH JEEM ISOLATED FORM e HAH ISOLATED FORM e KHAH ISOLATED FORM e MEEM
   ISOLATED FORM c TAH WITH HAH ISOLATED FORM e MEEM ISOLATED FORM c ZAH WITH MEEM ISOLATED FORM
   c AIN WITH JEEM ISOLATED FORM e MEEM ISOLATED FORM c GHAIN WITH JEEM ISOLATED FORM e MEEM
   ISOLATED FORM c FEH WITH JEEM ISOLATED FORM e HAH ISOLATED FORM e KHAH ISOLATED FORM e MEEM
   ISOLATED FORM e ALEF MAKSURA ISOLATED FORM e YEH ISOLATED FORM c QAF WITH HAH ISOLATED FORM e
   MEEM ISOLATED FORM e ALEF MAKSURA ISOLATED FORM e YEH ISOLATED FORM c KAF WITH ALEF ISOLATED
   FORM e JEEM ISOLATED FORM e HAH ISOLATED FORM e KHAH ISOLATED FORM e LAM ISOLATED FORM e MEEM
   ISOLATED FORM e ALEF MAKSURA ISOLATED FORM e YEH ISOLATED FORM c LAM WITH JEEM ISOLATED FORM e
   HAH ISOLATED FORM e KHAH ISOLATED FORM e MEEM ISOLATED FORM e ALEF MAKSURA ISOLATED FORM e YEH
   ISOLATED FORM c MEEM WITH JEEM ISOLATED FORM e HAH ISOLATED FORM e KHAH ISOLATED FORM e MEEM
   ISOLATED FORM e ALEF MAKSURA ISOLATED FORM e YEH ISOLATED FORM c NOON WITH JEEM ISOLATED FORM
   e HAH ISOLATED FORM e KHAH ISOLATED FORM e MEEM ISOLATED FORM e ALEF MAKSURA ISOLATED FORM e
   YEH ISOLATED FORM c HEH WITH JEEM ISOLATED FORM e MEEM ISOLATED FORM e ALEF MAKSURA ISOLATED
   FORM e YEH ISOLATED FORM c YEH WITH JEEM ISOLATED FORM e HAH ISOLATED FORM e KHAH ISOLATED
   FORM e MEEM ISOLATED FORM e ALEF MAKSURA ISOLATED FORM e YEH ISOLATED FORM c THAL WITH
   SUPERSCRIPT ALEF ISOLATED FORM c REH WITH SUPERSCRIPT ALEF ISOLATED FORM c ALEF MAKSURA WITH
   SUPERSCRIPT ALEF ISOLATED FORM c SHADDA WITH DAMMATAN ISOLATED FORM e KASRATAN ISOLATED FORM e
   FATHA ISOLATED FORM e DAMMA ISOLATED FORM e KASRA ISOLATED FORM e SUPERSCRIPT ALEF ISOLATED
   FORM c YEH WITH HAMZA ABOVE WITH REH FINAL FORM h ZAIN FINAL FORM h MEEM FINAL FORM h NOON
   FINAL FORM h ALEF MAKSURA FINAL FORM h YEH FINAL FORM c BEH WITH REH FINAL FORM e ZAIN FINAL
   FORM e MEEM FINAL FORM e NOON FINAL FORM e ALEF MAKSURA FINAL FORM e YEH FINAL FORM c TEH WITH
   REH FINAL FORM e ZAIN FINAL FORM e MEEM FINAL FORM e NOON FINAL FORM e ALEF MAKSURA FINAL FORM
   e YEH FINAL FORM c THEH WITH REH FINAL FORM e ZAIN FINAL FORM e MEEM FINAL FORM e NOON FINAL
   FORM e ALEF MAKSURA FINAL FORM e YEH FINAL FORM c FEH WITH ALEF MAKSURA FINAL FORM e YEH FINAL
   FORM c QAF WITH ALEF MAKSURA FINAL FORM e YEH FINAL FORM c KAF WITH ALEF FINAL FORM e LAM
   FINAL FORM e MEEM FINAL FORM e ALEF MAKSURA FINAL FORM e YEH FINAL FORM c LAM WITH MEEM FINAL
   FORM e ALEF MAKSURA FINAL FORM e YEH FINAL FORM c MEEM WITH ALEF FINAL FORM e MEEM FINAL FORM
   c NOON WITH REH FINAL FORM e ZAIN FINAL FORM e MEEM FINAL FORM e NOON FINAL FORM e ALEF
   MAKSURA FINAL FORM e YEH FINAL FORM c ALEF MAKSURA WITH SUPERSCRIPT ALEF FINAL FORM c YEH WITH
   REH FINAL FORM e ZAIN FINAL FORM e MEEM FINAL FORM e NOON FINAL FORM e ALEF MAKSURA FINAL FORM
   e YEH FINAL FORM e HAMZA ABOVE WITH JEEM INITIAL FORM h HAH INITIAL FORM h KHAH INITIAL FORM h
   MEEM INITIAL FORM h HEH INITIAL FORM c BEH WITH JEEM INITIAL FORM e HAH INITIAL FORM e KHAH
   INITIAL FORM e MEEM INITIAL FORM e HEH INITIAL FORM c TEH WITH JEEM INITIAL FORM e HAH INITIAL
   FORM e KHAH INITIAL FORM e MEEM INITIAL FORM e HEH INITIAL FORM c THEH WITH MEEM INITIAL FORM
   c JEEM WITH HAH INITIAL FORM e MEEM INITIAL FORM c HAH WITH JEEM INITIAL FORM e MEEM INITIAL
   FORM c KHAH WITH JEEM INITIAL FORM e MEEM INITIAL FORM c SEEN WITH JEEM INITIAL FORM e HAH
   INITIAL FORM e KHAH INITIAL FORM e MEEM INITIAL FORM c SAD WITH HAH INITIAL FORM e KHAH
   INITIAL FORM e MEEM INITIAL FORM c DAD WITH JEEM INITIAL FORM e HAH INITIAL FORM e KHAH
   INITIAL FORM e MEEM INITIAL FORM c TAH WITH HAH INITIAL FORM c ZAH WITH MEEM INITIAL FORM c
   AIN WITH JEEM INITIAL FORM e MEEM INITIAL FORM c GHAIN WITH JEEM INITIAL FORM e MEEM INITIAL
   FORM c FEH WITH JEEM INITIAL FORM e HAH INITIAL FORM e KHAH INITIAL FORM e MEEM INITIAL FORM c
   QAF WITH HAH INITIAL FORM e MEEM INITIAL FORM c KAF WITH JEEM INITIAL FORM e HAH INITIAL FORM
   e KHAH INITIAL FORM e LAM INITIAL FORM e MEEM INITIAL FORM c LAM WITH JEEM INITIAL FORM e HAH
   INITIAL FORM e KHAH INITIAL FORM e MEEM INITIAL FORM e HEH INITIAL FORM c MEEM WITH JEEM
   INITIAL FORM e HAH INITIAL FORM e KHAH INITIAL FORM e MEEM INITIAL FORM c NOON WITH JEEM
   INITIAL FORM e HAH INITIAL FORM e KHAH INITIAL FORM e MEEM INITIAL FORM e HEH INITIAL FORM c
   HEH WITH JEEM INITIAL FORM e MEEM INITIAL FORM e SUPERSCRIPT ALEF INITIAL FORM c YEH WITH JEEM
   INITIAL FORM e HAH INITIAL FORM e KHAH INITIAL FORM e MEEM INITIAL FORM e HEH INITIAL FORM e
   HAMZA ABOVE WITH MEEM MEDIAL FORM h HEH MEDIAL FORM c BEH WITH MEEM MEDIAL FORM e HEH MEDIAL
   FORM c TEH WITH MEEM MEDIAL FORM e HEH MEDIAL FORM c THEH WITH MEEM MEDIAL FORM e HEH MEDIAL
   FORM c SEEN WITH MEEM MEDIAL FORM e HEH MEDIAL FORM c SHEEN WITH MEEM MEDIAL FORM e HEH MEDIAL
   FORM c KAF WITH LAM MEDIAL FORM e MEEM MEDIAL FORM c LAM WITH MEEM MEDIAL FORM c NOON WITH
   MEEM MEDIAL FORM e HEH MEDIAL FORM c YEH WITH MEEM MEDIAL FORM e HEH MEDIAL FORM c SHADDA WITH
   FATHA MEDIAL FORM e DAMMA MEDIAL FORM e KASRA MEDIAL FORM c TAH WITH ALEF MAKSURA ISOLATED
   FORM e YEH ISOLATED FORM c AIN WITH ALEF MAKSURA ISOLATED FORM e YEH ISOLATED FORM c GHAIN
   WITH ALEF MAKSURA ISOLATED FORM e YEH ISOLATED FORM c SEEN WITH ALEF MAKSURA ISOLATED FORM e
   YEH ISOLATED FORM c SHEEN WITH ALEF MAKSURA ISOLATED FORM e YEH ISOLATED FORM c HAH WITH ALEF
   MAKSURA ISOLATED FORM e YEH ISOLATED FORM c JEEM WITH ALEF MAKSURA ISOLATED FORM e YEH
   ISOLATED FORM c KHAH WITH ALEF MAKSURA ISOLATED FORM e YEH ISOLATED FORM c SAD WITH ALEF
   MAKSURA ISOLATED FORM e YEH ISOLATED FORM c DAD WITH ALEF MAKSURA ISOLATED FORM e YEH ISOLATED
   FORM c SHEEN WITH JEEM ISOLATED FORM e HAH ISOLATED FORM e KHAH ISOLATED FORM e MEEM ISOLATED
   FORM e REH ISOLATED FORM c SEEN WITH REH ISOLATED FORM c SAD WITH REH ISOLATED FORM c DAD WITH
   REH ISOLATED FORM c TAH WITH ALEF MAKSURA FINAL FORM e YEH FINAL FORM c AIN WITH ALEF MAKSURA
   FINAL FORM e YEH FINAL FORM c GHAIN WITH ALEF MAKSURA FINAL FORM e YEH FINAL FORM c SEEN WITH
   ALEF MAKSURA FINAL FORM e YEH FINAL FORM c SHEEN WITH ALEF MAKSURA FINAL FORM e YEH FINAL FORM
   c HAH WITH ALEF MAKSURA FINAL FORM e YEH FINAL FORM c JEEM WITH ALEF MAKSURA FINAL FORM e YEH
   FINAL FORM c KHAH WITH ALEF MAKSURA FINAL FORM e YEH FINAL FORM c SAD WITH ALEF MAKSURA FINAL
   FORM e YEH FINAL FORM c DAD WITH ALEF MAKSURA FINAL FORM e YEH FINAL FORM c SHEEN WITH JEEM
   FINAL FORM e HAH FINAL FORM e KHAH FINAL FORM e MEEM FINAL FORM e REH FINAL FORM c SEEN WITH
   REH FINAL FORM c SAD WITH REH FINAL FORM c DAD WITH REH FINAL FORM c SHEEN WITH JEEM INITIAL
   FORM e HAH INITIAL FORM e KHAH INITIAL FORM e MEEM INITIAL FORM c SEEN WITH HEH INITIAL FORM c
   SHEEN WITH HEH INITIAL FORM c TAH WITH MEEM INITIAL FORM c SEEN WITH JEEM MEDIAL FORM e HAH
   MEDIAL FORM e KHAH MEDIAL FORM c SHEEN WITH JEEM MEDIAL FORM e HAH MEDIAL FORM e KHAH MEDIAL
   FORM c TAH WITH MEEM MEDIAL FORM c ZAH WITH MEEM MEDIAL FORM c ALEF WITH FATHATAN FINAL FORM f
   ISOLATED FORM a ORNATE LEFT PARENTHESIS b RIGHT PARENTHESIS a ARABIC LIGATURE RAHIMAHU ALLAAH
   c RADI ALLAAHU ANH e ANHAA e ANHUM e ANHUMAA e ANHUNNA c SALLALLAAHU ALAYHI WA-AALIH c ALAYHI
   AS-SALAAM c ALAYHIM AS-SALAAM c ALAYHIMAA AS-SALAAM c ALAYHI AS-SALAATU WAS-SALAAM c QUDDISA
   SIRRAH c SALLALLAHU ALAYHI WAAALIHEE WA-SALLAM c ALAYHAA AS-SALAAM c TABAARAKA WA-TAAALAA c
   RAHIMAHUM ALLAAH c TEH WITH JEEM WITH MEEM INITIAL FORM e HAH WITH JEEM FINAL FORM h INITIAL
   FORM g MEEM INITIAL FORM e KHAH WITH MEEM INITIAL FORM e MEEM WITH JEEM INITIAL FORM g HAH
   INITIAL FORM g KHAH INITIAL FORM c JEEM WITH MEEM WITH HAH FINAL FORM h INITIAL FORM c HAH
   WITH MEEM WITH YEH FINAL FORM g ALEF MAKSURA FINAL FORM c SEEN WITH HAH WITH JEEM INITIAL FORM
   e JEEM WITH HAH INITIAL FORM g ALEF MAKSURA FINAL FORM e MEEM WITH HAH FINAL FORM h INITIAL
   FORM g JEEM INITIAL FORM g MEEM FINAL FORM h INITIAL FORM c SAD WITH HAH WITH HAH FINAL FORM h
   INITIAL FORM e MEEM WITH MEEM FINAL FORM c SHEEN WITH HAH WITH MEEM FINAL FORM h INITIAL FORM
   e JEEM WITH YEH FINAL FORM e MEEM WITH KHAH FINAL FORM h INITIAL FORM g MEEM FINAL FORM h
   INITIAL FORM c DAD WITH HAH WITH ALEF MAKSURA FINAL FORM e KHAH WITH MEEM FINAL FORM h INITIAL
   FORM c TAH WITH MEEM WITH HAH FINAL FORM h INITIAL FORM g MEEM INITIAL FORM g YEH FINAL FORM c
   AIN WITH JEEM WITH MEEM FINAL FORM e MEEM WITH MEEM FINAL FORM h INITIAL FORM g ALEF MAKSURA
   FINAL FORM c GHAIN WITH MEEM WITH MEEM FINAL FORM g YEH FINAL FORM g ALEF MAKSURA FINAL FORM c
   FEH WITH KHAH WITH MEEM FINAL FORM h INITIAL FORM c QAF WITH MEEM WITH HAH FINAL FORM g MEEM
   FINAL FORM c LAM WITH HAH WITH MEEM FINAL FORM g YEH FINAL FORM g ALEF MAKSURA FINAL FORM e
   JEEM WITH JEEM INITIAL FORM h FINAL FORM e KHAH WITH MEEM FINAL FORM h INITIAL FORM e MEEM
   WITH HAH FINAL FORM h INITIAL FORM c MEEM WITH HAH WITH JEEM INITIAL FORM g MEEM INITIAL FORM
   g YEH FINAL FORM e JEEM WITH HAH INITIAL FORM g MEEM INITIAL FORM e KHAH WITH JEEM INITIAL
   FORM g MEEM INITIAL FORM eFD92 JEEM WITH KHAH INITIAL FORM c HEH WITH MEEM WITH JEEM INITIAL
   FORM g MEEM INITIAL FORM c NOON WITH HAH WITH MEEM INITIAL FORM g ALEF MAKSURA FINAL FORM e
   JEEM WITH MEEM FINAL FORM h INITIAL FORM g ALEF MAKSURA FINAL FORM e MEEM WITH YEH FINAL FORM
   g ALEF MAKSURA FINAL FORM c YEH WITH MEEM WITH MEEM FINAL FORM h INITIAL FORM c BEH WITH KHAH
   WITH YEH FINAL FORM c TEH WITH JEEM WITH YEH FINAL FORM g ALEF MAKSURA FINAL FORM e KHAH WITH
   YEH FINAL FORM g ALEF MAKSURA FINAL FORM e MEEM WITH YEH FINAL FORM g ALEF MAKSURA FINAL FORM
   c JEEM WITH MEEM WITH YEH FINAL FORM e HAH WITH ALEF MAKSURA FINAL FORM e MEEM WITH ALEF
   MAKSURA FINAL FORM c SEEN WITH KHAH WITH ALEF MAKSURA FINAL FORM c SAD WITH HAH WITH YEH FINAL
   FORM c SHEEN WITH HAH WITH YEH FINAL FORM c DAD WITH HAH WITH YEH FINAL FORM c LAM WITH JEEM
   WITH YEH FINAL FORM e MEEM WITH YEH FINAL FORM c YEH WITH HAH WITH YEH FINAL FORM e JEEM WITH
   YEH FINAL FORM e MEEM WITH YEH FINAL FORM c MEEM WITH MEEM WITH YEH FINAL FORM c QAF WITH MEEM
   WITH YEH FINAL FORM c NOON WITH HAH WITH YEH FINAL FORM c QAF WITH MEEM WITH HAH INITIAL FORM
   c LAM WITH HAH WITH MEEM INITIAL FORM c AIN WITH MEEM WITH YEH FINAL FORM c KAF WITH MEEM WITH
   YEH FINAL FORM c NOON WITH JEEM WITH HAH INITIAL FORM c MEEM WITH KHAH WITH YEH FINAL FORM c
   LAM WITH JEEM WITH MEEM INITIAL FORM c KAF WITH MEEM WITH MEEM FINAL FORM c LAM WITH JEEM WITH
   MEEM FINAL FORM c NOON WITH JEEM WITH HAH FINAL FORM c JEEM WITH HAH WITH YEH FINAL FORM c HAH
   WITH JEEM WITH YEH FINAL FORM c MEEM WITH JEEM WITH YEH FINAL FORM c FEH WITH MEEM WITH YEH
   FINAL FORM c BEH WITH HAH WITH YEH FINAL FORM c KAF WITH MEEM WITH MEEM INITIAL FORM c AIN
   WITH JEEM WITH MEEM INITIAL FORM c SAD WITH MEEM WITH MEEM INITIAL FORM c SEEN WITH KHAH WITH
   YEH FINAL FORM c NOON WITH JEEM WITH YEH FINAL FORM cFDCF SALAAMUHU ALAYNAA cFDF0 SALLA USED
   AS KORANIC STOP SIGN ISOLATED FORM c QALA USED AS KORANIC STOP SIGN ISOLATED FORM c ALLAH
   ISOLATED FORM c AKBAR ISOLATED FORM c MOHAMMAD ISOLATED FORM c SALAM ISOLATED FORM c RASOUL
   ISOLATED FORM c ALAYHE ISOLATED FORM c WASALLAM ISOLATED FORM c SALLA ISOLATED FORM c
   SALLALLAHOU ALAYHE WASALLAM c JALLAJALALOUHOU a RIAL SIGN a ARABIC LIGATURE BISMILLAH
   AR-RAHMAN AR-RAHEEM c SUBHAANAHU WA TAAALAA c AZZA WA JALL a VARIATION SELECTOR-1 b SELECTOR-2
   b SELECTOR-3 b SELECTOR-4 b SELECTOR-5 b SELECTOR-6 b SELECTOR-7 b SELECTOR-8 b SELECTOR-9 b
   SELECTOR-10 b SELECTOR-11 b SELECTOR-12 b SELECTOR-13 b SELECTOR-14 b SELECTOR-15 b
   SELECTOR-16 a PRESENTATION FORM FOR VERTICAL COMMA e IDEOGRAPHIC COMMA f FULL STOP e COLON e
   SEMICOLON e EXCLAMATION MARK e QUESTION MARK e LEFT WHITE LENTICULAR BRACKET e RIGHT WHITE
   LENTICULAR BRAKCET e HORIZONTAL ELLIPSIS aFE20 COMBINING LIGATURE LEFT HALF c RIGHT HALF b
   DOUBLE TILDE LEFT HALF d RIGHT HALF b MACRON LEFT HALF c RIGHT HALF b CONJOINING MACRON b
   LIGATURE LEFT HALF BELOW c RIGHT HALF BELOW b TILDE LEFT HALF BELOW c RIGHT HALF BELOW b
   MACRON LEFT HALF BELOW c RIGHT HALF BELOW b CONJOINING MACRON BELOW b CYRILLIC TITLO LEFT HALF
   d RIGHT HALF a PRESENTATION FORM FOR VERTICAL TWO DOT LEADER e EM DASH e EN DASH e LOW LINE e
   WAVY LOW LINE e LEFT PARENTHESIS e RIGHT PARENTHESIS e LEFT CURLY BRACKET e RIGHT CURLY
   BRACKET e LEFT TORTOISE SHELL BRACKET e RIGHT TORTOISE SHELL BRACKET e LEFT BLACK LENTICULAR
   BRACKET e RIGHT BLACK LENTICULAR BRACKET e LEFT DOUBLE ANGLE BRACKET e RIGHT DOUBLE ANGLE
   BRACKET e LEFT ANGLE BRACKET e RIGHT ANGLE BRACKET e LEFT CORNER BRACKET e RIGHT CORNER
   BRACKET e LEFT WHITE CORNER BRACKET e RIGHT WHITE CORNER BRACKET a SESAME DOT a WHITE SESAME
   DOT a PRESENTATION FORM FOR VERTICAL LEFT SQUARE BRACKET e RIGHT SQUARE BRACKET a DASHED
   OVERLINE a CENTRELINE OVERLINE a WAVY OVERLINE a DOUBLE WAVY OVERLINE a DASHED LOW LINE a
   CENTRELINE LOW LINE a WAVY LOW LINE a SMALL COMMA b IDEOGRAPHIC COMMA b FULL STOP bFE54
   SEMICOLON b COLON b QUESTION MARK b EXCLAMATION MARK b EM DASH b LEFT PARENTHESIS b RIGHT
   PARENTHESIS b LEFT CURLY BRACKET b RIGHT CURLY BRACKET b LEFT TORTOISE SHELL BRACKET b RIGHT
   TORTOISE SHELL BRACKET b NUMBER SIGN b AMPERSAND b ASTERISK b PLUS SIGN b HYPHEN-MINUS b
   LESS-THAN SIGN b GREATER-THAN SIGN b EQUALS SIGN bFE68 REVERSE SOLIDUS b DOLLAR SIGN b PERCENT
   SIGN b COMMERCIAL AT aFE70 ARABIC FATHATAN ISOLATED FORM b TATWEEL WITH FATHATAN ABOVE b
   DAMMATAN ISOLATED FORM b TAIL FRAGMENT b KASRATAN ISOLATED FORM bFE76 FATHA ISOLATED FORM c
   MEDIAL FORM b DAMMA ISOLATED FORM c MEDIAL FORM b KASRA ISOLATED FORM c MEDIAL FORM b SHADDA
   ISOLATED FORM c MEDIAL FORM b SUKUN ISOLATED FORM c MEDIAL FORM b LETTER HAMZA ISOLATED FORM c
   ALEF WITH MADDA ABOVE ISOLATED FORM g FINAL FORM e HAMZA ABOVE ISOLATED FORM g FINAL FORM c
   WAW WITH HAMZA ABOVE ISOLATED FORM g FINAL FORM c ALEF WITH HAMZA BELOW ISOLATED FORM g FINAL
   FORM c YEH WITH HAMZA ABOVE ISOLATED FORM g FINAL FORM g INITIAL FORM g MEDIAL FORM c ALEF
   ISOLATED FORM d FINAL FORM c BEH ISOLATED FORM d FINAL FORM d INITIAL FORM d MEDIAL FORM c TEH
   MARBUTA ISOLATED FORM e FINAL FORM d ISOLATED FORM d FINAL FORM d INITIAL FORM d MEDIAL FORM c
   THEH ISOLATED FORM d FINAL FORM d INITIAL FORM d MEDIAL FORM c JEEM ISOLATED FORM d FINAL FORM
   d INITIAL FORM d MEDIAL FORM c HAH ISOLATED FORM d FINAL FORM d INITIAL FORM d MEDIAL FORM c
   KHAH ISOLATED FORM d FINAL FORM d INITIAL FORM d MEDIAL FORM c DAL ISOLATED FORM d FINAL FORM
   c THAL ISOLATED FORM d FINAL FORM c REH ISOLATED FORM d FINAL FORM c ZAIN ISOLATED FORM d
   FINAL FORM c SEEN ISOLATED FORM d FINAL FORM d INITIAL FORM d MEDIAL FORM c SHEEN ISOLATED
   FORM d FINAL FORM d INITIAL FORM d MEDIAL FORM c SAD ISOLATED FORM d FINAL FORM d INITIAL FORM
   d MEDIAL FORM c DAD ISOLATED FORM d FINAL FORM d INITIAL FORM d MEDIAL FORM c TAH ISOLATED
   FORM d FINAL FORM d INITIAL FORM d MEDIAL FORM c ZAH ISOLATED FORM d FINAL FORM d INITIAL FORM
   d MEDIAL FORM c AIN ISOLATED FORM d FINAL FORM d INITIAL FORM d MEDIAL FORM c GHAIN ISOLATED
   FORM d FINAL FORM d INITIAL FORM d MEDIAL FORM c FEH ISOLATED FORM d FINAL FORM d INITIAL FORM
   d MEDIAL FORM c QAF ISOLATED FORM d FINAL FORM d INITIAL FORM d MEDIAL FORM c KAF ISOLATED
   FORM d FINAL FORM d INITIAL FORM d MEDIAL FORM c LAM ISOLATED FORM d FINAL FORM d INITIAL FORM
   d MEDIAL FORM c MEEM ISOLATED FORM d FINAL FORM d INITIAL FORM d MEDIAL FORM c NOON ISOLATED
   FORM d FINAL FORM d INITIAL FORM d MEDIAL FORM c HEH ISOLATED FORM d FINAL FORM d INITIAL FORM
   d MEDIAL FORM c WAW ISOLATED FORM d FINAL FORM c ALEF MAKSURA ISOLATED FORM e FINAL FORM c YEH
   ISOLATED FORM d FINAL FORM d INITIAL FORM d MEDIAL FORM b LIGATURE LAM WITH ALEF WITH MADDA
   ABOVE ISOLATED FORM i FINAL FORM g HAMZA ABOVE ISOLATED FORM i FINAL FORM h BELOW ISOLATED
   FORM i FINAL FORM f ISOLATED FORM f FINAL FORM aFEFF ZERO WIDTH NO-BREAK SPACE aFF01 FULLWIDTH
   EXCLAMATION MARK b QUOTATION MARK b NUMBER SIGN b DOLLAR SIGN b PERCENT SIGN b AMPERSAND b
   APOSTROPHE b LEFT PARENTHESIS b RIGHT PARENTHESIS b ASTERISK b PLUS SIGN b COMMA b
   HYPHEN-MINUS b FULL STOP b SOLIDUS b DIGIT ZERO c ONE c TWO c THREE c FOUR c FIVE c SIX c
   SEVEN c EIGHT c NINE b COLON b SEMICOLON b LESS-THAN SIGN b EQUALS SIGN b GREATER-THAN SIGN b
   QUESTION MARK b COMMERCIAL AT b LATIN CAPITAL LETTER A e B e C e D e E e F e G e H e I e J e K
   e L e M e N e O e P e Q e R e S e T e U e V e W e X e Y e Z b LEFT SQUARE BRACKET b REVERSE
   SOLIDUS b RIGHT SQUARE BRACKET b CIRCUMFLEX ACCENT b LOW LINE b GRAVE ACCENT b LATIN SMALL
   LETTER A e B e C e D e E e F e G e H e I e J e K e L e M e N e O e P e Q e R e S e T e U e V e
   W e X e Y e Z b LEFT CURLY BRACKET b VERTICAL LINE b RIGHT CURLY BRACKET b TILDE b LEFT WHITE
   PARENTHESIS b RIGHT WHITE PARENTHESIS a HALFWIDTH IDEOGRAPHIC FULL STOP b LEFT CORNER BRACKET
   b RIGHT CORNER BRACKET b IDEOGRAPHIC COMMA b KATAKANA MIDDLE DOT c LETTER WO d SMALL A e I e U
   e E e O e YA e YU e YO e TU b KATAKANA-HIRAGANA PROLONGED SOUND MARK b KATAKANA LETTER A d I d
   U d E d O d KA d KI d KU d KE d KO d SA d SI d SU d SE d SO d TA d TI d TU d TE d TO d NA d NI
   d NU d NE d NO d HA d HI d HU d HE d HO d MA d MI d MU d ME d MO d YA d YU d YO d RA d RI d RU
   d RE d RO d WA d N c VOICED SOUND MARK c SEMI-VOICED SOUND MARK b HANGUL FILLER c LETTER
   KIYEOK d SSANGKIYEOK d KIYEOK-SIOS d NIEUN d NIEUN-CIEUC d NIEUN-HIEUH d TIKEUT d SSANGTIKEUT
   d RIEUL d RIEUL-KIYEOK d RIEUL-MIEUM d RIEUL-PIEUP d RIEUL-SIOS d RIEUL-THIEUTH d
   RIEUL-PHIEUPH d RIEUL-HIEUH d MIEUM d PIEUP d SSANGPIEUP d PIEUP-SIOS d SIOS d SSANGSIOS d
   IEUNG d CIEUC d SSANGCIEUC d CHIEUCH d KHIEUKH d THIEUTH d PHIEUPH d HIEUH dFFC2 A d AE d YA d
   YAE d EO d E dFFCA YEO d YE d O d WA d WAE d OE dFFD2 YO d U d WEO d WE d WI d YU dFFDA EU d
   YI d I aFFE0 FULLWIDTH CENT SIGN b POUND SIGN b NOT SIGN b MACRON b BROKEN BAR b YEN SIGN b
   WON SIGN aFFE8 HALFWIDTH FORMS LIGHT VERTICAL b LEFTWARDS ARROW b UPWARDS ARROW b RIGHTWARDS
   ARROW b DOWNWARDS ARROW b BLACK SQUARE b WHITE CIRCLE aFFF9 INTERLINEAR ANNOTATION ANCHOR c
   SEPARATOR c TERMINATOR a OBJECT REPLACEMENT CHARACTER a REPLACEMENT CHARACTER"

end MarkupAudit.CharacterName
