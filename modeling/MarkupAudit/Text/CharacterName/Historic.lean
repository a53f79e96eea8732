/-!
# Names of characters: historic

A table of the scripts from U+10000 on, most of them historic. An entry starts with a small letter,
which says how many words of the name before it the name shares: none for `a`. A code point follows
the letter unless it is one more than that of the entry before.
-/

namespace MarkupAudit.CharacterName

/-- The names of the scripts from U+10000 on, most of them historic. -/
def historic : String :=
  "a10000 LINEAR B SYLLABLE B008 A d B038 E d B028 I d B061 O d B010 U d B001 DA d B045 DE d B007
   DI d B014 DO d B051 DU d B057 JA d B046 JE d1000D B036 JO d B065 JU d B077 KA d B044 KE d B067
   KI d B070 KO d B081 KU d B080 MA d B013 ME d B073 MI d B015 MO d B023 MU d B006 NA d B024 NE d
   B030 NI d B052 NO d B055 NU d B003 PA d B072 PE d B039 PI d B011 PO d B050 PU d B016 QA d B078
   QE d B021 QI d B032 QO d10028 B060 RA d B027 RE d B053 RI d B002 RO d B026 RU d B031 SA d B009
   SE d B041 SI d B012 SO d B058 SU d B059 TA d B004 TE d B037 TI d B005 TO d B069 TU d B054 WA d
   B075 WE d B040 WI d B042 WO d1003C B017 ZA d B074 ZE d1003F B020 ZO d B025 A2 d B043 A3 d B085
   AU d B071 DWE d B090 DWO d B048 NWA d B029 PU2 d B062 PTE d B076 RA2 d B033 RA3 d B068 RO2 d
   B066 TA2 d B087 TWE d B091 TWO c10050 SYMBOL B018 d B019 d B022 d B034 d B047 d B049 d B056 d
   B063 d B064 d B079 d B082 d B083 d B086 d B089 c10080 IDEOGRAM B100 MAN d B102 WOMAN d B104
   DEER d B105 EQUID d B105F MARE d B105M STALLION d B106F EWE d B106M RAM d B107F SHE-GOAT d
   B107M HE-GOAT d B108F SOW d B108M BOAR d B109F COW d B109M BULL d B120 WHEAT d B121 BARLEY d
   B122 OLIVE d B123 SPICE d B125 CYPERUS c MONOGRAM B127 KAPO d B128 KANAKO c IDEOGRAM B130 OIL
   d B131 WINE d B132 c MONOGRAM B133 AREPA d B135 MERI c IDEOGRAM B140 BRONZE d B141 GOLD d B142
   d B145 WOOL d B146 d B150 d B151 HORN d B152 d B153 d B154 c MONOGRAM B156 TURO2 c IDEOGRAM
   B157 d B158 d B159 CLOTH d B160 d B161 d B162 GARMENT d B163 ARMOUR d B164 d B165 d B166 d
   B167 d B168 d B169 d B170 d B171 d B172 d B173 MONTH d B174 d B176 TREE d B177 d B178 d B179 d
   B180 d B181 d B182 d B183 d B184 d B185 d B189 d B190 d B191 HELMET d B220 FOOTSTOOL d B225
   BATHTUB d B230 SPEAR d B231 ARROW d B232 d B233 SWORD d B234 d B236 d B240 WHEELED CHARIOT d
   B241 CHARIOT d B242 CHARIOT FRAME d B243 WHEEL d B245 d B246 c MONOGRAM B247 DIPTE c IDEOGRAM
   B248 d B249 d B251 d B252 d B253 d B254 DART d B255 d B256 d B257 d B258 d B259 d VESSEL B155
   e B200 e B201 e B202 e B203 e B204 e B205 e B206 e B207 e B208 e B209 e B210 e B211 e B212 e
   B213 e B214 e B215 e B216 e B217 e B218 e B219 e B221 e B222 e B226 e B227 e B228 e B229 e
   B250 e B305 a10100 AEGEAN WORD SEPARATOR LINE d DOT b CHECK MARK b10107 NUMBER ONE c TWO c
   THREE c FOUR c FIVE c SIX c SEVEN c EIGHT c NINE c TEN c TWENTY c THIRTY c FORTY c FIFTY c
   SIXTY c SEVENTY c EIGHTY c NINETY c ONE HUNDRED c TWO HUNDRED c THREE HUNDRED c FOUR HUNDRED c
   FIVE HUNDRED c SIX HUNDRED c SEVEN HUNDRED c EIGHT HUNDRED c NINE HUNDRED c ONE THOUSAND c TWO
   THOUSAND c THREE THOUSAND c FOUR THOUSAND c FIVE THOUSAND c SIX THOUSAND c SEVEN THOUSAND c
   EIGHT THOUSAND c NINE THOUSAND c TEN THOUSAND c TWENTY THOUSAND c THIRTY THOUSAND c FORTY
   THOUSAND c FIFTY THOUSAND c SIXTY THOUSAND c SEVENTY THOUSAND c EIGHTY THOUSAND c NINETY
   THOUSAND b10137 WEIGHT BASE UNIT c FIRST SUBUNIT c SECOND SUBUNIT c THIRD SUBUNIT c FOURTH
   SUBUNIT b DRY MEASURE FIRST SUBUNIT b LIQUID MEASURE FIRST SUBUNIT b MEASURE SECOND SUBUNIT c
   THIRD SUBUNIT a GREEK ACROPHONIC ATTIC ONE QUARTER e HALF e DRACHMA d FIVE d FIFTY d FIVE
   HUNDRED e THOUSAND d FIFTY THOUSAND d FIVE TALENTS d TEN TALENTS d FIFTY TALENTS d ONE HUNDRED
   TALENTS d FIVE HUNDRED TALENTS d ONE THOUSAND TALENTS d FIVE THOUSAND TALENTS e STATERS d TEN
   STATERS d FIFTY STATERS d ONE HUNDRED STATERS d FIVE HUNDRED STATERS d ONE THOUSAND STATERS d
   TEN THOUSAND STATERS d FIFTY THOUSAND STATERS d TEN MNAS c HERAEUM ONE PLETHRON c THESPIAN ONE
   c HERMIONIAN ONE c EPIDAUREAN TWO c THESPIAN TWO c CYRENAIC TWO DRACHMAS c EPIDAUREAN TWO
   DRACHMAS c TROEZENIAN FIVE d TEN e ALTERNATE FORM c HERMIONIAN TEN c MESSENIAN TEN c THESPIAN
   TEN d THIRTY c TROEZENIAN FIFTY e ALTERNATE FORM c HERMIONIAN FIFTY c THESPIAN FIFTY d ONE
   HUNDRED d THREE HUNDRED c EPIDAUREAN FIVE HUNDRED c TROEZENIAN FIVE HUNDRED c THESPIAN FIVE
   HUNDRED c CARYSTIAN FIVE HUNDRED c NAXIAN FIVE HUNDRED c THESPIAN ONE THOUSAND d FIVE THOUSAND
   c DELPHIC FIVE MNAS c STRATIAN FIFTY MNAS b ONE HALF SIGN e ALTERNATE FORM b TWO THIRDS SIGN b
   THREE QUARTERS SIGN b YEAR SIGN b TALENT SIGN b DRACHMA SIGN b OBOL SIGN b TWO OBOLS SIGN b
   THREE OBOLS SIGN b FOUR OBOLS SIGN b FIVE OBOLS SIGN b METRETES SIGN b KYATHOS BASE SIGN b
   LITRA SIGN b OUNKIA SIGN b XESTES SIGN b ARTABE SIGN b AROURA SIGN b GRAMMA SIGN b TRYBLION
   BASE SIGN b ZERO SIGN b ONE QUARTER SIGN b SINUSOID SIGN b INDICTION SIGN a NOMISMA SIGN
   a10190 ROMAN SEXTANS SIGN b UNCIA SIGN b SEMUNCIA SIGN b SEXTULA SIGN b DIMIDIA SEXTULA SIGN b
   SILIQUA SIGN b DENARIUS SIGN b QUINARIUS SIGN b SESTERTIUS SIGN b DUPONDIUS SIGN b AS SIGN b
   CENTURIAL SIGN a ASCIA SYMBOL a101A0 GREEK SYMBOL TAU RHO a101D0 PHAISTOS DISC SIGN PEDESTRIAN
   d PLUMED HEAD d TATTOOED HEAD d CAPTIVE d CHILD d WOMAN d HELMET d GAUNTLET d TIARA d ARROW d
   BOW d SHIELD d CLUB d MANACLES d MATTOCK d SAW d LID d BOOMERANG d CARPENTRY PLANE d DOLIUM d
   COMB d SLING d COLUMN d BEEHIVE d SHIP d HORN d HIDE d BULLS LEG d CAT d RAM d EAGLE d DOVE d
   TUNNY d BEE d PLANE TREE d VINE d PAPYRUS d ROSETTE d LILY d OX BACK d FLUTE d GRATER d
   STRAINER d SMALL AXE d WAVY BAND d COMBINING OBLIQUE STROKE a10280 LYCIAN LETTER A c E c B c
   BH c G c D c I c W c Z c TH c J c K c Q c L c M c N c MM c NN c U c P c KK c R c S c T c TT c
   AN c EN c H c X a102A0 CARIAN LETTER A c P2 c D c L c UUU c R c LD c A2 c Q c B c M c O c D2 c
   T c SH c SH2 c S c C-18 c U c NN c X c N c TT2 c P c SS c I c E c UUUU c K c K2 c ND c UU c G
   c G2 c ST c ST2 c NG c II c C-39 c TT c UUU2 c RR c MB c MB2 c MB3 c MB4 c LD2 c E2 c UUU3
   a102E0 COPTIC EPACT THOUSANDS MARK c DIGIT ONE d TWO d THREE d FOUR d FIVE d SIX d SEVEN d
   EIGHT d NINE c NUMBER TEN d TWENTY d THIRTY d FORTY d FIFTY d SIXTY d SEVENTY d EIGHTY d
   NINETY d ONE HUNDRED d TWO HUNDRED d THREE HUNDRED d FOUR HUNDRED d FIVE HUNDRED d SIX HUNDRED
   d SEVEN HUNDRED d EIGHT HUNDRED d NINE HUNDRED a10300 OLD ITALIC LETTER A d BE d KE d DE d E d
   VE d ZE d HE d THE d I d KA d EL d EM d EN d ESH d O d PE d SHE d KU d ER d ES d TE d U d EKS
   d PHE d KHE d EF d ERS d CHE d II d UU d ESS c NUMERAL ONE d FIVE d TEN d FIFTY c1032D LETTER
   YE d NORTHERN TSE d SOUTHERN TSE a GOTHIC LETTER AHSA c BAIRKAN c GIBA c DAGS c AIHVUS c
   QAIRTHRA c IUJA c HAGL c THIUTH c EIS c KUSMA c LAGUS c MANNA c NAUTHS c JER c URUS c PAIRTHRA
   c NINETY c RAIDA c SAUIL c TEIWS c WINJA c FAIHU c IGGWS c HWAIR c OTHAL c NINE HUNDRED a10350
   OLD PERMIC LETTER AN d BUR d GAI d DOI d E d ZHOI d DZHOI d ZATA d DZITA d I d KOKE d LEI d
   MENOE d NENOE d VOOI d PEEI d REI d SII d TAI d U d CHERY d SHOOI d SHCHOOI d YRY d YERU d O d
   OO d EF d HA d TSIU d VER d YER d YERI d YAT d IE d YU d YA d IA a COMBINING OLD PERMIC LETTER
   AN e DOI e ZATA e NENOE e SII a10380 UGARITIC LETTER ALPA c BETA c GAMLA c KHA c DELTA c HO c
   WO c ZETA c HOTA c TET c YOD c KAF c SHIN c LAMDA c MEM c DHAL c NUN c ZU c SAMKA c AIN c PU c
   SADE c QOPA c RASHA c THANNA c GHAIN c TO c I c U c SSU b1039F WORD DIVIDER a OLD PERSIAN SIGN
   A d I d U d KA d KU d GA d GU d XA d CA d JA d JI d TA d TU d DA d DI d DU d THA d PA d BA d
   FA d NA d NU d MA d MI d MU d YA d VA d VI d RA d RU d LA d SA d ZA d SHA d SSA d HA d103C8
   AURAMAZDAA d AURAMAZDAA-2 d AURAMAZDAAHA d XSHAAYATHIYA d DAHYAAUSH d DAHYAAUSH-2 d BAGA d
   BUUMISH c WORD DIVIDER c NUMBER ONE d TWO d TEN d TWENTY d HUNDRED a10400 DESERET CAPITAL
   LETTER LONG I e E e A e AH e O e OO d SHORT I e E e A e AH e O e OO d AY d OW d WU d YEE d H d
   PEE d BEE d TEE d DEE d CHEE d JEE d KAY d GAY d EF d VEE d ETH d THEE d ES d ZEE d ESH d ZHEE
   d ER d EL d EM d EN d ENG d OI d EW b SMALL LETTER LONG I e E e A e AH e O e OO d SHORT I e E
   e A e AH e O e OO d AY d OW d WU d YEE d H d PEE d BEE d TEE d DEE d CHEE d JEE d KAY d GAY d
   EF d VEE d ETH d THEE d ES d ZEE d ESH d ZHEE d ER d EL d EM d EN d ENG d OI d EW a SHAVIAN
   LETTER PEEP c TOT c KICK c FEE c THIGH c SO c SURE c CHURCH c YEA c HUNG c BIB c DEAD c GAG c
   VOW c THEY c ZOO c MEASURE c JUDGE c WOE c HA-HA c LOLL c MIME c IF c EGG c ASH c ADO c ON c
   WOOL c OUT c AH c ROAR c NUN c EAT c AGE c ICE c UP c OAK c OOZE c OIL c AWE c ARE c OR c AIR
   c ERR c ARRAY c EAR c IAN c YEW a OSMANYA LETTER ALEF c BA c TA c JA c XA c KHA c DEEL c RA c
   SA c SHIIN c DHA c CAYN c GA c FA c QAAF c KAAF c LAAN c MIIN c NUUN c WAW c HA c YA c A c E c
   I c O c U c AA c EE c OO b104A0 DIGIT ZERO c ONE c TWO c THREE c FOUR c FIVE c SIX c SEVEN c
   EIGHT c NINE a104B0 OSAGE CAPITAL LETTER A d AI d AIN d AH d BRA d CHA d EHCHA d E d EIN d HA
   d HYA d I d KA d EHKA d KYA d LA d MA d NA d O d OIN d PA d EHPA d SA d SHA d TA d EHTA d TSA
   d EHTSA d TSHA d DHA d U d WA d KHA d GHA d ZA d ZHA b104D8 SMALL LETTER A d AI d AIN d AH d
   BRA d CHA d EHCHA d E d EIN d HA d HYA d I d KA d EHKA d KYA d LA d MA d NA d O d OIN d PA d
   EHPA d SA d SHA d TA d EHTA d TSA d EHTSA d TSHA d DHA d U d WA d KHA d GHA d ZA d ZHA a10500
   ELBASAN LETTER A c BE c CE c CHE c DE c NDE c DHE c EI c E c FE c GE c GJE c HE c I c JE c KE
   c LE c LLE c ME c NE c NA c NJE c O c PE c QE c RE c RRE c SE c SHE c TE c THE c U c VE c XE c
   Y c ZE c ZHE c GHE c GHAMMA c KHE a10530 CAUCASIAN ALBANIAN LETTER ALT d BET d GIM d DAT d EB
   d ZARL d EYN d ZHIL d TAS d CHA d YOWD d ZHA d IRB d SHA d LAN d INYA d XEYN d DYAN d CAR d
   JHOX d KAR d LYIT d HEYT d QAY d AOR d CHOY d CHI d CYAY d MAQ d QAR d NOWC d DZYAY d SHAK d
   JAYN d ON d TYAY d FAM d DZAY d CHAT d PEN d GHEYS d RAT d SEYK d VEYZ d TIWR d SHOY d IWN d
   CYAW d CAYN d YAYD d PIWR d KIW c1056F CITATION MARK a VITHKUQI CAPITAL LETTER A d BBE d BE d
   CE d CHE d DE d DHE d EI d E d FE d GA d1057C HA d HHA d I d IJE d JE d KA d LA d LLA d ME d
   NE d NJE d O d PE d QA d RE d1058C SE d SHE d TE d THE d U d VE d XE d10594 Y d ZE b10597
   SMALL LETTER A d BBE d BE d CE d CHE d DE d DHE d EI d E d FE d GA d105A3 HA d HHA d I d IJE d
   JE d KA d LA d LLA d ME d NE d NJE d O d PE d QA d RE d105B3 SE d SHE d TE d THE d U d VE d XE
   d105BB Y d ZE a10600 LINEAR A SIGN AB001 d AB002 d AB003 d AB004 d AB005 d AB006 d AB007 d
   AB008 d AB009 d AB010 d AB011 d AB013 d AB016 d AB017 d AB020 d AB021 d AB021F d AB021M d
   AB022 d AB022F d AB022M d AB023 d AB023M d AB024 d AB026 d AB027 d AB028 d A028B d AB029 d
   AB030 d AB031 d AB034 d AB037 d AB038 d AB039 d AB040 d AB041 d AB044 d AB045 d AB046 d AB047
   d AB048 d AB049 d AB050 d AB051 d AB053 d AB054 d AB055 d AB056 d AB057 d AB058 d AB059 d
   AB060 d AB061 d AB065 d AB066 d AB067 d AB069 d AB070 d AB073 d AB074 d AB076 d AB077 d AB078
   d AB079 d AB080 d AB081 d AB082 d AB085 d AB086 d AB087 d A100-102 d AB118 d AB120 d A120B d
   AB122 d AB123 d AB131A d AB131B d A131C d AB164 d AB171 d AB180 d AB188 d AB191 d A301 d A302
   d A303 d A304 d A305 d A306 d A307 d A308 d A309A d A309B d A309C d A310 d A311 d A312 d A313A
   d A313B d A313C d A314 d A315 d A316 d A317 d A318 d A319 d A320 d A321 d A322 d A323 d A324 d
   A325 d A326 d A327 d A328 d A329 d A330 d A331 d A332 d A333 d A334 d A335 d A336 d A337 d
   A338 d A339 d A340 d A341 d A342 d A343 d A344 d A345 d A346 d A347 d A348 d A349 d A350 d
   A351 d A352 d A353 d A354 d A355 d A356 d A357 d A358 d A359 d A360 d A361 d A362 d A363 d
   A364 d A365 d A366 d A367 d A368 d A369 d A370 d A371 d A400-VAS d A401-VAS d A402-VAS d
   A403-VAS d A404-VAS d A405-VAS d A406-VAS d A407-VAS d A408-VAS d A409-VAS d A410-VAS d
   A411-VAS d A412-VAS d A413-VAS d A414-VAS d A415-VAS d A416-VAS d A417-VAS d A418-VAS d A501 d
   A502 d A503 d A504 d A505 d A506 d A508 d A509 d A510 d A511 d A512 d A513 d A515 d A516 d
   A520 d A521 d A523 d A524 d A525 d A526 d A527 d A528 d A529 d A530 d A531 d A532 d A534 d
   A535 d A536 d A537 d A538 d A539 d A540 d A541 d A542 d A545 d A547 d A548 d A549 d A550 d
   A551 d A552 d A553 d A554 d A555 d A556 d A557 d A559 d A563 d A564 d A565 d A566 d A568 d
   A569 d A570 d A571 d A572 d A573 d A574 d A575 d A576 d A577 d A578 d A579 d A580 d A581 d
   A582 d A583 d A584 d A585 d A586 d A587 d A588 d A589 d A591 d A592 d A594 d A595 d A596 d
   A598 d A600 d A601 d A602 d A603 d A604 d A606 d A608 d A609 d A610 d A611 d A612 d A613 d
   A614 d A615 d A616 d A617 d A618 d A619 d A620 d A621 d A622 d A623 d A624 d A626 d A627 d
   A628 d A629 d A634 d A637 d A638 d A640 d A642 d A643 d A644 d A645 d A646 d A648 d A649 d
   A651 d A652 d A653 d A654 d A655 d A656 d A657 d A658 d A659 d A660 d A661 d A662 d A663 d
   A664 d10740 A701 A d A702 B d A703 D d A704 E d A705 F d A706 H d A707 J d A708 K d A709 L d
   A709-2 L2 d A709-3 L3 d A709-4 L4 d A709-6 L6 d A710 W d A711 X d A712 Y d A713 OMEGA d A714
   ABB d A715 BB d A717 DD d A726 EYYY d A732 JE d10760 A800 d A801 d A802 d A803 d A804 d A805 d
   A806 d A807 a10780 MODIFIER LETTER SMALL CAPITAL AA c SUPERSCRIPT TRIANGULAR COLON d HALF
   TRIANGULAR COLON c SMALL AE d CAPITAL B d B WITH HOOK d10787 DZ DIGRAPH f WITH RETROFLEX HOOK
   g CURL d DEZH DIGRAPH d D WITH TAIL f HOOK g AND TAIL d REVERSED E d CLOSED REVERSED OPEN E d
   FENG DIGRAPH d RAMS HORN d CAPITAL G d G WITH HOOK d CAPITAL G WITH HOOK d H WITH STROKE d
   CAPITAL H d HENG WITH HOOK d DOTLESS J WITH STROKE AND HOOK d LS DIGRAPH d LZ DIGRAPH d L WITH
   BELT d CAPITAL L WITH BELT d L WITH RETROFLEX HOOK AND BELT d LEZH e WITH RETROFLEX HOOK d
   TURNED Y f WITH BELT d O WITH STROKE d CAPITAL OE d CLOSED OMEGA d Q d TURNED R WITH LONG LEG
   i AND RETROFLEX HOOK d R WITH TAIL f FISHHOOK d CAPITAL R d TC DIGRAPH WITH CURL d TS DIGRAPH
   f WITH RETROFLEX HOOK d TESH DIGRAPH d T WITH RETROFLEX HOOK d V WITH RIGHT HOOK d107B2
   CAPITAL Y c GLOTTAL STOP WITH STROKE c REVERSED GLOTTAL STOP WITH STROKE c BILABIAL CLICK c
   DENTAL CLICK c LATERAL CLICK c ALVEOLAR CLICK c RETROFLEX CLICK WITH RETROFLEX HOOK c SMALL S
   WITH CURL a10800 CYPRIOT SYLLABLE A c E c I c O c U c JA c10808 JO c1080A KA c KE c KI c KO c
   KU c LA c LE c LI c LO c LU c MA c ME c MI c MO c MU c NA c NE c NI c NO c NU c PA c PE c PI c
   PO c PU c RA c RE c RI c RO c RU c SA c SE c SI c SO c SU c TA c TE c TI c TO c TU c WA c WE c
   WI c WO c10837 XA c XE c1083C ZA c1083F ZO a IMPERIAL ARAMAIC LETTER ALEPH d BETH d GIMEL d
   DALETH d HE d WAW d ZAYIN d HETH d TETH d YODH d KAPH d LAMEDH d MEM d NUN d SAMEKH d AYIN d
   PE d SADHE d QOPH d RESH d SHIN d TAW c10857 SECTION SIGN c NUMBER ONE d TWO d THREE d TEN d
   TWENTY d ONE HUNDRED e THOUSAND d TEN THOUSAND a PALMYRENE LETTER ALEPH c BETH c GIMEL c
   DALETH c HE c WAW c ZAYIN c HETH c TETH c YODH c KAPH c LAMEDH c MEM c FINAL NUN c NUN c
   SAMEKH c AYIN c PE c SADHE c QOPH c RESH c SHIN c TAW b LEFT-POINTING FLEURON b RIGHT-POINTING
   FLEURON b NUMBER ONE c TWO c THREE c FOUR c FIVE c TEN c TWENTY a NABATAEAN LETTER FINAL ALEPH
   c ALEPH c FINAL BETH c BETH c GIMEL c DALETH c FINAL HE c HE c WAW c ZAYIN c HETH c TETH c
   FINAL YODH c YODH c FINAL KAPH c KAPH c FINAL LAMEDH c LAMEDH c FINAL MEM c MEM c FINAL NUN c
   NUN c SAMEKH c AYIN c PE c SADHE c QOPH c RESH c FINAL SHIN c SHIN c TAW b108A7 NUMBER ONE c
   TWO c THREE c FOUR b CRUCIFORM NUMBER FOUR b NUMBER FIVE c TEN c TWENTY c ONE HUNDRED a108E0
   HATRAN LETTER ALEPH c BETH c GIMEL c DALETH-RESH c HE c WAW c ZAYN c HETH c TETH c YODH c KAPH
   c LAMEDH c MEM c NUN c SAMEKH c AYN c PE c SADHE c QOPH c108F4 SHIN c TAW b108FB NUMBER ONE c
   FIVE c TEN c TWENTY c ONE HUNDRED a PHOENICIAN LETTER ALF c BET c GAML c DELT c HE c WAU c ZAI
   c HET c TET c YOD c KAF c LAMD c MEM c NUN c SEMK c AIN c PE c SADE c QOF c ROSH c SHIN c TAU
   b NUMBER ONE c TEN c TWENTY c ONE HUNDRED c TWO c THREE b1091F WORD SEPARATOR a LYDIAN LETTER
   A c B c G c D c E c V c I c Y c K c L c M c N c O c R c SS c T c U c F c Q c S c TT c AN c EN
   c LY c NN c C b1093F TRIANGULAR MARK a10980 MEROITIC HIEROGLYPHIC LETTER A d E d I d O d YA d
   WA d BA d BA-2 d PA d MA d NA d NA-2 d NE d NE-2 d RA d RA-2 d LA d KHA d HHA d SA d SA-2 d SE
   d KA d QA d TA d TA-2 d TE d TE-2 d TO d DA c SYMBOL VIDJ d VIDJ-2 b CURSIVE LETTER A d E d I
   d O d YA d WA d BA d PA d MA d NA d NE d RA d LA d KHA d HHA d SA d ARCHAIC SA d SE d KA d QA
   d TA d TE d TO d DA c109BC FRACTION ELEVEN TWELFTHS d ONE HALF c LOGOGRAM RMT d IMN c NUMBER
   ONE d TWO d THREE d FOUR d FIVE d SIX d SEVEN d EIGHT d NINE d TEN d TWENTY d THIRTY d FORTY d
   FIFTY d SIXTY d SEVENTY d109D2 ONE HUNDRED d TWO HUNDRED d THREE HUNDRED d FOUR HUNDRED d FIVE
   HUNDRED d SIX HUNDRED d SEVEN HUNDRED d EIGHT HUNDRED d NINE HUNDRED d ONE THOUSAND d TWO
   THOUSAND d THREE THOUSAND d FOUR THOUSAND d FIVE THOUSAND d SIX THOUSAND d SEVEN THOUSAND d
   EIGHT THOUSAND d NINE THOUSAND d TEN THOUSAND d TWENTY THOUSAND d THIRTY THOUSAND d FORTY
   THOUSAND d FIFTY THOUSAND d SIXTY THOUSAND d SEVENTY THOUSAND d EIGHTY THOUSAND d NINETY
   THOUSAND d ONE HUNDRED THOUSAND d TWO HUNDRED THOUSAND d THREE HUNDRED THOUSAND d FOUR HUNDRED
   THOUSAND d FIVE HUNDRED THOUSAND d SIX HUNDRED THOUSAND d SEVEN HUNDRED THOUSAND d EIGHT
   HUNDRED THOUSAND d NINE HUNDRED THOUSAND c FRACTION ONE TWELFTH d TWO TWELFTHS d THREE
   TWELFTHS d FOUR TWELFTHS d FIVE TWELFTHS d SIX TWELFTHS d SEVEN TWELFTHS d EIGHT TWELFTHS d
   NINE TWELFTHS d TEN TWELFTHS a KHAROSHTHI LETTER A b VOWEL SIGN I d U d VOCALIC R d10A05 E d O
   c10A0C LENGTH MARK b SIGN DOUBLE RING BELOW c ANUSVARA c VISARGA b LETTER KA c KHA c GA c GHA
   c10A15 CA c CHA c JA c10A19 NYA c TTA c TTHA c DDA c DDHA c NNA c TA c THA c DA c DHA c NA c
   PA c PHA c BA c BHA c MA c YA c RA c LA c VA c SHA c SSA c SA c ZA c HA c KKA c TTTHA c TTTA c
   VHA b10A38 SIGN BAR ABOVE c CAUDA c DOT BELOW b10A3F VIRAMA b DIGIT ONE c TWO c THREE c FOUR b
   NUMBER TEN c TWENTY c ONE HUNDRED d THOUSAND b FRACTION ONE HALF b10A50 PUNCTUATION DOT c
   SMALL CIRCLE c CIRCLE c CRESCENT BAR c MANGALAM c LOTUS c DANDA c DOUBLE DANDA c LINES a10A60
   OLD SOUTH ARABIAN LETTER HE e LAMEDH e HETH e MEM e QOPH e WAW e SHIN e RESH e BETH e TAW e
   SAT e KAPH e NUN e KHETH e SADHE e SAMEKH e FE e ALEF e AYN e DHADHE e GIMEL e DALETH e GHAYN
   e TETH e ZAYN e DHALETH e YODH e THAW e THETH d NUMBER ONE e FIFTY d NUMERIC INDICATOR b NORTH
   ARABIAN LETTER HEH e LAM e HAH e MEEM e QAF e WAW e ES-2 e REH e BEH e TEH e ES-1 e KAF e NOON
   e KHAH e SAD e ES-3 e FEH e ALEF e AIN e DAD e GEEM e DAL e GHAIN e TAH e ZAIN e THAL e YEH e
   THEH e ZAH d NUMBER ONE e TEN e TWENTY a10AC0 MANICHAEAN LETTER ALEPH c BETH c BHETH c GIMEL c
   GHIMEL c DALETH c HE c WAW b SIGN UD b LETTER ZAYIN c ZHAYIN c JAYIN c JHAYIN c HETH c TETH c
   YODH c KAPH c XAPH c KHAPH c LAMEDH c DHAMEDH c THAMEDH c MEM c NUN c SAMEKH c AYIN c AAYIN c
   PE c FE c SADHE c QOPH c XOPH c QHOPH c RESH c SHIN c SSHIN c TAW b ABBREVIATION MARK ABOVE d
   BELOW b10AEB NUMBER ONE c FIVE c TEN c TWENTY c ONE HUNDRED b PUNCTUATION STAR c FLEURON c
   DOUBLE DOT WITHIN DOT c DOT WITHIN DOT d c TWO DOTS c LINE FILLER a10B00 AVESTAN LETTER A c AA
   c AO c AAO c AN c AAN c AE c AEE c E c EE c O c OO c I c II c U c UU c KE c XE c XYE c XVE c
   GE c GGE c GHE c CE c JE c TE c THE c DE c DHE c TTE c PE c FE c BE c BHE c NGE c NGYE c NGVE
   c NE c NYE c NNE c ME c HME c YYE c YE c VE c RE c LE c SE c ZE c SHE c ZHE c SHYE c SSHE c HE
   b10B39 ABBREVIATION MARK a TINY TWO DOTS OVER ONE DOT PUNCTUATION a SMALL TWO DOTS OVER ONE
   DOT PUNCTUATION a LARGE TWO DOTS OVER ONE DOT PUNCTUATION b ONE DOT OVER TWO DOTS PUNCTUATION
   b TWO RINGS OVER ONE RING PUNCTUATION b ONE RING OVER TWO RINGS PUNCTUATION a INSCRIPTIONAL
   PARTHIAN LETTER ALEPH d BETH d GIMEL d DALETH d HE d WAW d ZAYIN d HETH d TETH d YODH d KAPH d
   LAMEDH d MEM d NUN d SAMEKH d AYIN d PE d SADHE d QOPH d RESH d SHIN d TAW c10B58 NUMBER ONE d
   TWO d THREE d FOUR d TEN d TWENTY d ONE HUNDRED e THOUSAND b PAHLAVI LETTER ALEPH d BETH d
   GIMEL d DALETH d HE d WAW-AYIN-RESH d ZAYIN d HETH d TETH d YODH d KAPH d LAMEDH d MEM-QOPH d
   NUN d SAMEKH d PE d SADHE d SHIN d TAW c10B78 NUMBER ONE d TWO d THREE d FOUR d TEN d TWENTY d
   ONE HUNDRED e THOUSAND a PSALTER PAHLAVI LETTER ALEPH d BETH d GIMEL d DALETH d HE d
   WAW-AYIN-RESH d ZAYIN d HETH d YODH d KAPH d LAMEDH d MEM-QOPH d NUN d SAMEKH d PE d SADHE d
   SHIN d TAW c10B99 SECTION MARK c TURNED SECTION MARK c FOUR DOTS WITH CROSS f DOT c10BA9
   NUMBER ONE d TWO d THREE d FOUR d TEN d TWENTY d ONE HUNDRED a10C00 OLD TURKIC LETTER ORKHON A
   d YENISEI A e AE d ORKHON I d YENISEI I e E d ORKHON O e OE d YENISEI OE d ORKHON AB d YENISEI
   AB d ORKHON AEB d YENISEI AEB d ORKHON AG d YENISEI AG d ORKHON AEG d YENISEI AEG d ORKHON AD
   d YENISEI AD d ORKHON AED e EZ d YENISEI EZ d ORKHON AY d YENISEI AY d ORKHON AEY d YENISEI
   AEY d ORKHON AEK d YENISEI AEK d ORKHON OEK d YENISEI OEK d ORKHON AL d YENISEI AL d ORKHON
   AEL e ELT e EM e AN e AEN d YENISEI AEN d ORKHON ENT d YENISEI ENT d ORKHON ENC d YENISEI ENC
   d ORKHON ENY d YENISEI ENY e ANG d ORKHON ENG d YENISEI AENG d ORKHON EP e OP e IC e EC d
   YENISEI EC d ORKHON AQ d YENISEI AQ d ORKHON IQ d YENISEI IQ d ORKHON OQ d YENISEI OQ d ORKHON
   AR d YENISEI AR d ORKHON AER e AS e AES e ASH d YENISEI ASH d ORKHON ESH d YENISEI ESH d
   ORKHON AT d YENISEI AT d ORKHON AET d YENISEI AET d ORKHON OT e BASH b10C80 HUNGARIAN CAPITAL
   LETTER A e AA e EB e AMB e EC e ENC e ECS e ED e AND e E e CLOSE E e EE e EF e EG e EGY e EH e
   I e II e EJ e EK e AK e UNK e EL e ELY e EM e EN e ENY e O e OO e NIKOLSBURG OE e RUDIMENTA OE
   e OEE e EP e EMP e ER e SHORT ER e ES e ESZ e ET e ENT e ETY e ECH e U e UU e NIKOLSBURG UE e
   RUDIMENTA UE e EV e EZ e EZS e ENT-SHAPED SIGN e US c10CC0 SMALL LETTER A e AA e EB e AMB e EC
   e ENC e ECS e ED e AND e E e CLOSE E e EE e EF e EG e EGY e EH e I e II e EJ e EK e AK e UNK e
   EL e ELY e EM e EN e ENY e O e OO e NIKOLSBURG OE e RUDIMENTA OE e OEE e EP e EMP e ER e SHORT
   ER e ES e ESZ e ET e ENT e ETY e ECH e U e UU e NIKOLSBURG UE e RUDIMENTA UE e EV e EZ e EZS e
   ENT-SHAPED SIGN e US c10CFA NUMBER ONE d FIVE d TEN d FIFTY d ONE HUNDRED e THOUSAND a HANIFI
   ROHINGYA LETTER A d BA d PA d TA d TTA d JA d CA d HA d KHA d FA d DA d DDA d RA d RRA d ZA d
   SA d SHA d KA d GA d LA d MA d NA d WA d KINNA WA d YA d KINNA YA d NGA d NYA d VA c VOWEL A d
   I d U d E d O c MARK SAKIN d NA KHONNA c SIGN HARBAHAY d TAHALA d TANA d TASSI c10D30 DIGIT
   ZERO d ONE d TWO d THREE d FOUR d FIVE d SIX d SEVEN d EIGHT d NINE a10E60 RUMI DIGIT ONE c
   TWO c THREE c FOUR c FIVE c SIX c SEVEN c EIGHT c NINE b NUMBER TEN c TWENTY c THIRTY c FORTY
   c FIFTY c SIXTY c SEVENTY c EIGHTY c NINETY c ONE HUNDRED c TWO HUNDRED c THREE HUNDRED c FOUR
   HUNDRED c FIVE HUNDRED c SIX HUNDRED c SEVEN HUNDRED c EIGHT HUNDRED c NINE HUNDRED b FRACTION
   ONE HALF d QUARTER d THIRD c TWO THIRDS a10E80 YEZIDI LETTER ELIF c BE c PE c PHE c THE c SE c
   CIM c CHIM c CHHIM c HHA c XA c DAL c ZAL c RA c RHA c ZA c JA c SIN c SHIN c SAD c DAD c TA c
   ZE c EYN c XHEYN c FA c VA d ALTERNATE FORM c QAF c KAF c KHAF c GAF c LAM c MIM c NUN c UM c
   WAW c OW c EW c HAY c YOT c ET b10EAB COMBINING HAMZA MARK c MADDA MARK b HYPHENATION MARK
   b10EB0 LETTER LAM WITH DOT ABOVE c YOT WITH CIRCUMFLEX ABOVE a10F00 OLD SOGDIAN LETTER ALEPH d
   FINAL ALEPH d BETH d FINAL BETH d GIMEL d HE d FINAL HE d WAW d ZAYIN d HETH d YODH d KAPH d
   LAMEDH d MEM d NUN d FINAL NUN f WITH VERTICAL TAIL d SAMEKH d AYIN d ALTERNATE AYIN d PE d
   SADHE d FINAL SADHE f WITH VERTICAL TAIL d RESH-AYIN-DALETH d SHIN d TAW d FINAL TAW f WITH
   VERTICAL TAIL c NUMBER ONE d TWO d THREE d FOUR d FIVE d TEN d TWENTY d THIRTY d ONE HUNDRED c
   FRACTION ONE HALF c LIGATURE AYIN-DALETH a10F30 SOGDIAN LETTER ALEPH c BETH c GIMEL c HE c WAW
   c ZAYIN c HETH c YODH c KAPH c LAMEDH c MEM c NUN c SAMEKH c AYIN c PE c SADHE c RESH-AYIN c
   SHIN c TAW c FETH c LESH b INDEPENDENT SHIN b COMBINING DOT BELOW c TWO DOTS BELOW c DOT ABOVE
   c TWO DOTS ABOVE c CURVE ABOVE d BELOW c HOOK ABOVE d BELOW c LONG HOOK BELOW c RESH BELOW c
   STROKE BELOW b NUMBER ONE c TEN c TWENTY c ONE HUNDRED b PUNCTUATION TWO VERTICAL BARS f WITH
   DOTS c CIRCLE WITH DOT c TWO CIRCLES WITH DOTS c HALF CIRCLE WITH DOT a10F70 OLD UYGHUR LETTER
   ALEPH d BETH d GIMEL-HETH d WAW d ZAYIN d FINAL HETH d YODH d KAPH d LAMEDH d MEM d NUN d
   SAMEKH d PE d SADHE d RESH d SHIN d TAW d LESH c COMBINING DOT ABOVE e BELOW d TWO DOTS ABOVE
   f BELOW c PUNCTUATION BAR d TWO BARS e DOTS d FOUR DOTS a10FB0 CHORASMIAN LETTER ALEPH c SMALL
   ALEPH c BETH c GIMEL c DALETH c HE c WAW c CURLED WAW c ZAYIN c HETH c YODH c KAPH c LAMEDH c
   MEM c NUN c SAMEKH c AYIN c PE c RESH c SHIN c TAW b NUMBER ONE c TWO c THREE c FOUR c TEN c
   TWENTY c ONE HUNDRED a10FE0 ELYMAIC LETTER ALEPH c BETH c GIMEL c DALETH c HE c WAW c ZAYIN c
   HETH c TETH c YODH c KAPH c LAMEDH c MEM c NUN c SAMEKH c AYIN c PE c SADHE c QOPH c RESH c
   SHIN c TAW b LIGATURE ZAYIN-YODH a11000 BRAHMI SIGN CANDRABINDU c ANUSVARA c VISARGA c
   JIHVAMULIYA c UPADHMANIYA b LETTER A c AA c I c II c U c UU c VOCALIC R d RR d L d LL c E c AI
   c O c AU c KA c KHA c GA c GHA c NGA c CA c CHA c JA c JHA c NYA c TTA c TTHA c DDA c DDHA c
   NNA c TA c THA c DA c DHA c NA c PA c PHA c BA c BHA c MA c YA c RA c LA c VA c SHA c SSA c SA
   c HA c LLA c OLD TAMIL LLLA e RRA e NNNA b VOWEL SIGN AA d BHATTIPROLU AA d I d II d U d UU d
   VOCALIC R e RR e L e LL d E d AI d O d AU b VIRAMA b DANDA b DOUBLE DANDA b PUNCTUATION DOT c
   DOUBLE DOT c LINE c CRESCENT BAR c LOTUS b11052 NUMBER ONE c TWO c THREE c FOUR c FIVE c SIX c
   SEVEN c EIGHT c NINE c TEN c TWENTY c THIRTY c FORTY c FIFTY c SIXTY c SEVENTY c EIGHTY c
   NINETY c ONE HUNDRED d THOUSAND b DIGIT ZERO c ONE c TWO c THREE c FOUR c FIVE c SIX c SEVEN c
   EIGHT c NINE b SIGN OLD TAMIL VIRAMA b LETTER OLD TAMIL SHORT E f O b VOWEL SIGN OLD TAMIL
   SHORT E g O b LETTER OLD TAMIL LLA b1107F NUMBER JOINER a KAITHI SIGN CANDRABINDU c ANUSVARA c
   VISARGA b LETTER A c AA c I c II c U c UU c E c AI c O c AU c KA c KHA c GA c GHA c NGA c CA c
   CHA c JA c JHA c NYA c TTA c TTHA c DDA c DDDHA c DDHA c RHA c NNA c TA c THA c DA c DHA c NA
   c PA c PHA c BA c BHA c MA c YA c RA c LA c VA c SHA c SSA c SA c HA b VOWEL SIGN AA d I d II
   d U d UU d E d AI d O d AU b SIGN VIRAMA c NUKTA b ABBREVIATION SIGN b ENUMERATION SIGN b
   NUMBER SIGN b SECTION MARK b DOUBLE SECTION MARK b DANDA b DOUBLE DANDA b VOWEL SIGN VOCALIC R
   b110CD NUMBER SIGN ABOVE a110D0 SORA SOMPENG LETTER SAH d TAH d BAH d CAH d DAH d GAH d MAH d
   NGAH d LAH d NAH d VAH d PAH d YAH d RAH d HAH d KAH d JAH d NYAH d AH d EEH d IH d UH d OH d
   EH d MAE c110F0 DIGIT ZERO d ONE d TWO d THREE d FOUR d FIVE d SIX d SEVEN d EIGHT d NINE
   a11100 CHAKMA SIGN CANDRABINDU c ANUSVARA c VISARGA b LETTER AA c I c U c E c KAA c KHAA c GAA
   c GHAA c NGAA c CAA c CHAA c JAA c JHAA c NYAA c TTAA c TTHAA c DDAA c DDHAA c NNAA c TAA c
   THAA c DAA c DHAA c NAA c PAA c PHAA c BAA c BHAA c MAA c YYAA c YAA c RAA c LAA c WAA c SAA c
   HAA b VOWEL SIGN A d I d II d U d UU d E d AI d O d AU d OI b O MARK b AU MARK b VIRAMA b
   MAAYYAA b11136 DIGIT ZERO c ONE c TWO c THREE c FOUR c FIVE c SIX c SEVEN c EIGHT c NINE b
   SECTION MARK b DANDA b DOUBLE DANDA b QUESTION MARK b LETTER LHAA b VOWEL SIGN AA d EI b
   LETTER VAA a11150 MAHAJANI LETTER A c I c U c E c O c KA c KHA c GA c GHA c CA c CHA c JA c
   JHA c NYA c TTA c TTHA c DDA c DDHA c NNA c TA c THA c DA c DHA c NA c PA c PHA c BA c BHA c
   MA c RA c LA c VA c SA c HA c RRA b SIGN NUKTA b ABBREVIATION SIGN b SECTION MARK b LIGATURE
   SHRI a11180 SHARADA SIGN CANDRABINDU c ANUSVARA c VISARGA b LETTER A c AA c I c II c U c UU c
   VOCALIC R d RR d L d LL c E c AI c O c AU c KA c KHA c GA c GHA c NGA c CA c CHA c JA c JHA c
   NYA c TTA c TTHA c DDA c DDHA c NNA c TA c THA c DA c DHA c NA c PA c PHA c BA c BHA c MA c YA
   c RA c LA c LLA c VA c SHA c SSA c SA c HA b VOWEL SIGN AA d I d II d U d UU d VOCALIC R e RR
   e L e LL d E d AI d O d AU b SIGN VIRAMA c AVAGRAHA c JIHVAMULIYA c UPADHMANIYA b OM b DANDA b
   DOUBLE DANDA b ABBREVIATION SIGN b SEPARATOR b SANDHI MARK b SIGN NUKTA b VOWEL MODIFIER MARK
   b EXTRA SHORT VOWEL MARK b SUTRA MARK b VOWEL SIGN PRISHTHAMATRA E b SIGN INVERTED CANDRABINDU
   b DIGIT ZERO c ONE c TWO c THREE c FOUR c FIVE c SIX c SEVEN c EIGHT c NINE b EKAM b SIGN
   SIDDHAM b HEADSTROKE b CONTINUATION SIGN b SECTION MARK-1 c MARK-2 a111E1 SINHALA ARCHAIC
   DIGIT ONE d TWO d THREE d FOUR d FIVE d SIX d SEVEN d EIGHT d NINE c NUMBER TEN d TWENTY d
   THIRTY d FORTY d FIFTY d SIXTY d SEVENTY d EIGHTY d NINETY d ONE HUNDRED e THOUSAND a11200
   KHOJKI LETTER A c AA c I c U c E c AI c O c AU c KA c KHA c GA c GGA c GHA c NGA c CA c CHA c
   JA c JJA c11213 NYA c TTA c TTHA c DDA c DDHA c NNA c TA c THA c DA c DDDA c DHA c NA c PA c
   PHA c BA c BBA c BHA c MA c YA c RA c LA c VA c SA c HA c LLA b VOWEL SIGN AA d I d II d U d E
   d AI d O d AU b SIGN ANUSVARA c VIRAMA c NUKTA c SHADDA b DANDA b DOUBLE DANDA b WORD
   SEPARATOR b SECTION MARK b DOUBLE SECTION MARK b ABBREVIATION SIGN b SIGN SUKUN a11280 MULTANI
   LETTER A c I c U c E c KA c KHA c GA c11288 GHA c1128A CA c CHA c JA c JJA c1128F NYA c TTA c
   TTHA c DDA c DDDA c DDHA c NNA c TA c THA c DA c DHA c NA c PA c PHA c BA c1129F BHA c MA c YA
   c RA c LA c VA c SA c HA c RRA c RHA b SECTION MARK a112B0 KHUDAWADI LETTER A c AA c I c II c
   U c UU c E c AI c O c AU c KA c KHA c GA c GGA c GHA c NGA c CA c CHA c JA c JJA c JHA c NYA c
   TTA c TTHA c DDA c DDDA c RRA c DDHA c NNA c TA c THA c DA c DHA c NA c PA c PHA c BA c BBA c
   BHA c MA c YA c RA c LA c VA c SHA c SA c HA b SIGN ANUSVARA b VOWEL SIGN AA d I d II d U d UU
   d E d AI d O d AU b SIGN NUKTA c VIRAMA b112F0 DIGIT ZERO c ONE c TWO c THREE c FOUR c FIVE c
   SIX c SEVEN c EIGHT c NINE a11300 GRANTHA SIGN COMBINING ANUSVARA ABOVE c CANDRABINDU c
   ANUSVARA c VISARGA b11305 LETTER A c AA c I c II c U c UU c VOCALIC R d L c1130F EE c AI
   c11313 OO c AU c KA c KHA c GA c GHA c NGA c CA c CHA c JA c JHA c NYA c TTA c TTHA c DDA c
   DDHA c NNA c TA c THA c DA c DHA c NA c1132A PA c PHA c BA c BHA c MA c YA c RA c11332 LA c
   LLA c11335 VA c SHA c SSA c SA c HA a1133B COMBINING BINDU BELOW a GRANTHA SIGN NUKTA c
   AVAGRAHA b VOWEL SIGN AA d I d II d U d UU d VOCALIC R e RR d11347 EE d AI d1134B OO d AU b
   SIGN VIRAMA b11350 OM b11357 AU LENGTH MARK b1135D SIGN PLUTA b LETTER VEDIC ANUSVARA d DOUBLE
   ANUSVARA c VOCALIC RR d LL b VOWEL SIGN VOCALIC L e LL a11366 COMBINING GRANTHA DIGIT ZERO d
   ONE d TWO d THREE d FOUR d FIVE d SIX c11370 LETTER A d KA d NA d VI d PA a11400 NEWA LETTER A
   c AA c I c II c U c UU c VOCALIC R d RR d L d LL c E c AI c O c AU c KA c KHA c GA c GHA c NGA
   c NGHA c CA c CHA c JA c JHA c NYA c NYHA c TTA c TTHA c DDA c DDHA c NNA c TA c THA c DA c
   DHA c NA c NHA c PA c PHA c BA c BHA c MA c MHA c YA c RA c RHA c LA c LHA c WA c SHA c SSA c
   SA c HA b VOWEL SIGN AA d I d II d U d UU d VOCALIC R e RR e L e LL d E d AI d O d AU b SIGN
   VIRAMA c CANDRABINDU c ANUSVARA c VISARGA c NUKTA c AVAGRAHA c FINAL ANUSVARA b OM b SIDDHI b
   DANDA b DOUBLE DANDA b COMMA b GAP FILLER b ABBREVIATION SIGN b DIGIT ZERO c ONE c TWO c THREE
   c FOUR c FIVE c SIX c SEVEN c EIGHT c NINE b DOUBLE COMMA b PLACEHOLDER MARK b1145D INSERTION
   SIGN b SANDHI MARK b LETTER VEDIC ANUSVARA b SIGN JIHVAMULIYA c UPADHMANIYA a11480 TIRHUTA
   ANJI b LETTER A c AA c I c II c U c UU c VOCALIC R d RR d L d LL c E c AI c O c AU c KA c KHA
   c GA c GHA c NGA c CA c CHA c JA c JHA c NYA c TTA c TTHA c DDA c DDHA c NNA c TA c THA c DA c
   DHA c NA c PA c PHA c BA c BHA c MA c YA c RA c LA c VA c SHA c SSA c SA c HA b VOWEL SIGN AA
   d I d II d U d UU d VOCALIC R e RR e L e LL d E d SHORT E d AI d O d SHORT O d AU b SIGN
   CANDRABINDU c ANUSVARA c VISARGA c VIRAMA c NUKTA c AVAGRAHA b GVANG b ABBREVIATION SIGN b OM
   b114D0 DIGIT ZERO c ONE c TWO c THREE c FOUR c FIVE c SIX c SEVEN c EIGHT c NINE a11580
   SIDDHAM LETTER A c AA c I c II c U c UU c VOCALIC R d RR d L d LL c E c AI c O c AU c KA c KHA
   c GA c GHA c NGA c CA c CHA c JA c JHA c NYA c TTA c TTHA c DDA c DDHA c NNA c TA c THA c DA c
   DHA c NA c PA c PHA c BA c BHA c MA c YA c RA c LA c VA c SHA c SSA c SA c HA b VOWEL SIGN AA
   d I d II d U d UU d VOCALIC R e RR d115B8 E d AI d O d AU b SIGN CANDRABINDU c ANUSVARA c
   VISARGA c VIRAMA c NUKTA c SIDDHAM b DANDA b DOUBLE DANDA b SEPARATOR DOT c BAR b REPETITION
   MARK-1 c MARK-2 c MARK-3 b END OF TEXT MARK b SECTION MARK WITH TRIDENT AND U-SHAPED ORNAMENTS
   g DOTTED CRESCENTS e RAYS AND DOTTED CRESCENTS h DOUBLE CRESCENTS h TRIPLE CRESCENTS d DOUBLE
   RING f WITH RAYS d WITH DOUBLE CRESCENTS e TRIPLE CRESCENTS e QUADRUPLE CRESCENTS e SEPTUPLE
   CRESCENTS e CIRCLES AND RAYS g TWO ENCLOSURES g FOUR ENCLOSURES b LETTER THREE-CIRCLE
   ALTERNATE I c TWO-CIRCLE ALTERNATE I e II c ALTERNATE U b VOWEL SIGN ALTERNATE U e UU a11600
   MODI LETTER A c AA c I c II c U c UU c VOCALIC R d RR d L d LL c E c AI c O c AU c KA c KHA c
   GA c GHA c NGA c CA c CHA c JA c JHA c NYA c TTA c TTHA c DDA c DDHA c NNA c TA c THA c DA c
   DHA c NA c PA c PHA c BA c BHA c MA c YA c RA c LA c VA c SHA c SSA c SA c HA c LLA b VOWEL
   SIGN AA d I d II d U d UU d VOCALIC R e RR e L e LL d E d AI d O d AU b SIGN ANUSVARA c
   VISARGA c VIRAMA c ARDHACANDRA b DANDA b DOUBLE DANDA b ABBREVIATION SIGN b SIGN HUVA b11650
   DIGIT ZERO c ONE c TWO c THREE c FOUR c FIVE c SIX c SEVEN c EIGHT c NINE a11660 MONGOLIAN
   BIRGA WITH ORNAMENT b ROTATED BIRGA b DOUBLE BIRGA WITH ORNAMENT b TRIPLE BIRGA WITH ORNAMENT
   b BIRGA WITH DOUBLE ORNAMENT b ROTATED BIRGA WITH ORNAMENT e DOUBLE ORNAMENT b INVERTED BIRGA
   d WITH DOUBLE ORNAMENT b SWIRL BIRGA d WITH ORNAMENT e DOUBLE ORNAMENT b TURNED SWIRL BIRGA
   WITH DOUBLE ORNAMENT a11680 TAKRI LETTER A c AA c I c II c U c UU c E c AI c O c AU c KA c KHA
   c GA c GHA c NGA c CA c CHA c JA c JHA c NYA c TTA c TTHA c DDA c DDHA c NNA c TA c THA c DA c
   DHA c NA c PA c PHA c BA c BHA c MA c YA c RA c LA c VA c SHA c SA c HA c RRA b SIGN ANUSVARA
   c VISARGA b VOWEL SIGN AA d I d II d U d UU d E d AI d O d AU b SIGN VIRAMA c NUKTA b LETTER
   ARCHAIC KHA b ABBREVIATION SIGN b116C0 DIGIT ZERO c ONE c TWO c THREE c FOUR c FIVE c SIX c
   SEVEN c EIGHT c NINE a11700 AHOM LETTER KA c KHA c NGA c NA c TA c ALTERNATE TA c PA c PHA c
   BA c MA c JA c CHA c THA c RA c LA c SA c NYA c HA c A c DA c DHA c GA c ALTERNATE GA c GHA c
   BHA c JHA c ALTERNATE BA b1171D CONSONANT SIGN MEDIAL LA e RA e LIGATING RA b VOWEL SIGN A d
   AA d I d II d U d UU d E d AW d O d AI d AM b SIGN KILLER b11730 DIGIT ZERO c ONE c TWO c
   THREE c FOUR c FIVE c SIX c SEVEN c EIGHT c NINE b NUMBER TEN c TWENTY b SIGN SMALL SECTION c
   SECTION c RULAI b SYMBOL VI b LETTER CA c TTA c TTHA c DDA c DDHA c NNA c LLA a11800 DOGRA
   LETTER A c AA c I c II c U c UU c E c AI c O c AU c KA c KHA c GA c GHA c NGA c CA c CHA c JA
   c JHA c NYA c TTA c TTHA c DDA c DDHA c NNA c TA c THA c DA c DHA c NA c PA c PHA c BA c BHA c
   MA c YA c RA c LA c VA c SHA c SSA c SA c HA c RRA b VOWEL SIGN AA d I d II d U d UU d VOCALIC
   R e RR d E d AI d O d AU b SIGN ANUSVARA c VISARGA c VIRAMA c NUKTA b ABBREVIATION SIGN a118A0
   WARANG CITI CAPITAL LETTER NGAA e A e WI e YU e YA e YO e II e UU e E e O e ANG e GA e KO e
   ENY e YUJ e UC e ENN e ODD e TTE e NUNG e DA e AT e AM e BU e PU e HIYO e HOLO e HORR e HAR e
   SSUU e SII e VIYO c SMALL LETTER NGAA e A e WI e YU e YA e YO e II e UU e E e O e ANG e GA e
   KO e ENY e YUJ e UC e ENN e ODD e TTE e NUNG e DA e AT e AM e BU e PU e HIYO e HOLO e HORR e
   HAR e SSUU e SII e VIYO c DIGIT ZERO d ONE d TWO d THREE d FOUR d FIVE d SIX d SEVEN d EIGHT d
   NINE c NUMBER TEN d TWENTY d THIRTY d FORTY d FIFTY d SIXTY d SEVENTY d EIGHTY d NINETY c118FF
   OM a DIVES AKURU LETTER A d AA d I d II d U d UU d E d11909 O d1190C KA d KHA d GA d GHA d NGA
   d CA d CHA d JA d11915 NYA d TTA d11918 DDA d DDHA d NNA d TA d THA d DA d DHA d NA d PA d PHA
   d BA d BHA d MA d YA d YYA d RA d LA d VA d SHA d SSA d SA d HA d LLA d ZA c VOWEL SIGN AA e I
   e II e U e UU e E e11937 AI e O c1193B SIGN ANUSVARA d CANDRABINDU d HALANTA c VIRAMA c
   PREFIXED NASAL SIGN c MEDIAL YA c INITIAL RA c MEDIAL RA c SIGN NUKTA c DOUBLE DANDA c GAP
   FILLER c END OF TEXT MARK c11950 DIGIT ZERO d ONE d TWO d THREE d FOUR d FIVE d SIX d SEVEN d
   EIGHT d NINE a119A0 NANDINAGARI LETTER A c AA c I c II c U c UU c VOCALIC R d RR c119AA E c AI
   c O c AU c KA c KHA c GA c GHA c NGA c CA c CHA c JA c JHA c NYA c TTA c TTHA c DDA c DDHA c
   NNA c TA c THA c DA c DHA c NA c PA c PHA c BA c BHA c MA c YA c RA c LA c VA c SHA c SSA c SA
   c HA c LLA c RRA b VOWEL SIGN AA d I d II d U d UU d VOCALIC R e RR d119DA E d AI d O d AU b
   SIGN ANUSVARA c VISARGA c VIRAMA c AVAGRAHA c SIDDHAM b HEADSTROKE b VOWEL SIGN PRISHTHAMATRA
   E a11A00 ZANABAZAR SQUARE LETTER A c VOWEL SIGN I e UE e U e E e OE e O e AI e AU e REVERSED I
   d LENGTH MARK c LETTER KA d KHA d GA d GHA d NGA d CA d CHA d JA d NYA d TTA d TTHA d DDA d
   DDHA d NNA d TA d THA d DA d DHA d NA d PA d PHA d BA d BHA d MA d TSA d TSHA d DZA d DZHA d
   ZHA d ZA d -A d YA d RA d LA d VA d SHA d SSA d SA d HA d KSSA c FINAL CONSONANT MARK c SIGN
   VIRAMA d CANDRABINDU e WITH ORNAMENT d CANDRA WITH ORNAMENT d ANUSVARA d VISARGA c
   CLUSTER-INITIAL LETTER RA c CLUSTER-FINAL LETTER YA e RA e LA e VA c INITIAL HEAD MARK c
   CLOSING HEAD MARK c MARK TSHEG d SHAD d DOUBLE SHAD d LONG TSHEG c INITIAL DOUBLE-LINED HEAD
   MARK c CLOSING DOUBLE-LINED HEAD MARK c SUBJOINER a11A50 SOYOMBO LETTER A b VOWEL SIGN I d UE
   d U d E d O d OE d AI d AU d VOCALIC R e L c LENGTH MARK b LETTER KA c KHA c GA c GHA c NGA c
   CA c CHA c JA c JHA c NYA c TTA c TTHA c DDA c DDHA c NNA c TA c THA c DA c DHA c NA c PA c
   PHA c BA c BHA c MA c TSA c TSHA c DZA c ZHA c ZA c -A c YA c RA c LA c VA c SHA c SSA c SA c
   HA c KSSA b SIGN JIHVAMULIYA c UPADHMANIYA b CLUSTER-INITIAL LETTER RA d LA d SHA d SA b FINAL
   CONSONANT SIGN G e K e NG e D e N e B e M e R e L e SH e S e -A b SIGN ANUSVARA c VISARGA b
   GEMINATION MARK b SUBJOINER b MARK TSHEG c SHAD c DOUBLE SHAD c PLUTA b HEAD MARK WITH MOON
   AND SUN AND TRIPLE FLAME i FLAME h b TERMINAL MARK-1 c MARK-2 a11AB0 CANADIAN SYLLABICS
   NATTILIK HI d HII d HO d HOO d HA d HAA d SHRI d SHRII d SHRO d SHROO d SHRA d SHRAA c SPE c
   SPI c SPO c SPA a PAU CIN HAU LETTER PA e KA e LA e MA e DA e ZA e VA e NGA e HA e GA e KHA e
   SA e BA e CA e TA e THA e NA e PHA e RA e FA e CHA e A e E e I e O e U e UA e IA e FINAL P f K
   f T f M f N f L f W f NG f Y d RISING TONE LONG f d SANDHI GLOTTAL STOP d RISING TONE LONG
   FINAL f FINAL d SANDHI GLOTTAL STOP FINAL e TONE LONG f f LONG FINAL f FINAL d MID-LEVEL TONE
   d GLOTTAL STOP VARIANT d MID-LEVEL TONE LONG FINAL f FINAL d LOW-FALLING TONE LONG f d GLOTTAL
   STOP d LOW-FALLING TONE LONG FINAL f FINAL d GLOTTAL STOP FINAL a11C00 BHAIKSUKI LETTER A c AA
   c I c II c U c UU c VOCALIC R d RR d L c11C0A E c AI c O c AU c KA c KHA c GA c GHA c NGA c CA
   c CHA c JA c JHA c NYA c TTA c TTHA c DDA c DDHA c NNA c TA c THA c DA c DHA c NA c PA c PHA c
   BA c BHA c MA c YA c RA c LA c VA c SHA c SSA c SA c HA b VOWEL SIGN AA d I d II d U d UU d
   VOCALIC R e RR e L d11C38 E d AI d O d AU b SIGN CANDRABINDU c ANUSVARA c VISARGA c VIRAMA c
   AVAGRAHA b DANDA b DOUBLE DANDA b WORD SEPARATOR b GAP FILLER-1 c FILLER-2 b11C50 DIGIT ZERO c
   ONE c TWO c THREE c FOUR c FIVE c SIX c SEVEN c EIGHT c NINE b NUMBER ONE c TWO c THREE c FOUR
   c FIVE c SIX c SEVEN c EIGHT c NINE c TEN c TWENTY c THIRTY c FORTY c FIFTY c SIXTY c SEVENTY
   c EIGHTY c NINETY b HUNDREDS UNIT MARK a11C70 MARCHEN HEAD MARK b MARK SHAD b LETTER KA c KHA
   c GA c NGA c CA c CHA c JA c NYA c TA c THA c DA c NA c PA c PHA c BA c MA c TSA c TSHA c DZA
   c WA c ZHA c ZA c -A c YA c RA c LA c SHA c SA c HA c A b11C92 SUBJOINED LETTER KA d KHA d GA
   d NGA d CA d CHA d JA d NYA d TA d THA d DA d NA d PA d PHA d BA d MA d TSA d TSHA d DZA d WA
   d ZHA d ZA d11CA9 YA d RA d LA d SHA d SA d HA d A b VOWEL SIGN AA d I d U d E d O b SIGN
   ANUSVARA c CANDRABINDU a11D00 MASARAM GONDI LETTER A d AA d I d II d U d UU d E d11D08 AI d O
   d11D0B AU d KA d KHA d GA d GHA d NGA d CA d CHA d JA d JHA d NYA d TTA d TTHA d DDA d DDHA d
   NNA d TA d THA d DA d DHA d NA d PA d PHA d BA d BHA d MA d YA d RA d LA d VA d SHA d SSA d SA
   d HA d LLA d KSSA d JNYA d TRA c VOWEL SIGN AA e I e II e U e UU e VOCALIC R e11D3A E e11D3C
   AI e O e11D3F AU c SIGN ANUSVARA d VISARGA d NUKTA d CANDRA d HALANTA c VIRAMA c REPHA c
   RA-KARA c11D50 DIGIT ZERO d ONE d TWO d THREE d FOUR d FIVE d SIX d SEVEN d EIGHT d NINE
   a11D60 GUNJALA GONDI LETTER A d AA d I d II d U d UU d11D67 EE d AI d11D6A OO d AU d YA d VA d
   BA d BHA d MA d KA d KHA d TA d THA d LA d GA d GHA d DA d DHA d NA d CA d CHA d TTA d TTHA d
   LLA d JA d JHA d DDA d DDHA d NGA d PA d PHA d HA d RA d SA c VOWEL SIGN AA e I e II e U e UU
   e11D90 EE e AI e11D93 OO e AU c SIGN ANUSVARA d VISARGA c VIRAMA c OM c11DA0 DIGIT ZERO d ONE
   d TWO d THREE d FOUR d FIVE d SIX d SEVEN d EIGHT d NINE a11EE0 MAKASAR LETTER KA c GA c NGA c
   PA c BA c MA c TA c DA c NA c CA c JA c NYA c YA c RA c LA c VA c SA c A b ANGKA b VOWEL SIGN
   I d U d E d O b PASSIMBANG b END OF SECTION a11FB0 LISU LETTER YHA a11FC0 TAMIL FRACTION ONE
   THREE-HUNDRED-AND-TWENTIETH d ONE-HUNDRED-AND-SIXTIETH d EIGHTIETH d SIXTY-FOURTH d FORTIETH d
   THIRTY-SECOND c THREE EIGHTIETHS d SIXTY-FOURTHS c ONE TWENTIETH d SIXTEENTH-1 d SIXTEENTH-2 d
   TENTH d EIGHTH c THREE TWENTIETHS d SIXTEENTHS c ONE FIFTH d QUARTER d HALF-1 d HALF-2 c THREE
   QUARTERS c DOWNSCALING FACTOR KIIZH b SIGN NEL c CEVITU c AAZHAAKKU c UZHAKKU c MUUVUZHAKKU c
   KURUNI c PATHAKKU c MUKKURUNI c KAACU c PANAM c PON c VARAAKAN c PAARAM c KUZHI c VELI b WET
   CULTIVATION SIGN b DRY CULTIVATION SIGN b LAND SIGN b SALT PAN SIGN b TRADITIONAL CREDIT SIGN
   c NUMBER SIGN b CURRENT SIGN b AND ODD SIGN b SPENT SIGN b TOTAL SIGN b IN POSSESSION SIGN b
   STARTING FROM SIGN b SIGN MUTHALIYA c VAKAIYARAA b11FFF PUNCTUATION END OF TEXT a CUNEIFORM
   SIGN A d TIMES A e BAD e GAN2 TENU e HA e IGI e LAGAR GUNU e MUSH e SAG c A2 c AB d TIMES ASH2
   e DUN3 GUNU e GAL e GAN2 TENU e HA e IGI GUNU e IMIN e LAGAB e SHESH e U PLUS U PLUS U d GUNU
   c AB2 d TIMES BALAG e GAN2 TENU e ME PLUS EN e SHA3 e TAK4 c AD c AK d TIMES ERIN2 e SHITA
   PLUS GISH c AL d TIMES AL e DIM2 e GISH e HA e KAD3 e KI e SHE e USH c ALAN c ALEPH c AMAR d
   TIMES SHE c AN d OVER AN d THREE TIMES d PLUS NAGA OPPOSING AN PLUS NAGA f SQUARED c ANSHE c
   APIN c ARAD d TIMES KUR c ARKAB c ASAL2 c ASH d ZIDA TENU d KABA TENU d OVER ASH TUG2 OVER
   TUG2 TUG2 OVER TUG2 PAP f OVER ASH h CROSSING ASH OVER ASH OVER ASH c ASH2 c ASHGAB c BA c BAD
   c BAG3 c BAHAR2 c BAL d OVER BAL c BALAG c BAR c BARA2 c BI d TIMES A e GAR e IGI GUNU c BU d
   OVER BU AB f UN d CROSSING BU c BULUG d OVER BULUG c BUR c BUR2 c DA c DAG d KISIM5 TIMES A
   PLUS MASH f AMAR f BALAG f BI f GA g PLUS MASH f GI f GIR2 f GUD f HA f IR g PLUS LU f KAK f
   LA f LU g PLUS MASH2 f LUM f NE f PAP PLUS PAP f SI f TAK4 f U2 PLUS GIR2 f USH c DAM c DAR c
   DARA3 c DARA4 c DI c DIB c DIM d TIMES SHE c DIM2 c DIN d KASKAL U GUNU DISH c DISH c DU d
   OVER DU d GUNU d SHESHIG c DUB d TIMES ESH2 c DUB2 c DUG c DUGUD c DUH c DUN c DUN3 d GUNU e
   GUNU c DUN4 c DUR2 c E d TIMES PAP d OVER E NUN OVER NUN c E2 d TIMES A PLUS HA PLUS DA e GAR
   e MI e SAL e SHE e U c EDIN c EGIR c EL c EN d TIMES GAN2 f TENU e ME d CROSSING EN d OPPOSING
   EN d SQUARED c EREN c ERIN2 c ESH2 c EZEN d TIMES A f PLUS LAL h TIMES LAL e AN e BAD e DUN3
   GUNU g GUNU e HA f GUNU e IGI GUNU e KASKAL f SQUARED e KU3 e LA e LAL TIMES LAL e LI e LU e
   U2 e UD c GA d GUNU c GA2 d TIMES A PLUS DA PLUS HA g HA g IGI e AB2 TENU PLUS TAB e AN e ASH
   e ASH2 PLUS GAL e BAD e BAR PLUS RA e BUR f PLUS RA e DA e DI e DIM TIMES SHE e DUB e EL f
   PLUS LA e EN f TIMES GAN2 TENU e GAN2 TENU e GAR e GI e GI4 f PLUS A e GIR2 PLUS SU e HA PLUS
   LU PLUS ESH2 e HAL f PLUS LA e HI PLUS LI e HUB2 e IGI GUNU e ISH PLUS HU PLUS ASH e KAK e
   KASKAL e KID f PLUS LAL e KU3 PLUS AN e LA e ME PLUS EN e MI e NUN f OVER NUN e PA e SAL e SAR
   e SHE f PLUS TUR e SHID e SUM e TAK4 e U e UD f PLUS DU d OVER GA2 c GABA d CROSSING GABA c
   GAD d OVER GAD GAR OVER GAR c GAL d GAD OVER GAD GAR OVER GAR c GALAM c GAM c GAN c GAN2 d
   TENU d OVER GAN2 d CROSSING GAN2 c GAR c GAR3 c GASHAN c GESHTIN d TIMES KUR c GI d TIMES E e
   U d CROSSING GI c GI4 d OVER GI4 d CROSSING GI4 c GIDIM c GIR2 d GUNU c GIR3 d TIMES A PLUS
   IGI e GAN2 TENU e IGI e LU PLUS IGI e PA c GISAL c GISH d CROSSING GISH d TIMES BAD e TAK4 d
   TENU c GU d CROSSING GU c GU2 d TIMES KAK f TIMES IGI GUNU e NUN e SAL PLUS TUG2 d GUNU c GUD
   d TIMES A PLUS KUR e KUR d OVER GUD LUGAL c GUL c GUM d TIMES SHE c GUR c GUR7 c GURUN c
   GURUSH c HA d TENU d GUNU c HAL c HI d TIMES ASH e ASH2 e BAD e DISH e GAD e KIN e NUN e SHE e
   U c HU c HUB2 d TIMES AN e HAL e KASKAL e LISH e UD c HUL2 c I d A c IB c IDIM d OVER IDIM BUR
   f SQUARED c IG c IGI d DIB d RI d OVER IGI SHIR OVER SHIR UD OVER UD d GUNU c IL d TIMES GAN2
   TENU c IL2 c IM d TIMES TAK4 d CROSSING IM d OPPOSING IM d SQUARED c IMIN c IN c IR c ISH c KA
   d TIMES A e AD f PLUS KU3 e ASH2 e BAD e BALAG e BAR e BI e ERIN2 e ESH2 e GA e GAL e GAN2
   TENU e GAR f PLUS SHA3 PLUS A e GI e GIR2 e GISH PLUS SAR f CROSSING GISH e GU e GUR7 e IGI e
   IM e KAK e KI e KID e LI e LU e ME f PLUS DU g GI g TE e MI f PLUS NUNUZ e NE e NUN e PI e RU
   e SA e SAR e SHA e SHE e SHID e SHU e SIG e SUHUR e TAR e U e U2 e UD e UMUM TIMES PA e USH e
   ZI c KA2 d CROSSING KA2 c KAB c KAD2 c KAD3 c KAD4 c KAD5 d OVER KAD5 c KAK d TIMES IGI GUNU c
   KAL d TIMES BAD d CROSSING KAL c KAM2 c KAM4 c KASKAL d LAGAB TIMES U OVER LAGAB TIMES U d
   OVER KASKAL LAGAB TIMES U OVER LAGAB TIMES U c KESH2 c KI d TIMES BAD e U e UD c KID c KIN c
   KISAL c KISH c KISIM5 d OVER KISIM5 c KU d OVER HI TIMES ASH2 KU OVER HI TIMES ASH2 c KU3 c
   KU4 d VARIANT FORM c KU7 c KUL d GUNU c KUN c KUR d OPPOSING KUR c KUSHU2 c KWU318 c LA c
   LAGAB d TIMES A f PLUS DA PLUS HA g GAR g LAL e AL e AN e ASH ZIDA TENU e BAD e BI e DAR e EN
   e GA e GAR e GUD f PLUS GUD e HA e HAL e HI TIMES NUN e IGI GUNU e IM f PLUS HA g LU e KI e
   KIN e KU3 e KUL f PLUS HI PLUS A e LAGAB e LISH e LU e LUL e ME f PLUS EN e MUSH e NE e SHE
   PLUS SUM e SHITA PLUS GISH PLUS ERIN2 h TENU e SHU2 f PLUS SHU2 e SUM e TAG e TAK4 e TE PLUS A
   PLUS SU PLUS NA e U f PLUS A g U PLUS U e U2 PLUS ASH e UD e USH d SQUARED c LAGAR d TIMES SHE
   f PLUS SUM d GUNU e OVER LAGAR GUNU SHE c LAHSHU c LAL d TIMES LAL c LAM d TIMES KUR f PLUS RU
   c LI c LIL c LIMMU2 c LISH c LU d TIMES BAD c LU2 d TIMES AL e BAD e ESH2 f TENU e GAN2 TENU e
   HI TIMES BAD e IM e KAD2 e KAD3 f PLUS ASH e KI e LA PLUS ASH e LAGAB e ME PLUS EN e NE e NU e
   SI PLUS ASH e SIK2 PLUS BU e TUG2 d TENU d CROSSING LU2 d OPPOSING LU2 d SQUARED d SHESHIG c
   LU3 c LUGAL d OVER LUGAL d OPPOSING LUGAL d SHESHIG c LUH c LUL c LUM d OVER LUM f GAR OVER
   GAR c MA d TIMES TAK4 d GUNU c MA2 c MAH c MAR c MASH c MASH2 c ME c MES c MI c MIN c MU d
   OVER MU c MUG d GUNU c MUNSUB c MURGU2 c MUSH d TIMES A e KUR e ZA d OVER MUSH f TIMES A PLUS
   NA d CROSSING MUSH c MUSH3 d TIMES A f PLUS DI e DI d GUNU c NA c NA2 c NAGA d INVERTED d
   TIMES SHU TENU d OPPOSING NAGA c NAGAR c NAM NUTILLU d c NAM2 c NE d TIMES A e UD d SHESHIG c
   NI d TIMES E c NI2 c NIM d TIMES GAN2 TENU e GAR PLUS GAN2 TENU c NINDA2 d TIMES AN e ASH f
   PLUS ASH e GUD e ME PLUS GAN2 TENU e NE e NUN e SHE f PLUS A AN g ASH h PLUS ASH e U2 PLUS ASH
   e USH c NISAG c NU c NU11 c NUN d LAGAR TIMES GAR f MASH f SAL g OVER NUN LAGAR TIMES SAL f
   USH d TENU d OVER NUN d CROSSING NUN f LAGAR OVER LAGAR c NUNUZ d AB2 TIMES ASHGAB f BI f DUG
   f GUD f IGI GUNU f KAD3 f LA f NE f SILA3 f U2 d KISIM5 TIMES BI g U c PA c PAD c PAN c PAP c
   PESH2 c PI d TIMES A e AB e BI e BU e E e I e IB e U e U2 d CROSSING PI c PIRIG d TIMES KAL e
   UD e ZA d OPPOSING PIRIG c RA c RAB c RI c RU c SA c SAG NUTILLU d d TIMES A e DU e DUB e HA e
   KAK e KUR e LUM e MI e NUN e SAL e SHID e TAB e U2 e UB e UM e UR e USH d OVER SAG d GUNU c
   SAL d LAGAB TIMES ASH2 c SANGA2 c SAR c SHA c SHA3 d TIMES A e BAD e GISH e NE e SHU2 e TUR e
   U f PLUS A c SHA6 c SHAB6 c SHAR2 c SHE d HU d OVER SHE GAD OVER GAD GAR OVER GAR f TAB OVER
   TAB GAR OVER GAR c SHEG9 c SHEN c SHESH c SHESH2 c SHESHLAM c SHID d TIMES A e IM c SHIM d
   TIMES A e BAL e BULUG e DIN e GAR e IGI f GUNU e KUSHU2 e LUL e MUG e SAL c SHINIG c SHIR d
   TENU d OVER SHIR BUR OVER BUR c SHITA c SHU d OVER INVERTED SHU c SHU2 c SHUBUR c SI d GUNU c
   SIG c SIG4 d OVER SIG4 SHU2 c SIK2 c SILA3 c SU d OVER SU c SUD c SUD2 c SUHUR c SUM c SUMASH
   c SUR c SUR9 c TA d ASTERISK d TIMES HI e MI d GUNU c TAB d OVER TAB NI OVER NI DISH OVER DISH
   d SQUARED c TAG d TIMES BI e GUD e SHE e SHU e TUG2 e UD c TAK4 c TAR c TE d GUNU c TI d TENU
   c TIL c TIR d TIMES TAK4 d OVER TIR f GAD OVER GAD GAR OVER GAR c TU c TUG2 c TUK c TUM c TUR
   d OVER TUR ZA OVER ZA c U d GUD d U U d OVER U PA OVER PA GAR OVER GAR f SUR OVER SUR f U
   REVERSED OVER U REVERSED c U2 c UB c UD d KUSHU2 d TIMES BAD e MI e U PLUS U PLUS U j GUNU d
   GUNU d SHESHIG e TIMES BAD c UDUG c UM d TIMES LAGAB e ME PLUS DA e SHA3 e U c UMBIN c UMUM d
   TIMES KASKAL e PA c UN d GUNU c UR d CROSSING UR d SHESHIG c UR2 d TIMES A PLUS HA g NA e AL e
   HA e NUN e U2 f PLUS ASH g BI c UR4 c URI c URI3 c URU d TIMES A e ASHGAB e BAR e DUN e GA e
   GAL e GAN2 TENU e GAR e GU e HA e IGI e IM e ISH e KI e LUM e MIN e PA e SHE e SIG4 e TU e U
   PLUS GUD e UD e URUDA c URUDA d TIMES U c USH d TIMES A e KU e KUR e TAK4 c USHX c USH2 c
   USHUMX c UTUKI c UZ3 d TIMES KASKAL c UZU c ZA d TENU d SQUARED TIMES KUR c ZAG c ZAMX c ZE2 c
   ZI d OVER ZI c ZI3 c ZIB d KABA TENU c ZIG c ZIZ2 c ZU c ZU5 d TIMES A c ZUBUR c ZUM c KAP
   ELAMITE c AB TIMES NUN c AB2 TIMES A c AMAR TIMES KUG c DAG KISIM5 TIMES U2 PLUS MASH c DAG3 c
   DISH PLUS SHU c DUB TIMES SHE c EZEN TIMES GUD e SHE c GA2 TIMES AN PLUS KAK PLUS A e ASH2 c
   GE22 c GIG c HUSH c KA TIMES ANSHE e ASH3 e GISH e GUD e HI TIMES ASH2 e LUM e PA e SHUL e TU
   e UR2 c LAGAB TIMES GI c LU2 SHESHIG TIMES BAD d TIMES ESH2 PLUS LAL e SHU c MESH c MUSH3
   TIMES ZA c NA4 c NIN c NIN9 c NINDA2 TIMES BAL e GI c NU11 ROTATED NINETY DEGREES c PESH2
   ASTERISK c PIR2 c SAG TIMES IGI GUNU c TI2 c UM TIMES ME c U U b12400 NUMERIC SIGN TWO ASH d
   THREE ASH d FOUR ASH d FIVE ASH d SIX ASH d SEVEN ASH d EIGHT ASH d NINE ASH d THREE DISH d
   FOUR DISH d FIVE DISH d SIX DISH d SEVEN DISH d EIGHT DISH d NINE DISH d FOUR U d FIVE U d SIX
   U d SEVEN U d EIGHT U d NINE U d ONE GESH2 d TWO GESH2 d THREE GESH2 d FOUR GESH2 d FIVE GESH2
   d SIX GESH2 d SEVEN GESH2 d EIGHT GESH2 d NINE GESH2 d ONE GESHU d TWO GESHU d THREE GESHU d
   FOUR GESHU d FIVE GESHU d TWO SHAR2 d THREE SHAR2 f VARIANT FORM d FOUR SHAR2 d FIVE SHAR2 d
   SIX SHAR2 d SEVEN SHAR2 d EIGHT SHAR2 d NINE SHAR2 d ONE SHARU d TWO SHARU d THREE SHARU f
   VARIANT FORM d FOUR SHARU d FIVE SHARU d SHAR2 TIMES GAL PLUS DISH h MIN d ONE BURU d TWO BURU
   d THREE BURU f VARIANT FORM d FOUR BURU d FIVE BURU d THREE VARIANT FORM ESH16 g ESH21 d FOUR
   VARIANT FORM LIMMU g LIMMU4 g LIMMU A h B d SIX VARIANT FORM ASH9 d SEVEN VARIANT FORM IMIN3 g
   IMIN A h B d EIGHT VARIANT FORM USSU g USSU3 d NINE VARIANT FORM ILIMMU g ILIMMU3 g ILIMMU4 g
   ILIMMU A d TWO ASH TENU d THREE ASH TENU d FOUR ASH TENU d FIVE ASH TENU d SIX ASH TENU d ONE
   BAN2 d TWO BAN2 d THREE BAN2 d FOUR BAN2 f VARIANT FORM d FIVE BAN2 f VARIANT FORM d NIGIDAMIN
   d NIGIDAESH d ONE ESHE3 d TWO ESHE3 d ONE THIRD DISH d TWO THIRDS DISH d FIVE SIXTHS DISH d
   ONE THIRD VARIANT FORM A d TWO THIRDS VARIANT FORM A d ONE EIGHTH ASH e QUARTER ASH d OLD
   ASSYRIAN ONE SIXTH g QUARTER d ONE QUARTER GUR e HALF GUR d ELAMITE ONE THIRD e TWO THIRDS e
   FORTY e FIFTY d FOUR U VARIANT FORM d FIVE U VARIANT FORM d SIX U VARIANT FORM d SEVEN U
   VARIANT FORM d EIGHT U VARIANT FORM d NINE U VARIANT FORM b12470 PUNCTUATION SIGN OLD ASSYRIAN
   WORD DIVIDER d VERTICAL COLON d DIAGONAL COLON e TRICOLON e QUADCOLON b12480 SIGN AB TIMES NUN
   TENU e SHU2 c AD TIMES ESH2 c BAD TIMES DISH TENU c BAHAR2 TIMES AB2 e NI e ZA c BU OVER BU
   TIMES NA2 c DA TIMES TAK4 c DAG TIMES KUR c DIM TIMES IGI e U U U c DIM2 TIMES UD c DUG TIMES
   ANSHE e ASH f AT LEFT e DIN e DUN e ERIN2 e GA e GI e GIR2 GUNU e GISH e HA e HI e IGI GUNU e
   KASKAL e KUR e KUSHU2 f PLUS KASKAL e LAK-020 e LAM f TIMES KUR e LUH PLUS GISH e MASH e MES e
   MI e NI e PI e SHE e SI GUNU c E2 TIMES KUR e PAP c ERIN2 X c ESH2 CROSSING ESH2 c EZEN
   SHESHIG TIMES ASH f HI f IGI GUNU f LA f LAL f ME f MES f SU d TIMES SU c GA2 TIMES BAHAR2 e
   DIM GUNU e DUG TIMES IGI GUNU g KASKAL e EREN e GA e GAR PLUS DI g NE e HA PLUS A e KUSHU2
   PLUS KASKAL e LAM f TIMES KUR e LUH e MUSH e NE f PLUS E2 g GI e SHIM e ZIZ2 c GABA ROTATED
   NINETY DEGREES c GESHTIN TIMES U c GISH TIMES GISH CROSSING GISH c GU2 TIMES IGI GUNU c GUD
   PLUS GISH TIMES TAK4 c HA TENU GUNU c HI TIMES ASH OVER HI TIMES ASH c KA TIMES BU e KA e U U
   U e UR c LAGAB TIMES ZU OVER ZU c LAK-003 c LAK-021 c LAK-025 c LAK-030 c LAK-050 c LAK-051 c
   LAK-062 c LAK-079 OVER LAK-079 GUNU c LAK-080 c LAK-081 OVER LAK-081 c LAK-092 c LAK-130 c
   LAK-142 c LAK-210 c LAK-219 c LAK-220 c LAK-225 c LAK-228 c LAK-238 c LAK-265 c LAK-266 c
   LAK-343 c LAK-347 c LAK-348 c LAK-383 c LAK-384 c LAK-390 c LAK-441 c LAK-449 d TIMES GU e IGI
   e PAP PLUS LU3 g PAP PLUS LU3 e U2 PLUS BA c LAK-450 c LAK-457 c LAK-470 c LAK-483 c LAK-490 c
   LAK-492 c LAK-493 c LAK-495 c LAK-550 c LAK-608 c LAK-617 d TIMES ASH e BAD e DUN3 GUNU GUNU e
   KU3 e LA e TAR e TE e U2 e UD e URUDA c LAK-636 c LAK-648 d TIMES DUB e GA e IGI f GUNU e NI e
   PAP PLUS PAP PLUS LU3 e SHESH PLUS KI e UD e URUDA c LAK-724 c LAK-749 c LU2 GUNU TIMES ASH d
   TIMES DISH e HAL e PAP f PLUS PAP PLUS LU3 e TAK4 c MI PLUS ZA7 c MUSH OVER MUSH TIMES GA g
   KAK c NINDA2 TIMES DIM GUNU e GISH e GUL e HI e KESH2 e LAK-050 e MASH e PAP PLUS PAP e U f
   PLUS U e URUDA c SAG GUNU TIMES HA d TIMES EN e SHE AT LEFT e TAK4 c SHA6 TENU c SHE OVER SHE
   d PLUS HUB2 e NAM2 e SAR c SHU2 PLUS DUG TIMES NI e E2 TIMES AN c SI TIMES TAK4 c TAK4 PLUS
   SAG c TUM TIMES GAN2 TENU e THREE DISH c UR2 INVERTED d TIMES UD c URU TIMES DARA3 e LAK-668 e
   LU3 c ZA7 c ZU OVER ZU PLUS SAR c ZU5 TIMES THREE DISH TENU a12F90 CYPRO-MINOAN SIGN CM001 c
   CM002 c CM004 c CM005 c CM006 c CM007 c CM008 c CM009 c CM010 c CM011 c CM012 c CM012B c CM013
   c CM015 c CM017 c CM019 c CM021 c CM023 c CM024 c CM025 c CM026 c CM027 c CM028 c CM029 c
   CM030 c CM033 c CM034 c CM035 c CM036 c CM037 c CM038 c CM039 c CM040 c CM041 c CM044 c CM046
   c CM047 c CM049 c CM050 c CM051 c CM052 c CM053 c CM054 c CM055 c CM056 c CM058 c CM059 c
   CM060 c CM061 c CM062 c CM063 c CM064 c CM066 c CM067 c CM068 c CM069 c CM070 c CM071 c CM072
   c CM073 c CM074 c CM075 c CM075B c CM076 c CM078 c CM079 c CM080 c CM081 c CM082 c CM083 c
   CM084 c CM085 c CM086 c CM087 c CM088 c CM089 c CM090 c CM091 c CM092 c CM094 c CM095 c CM096
   c CM097 c CM098 c CM099 c CM100 c CM101 c CM102 c CM103 c CM104 c CM105 c CM107 c CM108 c
   CM109 c CM110 c CM112 c CM114 c CM301 c CM302 a13000 EGYPTIAN HIEROGLYPH A001 c A002 c A003 c
   A004 c A005 c A005A c A006 c A006A c A006B c A007 c A008 c A009 c A010 c A011 c A012 c A013 c
   A014 c A014A c A015 c A016 c A017 c A017A c A018 c A019 c A020 c A021 c A022 c A023 c A024 c
   A025 c A026 c A027 c A028 c A029 c A030 c A031 c A032 c A032A c A033 c A034 c A035 c A036 c
   A037 c A038 c A039 c A040 c A040A c A041 c A042 c A042A c A043 c A043A c A044 c A045 c A045A c
   A046 c A047 c A048 c A049 c A050 c A051 c A052 c A053 c A054 c A055 c A056 c A057 c A058 c
   A059 c A060 c A061 c A062 c A063 c A064 c A065 c A066 c A067 c A068 c A069 c A070 c B001 c
   B002 c B003 c B004 c B005 c B005A c B006 c B007 c B008 c B009 c C001 c C002 c C002A c C002B c
   C002C c C003 c C004 c C005 c C006 c C007 c C008 c C009 c C010 c C010A c C011 c C012 c C013 c
   C014 c C015 c C016 c C017 c C018 c C019 c C020 c C021 c C022 c C023 c C024 c D001 c D002 c
   D003 c D004 c D005 c D006 c D007 c D008 c D008A c D009 c D010 c D011 c D012 c D013 c D014 c
   D015 c D016 c D017 c D018 c D019 c D020 c D021 c D022 c D023 c D024 c D025 c D026 c D027 c
   D027A c D028 c D029 c D030 c D031 c D031A c D032 c D033 c D034 c D034A c D035 c D036 c D037 c
   D038 c D039 c D040 c D041 c D042 c D043 c D044 c D045 c D046 c D046A c D047 c D048 c D048A c
   D049 c D050 c D050A c D050B c D050C c D050D c D050E c D050F c D050G c D050H c D050I c D051 c
   D052 c D052A c D053 c D054 c D054A c D055 c D056 c D057 c D058 c D059 c D060 c D061 c D062 c
   D063 c D064 c D065 c D066 c D067 c D067A c D067B c D067C c D067D c D067E c D067F c D067G c
   D067H c E001 c E002 c E003 c E004 c E005 c E006 c E007 c E008 c E008A c E009 c E009A c E010 c
   E011 c E012 c E013 c E014 c E015 c E016 c E016A c E017 c E017A c E018 c E019 c E020 c E020A c
   E021 c E022 c E023 c E024 c E025 c E026 c E027 c E028 c E028A c E029 c E030 c E031 c E032 c
   E033 c E034 c E034A c E036 c E037 c E038 c F001 c F001A c F002 c F003 c F004 c F005 c F006 c
   F007 c F008 c F009 c F010 c F011 c F012 c F013 c F013A c F014 c F015 c F016 c F017 c F018 c
   F019 c F020 c F021 c F021A c F022 c F023 c F024 c F025 c F026 c F027 c F028 c F029 c F030 c
   F031 c F031A c F032 c F033 c F034 c F035 c F036 c F037 c F037A c F038 c F038A c F039 c F040 c
   F041 c F042 c F043 c F044 c F045 c F045A c F046 c F046A c F047 c F047A c F048 c F049 c F050 c
   F051 c F051A c F051B c F051C c F052 c F053 c G001 c G002 c G003 c G004 c G005 c G006 c G006A c
   G007 c G007A c G007B c G008 c G009 c G010 c G011 c G011A c G012 c G013 c G014 c G015 c G016 c
   G017 c G018 c G019 c G020 c G020A c G021 c G022 c G023 c G024 c G025 c G026 c G026A c G027 c
   G028 c G029 c G030 c G031 c G032 c G033 c G034 c G035 c G036 c G036A c G037 c G037A c G038 c
   G039 c G040 c G041 c G042 c G043 c G043A c G044 c G045 c G045A c G046 c G047 c G048 c G049 c
   G050 c G051 c G052 c G053 c G054 c H001 c H002 c H003 c H004 c H005 c H006 c H006A c H007 c
   H008 c I001 c I002 c I003 c I004 c I005 c I005A c I006 c I007 c I008 c I009 c I009A c I010 c
   I010A c I011 c I011A c I012 c I013 c I014 c I015 c K001 c K002 c K003 c K004 c K005 c K006 c
   K007 c K008 c L001 c L002 c L002A c L003 c L004 c L005 c L006 c L006A c L007 c L008 c M001 c
   M001A c M001B c M002 c M003 c M003A c M004 c M005 c M006 c M007 c M008 c M009 c M010 c M010A c
   M011 c M012 c M012A c M012B c M012C c M012D c M012E c M012F c M012G c M012H c M013 c M014 c
   M015 c M015A c M016 c M016A c M017 c M017A c M018 c M019 c M020 c M021 c M022 c M022A c M023 c
   M024 c M024A c M025 c M026 c M027 c M028 c M028A c M029 c M030 c M031 c M031A c M032 c M033 c
   M033A c M033B c M034 c M035 c M036 c M037 c M038 c M039 c M040 c M040A c M041 c M042 c M043 c
   M044 c N001 c N002 c N003 c N004 c N005 c N006 c N007 c N008 c N009 c N010 c N011 c N012 c
   N013 c N014 c N015 c N016 c N017 c N018 c N018A c N018B c N019 c N020 c N021 c N022 c N023 c
   N024 c N025 c N025A c N026 c N027 c N028 c N029 c N030 c N031 c N032 c N033 c N033A c N034 c
   N034A c N035 c N035A c N036 c N037 c N037A c N038 c N039 c N040 c N041 c N042 c NL001 c NL002
   c NL003 c NL004 c NL005 c NL005A c NL006 c NL007 c NL008 c NL009 c NL010 c NL011 c NL012 c
   NL013 c NL014 c NL015 c NL016 c NL017 c NL017A c NL018 c NL019 c NL020 c NU001 c NU002 c NU003
   c NU004 c NU005 c NU006 c NU007 c NU008 c NU009 c NU010 c NU010A c NU011 c NU011A c NU012 c
   NU013 c NU014 c NU015 c NU016 c NU017 c NU018 c NU018A c NU019 c NU020 c NU021 c NU022 c
   NU022A c O001 c O001A c O002 c O003 c O004 c O005 c O005A c O006 c O006A c O006B c O006C c
   O006D c O006E c O006F c O007 c O008 c O009 c O010 c O010A c O010B c O010C c O011 c O012 c O013
   c O014 c O015 c O016 c O017 c O018 c O019 c O019A c O020 c O020A c O021 c O022 c O023 c O024 c
   O024A c O025 c O025A c O026 c O027 c O028 c O029 c O029A c O030 c O030A c O031 c O032 c O033 c
   O033A c O034 c O035 c O036 c O036A c O036B c O036C c O036D c O037 c O038 c O039 c O040 c O041
   c O042 c O043 c O044 c O045 c O046 c O047 c O048 c O049 c O050 c O050A c O050B c O051 c P001 c
   P001A c P002 c P003 c P003A c P004 c P005 c P006 c P007 c P008 c P009 c P010 c P011 c Q001 c
   Q002 c Q003 c Q004 c Q005 c Q006 c Q007 c R001 c R002 c R002A c R003 c R003A c R003B c R004 c
   R005 c R006 c R007 c R008 c R009 c R010 c R010A c R011 c R012 c R013 c R014 c R015 c R016 c
   R016A c R017 c R018 c R019 c R020 c R021 c R022 c R023 c R024 c R025 c R026 c R027 c R028 c
   R029 c S001 c S002 c S002A c S003 c S004 c S005 c S006 c S006A c S007 c S008 c S009 c S010 c
   S011 c S012 c S013 c S014 c S014A c S014B c S015 c S016 c S017 c S017A c S018 c S019 c S020 c
   S021 c S022 c S023 c S024 c S025 c S026 c S026A c S026B c S027 c S028 c S029 c S030 c S031 c
   S032 c S033 c S034 c S035 c S035A c S036 c S037 c S038 c S039 c S040 c S041 c S042 c S043 c
   S044 c S045 c S046 c T001 c T002 c T003 c T003A c T004 c T005 c T006 c T007 c T007A c T008 c
   T008A c T009 c T009A c T010 c T011 c T011A c T012 c T013 c T014 c T015 c T016 c T016A c T017 c
   T018 c T019 c T020 c T021 c T022 c T023 c T024 c T025 c T026 c T027 c T028 c T029 c T030 c
   T031 c T032 c T032A c T033 c T033A c T034 c T035 c T036 c U001 c U002 c U003 c U004 c U005 c
   U006 c U006A c U006B c U007 c U008 c U009 c U010 c U011 c U012 c U013 c U014 c U015 c U016 c
   U017 c U018 c U019 c U020 c U021 c U022 c U023 c U023A c U024 c U025 c U026 c U027 c U028 c
   U029 c U029A c U030 c U031 c U032 c U032A c U033 c U034 c U035 c U036 c U037 c U038 c U039 c
   U040 c U041 c U042 c V001 c V001A c V001B c V001C c V001D c V001E c V001F c V001G c V001H c
   V001I c V002 c V002A c V003 c V004 c V005 c V006 c V007 c V007A c V007B c V008 c V009 c V010 c
   V011 c V011A c V011B c V011C c V012 c V012A c V012B c V013 c V014 c V015 c V016 c V017 c V018
   c V019 c V020 c V020A c V020B c V020C c V020D c V020E c V020F c V020G c V020H c V020I c V020J
   c V020K c V020L c V021 c V022 c V023 c V023A c V024 c V025 c V026 c V027 c V028 c V028A c V029
   c V029A c V030 c V030A c V031 c V031A c V032 c V033 c V033A c V034 c V035 c V036 c V037 c
   V037A c V038 c V039 c V040 c V040A c W001 c W002 c W003 c W003A c W004 c W005 c W006 c W007 c
   W008 c W009 c W009A c W010 c W010A c W011 c W012 c W013 c W014 c W014A c W015 c W016 c W017 c
   W017A c W018 c W018A c W019 c W020 c W021 c W022 c W023 c W024 c W024A c W025 c X001 c X002 c
   X003 c X004 c X004A c X004B c X005 c X006 c X006A c X007 c X008 c X008A c Y001 c Y001A c Y002
   c Y003 c Y004 c Y005 c Y006 c Y007 c Y008 c Z001 c Z002 c Z002A c Z002B c Z002C c Z002D c Z003
   c Z003A c Z003B c Z004 c Z004A c Z005 c Z005A c Z006 c Z007 c Z008 c Z009 c Z010 c Z011 c Z012
   c Z013 c Z014 c Z015 c Z015A c Z015B c Z015C c Z015D c Z015E c Z015F c Z015G c Z015H c Z015I c
   Z016 c Z016A c Z016B c Z016C c Z016D c Z016E c Z016F c Z016G c Z016H c AA001 c AA002 c AA003 c
   AA004 c AA005 c AA006 c AA007 c AA007A c AA007B c AA008 c AA009 c AA010 c AA011 c AA012 c
   AA013 c AA014 c AA015 c AA016 c AA017 c AA018 c AA019 c AA020 c AA021 c AA022 c AA023 c AA024
   c AA025 c AA026 c AA027 c AA028 c AA029 c AA030 c AA031 c AA032 c13430 VERTICAL JOINER c
   HORIZONTAL JOINER c INSERT AT TOP START e BOTTOM START e TOP END e BOTTOM END c OVERLAY MIDDLE
   c BEGIN SEGMENT c END SEGMENT a14400 ANATOLIAN HIEROGLYPH A001 c A002 c A003 c A004 c A005 c
   A006 c A007 c A008 c A009 c A010 c A010A c A011 c A012 c A013 c A014 c A015 c A016 c A017 c
   A018 c A019 c A020 c A021 c A022 c A023 c A024 c A025 c A026 c A026A c A027 c A028 c A029 c
   A030 c A031 c A032 c A033 c A034 c A035 c A036 c A037 c A038 c A039 c A039A c A040 c A041 c
   A041A c A042 c A043 c A044 c A045 c A045A c A046 c A046A c A046B c A047 c A048 c A049 c A050 c
   A051 c A052 c A053 c A054 c A055 c A056 c A057 c A058 c A059 c A060 c A061 c A062 c A063 c
   A064 c A065 c A066 c A066A c A066B c A066C c A067 c A068 c A069 c A070 c A071 c A072 c A073 c
   A074 c A075 c A076 c A077 c A078 c A079 c A080 c A081 c A082 c A083 c A084 c A085 c A086 c
   A087 c A088 c A089 c A090 c A091 c A092 c A093 c A094 c A095 c A096 c A097 c A097A c A098 c
   A098A c A099 c A100 c A100A c A101 c A101A c A102 c A102A c A103 c A104 c A104A c A104B c
   A104C c A105 c A105A c A105B c A106 c A107 c A107A c A107B c A107C c A108 c A109 c A110 c
   A110A c A110B c A111 c A112 c A113 c A114 c A115 c A115A c A116 c A117 c A118 c A119 c A120 c
   A121 c A122 c A123 c A124 c A125 c A125A c A126 c A127 c A128 c A129 c A130 c A131 c A132 c
   A133 c A134 c A135 c A135A c A136 c A137 c A138 c A139 c A140 c A141 c A142 c A143 c A144 c
   A145 c A146 c A147 c A148 c A149 c A150 c A151 c A152 c A153 c A154 c A155 c A156 c A157 c
   A158 c A159 c A160 c A161 c A162 c A163 c A164 c A165 c A166 c A167 c A168 c A169 c A170 c
   A171 c A172 c A173 c A174 c A175 c A176 c A177 c A178 c A179 c A180 c A181 c A182 c A183 c
   A184 c A185 c A186 c A187 c A188 c A189 c A190 c A191 c A192 c A193 c A194 c A195 c A196 c
   A197 c A198 c A199 c A200 c A201 c A202 c A202A c A202B c A203 c A204 c A205 c A206 c A207 c
   A207A c A208 c A209 c A209A c A210 c A211 c A212 c A213 c A214 c A215 c A215A c A216 c A216A c
   A217 c A218 c A219 c A220 c A221 c A222 c A223 c A224 c A225 c A226 c A227 c A227A c A228 c
   A229 c A230 c A231 c A232 c A233 c A234 c A235 c A236 c A237 c A238 c A239 c A240 c A241 c
   A242 c A243 c A244 c A245 c A246 c A247 c A248 c A249 c A250 c A251 c A252 c A253 c A254 c
   A255 c A256 c A257 c A258 c A259 c A260 c A261 c A262 c A263 c A264 c A265 c A266 c A267 c
   A267A c A268 c A269 c A270 c A271 c A272 c A273 c A274 c A275 c A276 c A277 c A278 c A279 c
   A280 c A281 c A282 c A283 c A284 c A285 c A286 c A287 c A288 c A289 c A289A c A290 c A291 c
   A292 c A293 c A294 c A294A c A295 c A296 c A297 c A298 c A299 c A299A c A300 c A301 c A302 c
   A303 c A304 c A305 c A306 c A307 c A308 c A309 c A309A c A310 c A311 c A312 c A313 c A314 c
   A315 c A316 c A317 c A318 c A319 c A320 c A321 c A322 c A323 c A324 c A325 c A326 c A327 c
   A328 c A329 c A329A c A330 c A331 c A332A c A332B c A332C c A333 c A334 c A335 c A336 c A336A
   c A336B c A336C c A337 c A338 c A339 c A340 c A341 c A342 c A343 c A344 c A345 c A346 c A347 c
   A348 c A349 c A350 c A351 c A352 c A353 c A354 c A355 c A356 c A357 c A358 c A359 c A359A c
   A360 c A361 c A362 c A363 c A364 c A364A c A365 c A366 c A367 c A368 c A368A c A369 c A370 c
   A371 c A371A c A372 c A373 c A374 c A375 c A376 c A377 c A378 c A379 c A380 c A381 c A381A c
   A382 c A383 RA OR RI c A383A c A384 c A385 c A386 c A386A c A387 c A388 c A389 c A390 c A391 c
   A392 c A393 EIGHT c A394 c A395 c A396 c A397 c A398 c A399 c A400 c A401 c A402 c A403 c A404
   c A405 c A406 c A407 c A408 c A409 c A410 BEGIN LOGOGRAM MARK c A410A END LOGOGRAM MARK c A411
   c A412 c A413 c A414 c A415 c A416 c A417 c A418 c A419 c A420 c A421 c A422 c A423 c A424 c
   A425 c A426 c A427 c A428 c A429 c A430 c A431 c A432 c A433 c A434 c A435 c A436 c A437 c
   A438 c A439 c A440 c A441 c A442 c A443 c A444 c A445 c A446 c A447 c A448 c A449 c A450 c
   A450A c A451 c A452 c A453 c A454 c A455 c A456 c A457 c A457A c A458 c A459 c A460 c A461 c
   A462 c A463 c A464 c A465 c A466 c A467 c A468 c A469 c A470 c A471 c A472 c A473 c A474 c
   A475 c A476 c A477 c A478 c A479 c A480 c A481 c A482 c A483 c A484 c A485 c A486 c A487 c
   A488 c A489 c A490 c A491 c A492 c A493 c A494 c A495 c A496 c A497 c A501 c A502 c A503 c
   A504 c A505 c A506 c A507 c A508 c A509 c A510 c A511 c A512 c A513 c A514 c A515 c A516 c
   A517 c A518 c A519 c A520 c A521 c A522 c A523 c A524 c A525 c A526 c A527 c A528 c A529 c
   A530 a16800 BAMUM LETTER PHASE-A NGKUE MFON d GBIEE FON d PON MFON PIPAEMGBIEE f PIPAEMBA d
   NAA MFON d SHUENSHUET d TITA MFON d NZA MFON d SHINDA PA NJI d PON PA NJI PIPAEMGBIEE g
   PIPAEMBA d MAEMBGBIEE d TU MAEMBA d NGANGU d MAEMVEUX d MANSUAE d MVEUAENGAM d SEUNYAM d
   NTOQPEN d KEUKEUTNDA d NKINDI d SUU d NGKUENZEUM d LAPAQ d LET KUT d NTAP MFAA d MAEKEUP d
   PASHAE d GHEUAERAE d PAMSHAE d MON NGGEUAET d NZUN MEUT d U YUQ NAE d GHEUAEGHEUAE d NTAP NTAA
   d SISA d MGBASA d MEUNJOMNDEUQ d MOOMPUQ d KAFA d PA LEERAEWA d NDA LEERAEWA d PET d MAEMKPEN
   d NIKA d PUP d TUAEP d LUAEP d SONJAM d TEUTEUWEN d MAENYI d KET d NDAANGGEUAET d KUOQ d
   MOOMEUT d SHUM d LOMMAE d FIRI d ROM d KPOQ d SOQ d MAP PIEET d SHIRAE d NTAP d SHOQ NSHUT YUM
   d NYIT MONGKEUAEQ d PAARAE d NKAARAE d UNKNOWN d NGGEN d MAESI d NJAM d MBANYI d NYET d TEUAEN
   d SOT d PAAM d NSHIEE d MAEM d NYI d KAQ d NSHA d VEE d LU d NEN d NAQ d MBAQ c PHASE-B NSHUET
   d TU MAEMGBIEE d SIEE d SET TU d LOM NTEUM d MBA MAELEE d KIEEM d YEURAE d MBAARAE d KAM d
   PEESHI d YAFU LEERAEWA d LAM NSHUT NYAM d NTIEE SHEUOQ d NDU NJAA d GHEUGHEUAEM d PIT d TU
   NSIEE d SHET NJAQ d SHEUAEQTU d MFON TEUAEQ d MBIT MBAAKET d NYI NTEUM d KEUPUQ d GHEUGHEN d
   KEUYEUX d LAANAE d PARUM d VEUM d NGKINDI MVOP d NGGEU MBU d WUAET d SAKEUAE d TAAM d MEUQ d
   NGGUOQ e LARGE d MFIYAQ d SUE d MBEURI d MONTIEEN d NYAEMAE d PUNGAAM d MEUT NGGEET d FEUX d
   MBUOQ d FEE d KEUAEM d MA NJEUAENA e NJUQA d LET d NGGAAM d NSEN d MA d KIQ d NGOM c PHASE-C
   NGKUE MAEMBA d NZA d YUM d WANGKUOQ d NGGEN d NDEUAEREE d NGKAQ d GHARAE d MBEEKEET d GBAYI d
   NYIR MKPARAQ MEUN d NTU MBIT d MBEUM d PIRIEEN d NDOMBU d MBAA CABBAGE-TREE d KEUSHEUAEP d
   GHAP d KEUKAQ d YU MUOMAE d NZEUM d MBUE d NSEUAEN d MBIT d YEUQ d KPARAQ d KAA d SEUX d NDIDA
   d TAASHAE d NJUEQ d TITA YUE d SUAET d NGGUAEN NYAM d VEUX d NANSANAQ d MA KEUAERI d NTAA d
   NGGUON d LAP d MBIRIEEN d MGBASAQ d NTEUNGBA d TEUTEUX d NGGUM d FUE d NDEUT d NSA d NSHAQ d
   BUNG d VEUAEPEN d MBERAE d RU d NJAEM d LAM d TITUAEP d NSUOT NGOM d NJEEEE d KET d NGGU d
   MAESI d MBUAEM d LU d KUT d NJAM d NGOM d WUP d NGGUEET d NSOM d NTEN d KUOP NKAARAE d NSUN d
   NDAM d MA NSIEE d YAA d NDAP d SHUEQ d SETFON d MBI d MAEMBA d MBANYI d KEUSEUX d MBEUX d KEUM
   d MBAA PICKET d YUWOQ d NJEUX d MIEE d MUAE d SHIQ d KEN LAW e FATIGUE d NGAQ d NAQ d LIQ d
   PIN d PEN d TET c PHASE-D MBUO d WAP d NJI d MFON d NJIEE d LIEE d NJEUT d NSHEE d NGGAAMAE d
   NYAM d WUAEN d NGKUN d SHEE d NGKAP d KEUAETMEUN d TEUT d SHEUAE d NJAP d SUE d KET d YAEMMAE
   d KUOM d SAP d MFEUT d NDEUX d MALEERI d MEUT d SEUAEQ d YEN d NJEUAEM d KEUOT MBUAE d NGKEURI
   d TU d GHAA d NGKYEE d FEUFEUAET d NDEE d MGBOFUM d LEUAEP d NDON d MONI d MGBEUN d PUUT d
   MGBIEE d MFO d LUM d NSIEEP d MBAA d KWAET d NYET d TEUAEN d SOT d YUWOQ d KEUM d RAEM d TEEEE
   d NGKEUAEQ d MFEUAE d NSIEET d KEUP d PIP d PEUTAE d NYUE d LET d NGGAAM d MFIEE d NGGWAEN d
   YUOM d PAP d YUOP d NDAM d NTEUM d SUAE d KUN d NGGEUX d NGKIEE d TUOT d MEUN d KUQ d NSUM d
   TEUN d MAENJET d NGGAP d LEUM d NGGUOM d NSHUT d NJUEQ d GHEUAE d KU d REN OLD d TAE d TOQ d
   NYI d RII d LEEEE d MEEEE d M d SUU d MU d SHII d SHEUX d KYEE d NU d SHU d NTEE d PEE d NI d
   SHOQ d PUQ d MVOP d LOQ d REN MUCH d TI d NTUU d MBAA SEVEN d SAQ d FAA c PHASE-E NDAP d TOON
   d MBEUM d LAP d VOM d LOON d PAA d SOM d RAQ d NSHUOP d NDUN d PUAE d TAM d NGKA d KPEUX d WUO
   d SEE d NGGEUAET d PAAM d TOO d KUOP d LOM d NSHIEE d NGOP d MAEM d NGKEUX d NGOQ d NSHUE d
   RIMGBA d NJEUX d PEEM d SAA d NGGURAE d MGBA d GHEUX d NGKEUAEM d NJAEMLI d MAP d LOOT d
   NGGEEEE d NDIQ d TAEN NTEUM d SET d PUM d NDAA SOFTNESS d NGGUAESHAE NYAM d YIEE d GHEUN d
   TUAE d YEUAE d PO d TUMAE d KEUAE d SUAEN d TEUAEQ d VEUAE d WEUX d LAAM d PU d TAAQ d GHAAMAE
   d NGEUREUT d SHEUAEQ d MGBEN d MBEE d NZAQ d NKOM d GBET d TUM d KUET d YAP d NYI CLEAVER d
   YIT d MFEUQ d NDIAQ d PIEEQ d YUEQ d LEUAEM d FUE d GBEUX d NGKUP d KET d MAE d NGKAAMI d GHET
   d FA d NTUM d PEUT d YEUM d NGGEUAE d NYI BETWEEN d NZUQ d POON d MIEE d FUET d NAE d MUAE d
   GHEUAE d FU I d MVI d PUAQ d NGKUM d KUT d PIET d NTAP d YEUAET d NGGUP d PA PEOPLE d FU CALL
   d FOM d NJEE d A d TOQ d O d I d LAQ d PA PLURAL d TAA d TAQ d NDAA MY HOUSE d SHIQ d YEUX d
   NGUAE d YUAEN d YOQ SWIMMING e COVER d YUQ d YUN d KEUX d PEUX d NJEE EPOCH d PUE d WUE d FEE
   d VEE d LU d MI d REUX d RAE d NGUAET d NGA d SHO d SHOQ d FU REMEDY d NA d PI d LOQ d KO d
   MEN d MA d MAQ d TEU d KI d MON d TEN d FAQ d GHOM c PHASE-F KA d U d KU d EE d REE d TAE d
   NYI d LA d RII d RIEE d MEEEE d TAA d NDAA d NJAEM d M d SUU d SHII d SI d SEUX d KYEE d KET d
   NUAE d NU d NJUAE d YOQ d SHU d YA d NSHA d PEUX d NTEE d WUE d PEE d RU d NI d REUX d KEN d
   NGKWAEN d NGGA d SHO d PUAE d FOM d WA d LI d LOQ d KO d MBEN d REN d MA d MO d MBAA d TET d
   KPA d SAMBA d VUEQ a16A40 MRO LETTER TA c NGI c YO c MIM c BA c DA c A c PHI c KHAI c HAO c
   DAI c CHU c KEAAE c OL c MAEM c NIN c PA c OO c O c RO c SHI c THEA c EA c WA c E c KO c LAN c
   LA c HAI c RI c TEK b16A60 DIGIT ZERO c ONE c TWO c THREE c FOUR c FIVE c SIX c SEVEN c EIGHT
   c NINE b16A6E DANDA b DOUBLE DANDA a TANGSA LETTER OZ c OC c OQ c OX c AZ c AC c AQ c AX c VZ
   c VC c VQ c VX c EZ c EC c EQ c EX c IZ c IC c IQ c IX c UZ c UC c UQ c UX c AWZ c AWC c AWQ c
   AWX c UIZ c UIC c UIQ c UIX c FINAL NG c LONG UEX c SHORT UEZ d AWX c UEC c UEZ c UEQ c UEX c
   UIUZ c UIUC c UIUQ c UIUX c MZ c MC c MQ c MX c KA c KHA c GA c NGA c SA c YA c WA c PA c NYA
   c PHA c BA c MA c NA c HA c LA c HTA c TA c DA c RA c NHA c SHA c CA c TSA c GHA c HTTA c THA
   c XA c FA c DHA c CHA c ZA b16AC0 DIGIT ZERO c ONE c TWO c THREE c FOUR c FIVE c SIX c SEVEN c
   EIGHT c NINE a16AD0 BASSA VAH LETTER ENNI d KA d SE d FA d MBE d YIE d GAH d DHII d KPAH d JO
   d HWAH d WA d ZO d GBU d DO d CE d UWU d TO d BA d VU d YEIN d PA d WADDA d A d O d OO d U d
   EE d E d I c16AF0 COMBINING HIGH TONE d LOW TONE d MID TONE d LOW-MID TONE d HIGH-LOW TONE c
   FULL STOP a16B00 PAHAWH HMONG VOWEL KEEB d KEEV d KIB d KIV d KAUB d KAUV d KUB d KUV d KEB d
   KEV d KAIB d KAIV d KOOB d KOOV d KAWB d KAWV d KUAB d KUAV d KOB d KOV d KIAB d KIAV d KAB d
   KAV d KWB d KWV d KAAB d KAAV c CONSONANT VAU d NTSAU d LAU d HAU d NLAU d RAU d NKAU d QHAU d
   YAU d HLAU d MAU d CHAU d NCHAU d HNAU d PLHAU d NTHAU d NAU d AU d XAU d CAU c MARK CIM TUB e
   SO e KES e KHAV e SUAM e HOM e TAUM c SIGN VOS THOM e TSHAB CEEB d CIM CHEEM d VOS THIAB e
   FEEM d XYEEM NTXIV e RHO e TOV e FAIB d VOS SEEV d MEEJ SUAB d VOS NRUA d IB YAM d XAUS d CIM
   TSOV ROG c16B50 DIGIT ZERO d ONE d TWO d THREE d FOUR d FIVE d SIX d SEVEN d EIGHT d NINE
   c16B5B NUMBER TENS d HUNDREDS d TEN THOUSANDS d MILLIONS d HUNDRED MILLIONS d TEN BILLIONS d
   TRILLIONS c16B63 SIGN VOS LUB d XYOO d HLI d THIRD-STAGE HLI d ZWJ THAJ d HNUB d NQIG d XIAB d
   NTUJ d AV d TXHEEJ CEEV d MEEJ TSEEB d TAU d LOS d MUS d CIM HAIS LUS NTOG NTOG e CUAM TSHOOJ
   e TXWV f CHWV e PUB DAWB e NRES TOS c16B7D CLAN SIGN TSHEEJ e YEEG e LIS e LAUJ e XYOOJ e KOO
   e HAWJ e MUAS e THOJ e TSAB e PHAB e KHAB e HAM e VAJ e FAJ e YAJ e TSWB e KWM e VWJ a16E40
   MEDEFAIDRIN CAPITAL LETTER M d S d V d W d ATIU d Z d KP d P d T d G d F d I d K d A d J d E d
   B d C d U d YU d L d Q d HP d NY d X d D d OE d N d R d O d AI d Y b SMALL LETTER M d S d V d
   W d ATIU d Z d KP d P d T d G d F d I d K d A d J d E d B d C d U d YU d L d Q d HP d NY d X d
   D d OE d N d R d O d AI d Y b DIGIT ZERO c ONE c TWO c THREE c FOUR c FIVE c SIX c SEVEN c
   EIGHT c NINE b NUMBER TEN c ELEVEN c TWELVE c THIRTEEN c FOURTEEN c FIFTEEN c SIXTEEN c
   SEVENTEEN c EIGHTEEN c NINETEEN b DIGIT ONE ALTERNATE FORM c TWO ALTERNATE FORM c THREE
   ALTERNATE FORM b COMMA b FULL STOP b SYMBOL AIVA b EXCLAMATION OH a16F00 MIAO LETTER PA c BA c
   YI PA c PLA c MA c MHA c ARCHAIC MA c FA c VA c VFA c TA c DA c YI TTA d TA c TTA c DDA c NA c
   NHA c YI NNA c ARCHAIC NA c NNA c NNHA c LA c LYA c LHA c LHYA c TLHA c DLHA c TLHYA c DLHYA c
   KA c GA c YI KA c QA c QGA c NGA c NGHA c ARCHAIC NGA c HA c XA c GHA c GHHA c TSSA c DZZA c
   NYA c NYHA c TSHA c DZHA c YI TSHA d DZHA c REFORMED TSHA c SHA c SSA c ZHA c ZSHA c TSA c DZA
   c YI TSA c SA c ZA c ZSA c ZZA c ZZSA c ARCHAIC ZZA c ZZYA c ZZSYA c WA c AH c HHA c BRI c SYI
   c DZYI c TE c TSE c RTE b16F4F SIGN CONSONANT MODIFIER BAR b LETTER NASALIZATION b SIGN
   ASPIRATION c REFORMED VOICING d ASPIRATION b VOWEL SIGN A d AA d AHH d AN d ANG d O d OO d WO
   d W d E d EN d ENG d OEY d I d IA d IAN d IANG d IO d IE d II d IU d ING d U d UA d UAN d UANG
   d UU d UEI d UNG d Y d YI d AE d AEE d ERR d ROUNDED ERR d ER d ROUNDED ER d AI d EI d AU d OU
   d N d NG d UOG d YUI d OG d OER d VW d IG d EA d IONG d UI b16F8F TONE RIGHT c TOP RIGHT c
   ABOVE c BELOW b LETTER TONE-2 c TONE-3 c TONE-4 c TONE-5 c TONE-6 c TONE-7 c TONE-8 c REFORMED
   TONE-1 d TONE-2 d TONE-4 d TONE-5 d TONE-6 d TONE-8 a16FE0 TANGUT ITERATION MARK a NUSHU
   ITERATION MARK a OLD CHINESE HOOK MARK c ITERATION MARK a KHITAN SMALL SCRIPT FILLER a16FF0
   VIETNAMESE ALTERNATE READING MARK CA e NHAY a18800 TANGUT COMPONENT-001 b COMPONENT-002 b
   COMPONENT-003 b COMPONENT-004 b COMPONENT-005 b COMPONENT-006 b COMPONENT-007 b COMPONENT-008
   b COMPONENT-009 b COMPONENT-010 b COMPONENT-011 b COMPONENT-012 b COMPONENT-013 b
   COMPONENT-014 b COMPONENT-015 b COMPONENT-016 b COMPONENT-017 b COMPONENT-018 b COMPONENT-019
   b COMPONENT-020 b COMPONENT-021 b COMPONENT-022 b COMPONENT-023 b COMPONENT-024 b
   COMPONENT-025 b COMPONENT-026 b COMPONENT-027 b COMPONENT-028 b COMPONENT-029 b COMPONENT-030
   b COMPONENT-031 b COMPONENT-032 b COMPONENT-033 b COMPONENT-034 b COMPONENT-035 b
   COMPONENT-036 b COMPONENT-037 b COMPONENT-038 b COMPONENT-039 b COMPONENT-040 b COMPONENT-041
   b COMPONENT-042 b COMPONENT-043 b COMPONENT-044 b COMPONENT-045 b COMPONENT-046 b
   COMPONENT-047 b COMPONENT-048 b COMPONENT-049 b COMPONENT-050 b COMPONENT-051 b COMPONENT-052
   b COMPONENT-053 b COMPONENT-054 b COMPONENT-055 b COMPONENT-056 b COMPONENT-057 b
   COMPONENT-058 b COMPONENT-059 b COMPONENT-060 b COMPONENT-061 b COMPONENT-062 b COMPONENT-063
   b COMPONENT-064 b COMPONENT-065 b COMPONENT-066 b COMPONENT-067 b COMPONENT-068 b
   COMPONENT-069 b COMPONENT-070 b COMPONENT-071 b COMPONENT-072 b COMPONENT-073 b COMPONENT-074
   b COMPONENT-075 b COMPONENT-076 b COMPONENT-077 b COMPONENT-078 b COMPONENT-079 b
   COMPONENT-080 b COMPONENT-081 b COMPONENT-082 b COMPONENT-083 b COMPONENT-084 b COMPONENT-085
   b COMPONENT-086 b COMPONENT-087 b COMPONENT-088 b COMPONENT-089 b COMPONENT-090 b
   COMPONENT-091 b COMPONENT-092 b COMPONENT-093 b COMPONENT-094 b COMPONENT-095 b COMPONENT-096
   b COMPONENT-097 b COMPONENT-098 b COMPONENT-099 b COMPONENT-100 b COMPONENT-101 b
   COMPONENT-102 b COMPONENT-103 b COMPONENT-104 b COMPONENT-105 b COMPONENT-106 b COMPONENT-107
   b COMPONENT-108 b COMPONENT-109 b COMPONENT-110 b COMPONENT-111 b COMPONENT-112 b
   COMPONENT-113 b COMPONENT-114 b COMPONENT-115 b COMPONENT-116 b COMPONENT-117 b COMPONENT-118
   b COMPONENT-119 b COMPONENT-120 b COMPONENT-121 b COMPONENT-122 b COMPONENT-123 b
   COMPONENT-124 b COMPONENT-125 b COMPONENT-126 b COMPONENT-127 b COMPONENT-128 b COMPONENT-129
   b COMPONENT-130 b COMPONENT-131 b COMPONENT-132 b COMPONENT-133 b COMPONENT-134 b
   COMPONENT-135 b COMPONENT-136 b COMPONENT-137 b COMPONENT-138 b COMPONENT-139 b COMPONENT-140
   b COMPONENT-141 b COMPONENT-142 b COMPONENT-143 b COMPONENT-144 b COMPONENT-145 b
   COMPONENT-146 b COMPONENT-147 b COMPONENT-148 b COMPONENT-149 b COMPONENT-150 b COMPONENT-151
   b COMPONENT-152 b COMPONENT-153 b COMPONENT-154 b COMPONENT-155 b COMPONENT-156 b
   COMPONENT-157 b COMPONENT-158 b COMPONENT-159 b COMPONENT-160 b COMPONENT-161 b COMPONENT-162
   b COMPONENT-163 b COMPONENT-164 b COMPONENT-165 b COMPONENT-166 b COMPONENT-167 b
   COMPONENT-168 b COMPONENT-169 b COMPONENT-170 b COMPONENT-171 b COMPONENT-172 b COMPONENT-173
   b COMPONENT-174 b COMPONENT-175 b COMPONENT-176 b COMPONENT-177 b COMPONENT-178 b
   COMPONENT-179 b COMPONENT-180 b COMPONENT-181 b COMPONENT-182 b COMPONENT-183 b COMPONENT-184
   b COMPONENT-185 b COMPONENT-186 b COMPONENT-187 b COMPONENT-188 b COMPONENT-189 b
   COMPONENT-190 b COMPONENT-191 b COMPONENT-192 b COMPONENT-193 b COMPONENT-194 b COMPONENT-195
   b COMPONENT-196 b COMPONENT-197 b COMPONENT-198 b COMPONENT-199 b COMPONENT-200 b
   COMPONENT-201 b COMPONENT-202 b COMPONENT-203 b COMPONENT-204 b COMPONENT-205 b COMPONENT-206
   b COMPONENT-207 b COMPONENT-208 b COMPONENT-209 b COMPONENT-210 b COMPONENT-211 b
   COMPONENT-212 b COMPONENT-213 b COMPONENT-214 b COMPONENT-215 b COMPONENT-216 b COMPONENT-217
   b COMPONENT-218 b COMPONENT-219 b COMPONENT-220 b COMPONENT-221 b COMPONENT-222 b
   COMPONENT-223 b COMPONENT-224 b COMPONENT-225 b COMPONENT-226 b COMPONENT-227 b COMPONENT-228
   b COMPONENT-229 b COMPONENT-230 b COMPONENT-231 b COMPONENT-232 b COMPONENT-233 b
   COMPONENT-234 b COMPONENT-235 b COMPONENT-236 b COMPONENT-237 b COMPONENT-238 b COMPONENT-239
   b COMPONENT-240 b COMPONENT-241 b COMPONENT-242 b COMPONENT-243 b COMPONENT-244 b
   COMPONENT-245 b COMPONENT-246 b COMPONENT-247 b COMPONENT-248 b COMPONENT-249 b COMPONENT-250
   b COMPONENT-251 b COMPONENT-252 b COMPONENT-253 b COMPONENT-254 b COMPONENT-255 b
   COMPONENT-256 b COMPONENT-257 b COMPONENT-258 b COMPONENT-259 b COMPONENT-260 b COMPONENT-261
   b COMPONENT-262 b COMPONENT-263 b COMPONENT-264 b COMPONENT-265 b COMPONENT-266 b
   COMPONENT-267 b COMPONENT-268 b COMPONENT-269 b COMPONENT-270 b COMPONENT-271 b COMPONENT-272
   b COMPONENT-273 b COMPONENT-274 b COMPONENT-275 b COMPONENT-276 b COMPONENT-277 b
   COMPONENT-278 b COMPONENT-279 b COMPONENT-280 b COMPONENT-281 b COMPONENT-282 b COMPONENT-283
   b COMPONENT-284 b COMPONENT-285 b COMPONENT-286 b COMPONENT-287 b COMPONENT-288 b
   COMPONENT-289 b COMPONENT-290 b COMPONENT-291 b COMPONENT-292 b COMPONENT-293 b COMPONENT-294
   b COMPONENT-295 b COMPONENT-296 b COMPONENT-297 b COMPONENT-298 b COMPONENT-299 b
   COMPONENT-300 b COMPONENT-301 b COMPONENT-302 b COMPONENT-303 b COMPONENT-304 b COMPONENT-305
   b COMPONENT-306 b COMPONENT-307 b COMPONENT-308 b COMPONENT-309 b COMPONENT-310 b
   COMPONENT-311 b COMPONENT-312 b COMPONENT-313 b COMPONENT-314 b COMPONENT-315 b COMPONENT-316
   b COMPONENT-317 b COMPONENT-318 b COMPONENT-319 b COMPONENT-320 b COMPONENT-321 b
   COMPONENT-322 b COMPONENT-323 b COMPONENT-324 b COMPONENT-325 b COMPONENT-326 b COMPONENT-327
   b COMPONENT-328 b COMPONENT-329 b COMPONENT-330 b COMPONENT-331 b COMPONENT-332 b
   COMPONENT-333 b COMPONENT-334 b COMPONENT-335 b COMPONENT-336 b COMPONENT-337 b COMPONENT-338
   b COMPONENT-339 b COMPONENT-340 b COMPONENT-341 b COMPONENT-342 b COMPONENT-343 b
   COMPONENT-344 b COMPONENT-345 b COMPONENT-346 b COMPONENT-347 b COMPONENT-348 b COMPONENT-349
   b COMPONENT-350 b COMPONENT-351 b COMPONENT-352 b COMPONENT-353 b COMPONENT-354 b
   COMPONENT-355 b COMPONENT-356 b COMPONENT-357 b COMPONENT-358 b COMPONENT-359 b COMPONENT-360
   b COMPONENT-361 b COMPONENT-362 b COMPONENT-363 b COMPONENT-364 b COMPONENT-365 b
   COMPONENT-366 b COMPONENT-367 b COMPONENT-368 b COMPONENT-369 b COMPONENT-370 b COMPONENT-371
   b COMPONENT-372 b COMPONENT-373 b COMPONENT-374 b COMPONENT-375 b COMPONENT-376 b
   COMPONENT-377 b COMPONENT-378 b COMPONENT-379 b COMPONENT-380 b COMPONENT-381 b COMPONENT-382
   b COMPONENT-383 b COMPONENT-384 b COMPONENT-385 b COMPONENT-386 b COMPONENT-387 b
   COMPONENT-388 b COMPONENT-389 b COMPONENT-390 b COMPONENT-391 b COMPONENT-392 b COMPONENT-393
   b COMPONENT-394 b COMPONENT-395 b COMPONENT-396 b COMPONENT-397 b COMPONENT-398 b
   COMPONENT-399 b COMPONENT-400 b COMPONENT-401 b COMPONENT-402 b COMPONENT-403 b COMPONENT-404
   b COMPONENT-405 b COMPONENT-406 b COMPONENT-407 b COMPONENT-408 b COMPONENT-409 b
   COMPONENT-410 b COMPONENT-411 b COMPONENT-412 b COMPONENT-413 b COMPONENT-414 b COMPONENT-415
   b COMPONENT-416 b COMPONENT-417 b COMPONENT-418 b COMPONENT-419 b COMPONENT-420 b
   COMPONENT-421 b COMPONENT-422 b COMPONENT-423 b COMPONENT-424 b COMPONENT-425 b COMPONENT-426
   b COMPONENT-427 b COMPONENT-428 b COMPONENT-429 b COMPONENT-430 b COMPONENT-431 b
   COMPONENT-432 b COMPONENT-433 b COMPONENT-434 b COMPONENT-435 b COMPONENT-436 b COMPONENT-437
   b COMPONENT-438 b COMPONENT-439 b COMPONENT-440 b COMPONENT-441 b COMPONENT-442 b
   COMPONENT-443 b COMPONENT-444 b COMPONENT-445 b COMPONENT-446 b COMPONENT-447 b COMPONENT-448
   b COMPONENT-449 b COMPONENT-450 b COMPONENT-451 b COMPONENT-452 b COMPONENT-453 b
   COMPONENT-454 b COMPONENT-455 b COMPONENT-456 b COMPONENT-457 b COMPONENT-458 b COMPONENT-459
   b COMPONENT-460 b COMPONENT-461 b COMPONENT-462 b COMPONENT-463 b COMPONENT-464 b
   COMPONENT-465 b COMPONENT-466 b COMPONENT-467 b COMPONENT-468 b COMPONENT-469 b COMPONENT-470
   b COMPONENT-471 b COMPONENT-472 b COMPONENT-473 b COMPONENT-474 b COMPONENT-475 b
   COMPONENT-476 b COMPONENT-477 b COMPONENT-478 b COMPONENT-479 b COMPONENT-480 b COMPONENT-481
   b COMPONENT-482 b COMPONENT-483 b COMPONENT-484 b COMPONENT-485 b COMPONENT-486 b
   COMPONENT-487 b COMPONENT-488 b COMPONENT-489 b COMPONENT-490 b COMPONENT-491 b COMPONENT-492
   b COMPONENT-493 b COMPONENT-494 b COMPONENT-495 b COMPONENT-496 b COMPONENT-497 b
   COMPONENT-498 b COMPONENT-499 b COMPONENT-500 b COMPONENT-501 b COMPONENT-502 b COMPONENT-503
   b COMPONENT-504 b COMPONENT-505 b COMPONENT-506 b COMPONENT-507 b COMPONENT-508 b
   COMPONENT-509 b COMPONENT-510 b COMPONENT-511 b COMPONENT-512 b COMPONENT-513 b COMPONENT-514
   b COMPONENT-515 b COMPONENT-516 b COMPONENT-517 b COMPONENT-518 b COMPONENT-519 b
   COMPONENT-520 b COMPONENT-521 b COMPONENT-522 b COMPONENT-523 b COMPONENT-524 b COMPONENT-525
   b COMPONENT-526 b COMPONENT-527 b COMPONENT-528 b COMPONENT-529 b COMPONENT-530 b
   COMPONENT-531 b COMPONENT-532 b COMPONENT-533 b COMPONENT-534 b COMPONENT-535 b COMPONENT-536
   b COMPONENT-537 b COMPONENT-538 b COMPONENT-539 b COMPONENT-540 b COMPONENT-541 b
   COMPONENT-542 b COMPONENT-543 b COMPONENT-544 b COMPONENT-545 b COMPONENT-546 b COMPONENT-547
   b COMPONENT-548 b COMPONENT-549 b COMPONENT-550 b COMPONENT-551 b COMPONENT-552 b
   COMPONENT-553 b COMPONENT-554 b COMPONENT-555 b COMPONENT-556 b COMPONENT-557 b COMPONENT-558
   b COMPONENT-559 b COMPONENT-560 b COMPONENT-561 b COMPONENT-562 b COMPONENT-563 b
   COMPONENT-564 b COMPONENT-565 b COMPONENT-566 b COMPONENT-567 b COMPONENT-568 b COMPONENT-569
   b COMPONENT-570 b COMPONENT-571 b COMPONENT-572 b COMPONENT-573 b COMPONENT-574 b
   COMPONENT-575 b COMPONENT-576 b COMPONENT-577 b COMPONENT-578 b COMPONENT-579 b COMPONENT-580
   b COMPONENT-581 b COMPONENT-582 b COMPONENT-583 b COMPONENT-584 b COMPONENT-585 b
   COMPONENT-586 b COMPONENT-587 b COMPONENT-588 b COMPONENT-589 b COMPONENT-590 b COMPONENT-591
   b COMPONENT-592 b COMPONENT-593 b COMPONENT-594 b COMPONENT-595 b COMPONENT-596 b
   COMPONENT-597 b COMPONENT-598 b COMPONENT-599 b COMPONENT-600 b COMPONENT-601 b COMPONENT-602
   b COMPONENT-603 b COMPONENT-604 b COMPONENT-605 b COMPONENT-606 b COMPONENT-607 b
   COMPONENT-608 b COMPONENT-609 b COMPONENT-610 b COMPONENT-611 b COMPONENT-612 b COMPONENT-613
   b COMPONENT-614 b COMPONENT-615 b COMPONENT-616 b COMPONENT-617 b COMPONENT-618 b
   COMPONENT-619 b COMPONENT-620 b COMPONENT-621 b COMPONENT-622 b COMPONENT-623 b COMPONENT-624
   b COMPONENT-625 b COMPONENT-626 b COMPONENT-627 b COMPONENT-628 b COMPONENT-629 b
   COMPONENT-630 b COMPONENT-631 b COMPONENT-632 b COMPONENT-633 b COMPONENT-634 b COMPONENT-635
   b COMPONENT-636 b COMPONENT-637 b COMPONENT-638 b COMPONENT-639 b COMPONENT-640 b
   COMPONENT-641 b COMPONENT-642 b COMPONENT-643 b COMPONENT-644 b COMPONENT-645 b COMPONENT-646
   b COMPONENT-647 b COMPONENT-648 b COMPONENT-649 b COMPONENT-650 b COMPONENT-651 b
   COMPONENT-652 b COMPONENT-653 b COMPONENT-654 b COMPONENT-655 b COMPONENT-656 b COMPONENT-657
   b COMPONENT-658 b COMPONENT-659 b COMPONENT-660 b COMPONENT-661 b COMPONENT-662 b
   COMPONENT-663 b COMPONENT-664 b COMPONENT-665 b COMPONENT-666 b COMPONENT-667 b COMPONENT-668
   b COMPONENT-669 b COMPONENT-670 b COMPONENT-671 b COMPONENT-672 b COMPONENT-673 b
   COMPONENT-674 b COMPONENT-675 b COMPONENT-676 b COMPONENT-677 b COMPONENT-678 b COMPONENT-679
   b COMPONENT-680 b COMPONENT-681 b COMPONENT-682 b COMPONENT-683 b COMPONENT-684 b
   COMPONENT-685 b COMPONENT-686 b COMPONENT-687 b COMPONENT-688 b COMPONENT-689 b COMPONENT-690
   b COMPONENT-691 b COMPONENT-692 b COMPONENT-693 b COMPONENT-694 b COMPONENT-695 b
   COMPONENT-696 b COMPONENT-697 b COMPONENT-698 b COMPONENT-699 b COMPONENT-700 b COMPONENT-701
   b COMPONENT-702 b COMPONENT-703 b COMPONENT-704 b COMPONENT-705 b COMPONENT-706 b
   COMPONENT-707 b COMPONENT-708 b COMPONENT-709 b COMPONENT-710 b COMPONENT-711 b COMPONENT-712
   b COMPONENT-713 b COMPONENT-714 b COMPONENT-715 b COMPONENT-716 b COMPONENT-717 b
   COMPONENT-718 b COMPONENT-719 b COMPONENT-720 b COMPONENT-721 b COMPONENT-722 b COMPONENT-723
   b COMPONENT-724 b COMPONENT-725 b COMPONENT-726 b COMPONENT-727 b COMPONENT-728 b
   COMPONENT-729 b COMPONENT-730 b COMPONENT-731 b COMPONENT-732 b COMPONENT-733 b COMPONENT-734
   b COMPONENT-735 b COMPONENT-736 b COMPONENT-737 b COMPONENT-738 b COMPONENT-739 b
   COMPONENT-740 b COMPONENT-741 b COMPONENT-742 b COMPONENT-743 b COMPONENT-744 b COMPONENT-745
   b COMPONENT-746 b COMPONENT-747 b COMPONENT-748 b COMPONENT-749 b COMPONENT-750 b
   COMPONENT-751 b COMPONENT-752 b COMPONENT-753 b COMPONENT-754 b COMPONENT-755 b COMPONENT-756
   b COMPONENT-757 b COMPONENT-758 b COMPONENT-759 b COMPONENT-760 b COMPONENT-761 b
   COMPONENT-762 b COMPONENT-763 b COMPONENT-764 b COMPONENT-765 b COMPONENT-766 b COMPONENT-767
   b COMPONENT-768 a1AFF0 KATAKANA LETTER MINNAN TONE-2 d TONE-3 d TONE-4 d TONE-5 d1AFF5 TONE-7
   d TONE-8 d NASALIZED TONE-1 e TONE-2 e TONE-3 e TONE-4 e TONE-5 e1AFFD TONE-7 e TONE-8 c1B000
   ARCHAIC E a HIRAGANA LETTER ARCHAIC YE a HENTAIGANA LETTER A-1 c A-2 c A-3 c A-WO c I-1 c I-2
   c I-3 c I-4 c U-1 c U-2 c U-3 c U-4 c U-5 c E-2 c E-3 c E-4 c E-5 c E-6 c O-1 c O-2 c O-3 c
   KA-1 c KA-2 c KA-3 c KA-4 c KA-5 c KA-6 c KA-7 c KA-8 c KA-9 c KA-10 c KA-11 c KA-KE c KI-1 c
   KI-2 c KI-3 c KI-4 c KI-5 c KI-6 c KI-7 c KI-8 c KU-1 c KU-2 c KU-3 c KU-4 c KU-5 c KU-6 c
   KU-7 c KE-1 c KE-2 c KE-3 c KE-4 c KE-5 c KE-6 c KO-1 c KO-2 c KO-3 c KO-KI c SA-1 c SA-2 c
   SA-3 c SA-4 c SA-5 c SA-6 c SA-7 c SA-8 c SI-1 c SI-2 c SI-3 c SI-4 c SI-5 c SI-6 c SU-1 c
   SU-2 c SU-3 c SU-4 c SU-5 c SU-6 c SU-7 c SU-8 c SE-1 c SE-2 c SE-3 c SE-4 c SE-5 c SO-1 c
   SO-2 c SO-3 c SO-4 c SO-5 c SO-6 c SO-7 c TA-1 c TA-2 c TA-3 c TA-4 c TI-1 c TI-2 c TI-3 c
   TI-4 c TI-5 c TI-6 c TI-7 c TU-1 c TU-2 c TU-3 c TU-4 c TU-TO c TE-1 c TE-2 c TE-3 c TE-4 c
   TE-5 c TE-6 c TE-7 c TE-8 c TE-9 c TO-1 c TO-2 c TO-3 c TO-4 c TO-5 c TO-6 c TO-RA c NA-1 c
   NA-2 c NA-3 c NA-4 c NA-5 c NA-6 c NA-7 c NA-8 c NA-9 c NI-1 c NI-2 c NI-3 c NI-4 c NI-5 c
   NI-6 c NI-7 c NI-TE c NU-1 c NU-2 c NU-3 c NE-1 c NE-2 c NE-3 c NE-4 c NE-5 c NE-6 c NE-KO c
   NO-1 c NO-2 c NO-3 c NO-4 c NO-5 c HA-1 c HA-2 c HA-3 c HA-4 c HA-5 c HA-6 c HA-7 c HA-8 c
   HA-9 c HA-10 c HA-11 c HI-1 c HI-2 c HI-3 c HI-4 c HI-5 c HI-6 c HI-7 c HU-1 c HU-2 c HU-3 c
   HE-1 c HE-2 c HE-3 c HE-4 c HE-5 c HE-6 c HE-7 c HO-1 c HO-2 c HO-3 c HO-4 c HO-5 c HO-6 c
   HO-7 c HO-8 c MA-1 c MA-2 c MA-3 c MA-4 c MA-5 c MA-6 c MA-7 c MI-1 c MI-2 c MI-3 c MI-4 c
   MI-5 c MI-6 c MI-7 c MU-1 c MU-2 c MU-3 c MU-4 c ME-1 c ME-2 c ME-MA c MO-1 c MO-2 c MO-3 c
   MO-4 c MO-5 c MO-6 c YA-1 c YA-2 c YA-3 c YA-4 c YA-5 c YA-YO c YU-1 c YU-2 c YU-3 c YU-4 c
   YO-1 c YO-2 c YO-3 c YO-4 c YO-5 c YO-6 c RA-1 c RA-2 c RA-3 c RA-4 c RI-1 c RI-2 c RI-3 c
   RI-4 c RI-5 c RI-6 c RI-7 c RU-1 c RU-2 c RU-3 c RU-4 c RU-5 c RU-6 c RE-1 c RE-2 c RE-3 c
   RE-4 c RO-1 c RO-2 c RO-3 c RO-4 c RO-5 c RO-6 c WA-1 c WA-2 c WA-3 c WA-4 c WA-5 c WI-1 c
   WI-2 c WI-3 c WI-4 c WI-5 c WE-1 c WE-2 c WE-3 c WE-4 c WO-1 c WO-2 c WO-3 c WO-4 c WO-5 c
   WO-6 c WO-7 c N-MU-MO-1 c N-MU-MO-2 a HIRAGANA LETTER ARCHAIC WU a KATAKANA LETTER ARCHAIC YI
   d YE d WU a1B150 HIRAGANA LETTER SMALL WI d WE d WO a1B164 KATAKANA LETTER SMALL WI d WE d WO
   d N a1BC00 DUPLOYAN LETTER H c X c P c T c F c K c L c B c D c V c G c R c P N c D S c F N c K
   M c R S c TH c SLOAN DH c DH c KK c SLOAN J c HL c LH c RH c M c N c J c S c M N c N M c J M c
   S J c M WITH DOT c N WITH DOT c J WITH DOT e DOTS INSIDE AND ABOVE c S WITH DOT f BELOW c M S
   c N S c J S c S S c M N S c N M S c J M S c S J S c J S WITH DOT d N e S c S T e R d P e R c T
   S d R S c W c WH c W R c S N d M c K R S c G R S c S K e R c A c SLOAN OW c OA c O c AOU c I c
   E c IE c SHORT I c UI c EE c SLOAN EH c ROMANIAN I c SLOAN EE c LONG I c YE c U c EU c XW c U
   N c LONG U c ROMANIAN U c UH c SLOAN U c OOH c OW c OU c WA c WO c WI c WEI c WOW c NASAL U d
   O d I d A c PERNIN AN d AM c SLOAN EN d AN d ON c VOCALIC M b1BC70 AFFIX LEFT HORIZONTAL
   SECANT c MID HORIZONTAL SECANT c RIGHT HORIZONTAL SECANT c LOW VERTICAL SECANT c MID VERTICAL
   SECANT c HIGH VERTICAL SECANT c ATTACHED SECANT d LEFT-TO-RIGHT SECANT d TANGENT d TAIL d E
   HOOK d I HOOK d TANGENT HOOK c1BC80 HIGH ACUTE d TIGHT ACUTE d GRAVE d LONG GRAVE d DOT d
   CIRCLE d LINE d WAVE d VERTICAL c1BC90 LOW ACUTE d TIGHT ACUTE d GRAVE d LONG GRAVE d DOT d
   CIRCLE d LINE d WAVE d VERTICAL d ARROW b1BC9C SIGN O WITH CROSS b THICK LETTER SELECTOR b
   DOUBLE MARK b PUNCTUATION CHINOOK FULL STOP a SHORTHAND FORMAT LETTER OVERLAP c CONTINUING
   OVERLAP c DOWN STEP c UP STEP a1CF00 ZNAMENNY COMBINING MARK GORAZDO NIZKO S KRYZHEM ON LEFT d
   NIZKO S KRYZHEM ON LEFT d TSATA ON LEFT d GORAZDO NIZKO ON LEFT d NIZKO ON LEFT d SREDNE ON
   LEFT d MALO POVYSHE ON LEFT d POVYSHE ON LEFT d VYSOKO ON LEFT d MALO POVYSHE S KHOKHLOM ON
   LEFT d POVYSHE S KHOKHLOM ON LEFT d VYSOKO S KHOKHLOM ON LEFT d GORAZDO NIZKO S KRYZHEM ON
   RIGHT d NIZKO S KRYZHEM ON RIGHT d TSATA ON RIGHT d GORAZDO NIZKO ON RIGHT d NIZKO ON RIGHT d
   SREDNE ON RIGHT d MALO POVYSHE ON RIGHT d POVYSHE ON RIGHT d VYSOKO ON RIGHT d MALO POVYSHE S
   KHOKHLOM ON RIGHT d POVYSHE S KHOKHLOM ON RIGHT d VYSOKO S KHOKHLOM ON RIGHT d TSATA S KRYZHEM
   d MALO POVYSHE S KRYZHEM d STRANNO MALO POVYSHE d POVYSHE S KRYZHEM e STRANNO d VYSOKO S
   KRYZHEM d MALO POVYSHE STRANNO d GORAZDO VYSOKO d ZELO d ON d RAVNO d TIKHAYA d BORZAYA d
   UDARKA d PODVERTKA d LOMKA d KUPNAYA d KACHKA d ZEVOK d SKOBA d RAZSEKA d KRYZH ON LEFT c1CF30
   TONAL RANGE MARK MRACHNO f SVETLO f TRESVETLO c MARK ZADERZHKA d DEMESTVENNY ZADERZHKA d
   OTSECHKA d PODCHASHIE e WITH VERTICAL STROKE d CHASHKA e POLNAYA d OBLACHKO d SOROCHYA NOZHKA
   d TOCHKA d DVOETOCHIE c ATTACHING VERTICAL OMET c MARK CURVED OMET d KRYZH c LOWER TONAL RANGE
   INDICATOR b PRIZNAK MODIFIER LEVEL-2 d LEVEL-3 d DIRECTION FLIP d KRYZH d ROG b1CF50 NEUME
   KRYUK d TIKHY c PARAKLIT c DVA V CHELNU c KLYUCH c ZANOZHEK c STOPITSA d S OCHKOM c PEREVODKA
   d NEPOSTOYANNAYA c STOPITSA WITH SOROCHYA NOZHKA c CHELYUSTKA c PALKA c ZAPYATAYA c GOLUBCHIK
   BORZY d TIKHY d MRACHNY d SVETLY d TRESVETLY c VRAKHIYA PROSTAYA d MRACHNAYA d SVETLAYA d
   TRESVETLAYA d KLYUCHEVAYA PROSTAYA e MRACHNAYA e SVETLAYA e TRESVETLAYA c DOUBLE ZAPYATAYA c
   REVERSED CHELYUSTKA c DERBITSA c KHAMILO c CHASHKA c PODCHASHIE c SKAMEYTSA MRACHNAYA d
   SVETLAYA d TRESVETLAYA d TIKHAYA c DEMESTVENNY KLYUCH c SKAMEYTSA KLYUCHEVAYA SVETLAYA d
   KLYUCHENEPOSTOYANNAYA d KLYUCHEVAYA TIKHAYA d DVOECHELNAYA PROSTAYA e SVETLAYA e
   NEPOSTOYANNAYA e KLYUCHEVAYA c SLOZHITIE d S ZAPYATOY d ZAKRYTOE d S KRYZHEM c KRYZH c ROG c
   FITA c KOBYLA c ZMEYTSA c STATYA d S ZAPYATOY e KRYZHEM e ZAPYATOY I KRYZHEM e KRYZHEM I
   ZAPYATOY d ZAKRYTAYA e S ZAPYATOY d S ROGOM e DVUMYA ZAPYATYMI e ZAPYATOY I PODCHASHIEM c
   POLKULIZMY c STATYA NEPOSTOYANNAYA c STRELA PROSTAYA d MRACHNOTIKHAYA d KRYZHEVAYA d
   POLUPOVODNAYA d POVODNAYA d NEPOSTOYANNAYA d KLYUCHEPOVODNAYA d KLYUCHENEPOSTOYANNAYA d
   TIKHAYA PUTNAYA d DVOECHELNAYA d DVOECHELNOKRYZHEVAYA d DVOECHELNOPOVODNAYA d DVOECHELNAYA
   KLYUCHEVAYA d DVOECHELNOPOVODNAYA KLYUCHEVAYA d GROMNAYA WITH SINGLE ZAPYATAYA d
   GROMOPOVODNAYA WITH SINGLE ZAPYATAYA d GROMNAYA d GROMOPOVODNAYA e WITH DOUBLE ZAPYATAYA d
   GROMOKRYZHEVAYA e POVODNAYA c MECHIK d POVODNY d KLYUCHEVOY d KLYUCHEPOVODNY d
   KLYUCHENEPOSTOYANNY c STRELA TRYASOGLASNAYA d TRYASOPOVODNAYA d TRYASOSTRELNAYA c OSOKA d
   SVETLAYA d TRESVETLAYA d KRYUKOVAYA SVETLAYA d KLYUCHEVAYA SVETLAYA e NEPOSTOYANNAYA c STRELA
   KRYUKOVAYA e POVODNAYA e GROMNAYA WITH SINGLE ZAPYATAYA e GROMOPOVODNAYA WITH SINGLE ZAPYATAYA
   e GROMNAYA e GROMOPOVODNAYA f WITH DOUBLE ZAPYATAYA e GROMOKRYZHEVAYA f POVODNAYA e TRYASKA c
   KUFISMA c OBLAKO c DUDA c NEMKA c PAUK"

end MarkupAudit.CharacterName
