/-!
# Names of characters: further names

A table of the names that some characters have besides their own, or instead of one: the names of
control characters, corrections, and abbreviations. Its entries are written as in the other tables.
-/

namespace MarkupAudit.CharacterName

/-- The further names of characters. -/
def further : String :=
  "a0 NUL a0 NULL a SOH a1 START OF HEADING c TEXT a2 STX a END OF TEXT a3 ETX a END OF
   TRANSMISSION a4 EOT a ENQ a5 ENQUIRY a ACK a6 ACKNOWLEDGE a ALERT a7 BEL a BACKSPACE a8 BS a
   CHARACTER TABULATION a9 HORIZONTAL TABULATION a9 HT a9 TAB a END OF LINE aA EOL aA LF aA LINE
   FEED aA NEW LINE aA NL a LINE TABULATION aB VERTICAL TABULATION aB VT a FF aC FORM FEED a
   CARRIAGE RETURN aD CR a LOCKING-SHIFT ONE aE SHIFT OUT aE SO a LOCKING-SHIFT ZERO aF SHIFT IN
   aF SI a DATA LINK ESCAPE a10 DLE a DC1 a11 DEVICE CONTROL ONE a DC2 a12 DEVICE CONTROL TWO a
   DC3 a13 DEVICE CONTROL THREE a DC4 a14 DEVICE CONTROL FOUR a NAK a15 NEGATIVE ACKNOWLEDGE a
   SYN a16 SYNCHRONOUS IDLE a END OF TRANSMISSION BLOCK a17 ETB a CAN a18 CANCEL a END OF MEDIUM
   a19 EOM a SUB a1A SUBSTITUTE a ESC a1B ESCAPE a FILE SEPARATOR a1C FS a1C INFORMATION
   SEPARATOR FOUR a GROUP SEPARATOR a1D GS a1D INFORMATION SEPARATOR THREE c TWO a1E RECORD
   SEPARATOR a1E RS a INFORMATION SEPARATOR ONE a1F UNIT SEPARATOR a1F US a SP a7F DEL a7F DELETE
   a PAD a80 PADDING CHARACTER a HIGH OCTET PRESET a81 HOP a BPH a82 BREAK PERMITTED HERE a NBH
   a83 NO BREAK HERE a IND a84 INDEX a NEL a85 NEXT LINE a SSA a86 START OF SELECTED AREA a END
   OF SELECTED AREA a87 ESA a CHARACTER TABULATION SET a88 HORIZONTAL TABULATION SET a88 HTS a
   CHARACTER TABULATION WITH JUSTIFICATION a89 HORIZONTAL TABULATION WITH JUSTIFICATION a89 HTJ a
   LINE TABULATION SET a8A VERTICAL TABULATION SET a8A VTS a PARTIAL LINE DOWN c8B FORWARD a8B
   PLD a PARTIAL LINE BACKWARD c8C UP a8C PLU a REVERSE INDEX b8D LINE FEED a8D RI a SINGLE SHIFT
   TWO a8E SINGLE-SHIFT-2 a8E SS2 a SINGLE SHIFT THREE a8F SINGLE-SHIFT-3 a8F SS3 a DCS a90
   DEVICE CONTROL STRING a PRIVATE USE ONE b91 USE-1 a91 PU1 a PRIVATE USE TWO b92 USE-2 a92 PU2
   a SET TRANSMIT STATE a93 STS a CANCEL CHARACTER a94 CCH a MESSAGE WAITING a95 MW a SPA a96
   START OF GUARDED AREA c96 PROTECTED AREA a END OF GUARDED AREA c97 PROTECTED AREA a97 EPA a
   SOS a98 START OF STRING a SGC a99 SINGLE GRAPHIC CHARACTER INTRODUCER a SCI a9A SINGLE
   CHARACTER INTRODUCER a CONTROL SEQUENCE INTRODUCER a9B CSI a ST a9C STRING TERMINATOR a
   OPERATING SYSTEM COMMAND a9D OSC a PM a9E PRIVACY MESSAGE a APC a9F APPLICATION PROGRAM
   COMMAND a NBSP aAD SHY a1A2 LATIN CAPITAL LETTER GHA b SMALL LETTER GHA a34F CGJ a61C ALM a709
   SYRIAC SUBLINEAR COLON SKEWED LEFT aCDE KANNADA LETTER LLLA aE9D LAO LETTER FO FON dE9F FAY
   cEA3 RO cEA5 LO aFD0 TIBETAN MARK BKA- SHOG GI MGO RGYAN a11EC HANGUL JONGSEONG
   YESIEUNG-KIYEOK c YESIEUNG-SSANGKIYEOK c SSANGYESIEUNG c YESIEUNG-KHIEUKH a180B FVS1 a FVS2 a
   FVS3 a MVS a FVS4 a200B ZWSP a ZWNJ a ZWJ a LRM a RLM a202A LRE a RLE a PDF a LRO a RLO a
   NNBSP a205F MMSP a WJ a2066 LRI a RLI a FSI a PDI a2118 WEIERSTRASS ELLIPTIC FUNCTION a2448
   MICR ON US SYMBOL b DASH SYMBOL a2B7A LEFTWARDS TRIANGLE-HEADED ARROW WITH DOUBLE VERTICAL
   STROKE a2B7C RIGHTWARDS TRIANGLE-HEADED ARROW WITH DOUBLE VERTICAL STROKE aA015 YI SYLLABLE
   ITERATION MARK aAA6E MYANMAR LETTER KHAMTI LLA aFE00 VS1 a VS2 a VS3 a VS4 a VS5 a VS6 a VS7 a
   VS8 a VS9 a VS10 a VS11 a VS12 a VS13 a VS14 a VS15 a VS16 aFE18 PRESENTATION FORM FOR
   VERTICAL RIGHT WHITE LENTICULAR BRACKET aFEFF BOM aFEFF BYTE ORDER MARK aFEFF ZWNBSP a122D4
   CUNEIFORM SIGN NU11 TENU d OVER NU11 BUR OVER BUR a16E56 MEDEFAIDRIN CAPITAL LETTER H d NG
   b16E76 SMALL LETTER H d NG a1B001 HENTAIGANA LETTER E-1 a1D0C5 BYZANTINE MUSICAL SYMBOL FTHORA
   SKLIRON CHROMA VASIS aE0100 VS17 a VS18 a VS19 a VS20 a VS21 a VS22 a VS23 a VS24 a VS25 a
   VS26 a VS27 a VS28 a VS29 a VS30 a VS31 a VS32 a VS33 a VS34 a VS35 a VS36 a VS37 a VS38 a
   VS39 a VS40 a VS41 a VS42 a VS43 a VS44 a VS45 a VS46 a VS47 a VS48 a VS49 a VS50 a VS51 a
   VS52 a VS53 a VS54 a VS55 a VS56 a VS57 a VS58 a VS59 a VS60 a VS61 a VS62 a VS63 a VS64 a
   VS65 a VS66 a VS67 a VS68 a VS69 a VS70 a VS71 a VS72 a VS73 a VS74 a VS75 a VS76 a VS77 a
   VS78 a VS79 a VS80 a VS81 a VS82 a VS83 a VS84 a VS85 a VS86 a VS87 a VS88 a VS89 a VS90 a
   VS91 a VS92 a VS93 a VS94 a VS95 a VS96 a VS97 a VS98 a VS99 a VS100 a VS101 a VS102 a VS103 a
   VS104 a VS105 a VS106 a VS107 a VS108 a VS109 a VS110 a VS111 a VS112 a VS113 a VS114 a VS115
   a VS116 a VS117 a VS118 a VS119 a VS120 a VS121 a VS122 a VS123 a VS124 a VS125 a VS126 a
   VS127 a VS128 a VS129 a VS130 a VS131 a VS132 a VS133 a VS134 a VS135 a VS136 a VS137 a VS138
   a VS139 a VS140 a VS141 a VS142 a VS143 a VS144 a VS145 a VS146 a VS147 a VS148 a VS149 a
   VS150 a VS151 a VS152 a VS153 a VS154 a VS155 a VS156 a VS157 a VS158 a VS159 a VS160 a VS161
   a VS162 a VS163 a VS164 a VS165 a VS166 a VS167 a VS168 a VS169 a VS170 a VS171 a VS172 a
   VS173 a VS174 a VS175 a VS176 a VS177 a VS178 a VS179 a VS180 a VS181 a VS182 a VS183 a VS184
   a VS185 a VS186 a VS187 a VS188 a VS189 a VS190 a VS191 a VS192 a VS193 a VS194 a VS195 a
   VS196 a VS197 a VS198 a VS199 a VS200 a VS201 a VS202 a VS203 a VS204 a VS205 a VS206 a VS207
   a VS208 a VS209 a VS210 a VS211 a VS212 a VS213 a VS214 a VS215 a VS216 a VS217 a VS218 a
   VS219 a VS220 a VS221 a VS222 a VS223 a VS224 a VS225 a VS226 a VS227 a VS228 a VS229 a VS230
   a VS231 a VS232 a VS233 a VS234 a VS235 a VS236 a VS237 a VS238 a VS239 a VS240 a VS241 a
   VS242 a VS243 a VS244 a VS245 a VS246 a VS247 a VS248 a VS249 a VS250 a VS251 a VS252 a VS253
   a VS254 a VS255 a VS256"

end MarkupAudit.CharacterName
