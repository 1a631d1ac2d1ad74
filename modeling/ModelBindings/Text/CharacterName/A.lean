/-!
# Character names that start with A
-/

set_option autoImplicit false

namespace ModelBindings.Text.CharacterName

/-- The character names that start with A, in groups. -/
def namesA : List (String × String) := [
  ("A", "BACUS,C CURRENT,CCORDION,CCOUNT OF"),
  ("AC", "K,KNOWLEDGE,TIVATE ARABIC FORM SHAPING,TIVATE SYMMETRIC SWAPPING,UTE ACCENT,UTE ANGLE"),
  ("AD", "DRESSED TO THE SUBJECT,HESIVE BANDAGE,I SHAKTI,LAM ALIF LENGTHENER"),
  ("ADLAM CAPITAL LETTER ", "ALIF,BA,BHE,CHI,DAALI,DHA,E,FA,GA,GBE,HA,I,JIIM,KAF,KHA,KPO,LAAM"),
  ("ADLAM CAPITAL LETTER ", "MIIM,NHA,NUN,NYA,O,PE,QAAF,RA,SHA,SINNYIIYHE,TU,U,VA,WAW,YA,YHE,ZAL"),
  ("ADLAM CONSONANT MODIFIER", ""),
  ("ADLAM DIGIT ", "EIGHT,FIVE,FOUR,NINE,ONE,SEVEN,SIX,THREE,TWO,ZERO"),
  ("ADLAM GEMINAT", "E CONSONANT MODIFIER,ION MARK"),
  ("ADLAM ", "HAMZA,INITIAL EXCLAMATION MARK,INITIAL QUESTION MARK,NASALIZATION MARK,NUKTA"),
  ("ADLAM SMALL LETTER ", "ALIF,BA,BHE,CHI,DAALI,DHA,E,FA,GA,GBE,HA,I,JIIM,KAF,KHA,KPO,LAAM,MIIM"),
  ("ADLAM SMALL LETTER ", "NHA,NUN,NYA,O,PE,QAAF,RA,SHA,SINNYIIYHE,TU,U,VA,WAW,YA,YHE,ZAL"),
  ("AD", "LAM VOWEL LENGTHENER,METOS,MISSION TICKETS,ULT"),
  ("AEGEAN ", "CHECK MARK,DRY MEASURE FIRST SUBUNIT,LIQUID MEASURE FIRST SUBUNIT"),
  ("AEGEAN MEASURE ", "SECOND SUBUNIT,THIRD SUBUNIT"),
  ("AEGEAN NUMBER EIGHT", ", HUNDRED, THOUSAND,Y,Y THOUSAND"),
  ("AEGEAN NUMBER F", "IFTY,IFTY THOUSAND,IVE,IVE HUNDRED,IVE THOUSAND,ORTY,ORTY THOUSAND,OUR"),
  ("AEGEAN NUMBER ", "FOUR HUNDRED,FOUR THOUSAND,NINE,NINE HUNDRED,NINE THOUSAND"),
  ("AEGEAN NUMBER ", "NINETY,NINETY THOUSAND,ONE,ONE HUNDRED,ONE THOUSAND,SEVEN,SEVEN HUNDRED"),
  ("AEGEAN NUMBER S", "EVEN THOUSAND,EVENTY,EVENTY THOUSAND,IX,IX HUNDRED,IX THOUSAND,IXTY"),
  ("AEGEAN NUMBER ", "SIXTY THOUSAND,TEN,TEN THOUSAND,THIRTY,THIRTY THOUSAND,THREE"),
  ("AEGEAN NUMBER T", "HREE HUNDRED,HREE THOUSAND,WENTY,WENTY THOUSAND,WO,WO HUNDRED,WO THOUSAND"),
  ("AEGEAN WEIGHT ", "BASE UNIT,FIRST SUBUNIT,FOURTH SUBUNIT,SECOND SUBUNIT,THIRD SUBUNIT"),
  ("A", "EGEAN WORD SEPARATOR DOT,EGEAN WORD SEPARATOR LINE,ERIAL TRAMWAY,FGHANI SIGN"),
  ("AHOM CONSONANT SIGN MEDIAL ", "LA,LIGATING RA,RA"),
  ("AHOM DIGIT ", "EIGHT,FIVE,FOUR,NINE,ONE,SEVEN,SIX,THREE,TWO,ZERO"),
  ("AHOM LETTER ", "A,ALTERNATE BA,ALTERNATE GA,ALTERNATE TA,BA,BHA,CA,CHA,DA,DDA,DDHA,DHA,GA"),
  ("AHOM LETTER ", "GHA,HA,JA,JHA,KA,KHA,LA,LLA,MA,NA,NGA,NNA,NYA,PA,PHA,RA,SA,TA,THA,TTA,TTHA"),
  ("AHOM NUMBER T", "EN,WENTY"),
  ("AHOM S", "IGN KILLER,IGN RULAI,IGN SECTION,IGN SMALL SECTION,YMBOL VI"),
  ("AHOM VOWEL SIGN ", "A,AA,AI,AM,AW,E,I,II,O,U,UU"),
  ("A", "IRPLANE,IRPLANE ARRIVING,IRPLANE DEPARTURE,KTIESELSKAB,LARM CLOCK"),
  ("ALCHEMICAL SYMBOL FOR A", "IR,LEMBIC,LKALI,LKALI-2,LUM,MALGAM,NTIMONY ORE"),
  ("ALCHEMICAL SYMBOL FOR AQUA", " REGIA, REGIA-2, VITAE, VITAE-2,FORTIS"),
  ("ALCHEMICAL SYMBOL FOR ", "ARSENIC,ASHES,AURIPIGMENT,BATH OF MARY,BATH OF VAPOURS,BISMUTH ORE"),
  ("ALCHEMICAL SYMBOL FOR ", "BLACK SULFUR,BORAX,BORAX-2,BORAX-3,BRICK,CADUCEUS,CALX"),
  ("ALCHEMICAL SYMBOL FOR C", "APUT MORTUUM,INNABAR,OPPER ANTIMONIATE,OPPER ORE,ROCUS OF COPPER"),
  ("ALCHEMICAL SYMBOL FOR CR", "OCUS OF COPPER-2,OCUS OF IRON,UCIBLE,UCIBLE-2,UCIBLE-3,UCIBLE-4"),
  ("ALCHEMICAL SYMBOL FOR ", "CRUCIBLE-5,DAY-NIGHT,DISSOLVE,DISSOLVE-2,DISTILL,EARTH,FIRE"),
  ("ALCHEMICAL SYMBOL FOR ", "GOLD,GUM,HALF DRAM,HALF OUNCE,HORSE DUNG,HOUR,IRON ORE,IRON ORE-2"),
  ("ALCHEMICAL SYMBOL FOR ", "IRON-COPPER ORE,LEAD ORE,LODESTONE,MARCASITE,MERCURY SUBLIMATE"),
  ("ALCHEMICAL SYMBOL FOR ", "MERCURY SUBLIMATE-2,MERCURY SUBLIMATE-3,MONTH,NIGHT,NITRE,OIL"),
  ("ALCHEMICAL SYMBOL FOR P", "HILOSOPHERS SULFUR,OT ASHES,OWDER,OWDERED BRICK,RECIPITATE,URIFY"),
  ("ALCHEMICAL SYMBOL FOR ", "PUTREFACTION,QUICK LIME,QUINTESSENCE,REALGAR,REALGAR-2"),
  ("ALCHEMICAL SYMBOL FOR REGULUS", ", OF ANTIMONY, OF ANTIMONY-2, OF IRON,-2,-3,-4"),
  ("ALCHEMICAL SYMBOL FOR ", "RETORT,ROCK SALT,ROCK SALT-2,SAL-AMMONIAC,SALT,SALT OF ANTIMONY"),
  ("ALCHEMICAL SYMBOL FOR S", "ALT OF COPPER ANTIMONIATE,CEPTER OF JOVE,ILVER,OAP,PIRIT"),
  ("ALCHEMICAL SYMBOL FOR ST", "ARRED TRIDENT,RATUM SUPER STRATUM,RATUM SUPER STRATUM-2"),
  ("ALCHEMICAL SYMBOL FOR SUBLIMATE OF ", "ANTIMONY,COPPER,SALT OF ANTIMONY,SALT OF COPPER"),
  ("ALCHEMICAL SYMBOL FOR ", "SUBLIMATION,SULFUR,TARTAR,TARTAR-2,TIN ORE,TINCTURE,TRIDENT,TUTTY"),
  ("ALCHEMICAL SYMBOL FOR ", "URINE,VERDIGRIS,VINEGAR,VINEGAR OF ANTIMONY,VINEGAR-2,VINEGAR-3"),
  ("ALCHEMICAL SYMBOL FOR ", "VITRIOL,VITRIOL-2,WATER,WAX"),
  ("AL", "EF SYMBOL,EMBIC,ERT,IEN MONSTER,L AROUND-PROFILE,L EQUAL TO,M,MOST EQUAL OR EQUAL TO"),
  ("AL", "MOST EQUAL TO,MOST EQUAL TO WITH CIRCUMFLEX ACCENT,TERNATE ONE-WAY LEFT WAY TRAFFIC"),
  ("A", "LTERNATIVE KEY SYMBOL,MALGAMATION OR COPRODUCT,MBULANCE,MERICAN FOOTBALL,MPERSAND,MPHORA"),
  ("ANATOLIAN HIEROGLYPH A0", "01,02,03,04,05,06,07,08,09,10,10A,11,12,13,14,15,16,17,18,19,20,21"),
  ("ANATOLIAN HIEROGLYPH A0", "22,23,24,25,26,26A,27,28,29,30,31,32,33,34,35,36,37,38,39,39A"),
  ("ANATOLIAN HIEROGLYPH A04", "0,1,1A,2,3,4,5,5A,6,6A,6B,7,8,9"),
  ("ANATOLIAN HIEROGLYPH A0", "50,51,52,53,54,55,56,57,58,59,60,61,62,63,64,65,66,66A,66B,66C,67"),
  ("ANATOLIAN HIEROGLYPH A0", "68,69,70,71,72,73,74,75,76,77,78,79,80,81,82,83,84,85,86,87,88,89"),
  ("ANATOLIAN HIEROGLYPH A09", "0,1,2,3,4,5,6,7,7A,8,8A,9"),
  ("ANATOLIAN HIEROGLYPH A10", "0,0A,1,1A,2,2A,3,4,4A,4B,4C,5,5A,5B,6,7,7A,7B,7C,8,9"),
  ("ANATOLIAN HIEROGLYPH A1", "10,10A,10B,11,12,13,14,15,15A,16,17,18,19,20,21,22,23,24,25,25A,26"),
  ("ANATOLIAN HIEROGLYPH A1", "27,28,29,30,31,32,33,34,35,35A,36,37,38,39,40,41,42,43,44,45,46,47"),
  ("ANATOLIAN HIEROGLYPH A1", "48,49,50,51,52,53,54,55,56,57,58,59,60,61,62,63,64,65,66,67,68,69"),
  ("ANATOLIAN HIEROGLYPH A1", "70,71,72,73,74,75,76,77,78,79,80,81,82,83,84,85,86,87,88,89,90,91"),
  ("ANATOLIAN HIEROGLYPH A", "192,193,194,195,196,197,198,199,200,201,202,202A"),
  ("ANATOLIAN HIEROGLYPH A2", "02B,03,04,05,06,07,07A,08,09,09A,10,11,12,13,14,15,15A,16,16A,17"),
  ("ANATOLIAN HIEROGLYPH A2", "18,19,20,21,22,23,24,25,26,27,27A,28,29,30,31,32,33,34,35,36,37,38"),
  ("ANATOLIAN HIEROGLYPH A2", "39,40,41,42,43,44,45,46,47,48,49,50,51,52,53,54,55,56,57,58,59,60"),
  ("ANATOLIAN HIEROGLYPH A2", "61,62,63,64,65,66,67,67A,68,69,70,71,72,73,74,75,76,77,78,79,80,81"),
  ("ANATOLIAN HIEROGLYPH A2", "82,83,84,85,86,87,88,89,89A,90,91,92,93,94,94A,95,96,97,98,99,99A"),
  ("ANATOLIAN HIEROGLYPH A3", "00,01,02,03,04,05,06,07,08,09,09A,10,11,12,13,14,15,16,17,18,19"),
  ("ANATOLIAN HIEROGLYPH A3", "20,21,22,23,24,25,26,27,28,29,29A,30,31,32A,32B,32C,33,34,35,36"),
  ("ANATOLIAN HIEROGLYPH A3", "36A,36B,36C,37,38,39,40,41,42,43,44,45,46,47,48,49,50,51,52,53,54"),
  ("ANATOLIAN HIEROGLYPH A3", "55,56,57,58,59,59A,60,61,62,63,64,64A,65,66,67,68,68A,69,70"),
  ("ANATOLIAN HIEROGLYPH A3", "71,71A,72,73,74,75,76,77,78,79,80,81,81A,82,83 RA OR RI,83A,84,85"),
  ("ANATOLIAN HIEROGLYPH A3", "86,86A,87,88,89,90,91,92,93 EIGHT,94,95,96,97,98,99"),
  ("ANATOLIAN HIEROGLYPH A4", "00,01,02,03,04,05,06,07,08,09,10 BEGIN LOGOGRAM MARK"),
  ("ANATOLIAN HIEROGLYPH A4", "10A END LOGOGRAM MARK,11,12,13,14,15,16,17,18,19,20,21,22,23,24,25"),
  ("ANATOLIAN HIEROGLYPH A4", "26,27,28,29,30,31,32,33,34,35,36,37,38,39,40,41,42,43,44,45,46,47"),
  ("ANATOLIAN HIEROGLYPH A4", "48,49,50,50A,51,52,53,54,55,56,57,57A,58,59,60,61,62,63,64,65,66"),
  ("ANATOLIAN HIEROGLYPH A4", "67,68,69,70,71,72,73,74,75,76,77,78,79,80,81,82,83,84,85,86,87,88"),
  ("ANATOLIAN HIEROGLYPH A", "489,490,491,492,493,494,495,496,497,501,502,503,504,505,506,507,508"),
  ("ANATOLIAN HIEROGLYPH A5", "09,10,11,12,13,14,15,16,17,18,19,20,21,22,23,24,25,26,27,28,29,30"),
  ("AN", "ATOMICAL HEART,CHOR,D WITH DOT,GER SYMBOL,GLE,GLE WITH S INSIDE,GLE WITH UNDERBAR"),
  ("AN", "GRY FACE,GSTROM SIGN,GUISHED FACE,KH,T,TENNA WITH BARS,TICLOCKWISE CLOSED CIRCLE ARROW"),
  ("ANTICLOCKWISE ", "CONTOUR INTEGRAL,DOWNWARDS AND UPWARDS OPEN CIRCLE ARROWS"),
  ("ANTICLOCKWISE ", "GAPPED CIRCLE ARROW,INTEGRATION,OPEN CIRCLE ARROW,TOP SEMICIRCLE ARROW"),
  ("ANTICLOCKWISE TRIANGLE-HEADED ", "BOTTOM U-SHAPED ARROW,LEFT U-SHAPED ARROW,OPEN CIRCLE ARROW"),
  ("ANTICLOCKWISE TRIANGLE-HEADED ", "RIGHT U-SHAPED ARROW,TOP U-SHAPED ARROW"),
  ("APC", ""),
  ("APL FUNCTIONAL SYMBOL ", "ALPHA,ALPHA UNDERBAR,BACKSLASH BAR"),
  ("APL FUNCTIONAL SYMBOL CIRCLE ", "BACKSLASH,DIAERESIS,JOT,STAR,STILE,UNDERBAR"),
  ("APL FUNCTIONAL SYMBOL ", "COMMA BAR,DEL DIAERESIS,DEL STILE,DEL TILDE,DELTA STILE"),
  ("APL FUNCTIONAL SYMBOL D", "ELTA UNDERBAR,IAMOND UNDERBAR,OWN CARET TILDE,OWN SHOE STILE"),
  ("APL FUNCTIONAL SYMBOL ", "DOWN TACK JOT,DOWN TACK UNDERBAR,DOWNWARDS VANE,EPSILON UNDERBAR"),
  ("APL FUNCTIONAL SYMBOL ", "GREATER-THAN DIAERESIS,I-BEAM,IOTA,IOTA UNDERBAR,JOT DIAERESIS"),
  ("APL FUNCTIONAL SYMBOL ", "JOT UNDERBAR,LEFT SHOE STILE,LEFTWARDS VANE,OMEGA,OMEGA UNDERBAR"),
  ("APL FUNCTIONAL SYMBOL QUAD", ", BACKSLASH, CIRCLE, COLON, DEL, DELTA, DIAMOND"),
  ("APL FUNCTIONAL SYMBOL QUAD ", "DIVIDE,DOWN CARET,DOWNWARDS ARROW,EQUAL,GREATER-THAN,JOT"),
  ("APL FUNCTIONAL SYMBOL QUAD ", "LEFTWARDS ARROW,LESS-THAN,NOT EQUAL,QUESTION,RIGHTWARDS ARROW"),
  ("APL FUNCTIONAL SYMBOL QU", "AD SLASH,AD UP CARET,AD UPWARDS ARROW,OTE QUAD,OTE UNDERBAR"),
  ("APL FUNCTIONAL SYMBOL ", "RHO,RIGHTWARDS VANE,SEMICOLON UNDERBAR,SLASH BAR,SQUISH QUAD"),
  ("APL FUNCTIONAL SYMBOL ", "STAR DIAERESIS,STILE TILDE,TILDE DIAERESIS,UP CARET TILDE"),
  ("APL FUNCTIONAL SYMBOL UP", " SHOE JOT, TACK DIAERESIS, TACK JOT, TACK OVERBAR,WARDS VANE"),
  ("AP", "L FUNCTIONAL SYMBOL ZILDE,OLLON,OSTROPHE,PLICATION PROGRAM COMMAND,PROACHES THE LIMIT"),
  ("APPROXIMATELY ", "BUT NOT ACTUALLY EQUAL TO,EQUAL OR EQUAL TO,EQUAL TO"),
  ("A", "PPROXIMATELY EQUAL TO OR THE IMAGE OF,QUARIUS,RABIC BASELINE ROUND DOT,RABIC COMMA"),
  ("ARABIC CURLY ", "DAMMA,DAMMATAN,FATHA,FATHATAN,KASRA,KASRATAN"),
  ("ARABIC DAMMA", ", ISOLATED FORM, MEDIAL FORM, WITH DOT,TAN,TAN ISOLATED FORM"),
  ("ARABIC D", "ATE SEPARATOR,ECIMAL SEPARATOR,ISPUTED END OF AYAH"),
  ("ARABIC DOUBLE", " RIGHT ARROWHEAD ABOVE, RIGHT ARROWHEAD ABOVE WITH DOT,D MADDA"),
  ("ARABIC E", "MPTY CENTRE HIGH STOP,MPTY CENTRE LOW STOP,ND OF AYAH,ND OF TEXT MARK"),
  ("ARABIC FATHA", ", ISOLATED FORM, MEDIAL FORM, WITH DOT ABOVE, WITH RING, WITH TWO DOTS,TAN"),
  ("ARABIC F", "ATHATAN ISOLATED FORM,IVE POINTED STAR,OOTNOTE MARKER,ULL STOP"),
  ("ARABIC ", "HALF MADDA OVER MADDA,HAMZA ABOVE,HAMZA BELOW,INVERTED DAMMA"),
  ("ARABIC KASRA", ", ISOLATED FORM, MEDIAL FORM, WITH DOT BELOW,TAN,TAN ISOLATED FORM"),
  ("ARABIC LARGE ", "CIRCLE BELOW,ROUND DOT ABOVE,ROUND DOT BELOW,ROUND DOT INSIDE CIRCLE BELOW"),
  ("ARABIC LE", "FT ARROWHEAD ABOVE,FT ARROWHEAD BELOW,TTER AE"),
  ("ARABIC LETTER AFRICAN ", "FEH,NOON,QAF,QAF WITH THREE DOTS ABOVE"),
  ("ARABIC LETTER AIN", ", FINAL FORM, INITIAL FORM, ISOLATED FORM, MEDIAL FORM"),
  ("ARABIC LETTER AIN WITH THREE DOTS ", "ABOVE,BELOW,POINTING DOWNWARDS ABOVE"),
  ("ARABIC LETTER AIN WITH TWO DOTS ", "ABOVE,VERTICALLY ABOVE"),
  ("ARABIC LETTER ALEF", ", FINAL FORM, ISOLATED FORM, MAKSURA, MAKSURA FINAL FORM"),
  ("ARABIC LETTER ALEF ", "MAKSURA ISOLATED FORM,WASLA,WASLA FINAL FORM,WASLA ISOLATED FORM"),
  ("ARABIC LETTER ALEF WITH ATTACHED BOTTOM RIGHT KASRA", ", AND DOT ABOVE, AND LEFT RING"),
  ("ARABIC LETTER ALEF WITH ATTACHED ", "FATHA,KASRA,LEFT HAMZA,LEFT ROUND DOT"),
  ("ARABIC LETTER ALEF WITH ATTACHED R", "IGHT HAMZA,IGHT ROUND DOT,OUND DOT ABOVE,OUND DOT BELOW"),
  ("ARABIC LETTER ALEF WITH ATTACHED TOP RIGHT FATHA", ", AND DOT ABOVE, AND LEFT RING"),
  ("ARABIC LETTER ALEF WITH ", "DOT ABOVE,EXTENDED ARABIC-INDIC DIGIT THREE ABOVE"),
  ("ARABIC LETTER ALEF WITH ", "EXTENDED ARABIC-INDIC DIGIT TWO ABOVE,HAMZA ABOVE"),
  ("ARABIC LETTER ALEF WITH HAMZA ", "ABOVE FINAL FORM,ABOVE ISOLATED FORM,BELOW,BELOW FINAL FORM"),
  ("ARABIC LETTER ALEF WITH ", "HAMZA BELOW ISOLATED FORM,LEFT MIDDLE STROKE"),
  ("ARABIC LETTER ALEF WITH MADDA ABOVE", ", FINAL FORM, ISOLATED FORM"),
  ("ARABIC LETTER ALEF WITH RIGHT MIDDLE STROKE", ", AND DOT ABOVE, AND LEFT RING"),
  ("ARABIC LETTER ALEF WITH WAVY HAMZA ", "ABOVE,BELOW"),
  ("ARABIC LETTER BEEH", ", FINAL FORM, INITIAL FORM, ISOLATED FORM, MEDIAL FORM"),
  ("ARABIC LETTER BEH", ", FINAL FORM, INITIAL FORM, ISOLATED FORM, MEDIAL FORM"),
  ("ARABIC LETTER BEH WITH ", "DOT BELOW AND THREE DOTS ABOVE,HAMZA ABOVE,INVERTED SMALL V BELOW"),
  ("ARABIC LETTER BEH WITH SMALL ", "MEEM ABOVE,V,V BELOW"),
  ("ARABIC LETTER BEH WITH THREE DOTS HORIZONTALLY BELOW", ""),
  ("ARABIC LETTER BEH WITH THREE DOTS POINTING UPWARDS BELOW", ", AND TWO DOTS ABOVE"),
  ("ARABIC LETTER BEH", " WITH TWO DOTS BELOW AND DOT ABOVE,EH"),
  ("ARABIC LETTER BEHEH ", "FINAL FORM,INITIAL FORM,ISOLATED FORM,MEDIAL FORM"),
  ("ARABIC LETTER DAD", ", FINAL FORM, INITIAL FORM, ISOLATED FORM, MEDIAL FORM, WITH DOT BELOW"),
  ("ARABIC LETTER DA", "HAL,HAL FINAL FORM,HAL ISOLATED FORM,L,L FINAL FORM,L ISOLATED FORM"),
  ("ARABIC LETTER DAL WITH ", "DOT BELOW,DOT BELOW AND SMALL TAH,FOUR DOTS ABOVE"),
  ("ARABIC LETTER DAL WITH ", "INVERTED SMALL V BELOW,INVERTED V,RING,THREE DOTS ABOVE DOWNWARDS"),
  ("ARABIC LETTER DAL WITH T", "HREE DOTS BELOW,WO DOTS VERTICALLY BELOW AND SMALL TAH"),
  ("ARABIC LETTER DDA", "HAL,HAL FINAL FORM,HAL ISOLATED FORM,L,L FINAL FORM,L ISOLATED FORM"),
  ("ARABIC LETTER D", "OTLESS BEH,OTLESS FEH,OTLESS QAF,UL,UL FINAL FORM,UL ISOLATED FORM"),
  ("ARABIC LETTER DYEH", ", FINAL FORM, INITIAL FORM, ISOLATED FORM, MEDIAL FORM"),
  ("ARABIC LETTER E", ", FINAL FORM, INITIAL FORM, ISOLATED FORM, MEDIAL FORM"),
  ("ARABIC LETTER FARSI YEH", ", FINAL FORM, INITIAL FORM, ISOLATED FORM, MEDIAL FORM"),
  ("ARABIC LETTER FARSI YEH WITH EXTENDED ARABIC-INDIC DIGIT ", "FOUR BELOW,THREE ABOVE,TWO ABOVE"),
  ("ARABIC LETTER FARSI YEH WITH ", "INVERTED V,THREE DOTS ABOVE,TWO DOTS ABOVE"),
  ("ARABIC LETTER FEH", ", FINAL FORM, INITIAL FORM, ISOLATED FORM, MEDIAL FORM"),
  ("ARABIC LETTER FEH WITH DOT ", "BELOW,BELOW AND THREE DOTS ABOVE,MOVED BELOW"),
  ("ARABIC LETTER FEH WITH T", "HREE DOTS BELOW,HREE DOTS POINTING UPWARDS BELOW,WO DOTS BELOW"),
  ("ARABIC LETTER GAF", ", FINAL FORM, INITIAL FORM, ISOLATED FORM, MEDIAL FORM"),
  ("ARABIC LETTER GAF WITH ", "INVERTED STROKE,RING,THREE DOTS ABOVE,TWO DOTS BELOW"),
  ("ARABIC LETTER GHAIN", ", FINAL FORM, INITIAL FORM, ISOLATED FORM, MEDIAL FORM, WITH DOT BELOW"),
  ("ARABIC LETTER G", "HAIN WITH THREE DOTS ABOVE,RAF,UEH,UEH FINAL FORM,UEH INITIAL FORM"),
  ("ARABIC LETTER ", "GUEH ISOLATED FORM,GUEH MEDIAL FORM,HAH,HAH FINAL FORM,HAH INITIAL FORM"),
  ("ARABIC LETTER HAH ", "ISOLATED FORM,MEDIAL FORM,WITH EXTENDED ARABIC-INDIC DIGIT FOUR BELOW"),
  ("ARABIC LETTER HAH WITH ", "HAMZA ABOVE,INVERTED SMALL V BELOW"),
  ("ARABIC LETTER HAH WITH SMALL ARABIC LETTER TAH ", "ABOVE,AND TWO DOTS,BELOW"),
  ("ARABIC LETTER HAH WITH T", "HREE DOTS ABOVE,HREE DOTS POINTING UPWARDS BELOW,WO DOTS ABOVE"),
  ("ARABIC LETTER H", "AH WITH TWO DOTS VERTICAL ABOVE,AMZA,AMZA ISOLATED FORM,EH"),
  ("ARABIC LETTER HEH DOACHASHMEE", ", FINAL FORM, INITIAL FORM, ISOLATED FORM, MEDIAL FORM"),
  ("ARABIC LETTER HEH ", "FINAL FORM,GOAL,GOAL FINAL FORM,GOAL INITIAL FORM,GOAL ISOLATED FORM"),
  ("ARABIC LETTER HEH ", "GOAL MEDIAL FORM,GOAL WITH HAMZA ABOVE,INITIAL FORM,ISOLATED FORM"),
  ("ARABIC LETTER HEH ", "MEDIAL FORM,WITH INVERTED V,WITH YEH ABOVE,WITH YEH ABOVE FINAL FORM"),
  ("ARABIC LETTER H", "EH WITH YEH ABOVE ISOLATED FORM,IGH HAMZA,IGH HAMZA ALEF,IGH HAMZA WAW"),
  ("ARABIC LETTER ", "HIGH HAMZA YEH,JEEM,JEEM FINAL FORM,JEEM INITIAL FORM"),
  ("ARABIC LETTER JEEM ", "ISOLATED FORM,MEDIAL FORM,WITH THREE DOTS ABOVE,WITH THREE DOTS BELOW"),
  ("ARABIC LETTER JE", "EM WITH TWO DOTS ABOVE,H,H FINAL FORM,H ISOLATED FORM"),
  ("ARABIC LETTER KAF", ", FINAL FORM, INITIAL FORM, ISOLATED FORM, MEDIAL FORM"),
  ("ARABIC LETTER KAF WITH ", "DOT ABOVE,DOT BELOW,RING,THREE DOTS BELOW,TWO DOTS ABOVE"),
  ("ARABIC LETTER K", "ASHMIRI YEH,EHEH,EHEH FINAL FORM"),
  ("ARABIC LETTER KEHEH ", "INITIAL FORM,ISOLATED FORM,MEDIAL FORM,WITH DOT ABOVE,WITH SMALL V"),
  ("ARABIC LETTER KEHEH WITH THREE DOTS ", "ABOVE,BELOW,POINTING UPWARDS BELOW"),
  ("ARABIC LETTER KEHEH WITH TWO DOTS ", "ABOVE,VERTICALLY BELOW"),
  ("ARABIC LETTER KHAH", ", FINAL FORM, INITIAL FORM, ISOLATED FORM, MEDIAL FORM"),
  ("ARABIC LETTER KIRGHIZ ", "OE,OE FINAL FORM,OE ISOLATED FORM,YU,YU FINAL FORM,YU ISOLATED FORM"),
  ("ARABIC LETTER LAM", ", FINAL FORM, INITIAL FORM, ISOLATED FORM, MEDIAL FORM"),
  ("ARABIC LETTER LAM WITH ", "BAR,DOT ABOVE,DOUBLE BAR,SMALL ARABIC LETTER TAH ABOVE,SMALL V"),
  ("ARABIC LETTER ", "LAM WITH THREE DOTS ABOVE,LAM WITH THREE DOTS BELOW,LOW ALEF,MARK"),
  ("ARABIC LETTER MEEM", ", FINAL FORM, INITIAL FORM, ISOLATED FORM, MEDIAL FORM"),
  ("ARABIC LETTER MEEM WITH ", "DOT ABOVE,DOT BELOW,THREE DOTS ABOVE"),
  ("ARABIC LETTER NG", ", FINAL FORM, INITIAL FORM, ISOLATED FORM, MEDIAL FORM,OEH,OEH FINAL FORM"),
  ("ARABIC LETTER N", "GOEH INITIAL FORM,GOEH ISOLATED FORM,GOEH MEDIAL FORM,OON"),
  ("ARABIC LETTER NOON ", "FINAL FORM,GHUNNA,GHUNNA FINAL FORM,GHUNNA ISOLATED FORM,INITIAL FORM"),
  ("ARABIC LETTER NOON ", "ISOLATED FORM,MEDIAL FORM,WITH DOT BELOW,WITH INVERTED SMALL V"),
  ("ARABIC LETTER NOON WITH ", "RING,SMALL TAH,SMALL V,THREE DOTS ABOVE,TWO DOTS BELOW"),
  ("ARABIC LETTER NYEH", ", FINAL FORM, INITIAL FORM, ISOLATED FORM, MEDIAL FORM"),
  ("ARABIC LETTER ", "OE,OE FINAL FORM,OE ISOLATED FORM,PEH,PEH FINAL FORM,PEH INITIAL FORM"),
  ("ARABIC LETTER PEH ", "ISOLATED FORM,MEDIAL FORM,WITH SMALL MEEM ABOVE,WITH SMALL V"),
  ("ARABIC LETTER PEHEH", ", FINAL FORM, INITIAL FORM, ISOLATED FORM, MEDIAL FORM"),
  ("ARABIC LETTER QAF", ", FINAL FORM, INITIAL FORM, ISOLATED FORM, MEDIAL FORM"),
  ("ARABIC LETTER QAF WITH ", "DOT ABOVE,DOT BELOW,DOT BELOW AND NO DOTS ABOVE,THREE DOTS ABOVE"),
  ("ARABIC LETTER REH", ", FINAL FORM, ISOLATED FORM"),
  ("ARABIC LETTER REH WITH DOT BELOW", ", AND DOT ABOVE"),
  ("ARABIC LETTER REH WITH ", "FOUR DOTS ABOVE,HAMZA ABOVE,INVERTED V,LOOP,RING"),
  ("ARABIC LETTER REH WITH SMALL ", "ARABIC LETTER TAH AND TWO DOTS,NOON ABOVE,V,V BELOW"),
  ("ARABIC LETTER REH WITH ", "STROKE,TWO DOTS ABOVE,TWO DOTS VERTICALLY ABOVE"),
  ("ARABIC LETTER RNOON", ", FINAL FORM, INITIAL FORM, ISOLATED FORM, MEDIAL FORM"),
  ("ARABIC LETTER ", "ROHINGYA YEH,RREH,RREH FINAL FORM,RREH ISOLATED FORM,SAD"),
  ("ARABIC LETTER SAD ", "FINAL FORM,INITIAL FORM,ISOLATED FORM,MEDIAL FORM,WITH THREE DOTS ABOVE"),
  ("ARABIC LETTER S", "AD WITH THREE DOTS BELOW,AD WITH TWO DOTS BELOW,EEN,EEN FINAL FORM"),
  ("ARABIC LETTER SEEN ", "INITIAL FORM,ISOLATED FORM,MEDIAL FORM,WITH DOT BELOW AND DOT ABOVE"),
  ("ARABIC LETTER SEEN WITH ", "EXTENDED ARABIC-INDIC DIGIT FOUR ABOVE,FOUR DOTS ABOVE,INVERTED V"),
  ("ARABIC LETTER SEEN WITH ", "SMALL ARABIC LETTER TAH AND TWO DOTS,THREE DOTS BELOW"),
  ("ARABIC LETTER SEEN WITH T", "HREE DOTS BELOW AND THREE DOTS ABOVE,WO DOTS VERTICALLY ABOVE"),
  ("ARABIC LETTER SHEEN", ", FINAL FORM, INITIAL FORM, ISOLATED FORM, MEDIAL FORM, WITH DOT BELOW"),
  ("ARABIC LETTER S", "TRAIGHT WAW,UPERSCRIPT ALEF,WASH KAF"),
  ("ARABIC LETTER TAH", ", FINAL FORM, INITIAL FORM, ISOLATED FORM, MEDIAL FORM"),
  ("ARABIC LETTER TAH WITH ", "DOT BELOW,THREE DOTS ABOVE,THREE DOTS BELOW,TWO DOTS ABOVE"),
  ("ARABIC LETTER TCHEH", ", FINAL FORM, INITIAL FORM, ISOLATED FORM, MEDIAL FORM, WITH DOT ABOVE"),
  ("ARABIC LETTER TCHEH", " WITH SMALL V,EH,EH FINAL FORM,EH INITIAL FORM,EH ISOLATED FORM"),
  ("ARABIC LETTER T", "CHEHEH MEDIAL FORM,EH,EH FINAL FORM,EH INITIAL FORM,EH ISOLATED FORM"),
  ("ARABIC LETTER TEH M", "ARBUTA,ARBUTA FINAL FORM,ARBUTA GOAL,ARBUTA ISOLATED FORM,EDIAL FORM"),
  ("ARABIC LETTER TEH WITH ", "RING,SMALL TEH ABOVE,SMALL V,THREE DOTS ABOVE DOWNWARDS"),
  ("ARABIC LETTER TEHEH", ", FINAL FORM, INITIAL FORM, ISOLATED FORM, MEDIAL FORM"),
  ("ARABIC LETTER THAL", ", FINAL FORM, ISOLATED FORM"),
  ("ARABIC LETTER TH", "EH,EH FINAL FORM,EH INITIAL FORM,EH ISOLATED FORM,EH MEDIAL FORM,IN YEH"),
  ("ARABIC LETTER TTEH", ", FINAL FORM, INITIAL FORM, ISOLATED FORM, MEDIAL FORM, WITH SMALL V,EH"),
  ("ARABIC LETTER TTEHEH ", "FINAL FORM,INITIAL FORM,ISOLATED FORM,MEDIAL FORM"),
  ("ARABIC LETTER U", ", FINAL FORM, ISOLATED FORM"),
  ("ARABIC LETTER U WITH HAMZA ABOVE", ", ISOLATED FORM"),
  ("ARABIC LETTER UIGHUR KAZAKH KIRGHIZ ALEF MAKSURA ", "INITIAL FORM,MEDIAL FORM"),
  ("ARABIC LETTER VE", ", FINAL FORM, ISOLATED FORM,H"),
  ("ARABIC LETTER VEH ", "FINAL FORM,INITIAL FORM,ISOLATED FORM,MEDIAL FORM"),
  ("ARABIC LETTER WAW", ", FINAL FORM, ISOLATED FORM, WITH DOT ABOVE, WITH DOT WITHIN"),
  ("ARABIC LETTER WAW WITH EXTENDED ARABIC-INDIC DIGIT T", "HREE ABOVE,WO ABOVE"),
  ("ARABIC LETTER WAW WITH HAMZA ABOVE", ", FINAL FORM, ISOLATED FORM"),
  ("ARABIC LETTER ", "WAW WITH RING,WAW WITH TWO DOTS ABOVE,YEH"),
  ("ARABIC LETTER YEH BARREE", ", FINAL FORM, ISOLATED FORM"),
  ("ARABIC LETTER YEH BARREE WITH EXTENDED ARABIC-INDIC DIGIT T", "HREE ABOVE,WO ABOVE"),
  ("ARABIC LETTER YEH BARREE WITH HAMZA ABOVE", ", FINAL FORM, ISOLATED FORM"),
  ("ARABIC LETTER YEH ", "FINAL FORM,INITIAL FORM,ISOLATED FORM,MEDIAL FORM"),
  ("ARABIC LETTER YEH WITH HAMZA ABOVE", ", FINAL FORM, INITIAL FORM, ISOLATED FORM, MEDIAL FORM"),
  ("ARABIC LETTER YEH WITH ", "SMALL V,TAIL,THREE DOTS BELOW"),
  ("ARABIC LETTER YEH WITH TWO DOTS BELOW AND ", "DOT ABOVE,HAMZA ABOVE,SMALL NOON ABOVE"),
  ("ARABIC LETTER ", "YU,YU FINAL FORM,YU ISOLATED FORM,ZAH,ZAH FINAL FORM,ZAH INITIAL FORM"),
  ("ARABIC LETTER ZA", "H ISOLATED FORM,H MEDIAL FORM,IN,IN FINAL FORM,IN ISOLATED FORM"),
  ("ARABIC L", "ETTER ZAIN WITH INVERTED V ABOVE,IGATURE AIN WITH ALEF MAKSURA FINAL FORM"),
  ("ARABIC LIGATURE AIN WITH ", "ALEF MAKSURA ISOLATED FORM,JEEM INITIAL FORM,JEEM ISOLATED FORM"),
  ("ARABIC LIGATURE AIN WITH JEEM WITH MEEM ", "FINAL FORM,INITIAL FORM"),
  ("ARABIC LIGATURE AIN WITH MEEM ", "INITIAL FORM,ISOLATED FORM,WITH ALEF MAKSURA FINAL FORM"),
  ("ARABIC LIGATURE AIN WITH MEEM WITH ", "MEEM FINAL FORM,MEEM INITIAL FORM,YEH FINAL FORM"),
  ("ARABIC LIGATURE AIN WITH YEH ", "FINAL FORM,ISOLATED FORM"),
  ("ARABIC LIGATURE A", "KBAR ISOLATED FORM,LAYHAA AS-SALAAM,LAYHE ISOLATED FORM"),
  ("ARABIC LIGATURE ALAYHI", " AS-SALAAM, AS-SALAATU WAS-SALAAM,M AS-SALAAM,MAA AS-SALAAM"),
  ("ARABIC LIGATURE ALEF MAKSURA WITH SUPERSCRIPT ALEF ", "FINAL FORM,ISOLATED FORM"),
  ("ARABIC LIGATURE ALEF WITH FATHATAN ", "FINAL FORM,ISOLATED FORM"),
  ("ARABIC LIGATURE ", "ALLAH ISOLATED FORM,AZZA WA JALL,BEH WITH ALEF MAKSURA FINAL FORM"),
  ("ARABIC LIGATURE BEH WITH ", "ALEF MAKSURA ISOLATED FORM,HAH INITIAL FORM,HAH ISOLATED FORM"),
  ("ARABIC LIGATURE BEH WITH H", "AH WITH YEH FINAL FORM,EH INITIAL FORM,EH MEDIAL FORM"),
  ("ARABIC LIGATURE BEH WITH JEEM I", "NITIAL FORM,SOLATED FORM"),
  ("ARABIC LIGATURE BEH WITH KHAH ", "INITIAL FORM,ISOLATED FORM,WITH YEH FINAL FORM"),
  ("ARABIC LIGATURE BEH WITH MEEM ", "FINAL FORM,INITIAL FORM,ISOLATED FORM,MEDIAL FORM"),
  ("ARABIC LIGATURE BEH WITH ", "NOON FINAL FORM,REH FINAL FORM,YEH FINAL FORM,YEH ISOLATED FORM"),
  ("ARABIC LIGATURE B", "EH WITH ZAIN FINAL FORM,ISMILLAH AR-RAHMAN AR-RAHEEM"),
  ("ARABIC LIGATURE DAD WITH ALEF MAKSURA ", "FINAL FORM,ISOLATED FORM"),
  ("ARABIC LIGATURE DAD WITH HAH ", "INITIAL FORM,ISOLATED FORM,WITH ALEF MAKSURA FINAL FORM"),
  ("ARABIC LIGATURE DAD WITH ", "HAH WITH YEH FINAL FORM,JEEM INITIAL FORM,JEEM ISOLATED FORM"),
  ("ARABIC LIGATURE DAD WITH KHAH ", "INITIAL FORM,ISOLATED FORM,WITH MEEM FINAL FORM"),
  ("ARABIC LIGATURE DAD WITH ", "KHAH WITH MEEM INITIAL FORM,MEEM INITIAL FORM,MEEM ISOLATED FORM"),
  ("ARABIC LIGATURE DAD WITH ", "REH FINAL FORM,REH ISOLATED FORM,YEH FINAL FORM"),
  ("ARABIC LIGATURE ", "DAD WITH YEH ISOLATED FORM,FEH WITH ALEF MAKSURA FINAL FORM"),
  ("ARABIC LIGATURE FEH WITH ", "ALEF MAKSURA ISOLATED FORM,HAH INITIAL FORM,HAH ISOLATED FORM"),
  ("ARABIC LIGATURE FEH WITH ", "JEEM INITIAL FORM,JEEM ISOLATED FORM,KHAH INITIAL FORM"),
  ("ARABIC LIGATURE FEH WITH KHAH ", "ISOLATED FORM,WITH MEEM FINAL FORM,WITH MEEM INITIAL FORM"),
  ("ARABIC LIGATURE FEH WITH MEEM ", "INITIAL FORM,ISOLATED FORM,WITH YEH FINAL FORM"),
  ("ARABIC LIGATURE FEH WITH YEH ", "FINAL FORM,ISOLATED FORM"),
  ("ARABIC LIGATURE GHAIN WITH ALEF MAKSURA ", "FINAL FORM,ISOLATED FORM"),
  ("ARABIC LIGATURE GHAIN WITH JEEM I", "NITIAL FORM,SOLATED FORM"),
  ("ARABIC LIGATURE GHAIN WITH MEEM ", "INITIAL FORM,ISOLATED FORM,WITH ALEF MAKSURA FINAL FORM"),
  ("ARABIC LIGATURE GHAIN WITH MEEM WITH ", "MEEM FINAL FORM,YEH FINAL FORM"),
  ("ARABIC LIGATURE GHAIN WITH YEH ", "FINAL FORM,ISOLATED FORM"),
  ("ARABIC LIGATURE HAH WITH ALEF MAKSURA ", "FINAL FORM,ISOLATED FORM"),
  ("ARABIC LIGATURE HAH WITH JEEM ", "INITIAL FORM,ISOLATED FORM,WITH YEH FINAL FORM"),
  ("ARABIC LIGATURE HAH WITH MEEM ", "INITIAL FORM,ISOLATED FORM,WITH ALEF MAKSURA FINAL FORM"),
  ("ARABIC LIGATURE HAH WITH ", "MEEM WITH YEH FINAL FORM,YEH FINAL FORM,YEH ISOLATED FORM"),
  ("ARABIC LIGATURE HEH WITH ", "ALEF MAKSURA ISOLATED FORM,JEEM INITIAL FORM,JEEM ISOLATED FORM"),
  ("ARABIC LIGATURE HEH WITH MEEM ", "INITIAL FORM,ISOLATED FORM,WITH JEEM INITIAL FORM"),
  ("ARABIC LIGATURE HEH WITH ", "MEEM WITH MEEM INITIAL FORM,SUPERSCRIPT ALEF INITIAL FORM"),
  ("ARABIC LIGATURE ", "HEH WITH YEH ISOLATED FORM,JALLAJALALOUHOU"),
  ("ARABIC LIGATURE JEEM WITH ALEF MAKSURA ", "FINAL FORM,ISOLATED FORM"),
  ("ARABIC LIGATURE JEEM WITH HAH I", "NITIAL FORM,SOLATED FORM"),
  ("ARABIC LIGATURE JEEM WITH HAH WITH ", "ALEF MAKSURA FINAL FORM,YEH FINAL FORM"),
  ("ARABIC LIGATURE JEEM WITH MEEM ", "INITIAL FORM,ISOLATED FORM,WITH ALEF MAKSURA FINAL FORM"),
  ("ARABIC LIGATURE JEEM WITH MEEM WITH ", "HAH FINAL FORM,HAH INITIAL FORM,YEH FINAL FORM"),
  ("ARABIC LIGATURE JEEM WITH YEH ", "FINAL FORM,ISOLATED FORM"),
  ("ARABIC LIGATURE KAF WITH ALEF ", "FINAL FORM,ISOLATED FORM,MAKSURA FINAL FORM"),
  ("ARABIC LIGATURE KAF WITH ", "ALEF MAKSURA ISOLATED FORM,HAH INITIAL FORM,HAH ISOLATED FORM"),
  ("ARABIC LIGATURE KAF WITH JEEM I", "NITIAL FORM,SOLATED FORM"),
  ("ARABIC LIGATURE KAF WITH KHAH I", "NITIAL FORM,SOLATED FORM"),
  ("ARABIC LIGATURE KAF WITH LAM ", "FINAL FORM,INITIAL FORM,ISOLATED FORM,MEDIAL FORM"),
  ("ARABIC LIGATURE KAF WITH MEEM ", "FINAL FORM,INITIAL FORM,ISOLATED FORM,MEDIAL FORM"),
  ("ARABIC LIGATURE KAF WITH MEEM WITH ", "MEEM FINAL FORM,MEEM INITIAL FORM,YEH FINAL FORM"),
  ("ARABIC LIGATURE KAF WITH YEH ", "FINAL FORM,ISOLATED FORM"),
  ("ARABIC LIGATURE KHAH WITH ALEF MAKSURA ", "FINAL FORM,ISOLATED FORM"),
  ("ARABIC LIGATURE KHAH WITH ", "HAH ISOLATED FORM,JEEM INITIAL FORM,JEEM ISOLATED FORM"),
  ("ARABIC LIGATURE KHAH WITH ", "MEEM INITIAL FORM,MEEM ISOLATED FORM,YEH FINAL FORM"),
  ("ARABIC LIGATURE ", "KHAH WITH YEH ISOLATED FORM,LAM WITH ALEF FINAL FORM"),
  ("ARABIC LIGATURE LAM WITH ALEF ", "ISOLATED FORM,MAKSURA FINAL FORM,MAKSURA ISOLATED FORM"),
  ("ARABIC LIGATURE LAM WITH ALEF WITH HAMZA ABOVE ", "FINAL FORM,ISOLATED FORM"),
  ("ARABIC LIGATURE LAM WITH ALEF WITH HAMZA BELOW ", "FINAL FORM,ISOLATED FORM"),
  ("ARABIC LIGATURE LAM WITH ALEF WITH MADDA ABOVE ", "FINAL FORM,ISOLATED FORM"),
  ("ARABIC LIGATURE LAM WITH HAH ", "INITIAL FORM,ISOLATED FORM,WITH ALEF MAKSURA FINAL FORM"),
  ("ARABIC LIGATURE LAM WITH HAH WITH ", "MEEM FINAL FORM,MEEM INITIAL FORM,YEH FINAL FORM"),
  ("ARABIC LIGATURE LAM WITH ", "HEH INITIAL FORM,JEEM INITIAL FORM,JEEM ISOLATED FORM"),
  ("ARABIC LIGATURE LAM WITH JEEM WITH JEEM ", "FINAL FORM,INITIAL FORM"),
  ("ARABIC LIGATURE LAM WITH JEEM WITH ", "MEEM FINAL FORM,MEEM INITIAL FORM,YEH FINAL FORM"),
  ("ARABIC LIGATURE LAM WITH KHAH I", "NITIAL FORM,SOLATED FORM"),
  ("ARABIC LIGATURE LAM WITH KHAH WITH MEEM ", "FINAL FORM,INITIAL FORM"),
  ("ARABIC LIGATURE LAM WITH MEEM ", "FINAL FORM,INITIAL FORM,ISOLATED FORM,MEDIAL FORM"),
  ("ARABIC LIGATURE LAM WITH MEEM WITH ", "HAH FINAL FORM,HAH INITIAL FORM,YEH FINAL FORM"),
  ("ARABIC LIGATURE LAM WITH YEH ", "FINAL FORM,ISOLATED FORM"),
  ("ARABIC LIGATURE MEEM WITH ", "ALEF FINAL FORM,ALEF MAKSURA ISOLATED FORM,HAH INITIAL FORM"),
  ("ARABIC LIGATURE MEEM WITH HAH ", "ISOLATED FORM,WITH JEEM INITIAL FORM,WITH MEEM INITIAL FORM"),
  ("ARABIC LIGATURE MEEM WITH ", "HAH WITH YEH FINAL FORM,JEEM INITIAL FORM,JEEM ISOLATED FORM"),
  ("ARABIC LIGATURE MEEM WITH JEEM WITH ", "HAH INITIAL FORM,KHAH INITIAL FORM,MEEM INITIAL FORM"),
  ("ARABIC LIGATURE MEEM WITH ", "JEEM WITH YEH FINAL FORM,KHAH INITIAL FORM,KHAH ISOLATED FORM"),
  ("ARABIC LIGATURE MEEM WITH KHAH WITH ", "JEEM INITIAL FORM,MEEM INITIAL FORM,YEH FINAL FORM"),
  ("ARABIC LIGATURE MEEM WITH MEEM ", "FINAL FORM,INITIAL FORM,ISOLATED FORM,WITH YEH FINAL FORM"),
  ("ARABIC LIGATURE M", "EEM WITH YEH ISOLATED FORM,OHAMMAD ISOLATED FORM"),
  ("ARABIC LIGATURE NOON WITH ALEF MAKSURA ", "FINAL FORM,ISOLATED FORM"),
  ("ARABIC LIGATURE NOON WITH HAH ", "INITIAL FORM,ISOLATED FORM,WITH ALEF MAKSURA FINAL FORM"),
  ("ARABIC LIGATURE NOON WITH HAH WITH ", "MEEM INITIAL FORM,YEH FINAL FORM"),
  ("ARABIC LIGATURE NOON WITH HEH ", "INITIAL FORM,MEDIAL FORM"),
  ("ARABIC LIGATURE NOON WITH JEEM ", "INITIAL FORM,ISOLATED FORM,WITH ALEF MAKSURA FINAL FORM"),
  ("ARABIC LIGATURE NOON WITH JEEM WITH HAH ", "FINAL FORM,INITIAL FORM"),
  ("ARABIC LIGATURE NOON WITH JEEM WITH ", "MEEM FINAL FORM,MEEM INITIAL FORM,YEH FINAL FORM"),
  ("ARABIC LIGATURE NOON WITH KHAH I", "NITIAL FORM,SOLATED FORM"),
  ("ARABIC LIGATURE NOON WITH MEEM ", "FINAL FORM,INITIAL FORM,ISOLATED FORM,MEDIAL FORM"),
  ("ARABIC LIGATURE NOON WITH MEEM WITH ", "ALEF MAKSURA FINAL FORM,YEH FINAL FORM"),
  ("ARABIC LIGATURE NOON WITH ", "NOON FINAL FORM,REH FINAL FORM,YEH FINAL FORM,YEH ISOLATED FORM"),
  ("ARABIC LIGATURE ", "NOON WITH ZAIN FINAL FORM,QAF WITH ALEF MAKSURA FINAL FORM"),
  ("ARABIC LIGATURE QAF WITH ", "ALEF MAKSURA ISOLATED FORM,HAH INITIAL FORM,HAH ISOLATED FORM"),
  ("ARABIC LIGATURE QAF WITH MEEM ", "INITIAL FORM,ISOLATED FORM,WITH HAH FINAL FORM"),
  ("ARABIC LIGATURE QAF WITH MEEM WITH ", "HAH INITIAL FORM,MEEM FINAL FORM,YEH FINAL FORM"),
  ("ARABIC LIGATURE QAF WITH YEH ", "FINAL FORM,ISOLATED FORM"),
  ("ARABIC LIGATURE Q", "ALA USED AS KORANIC STOP SIGN ISOLATED FORM,UDDISA SIRRAH"),
  ("ARABIC LIGATURE RADI ALLAAHU ANH", ",AA,UM,UMAA,UNNA"),
  ("ARABIC LIGATURE RA", "HIMAHU ALLAAH,HIMAHUM ALLAAH,SOUL ISOLATED FORM"),
  ("ARABIC LIGATURE ", "REH WITH SUPERSCRIPT ALEF ISOLATED FORM,SAD WITH ALEF MAKSURA FINAL FORM"),
  ("ARABIC LIGATURE SAD WITH ", "ALEF MAKSURA ISOLATED FORM,HAH INITIAL FORM,HAH ISOLATED FORM"),
  ("ARABIC LIGATURE SAD WITH HAH WITH ", "HAH FINAL FORM,HAH INITIAL FORM,YEH FINAL FORM"),
  ("ARABIC LIGATURE SAD WITH ", "KHAH INITIAL FORM,MEEM INITIAL FORM,MEEM ISOLATED FORM"),
  ("ARABIC LIGATURE SAD WITH MEEM WITH MEEM ", "FINAL FORM,INITIAL FORM"),
  ("ARABIC LIGATURE SAD WITH ", "REH FINAL FORM,REH ISOLATED FORM,YEH FINAL FORM"),
  ("ARABIC LIGATURE SA", "D WITH YEH ISOLATED FORM,LAAMUHU ALAYNAA,LAM ISOLATED FORM"),
  ("ARABIC LIGATURE SALLA ", "ISOLATED FORM,USED AS KORANIC STOP SIGN ISOLATED FORM"),
  ("ARABIC LIGATURE SALLALLA", "AHU ALAYHI WA-AALIH,HOU ALAYHE WASALLAM"),
  ("ARABIC LIGATURE S", "ALLALLAHU ALAYHI WAAALIHEE WA-SALLAM,EEN WITH ALEF MAKSURA FINAL FORM"),
  ("ARABIC LIGATURE SEEN WITH ", "ALEF MAKSURA ISOLATED FORM,HAH INITIAL FORM"),
  ("ARABIC LIGATURE SEEN WITH HAH ", "ISOLATED FORM,MEDIAL FORM,WITH JEEM INITIAL FORM"),
  ("ARABIC LIGATURE SEEN WITH ", "HEH INITIAL FORM,HEH MEDIAL FORM,JEEM INITIAL FORM"),
  ("ARABIC LIGATURE SEEN WITH JEEM ", "ISOLATED FORM,MEDIAL FORM,WITH ALEF MAKSURA FINAL FORM"),
  ("ARABIC LIGATURE SEEN WITH ", "JEEM WITH HAH INITIAL FORM,KHAH INITIAL FORM"),
  ("ARABIC LIGATURE SEEN WITH KHAH ", "ISOLATED FORM,MEDIAL FORM,WITH ALEF MAKSURA FINAL FORM"),
  ("ARABIC LIGATURE SEEN WITH ", "KHAH WITH YEH FINAL FORM,MEEM INITIAL FORM,MEEM ISOLATED FORM"),
  ("ARABIC LIGATURE SEEN WITH MEEM ", "MEDIAL FORM,WITH HAH FINAL FORM,WITH HAH INITIAL FORM"),
  ("ARABIC LIGATURE SEEN WITH MEEM WITH ", "JEEM INITIAL FORM,MEEM FINAL FORM,MEEM INITIAL FORM"),
  ("ARABIC LIGATURE SEEN WITH ", "REH FINAL FORM,REH ISOLATED FORM,YEH FINAL FORM"),
  ("ARABIC LIGATURE S", "EEN WITH YEH ISOLATED FORM,HADDA WITH DAMMA ISOLATED FORM"),
  ("ARABIC LIGATURE SHADDA WITH ", "DAMMA MEDIAL FORM,DAMMATAN ISOLATED FORM,FATHA ISOLATED FORM"),
  ("ARABIC LIGATURE SHADDA WITH ", "FATHA MEDIAL FORM,KASRA ISOLATED FORM,KASRA MEDIAL FORM"),
  ("ARABIC LIGATURE SHADDA WITH ", "KASRATAN ISOLATED FORM,SUPERSCRIPT ALEF ISOLATED FORM"),
  ("ARABIC LIGATURE SHEEN WITH ALEF MAKSURA ", "FINAL FORM,ISOLATED FORM"),
  ("ARABIC LIGATURE SHEEN WITH HAH ", "FINAL FORM,INITIAL FORM,ISOLATED FORM,MEDIAL FORM"),
  ("ARABIC LIGATURE SHEEN WITH HAH WITH ", "MEEM FINAL FORM,MEEM INITIAL FORM,YEH FINAL FORM"),
  ("ARABIC LIGATURE SHEEN WITH HEH ", "INITIAL FORM,MEDIAL FORM"),
  ("ARABIC LIGATURE SHEEN WITH JEEM ", "FINAL FORM,INITIAL FORM,ISOLATED FORM,MEDIAL FORM"),
  ("ARABIC LIGATURE SHEEN WITH JEEM WITH YEH FINAL FORM", ""),
  ("ARABIC LIGATURE SHEEN WITH KHAH ", "FINAL FORM,INITIAL FORM,ISOLATED FORM,MEDIAL FORM"),
  ("ARABIC LIGATURE SHEEN WITH MEEM ", "FINAL FORM,INITIAL FORM,ISOLATED FORM,MEDIAL FORM"),
  ("ARABIC LIGATURE SHEEN WITH MEEM WITH ", "KHAH FINAL FORM,KHAH INITIAL FORM,MEEM FINAL FORM"),
  ("ARABIC LIGATURE SHEEN WITH ", "MEEM WITH MEEM INITIAL FORM,REH FINAL FORM,REH ISOLATED FORM"),
  ("ARABIC LIGATURE SHEEN WITH YEH ", "FINAL FORM,ISOLATED FORM"),
  ("ARABIC LIGATURE ", "SUBHAANAHU WA TAAALAA,TABAARAKA WA-TAAALAA"),
  ("ARABIC LIGATURE TAH WITH ALEF MAKSURA ", "FINAL FORM,ISOLATED FORM"),
  ("ARABIC LIGATURE TAH WITH HAH I", "NITIAL FORM,SOLATED FORM"),
  ("ARABIC LIGATURE TAH WITH MEEM ", "INITIAL FORM,ISOLATED FORM,MEDIAL FORM,WITH HAH FINAL FORM"),
  ("ARABIC LIGATURE TAH WITH MEEM WITH ", "HAH INITIAL FORM,MEEM INITIAL FORM,YEH FINAL FORM"),
  ("ARABIC LIGATURE TAH WITH YEH ", "FINAL FORM,ISOLATED FORM"),
  ("ARABIC LIGATURE TEH WITH ALEF MAKSURA ", "FINAL FORM,ISOLATED FORM"),
  ("ARABIC LIGATURE TEH WITH HAH I", "NITIAL FORM,SOLATED FORM"),
  ("ARABIC LIGATURE TEH WITH HAH WITH ", "JEEM FINAL FORM,JEEM INITIAL FORM,MEEM INITIAL FORM"),
  ("ARABIC LIGATURE TEH WITH HEH ", "INITIAL FORM,MEDIAL FORM"),
  ("ARABIC LIGATURE TEH WITH JEEM ", "INITIAL FORM,ISOLATED FORM,WITH ALEF MAKSURA FINAL FORM"),
  ("ARABIC LIGATURE TEH WITH JEEM WITH ", "MEEM INITIAL FORM,YEH FINAL FORM"),
  ("ARABIC LIGATURE TEH WITH KHAH ", "INITIAL FORM,ISOLATED FORM,WITH ALEF MAKSURA FINAL FORM"),
  ("ARABIC LIGATURE TEH WITH KHAH WITH ", "MEEM INITIAL FORM,YEH FINAL FORM"),
  ("ARABIC LIGATURE TEH WITH MEEM ", "FINAL FORM,INITIAL FORM,ISOLATED FORM,MEDIAL FORM"),
  ("ARABIC LIGATURE TEH WITH MEEM WITH ", "ALEF MAKSURA FINAL FORM,HAH INITIAL FORM"),
  ("ARABIC LIGATURE TEH WITH MEEM WITH ", "JEEM INITIAL FORM,KHAH INITIAL FORM,YEH FINAL FORM"),
  ("ARABIC LIGATURE TEH WITH ", "NOON FINAL FORM,REH FINAL FORM,YEH FINAL FORM,YEH ISOLATED FORM"),
  ("ARABIC LIGATURE T", "EH WITH ZAIN FINAL FORM,HAL WITH SUPERSCRIPT ALEF ISOLATED FORM"),
  ("ARABIC LIGATURE THEH WITH ALEF MAKSURA ", "FINAL FORM,ISOLATED FORM"),
  ("ARABIC LIGATURE THEH WITH ", "HEH MEDIAL FORM,JEEM ISOLATED FORM"),
  ("ARABIC LIGATURE THEH WITH MEEM ", "FINAL FORM,INITIAL FORM,ISOLATED FORM,MEDIAL FORM"),
  ("ARABIC LIGATURE THEH WITH ", "NOON FINAL FORM,REH FINAL FORM,YEH FINAL FORM,YEH ISOLATED FORM"),
  ("ARABIC LIGATURE THEH WITH ZAIN FINAL FORM", ""),
  ("ARABIC LIGATURE UIGHUR KIRGHIZ YEH WITH HAMZA ABOVE WITH ALEF MAKSURA FINAL FORM", ""),
  ("ARABIC LIGATURE UIGHUR KIRGHIZ YEH WITH HAMZA ABOVE WITH ALEF MAKSURA INITIAL FORM", ""),
  ("ARABIC LIGATURE UIGHUR KIRGHIZ YEH WITH HAMZA ABOVE WITH ALEF MAKSURA ISOLATED FORM", ""),
  ("ARABIC LIGATURE WASALLAM ISOLATED FORM", ""),
  ("ARABIC LIGATURE YEH WITH ALEF MAKSURA ", "FINAL FORM,ISOLATED FORM"),
  ("ARABIC LIGATURE YEH WITH HAH ", "INITIAL FORM,ISOLATED FORM,WITH YEH FINAL FORM"),
  ("ARABIC LIGATURE YEH WITH HAMZA ABOVE WITH AE ", "FINAL FORM,ISOLATED FORM"),
  ("ARABIC LIGATURE YEH WITH HAMZA ABOVE WITH ALEF ", "FINAL FORM,ISOLATED FORM"),
  ("ARABIC LIGATURE YEH WITH HAMZA ABOVE WITH ALEF MAKSURA ", "FINAL FORM,ISOLATED FORM"),
  ("ARABIC LIGATURE YEH WITH HAMZA ABOVE WITH E ", "FINAL FORM,INITIAL FORM,ISOLATED FORM"),
  ("ARABIC LIGATURE YEH WITH HAMZA ABOVE WITH HAH I", "NITIAL FORM,SOLATED FORM"),
  ("ARABIC LIGATURE YEH WITH HAMZA ABOVE WITH HEH ", "INITIAL FORM,MEDIAL FORM"),
  ("ARABIC LIGATURE YEH WITH HAMZA ABOVE WITH JEEM I", "NITIAL FORM,SOLATED FORM"),
  ("ARABIC LIGATURE YEH WITH HAMZA ABOVE WITH ", "KHAH INITIAL FORM,MEEM FINAL FORM"),
  ("ARABIC LIGATURE YEH WITH HAMZA ABOVE WITH MEEM ", "INITIAL FORM,ISOLATED FORM,MEDIAL FORM"),
  ("ARABIC LIGATURE YEH WITH HAMZA ABOVE WITH ", "NOON FINAL FORM,OE FINAL FORM,OE ISOLATED FORM"),
  ("ARABIC LIGATURE YEH WITH HAMZA ABOVE WITH ", "REH FINAL FORM,U FINAL FORM,U ISOLATED FORM"),
  ("ARABIC LIGATURE YEH WITH HAMZA ABOVE WITH ", "WAW FINAL FORM,WAW ISOLATED FORM,YEH FINAL FORM"),
  ("ARABIC LIGATURE YEH WITH HAMZA ABOVE WITH Y", "EH ISOLATED FORM,U FINAL FORM,U ISOLATED FORM"),
  ("ARABIC LIGATURE YEH WITH H", "AMZA ABOVE WITH ZAIN FINAL FORM,EH INITIAL FORM,EH MEDIAL FORM"),
  ("ARABIC LIGATURE YEH WITH JEEM ", "INITIAL FORM,ISOLATED FORM,WITH YEH FINAL FORM"),
  ("ARABIC LIGATURE YEH WITH KHAH I", "NITIAL FORM,SOLATED FORM"),
  ("ARABIC LIGATURE YEH WITH MEEM ", "FINAL FORM,INITIAL FORM,ISOLATED FORM,MEDIAL FORM"),
  ("ARABIC LIGATURE YEH WITH MEEM WITH ", "MEEM FINAL FORM,MEEM INITIAL FORM,YEH FINAL FORM"),
  ("ARABIC LIGATURE YEH WITH ", "NOON FINAL FORM,REH FINAL FORM,YEH FINAL FORM"),
  ("ARABIC LIGATURE YEH WITH ", "YEH ISOLATED FORM,ZAIN FINAL FORM"),
  ("ARABIC LIGATURE ZAH WITH MEEM ", "INITIAL FORM,ISOLATED FORM,MEDIAL FORM"),
  ("ARABIC MA", "DDA WAAJIB,DDAH ABOVE,RK NOON GHUNNA,RK SIDEWAYS NOON GHUNNA"),
  ("ARABIC MATHEMATICAL ", "AIN,ALEF,BEH,DAD,DAL,DOTLESS BEH,DOTLESS FEH,DOTLESS NOON,DOTLESS QAF"),
  ("ARABIC MATHEMATICAL DOUBLE-STRUCK ", "AIN,BEH,DAD,DAL,FEH,GHAIN,HAH,JEEM,KHAH,LAM,MEEM,NOON"),
  ("ARABIC MATHEMATICAL DOUBLE-STRUCK ", "QAF,REH,SAD,SEEN,SHEEN,TAH,TEH,THAL,THEH,WAW,YEH,ZAH"),
  ("ARABIC MATHEMATICAL ", "DOUBLE-STRUCK ZAIN,FEH,GHAIN,HAH,INITIAL AIN,INITIAL BEH,INITIAL DAD"),
  ("ARABIC MATHEMATICAL INITIAL ", "FEH,GHAIN,HAH,HEH,JEEM,KAF,KHAH,LAM,MEEM,NOON,QAF,SAD,SEEN"),
  ("ARABIC MATHEMATICAL ", "INITIAL SHEEN,INITIAL TEH,INITIAL THEH,INITIAL YEH,JEEM,KAF,KHAH,LAM"),
  ("ARABIC MATHEMATICAL LOOPED ", "AIN,ALEF,BEH,DAD,DAL,FEH,GHAIN,HAH,HEH,JEEM,KHAH,LAM,MEEM,NOON"),
  ("ARABIC MATHEMATICAL LOOPED ", "QAF,REH,SAD,SEEN,SHEEN,TAH,TEH,THAL,THEH,WAW,YEH,ZAH,ZAIN"),
  ("ARABIC MATHEMATICAL ", "MEEM,NOON,OPERATOR HAH WITH DAL,OPERATOR MEEM WITH HAH WITH TATWEEL"),
  ("ARABIC MATHEMATICAL ", "QAF,REH,SAD,SEEN,SHEEN"),
  ("ARABIC MATHEMATICAL STRETCHED ", "AIN,BEH,DAD,DOTLESS BEH,DOTLESS FEH,FEH,GHAIN,HAH,HEH,JEEM"),
  ("ARABIC MATHEMATICAL STRETCHED ", "KAF,KHAH,MEEM,NOON,QAF,SAD,SEEN,SHEEN,TAH,TEH,THEH,YEH,ZAH"),
  ("ARABIC MATHEMATICAL TA", "H,ILED AIN,ILED DAD,ILED DOTLESS NOON,ILED DOTLESS QAF"),
  ("ARABIC MATHEMATICAL TAILED ", "GHAIN,HAH,JEEM,KHAH,LAM,NOON,QAF,SAD,SEEN,SHEEN,YEH"),
  ("ARABIC MATHEMATICAL ", "TEH,THAL,THEH,WAW,YEH,ZAH,ZAIN"),
  ("ARABIC ", "NUMBER MARK ABOVE,NUMBER SIGN,OPEN DAMMATAN,OPEN FATHATAN,OPEN KASRATAN"),
  ("ARABIC P", "ERCENT SIGN,IASTRE MARK ABOVE,LACE OF SAJDAH,OETIC VERSE SIGN,OUND MARK ABOVE"),
  ("ARABIC ", "QUESTION MARK,RAISED ROUND DOT,RAY,REVERSED DAMMA"),
  ("ARABIC RIGHT ARROWHEAD ", "ABOVE,ABOVE WITH DOT,BELOW"),
  ("ARABIC ROUNDED HIGH STOP WITH FILLED CENTRE", ""),
  ("ARABIC S", "EMICOLON,HADDA,HADDA ISOLATED FORM,HADDA MEDIAL FORM,IGN ALAYHE ASSALLAM"),
  ("ARABIC SIGN ", "MISRA,RADI ALLAHOU ANHU,RAHMATULLAH ALAYHE,SAFHA,SALLALLAHOU ALAYHE WASSALLAM"),
  ("ARABIC SIGN ", "SAMVAT,SANAH,SINDHI AMPERSAND,SINDHI POSTPOSITION MEN,TAKHALLUS"),
  ("ARABIC SMALL ", "DAMMA,FARSI YEH,FATHA"),
  ("ARABIC SMALL HIGH ", "AIN,DOTLESS HEAD OF KHAH,FARSI YEH,FOOTNOTE MARKER,JEEM,LAM ALEF"),
  ("ARABIC SMALL HIGH LIGATURE ", "ALEF WITH LAM WITH YEH,QAF WITH LAM WITH ALEF MAKSURA"),
  ("ARABIC SMALL HIGH ", "LIGATURE SAD WITH LAM WITH ALEF MAKSURA,MADDA,MEEM INITIAL FORM"),
  ("ARABIC SMALL HIGH ", "MEEM ISOLATED FORM,NOON,NOON WITH KASRA,QAF,ROUNDED ZERO,SAD"),
  ("ARABIC SMALL HIGH ", "SEEN,SIGN SAFHA,TAH,THREE DOTS,UPRIGHT RECTANGULAR ZERO,WAW"),
  ("ARABIC SMALL HIGH WORD ", "AL-JUZ,AN-NISF,AR-RUB,AS-SAJDA,ATH-THALATHA,QIF,SAH,SAKTA,WAQFA"),
  ("ARABIC SMALL ", "HIGH YEH,HIGH YEH BARREE WITH TWO DOTS BELOW,HIGH ZAH,HIGH ZAIN,KASRA"),
  ("ARABIC SMALL LOW ", "MEEM,NOON WITH KASRA,SEEN,WAW,WORD IMAALA,WORD ISHMAAM,WORD TASHEEL"),
  ("ARABIC S", "MALL WAW,MALL YEH,TART OF RUB EL HIZB,UBSCRIPT ALEF"),
  ("ARABIC SU", "KUN,KUN BELOW,KUN ISOLATED FORM,KUN MEDIAL FORM,PERSCRIPT ALEF MOKHASSAS"),
  ("ARABIC SYMBOL DO", "T ABOVE,T BELOW,UBLE VERTICAL BAR BELOW"),
  ("ARABIC SYMBOL ", "FOUR DOTS ABOVE,FOUR DOTS BELOW,RING,SMALL TAH ABOVE,SMALL TAH BELOW"),
  ("ARABIC SYMBOL THREE DOTS ", "ABOVE,BELOW,POINTING DOWNWARDS ABOVE,POINTING DOWNWARDS BELOW"),
  ("ARABIC SYMBOL TWO DOTS ", "ABOVE,BELOW,VERTICALLY ABOVE,VERTICALLY BELOW"),
  ("ARABIC ", "SYMBOL WASLA ABOVE,TAIL FRAGMENT,TATWEEL"),
  ("ARABIC TATWEEL WITH ", "FATHATAN ABOVE,OVERSTRUCK HAMZA,OVERSTRUCK WAW,TWO DOTS BELOW"),
  ("ARABIC T", "HOUSANDS SEPARATOR,ONE LOOP ABOVE"),
  ("ARABIC TONE ", "LOOP BELOW,ONE DOT ABOVE,ONE DOT BELOW,TWO DOTS ABOVE,TWO DOTS BELOW"),
  ("ARABIC ", "TRIPLE DOT PUNCTUATION MARK,TURNED DAMMA BELOW,VERTICAL TAIL"),
  ("ARABIC VOWEL SIGN ", "DOT BELOW,INVERTED SMALL V ABOVE,SMALL V ABOVE"),
  ("ARABIC", " WAVY HAMZA BELOW, ZWARAKAY,-INDIC CUBE ROOT"),
  ("ARABIC-INDIC DIGIT ", "EIGHT,FIVE,FOUR,NINE,ONE,SEVEN,SIX,THREE,TWO,ZERO"),
  ("ARABIC-INDIC ", "FOURTH ROOT,PER MILLE SIGN,PER TEN THOUSAND SIGN"),
  ("AR", "C,IES,MENIAN ABBREVIATION MARK,MENIAN APOSTROPHE"),
  ("ARMENIAN CAPITAL LETTER ", "AYB,BEN,CA,CHA,CHEH,CO,DA,ECH,EH,ET,FEH,GHAD,GIM,HO,INI,JA,JHEH"),
  ("ARMENIAN CAPITAL LETTER ", "KEH,KEN,LIWN,MEN,NOW,OH,PEH,PIWR,RA,REH,SEH,SHA,TIWN,TO,VEW,VO"),
  ("ARMENIAN CAPITAL LETTER ", "XEH,YI,YIWN,ZA,ZHE"),
  ("ARMENIAN ", "COMMA,DRAM SIGN,EMPHASIS MARK,EXCLAMATION MARK,FULL STOP,HYPHEN"),
  ("ARMENIAN ", "MODIFIER LETTER LEFT HALF RING,QUESTION MARK"),
  ("ARMENIAN SMALL LETTER ", "AYB,BEN,CA,CHA,CHEH,CO,DA,ECH,EH,ET,FEH,GHAD,GIM,HO,INI,JA,JHEH,KEH"),
  ("ARMENIAN SMALL LETTER ", "KEN,LIWN,MEN,NOW,OH,PEH,PIWR,RA,REH,SEH,SHA,TIWN,TO,TURNED AYB,VEW"),
  ("ARMENIAN SMALL LETTER ", "VO,XEH,YI,YI WITH STROKE,YIWN,ZA,ZHE"),
  ("ARMENIAN SMALL LIGATURE ", "ECH YIWN,MEN ECH,MEN INI,MEN NOW,MEN XEH,VEW NOW"),
  ("ARROW POINTING DOWNWARDS THEN CURVING ", "LEFTWARDS,RIGHTWARDS"),
  ("ARROW POINTING RIGHTWARDS THEN CURVING ", "DOWNWARDS,SOUTH WEST,UPWARDS"),
  ("ARROW", " POINTING UPWARDS THEN NORTH WEST,HEAD-SHAPED POINTER"),
  ("A", "RTICULATED LORRY,RTIST PALETTE,SCENDING NODE,SCIA SYMBOL,SSERTION"),
  ("AST", "ERISK,ERISK OPERATOR,ERISM,ONISHED FACE,RAEA,RONOMICAL SYMBOL FOR URANUS"),
  ("A", "SYMPTOTICALLY EQUAL TO,THLETIC SHOE,TOM SYMBOL,UBERGINE,USTRAL SIGN,UTO RICKSHAW"),
  ("A", "UTOMATED TELLER MACHINE,UTOMOBILE,VESTAN ABBREVIATION MARK"),
  ("AVESTAN LETTER ", "A,AA,AAN,AAO,AE,AEE,AN,AO,BE,BHE,CE,DE,DHE,E,EE,FE,GE,GGE,GHE,HE,HME,I"),
  ("AVESTAN LETTER ", "II,JE,KE,LE,ME,NE,NGE,NGVE,NGYE,NNE,NYE,O,OO,PE,RE,SE,SHE,SHYE,SSHE,TE,THE"),
  ("AVESTAN LETTER ", "TTE,U,UU,VE,XE,XVE,XYE,YE,YYE,ZE,ZHE"),
  ("A", "VOCADO,XE")]

end ModelBindings.Text.CharacterName
