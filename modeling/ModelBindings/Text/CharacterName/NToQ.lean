/-!
# Character names that start with the letters from N to Q
-/

set_option autoImplicit false

namespace ModelBindings.Text.CharacterName

/-- The character names that start with the letters from N to Q, in groups. -/
def namesNToQ : List (String × String) := [
  ("N-ARY CIRCLED ", "DOT OPERATOR,PLUS OPERATOR,TIMES OPERATOR"),
  ("N-ARY ", "COPRODUCT,INTERSECTION,LOGICAL AND,LOGICAL OR,PRODUCT,SQUARE INTERSECTION OPERATOR"),
  ("N-ARY ", "SQUARE UNION OPERATOR,SUMMATION,TIMES OPERATOR,UNION,UNION OPERATOR WITH DOT"),
  ("N", "-ARY UNION OPERATOR WITH PLUS,-ARY WHITE VERTICAL BAR,ABATAEAN CRUCIFORM NUMBER FOUR"),
  ("NABATAEAN LETTER ", "ALEPH,AYIN,BETH,DALETH"),
  ("NABATAEAN LETTER FINAL ", "ALEPH,BETH,HE,KAPH,LAMEDH,MEM,NUN,SHIN,YODH"),
  ("NABATAEAN LETTER ", "GIMEL,HE,HETH,KAPH,LAMEDH,MEM,NUN,PE,QOPH,RESH,SADHE,SAMEKH"),
  ("NABATAEAN LETTER ", "SHIN,TAW,TETH,WAW,YODH,ZAYIN"),
  ("NABATAEAN NUMBER ", "FIVE,FOUR,ONE,ONE HUNDRED,TEN,THREE,TWENTY,TWO"),
  ("NA", "BLA,IL POLISH,IRA SIGN,K,ME BADGE,ND,NDINAGARI HEADSTROKE"),
  ("NANDINAGARI LETTER ", "A,AA,AI,AU,BA,BHA,CA,CHA,DA,DDA,DDHA,DHA,E,GA,GHA,HA,I,II,JA,JHA"),
  ("NANDINAGARI LETTER ", "KA,KHA,LA,LLA,MA,NA,NGA,NNA,NYA,O,PA,PHA,RA,RRA,SA,SHA,SSA,TA,THA"),
  ("NANDINAGARI LETTER ", "TTA,TTHA,U,UU,VA,VOCALIC R,VOCALIC RR,YA"),
  ("NANDINAGARI SIGN ", "ANUSVARA,AVAGRAHA,SIDDHAM,VIRAMA,VISARGA"),
  ("NANDINAGARI VOWEL SIGN ", "AA,AI,AU,E,I,II,O,PRISHTHAMATRA E,U,UU,VOCALIC R,VOCALIC RR"),
  ("NA", "RROW NO-BREAK SPACE,TIONAL DIGIT SHAPES,TIONAL PARK,USEATED FACE,ZAR AMULET"),
  ("N", "BH,BSP,ECKTIE,EGATED DOUBLE VERTICAL BAR DOUBLE RIGHT TURNSTILE"),
  ("NEGATIVE ", "ACKNOWLEDGE,CIRCLED DIGIT ZERO"),
  ("NEGATIVE CIRCLED LATIN CAPITAL LETTER ", "A,B,C,D,E,F,G,H,I,J,K,L,M,N,O,P,Q,R,S,T,U,V,W,X,Y,Z"),
  ("NEGATIVE CIRCLED NUMBER ", "EIGHTEEN,ELEVEN,FIFTEEN,FOURTEEN,NINETEEN,SEVENTEEN,SIXTEEN"),
  ("NEGATIVE CIRCLED ", "NUMBER THIRTEEN,NUMBER TWELVE,NUMBER TWENTY,SQUARE,TRIANGLE"),
  ("NEGATIVE DIAGONAL ", "CROSS,DIAMOND,MIDDLE RIGHT TO LOWER CENTRE"),
  ("NEGATIVE SQUARED ", "AB,CROSS MARK,IC"),
  ("NEGATIVE SQUARED LATIN CAPITAL LETTER ", "A,B,C,D,E,F,G,H,I,J,K,L,M,N,O,P,Q,R,S,T,U,V,W,X,Y,Z"),
  ("NEGATIVE SQUARED ", "PA,QUESTION MARK,SA,WC"),
  ("NEITHER A SU", "BSET OF NOR EQUAL TO,PERSET OF NOR EQUAL TO"),
  ("NEITHER APPROXIMATELY NOR ACTUALLY EQUAL TO", ""),
  ("NEITHER GREATER-THAN NOR ", "EQUAL TO,EQUIVALENT TO,LESS-THAN"),
  ("NEITHER LESS-THAN NOR ", "EQUAL TO,EQUIVALENT TO,GREATER-THAN"),
  ("NE", "L,PTUNE,PTUNE FORM TWO,RD FACE,SSUS,ST WITH EGGS,STING DOLLS,UTER"),
  ("NEUTRAL CHESS BISHOP", ", ROTATED NINETY DEGREES, ROTATED TWO HUNDRED SEVENTY DEGREES"),
  ("NEUTRAL CHESS EQUIHOPPER", ", ROTATED NINETY DEGREES"),
  ("NEUTRAL CHESS KING", ", ROTATED NINETY DEGREES, ROTATED TWO HUNDRED SEVENTY DEGREES"),
  ("NEUTRAL CHESS KNIGHT", ", ROTATED FORTY-FIVE DEGREES"),
  ("NEUTRAL CHESS KNIGHT ROTATED ", "NINETY DEGREES,ONE HUNDRED THIRTY-FIVE DEGREES"),
  ("NEUTRAL CHESS KNIGHT ROTATED THREE HUNDRED FIFTEEN DEGREES", ""),
  ("NEUTRAL CHESS KNIGHT ROTATED TWO HUNDRED ", "SEVENTY DEGREES,TWENTY-FIVE DEGREES"),
  ("NEUTRAL CHESS PAWN", ", ROTATED NINETY DEGREES, ROTATED TWO HUNDRED SEVENTY DEGREES"),
  ("NEUTRAL CHESS QUEEN", ", ROTATED NINETY DEGREES, ROTATED TWO HUNDRED SEVENTY DEGREES"),
  ("NEUTRAL CHESS ROOK", ", ROTATED NINETY DEGREES, ROTATED TWO HUNDRED SEVENTY DEGREES"),
  ("NEUTRAL CHESS TURNED ", "BISHOP,KING,KNIGHT,PAWN,QUEEN,ROOK"),
  ("NE", "UTRAL FACE,W LINE,W MOON SYMBOL,W MOON WITH FACE,W SHEQEL SIGN"),
  ("NEW TAI LUE DIGIT ", "EIGHT,FIVE,FOUR,NINE,ONE,SEVEN,SIX,THREE,TWO,ZERO"),
  ("NEW TAI LUE LETTER FINAL ", "B,D,K,M,N,NG,V"),
  ("NEW TAI LUE LETTER HIGH ", "BA,DA,FA,HA,KA,KVA,LA,MA,NA,NGA,PA,PHA,QA,SA,SUA,TA,THA,TSA,VA,XA"),
  ("NEW TAI LUE LETTER ", "HIGH XVA,HIGH YA,LOW BA,LOW DA"),
  ("NEW TAI LUE LETTER LOW ", "FA,HA,KA,KVA,LA,MA,NA,NGA,PA,PHA,QA,SA,SUA,TA,THA,TSA,VA,XA,XVA,YA"),
  ("NEW TAI LUE ", "SIGN LAE,SIGN LAEV,THAM DIGIT ONE,TONE MARK-1,TONE MARK-2"),
  ("NEW TAI LUE VOWEL SIGN ", "AA,AAY,AE,AY,E,II,IY,O,OA,OAY,OY,U,UE,UEY,UU,UY,VOWEL SHORTENER"),
  ("NEWA ", "ABBREVIATION SIGN,COMMA,DANDA"),
  ("NEWA DIGIT ", "EIGHT,FIVE,FOUR,NINE,ONE,SEVEN,SIX,THREE,TWO,ZERO"),
  ("NEWA ", "DOUBLE COMMA,DOUBLE DANDA,GAP FILLER,INSERTION SIGN"),
  ("NEWA LETTER ", "A,AA,AI,AU,BA,BHA,CA,CHA,DA,DDA,DDHA,DHA,E,GA,GHA,HA,I,II,JA,JHA,KA,KHA,LA"),
  ("NEWA LETTER ", "LHA,MA,MHA,NA,NGA,NGHA,NHA,NNA,NYA,NYHA,O,PA,PHA,RA,RHA,SA,SHA,SSA,TA,THA,TTA"),
  ("NEWA LETTER ", "TTHA,U,UU,VEDIC ANUSVARA,VOCALIC L,VOCALIC LL,VOCALIC R,VOCALIC RR,WA,YA"),
  ("NEWA ", "OM,PLACEHOLDER MARK,SANDHI MARK,SIDDHI,SIGN ANUSVARA,SIGN AVAGRAHA"),
  ("NEWA SIGN ", "CANDRABINDU,FINAL ANUSVARA,JIHVAMULIYA,NUKTA,UPADHMANIYA,VIRAMA,VISARGA"),
  ("NEWA VOWEL SIGN ", "AA,AI,AU,E,I,II,O,U,UU,VOCALIC L,VOCALIC LL,VOCALIC R,VOCALIC RR"),
  ("N", "EWLINE LEFT,EWLINE RIGHT,EWSPAPER,EXT LINE,EXT PAGE,IGHT WITH STARS,INJA"),
  ("NKO COMBINING ", "DOUBLE DOT ABOVE,LONG DESCENDING TONE,LONG HIGH TONE,LONG LOW TONE"),
  ("NKO COMBINING ", "LONG RISING TONE,NASALIZATION MARK,SHORT HIGH TONE,SHORT LOW TONE"),
  ("NKO ", "COMBINING SHORT RISING TONE,COMMA,DANTAYALAN"),
  ("NKO DIGIT ", "EIGHT,FIVE,FOUR,NINE,ONE,SEVEN,SIX,THREE,TWO,ZERO"),
  ("NKO ", "DOROME SIGN,EXCLAMATION MARK,HIGH TONE APOSTROPHE,LAJANYALAN"),
  ("NKO LETTER ", "A,BA,CHA,DA,DAGBASINNA,E,EE,FA,GBA,HA,I,JA,JONA CHA,JONA JA,JONA RA,KA,LA,MA"),
  ("NKO LETTER ", "N,NA,NA WOLOSO,NYA,NYA WOLOSO,O,OO,PA,RA,RRA,SA,TA,U,WA,YA"),
  ("N", "KO LOW TONE APOSTROPHE,KO SYMBOL GBAKURUNEN,KO SYMBOL OO DENNEN,KO TAMAN SIGN,L,NBSP"),
  ("NO ", "BICYCLES,BREAK HERE,ENTRY,ENTRY SIGN,MOBILE PHONES,ONE UNDER EIGHTEEN SYMBOL"),
  ("NO", " PEDESTRIANS, PIRACY, SMOKING SYMBOL,-BREAK SPACE,MINAL DIGIT SHAPES"),
  ("NO", "MISMA SIGN,N-BREAKING HYPHEN,N-POTABLE WATER SYMBOL,NFORKING,R"),
  ("NOR", "DIC MARK SIGN,MAL SUBGROUP OF,MAL SUBGROUP OF OR EQUAL TO,TH EAST AND SOUTH WEST ARROW"),
  ("NORTH EAST ARROW", ", AND SOUTH EAST ARROW, CROSSING NORTH WEST ARROW"),
  ("NORTH EAST ", "ARROW CROSSING SOUTH EAST ARROW,ARROW WITH HOOK,BLACK ARROW,DOUBLE ARROW"),
  ("NORTH EAST ", "POINTING BUD,POINTING LEAF,POINTING VINE LEAF,SANS-SERIF ARROW"),
  ("NORTH EAST ", "TRIANGLE-HEADED ARROW,TRIANGLE-HEADED ARROW TO BAR,WHITE ARROW"),
  ("NORTH INDIC FRACTION ", "ONE EIGHTH,ONE HALF,ONE QUARTER,ONE SIXTEENTH,THREE QUARTERS"),
  ("NORTH INDIC ", "FRACTION THREE SIXTEENTHS,PLACEHOLDER MARK,QUANTITY MARK,QUARTER MARK"),
  ("NORTH ", "INDIC RUPEE MARK,WEST AND SOUTH EAST ARROW"),
  ("NORTH WEST ARROW", ", AND NORTH EAST ARROW, CROSSING NORTH EAST ARROW, TO CORNER, TO LONG BAR"),
  ("NORTH WEST ", "ARROW WITH HOOK,BLACK ARROW,DOUBLE ARROW,POINTING BUD"),
  ("NORTH WEST ", "POINTING LEAF,POINTING VINE LEAF,SANS-SERIF ARROW"),
  ("NORTH WEST ", "TRIANGLE-HEADED ARROW,TRIANGLE-HEADED ARROW TO BAR,WHITE ARROW"),
  ("NO", "RTHEAST-POINTING AIRPLANE,SE,T A SUBSET OF,T A SUPERSET OF,T ALMOST EQUAL TO"),
  ("NOT ", "AN ELEMENT OF,ASYMPTOTICALLY EQUAL TO,CHECK MARK,EQUAL TO,EQUIVALENT TO,GREATER-THAN"),
  ("NOT ", "IDENTICAL TO,LESS-THAN,NORMAL SUBGROUP OF,NORMAL SUBGROUP OF OR EQUAL TO,PARALLEL TO"),
  ("NOT ", "SIGN,SQUARE IMAGE OF OR EQUAL TO,SQUARE ORIGINAL OF OR EQUAL TO,TILDE,TRUE"),
  ("NOTCHED L", "EFT SEMICIRCLE WITH THREE DOTS,OWER RIGHT-SHADOWED WHITE RIGHTWARDS ARROW"),
  ("NOTCHED ", "RIGHT SEMICIRCLE WITH THREE DOTS,UPPER RIGHT-SHADOWED WHITE RIGHTWARDS ARROW"),
  ("NOTE", ", PAD, PAGE,BOOK,BOOK WITH DECORATIVE COVER"),
  ("NU", "L,LL,MBER EIGHTEEN FULL STOP,MBER ELEVEN FULL STOP,MBER FIFTEEN FULL STOP"),
  ("NUMBER ", "FOURTEEN FULL STOP,NINETEEN FULL STOP,SEVENTEEN FULL STOP,SIGN,SIXTEEN FULL STOP"),
  ("NUMBER T", "EN FULL STOP,HIRTEEN FULL STOP,WELVE FULL STOP,WENTY FULL STOP"),
  ("N", "UMERO SIGN,USHU ITERATION MARK,UT AND BOLT,YIAKENG PUACHUE HMONG CIRCLED CA"),
  ("NYIAKENG PUACHUE HMONG DIGIT ", "EIGHT,FIVE,FOUR,NINE,ONE,SEVEN,SIX,THREE,TWO,ZERO"),
  ("NYIAKENG PUACHUE HMONG LETTER ", "A,AA,CA,DA,DLA,E,EE,FA,GA,HA,HAH,I,KA,LA,MA,MLA"),
  ("NYIAKENG PUACHUE HMONG LETTER N", "A,CA,KA,PA,PLA,QA,RA,TA,TSA,TXA,YA"),
  ("NYIAKENG PUACHUE HMONG LETTER ", "O,OO,PA,PLA,QA,RA,RRA,SA,TA,TSA,TXA,U,VA,W,XA,XYA,YA,ZA"),
  ("NYIAKENG PUACHUE HMONG LOGOGRAM NYAJ", ""),
  ("NYIAKENG PUACHUE HMONG SIGN FOR ", "ANIMAL,INVERTEBRATE,LOCATION,PERSON,THING"),
  ("NYIAKENG PUACHUE HMONG S", "IGN XW XW,YLLABLE LENGTHENER"),
  ("NYIAKENG PUACHUE HMONG TONE-", "B,D,G,J,M,S,V"),
  ("OB", "JECT REPLACEMENT CHARACTER,LIQUE ANGLE OPENING DOWN,LIQUE ANGLE OPENING UP,LIQUE HYPHEN"),
  ("O", "BSERVER EYE SYMBOL,CR AMOUNT OF CHECK,CR BELT BUCKLE,CR BOW TIE"),
  ("OCR ", "BRANCH BANK IDENTIFICATION,CHAIR,CUSTOMER ACCOUNT NUMBER,DASH,DOUBLE BACKSLASH,FORK"),
  ("O", "CR HOOK,CR INVERTED FORK,CTAGONAL SIGN,CTOPUS,DEN,FFICE BUILDING,GHAM FEATHER MARK"),
  ("OGHAM LETTER ", "AILM,BEITH,CEIRT,COLL,DAIR,EABHADH,EADHADH,EAMHANCHOLL,FEARN,GORT"),
  ("OGHAM LETTER ", "IFIN,IODHADH,LUIS,MUIN,NGEADAL,NION,ONN,OR,PEITH,RUIS,SAIL,STRAIF,TINNE,UATH"),
  ("OGHAM ", "LETTER UILLEANN,LETTER UR,REVERSED FEATHER MARK,SPACE MARK"),
  ("O", "GONEK,HM SIGN,IL DRUM,K HAND SIGN,L CHIKI AHAD"),
  ("OL CHIKI DIGIT ", "EIGHT,FIVE,FOUR,NINE,ONE,SEVEN,SIX,THREE,TWO,ZERO"),
  ("OL CHIKI GAAHLAA TTUDDAAG", ""),
  ("OL CHIKI LETTER A", "AJ,AK,AM,AW,G,L,NG,T"),
  ("OL CHIKI LETTER ", "EDD,EN,EP,ERR,IH,INY,IR,IS,LA,LAA,LE,LI,LO,LU,OB,OH,OTT,OV,UC,UD,UNN,UY"),
  ("OL CHIKI ", "MU TTUDDAG,MU-GAAHLAA TTUDDAAG,PHAARKAA,PUNCTUATION DOUBLE MUCAAD"),
  ("OL", " CHIKI PUNCTUATION MUCAAD, CHIKI RELAA,D CHINESE HOOK MARK,D CHINESE ITERATION MARK"),
  ("OLD HUNGARIAN CAPITAL LETTER ", "A,AA,AK,AMB,AND,CLOSE E,E,EB,EC,ECH,ECS"),
  ("OLD HUNGARIAN CAPITAL LETTER E", "D,E,F,G,GY,H,J,K,L,LY,M,MP,N,NC,NT,NT-SHAPED SIGN,NY,P,R,S"),
  ("OLD HUNGARIAN CAPITAL LETTER ", "ESZ,ET,ETY,EV,EZ,EZS,I,II,NIKOLSBURG OE,NIKOLSBURG UE,O,OEE"),
  ("OLD HUNGARIAN CAPITAL LETTER ", "OO,RUDIMENTA OE,RUDIMENTA UE,SHORT ER,U,UNK,US,UU"),
  ("OLD HUNGARIAN NUMBER ", "FIFTY,FIVE,ONE,ONE HUNDRED,ONE THOUSAND,TEN"),
  ("OLD HUNGARIAN SMALL LETTER ", "A,AA,AK,AMB,AND,CLOSE E,E,EB,EC,ECH,ECS,ED"),
  ("OLD HUNGARIAN SMALL LETTER E", "E,F,G,GY,H,J,K,L,LY,M,MP,N,NC,NT,NT-SHAPED SIGN,NY,P,R,S,SZ,T"),
  ("OLD HUNGARIAN SMALL LETTER ", "ETY,EV,EZ,EZS,I,II,NIKOLSBURG OE,NIKOLSBURG UE,O,OEE,OO"),
  ("OLD HUNGARIAN SMALL LETTER ", "RUDIMENTA OE,RUDIMENTA UE,SHORT ER,U,UNK,US,UU"),
  ("OLD ITALIC LETTER ", "A,BE,CHE,DE,E,EF,EKS,EL,EM,EN,ER,ERS,ES,ESH,ESS,HE,I,II,KA,KE,KHE,KU"),
  ("OLD ITALIC LETTER ", "NORTHERN TSE,O,PE,PHE,SHE,SOUTHERN TSE,TE,THE,U,UU,VE,YE,ZE"),
  ("OLD ", "ITALIC NUMERAL FIFTY,ITALIC NUMERAL FIVE,ITALIC NUMERAL ONE,ITALIC NUMERAL TEN,KEY"),
  ("OLD NORTH ARABIAN LETTER ", "AIN,ALEF,BEH,DAD,DAL,ES-1,ES-2,ES-3,FEH,GEEM,GHAIN,HAH,HEH,KAF"),
  ("OLD NORTH ARABIAN LETTER ", "KHAH,LAM,MEEM,NOON,QAF,REH,SAD,TAH,TEH,THAL,THEH,WAW,YEH,ZAH"),
  ("OLD NORTH ARABIAN ", "LETTER ZAIN,NUMBER ONE,NUMBER TEN,NUMBER TWENTY"),
  ("OLD PERMIC LETTER ", "AN,BUR,CHERY,DOI,DZHOI,DZITA,E,EF,GAI,HA,I,IA,IE,KOKE,LEI,MENOE,NENOE"),
  ("OLD PERMIC LETTER ", "O,OO,PEEI,REI,SHCHOOI,SHOOI,SII,TAI,TSIU,U,VER,VOOI"),
  ("OLD PERMIC LETTER ", "YA,YAT,YER,YERI,YERU,YRY,YU,ZATA,ZHOI"),
  ("OLD PERSIAN NUMBER ", "HUNDRED,ONE,TEN,TWENTY,TWO"),
  ("OLD PERSIAN SIGN ", "A,AURAMAZDAA,AURAMAZDAA-2,AURAMAZDAAHA,BA,BAGA,BUUMISH,CA,DA,DAHYAAUSH"),
  ("OLD PERSIAN SIGN ", "DAHYAAUSH-2,DI,DU,FA,GA,GU,HA,I,JA,JI,KA,KU,LA,MA,MI,MU,NA,NU"),
  ("OLD PERSIAN SIGN ", "PA,RA,RU,SA,SHA,SSA,TA,THA,TU,U,VA,VI,XA,XSHAAYATHIYA,YA,ZA"),
  ("OLD ", "PERSIAN WORD DIVIDER,PERSONAL COMPUTER,SOGDIAN FRACTION ONE HALF"),
  ("OLD SOGDIAN LETTER ", "ALEPH,ALTERNATE AYIN,AYIN,BETH,FINAL ALEPH,FINAL BETH"),
  ("OLD SOGDIAN LETTER FINAL ", "HE,NUN,NUN WITH VERTICAL TAIL,SADHE,SADHE WITH VERTICAL TAIL,TAW"),
  ("OLD SOGDIAN LETTER ", "FINAL TAW WITH VERTICAL TAIL,GIMEL,HE,HETH,KAPH,LAMEDH,MEM,NUN,PE"),
  ("OLD SOGDIAN LETTER ", "RESH-AYIN-DALETH,SADHE,SAMEKH,SHIN,TAW,WAW,YODH,ZAYIN"),
  ("OLD SOGDIAN LIGATURE AYIN-DALETH", ""),
  ("OLD SOGDIAN NUMBER ", "FIVE,FOUR,ONE,ONE HUNDRED,TEN,THIRTY,THREE,TWENTY,TWO"),
  ("OLD SOUTH ARABIAN LETTER ", "ALEF,AYN,BETH,DALETH,DHADHE,DHALETH,FE,GHAYN,GIMEL,HE"),
  ("OLD SOUTH ARABIAN LETTER ", "HETH,KAPH,KHETH,LAMEDH,MEM,NUN,QOPH,RESH"),
  ("OLD SOUTH ARABIAN LETTER ", "SADHE,SAMEKH,SAT,SHIN,TAW,TETH,THAW,THETH,WAW,YODH,ZAYN"),
  ("OLD SOUTH ARABIAN NUM", "BER FIFTY,BER ONE,ERIC INDICATOR"),
  ("OLD TURKIC LETTER ORKHON A", ",B,D,EB,ED,EG,EK,EL,EN,ER,ES,ET,EY,G,L,N,Q,R,S,SH,T,Y"),
  ("OLD TURKIC LETTER ORKHON ", "BASH,EC,ELT,EM,ENC,ENG,ENT,ENY,EP,ESH,EZ,I,IC,IQ"),
  ("OLD TURKIC LETTER ORKHON O", ",E,EK,P,Q,T"),
  ("OLD TURKIC LETTER YENISEI A", ",B,D,E,EB,EG,EK,EN,ENG,ET,EY,G,L,NG,Q,R,SH,T,Y"),
  ("OLD TURKIC LETTER YENISEI ", "E,EC,ENC,ENT,ENY,ESH,EZ,I,IQ,OE,OEK,OQ"),
  ("OLD UYGHUR COMBINING ", "DOT ABOVE,DOT BELOW,TWO DOTS ABOVE,TWO DOTS BELOW"),
  ("OLD UYGHUR LETTER ", "ALEPH,BETH,FINAL HETH,GIMEL-HETH,KAPH,LAMEDH,LESH,MEM,NUN,PE,RESH,SADHE"),
  ("OLD UYGHUR LETTER ", "SAMEKH,SHIN,TAW,WAW,YODH,ZAYIN"),
  ("OLD UYGHUR PUNCTUATION ", "BAR,FOUR DOTS,TWO BARS,TWO DOTS"),
  ("OLDER ", "ADULT,MAN,WOMAN"),
  ("O", "LIVE,M SYMBOL,N WITH EXCLAMATION MARK WITH LEFT RIGHT ARROW ABOVE,NCOMING AUTOMOBILE"),
  ("ON", "COMING BUS,COMING FIRE ENGINE,COMING POLICE CAR,COMING TAXI,E BUTTON MOUSE,E DOT LEADER"),
  ("O", "NE DOT OVER TWO DOTS PUNCTUATION,NE-PIECE SWIMSUIT,NION,PEN BOOK,PEN BOX"),
  ("OPEN CENTRE ", "ASTERISK,BLACK STAR,CROSS,TEARDROP-SPOKED ASTERISK"),
  ("OPEN ", "FILE FOLDER,FOLDER,HANDS SIGN,LOCK,MAILBOX WITH LOWERED FLAG"),
  ("OPEN", " MAILBOX WITH RAISED FLAG, SUBSET, SUPERSET,-CIRCUIT-OUTPUT H-TYPE SYMBOL"),
  ("OPE", "N-CIRCUIT-OUTPUT L-TYPE SYMBOL,N-OUTLINED RIGHTWARDS ARROW,RATING SYSTEM COMMAND"),
  ("O", "PHIUCHUS,PPOSITION,PTICAL DISC,PTICAL DISC ICON,PTION KEY,R WITH DOT INSIDE"),
  ("OR", "ANGE BOOK,ANGE HEART,ANGUTAN,IGINAL OF,IYA AI LENGTH MARK,IYA AU LENGTH MARK"),
  ("ORIYA DIGIT ", "EIGHT,FIVE,FOUR,NINE,ONE,SEVEN,SIX,THREE,TWO,ZERO"),
  ("ORIYA FRACTION ONE ", "EIGHTH,HALF,QUARTER,SIXTEENTH"),
  ("ORIYA ", "FRACTION THREE QUARTERS,FRACTION THREE SIXTEENTHS,ISSHAR"),
  ("ORIYA LETTER ", "A,AA,AI,AU,BA,BHA,CA,CHA,DA,DDA,DDHA,DHA,E,GA,GHA,HA,I,II,JA,JHA"),
  ("ORIYA LETTER ", "KA,KHA,LA,LLA,MA,NA,NGA,NNA,NYA,O,PA,PHA,RA,RHA,RRA,SA,SHA,SSA,TA,THA,TTA"),
  ("ORIYA LETTER ", "TTHA,U,UU,VA,VOCALIC L,VOCALIC LL,VOCALIC R,VOCALIC RR,WA,YA,YYA"),
  ("ORIYA SIGN ", "ANUSVARA,AVAGRAHA,CANDRABINDU,NUKTA,OVERLINE,VIRAMA,VISARGA"),
  ("ORIYA VOWEL SIGN ", "AA,AI,AU,E,I,II,O,U,UU,VOCALIC L,VOCALIC LL,VOCALIC R,VOCALIC RR"),
  ("OR", "NATE LEFT PARENTHESIS,NATE RIGHT PARENTHESIS,THODOX CROSS"),
  ("OSAGE CAPITAL LETTER ", "A,AH,AI,AIN,BRA,CHA,DHA,E,EHCHA,EHKA,EHPA,EHTA,EHTSA,EIN,GHA,HA,HYA"),
  ("OSAGE CAPITAL LETTER ", "I,KA,KHA,KYA,LA,MA,NA,O,OIN,PA,SA,SHA,TA,TSA,TSHA,U,WA,ZA,ZHA"),
  ("OSAGE SMALL LETTER ", "A,AH,AI,AIN,BRA,CHA,DHA,E,EHCHA,EHKA,EHPA,EHTA,EHTSA,EIN,GHA,HA,HYA,I"),
  ("OSAGE SMALL LETTER ", "KA,KHA,KYA,LA,MA,NA,O,OIN,PA,SA,SHA,TA,TSA,TSHA,U,WA,ZA,ZHA"),
  ("OSC", ""),
  ("OSMANYA DIGIT ", "EIGHT,FIVE,FOUR,NINE,ONE,SEVEN,SIX,THREE,TWO,ZERO"),
  ("OSMANYA LETTER ", "A,AA,ALEF,BA,CAYN,DEEL,DHA,E,EE,FA,GA,HA,I,JA,KAAF,KHA,LAAN,MIIN,NUUN,O"),
  ("OSMANYA LETTER ", "OO,QAAF,RA,SA,SHIIN,TA,U,WAW,XA,YA"),
  ("OTTER", ""),
  ("OTTOMAN SIYAQ ALTERNATE NUMBER ", "EIGHT,FIVE,FOUR,FOUR HUNDRED,NINE,SEVEN,SIX,SIX HUNDRED"),
  ("OTTOMAN SIYAQ ALTERNATE NUMBER T", "EN,EN THOUSAND,HREE,WO,WO THOUSAND"),
  ("OTTOMAN SIYAQ ", "FRACTION ONE HALF,FRACTION ONE SIXTH,MARRATAN"),
  ("OTTOMAN SIYAQ NUMBER EIGHT", ", HUNDRED, THOUSAND,Y,Y THOUSAND"),
  ("OTTOMAN SIYAQ NUMBER F", "IFTY,IFTY THOUSAND,IVE,IVE HUNDRED,IVE THOUSAND,ORTY,ORTY THOUSAND"),
  ("OTTOMAN SIYAQ NUMBER ", "FOUR,FOUR HUNDRED,FOUR THOUSAND,NINE,NINE HUNDRED"),
  ("OTTOMAN SIYAQ NUMBER ", "NINE THOUSAND,NINETY,NINETY THOUSAND,ONE,ONE HUNDRED,ONE THOUSAND"),
  ("OTTOMAN SIYAQ NUMBER SEVEN", ", HUNDRED, THOUSAND,TY,TY THOUSAND"),
  ("OTTOMAN SIYAQ NUMBER SIX", ", HUNDRED, THOUSAND,TY,TY THOUSAND"),
  ("OTTOMAN SIYAQ NUMBER T", "EN,EN THOUSAND,HIRTY,HIRTY THOUSAND,HREE,HREE HUNDRED,HREE THOUSAND"),
  ("OTTOMAN SIYAQ NUMBER TW", "ENTY,ENTY THOUSAND,O,O HUNDRED,O THOUSAND"),
  ("OU", "NCE SIGN,TBOX TRAY,TLINED BLACK STAR,TLINED GREEK CROSS,TLINED LATIN CROSS"),
  ("O", "UTLINED WHITE STAR,VERHEATED FACE,VERLAP,VERLAPPING BLACK SQUARES"),
  ("O", "VERLAPPING WHITE AND BLACK SQUARES,VERLAPPING WHITE SQUARES,VERLINE,WL,X,YSTER"),
  ("PA", "CKAGE,D,DDING CHARACTER,GE,GE FACING UP,GE WITH CIRCLED TEXT,GE WITH CURL,GER,GES,GODA"),
  ("PAHAWH HMONG CLAN SIGN ", "FAJ,HAM,HAWJ,KHAB,KOO,KWM,LAUJ,LIS,MUAS,PHAB,THOJ,TSAB,TSHEEJ,TSWB"),
  ("PAHAWH HMONG CLAN SIGN ", "VAJ,VWJ,XYOOJ,YAJ,YEEG"),
  ("PAHAWH HMONG CONSONANT ", "AU,CAU,CHAU,HAU,HLAU,HNAU,LAU,MAU,NAU,NCHAU,NKAU,NLAU,NTHAU"),
  ("PAHAWH HMONG CONSONANT ", "NTSAU,PLHAU,QHAU,RAU,VAU,XAU,YAU"),
  ("PAHAWH HMONG DIGIT ", "EIGHT,FIVE,FOUR,NINE,ONE,SEVEN,SIX,THREE,TWO,ZERO"),
  ("PAHAWH HMONG MARK CIM ", "HOM,KES,KHAV,SO,SUAM,TAUM,TUB"),
  ("PAHAWH HMONG NUMBER ", "HUNDRED MILLIONS,HUNDREDS,MILLIONS,TEN BILLIONS,TEN THOUSANDS,TENS"),
  ("PAHAWH HMONG ", "NUMBER TRILLIONS,SIGN AV"),
  ("PAHAWH HMONG SIGN CIM ", "CHEEM,CUAM TSHOOJ,HAIS LUS NTOG NTOG,NRES TOS,PUB DAWB,TSOV ROG"),
  ("PAHAWH HMONG SIGN ", "CIM TXWV,CIM TXWV CHWV,HLI,HNUB,IB YAM,LOS"),
  ("PAHAWH HMONG SIGN ", "MEEJ SUAB,MEEJ TSEEB,MUS,NQIG,NTUJ,TAU,THIRD-STAGE HLI,TXHEEJ CEEV"),
  ("PAHAWH HMONG SIGN VOS ", "FEEM,LUB,NRUA,SEEV,THIAB,THOM,TSHAB CEEB"),
  ("PAHAWH HMONG SIGN ", "XAUS,XIAB,XYEEM FAIB,XYEEM NTXIV,XYEEM RHO,XYEEM TOV,XYOO,ZWJ THAJ"),
  ("PAHAWH HMONG VOWEL KA", "AB,AV,B,IB,IV,UB,UV,V,WB,WV"),
  ("PAHAWH HMONG VOWEL K", "EB,EEB,EEV,EV,IAB,IAV,IB,IV,OB,OOB,OOV,OV,UAB,UAV,UB,UV,WB,WV"),
  ("PAL", "LAS,M BRANCH,M DOWN HAND,M TREE,M UP HAND,MS UP TOGETHER,MYRENE LEFT-POINTING FLEURON"),
  ("PALMYRENE LETTER ", "ALEPH,AYIN,BETH,DALETH,FINAL NUN,GIMEL,HE,HETH,KAPH,LAMEDH,MEM,NUN,PE"),
  ("PALMYRENE LETTER ", "QOPH,RESH,SADHE,SAMEKH,SHIN,TAW,TETH,WAW,YODH,ZAYIN"),
  ("PALMYRENE NUMBER ", "FIVE,FOUR,ONE,TEN,THREE,TWENTY,TWO"),
  ("PA", "LMYRENE RIGHT-POINTING FLEURON,NCAKES,NDA FACE,PERCLIP,RACHUTE,RAGRAPH SEPARATOR"),
  ("PARA", "GRAPHOS,GRAPHUS MARK,LLEL TO,LLEL WITH HORIZONTAL STROKE,LLEL WITH TILDE OPERATOR"),
  ("PARENTHESIZED DIGIT ", "EIGHT,FIVE,FOUR,NINE,ONE,SEVEN,SIX,THREE,TWO"),
  ("PARENTHESIZED HANGUL ", "CHIEUCH,CHIEUCH A,CIEUC,CIEUC A,CIEUC U,HIEUH,HIEUH A,IEUNG,IEUNG A"),
  ("PARENTHESIZED HANGUL KHIEUKH", ", A"),
  ("PARENTHESIZED HANGUL ", "KIYEOK,KIYEOK A,MIEUM,MIEUM A,NIEUN,NIEUN A,PHIEUPH,PHIEUPH A,PIEUP"),
  ("PARENTHESIZED HANGUL ", "PIEUP A,RIEUL,RIEUL A,SIOS,SIOS A,THIEUTH,THIEUTH A,TIKEUT,TIKEUT A"),
  ("PARENTHESIZED IDEOGRAPH ", "ALLIANCE,CALL,CONGRATULATION,EARTH,EIGHT,ENTERPRISE,FESTIVAL"),
  ("PARENTHESIZED IDEOGRAPH ", "FINANCIAL,FIRE,FIVE,FOUR,HAVE,LABOR,METAL,MOON,NAME,NINE,ONE"),
  ("PARENTHESIZED IDEOGRAPH ", "REACH,REPRESENT,RESOURCE,REST,SELF,SEVEN,SIX,SOCIETY,SPECIAL"),
  ("PARENTHESIZED IDEOGRAPH ", "STOCK,STUDY,SUN,SUPERVISE,TEN,THREE,TWO,WATER,WOOD"),
  ("PARENTHESIZED KOREAN CHARACTER O", " HU,JEON"),
  ("PARENTHESIZED LATIN CAPITAL LETTER ", "A,B,C,D,E,F,G,H,I,J,K,L,M,N,O,P,Q,R,S,T,U,V,W,X,Y,Z"),
  ("PARENTHESIZED LATIN SMALL LETTER ", "A,B,C,D,E,F,G,H,I,J,K,L,M,N,O,P,Q,R,S,T,U,V,W,X,Y,Z"),
  ("PARENTHESIZED NUMBER ", "EIGHTEEN,ELEVEN,FIFTEEN,FOURTEEN,NINETEEN,SEVENTEEN,SIXTEEN,TEN"),
  ("PAR", "ENTHESIZED NUMBER THIRTEEN,ENTHESIZED NUMBER TWELVE,ENTHESIZED NUMBER TWENTY,ROT"),
  ("PART", " ALTERNATION MARK,IAL DIFFERENTIAL,IAL LINE BACKWARD,IAL LINE DOWN,IAL LINE FORWARD"),
  ("PA", "RTIAL LINE UP,RTIALLY-RECYCLED PAPER SYMBOL,RTNERSHIP SIGN,RTY POPPER,SSED SYMBOL"),
  ("PASS", "ENGER SHIP,IVE-PULL-DOWN-OUTPUT SYMBOL,IVE-PULL-UP-OUTPUT SYMBOL,PORT CONTROL"),
  ("PAU CIN HAU GLOTTAL STOP", ", FINAL, VARIANT"),
  ("PAU CIN HAU LETTER ", "A,BA,CA,CHA,DA,E,FA"),
  ("PAU CIN HAU LETTER FINAL ", "K,L,M,N,NG,P,T,W,Y"),
  ("PAU CIN HAU LETTER ", "GA,HA,I,IA,KA,KHA,LA,MA,NA,NGA,O,PA,PHA,RA,SA,TA,THA,U,UA,VA,ZA"),
  ("PAU CIN HAU LOW-FALLING TONE", ", FINAL, LONG, LONG FINAL"),
  ("PAU CIN HAU ", "MID-LEVEL TONE,MID-LEVEL TONE FINAL,MID-LEVEL TONE LONG FINAL,RISING TONE"),
  ("PAU CIN HAU ", "RISING TONE FINAL,RISING TONE LONG,RISING TONE LONG FINAL,SANDHI GLOTTAL STOP"),
  ("PAU CIN HAU SANDHI ", "GLOTTAL STOP FINAL,TONE,TONE FINAL,TONE LONG,TONE LONG FINAL"),
  ("P", "AW PRINTS,DF,DI,EACE SYMBOL,EACH,EACOCK,EANUTS,EAR,EDESTRIAN,EN OVER STAMPED ENVELOPE"),
  ("PE", "NCIL,NGUIN,NSIVE FACE,NTAGRAM,OPLE HUGGING,R MILLE SIGN,R SIGN,R TEN THOUSAND SIGN"),
  ("PER", "CENT SIGN,FORMING ARTS,MANENT PAPER SIGN,PENDICULAR,PENDICULAR WITH S,SEVERING FACE"),
  ("PERSON ", "BOWING DEEPLY,CLIMBING,DOING CARTWHEEL,FROWNING,IN LOTUS POSITION,IN STEAMY ROOM"),
  ("PERSON RAISING BOTH HANDS IN CELEBRATION", ""),
  ("PERSON WITH ", "BALL,BLOND HAIR,CROWN,FOLDED HANDS,HEADSCARF,POUTING FACE"),
  ("P", "ERSONAL COMPUTER,ERSPECTIVE,ESETA SIGN,ESO SIGN,ETRI DISH,HAGS-PA DOUBLE HEAD MARK"),
  ("PHAGS-PA LETTER ", "A,ALTERNATE YA,ASPIRATED FA,BA,CA,CANDRABINDU,CHA,DA,DDA,DZA,E,EE,FA,GA"),
  ("PHAGS-PA LETTER ", "GGA,HA,I,JA,KA,KHA,LA,MA,NA,NGA,NNA,NYA,O,PA,PHA,QA,RA,SA,SHA,SMALL A,TA"),
  ("PHAGS-PA LETTER ", "THA,TSA,TSHA,TTA,TTHA,U,VOICED HA,VOICELESS SHA,WA,XA,YA,ZA,ZHA"),
  ("PHAGS-PA ", "MARK DOUBLE SHAD,MARK SHAD,SINGLE HEAD MARK"),
  ("PHAGS-PA SU", "BJOINED LETTER RA,BJOINED LETTER WA,BJOINED LETTER YA,PERFIXED LETTER RA"),
  ("PHAISTOS DISC SIGN ", "ARROW,BEE,BEEHIVE,BOOMERANG,BOW,BULLS LEG"),
  ("PHAISTOS DISC SIGN C", "APTIVE,ARPENTRY PLANE,AT,HILD,LUB,OLUMN,OMB,OMBINING OBLIQUE STROKE"),
  ("PHAISTOS DISC SIGN ", "DOLIUM,DOVE,EAGLE,FLUTE,GAUNTLET,GRATER,HELMET,HIDE,HORN,LID,LILY"),
  ("PHAISTOS DISC SIGN ", "MANACLES,MATTOCK,OX BACK,PAPYRUS,PEDESTRIAN,PLANE TREE,PLUMED HEAD,RAM"),
  ("PHAISTOS DISC SIGN ", "ROSETTE,SAW,SHIELD,SHIP,SLING,SMALL AXE,STRAINER,TATTOOED HEAD,TIARA"),
  ("PHAISTOS DISC SIGN ", "TUNNY,VINE,WAVY BAND,WOMAN"),
  ("PHILIPPINE ", "DOUBLE PUNCTUATION,SINGLE PUNCTUATION"),
  ("PHOENICIAN LETTER ", "AIN,ALF,BET,DELT,GAML,HE,HET,KAF,LAMD,MEM,NUN,PE,QOF,ROSH,SADE"),
  ("PHOENICIAN LETTER ", "SEMK,SHIN,TAU,TET,WAU,YOD,ZAI"),
  ("PHOENICIAN NUMBER ", "ONE,ONE HUNDRED,TEN,THREE,TWENTY,TWO"),
  ("PHO", "ENICIAN WORD SEPARATOR,LUS"),
  ("PI", "CK,CKUP TRUCK,E,G,G FACE,G NOSE,LCROW SIGN,LE OF POO,LL,NATA,NCHED FINGERS,NCHING HAND"),
  ("P", "INE DECORATION,INEAPPLE,INWHEEL STAR,ISCES,ISTOL,ITCHFORK,ITCHFORK WITH TEE TOP,LACARD"),
  ("PLA", "CE OF INTEREST SIGN,CE OF WORSHIP,NCK CONSTANT,NCK CONSTANT OVER TWO PI,YGROUND SLIDE"),
  ("PLAYING CARD ", "ACE OF CLUBS,ACE OF DIAMONDS,ACE OF HEARTS,ACE OF SPADES,BACK,BLACK JOKER"),
  ("PLAYING CARD EIGHT OF ", "CLUBS,DIAMONDS,HEARTS,SPADES"),
  ("PLAYING CARD FIVE OF ", "CLUBS,DIAMONDS,HEARTS,SPADES"),
  ("PLAYING CARD FO", "OL,UR OF CLUBS,UR OF DIAMONDS,UR OF HEARTS,UR OF SPADES"),
  ("PLAYING CARD JACK OF ", "CLUBS,DIAMONDS,HEARTS,SPADES"),
  ("PLAYING CARD KING OF ", "CLUBS,DIAMONDS,HEARTS,SPADES"),
  ("PLAYING CARD KNIGHT OF ", "CLUBS,DIAMONDS,HEARTS,SPADES"),
  ("PLAYING CARD ", "NINE OF CLUBS,NINE OF DIAMONDS,NINE OF HEARTS,NINE OF SPADES,QUEEN OF CLUBS"),
  ("PLAYING CARD ", "QUEEN OF DIAMONDS,QUEEN OF HEARTS,QUEEN OF SPADES,RED JOKER,SEVEN OF CLUBS"),
  ("PLAYING CARD S", "EVEN OF DIAMONDS,EVEN OF HEARTS,EVEN OF SPADES,IX OF CLUBS,IX OF DIAMONDS"),
  ("PLAYING CARD ", "SIX OF HEARTS,SIX OF SPADES,TEN OF CLUBS,TEN OF DIAMONDS,TEN OF HEARTS"),
  ("PLAYING CARD T", "EN OF SPADES,HREE OF CLUBS,HREE OF DIAMONDS,HREE OF HEARTS,HREE OF SPADES"),
  ("PLAYING CARD TRUMP-", "1,10,11,12,13,14,15,16,17,18,19,2,20,21,3,4,5,6,7,8,9"),
  ("PLAYING CARD TWO OF ", "CLUBS,DIAMONDS,HEARTS,SPADES"),
  ("PL", "AYING CARD WHITE JOKER,D,U,UNGER"),
  ("PLUS SIGN", ", ABOVE EQUALS SIGN, IN LEFT HALF CIRCLE, IN RIGHT HALF CIRCLE, IN TRIANGLE"),
  ("PLUS SIGN WITH ", "BLACK TRIANGLE,CIRCUMFLEX ACCENT ABOVE,DOT BELOW,SMALL CIRCLE ABOVE"),
  ("PLUS SIGN WITH ", "SUBSCRIPT TWO,TILDE ABOVE,TILDE BELOW"),
  ("PLU", "S-MINUS SIGN,TO,TO FORM FIVE,TO FORM FOUR,TO FORM THREE,TO FORM TWO"),
  ("P", "M,OCKET CALCULATOR,OLICE CAR,OLICE CARS REVOLVING LIGHT,OLICE OFFICER"),
  ("PO", "ODLE,P DIRECTIONAL FORMATTING,P DIRECTIONAL ISOLATE,PCORN,RTABLE STEREO,SEIDON"),
  ("PO", "SITION INDICATOR,STAL HORN,STAL MARK,STAL MARK FACE,STBOX,T OF FOOD,TABLE WATER SYMBOL"),
  ("PO", "TATO,TTED PLANT,UCH,ULTRY LEG,UND SIGN,URING LIQUID,UTING CAT FACE,UTING FACE"),
  ("P", "OWER ON SYMBOL,OWER ON-OFF SYMBOL,OWER SLEEP SYMBOL,OWER SYMBOL,RAYER BEADS,RECEDES"),
  ("PRECEDES ABOVE ", "ALMOST EQUAL TO,EQUALS SIGN,NOT ALMOST EQUAL TO,NOT EQUAL TO"),
  ("PRECEDES ABOVE SINGLE-LINE ", "EQUALS SIGN,NOT EQUAL TO"),
  ("PRECEDES ", "BUT NOT EQUIVALENT TO,OR EQUAL TO,OR EQUIVALENT TO,UNDER RELATION"),
  ("PRE", "GNANT MAN,GNANT PERSON,GNANT WOMAN,SCRIPTION TAKE,SENTATION FORM FOR VERTICAL COLON"),
  ("PRESENTATION FORM FOR VERTICAL ", "COMMA,EM DASH,EN DASH,EXCLAMATION MARK,HORIZONTAL ELLIPSIS"),
  ("PRESENTATION FORM FOR VERTICAL ", "IDEOGRAPHIC COMMA,IDEOGRAPHIC FULL STOP,LEFT ANGLE BRACKET"),
  ("PRESENTATION FORM FOR VERTICAL LEFT ", "BLACK LENTICULAR BRACKET,CORNER BRACKET,CURLY BRACKET"),
  ("PRESENTATION FORM FOR VERTICAL LEFT ", "DOUBLE ANGLE BRACKET,PARENTHESIS,SQUARE BRACKET"),
  ("PRESENTATION FORM FOR VERTICAL LEFT ", "TORTOISE SHELL BRACKET,WHITE CORNER BRACKET"),
  ("PRESENTATION FORM FOR VERTICAL ", "LEFT WHITE LENTICULAR BRACKET,LOW LINE,QUESTION MARK"),
  ("PRESENTATION FORM FOR VERTICAL RIGHT ", "ANGLE BRACKET,BLACK LENTICULAR BRACKET"),
  ("PRESENTATION FORM FOR VERTICAL RIGHT ", "CORNER BRACKET,CURLY BRACKET,DOUBLE ANGLE BRACKET"),
  ("PRESENTATION FORM FOR VERTICAL RIGHT ", "PARENTHESIS,SQUARE BRACKET,TORTOISE SHELL BRACKET"),
  ("PRESENTATION FORM FOR VERTICAL RIGHT WHITE ", "CORNER BRACKET,LENTICULAR BRACKET"),
  ("PRESENTATION FORM FOR VERTICAL ", "RIGHT WHITE LENTICULAR BRAKCET,SEMICOLON,TWO DOT LEADER"),
  ("PR", "ESENTATION FORM FOR VERTICAL WAVY LOW LINE,ETZEL,EVIOUS PAGE,IME,INCE,INCESS"),
  ("PRI", "NT SCREEN SYMBOL,NTER,NTER ICON,VACY MESSAGE,VATE USE ONE,VATE USE TWO,VATE USE-1"),
  ("PR", "IVATE USE-2,OBING CANE,OHIBITED SIGN,OJECTIVE,OPERTY LINE,OPORTION,OPORTIONAL TO"),
  ("P", "ROSERPINA,SALTER PAHLAVI FOUR DOTS WITH CROSS,SALTER PAHLAVI FOUR DOTS WITH DOT"),
  ("PSALTER PAHLAVI LETTER ", "ALEPH,BETH,DALETH,GIMEL,HE,HETH,KAPH,LAMEDH,MEM-QOPH,NUN,PE"),
  ("PSALTER PAHLAVI LETTER ", "SADHE,SAMEKH,SHIN,TAW,WAW-AYIN-RESH,YODH,ZAYIN"),
  ("PSALTER PAHLAVI NUMBER ", "FOUR,ONE,ONE HUNDRED,TEN,THREE,TWENTY,TWO"),
  ("PSALTER PAHLAVI ", "SECTION MARK,TURNED SECTION MARK"),
  ("PU", "1,2,BLIC ADDRESS LOUDSPEAKER,NCTUATION SPACE,NCTUS ELEVATUS MARK,RPLE HEART,RSE,SHPIN"),
  ("PUT LITTER IN ITS PLACE SYMBOL", ""),
  ("QUADRANT LOWER ", "LEFT,RIGHT"),
  ("QUADRANT UPPER LEFT", ", AND LOWER LEFT AND LOWER RIGHT, AND LOWER RIGHT"),
  ("QUADRANT UPPER LEFT AND UPPER RIGHT AND LOWER ", "LEFT,RIGHT"),
  ("QUADRANT UPPER RIGHT", ", AND LOWER LEFT, AND LOWER LEFT AND LOWER RIGHT"),
  ("QUA", "DRUPLE INTEGRAL OPERATOR,DRUPLE PRIME,RTER NOTE,TERNION INTEGRAL OPERATOR"),
  ("QU", "ESTION EXCLAMATION MARK,ESTION MARK,ESTIONED EQUAL TO,INCUNX,OTATION MARK")]

end ModelBindings.Text.CharacterName
