/-!
# Character names that start with the letters from D to G
-/

set_option autoImplicit false

namespace ModelBindings.Text.CharacterName

/-- The character names that start with the letters from D to G, in groups. -/
def namesDToG : List (String × String) := [
  ("DA", "GGER,GGER KNIFE,GGER WITH LEFT GUARD,GGER WITH RIGHT GUARD,LET SYMBOL,NCER,NGO,RK SHADE"),
  ("DA", "RK SUNGLASSES,SH SYMBOL,SH WITH LEFT UPTURN,SHED LOW LINE,SHED OVERLINE"),
  ("D", "ASHED TRIANGLE-HEADED RIGHTWARDS ARROW,ATA LINK ESCAPE,C1,C2,C3,C4,CS,EAF PERSON"),
  ("DEC", "IDUOUS TREE,IMAL EXPONENT SYMBOL,IMAL SEPARATOR KEY SYMBOL,REASE FONT SIZE SYMBOL"),
  ("DE", "ER,GREE CELSIUS,GREE FAHRENHEIT,GREE SIGN,L,LETE,LIVERY TRUCK,LTA EQUAL TO"),
  ("DENTISTRY SYMBOL LIGHT DOWN AND HORIZONTAL", ", WITH CIRCLE, WITH TRIANGLE, WITH WAVE"),
  ("DENTISTRY SYMBOL LIGHT UP AND HORIZONTAL", ", WITH CIRCLE, WITH TRIANGLE, WITH WAVE"),
  ("DENTISTRY SYMBOL LIGHT VERTICAL AND ", "BOTTOM LEFT,BOTTOM RIGHT,TOP LEFT,TOP RIGHT,WAVE"),
  ("DENTISTRY SYMBOL LIGHT VERTICAL WITH ", "CIRCLE,TRIANGLE"),
  ("DE", "PARTMENT STORE,RELICT HOUSE BUILDING,SCENDING NODE,SERET CAPITAL LETTER AY"),
  ("DESERET CAPITAL LETTER ", "BEE,CHEE,DEE,EF,EL,EM,EN,ENG,ER,ES,ESH,ETH,EW,GAY,H,JEE,KAY,LONG A"),
  ("DESERET CAPITAL LETTER ", "LONG AH,LONG E,LONG I,LONG O,LONG OO,OI,OW,PEE,SHORT A,SHORT AH"),
  ("DESERET CAPITAL LETTER ", "SHORT E,SHORT I,SHORT O,SHORT OO,TEE,THEE,VEE,WU,YEE,ZEE,ZHEE"),
  ("DESERET SMALL LETTER ", "AY,BEE,CHEE,DEE,EF,EL,EM,EN,ENG,ER,ES,ESH,ETH,EW,GAY,H,JEE,KAY"),
  ("DESERET SMALL LETTER ", "LONG A,LONG AH,LONG E,LONG I,LONG O,LONG OO,OI,OW,PEE,SHORT A"),
  ("DESERET SMALL LETTER ", "SHORT AH,SHORT E,SHORT I,SHORT O,SHORT OO,TEE,THEE,VEE,WU,YEE,ZEE"),
  ("DES", "ERET SMALL LETTER ZHEE,ERT,ERT ISLAND,KTOP COMPUTER,KTOP WINDOW"),
  ("DEVANAGARI ", "ABBREVIATION SIGN,ACUTE ACCENT,CARET,DANDA"),
  ("DEVANAGARI DIGIT ", "EIGHT,FIVE,FOUR,NINE,ONE,SEVEN,SIX,THREE,TWO,ZERO"),
  ("DEVANAGARI ", "DOUBLE DANDA,GAP FILLER,GRAVE ACCENT,HEADSTROKE,JAIN OM,LETTER A"),
  ("DEVANAGARI LETTER ", "AA,AI,AU,AW,AY,BA,BBA,BHA,CA,CANDRA A,CANDRA E,CANDRA O,CHA,DA,DDA,DDDA"),
  ("DEVANAGARI LETTER ", "DDDHA,DDHA,DHA,E,FA,GA,GGA,GHA,GHHA,GLOTTAL STOP,HA,HEAVY YA,I,II,JA"),
  ("DEVANAGARI LETTER ", "JHA,JJA,KA,KHA,KHHA,LA,LLA,LLLA,MA,MARWARI DDA,NA,NGA,NNA,NNNA,NYA,O,OE"),
  ("DEVANAGARI LETTER ", "OOE,PA,PHA,QA,RA,RHA,RRA,SA,SHA,SHORT A,SHORT E,SHORT O,SSA,TA,THA,TTA"),
  ("DEVANAGARI LETTER ", "TTHA,U,UE,UU,UUE,VA,VOCALIC L,VOCALIC LL,VOCALIC R,VOCALIC RR,YA,YYA,ZA"),
  ("DEVANAGARI ", "LETTER ZHA,OM,SIGN ANUSVARA,SIGN AVAGRAHA"),
  ("DEVANAGARI SIGN CANDRABINDU", ", AVAGRAHA, THREE, TWO, VIRAMA"),
  ("DEVANAGARI SIGN ", "DOUBLE CANDRABINDU VIRAMA,HIGH SPACING DOT,INVERTED CANDRABINDU,NUKTA"),
  ("DEVANAGARI SIGN ", "PUSHPIKA,SIDDHAM,SPACING CANDRABINDU,VIRAMA,VISARGA"),
  ("DEVANAGARI STRESS SIGN ", "ANUDATTA,UDATTA"),
  ("DEVANAGARI VOWEL SIGN ", "AA,AI,AU,AW,AY,CANDRA E,CANDRA LONG E,CANDRA O,E,I,II,O,OE,OOE"),
  ("DEVANAGARI VOWEL SIGN ", "PRISHTHAMATRA E,SHORT E,SHORT O,U,UE,UU,UUE"),
  ("DEVANAGARI VOWEL SIGN VOCALIC ", "L,LL,R,RR"),
  ("DEVICE CONTROL ", "FOUR,ONE,STRING,THREE,TWO"),
  ("DIA", "ERESIS,METER SIGN,MOND OPERATOR,MOND SHAPE WITH A DOT INSIDE,MOND TARGET"),
  ("DIAMOND WITH ", "BOTTOM HALF BLACK,LEFT HALF BLACK,RIGHT HALF BLACK,TOP HALF BLACK"),
  ("DI", "E FACE-1,E FACE-2,E FACE-3,E FACE-4,E FACE-5,E FACE-6,ESEL LOCOMOTIVE,FFERENCE BETWEEN"),
  ("DIGIT ", "EIGHT,EIGHT COMMA,EIGHT FULL STOP,FIVE,FIVE COMMA,FIVE FULL STOP,FOUR,FOUR COMMA"),
  ("DIGIT ", "FOUR FULL STOP,NINE,NINE COMMA,NINE FULL STOP,ONE,ONE COMMA,ONE FULL STOP,SEVEN"),
  ("DIGIT ", "SEVEN COMMA,SEVEN FULL STOP,SIX,SIX COMMA,SIX FULL STOP,THREE,THREE COMMA"),
  ("DIGIT ", "THREE FULL STOP,TWO,TWO COMMA,TWO FULL STOP,ZERO,ZERO COMMA,ZERO FULL STOP"),
  ("DIGRAM FOR ", "EARTH,EARTHLY HEAVEN,EARTHLY HUMAN,GREATER YANG,GREATER YIN,HEAVENLY EARTH"),
  ("DI", "GRAM FOR HUMAN EARTH,GRAM FOR LESSER YANG,GRAM FOR LESSER YIN,MENSION ORIGIN"),
  ("DINGBAT CIRCLED SANS-SERIF DIGIT ", "EIGHT,FIVE,FOUR,NINE,ONE,SEVEN,SIX,THREE,TWO,ZERO"),
  ("DINGBAT CIRCLED SANS-SERIF NUMBER TEN", ""),
  ("DINGBAT NEGATIVE CIRCLED DIGIT ", "EIGHT,FIVE,FOUR,NINE,ONE,SEVEN,SIX,THREE,TWO"),
  ("DINGBAT NEGATIVE CIRCLED NUMBER TEN", ""),
  ("DINGBAT NEGATIVE CIRCLED SANS-SERIF DIGIT ", "EIGHT,FIVE,FOUR,NINE,ONE,SEVEN,SIX,THREE,TWO"),
  ("DINGBAT NEGATIVE CIRCLED SANS-SERIF ", "DIGIT ZERO,NUMBER TEN"),
  ("DI", "RECT CURRENT SYMBOL FORM TWO,RECT HIT,SABLED CAR,SAPPOINTED BUT RELIEVED FACE"),
  ("DI", "SAPPOINTED FACE,SCONTINUOUS UNDERLINE SYMBOL,SGUISED FACE,TTO MARK"),
  ("DIVES AKURU DIGIT ", "EIGHT,FIVE,FOUR,NINE,ONE,SEVEN,SIX,THREE,TWO,ZERO"),
  ("DIVES AKURU ", "DOUBLE DANDA,END OF TEXT MARK,GAP FILLER,INITIAL RA"),
  ("DIVES AKURU LETTER ", "A,AA,BA,BHA,CA,CHA,DA,DDA,DDHA,DHA,E,GA,GHA,HA,I,II,JA,KA,KHA,LA,LLA"),
  ("DIVES AKURU LETTER ", "MA,NA,NGA,NNA,NYA,O,PA,PHA,RA,SA,SHA,SSA,TA,THA,TTA,U,UU,VA,YA,YYA,ZA"),
  ("DIVES AKURU ", "MEDIAL RA,MEDIAL YA,PREFIXED NASAL SIGN,SIGN ANUSVARA"),
  ("DIVES AKURU ", "SIGN CANDRABINDU,SIGN HALANTA,SIGN NUKTA,VIRAMA"),
  ("DIVES AKURU VOWEL SIGN ", "AA,AI,E,I,II,O,U,UU"),
  ("DIVI", "DES,NG MASK,SION SIGN,SION SLASH,SION TIMES"),
  ("D", "IVORCE SYMBOL,IYA LAMP,IZZY FACE,IZZY SYMBOL,LE,NA DOUBLE HELIX,O NOT LITTER SYMBOL"),
  ("DO", "CUMENT,CUMENT WITH PICTURE,CUMENT WITH TEXT,CUMENT WITH TEXT AND PICTURE,DO"),
  ("DOES NOT CONTAIN AS ", "MEMBER,NORMAL SUBGROUP,NORMAL SUBGROUP OR EQUAL"),
  ("DOES NOT ", "DIVIDE,DIVIDE WITH REVERSED NEGATION SLASH,FORCE,PRECEDE,PRECEDE OR EQUAL,PROVE"),
  ("DO", "ES NOT SUCCEED,ES NOT SUCCEED OR EQUAL,G,G FACE,GRA ABBREVIATION SIGN"),
  ("DOGRA LETTER ", "A,AA,AI,AU,BA,BHA,CA,CHA,DA,DDA,DDHA,DHA,E,GA,GHA,HA,I,II,JA,JHA,KA,KHA,LA"),
  ("DOGRA LETTER ", "MA,NA,NGA,NNA,NYA,O,PA,PHA,RA,RRA,SA,SHA,SSA,TA,THA,TTA,TTHA,U,UU,VA,YA"),
  ("DOGRA SIGN ", "ANUSVARA,NUKTA,VIRAMA,VISARGA"),
  ("DOGRA VOWEL SIGN ", "AA,AI,AU,E,I,II,O,U,UU,VOCALIC R,VOCALIC RR"),
  ("DO", "LLAR SIGN,LPHIN,MINO TILE HORIZONTAL BACK"),
  ("DOMINO TILE HORIZONTAL-0", "0-00,0-01,0-02,0-03,0-04,0-05,0-06,1-00,1-01,1-02,1-03,1-04,1-05"),
  ("DOMINO TILE HORIZONTAL-0", "1-06,2-00,2-01,2-02,2-03,2-04,2-05,2-06,3-00,3-01,3-02,3-03,3-04"),
  ("DOMINO TILE HORIZONTAL-0", "3-05,3-06,4-00,4-01,4-02,4-03,4-04,4-05,4-06,5-00,5-01,5-02,5-03"),
  ("DOMINO TILE HORIZONTAL-0", "5-04,5-05,5-06,6-00,6-01,6-02,6-03,6-04,6-05,6-06"),
  ("DOMINO TILE VERTICAL", " BACK,-00-00,-00-01,-00-02,-00-03,-00-04,-00-05,-00-06,-01-00,-01-01"),
  ("DOMINO TILE VERTICAL-0", "1-02,1-03,1-04,1-05,1-06,2-00,2-01,2-02,2-03,2-04,2-05,2-06,3-00"),
  ("DOMINO TILE VERTICAL-0", "3-01,3-02,3-03,3-04,3-05,3-06,4-00,4-01,4-02,4-03,4-04,4-05,4-06"),
  ("DOMINO TILE VERTICAL-0", "5-00,5-01,5-02,5-03,5-04,5-05,5-06,6-00,6-01,6-02,6-03,6-04,6-05"),
  ("DO", "MINO TILE VERTICAL-06-06,NG SIGN,OR,T ABOVE,T MINUS,T OPERATOR,T PLUS"),
  ("DOTTED ", "CIRCLE,CROSS,FENCE,LINE FACE,OBELOS,RIGHT-POINTING ANGLE,SOLIDUS,SQUARE"),
  ("DO", "TTED TRANSPOSITION MARKER,UBLE ACUTE ACCENT"),
  ("DOUBLE CIRCLED DIGIT ", "EIGHT,FIVE,FOUR,NINE,ONE,SEVEN,SIX,THREE,TWO"),
  ("DOUBLE C", "IRCLED NUMBER TEN,OLON EQUAL,URLY LOOP"),
  ("DOUBLE ", "DAGGER,DOWN TACK,EXCLAMATION MARK,HIGH-REVERSED-9 QUOTATION MARK,HYPHEN,INTEGRAL"),
  ("DOUBLE ", "INTERSECTION,LEFT ARC GREATER-THAN BRACKET"),
  ("DOUBLE LO", "GICAL AND,GICAL OR,W LINE,W-9 QUOTATION MARK,W-REVERSED-9 QUOTATION MARK"),
  ("DOUBLE ", "NESTED GREATER-THAN,NESTED LESS-THAN,NESTED LESS-THAN WITH UNDERBAR,OBLIQUE HYPHEN"),
  ("DOUBLE ", "PLUS,PRECEDES,PRIME,PRIME QUOTATION MARK,QUESTION MARK,RIGHT ARC LESS-THAN BRACKET"),
  ("DOUBLE S", "OLIDUS OPERATOR,QUARE INTERSECTION,QUARE UNION,TACKED COMMA,TROKE NOT SIGN,UBSET"),
  ("DOUBLE ", "SUCCEEDS,SUPERSET,SUSPENSION MARK,UNION,UP TACK"),
  ("DOUBLE VERTICAL BAR", ", DOUBLE LEFT TURNSTILE, DOUBLE RIGHT TURNSTILE, LEFT TURNSTILE"),
  ("DOUBLE", " VERTICAL LINE, WAVY OVERLINE,-ENDED MULTIMAP,-LINE EQUAL TO OR GREATER-THAN"),
  ("DOUBLE-LINE ", "EQUAL TO OR LESS-THAN,SLANTED EQUAL TO OR GREATER-THAN"),
  ("DOUBLE-LINE SLANTED ", "EQUAL TO OR LESS-THAN,GREATER-THAN OR EQUAL TO,LESS-THAN OR EQUAL TO"),
  ("DOUBLE-STRUCK CAPITAL ", "C,GAMMA,H,N,P,PI,Q,R,Z"),
  ("DOUBLE-STRUCK ITALIC ", "CAPITAL D,SMALL D,SMALL E,SMALL I,SMALL J"),
  ("DOUBLE-STRUCK ", "N-ARY SUMMATION,SMALL GAMMA,SMALL PI"),
  ("DO", "UBLED FEMALE SIGN,UBLED MALE SIGN,UBLED SYMBOL,UGHNUT,VE OF PEACE"),
  ("DOWN ", "ARROWHEAD,FISH TAIL,RIGHT DIAGONAL ELLIPSIS,TACK,TACK WITH CIRCLE BELOW"),
  ("DOWN-POINTING ", "RED TRIANGLE,SMALL RED TRIANGLE"),
  ("DOWN-POINTING TRIANGLE WITH ", "LEFT HALF BLACK,RIGHT HALF BLACK"),
  ("DOWNWARD FACING ", "HOOK,HOOK WITH DOT,NOTCHED HOOK,NOTCHED HOOK WITH DOT"),
  ("DOWNWARDS A", "NCORA,RROW,RROW AND RIGHT ONE EIGHTH BLOCK"),
  ("DOWNWARDS ARROW ", "FROM BAR,LEFTWARDS OF UPWARDS ARROW,TO BAR,WITH CORNER LEFTWARDS"),
  ("DOWNWARDS ARROW WITH ", "DOUBLE STROKE,EQUILATERAL ARROWHEAD,HORIZONTAL STROKE"),
  ("DOWNWARDS ARROW WITH ", "LARGE TRIANGLE ARROWHEAD,MEDIUM TRIANGLE ARROWHEAD,NOTCHED TAIL"),
  ("DOWNWARDS ARROW WITH ", "SMALL EQUILATERAL ARROWHEAD,SMALL TRIANGLE ARROWHEAD,TIP LEFTWARDS"),
  ("DOWNWARDS ", "ARROW WITH TIP RIGHTWARDS,BLACK ARROW,BLACK CIRCLED WHITE ARROW"),
  ("DOWNWARDS ", "COMPRESSED ARROW,DASHED ARROW,DOUBLE ARROW,FINGER-POST ARROW"),
  ("DOWNWARDS HARPOON WITH BARB LEFT BESIDE DOWNWARDS HARPOON WITH BARB RIGHT", ""),
  ("DOWNWARDS HARPOON WITH BARB LEFT ", "BESIDE UPWARDS HARPOON WITH BARB RIGHT,FROM BAR,TO BAR"),
  ("DOWNWARDS HARPOON WITH BARB ", "LEFTWARDS,RIGHT FROM BAR,RIGHT TO BAR,RIGHTWARDS"),
  ("DOWNWARDS ", "HEAVY ARROW,HEAVY COMPRESSED ARROW,PAIRED ARROWS,QUADRUPLE ARROW"),
  ("DOWNWARDS ", "ROCKET,SANS-SERIF ARROW,SQUARED ARROW,TRIANGLE ARROWHEAD"),
  ("DOWNWARDS TRIANGLE-HEADED ARROW", ", LEFTWARDS OF UPWARDS TRIANGLE-HEADED ARROW, TO BAR"),
  ("DOWNWARDS TRIANGLE-HEADED ARROW WITH ", "BOLD SHAFT,DOUBLE HORIZONTAL STROKE,HEAVY SHAFT"),
  ("DOWNWARDS TRIANGLE-HEADED ARROW WITH LONG TIP ", "LEFTWARDS,RIGHTWARDS"),
  ("DOWNWARDS TRIANGLE-HEADED ARROW WITH ", "MEDIUM SHAFT,NARROW SHAFT,VERY HEAVY SHAFT"),
  ("DOWNWARDS TRIANGLE-HEADED ", "DASHED ARROW,PAIRED ARROWS,ZIGZAG ARROW"),
  ("DOWNWARDS T", "RIPLE ARROW,WO HEADED ARROW,WO-HEADED ARROW WITH TRIANGLE ARROWHEADS"),
  ("DOWNWARDS ", "WHITE ARROW,WHITE ARROW WITHIN TRIANGLE ARROWHEAD,ZIGZAG ARROW"),
  ("DRA", "CHMA SIGN,FTING POINT RIGHTWARDS ARROW,GON,GON FACE"),
  ("DR", "ESS,IVE SLOW SIGN,OMEDARY CAMEL,OOLING FACE,OP OF BLOOD,OPLET,UM WITH DRUMSTICKS"),
  ("DU", "CK,MPLING,PLOYAN AFFIX ATTACHED E HOOK"),
  ("DUPLOYAN AFFIX ATTACHED ", "I HOOK,LEFT-TO-RIGHT SECANT,SECANT,TAIL,TANGENT,TANGENT HOOK"),
  ("DUPLOYAN AFFIX HIGH ", "ACUTE,CIRCLE,DOT,GRAVE,LINE,LONG GRAVE,TIGHT ACUTE,VERTICAL"),
  ("DUPLOYAN AFFIX ", "HIGH VERTICAL SECANT,HIGH WAVE,LEFT HORIZONTAL SECANT,LOW ACUTE,LOW ARROW"),
  ("DUPLOYAN AFFIX LOW ", "CIRCLE,DOT,GRAVE,LINE,LONG GRAVE,TIGHT ACUTE,VERTICAL,VERTICAL SECANT"),
  ("DUPLOYAN AFFIX ", "LOW WAVE,MID HORIZONTAL SECANT,MID VERTICAL SECANT,RIGHT HORIZONTAL SECANT"),
  ("DUPLOYAN DOUBLE MARK", ""),
  ("DUPLOYAN LETTER ", "A,AOU,B,D,D S,DH,E,EE,EU,F,F N,G,G R S,H,HL,I,IE,J"),
  ("DUPLOYAN LETTER J ", "M,M S,N,N S,S,S WITH DOT,WITH DOT,WITH DOTS INSIDE AND ABOVE"),
  ("DUPLOYAN LETTER ", "K,K M,K R S,KK,L,LH,LONG I,LONG U,M,M N,M N S,M S,M WITH DOT,N,N M,N M S"),
  ("DUPLOYAN LETTER ", "N S,N WITH DOT,NASAL A,NASAL I,NASAL O,NASAL U,O,OA,OOH,OU,OW,P,P N"),
  ("DUPLOYAN LETTER ", "PERNIN AM,PERNIN AN,R,R S,RH,ROMANIAN I,ROMANIAN U,S,S J"),
  ("DUPLOYAN LETTER S", " J S, K, K R, M, N, P, P R, S, T, T R, WITH DOT, WITH DOT BELOW,HORT I"),
  ("DUPLOYAN LETTER SLOAN ", "AN,DH,EE,EH,EN,J,ON,OW,U"),
  ("DUPLOYAN LETTER ", "T,T R S,T S,TH,U,U N,UH,UI,V,VOCALIC M,W,W R,WA,WEI,WH,WI,WO,WOW,X,XW,YE"),
  ("DUPLOYAN ", "PUNCTUATION CHINOOK FULL STOP,SIGN O WITH CROSS,THICK LETTER SELECTOR"),
  ("DVD", ""),
  ("E", "-MAIL SYMBOL,AGLE,AR,AR OF MAIZE,AR OF RICE,AR WITH HEARING AID,ARTH"),
  ("EARTH GLOBE ", "AMERICAS,ASIA-AUSTRALIA,EUROPE-AFRICA"),
  ("E", "ARTH GROUND,AST SYRIAC CROSS,DITORIAL CORONIS,GG"),
  ("EGYPTIAN HIEROGLYPH A0", "01,02,03,04,05,05A,06,06A,06B,07,08,09,10,11,12,13,14,14A,15,16,17"),
  ("EGYPTIAN HIEROGLYPH A0", "17A,18,19,20,21,22,23,24,25,26,27,28,29,30,31,32,32A,33,34,35,36"),
  ("EGYPTIAN HIEROGLYPH A0", "37,38,39,40,40A,41,42,42A,43,43A,44,45,45A,46,47,48,49,50,51"),
  ("EGYPTIAN HIEROGLYPH A0", "52,53,54,55,56,57,58,59,60,61,62,63,64,65,66,67,68,69,70"),
  ("EGYPTIAN HIEROGLYPH AA0", "01,02,03,04,05,06,07,07A,07B,08,09,10,11,12,13,14,15,16,17,18,19"),
  ("EGYPTIAN HIEROGLYPH AA0", "20,21,22,23,24,25,26,27,28,29,30,31,32"),
  ("EGYPTIAN HIEROGLYPH B", "001,002,003,004,005,005A,006,007,008,009,EGIN SEGMENT"),
  ("EGYPTIAN HIEROGLYPH C00", "1,2,2A,2B,2C,3,4,5,6,7,8,9"),
  ("EGYPTIAN HIEROGLYPH C0", "10,10A,11,12,13,14,15,16,17,18,19,20,21,22,23,24"),
  ("EGYPTIAN HIEROGLYPH D0", "01,02,03,04,05,06,07,08,08A,09,10,11,12,13,14,15,16,17,18,19,20,21"),
  ("EGYPTIAN HIEROGLYPH D0", "22,23,24,25,26,27,27A,28,29,30,31,31A,32,33,34,34A,35,36,37,38,39"),
  ("EGYPTIAN HIEROGLYPH D04", "0,1,2,3,4,5,6,6A,7,8,8A,9"),
  ("EGYPTIAN HIEROGLYPH D05", "0,0A,0B,0C,0D,0E,0F,0G,0H,0I,1,2,2A,3,4,4A,5,6,7,8,9"),
  ("EGYPTIAN HIEROGLYPH D06", "0,1,2,3,4,5,6,7,7A,7B,7C,7D,7E,7F,7G,7H"),
  ("EGYPTIAN HIEROGLYPH E0", "01,02,03,04,05,06,07,08,08A,09,09A,10,11,12,13,14,15,16,16A,17,17A"),
  ("EGYPTIAN HIEROGLYPH E0", "18,19,20,20A,21,22,23,24,25,26,27,28,28A,29,30,31,32,33,34,34A,36"),
  ("EGYPTIAN HIEROGLYPH ", "E037,E038,END SEGMENT,F001,F001A"),
  ("EGYPTIAN HIEROGLYPH F0", "02,03,04,05,06,07,08,09,10,11,12,13,13A,14,15,16,17,18,19,20,21,21A"),
  ("EGYPTIAN HIEROGLYPH F0", "22,23,24,25,26,27,28,29,30,31,31A,32,33,34,35,36,37,37A,38,38A,39"),
  ("EGYPTIAN HIEROGLYPH F0", "40,41,42,43,44,45,45A,46,46A,47,47A,48,49,50,51,51A,51B,51C,52,53"),
  ("EGYPTIAN HIEROGLYPH G0", "01,02,03,04,05,06,06A,07,07A,07B,08,09,10,11,11A,12,13,14,15,16,17"),
  ("EGYPTIAN HIEROGLYPH G0", "18,19,20,20A,21,22,23,24,25,26,26A,27,28,29,30,31,32,33,34,35,36"),
  ("EGYPTIAN HIEROGLYPH G0", "36A,37,37A,38,39,40,41,42,43,43A,44,45,45A,46,47,48,49,50,51,52,53"),
  ("EGYPTIAN HIEROGLYPH ", "G054,H001,H002,H003,H004,H005,H006,H006A,H007,H008,HORIZONTAL JOINER"),
  ("EGYPTIAN HIEROGLYPH I0", "01,02,03,04,05,05A,06,07,08,09,09A,10,10A,11,11A,12,13,14,15"),
  ("EGYPTIAN HIEROGLYPH INSERT AT ", "BOTTOM END,BOTTOM START,TOP END,TOP START"),
  ("EGYPTIAN HIEROGLYPH K00", "1,2,3,4,5,6,7,8"),
  ("EGYPTIAN HIEROGLYPH L00", "1,2,2A,3,4,5,6,6A,7,8"),
  ("EGYPTIAN HIEROGLYPH M0", "01,01A,01B,02,03,03A,04,05,06,07,08,09,10,10A,11,12,12A,12B,12C,12D"),
  ("EGYPTIAN HIEROGLYPH M0", "12E,12F,12G,12H,13,14,15,15A,16,16A,17,17A,18,19,20,21,22,22A,23,24"),
  ("EGYPTIAN HIEROGLYPH M0", "24A,25,26,27,28,28A,29,30,31,31A,32,33,33A,33B,34,35,36,37,38,39,40"),
  ("EGYPTIAN HIEROGLYPH ", "M040A,M041,M042,M043,M044,N001,N002,N003,N004,N005,N006,N007"),
  ("EGYPTIAN HIEROGLYPH N0", "08,09,10,11,12,13,14,15,16,17,18,18A,18B,19,20,21,22,23,24,25,25A"),
  ("EGYPTIAN HIEROGLYPH N0", "26,27,28,29,30,31,32,33,33A,34,34A,35,35A,36,37,37A,38,39,40,41,42"),
  ("EGYPTIAN HIEROGLYPH NL0", "01,02,03,04,05,05A,06,07,08,09,10,11,12,13,14,15,16,17,17A,18,19"),
  ("EGYPTIAN HIEROGLYPH N", "L020,U001,U002,U003,U004,U005"),
  ("EGYPTIAN HIEROGLYPH NU0", "06,07,08,09,10,10A,11,11A,12,13,14,15,16,17,18,18A,19,20,21,22,22A"),
  ("EGYPTIAN HIEROGLYPH O00", "1,1A,2,3,4,5,5A,6,6A,6B,6C,6D,6E,6F,7,8,9"),
  ("EGYPTIAN HIEROGLYPH O01", "0,0A,0B,0C,1,2,3,4,5,6,7,8,9,9A"),
  ("EGYPTIAN HIEROGLYPH O0", "20,20A,21,22,23,24,24A,25,25A,26,27,28,29,29A,30,30A,31,32,33,33A"),
  ("EGYPTIAN HIEROGLYPH O0", "34,35,36,36A,36B,36C,36D,37,38,39,40,41,42,43,44,45,46,47,48,49,50"),
  ("EGYPTIAN HIEROGLYPH ", "O050A,O050B,O051,OVERLAY MIDDLE,P001,P001A,P002,P003,P003A,P004"),
  ("EGYPTIAN HIEROGLYPH ", "P005,P006,P007,P008,P009,P010,P011,Q001,Q002,Q003,Q004,Q005,Q006,Q007"),
  ("EGYPTIAN HIEROGLYPH R00", "1,2,2A,3,3A,3B,4,5,6,7,8,9"),
  ("EGYPTIAN HIEROGLYPH R0", "10,10A,11,12,13,14,15,16,16A,17,18,19,20,21,22,23,24,25,26,27,28,29"),
  ("EGYPTIAN HIEROGLYPH S00", "1,2,2A,3,4,5,6,6A,7,8,9"),
  ("EGYPTIAN HIEROGLYPH S0", "10,11,12,13,14,14A,14B,15,16,17,17A,18,19,20,21,22,23,24,25,26,26A"),
  ("EGYPTIAN HIEROGLYPH S0", "26B,27,28,29,30,31,32,33,34,35,35A,36,37,38,39,40,41,42,43,44,45,46"),
  ("EGYPTIAN HIEROGLYPH T0", "01,02,03,03A,04,05,06,07,07A,08,08A,09,09A,10,11,11A,12,13,14,15,16"),
  ("EGYPTIAN HIEROGLYPH T0", "16A,17,18,19,20,21,22,23,24,25,26,27,28,29,30,31,32,32A,33,33A,34"),
  ("EGYPTIAN HIEROGLYPH ", "T035,T036,U001,U002,U003,U004,U005"),
  ("EGYPTIAN HIEROGLYPH U0", "06,06A,06B,07,08,09,10,11,12,13,14,15,16,17,18,19,20,21,22,23,23A"),
  ("EGYPTIAN HIEROGLYPH U0", "24,25,26,27,28,29,29A,30,31,32,32A,33,34,35,36,37,38,39,40,41,42"),
  ("EGYPTIAN HIEROGLYPH V00", "1,1A,1B,1C,1D,1E,1F,1G,1H,1I,2,2A,3,4,5,6,7,7A,7B,8,9"),
  ("EGYPTIAN HIEROGLYPH V01", "0,1,1A,1B,1C,2,2A,2B,3,4,5,6,7,8,9"),
  ("EGYPTIAN HIEROGLYPH V02", "0,0A,0B,0C,0D,0E,0F,0G,0H,0I,0J,0K,0L,1,2,3,3A,4,5,6,7,8,8A,9,9A"),
  ("EGYPTIAN HIEROGLYPH V03", "0,0A,1,1A,2,3,3A,4,5,6,7,7A,8,9"),
  ("EGYPTIAN HIEROGLYPH ", "V040,V040A,VERTICAL JOINER,W001,W002,W003,W003A,W004,W005,W006,W007"),
  ("EGYPTIAN HIEROGLYPH W0", "08,09,09A,10,10A,11,12,13,14,14A,15,16,17,17A,18,18A,19,20,21,22,23"),
  ("EGYPTIAN HIEROGLYPH ", "W024,W024A,W025,X001,X002,X003,X004,X004A,X004B,X005,X006,X006A,X007"),
  ("EGYPTIAN HIEROGLYPH ", "X008,X008A,Y001,Y001A,Y002,Y003,Y004,Y005,Y006,Y007,Y008"),
  ("EGYPTIAN HIEROGLYPH Z00", "1,2,2A,2B,2C,2D,3,3A,3B,4,4A,5,5A,6,7,8,9"),
  ("EGYPTIAN HIEROGLYPH Z01", "0,1,2,3,4,5,5A,5B,5C,5D,5E,5F,5G,5H,5I,6,6A,6B,6C,6D,6E,6F,6G,6H"),
  ("EIGHT PETALLED OUTLINED BLACK FLORETTE", ""),
  ("EIGHT POINTED ", "BLACK STAR,PINWHEEL STAR,RECTILINEAR BLACK STAR"),
  ("E", "IGHT SPOKED ASTERISK,IGHT TEARDROP-SPOKED PROPELLER ASTERISK,IGHTH NOTE,JECT SYMBOL"),
  ("ELBASAN LETTER ", "A,BE,CE,CHE,DE,DHE,E,EI,FE,GE,GHAMMA,GHE,GJE,HE,I,JE,KE,KHE,LE,LLE,ME,NA"),
  ("ELBASAN LETTER ", "NDE,NE,NJE,O,PE,QE,RE,RRE,SE,SHE,TE,THE,U,VE,XE,Y,ZE,ZHE"),
  ("ELECTRIC", " ARROW, LIGHT BULB, PLUG, TORCH,AL INTERSECTION"),
  ("ELEMENT OF", ", OPENING DOWNWARDS, OPENING UPWARDS"),
  ("ELEMENT OF WITH ", "DOT ABOVE,LONG HORIZONTAL STROKE,OVERBAR,TWO HORIZONTAL STROKES,UNDERBAR"),
  ("EL", "EMENT OF WITH VERTICAL BAR AT END OF HORIZONTAL STROKE,EPHANT,EVATOR,F"),
  ("ELYMAIC LETTER ", "ALEPH,AYIN,BETH,DALETH,GIMEL,HE,HETH,KAPH,LAMEDH,MEM,NUN,PE,QOPH,RESH"),
  ("ELYMAIC LETTER ", "SADHE,SAMEKH,SHIN,TAW,TETH,WAW,YODH,ZAYIN"),
  ("E", "LYMAIC LIGATURE ZAYIN-YODH,M DASH,M QUAD,M SPACE"),
  ("EMOJI COMPONENT ", "BALD,CURLY HAIR,RED HAIR,WHITE HAIR"),
  ("EMOJI MODIFIER FITZPATRICK TYPE-", "1-2,3,4,5,6"),
  ("EMP", "HASIS SYMBOL,TY DOCUMENT,TY NEST"),
  ("EMPTY ", "NOTE,NOTE PAD,NOTE PAGE,PAGE,PAGES,SET,SET WITH LEFT ARROW ABOVE,SET WITH OVERBAR"),
  ("E", "MPTY SET WITH RIGHT ARROW ABOVE,MPTY SET WITH SMALL CIRCLE ABOVE,N DASH,N QUAD,N SPACE"),
  ("END OF ", "GUARDED AREA,LINE,MEDIUM,PROOF,PROTECTED AREA,SELECTED AREA,TEXT,TRANSMISSION"),
  ("EN", "D OF TRANSMISSION BLOCK,D WITH LEFTWARDS ARROW ABOVE,Q,QUIRY,TER SYMBOL"),
  ("ENVELOPE", ", WITH DOWNWARDS ARROW ABOVE, WITH LIGHTNING"),
  ("E", "OL,OM,OT,PA,QUAL AND PARALLEL TO,QUAL TO BY DEFINITION"),
  ("EQUAL", " TO OR GREATER-THAN, TO OR LESS-THAN, TO OR PRECEDES, TO OR SUCCEEDS,S COLON,S SIGN"),
  ("EQUALS SIGN ABOVE ", "LEFTWARDS ARROW,PLUS SIGN,RIGHTWARDS ARROW,TILDE OPERATOR"),
  ("EQUALS SIGN AND SLANTED PARALLEL", ", WITH TILDE ABOVE"),
  ("EQUALS SIGN WITH ", "BUMPY ABOVE,DOT BELOW,INFINITY BELOW,TWO DOTS ABOVE AND TWO DOTS BELOW"),
  ("EQU", "ALS WITH ASTERISK,IANGULAR TO,IVALENT TO,IVALENT WITH FOUR DOTS ABOVE"),
  ("ER", "ASE TO THE LEFT,ASE TO THE RIGHT,IS FORM ONE,IS FORM TWO,ROR-BARRED BLACK CIRCLE"),
  ("ERROR-BARRED ", "BLACK DIAMOND,BLACK SQUARE,WHITE CIRCLE,WHITE DIAMOND,WHITE SQUARE"),
  ("E", "SA,SC,SCAPE,STIMATED SYMBOL,STIMATES,TB,THIOPIC COLON"),
  ("ETHIOPIC COMBINING GEMINATION ", "AND VOWEL LENGTH MARK,MARK"),
  ("ETHIOPIC ", "COMBINING VOWEL LENGTH MARK,COMMA,DIGIT EIGHT,DIGIT FIVE,DIGIT FOUR,DIGIT NINE"),
  ("ETHIOPIC ", "DIGIT ONE,DIGIT SEVEN,DIGIT SIX,DIGIT THREE,DIGIT TWO,FULL STOP,NUMBER EIGHTY"),
  ("ETHIOPIC NUMBER ", "FIFTY,FORTY,HUNDRED,NINETY,SEVENTY,SIXTY,TEN,TEN THOUSAND,THIRTY,TWENTY"),
  ("ETHIOPIC ", "PARAGRAPH SEPARATOR,PREFACE COLON,QUESTION MARK,SECTION MARK,SEMICOLON"),
  ("ETHIOPIC SYLLABLE B", "A,AA,BA,BAA,BE,BEE,BI,BO,BU,E,EE,I,O,OA,U,WA,WE,WEE,WI"),
  ("ETHIOPIC SYLLABLE C", "A,AA,CA,CAA,CE,CEE,CHA,CHAA,CHE,CHEE,CHHA,CHHAA,CHHE,CHHEE,CHHI,CHHO"),
  ("ETHIOPIC SYLLABLE C", "CHHU,CHI,CHO,CHU,CI,CO,CU,E,EE,HA,HAA,HE,HEE,HI,HO,HOA,HU,HWA,I,O,OA,U"),
  ("ETHIOPIC SYLLABLE ", "CWA,DA,DAA,DDA,DDAA,DDE,DDEE,DDHAA,DDHE,DDHEE,DDHI,DDHO,DDHU,DDI,DDO"),
  ("ETHIOPIC SYLLABLE ", "DDOA,DDU,DDWA,DE,DEE,DI,DO,DOA,DU,DWA,DZAA,DZE,DZEE,DZI,DZO,DZU,FA,FAA"),
  ("ETHIOPIC SYLLABLE ", "FE,FEE,FI,FO,FU,FWA,FWE,FWEE,FWI,FYA,GA,GAA,GE,GEE,GGA,GGAA,GGE,GGEE"),
  ("ETHIOPIC SYLLABLE G", "GI,GO,GU,GWA,GWAA,GWE,GWEE,GWI,I,LOTTAL A,LOTTAL AA,LOTTAL E,LOTTAL EE"),
  ("ETHIOPIC SYLLABLE G", "LOTTAL I,LOTTAL O,LOTTAL OA,LOTTAL U,LOTTAL WA,O,OA,U,URAGE BWEE"),
  ("ETHIOPIC SYLLABLE GURAGE ", "BWI,FWEE,FWI,GWE,GWEE,GWI,HHWA,KWE,KWEE,KWI,MWEE,MWI,PWEE,PWI"),
  ("ETHIOPIC SYLLABLE G", "URAGE QWE,URAGE QWEE,URAGE QWI,WA,WAA,WE,WEE,WI,YA,YAA,YE,YEE,YI,YO,YU"),
  ("ETHIOPIC SYLLABLE H", "A,AA,E,EE,HA,HAA,HE,HEE,HI,HO,HU,HWA,HWE,HWEE,HWI,HYA,HYAA,HYE,HYEE"),
  ("ETHIOPIC SYLLABLE ", "HHYI,HHYO,HHYU,HI,HO,HOA,HU,JA,JAA,JE,JEE,JI,JO,JOA,JU,JWA,KA"),
  ("ETHIOPIC SYLLABLE K", "AA,E,EE,I,O,OA,U,WA,WAA,WE,WEE,WI,XA,XAA,XE,XEE,XI,XO,XU,XWA,XWAA,XWE"),
  ("ETHIOPIC SYLLABLE ", "KXWEE,KXWI,KYA,KYAA,KYE,KYEE,KYI,KYO,KYU,LA,LAA,LE,LEE,LI,LO,LOA,LU,LWA"),
  ("ETHIOPIC SYLLABLE ", "MA,MAA,ME,MEE,MI,MO,MOA,MU,MWA,MWE,MWEE,MWI,MYA,NA,NAA,NE,NEE,NI,NO,NOA"),
  ("ETHIOPIC SYLLABLE ", "NU,NWA,NYA,NYAA,NYE,NYEE,NYI,NYO,NYOA,NYU,NYWA,PA,PAA,PE,PEE,PHA,PHAA"),
  ("ETHIOPIC SYLLABLE PHARYNGEAL ", "A,AA,E,EE,I,O,U"),
  ("ETHIOPIC SYLLABLE ", "PHE,PHEE,PHI,PHO,PHOA,PHU,PHWA,PI,PO,POA,PU,PWA,PWE,PWEE,PWI,QA,QAA,QE"),
  ("ETHIOPIC SYLLABLE Q", "EE,HA,HAA,HE,HEE,HI,HO,HU,HWA,HWAA,HWE,HWEE,HWI,I,O,OA,U,WA,WAA,WE,WEE"),
  ("ETHIOPIC SYLLABLE ", "QWI,QYA,QYAA,QYE,QYEE,QYI,QYO,QYU,RA,RAA,RE,REE,RI,RO,ROA,RU,RWA,RYA"),
  ("ETHIOPIC SYLLABLE S", "A,AA,E,EBATBEIT BWA,EBATBEIT FWA,EBATBEIT MWA,EBATBEIT PWA,EE,HA,HAA"),
  ("ETHIOPIC SYLLABLE S", "HE,HEE,HI,HO,HOA,HU,HWA,I,O,OA,SA,SAA,SE,SEE,SI,SO,SU,U,WA,ZA,ZAA,ZE"),
  ("ETHIOPIC SYLLABLE ", "SZEE,SZI,SZO,SZU,SZWA,TA,TAA,TE,TEE,THA,THAA,THE,THEE,THI,THO,THOA,THU"),
  ("ETHIOPIC SYLLABLE T", "HWA,I,O,OA,SA,SAA,SE,SEE,SI,SO,SU,SWA,THAA,THE,THEE,THI,THO,THU,U,WA"),
  ("ETHIOPIC SYLLABLE ", "TZA,TZAA,TZE,TZEE,TZI,TZO,TZOA,TZU,VA,VAA,VE,VEE,VI,VO,VU,VWA,WA,WAA,WE"),
  ("ETHIOPIC SYLLABLE ", "WEE,WI,WO,WOA,WU,XA,XAA,XE,XEE,XI,XO,XOA,XU,XWA,XWAA,XWE,XWEE,XWI,XYA"),
  ("ETHIOPIC SYLLABLE ", "XYAA,XYE,XYEE,XYI,XYO,XYU,YA,YAA,YE,YEE,YI,YO,YOA,YU,ZA"),
  ("ETHIOPIC SYLLABLE Z", "AA,E,EE,HA,HAA,HE,HEE,HI,HO,HU,HWA,I,O,OA,U,WA,ZA,ZAA,ZE,ZEE,ZI,ZO,ZU"),
  ("ETHIOPIC TONAL MARK ", "CHIRET,DERET,DERET-HIDET,DIFAT,HIDET,KENAT,KURT,RIKRIK,SHORT RIKRIK"),
  ("E", "THIOPIC TONAL MARK YIZET,THIOPIC WORDSPACE,TX,ULER CONSTANT"),
  ("EURO", " SIGN,-CURRENCY SIGN,PEAN CASTLE,PEAN POST OFFICE"),
  ("E", "VERGREEN TREE,XCESS,XCLAMATION MARK,XCLAMATION QUESTION MARK,XPRESSIONLESS FACE"),
  ("EXTENDED ARABIC-INDIC DIGIT ", "EIGHT,FIVE,FOUR,NINE,ONE,SEVEN,SIX,THREE,TWO,ZERO"),
  ("EXTR", "ATERRESTRIAL ALIEN,EMELY HEAVY FIVE SPOKED ASTERISK"),
  ("EXTREMELY HEAVY ", "GREEK CROSS,SALTIRE,SIX SPOKED ASTERISK,WHITE CIRCLE,WHITE SQUARE"),
  ("EYE", ",GLASSES,S"),
  ("FACE ", "HOLDING BACK TEARS,MASSAGE,PALM,SAVOURING DELICIOUS FOOD,SCREAMING IN FEAR"),
  ("FACE ", "THROWING A KISS,WITH COLD SWEAT,WITH COWBOY HAT,WITH DIAGONAL MOUTH"),
  ("FACE WITH ", "FINGER COVERING CLOSED LIPS,HEAD-BANDAGE,LOOK OF TRIUMPH,MEDICAL MASK,MONOCLE"),
  ("FACE WITH ", "NO GOOD GESTURE,OK GESTURE,ONE EYEBROW RAISED,OPEN EYES AND HAND OVER MOUTH"),
  ("FACE WITH OPEN MOUTH", ", AND COLD SWEAT, VOMITING"),
  ("FACE WITH ", "PARTY HORN AND PARTY HAT,PEEKING EYE,PLEADING EYES,ROLLING EYES"),
  ("FACE WITH STUCK-OUT TONGUE", ", AND TIGHTLY-CLOSED EYES, AND WINKING EYE"),
  ("FACE WITH", " TEARS OF JOY, THERMOMETER, UNEVEN EYES AND WAVY MOUTH,OUT MOUTH"),
  ("FA", "CSIMILE SIGN,CTORY,IRY,LAFEL,LLEN LEAF,LLING DIAGONAL CROSSING NORTH EAST ARROW"),
  ("FALLING DIAGONAL ", "CROSSING RISING DIAGONAL,IN WHITE CIRCLE IN BLACK SQUARE"),
  ("F", "AMILY,ARSI SYMBOL,ATHER CHRISTMAS,AX ICON,AX MACHINE,EARFUL FACE,EATHER,EMALE SIGN"),
  ("F", "EMININE ORDINAL INDICATOR,ENCER,ERRIS WHEEL,ERRY,F,IELD HOCKEY STICK AND BALL,IGURE DASH"),
  ("FI", "GURE SPACE,LE CABINET,LE FOLDER,LE SEPARATOR,LM FRAMES,LM PROJECTOR,NITE PART INTEGRAL"),
  ("FIR", "E,E ENGINE,E EXTINGUISHER,ECRACKER,EWORK SPARKLER,EWORKS,ST PLACE MEDAL"),
  ("FIRST QUARTER MOON", ", SYMBOL, WITH FACE"),
  ("FI", "RST STRONG ISOLATE,SH,SH CAKE WITH SWIRL DESIGN,SHEYE,SHING POLE AND FISH"),
  ("F", "ISTED HAND SIGN,IVE DOT MARK,IVE DOT PUNCTUATION,LAG IN HOLE,LAMINGO,LAT SHOE"),
  ("FL", "ATBREAD,ATNESS,EUR-DE-LIS,EXED BICEPS,OPPY DISK,ORAL HEART,OWER,OWER PLAYING CARDS"),
  ("F", "LOWER PUNCTUATION MARK,LUSHED FACE,LY,LYING DISC,LYING ENVELOPE,LYING SAUCER,OG,OGGY"),
  ("FO", "LDER,NDUE,OT,OTPRINTS,R ALL,RCES,RK AND KNIFE,RK AND KNIFE WITH PLATE,RKED PARAGRAPHOS"),
  ("FO", "RKING,RM FEED,RTUNE COOKIE,UNTAIN,UR BALLOON-SPOKED ASTERISK,UR CLUB-SPOKED ASTERISK"),
  ("FOUR ", "CORNER ARROWS CIRCLING ANTICLOCKWISE,DOT MARK,DOT PUNCTUATION,LEAF CLOVER"),
  ("FO", "UR POINTED BLACK STAR,UR TEARDROP-SPOKED ASTERISK,UR-PER-EM SPACE,URTH ROOT,X FACE"),
  ("FRA", "CTION NUMERATOR ONE,CTION SLASH,ME WITH AN X,ME WITH PICTURE,ME WITH TILES"),
  ("FR", "EEZING FACE,ENCH FRANC SIGN,ENCH FRIES,IED SHRIMP,OG FACE,ONT-FACING BABY CHICK"),
  ("F", "RONT-TILTED SHADOWED WHITE RIGHTWARDS ARROW,ROWN,ROWNING FACE WITH OPEN MOUTH,S,SI"),
  ("FU", "EL PUMP,LL BLOCK,LL MOON SYMBOL,LL MOON WITH FACE,LL OUTER JOIN,LL STOP"),
  ("FULLWIDTH ", "AMPERSAND,APOSTROPHE,ASTERISK,BROKEN BAR,CENT SIGN,CIRCUMFLEX ACCENT,COLON"),
  ("FULLWIDTH ", "COMMA,COMMERCIAL AT,DIGIT EIGHT,DIGIT FIVE,DIGIT FOUR,DIGIT NINE,DIGIT ONE"),
  ("FULLWIDTH ", "DIGIT SEVEN,DIGIT SIX,DIGIT THREE,DIGIT TWO,DIGIT ZERO,DOLLAR SIGN,EQUALS SIGN"),
  ("FULLWIDTH ", "EXCLAMATION MARK,FULL STOP,GRAVE ACCENT,GREATER-THAN SIGN,HYPHEN-MINUS"),
  ("FULLWIDTH LATIN CAPITAL LETTER ", "A,B,C,D,E,F,G,H,I,J,K,L,M,N,O,P,Q,R,S,T,U,V,W,X,Y,Z"),
  ("FULLWIDTH LATIN SMALL LETTER ", "A,B,C,D,E,F,G,H,I,J,K,L,M,N,O,P,Q,R,S,T,U,V,W,X,Y,Z"),
  ("FULLWIDTH LEFT ", "CURLY BRACKET,PARENTHESIS,SQUARE BRACKET,WHITE PARENTHESIS"),
  ("FULLWIDTH ", "LESS-THAN SIGN,LOW LINE,MACRON,NOT SIGN,NUMBER SIGN,PERCENT SIGN,PLUS SIGN"),
  ("FULLWIDTH ", "POUND SIGN,QUESTION MARK,QUOTATION MARK,REVERSE SOLIDUS"),
  ("FULLWIDTH RIGHT ", "CURLY BRACKET,PARENTHESIS,SQUARE BRACKET,WHITE PARENTHESIS"),
  ("FULLWIDTH ", "SEMICOLON,SOLIDUS,TILDE,VERTICAL LINE,WON SIGN,YEN SIGN"),
  ("F", "UNCTION APPLICATION,UNERAL URN,USE,VS1,VS2,VS3,VS4"),
  ("G", "AME DIE,ARLIC,EAR,EAR WITH HANDLES,EAR WITHOUT HUB,EM STONE,EMINI,ENIE"),
  ("GEOMETRIC", " PROPORTION,ALLY EQUAL TO,ALLY EQUIVALENT TO"),
  ("GEORGIAN CAPITAL LETTER ", "AEN,AN,BAN,CAN,CHAR,CHIN,CIL,DON,EN,GAN,GHAN,HAE,HAR,HE,HIE,HOE"),
  ("GEORGIAN CAPITAL LETTER ", "IN,JHAN,JIL,KAN,KHAR,LAS,MAN,NAR,ON,PAR,PHAR,QAR,RAE,SAN,SHIN,TAN"),
  ("GEORGIAN CAPITAL LETTER ", "TAR,UN,VIN,WE,XAN,YN,ZEN,ZHAR"),
  ("GEORGIAN LETTER ", "AEN,AIN,AN,BAN,CAN,CHAR,CHIN,CIL,DON,ELIFI,EN,FI,GAN,GHAN,HAE,HAR"),
  ("GEORGIAN LETTER ", "HARD SIGN,HE,HIE,HOE,IN,JHAN,JIL,KAN,KHAR,LABIAL SIGN,LAS,MAN,NAR,ON,PAR"),
  ("GEORGIAN LETTER ", "PHAR,QAR,RAE,SAN,SHIN,TAN,TAR,TURNED GAN,UN,VIN,WE,XAN,YN,ZEN,ZHAR"),
  ("GEORGIAN MTAVRULI CAPITAL LETTER ", "AEN,AIN,AN,BAN,CAN,CHAR,CHIN,CIL,DON,ELIFI,EN,FI"),
  ("GEORGIAN MTAVRULI CAPITAL LETTER ", "GAN,GHAN,HAE,HAR,HARD SIGN,HE,HIE,HOE,IN,JHAN,JIL"),
  ("GEORGIAN MTAVRULI CAPITAL LETTER ", "KAN,KHAR,LABIAL SIGN,LAS,MAN,NAR,ON,PAR,PHAR,QAR,RAE,SAN"),
  ("GEORGIAN MTAVRULI CAPITAL LETTER ", "SHIN,TAN,TAR,TURNED GAN,UN,VIN,WE,XAN,YN,ZEN,ZHAR"),
  ("GEORGIAN PARAGRAPH SEPARATOR", ""),
  ("GEORGIAN SMALL LETTER ", "AEN,AN,BAN,CAN,CHAR,CHIN,CIL,DON,EN,GAN,GHAN,HAE,HAR,HE,HIE,HOE,IN"),
  ("GEORGIAN SMALL LETTER ", "JHAN,JIL,KAN,KHAR,LAS,MAN,NAR"),
  ("GEORGIAN SMALL LETTER ", "ON,PAR,PHAR,QAR,RAE,SAN,SHIN,TAN,TAR,UN,VIN,WE,XAN,YN,ZEN,ZHAR"),
  ("G", "ERMAN PENNY SIGN,ETA MARK,HOST,IMEL SYMBOL,IRAFFE FACE,IRL,IRLS SYMBOL"),
  ("GLAGOLITIC CAPITAL LETTER ", "AZU,BIG YUS,BUKY,CAUDATE CHRIVI,CHRIVI,DJERVI,DOBRO,DZELO,FITA"),
  ("GLAGOLITIC CAPITAL LETTER ", "FRITU,GLAGOLI,HERU,I,INITIAL IZHE,IOTATED BIG YUS"),
  ("GLAGOLITIC CAPITAL LETTER ", "IOTATED SMALL YUS,IZHE,IZHITSA,KAKO,LATINATE MYSLITE,LJUDIJE"),
  ("GLAGOLITIC CAPITAL LETTER ", "MYSLITE,NASHI,ONU,OTU,PE,POKOJI,RITSI,SHA,SHTA,SHTAPIC,SLOVO"),
  ("GLAGOLITIC CAPITAL LETTER ", "SMALL YUS,SMALL YUS WITH TAIL,SPIDERY HA,TROKUTASTI A,TSI"),
  ("GLAGOLITIC CAPITAL LETTER ", "TVRIDO,UKU,VEDE,YATI,YERI,YERU,YESTU,YO,YU,ZEMLJA,ZHIVETE"),
  ("GLAGOLITIC SMALL LETTER ", "AZU,BIG YUS,BUKY,CAUDATE CHRIVI,CHRIVI,DJERVI,DOBRO,DZELO,FITA"),
  ("GLAGOLITIC SMALL LETTER ", "FRITU,GLAGOLI,HERU,I,INITIAL IZHE,IOTATED BIG YUS"),
  ("GLAGOLITIC SMALL LETTER ", "IOTATED SMALL YUS,IZHE,IZHITSA,KAKO,LATINATE MYSLITE,LJUDIJE"),
  ("GLAGOLITIC SMALL LETTER ", "MYSLITE,NASHI,ONU,OTU,PE,POKOJI,RITSI,SHA,SHTA,SHTAPIC,SLOVO"),
  ("GLAGOLITIC SMALL LETTER ", "SMALL YUS,SMALL YUS WITH TAIL,SPIDERY HA,TROKUTASTI A,TSI,TVRIDO"),
  ("GLAGOLITIC SMALL LETTER ", "UKU,VEDE,YATI,YERI,YERU,YESTU,YO,YU,ZEMLJA,ZHIVETE"),
  ("GL", "ASS OF MILK,EICH STARK,OBE WITH MERIDIANS,OVES,OWING STAR"),
  ("GO", "AL NET,AT,GGLES,LFER,RILLA,THIC LETTER AHSA,THIC LETTER AIHVUS,THIC LETTER BAIRKAN"),
  ("GOTHIC LETTER ", "DAGS,EIS,FAIHU,GIBA,HAGL,HWAIR,IGGWS,IUJA,JER,KUSMA,LAGUS,MANNA,NAUTHS"),
  ("GOTHIC LETTER ", "NINE HUNDRED,NINETY,OTHAL,PAIRTHRA,QAIRTHRA,RAIDA,SAUIL,TEIWS,THIUTH,URUS"),
  ("G", "OTHIC LETTER WINJA,RADUATION CAP,RANTHA AU LENGTH MARK"),
  ("GRANTHA LETTER ", "A,AA,AI,AU,BA,BHA,CA,CHA,DA,DDA,DDHA,DHA,EE,GA,GHA,HA,I,II,JA,JHA,KA,KHA"),
  ("GRANTHA LETTER ", "LA,LLA,MA,NA,NGA,NNA,NYA,OO,PA,PHA,RA,SA,SHA,SSA,TA,THA,TTA,TTHA,U,UU,VA"),
  ("GRANTHA LETTER V", "EDIC ANUSVARA,EDIC DOUBLE ANUSVARA,OCALIC L,OCALIC LL,OCALIC R,OCALIC RR"),
  ("GRANTHA ", "LETTER YA,OM,SIGN ANUSVARA"),
  ("GRANTHA SIGN ", "AVAGRAHA,CANDRABINDU,COMBINING ANUSVARA ABOVE,NUKTA,PLUTA,VIRAMA,VISARGA"),
  ("GRANTHA VOWEL SIGN ", "AA,AI,AU,EE,I,II,OO,U,UU,VOCALIC L,VOCALIC LL,VOCALIC R,VOCALIC RR"),
  ("GRA", "PES,VE ACCENT"),
  ("GREATER-THAN ABOVE ", "DOUBLE-LINE EQUAL ABOVE LESS-THAN,LESS-THAN ABOVE DOUBLE-LINE EQUAL"),
  ("GREATER-THAN ABOVE ", "RIGHTWARDS ARROW,SIMILAR ABOVE LESS-THAN,SIMILAR OR EQUAL"),
  ("GREATER-THAN A", "BOVE SLANTED EQUAL ABOVE LESS-THAN ABOVE SLANTED EQUAL,ND NOT APPROXIMATE"),
  ("GREATER-THAN ", "AND SINGLE-LINE NOT EQUAL TO,BESIDE LESS-THAN"),
  ("GREATER-THAN BUT NOT EQU", "AL TO,IVALENT TO"),
  ("GREATER-THAN ", "CLOSED BY CURVE,CLOSED BY CURVE ABOVE SLANTED EQUAL,EQUAL TO OR LESS-THAN"),
  ("GREATER-THAN OR ", "APPROXIMATE,EQUAL TO,EQUIVALENT TO,LESS-THAN,SLANTED EQUAL TO"),
  ("GREATER-THAN OR SLANTED EQUAL TO WITH DOT ", "ABOVE,ABOVE LEFT,INSIDE"),
  ("GREATER-THAN ", "OVER EQUAL TO,OVERLAPPING LESS-THAN,SIGN"),
  ("GREATER-THAN WITH ", "CIRCLE INSIDE,DOT,QUESTION MARK ABOVE"),
  ("GREEK ACROPHONIC ATTIC FIFTY", ", STATERS, TALENTS, THOUSAND, THOUSAND STATERS"),
  ("GREEK ACROPHONIC ATTIC FIVE", ", HUNDRED, HUNDRED STATERS, HUNDRED TALENTS, STATERS, TALENTS"),
  ("GREEK ACROPHONIC ATTIC FIVE THOUSAND", ", TALENTS"),
  ("GREEK ACROPHONIC ATTIC ONE ", "DRACHMA,HALF,HUNDRED STATERS,HUNDRED TALENTS,QUARTER"),
  ("GREEK ACROPHONIC ATTIC ONE THOUSAND ", "STATERS,TALENTS"),
  ("GREEK ACROPHONIC ATTIC TEN ", "MNAS,STATERS,TALENTS,THOUSAND STATERS"),
  ("GREEK ACROPHONIC ", "CARYSTIAN FIVE HUNDRED,CYRENAIC TWO DRACHMAS,DELPHIC FIVE MNAS"),
  ("GREEK ACROPHONIC EPIDAUREAN ", "FIVE HUNDRED,TWO,TWO DRACHMAS"),
  ("GREEK ACROPHONIC HER", "AEUM ONE PLETHRON,MIONIAN FIFTY,MIONIAN ONE,MIONIAN TEN"),
  ("GREEK ACROPHONIC ", "MESSENIAN TEN,NAXIAN FIVE HUNDRED,STRATIAN FIFTY MNAS,THESPIAN FIFTY"),
  ("GREEK ACROPHONIC THESPIAN ", "FIVE HUNDRED,FIVE THOUSAND,ONE,ONE HUNDRED,ONE THOUSAND,TEN"),
  ("GREEK ACROPHONIC T", "HESPIAN THIRTY,HESPIAN THREE HUNDRED,HESPIAN TWO,ROEZENIAN FIFTY"),
  ("GREEK ACROPHONIC TROEZENIAN ", "FIFTY ALTERNATE FORM,FIVE,FIVE HUNDRED,TEN,TEN ALTERNATE FORM"),
  ("GREEK ", "ANO TELEIA,AROURA SIGN,ARTABE SIGN,BETA SYMBOL"),
  ("GREEK CAPITAL ", "DOTTED LUNATE SIGMA SYMBOL,KAI SYMBOL,LETTER ALPHA"),
  ("GREEK CAPITAL LETTER ALPHA WITH DASIA", ", AND OXIA, AND OXIA AND PROSGEGRAMMENI"),
  ("GREEK CAPITAL LETTER ALPHA WITH DASIA AND PERISPOMENI", ", AND PROSGEGRAMMENI"),
  ("GREEK CAPITAL LETTER ALPHA WITH DASIA AND ", "PROSGEGRAMMENI,VARIA,VARIA AND PROSGEGRAMMENI"),
  ("GREEK CAPITAL LETTER ALPHA WITH ", "MACRON,OXIA,PROSGEGRAMMENI,PSILI"),
  ("GREEK CAPITAL LETTER ALPHA WITH PSILI AND ", "OXIA,OXIA AND PROSGEGRAMMENI,PERISPOMENI"),
  ("GREEK CAPITAL LETTER ALPHA WITH PSILI AND P", "ERISPOMENI AND PROSGEGRAMMENI,ROSGEGRAMMENI"),
  ("GREEK CAPITAL LETTER ALPHA WITH ", "PSILI AND VARIA,PSILI AND VARIA AND PROSGEGRAMMENI,TONOS"),
  ("GREEK CAPITAL LETTER ", "ALPHA WITH VARIA,ALPHA WITH VRACHY,ARCHAIC SAMPI,BETA,CHI,DELTA"),
  ("GREEK CAPITAL LETTER EPSILON", ", WITH DASIA, WITH DASIA AND OXIA, WITH DASIA AND VARIA"),
  ("GREEK CAPITAL LETTER EPSILON WITH ", "OXIA,PSILI,PSILI AND OXIA,PSILI AND VARIA,TONOS,VARIA"),
  ("GREEK CAPITAL LETTER ETA", ""),
  ("GREEK CAPITAL LETTER ETA WITH DASIA", ", AND OXIA, AND OXIA AND PROSGEGRAMMENI"),
  ("GREEK CAPITAL LETTER ETA WITH DASIA AND PERISPOMENI", ", AND PROSGEGRAMMENI"),
  ("GREEK CAPITAL LETTER ETA WITH DASIA AND ", "PROSGEGRAMMENI,VARIA,VARIA AND PROSGEGRAMMENI"),
  ("GREEK CAPITAL LETTER ETA WITH ", "OXIA,PROSGEGRAMMENI,PSILI"),
  ("GREEK CAPITAL LETTER ETA WITH PSILI AND OXIA", ", AND PROSGEGRAMMENI"),
  ("GREEK CAPITAL LETTER ETA WITH PSILI AND PERISPOMENI", ", AND PROSGEGRAMMENI"),
  ("GREEK CAPITAL LETTER ETA WITH PSILI AND ", "PROSGEGRAMMENI,VARIA,VARIA AND PROSGEGRAMMENI"),
  ("GREEK CAPITAL LETTER ", "ETA WITH TONOS,ETA WITH VARIA,GAMMA,HETA,IOTA"),
  ("GREEK CAPITAL LETTER IOTA WITH DASIA", ", AND OXIA, AND PERISPOMENI, AND VARIA"),
  ("GREEK CAPITAL LETTER IOTA WITH ", "DIALYTIKA,MACRON,OXIA,PSILI,PSILI AND OXIA"),
  ("GREEK CAPITAL LETTER IOTA WITH ", "PSILI AND PERISPOMENI,PSILI AND VARIA,TONOS,VARIA,VRACHY"),
  ("GREEK CAPITAL LETTER ", "KAPPA,LAMDA,MU,NU,OMEGA"),
  ("GREEK CAPITAL LETTER OMEGA WITH DASIA", ", AND OXIA, AND OXIA AND PROSGEGRAMMENI"),
  ("GREEK CAPITAL LETTER OMEGA WITH DASIA AND PERISPOMENI", ", AND PROSGEGRAMMENI"),
  ("GREEK CAPITAL LETTER OMEGA WITH DASIA AND ", "PROSGEGRAMMENI,VARIA,VARIA AND PROSGEGRAMMENI"),
  ("GREEK CAPITAL LETTER OMEGA WITH ", "OXIA,PROSGEGRAMMENI,PSILI"),
  ("GREEK CAPITAL LETTER OMEGA WITH PSILI AND OXIA", ", AND PROSGEGRAMMENI"),
  ("GREEK CAPITAL LETTER OMEGA WITH PSILI AND PERISPOMENI", ", AND PROSGEGRAMMENI"),
  ("GREEK CAPITAL LETTER OMEGA WITH PSILI AND ", "PROSGEGRAMMENI,VARIA,VARIA AND PROSGEGRAMMENI"),
  ("GREEK CAPITAL LETTER OM", "EGA WITH TONOS,EGA WITH VARIA,ICRON"),
  ("GREEK CAPITAL LETTER OMICRON WITH DASIA", ", AND OXIA, AND VARIA"),
  ("GREEK CAPITAL LETTER OMICRON WITH ", "OXIA,PSILI,PSILI AND OXIA,PSILI AND VARIA,TONOS,VARIA"),
  ("GREEK CAPITAL LETTER P", "AMPHYLIAN DIGAMMA,HI,I,SI"),
  ("GREEK CAPITAL LETTER ", "RHO,RHO WITH DASIA,SAN,SHO,SIGMA,TAU,THETA,UPSILON"),
  ("GREEK CAPITAL LETTER UPSILON WITH DASIA", ", AND OXIA, AND PERISPOMENI, AND VARIA"),
  ("GREEK CAPITAL LETTER UPSILON WITH ", "DIALYTIKA,MACRON,OXIA,TONOS,VARIA,VRACHY"),
  ("GREEK CAPITAL L", "ETTER XI,ETTER YOT,ETTER ZETA,UNATE SIGMA SYMBOL"),
  ("GREEK CAPITAL REVERSED ", "DOTTED LUNATE SIGMA SYMBOL,LUNATE SIGMA SYMBOL"),
  ("GREEK ", "CAPITAL THETA SYMBOL,DASIA,DASIA AND OXIA,DASIA AND PERISPOMENI,DASIA AND VARIA"),
  ("GREEK DIALYTIKA ", "AND OXIA,AND PERISPOMENI,AND VARIA,TONOS"),
  ("GREEK ", "DRACHMA SIGN,FIVE OBOLS SIGN,FOUR OBOLS SIGN,GRAMMA SIGN,INDICTION SIGN"),
  ("GREEK INSTRUMENTAL NOTATION SYMBOL-", "1,11,12,13,14,17,18,19,2,23,24,25,26,27,29,30,32,36"),
  ("GREEK INSTRUMENTAL NOTATION SYMBOL-", "37,38,39,4,40,42,43,45,47,48,49,5,50,51,52,53,54,7,8"),
  ("GREEK K", "AI SYMBOL,APPA SYMBOL,ORONIS,YATHOS BASE SIGN"),
  ("GREEK LETTER ", "ARCHAIC KOPPA,DIGAMMA,KOPPA,SAMPI"),
  ("GREEK LETTER SMALL CAPITAL ", "GAMMA,LAMDA,OMEGA,PI,PSI,RHO"),
  ("GREEK L", "ETTER STIGMA,ETTER YOT,ITRA SIGN,OWER NUMERAL SIGN,UNATE EPSILON SYMBOL"),
  ("GREEK ", "LUNATE SIGMA SYMBOL,METRETES SIGN,MUSICAL LEIMMA,NUMERAL SIGN"),
  ("GREEK O", "BOL SIGN,NE HALF SIGN,NE HALF SIGN ALTERNATE FORM,NE QUARTER SIGN,UNKIA SIGN,XIA"),
  ("GREEK P", "ERISPOMENI,HI SYMBOL,I SYMBOL,ROSGEGRAMMENI,SILI"),
  ("GREEK PSILI AND ", "OXIA,PERISPOMENI,VARIA"),
  ("GREEK ", "QUESTION MARK,REVERSED LUNATE EPSILON SYMBOL,RHO SYMBOL,RHO WITH STROKE SYMBOL"),
  ("GREEK S", "INUSOID SIGN,MALL DOTTED LUNATE SIGMA SYMBOL,MALL LETTER ALPHA"),
  ("GREEK SMALL LETTER ALPHA WITH DASIA", ", AND OXIA, AND OXIA AND YPOGEGRAMMENI"),
  ("GREEK SMALL LETTER ALPHA WITH DASIA AND PERISPOMENI", ", AND YPOGEGRAMMENI"),
  ("GREEK SMALL LETTER ALPHA WITH DASIA AND ", "VARIA,VARIA AND YPOGEGRAMMENI,YPOGEGRAMMENI"),
  ("GREEK SMALL LETTER ALPHA WITH ", "MACRON,OXIA,OXIA AND YPOGEGRAMMENI"),
  ("GREEK SMALL LETTER ALPHA WITH PERISPOMENI", ", AND YPOGEGRAMMENI"),
  ("GREEK SMALL LETTER ALPHA WITH PSILI", ", AND OXIA, AND OXIA AND YPOGEGRAMMENI"),
  ("GREEK SMALL LETTER ALPHA WITH PSILI AND PERISPOMENI", ", AND YPOGEGRAMMENI"),
  ("GREEK SMALL LETTER ALPHA WITH PSILI AND ", "VARIA,VARIA AND YPOGEGRAMMENI,YPOGEGRAMMENI"),
  ("GREEK SMALL LETTER ALPHA WITH ", "TONOS,VARIA,VARIA AND YPOGEGRAMMENI,VRACHY,YPOGEGRAMMENI"),
  ("GREEK SMALL LETTER ", "ARCHAIC KOPPA,ARCHAIC SAMPI,BETA,CHI,DELTA,DIGAMMA,EPSILON"),
  ("GREEK SMALL LETTER EPSILON WITH DASIA", ", AND OXIA, AND VARIA"),
  ("GREEK SMALL LETTER EPSILON WITH ", "OXIA,PSILI,PSILI AND OXIA,PSILI AND VARIA,TONOS,VARIA"),
  ("GREEK SMALL LETTER ETA", ""),
  ("GREEK SMALL LETTER ETA WITH DASIA", ", AND OXIA, AND OXIA AND YPOGEGRAMMENI"),
  ("GREEK SMALL LETTER ETA WITH DASIA AND PERISPOMENI", ", AND YPOGEGRAMMENI"),
  ("GREEK SMALL LETTER ETA WITH DASIA AND ", "VARIA,VARIA AND YPOGEGRAMMENI,YPOGEGRAMMENI"),
  ("GREEK SMALL LETTER ETA WITH OXIA", ", AND YPOGEGRAMMENI"),
  ("GREEK SMALL LETTER ETA WITH PERISPOMENI", ", AND YPOGEGRAMMENI"),
  ("GREEK SMALL LETTER ETA WITH PSILI", ", AND OXIA, AND OXIA AND YPOGEGRAMMENI"),
  ("GREEK SMALL LETTER ETA WITH PSILI AND PERISPOMENI", ", AND YPOGEGRAMMENI"),
  ("GREEK SMALL LETTER ETA WITH PSILI AND ", "VARIA,VARIA AND YPOGEGRAMMENI,YPOGEGRAMMENI"),
  ("GREEK SMALL LETTER ETA WITH ", "TONOS,VARIA,VARIA AND YPOGEGRAMMENI,YPOGEGRAMMENI"),
  ("GREEK SMALL LETTER ", "FINAL SIGMA,GAMMA,HETA,IOTA"),
  ("GREEK SMALL LETTER IOTA WITH DASIA", ", AND OXIA, AND PERISPOMENI, AND VARIA"),
  ("GREEK SMALL LETTER IOTA WITH DIALYTIKA", ", AND OXIA, AND PERISPOMENI, AND TONOS, AND VARIA"),
  ("GREEK SMALL LETTER IOTA WITH ", "MACRON,OXIA,PERISPOMENI,PSILI,PSILI AND OXIA"),
  ("GREEK SMALL LETTER IOTA WITH ", "PSILI AND PERISPOMENI,PSILI AND VARIA,TONOS,VARIA,VRACHY"),
  ("GREEK SMALL LETTER ", "KAPPA,KOPPA,LAMDA,MU,NU,OMEGA"),
  ("GREEK SMALL LETTER OMEGA WITH DASIA", ", AND OXIA, AND OXIA AND YPOGEGRAMMENI"),
  ("GREEK SMALL LETTER OMEGA WITH DASIA AND PERISPOMENI", ", AND YPOGEGRAMMENI"),
  ("GREEK SMALL LETTER OMEGA WITH DASIA AND ", "VARIA,VARIA AND YPOGEGRAMMENI,YPOGEGRAMMENI"),
  ("GREEK SMALL LETTER OMEGA WITH OXIA", ", AND YPOGEGRAMMENI"),
  ("GREEK SMALL LETTER OMEGA WITH PERISPOMENI", ", AND YPOGEGRAMMENI"),
  ("GREEK SMALL LETTER OMEGA WITH PSILI", ", AND OXIA, AND OXIA AND YPOGEGRAMMENI"),
  ("GREEK SMALL LETTER OMEGA WITH PSILI AND PERISPOMENI", ", AND YPOGEGRAMMENI"),
  ("GREEK SMALL LETTER OMEGA WITH PSILI AND ", "VARIA,VARIA AND YPOGEGRAMMENI,YPOGEGRAMMENI"),
  ("GREEK SMALL LETTER OMEGA WITH ", "TONOS,VARIA,VARIA AND YPOGEGRAMMENI,YPOGEGRAMMENI"),
  ("GREEK SMALL LETTER OMICRON", ", WITH DASIA, WITH DASIA AND OXIA, WITH DASIA AND VARIA"),
  ("GREEK SMALL LETTER OMICRON WITH ", "OXIA,PSILI,PSILI AND OXIA,PSILI AND VARIA,TONOS,VARIA"),
  ("GREEK SMALL LETTER ", "PAMPHYLIAN DIGAMMA,PHI,PI,PSI,RHO,RHO WITH DASIA,RHO WITH PSILI,SAMPI"),
  ("GREEK SMALL LETTER ", "SAN,SHO,SIGMA,STIGMA,TAU,THETA,UPSILON"),
  ("GREEK SMALL LETTER UPSILON WITH DASIA", ", AND OXIA, AND PERISPOMENI, AND VARIA"),
  ("GREEK SMALL LETTER UPSILON WITH DIALYTIKA", ", AND OXIA, AND PERISPOMENI, AND TONOS"),
  ("GREEK SMALL LETTER UPSILON WITH ", "DIALYTIKA AND VARIA,MACRON,OXIA,PERISPOMENI,PSILI"),
  ("GREEK SMALL LETTER UPSILON WITH PSILI AND ", "OXIA,PERISPOMENI,VARIA"),
  ("GREEK SMALL LETTER ", "UPSILON WITH TONOS,UPSILON WITH VARIA,UPSILON WITH VRACHY,XI,ZETA"),
  ("GREEK SMALL REVERSED ", "DOTTED LUNATE SIGMA SYMBOL,LUNATE SIGMA SYMBOL"),
  ("GREEK SUBSCRIPT SMALL LETTER ", "BETA,CHI,GAMMA,PHI,RHO"),
  ("GREEK ", "SYMBOL TAU RHO,TALENT SIGN,THETA SYMBOL,THREE OBOLS SIGN"),
  ("GREEK T", "HREE QUARTERS SIGN,ONOS,RYBLION BASE SIGN,WO OBOLS SIGN,WO THIRDS SIGN"),
  ("GREEK UPSILON WITH ", "ACUTE AND HOOK SYMBOL,DIAERESIS AND HOOK SYMBOL,HOOK SYMBOL"),
  ("GREEK VARIA", ""),
  ("GREEK VOCAL NOTATION SYMBOL-1", ",0,1,2,3,4,5,6,7,8,9"),
  ("GREEK VOCAL NOTATION SYMBOL-", "2,20,21,22,23,24,3,4,5,50,51,52,53,54,6,7,8,9"),
  ("GREE", "K XESTES SIGN,K YEAR SIGN,K YPOGEGRAMMENI,K ZERO SIGN,N APPLE,N BOOK,N HEART,N SALAD"),
  ("GRI", "MACING FACE,NNING CAT FACE WITH SMILING EYES,NNING FACE"),
  ("GRINNING FACE WITH ", "ONE LARGE AND ONE SMALL EYE,SMILING EYES,STAR EYES"),
  ("GROUP ", "MARK,SEPARATOR"),
  ("G", "ROWING HEART,S,UARANI SIGN,UARDSMAN,UIDE DOG,UITAR,UJARATI ABBREVIATION SIGN"),
  ("GUJARATI DIGIT ", "EIGHT,FIVE,FOUR,NINE,ONE,SEVEN,SIX,THREE,TWO,ZERO"),
  ("GUJARATI LETTER ", "A,AA,AI,AU,BA,BHA,CA,CHA,DA,DDA,DDHA,DHA,E,GA,GHA,HA,I,II,JA,JHA,KA,KHA"),
  ("GUJARATI LETTER ", "LA,LLA,MA,NA,NGA,NNA,NYA,O,PA,PHA,RA,SA,SHA,SSA,TA,THA,TTA,TTHA,U,UU,VA"),
  ("GUJARATI LETTER VOCALIC ", "L,LL,R,RR"),
  ("GUJARATI ", "LETTER YA,LETTER ZHA,OM,RUPEE SIGN"),
  ("GUJARATI SIGN ", "ANUSVARA,AVAGRAHA,CANDRABINDU,CIRCLE NUKTA ABOVE,MADDAH,NUKTA,SHADDA,SUKUN"),
  ("GUJARATI SIGN ", "THREE-DOT NUKTA ABOVE,TWO-CIRCLE NUKTA ABOVE,VIRAMA,VISARGA"),
  ("GUJARATI VOWEL ", "CANDRA E,CANDRA O,SIGN AA,SIGN AI,SIGN AU,SIGN CANDRA E"),
  ("GUJARATI VOWEL SIGN ", "CANDRA O,E,I,II,O,U,UU,VOCALIC L,VOCALIC LL,VOCALIC R,VOCALIC RR"),
  ("GUNJALA GONDI DIGIT ", "EIGHT,FIVE,FOUR,NINE,ONE,SEVEN,SIX,THREE,TWO,ZERO"),
  ("GUNJALA GONDI LETTER ", "A,AA,AI,AU,BA,BHA,CA,CHA,DA,DDA,DDHA,DHA,EE,GA,GHA,HA,I,II,JA,JHA,KA"),
  ("GUNJALA GONDI LETTER ", "KHA,LA,LLA,MA,NA,NGA,OO,PA,PHA,RA,SA,TA,THA,TTA,TTHA,U,UU,VA,YA"),
  ("GUNJALA GONDI ", "OM,SIGN ANUSVARA,SIGN VISARGA,VIRAMA"),
  ("GUNJALA GONDI VOWEL SIGN ", "AA,AI,AU,EE,I,II,OO,U,UU"),
  ("GURMUKHI ", "ABBREVIATION SIGN,ADDAK,DIGIT EIGHT,DIGIT FIVE,DIGIT FOUR,DIGIT NINE,DIGIT ONE"),
  ("GURMUKHI ", "DIGIT SEVEN,DIGIT SIX,DIGIT THREE,DIGIT TWO,DIGIT ZERO,EK ONKAR,IRI"),
  ("GURMUKHI LETTER ", "A,AA,AI,AU,BA,BHA,CA,CHA,DA,DDA,DDHA,DHA,EE,FA,GA,GHA,GHHA,HA,I,II,JA,JHA"),
  ("GURMUKHI LETTER ", "KA,KHA,KHHA,LA,LLA,MA,NA,NGA,NNA,NYA,OO,PA,PHA,RA,RRA,SA,SHA,TA,THA,TTA"),
  ("GURMUKHI ", "LETTER TTHA,LETTER U,LETTER UU,LETTER VA,LETTER YA,LETTER ZA,SIGN ADAK BINDI"),
  ("GURMUKHI ", "SIGN BINDI,SIGN NUKTA,SIGN UDAAT,SIGN VIRAMA,SIGN VISARGA,SIGN YAKASH,TIPPI,URA"),
  ("GURMUKHI VOWEL SIGN ", "AA,AI,AU,EE,I,II,OO,U,UU")]

end ModelBindings.Text.CharacterName
