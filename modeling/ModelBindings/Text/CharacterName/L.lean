/-!
# Character names that start with L
-/

set_option autoImplicit false

namespace ModelBindings.Text.CharacterName

/-- The character names that start with L, in groups. -/
def namesL : List (String × String) := [
  ("L", " B BAR SYMBOL,AB COAT,ABEL,ACROSSE STICK AND BALL,ADDER,ADY BEETLE,ANGUAGE TAG"),
  ("LAO ", "CANCELLATION MARK,DIGIT EIGHT,DIGIT FIVE,DIGIT FOUR,DIGIT NINE,DIGIT ONE,DIGIT SEVEN"),
  ("LAO ", "DIGIT SIX,DIGIT THREE,DIGIT TWO,DIGIT ZERO,ELLIPSIS,HO MO,HO NO,KO LA"),
  ("LAO LETTER ", "BO,CO,DO,FO FAY,FO FON,FO SUNG,FO TAM,HO SUNG,HO TAM"),
  ("LAO LETTER ", "KHMU GO,KHMU NYO,KHO SUNG,KHO TAM,KO,LO,LO LING,LO LOOT,MO,NGO,NO,NYO,O"),
  ("LAO LETTER PALI ", "BHA,CHA,DDA,DDHA,DHA,GHA,JHA,LLA,NNA,NYA,TTA,TTHA"),
  ("LAO LETTER PHO ", "SUNG,TAM"),
  ("LAO LETTER ", "PO,RO,SANSKRIT SHA,SANSKRIT SSA,SO SUNG,SO TAM,THO SUNG,THO TAM,TO,WO,YO"),
  ("LAO ", "NIGGAHITA,SEMIVOWEL SIGN LO,SEMIVOWEL SIGN NYO,SIGN PALI VIRAMA"),
  ("LAO TONE MAI ", "CATAWA,EK,THO,TI"),
  ("LAO VOWEL SIGN ", "A,AA,AI,AM,AY,E,EI,I,II,MAI KAN,MAI KON,O,U,UU,Y,YY"),
  ("LARGE ", "BLUE CIRCLE,BLUE DIAMOND,BLUE SQUARE,BROWN CIRCLE,BROWN SQUARE,CIRCLE,DOWN TACK"),
  ("LARGE ", "GREEN CIRCLE,GREEN SQUARE,LEFT TRIANGLE OPERATOR,ONE DOT OVER TWO DOTS PUNCTUATION"),
  ("LARGE O", "NE RING OVER TWO RINGS PUNCTUATION,RANGE CIRCLE,RANGE DIAMOND,RANGE SQUARE"),
  ("LARGE ", "PURPLE CIRCLE,PURPLE SQUARE,RED CIRCLE,RED SQUARE,TRIPLE VERTICAL BAR OPERATOR"),
  ("LARGE TWO ", "DOTS OVER ONE DOT PUNCTUATION,RINGS OVER ONE RING PUNCTUATION"),
  ("LAR", "GE UP TACK,GE YELLOW CIRCLE,GE YELLOW SQUARE,GER THAN,GER THAN OR EQUAL TO,I SIGN"),
  ("LAST QUARTER MOON", ", SYMBOL, WITH FACE"),
  ("LATIN CAPITAL LETTER A", ", WITH ACUTE, WITH BREVE"),
  ("LATIN CAPITAL LETTER A WITH BREVE AND ", "ACUTE,DOT BELOW,GRAVE,HOOK ABOVE,TILDE"),
  ("LATIN CAPITAL LETTER A WITH C", "ARON,IRCUMFLEX"),
  ("LATIN CAPITAL LETTER A WITH CIRCUMFLEX AND ", "ACUTE,DOT BELOW,GRAVE,HOOK ABOVE,TILDE"),
  ("LATIN CAPITAL LETTER A WITH D", "IAERESIS,IAERESIS AND MACRON,OT ABOVE,OT ABOVE AND MACRON"),
  ("LATIN CAPITAL LETTER A WITH ", "DOT BELOW,DOUBLE GRAVE,GRAVE,HOOK ABOVE,INVERTED BREVE,MACRON"),
  ("LATIN CAPITAL LETTER A WITH ", "OGONEK,RING ABOVE,RING ABOVE AND ACUTE,RING BELOW,STROKE"),
  ("LATIN CAPITAL LETTER A", " WITH TILDE,A,E,E WITH ACUTE,E WITH MACRON,FRICAN D,LPHA,NGLICANA W"),
  ("LATIN CAPITAL LETTER ", "AO,AU,AV,AV WITH HORIZONTAL BAR,AY,B"),
  ("LATIN CAPITAL LETTER B WITH ", "DOT ABOVE,DOT BELOW,FLOURISH,HOOK,LINE BELOW,STROKE,TOPBAR"),
  ("LATIN CAPITAL LETTER ", "BETA,BROKEN L,C,C WITH ACUTE"),
  ("LATIN CAPITAL LETTER C WITH ", "BAR,CARON,CEDILLA,CEDILLA AND ACUTE,CIRCUMFLEX,DOT ABOVE,HOOK"),
  ("LATIN CAPITAL LETTER C", " WITH PALATAL HOOK, WITH STROKE,HI,LOSED INSULAR G,ON,UATRILLO"),
  ("LATIN CAPITAL LETTER ", "CUATRILLO WITH COMMA,D,D WITH CARON"),
  ("LATIN CAPITAL LETTER D WITH ", "CEDILLA,CIRCUMFLEX BELOW,DOT ABOVE,DOT BELOW,HOOK,LINE BELOW"),
  ("LATIN CAPITAL LETTER D WITH S", "HORT STROKE OVERLAY,MALL LETTER Z,MALL LETTER Z WITH CARON"),
  ("LATIN CAPITAL LETTER ", "D WITH STROKE,D WITH TOPBAR,DZ,DZ WITH CARON,E"),
  ("LATIN CAPITAL LETTER E WITH ", "ACUTE,BREVE,CARON,CEDILLA,CEDILLA AND BREVE,CIRCUMFLEX"),
  ("LATIN CAPITAL LETTER E WITH CIRCUMFLEX AND ", "ACUTE,DOT BELOW,GRAVE,HOOK ABOVE,TILDE"),
  ("LATIN CAPITAL LETTER E WITH ", "CIRCUMFLEX BELOW,DIAERESIS,DOT ABOVE,DOT BELOW,DOUBLE GRAVE"),
  ("LATIN CAPITAL LETTER E WITH ", "GRAVE,HOOK ABOVE,INVERTED BREVE,MACRON,MACRON AND ACUTE"),
  ("LATIN CAPITAL LETTER E WITH ", "MACRON AND GRAVE,OGONEK,STROKE,TILDE,TILDE BELOW"),
  ("LATIN CAPITAL LETTER E", "GYPTOLOGICAL AIN,GYPTOLOGICAL ALEF,NG,SH,T,TH,ZH,ZH REVERSED"),
  ("LATIN CAPITAL LETTER ", "EZH WITH CARON,F,F WITH DOT ABOVE,F WITH HOOK,F WITH STROKE,G"),
  ("LATIN CAPITAL LETTER G WITH ", "ACUTE,BREVE,CARON,CEDILLA,CIRCUMFLEX,DOT ABOVE,HOOK,MACRON"),
  ("LATIN CAPITAL LETTER G", " WITH OBLIQUE STROKE, WITH STROKE,AMMA,HA,LOTTAL A,LOTTAL I"),
  ("LATIN CAPITAL LETTER ", "GLOTTAL STOP,GLOTTAL U,H,H WITH BREVE BELOW,H WITH CARON"),
  ("LATIN CAPITAL LETTER H WITH ", "CEDILLA,CIRCUMFLEX,DESCENDER,DIAERESIS,DOT ABOVE,DOT BELOW"),
  ("LATIN CAPITAL LETTER ", "H WITH HOOK,H WITH STROKE,HALF H,HENG,HWAIR,I"),
  ("LATIN CAPITAL LETTER I WITH ", "ACUTE,BREVE,CARON,CIRCUMFLEX,DIAERESIS,DIAERESIS AND ACUTE"),
  ("LATIN CAPITAL LETTER I WITH ", "DOT ABOVE,DOT BELOW,DOUBLE GRAVE,GRAVE,HOOK ABOVE"),
  ("LATIN CAPITAL LETTER I WITH ", "INVERTED BREVE,MACRON,OGONEK,STROKE,TILDE,TILDE BELOW"),
  ("LATIN CAPITAL LETTER INSULAR ", "D,F,G,R,S,T"),
  ("LATIN CAPITAL LETTER ", "IOTA,IS,J,J WITH CIRCUMFLEX,J WITH CROSSED-TAIL,J WITH STROKE,K"),
  ("LATIN CAPITAL LETTER K WITH ", "ACUTE,CARON,CEDILLA,DESCENDER,DIAGONAL STROKE,DOT BELOW,HOOK"),
  ("LATIN CAPITAL LETTER K WITH ", "LINE BELOW,OBLIQUE STROKE,STROKE,STROKE AND DIAGONAL STROKE"),
  ("LATIN CAPITAL LETTER L", ", WITH ACUTE, WITH BAR, WITH BELT, WITH CARON, WITH CEDILLA"),
  ("LATIN CAPITAL LETTER L WITH ", "CIRCUMFLEX BELOW,DOT BELOW,DOT BELOW AND MACRON,DOUBLE BAR"),
  ("LATIN CAPITAL LETTER L WITH ", "HIGH STROKE,LINE BELOW,MIDDLE DOT,MIDDLE TILDE,SMALL LETTER J"),
  ("LATIN CAPITAL LETTER ", "L WITH STROKE,LJ,M,M WITH ACUTE,M WITH DOT ABOVE,M WITH DOT BELOW"),
  ("LATIN CAPITAL LETTER ", "M WITH HOOK,MIDDLE SCOTS S,MIDDLE-WELSH LL,MIDDLE-WELSH V,N"),
  ("LATIN CAPITAL LETTER N WITH ", "ACUTE,CARON,CEDILLA,CIRCUMFLEX BELOW,DESCENDER"),
  ("LATIN CAPITAL LETTER N WITH ", "DOT ABOVE,DOT BELOW,GRAVE,LEFT HOOK,LINE BELOW,LONG RIGHT LEG"),
  ("LATIN CAPITAL LETTER ", "N WITH OBLIQUE STROKE,N WITH SMALL LETTER J,N WITH TILDE,NJ,O"),
  ("LATIN CAPITAL LETTER O WITH ", "ACUTE,BREVE,CARON,CIRCUMFLEX"),
  ("LATIN CAPITAL LETTER O WITH CIRCUMFLEX AND ", "ACUTE,DOT BELOW,GRAVE,HOOK ABOVE,TILDE"),
  ("LATIN CAPITAL LETTER O WITH D", "IAERESIS,IAERESIS AND MACRON,OT ABOVE,OT ABOVE AND MACRON"),
  ("LATIN CAPITAL LETTER O WITH ", "DOT BELOW,DOUBLE ACUTE,DOUBLE GRAVE,GRAVE,HOOK ABOVE,HORN"),
  ("LATIN CAPITAL LETTER O WITH HORN AND ", "ACUTE,DOT BELOW,GRAVE,HOOK ABOVE,TILDE"),
  ("LATIN CAPITAL LETTER O WITH ", "INVERTED BREVE,LONG STROKE OVERLAY,LOOP"),
  ("LATIN CAPITAL LETTER O WITH MACRON", ", AND ACUTE, AND GRAVE"),
  ("LATIN CAPITAL LETTER O WITH ", "MIDDLE TILDE,OGONEK,OGONEK AND MACRON,STROKE,STROKE AND ACUTE"),
  ("LATIN CAPITAL LETTER O WITH TILDE", ", AND ACUTE, AND DIAERESIS, AND MACRON"),
  ("LATIN CAPITAL LETTER ", "OI,OLD POLISH O,OMEGA,OO,OPEN E,OPEN O,OU,P"),
  ("LATIN CAPITAL LETTER P WITH ", "ACUTE,DOT ABOVE,FLOURISH,HOOK,SQUIRREL TAIL"),
  ("LATIN CAPITAL LETTER P WITH STROKE", ", THROUGH DESCENDER"),
  ("LATIN CAPITAL LETTER ", "Q,Q WITH DIAGONAL STROKE,Q WITH STROKE THROUGH DESCENDER,R,R ROTUNDA"),
  ("LATIN CAPITAL LETTER R WITH ", "ACUTE,CARON,CEDILLA"),
  ("LATIN CAPITAL LETTER R WITH DO", "T ABOVE,T BELOW,T BELOW AND MACRON,UBLE GRAVE"),
  ("LATIN CAPITAL LETTER R WITH ", "INVERTED BREVE,LINE BELOW,OBLIQUE STROKE,STROKE,TAIL"),
  ("LATIN CAPITAL LETTER REVERSED ", "C WITH DOT,E,HALF H,OPEN E"),
  ("LATIN CAPITAL LETTER ", "RUM ROTUNDA,S,S WITH ACUTE,S WITH ACUTE AND DOT ABOVE,S WITH CARON"),
  ("LATIN CAPITAL LETTER S WITH ", "CARON AND DOT ABOVE,CEDILLA,CIRCUMFLEX,COMMA BELOW,DOT ABOVE"),
  ("LATIN CAPITAL LETTER S WITH ", "DOT BELOW,DOT BELOW AND DOT ABOVE,HOOK,OBLIQUE STROKE"),
  ("LATIN CAPITAL LETTER S", " WITH SHORT STROKE OVERLAY, WITH SWASH TAIL,ALTILLO,CHWA,CRIPT G"),
  ("LATIN CAPITAL LETTER ", "SHARP S,SIGMOID S,SMALL CAPITAL I,SMALL Q WITH HOOK TAIL,T"),
  ("LATIN CAPITAL LETTER T WITH ", "CARON,CEDILLA,CIRCUMFLEX BELOW,COMMA BELOW,DIAGONAL STROKE"),
  ("LATIN CAPITAL LETTER T WITH ", "DOT ABOVE,DOT BELOW,HOOK,LINE BELOW,RETROFLEX HOOK,STROKE"),
  ("LATIN CAPITAL LETTER T", "HORN,HORN WITH STROKE,HORN WITH STROKE THROUGH DESCENDER,ONE FIVE"),
  ("LATIN CAPITAL LETTER T", "ONE SIX,ONE TWO,RESILLO,URNED A,URNED ALPHA,URNED H,URNED INSULAR G"),
  ("LATIN CAPITAL LETTER ", "TURNED K,TURNED L,TURNED M,TURNED T,TURNED V,TZ,U,U BAR"),
  ("LATIN CAPITAL LETTER U WITH ", "ACUTE,BREVE,CARON,CIRCUMFLEX,CIRCUMFLEX BELOW"),
  ("LATIN CAPITAL LETTER U WITH DIAERESIS", ", AND ACUTE, AND CARON, AND GRAVE, AND MACRON, BELOW"),
  ("LATIN CAPITAL LETTER U WITH ", "DOT BELOW,DOUBLE ACUTE,DOUBLE GRAVE,GRAVE,HOOK ABOVE,HORN"),
  ("LATIN CAPITAL LETTER U WITH HORN AND ", "ACUTE,DOT BELOW,GRAVE,HOOK ABOVE,TILDE"),
  ("LATIN CAPITAL LETTER U WITH ", "INVERTED BREVE,MACRON,MACRON AND DIAERESIS,OGONEK"),
  ("LATIN CAPITAL LETTER U WITH ", "RING ABOVE,STROKE,TILDE,TILDE AND ACUTE,TILDE BELOW"),
  ("LATIN CAPITAL LETTER ", "UPSILON,V,V WITH DIAGONAL STROKE,V WITH DOT BELOW,V WITH HOOK"),
  ("LATIN CAPITAL LETTER ", "V WITH TILDE,VEND,VISIGOTHIC Z,VOLAPUK AE,VOLAPUK OE,VOLAPUK UE,VY,W"),
  ("LATIN CAPITAL LETTER W WITH ", "ACUTE,CIRCUMFLEX,DIAERESIS,DOT ABOVE,DOT BELOW,GRAVE,HOOK"),
  ("LATIN CAPITAL LETTER ", "WYNN,X,X WITH DIAERESIS,X WITH DOT ABOVE,Y"),
  ("LATIN CAPITAL LETTER Y WITH ", "ACUTE,CIRCUMFLEX,DIAERESIS,DOT ABOVE,DOT BELOW"),
  ("LATIN CAPITAL LETTER Y WITH ", "GRAVE,HOOK,HOOK ABOVE,LOOP,MACRON,STROKE,TILDE"),
  ("LATIN CAPITAL LETTER ", "YOGH,Z,Z WITH ACUTE,Z WITH CARON,Z WITH CIRCUMFLEX,Z WITH DESCENDER"),
  ("LATIN CAPITAL LETTER Z WITH ", "DOT ABOVE,DOT BELOW,HOOK,LINE BELOW,PALATAL HOOK,STROKE"),
  ("LATIN C", "APITAL LETTER Z WITH SWASH TAIL,APITAL LIGATURE IJ,APITAL LIGATURE OE,ROSS"),
  ("LATIN EPIGRAPHIC LETTER ", "ARCHAIC M,I LONGA,INVERTED M,REVERSED F,REVERSED P,SIDEWAYS I"),
  ("LATIN LETTER ", "AIN,ALVEOLAR CLICK,BIDENTAL PERCUSSIVE,BILABIAL CLICK,BILABIAL PERCUSSIVE"),
  ("LATIN LETTER ", "DENTAL CLICK,GLOTTAL STOP,GLOTTAL STOP WITH STROKE"),
  ("LATIN LETTER INVERTED GLOTTAL STOP", ", WITH CURL, WITH STROKE"),
  ("LATIN LETTER ", "LATERAL CLICK,PHARYNGEAL VOICED FRICATIVE"),
  ("LATIN LETTER RETROFLEX CLICK", ", WITH RETROFLEX HOOK"),
  ("LATIN LETTER ", "REVERSED ESH LOOP,REVERSED GLOTTAL STOP WITH STROKE,SINOLOGICAL DOT"),
  ("LATIN LETTER SMALL CAPITAL ", "A,AE,B,BARRED B,C,D,E,ETH,EZH,F,G,G WITH HOOK,H,I,INVERTED R,J"),
  ("LATIN LETTER SMALL CAPITAL ", "K,L,L WITH BELT,L WITH STROKE,M,N,O,OE,OPEN O,OU,P,Q"),
  ("LATIN LETTER SMALL CAPITAL R", ", WITH RIGHT LEG,EVERSED N,EVERSED R,UM"),
  ("LATIN LETTER SMALL CAPITAL ", "S,T,TURNED E,TURNED G,TURNED K,TURNED M,TURNED R,U,V,W,Y,Z"),
  ("LATIN LETTER ", "STRETCHED C,STRETCHED C WITH CURL,TWO WITH STROKE,VOICED LARYNGEAL SPIRANT"),
  ("LATIN ", "LETTER WYNN,LETTER YR,SMALL CAPITAL LETTER I WITH STROKE"),
  ("LATIN SMALL ", "CAPITAL LETTER U WITH STROKE,LETTER A,LETTER A REVERSED-SCHWA"),
  ("LATIN SMALL LETTER A WITH ", "ACUTE,BREVE,BREVE AND ACUTE,BREVE AND DOT BELOW,BREVE AND GRAVE"),
  ("LATIN SMALL LETTER A WITH ", "BREVE AND HOOK ABOVE,BREVE AND TILDE,CARON,CIRCUMFLEX"),
  ("LATIN SMALL LETTER A WITH CIRCUMFLEX AND ", "ACUTE,DOT BELOW,GRAVE,HOOK ABOVE,TILDE"),
  ("LATIN SMALL LETTER A WITH D", "IAERESIS,IAERESIS AND MACRON,OT ABOVE,OT ABOVE AND MACRON"),
  ("LATIN SMALL LETTER A WITH ", "DOT BELOW,DOUBLE GRAVE,GRAVE,HOOK ABOVE,INVERTED BREVE,MACRON"),
  ("LATIN SMALL LETTER A WITH ", "OGONEK,RETROFLEX HOOK,RIGHT HALF RING,RING ABOVE"),
  ("LATIN SMALL LETTER A WITH ", "RING ABOVE AND ACUTE,RING BELOW,STROKE,TILDE"),
  ("LATIN SMALL LETTER A", "A,E,E WITH ACUTE,E WITH MACRON,LPHA,LPHA WITH RETROFLEX HOOK"),
  ("LATIN SMALL LETTER ", "ANGLICANA W,AO,AU,AV,AV WITH HORIZONTAL BAR,AY,B,B WITH DOT ABOVE"),
  ("LATIN SMALL LETTER B WITH ", "DOT BELOW,FLOURISH,HOOK,LINE BELOW,MIDDLE TILDE,PALATAL HOOK"),
  ("LATIN SMALL LETTER B", " WITH STROKE, WITH TOPBAR,ARRED ALPHA,ARRED E,ARRED O,ASELINE ESH,ETA"),
  ("LATIN SMALL LETTER B", "LACKLETTER E,LACKLETTER O,LACKLETTER O WITH STROKE,OTTOM HALF O"),
  ("LATIN SMALL LETTER ", "BROKEN L,C,C WITH ACUTE,C WITH BAR,C WITH CARON,C WITH CEDILLA"),
  ("LATIN SMALL LETTER C WITH ", "CEDILLA AND ACUTE,CIRCUMFLEX,CURL,DOT ABOVE,HOOK,PALATAL HOOK"),
  ("LATIN SMALL LETTER C", " WITH RETROFLEX HOOK, WITH STROKE,HI,HI WITH LOW LEFT SERIF"),
  ("LATIN SMALL LETTER C", "HI WITH LOW RIGHT RING,LOSED INSULAR G,LOSED OMEGA,LOSED OPEN E"),
  ("LATIN SMALL LETTER ", "CLOSED REVERSED OPEN E,CON,CUATRILLO,CUATRILLO WITH COMMA,D"),
  ("LATIN SMALL LETTER D WITH C", "ARON,EDILLA,IRCUMFLEX BELOW,URL"),
  ("LATIN SMALL LETTER D WITH ", "DOT ABOVE,DOT BELOW,HOOK,HOOK AND TAIL,LINE BELOW,MIDDLE TILDE"),
  ("LATIN SMALL LETTER D WITH ", "PALATAL HOOK,SHORT STROKE OVERLAY,STROKE,TAIL,TOPBAR"),
  ("LATIN SMALL LETTER D", "B DIGRAPH,ELTA,EZH DIGRAPH,EZH DIGRAPH WITH PALATAL HOOK"),
  ("LATIN SMALL LETTER D", "EZH DIGRAPH WITH RETROFLEX HOOK,OTLESS I"),
  ("LATIN SMALL LETTER DO", "TLESS J,TLESS J WITH STROKE,TLESS J WITH STROKE AND HOOK,UBLE R"),
  ("LATIN SMALL LETTER D", "OUBLE R WITH CROSSED-TAIL,OUBLE THORN,OUBLE WYNN,UM,Z,Z DIGRAPH"),
  ("LATIN SMALL LETTER ", "DZ DIGRAPH WITH CURL,DZ DIGRAPH WITH RETROFLEX HOOK,DZ WITH CARON,E"),
  ("LATIN SMALL LETTER E WITH ", "ACUTE,BREVE,CARON,CEDILLA,CEDILLA AND BREVE,CIRCUMFLEX"),
  ("LATIN SMALL LETTER E WITH CIRCUMFLEX AND ", "ACUTE,DOT BELOW,GRAVE,HOOK ABOVE,TILDE"),
  ("LATIN SMALL LETTER E WITH ", "CIRCUMFLEX BELOW,DIAERESIS,DOT ABOVE,DOT BELOW,DOUBLE GRAVE"),
  ("LATIN SMALL LETTER E WITH ", "FLOURISH,GRAVE,HOOK ABOVE,INVERTED BREVE,MACRON"),
  ("LATIN SMALL LETTER E WITH ", "MACRON AND ACUTE,MACRON AND GRAVE,NOTCH,OGONEK,RETROFLEX HOOK"),
  ("LATIN SMALL LETTER E", " WITH STROKE, WITH TILDE, WITH TILDE BELOW,GYPTOLOGICAL AIN"),
  ("LATIN SMALL LETTER E", "GYPTOLOGICAL ALEF,NG,NG WITH CROSSED-TAIL,NG WITH PALATAL HOOK,SH"),
  ("LATIN SMALL LETTER ESH WITH ", "CURL,DOUBLE BAR,DOUBLE BAR AND CURL,PALATAL HOOK"),
  ("LATIN SMALL LETTER E", "SH WITH RETROFLEX HOOK,T,TH,ZH,ZH REVERSED"),
  ("LATIN SMALL LETTER EZH WITH ", "CARON,CURL,PALATAL HOOK,RETROFLEX HOOK,TAIL"),
  ("LATIN SMALL LETTER F", ", WITH DOT ABOVE, WITH HOOK, WITH MIDDLE TILDE, WITH PALATAL HOOK"),
  ("LATIN SMALL LETTER ", "F WITH STROKE,FENG DIGRAPH,FENG DIGRAPH WITH TRILL,G"),
  ("LATIN SMALL LETTER G WITH ", "ACUTE,BREVE,CARON,CEDILLA,CIRCUMFLEX,DOT ABOVE"),
  ("LATIN SMALL LETTER G WITH ", "HOOK,MACRON,OBLIQUE STROKE,PALATAL HOOK,STROKE"),
  ("LATIN SMALL LETTER ", "GAMMA,GHA,GLOTTAL A,GLOTTAL I,GLOTTAL STOP,GLOTTAL U,H"),
  ("LATIN SMALL LETTER H WITH ", "BREVE BELOW,CARON,CEDILLA,CIRCUMFLEX,DESCENDER,DIAERESIS"),
  ("LATIN SMALL LETTER H WITH ", "DOT ABOVE,DOT BELOW,HOOK,LINE BELOW,PALATAL HOOK,STROKE"),
  ("LATIN SMALL LETTER ", "HALF H,HENG,HENG WITH HOOK,HV,I,I WITH ACUTE,I WITH BREVE,I WITH CARON"),
  ("LATIN SMALL LETTER I WITH ", "CIRCUMFLEX,DIAERESIS,DIAERESIS AND ACUTE,DOT BELOW,DOUBLE GRAVE"),
  ("LATIN SMALL LETTER I WITH ", "GRAVE,HOOK ABOVE,INVERTED BREVE,MACRON,OGONEK,RETROFLEX HOOK"),
  ("LATIN SMALL LETTER I WITH ", "STROKE,STROKE AND RETROFLEX HOOK,TILDE,TILDE BELOW"),
  ("LATIN SMALL LETTER INSULAR ", "D,F,G,R,S,T"),
  ("LATIN SMALL LETTER I", "NVERTED ALPHA,NVERTED OE,OTA,OTA WITH STROKE,OTIFIED E,S"),
  ("LATIN SMALL LETTER ", "J,J WITH CARON,J WITH CIRCUMFLEX,J WITH CROSSED-TAIL,J WITH STROKE,K"),
  ("LATIN SMALL LETTER K WITH ", "ACUTE,CARON,CEDILLA,DESCENDER,DIAGONAL STROKE,DOT BELOW,HOOK"),
  ("LATIN SMALL LETTER K WITH ", "LINE BELOW,OBLIQUE STROKE,PALATAL HOOK,STROKE"),
  ("LATIN SMALL LETTER ", "K WITH STROKE AND DIAGONAL STROKE,KRA,L,L WITH ACUTE,L WITH BAR"),
  ("LATIN SMALL LETTER L WITH ", "BELT,BELT AND PALATAL HOOK,CARON,CEDILLA,CIRCUMFLEX BELOW,CURL"),
  ("LATIN SMALL LETTER L WITH DO", "T BELOW,T BELOW AND MACRON,UBLE BAR,UBLE MIDDLE TILDE"),
  ("LATIN SMALL LETTER L WITH ", "FISHHOOK,HIGH STROKE,INVERTED LAZY S,LINE BELOW"),
  ("LATIN SMALL LETTER L WITH MIDDLE ", "DOT,RING,TILDE"),
  ("LATIN SMALL LETTER L WITH ", "PALATAL HOOK,RETROFLEX HOOK,RETROFLEX HOOK AND BELT,STROKE"),
  ("LATIN SMALL LETTER L", "AMBDA WITH STROKE,ENIS F,EZH,EZH WITH RETROFLEX HOOK,J,ONG S"),
  ("LATIN SMALL LETTER LONG S WITH ", "DIAGONAL STROKE,DOT ABOVE,HIGH STROKE"),
  ("LATIN SMALL LETTER ", "LS DIGRAPH,LUM,LZ DIGRAPH,M,M WITH ACUTE"),
  ("LATIN SMALL LETTER M WITH ", "CROSSED-TAIL,DOT ABOVE,DOT BELOW,HOOK,MIDDLE TILDE,PALATAL HOOK"),
  ("LATIN SMALL LETTER MIDDLE", " SCOTS S,-WELSH LL,-WELSH V"),
  ("LATIN SMALL LETTER ", "MUM,N,N PRECEDED BY APOSTROPHE,N WITH ACUTE"),
  ("LATIN SMALL LETTER N WITH ", "CARON,CEDILLA,CIRCUMFLEX BELOW,CROSSED-TAIL,CURL,DESCENDER"),
  ("LATIN SMALL LETTER N WITH ", "DOT ABOVE,DOT BELOW,GRAVE,LEFT HOOK,LINE BELOW,LONG RIGHT LEG"),
  ("LATIN SMALL LETTER N WITH ", "MIDDLE TILDE,OBLIQUE STROKE,PALATAL HOOK,RETROFLEX HOOK,TILDE"),
  ("LATIN SMALL LETTER ", "NJ,NUM,O,O WITH ACUTE,O WITH BREVE,O WITH CARON,O WITH CIRCUMFLEX"),
  ("LATIN SMALL LETTER O WITH CIRCUMFLEX AND ", "ACUTE,DOT BELOW,GRAVE,HOOK ABOVE,TILDE"),
  ("LATIN SMALL LETTER O WITH D", "IAERESIS,IAERESIS AND MACRON,OT ABOVE,OT ABOVE AND MACRON"),
  ("LATIN SMALL LETTER O WITH ", "DOT BELOW,DOUBLE ACUTE,DOUBLE GRAVE,GRAVE,HOOK ABOVE,HORN"),
  ("LATIN SMALL LETTER O WITH HORN AND ", "ACUTE,DOT BELOW,GRAVE,HOOK ABOVE,TILDE"),
  ("LATIN SMALL LETTER O WITH ", "INVERTED BREVE,LONG STROKE OVERLAY,LOOP,LOW RING INSIDE,MACRON"),
  ("LATIN SMALL LETTER O WITH ", "MACRON AND ACUTE,MACRON AND GRAVE,OGONEK,OGONEK AND MACRON"),
  ("LATIN SMALL LETTER O WITH ", "RETROFLEX HOOK,STROKE,STROKE AND ACUTE,TILDE,TILDE AND ACUTE"),
  ("LATIN SMALL LETTER O", " WITH TILDE AND DIAERESIS, WITH TILDE AND MACRON,I,LD POLISH O,MEGA,O"),
  ("LATIN SMALL LETTER OPEN ", "E,E WITH RETROFLEX HOOK,O,O WITH RETROFLEX HOOK,O WITH STROKE,OE"),
  ("LATIN SMALL LETTER ", "OU,P,P WITH ACUTE,P WITH DOT ABOVE"),
  ("LATIN SMALL LETTER P WITH ", "FLOURISH,HOOK,MIDDLE TILDE,PALATAL HOOK,SQUIRREL TAIL,STROKE"),
  ("LATIN SMALL LETTER ", "P WITH STROKE THROUGH DESCENDER,PHI,Q,Q WITH DIAGONAL STROKE"),
  ("LATIN SMALL LETTER Q", " WITH HOOK, WITH HOOK TAIL, WITH STROKE THROUGH DESCENDER,P DIGRAPH"),
  ("LATIN SMALL LETTER R", ", ROTUNDA, WITH ACUTE, WITH CARON, WITH CEDILLA, WITH CROSSED-TAIL"),
  ("LATIN SMALL LETTER R WITH DO", "T ABOVE,T BELOW,T BELOW AND MACRON,UBLE GRAVE"),
  ("LATIN SMALL LETTER R WITH FISHHOOK", ", AND MIDDLE TILDE, AND PALATAL HOOK"),
  ("LATIN SMALL LETTER R WITH ", "INVERTED BREVE,LINE BELOW,LONG LEG,MIDDLE TILDE,OBLIQUE STROKE"),
  ("LATIN SMALL LETTER R", " WITH PALATAL HOOK, WITH STROKE, WITH TAIL, WITHOUT HANDLE,AMS HORN"),
  ("LATIN SMALL LETTER REVERSED ", "C,C WITH DOT,E,ENG,HALF H,K,OPEN E,OPEN E WITH HOOK"),
  ("LATIN SMALL LETTER REVERSED ", "OPEN E WITH RETROFLEX HOOK,R WITH FISHHOOK,SCRIPT G"),
  ("LATIN SMALL LETTER ", "RUM,RUM ROTUNDA,S,S WITH ACUTE,S WITH ACUTE AND DOT ABOVE"),
  ("LATIN SMALL LETTER S WITH C", "ARON,ARON AND DOT ABOVE,EDILLA,IRCUMFLEX,OMMA BELOW,URL"),
  ("LATIN SMALL LETTER S WITH ", "DOT ABOVE,DOT BELOW,DOT BELOW AND DOT ABOVE,HOOK,MIDDLE TILDE"),
  ("LATIN SMALL LETTER S WITH ", "OBLIQUE STROKE,PALATAL HOOK,SHORT STROKE OVERLAY,SWASH TAIL"),
  ("LATIN SMALL LETTER S", "AKHA YAT,ALTILLO,CHWA,CHWA WITH HOOK,CHWA WITH RETROFLEX HOOK,CRIPT G"),
  ("LATIN SMALL LETTER S", "CRIPT G WITH CROSSED-TAIL,CRIPT R,CRIPT R WITH RING,HARP S"),
  ("LATIN SMALL LETTER SIDEWAYS ", "DIAERESIZED U,O,O WITH STROKE,OPEN O,TURNED M,U"),
  ("LATIN SMALL LETTER ", "SIGMOID S,SQUAT REVERSED ESH,STIRRUP R,T"),
  ("LATIN SMALL LETTER T WITH C", "ARON,EDILLA,IRCUMFLEX BELOW,OMMA BELOW,URL"),
  ("LATIN SMALL LETTER T WITH ", "DIAERESIS,DIAGONAL STROKE,DOT ABOVE,DOT BELOW,HOOK"),
  ("LATIN SMALL LETTER T WITH ", "HOOK AND RETROFLEX HOOK,LINE BELOW,MIDDLE TILDE,PALATAL HOOK"),
  ("LATIN SMALL LETTER T", " WITH RETROFLEX HOOK, WITH STROKE,AILLESS PHI,C DIGRAPH WITH CURL"),
  ("LATIN SMALL LETTER TESH DIGRAPH", ", WITH PALATAL HOOK, WITH RETROFLEX HOOK"),
  ("LATIN SMALL LETTER TH", " WITH STRIKETHROUGH,ORN,ORN WITH STROKE"),
  ("LATIN SMALL LETTER T", "HORN WITH STROKE THROUGH DESCENDER,ONE FIVE,ONE SIX,ONE TWO"),
  ("LATIN SMALL LETTER T", "OP HALF O,RESILLO,S DIGRAPH,S DIGRAPH WITH RETROFLEX HOOK,UM"),
  ("LATIN SMALL LETTER TURNED ", "A,AE,ALPHA,DELTA,E,G,H,H WITH FISHHOOK,H WITH FISHHOOK AND TAIL"),
  ("LATIN SMALL LETTER TURNED ", "I,INSULAR G,K,L,M,M WITH LONG LEG,O OPEN-O,O OPEN-O WITH STROKE"),
  ("LATIN SMALL LETTER TURNED ", "OE,OE WITH HORIZONTAL STROKE,OE WITH STROKE,OPEN E,R"),
  ("LATIN SMALL LETTER TURNED R WITH ", "HOOK,LONG LEG,LONG LEG AND RETROFLEX HOOK,MIDDLE TILDE"),
  ("LATIN SMALL LETTER TURNED ", "R WITH PALATAL HOOK,R WITH TAIL,T,T WITH CURL,UI,V,W,Y"),
  ("LATIN SMALL LETTER ", "TURNED Y WITH BELT,TZ,U,U BAR,U BAR WITH SHORT RIGHT LEG"),
  ("LATIN SMALL LETTER U WITH ", "ACUTE,BREVE,CARON,CIRCUMFLEX,CIRCUMFLEX BELOW"),
  ("LATIN SMALL LETTER U WITH DIAERESIS", ", AND ACUTE, AND CARON, AND GRAVE, AND MACRON, BELOW"),
  ("LATIN SMALL LETTER U WITH ", "DOT BELOW,DOUBLE ACUTE,DOUBLE GRAVE,GRAVE,HOOK ABOVE,HORN"),
  ("LATIN SMALL LETTER U WITH HORN AND ", "ACUTE,DOT BELOW,GRAVE,HOOK ABOVE,TILDE"),
  ("LATIN SMALL LETTER U WITH ", "INVERTED BREVE,LEFT HOOK,MACRON,MACRON AND DIAERESIS,OGONEK"),
  ("LATIN SMALL LETTER U WITH ", "RETROFLEX HOOK,RING ABOVE,SHORT RIGHT LEG,STROKE"),
  ("LATIN SMALL LETTER U WITH TILDE", ", AND ACUTE, BELOW"),
  ("LATIN SMALL LETTER ", "UE,UI,UM,UO,UPSILON,UPSILON WITH STROKE,V,V WITH CURL"),
  ("LATIN SMALL LETTER V WITH ", "DIAGONAL STROKE,DOT BELOW,HOOK,PALATAL HOOK,RIGHT HOOK,TILDE"),
  ("LATIN SMALL LETTER ", "VEND,VISIGOTHIC Z,VOLAPUK AE,VOLAPUK OE,VOLAPUK UE,VY,W,W WITH ACUTE"),
  ("LATIN SMALL LETTER W WITH ", "CIRCUMFLEX,DIAERESIS,DOT ABOVE,DOT BELOW,GRAVE,HOOK,RING ABOVE"),
  ("LATIN SMALL LETTER X", ", WITH DIAERESIS, WITH DOT ABOVE"),
  ("LATIN SMALL LETTER X WITH LONG LEFT LEG", ", AND LOW RIGHT RING, WITH SERIF"),
  ("LATIN SMALL LETTER ", "X WITH LOW RIGHT RING,X WITH PALATAL HOOK,Y"),
  ("LATIN SMALL LETTER Y WITH ", "ACUTE,CIRCUMFLEX,DIAERESIS,DOT ABOVE,DOT BELOW,GRAVE,HOOK"),
  ("LATIN SMALL LETTER Y WITH ", "HOOK ABOVE,LOOP,MACRON,RING ABOVE,SHORT RIGHT LEG,STROKE,TILDE"),
  ("LATIN SMALL LETTER ", "YOGH,Z,Z WITH ACUTE,Z WITH CARON"),
  ("LATIN SMALL LETTER Z WITH ", "CIRCUMFLEX,CURL,DESCENDER,DOT ABOVE,DOT BELOW,HOOK,LINE BELOW"),
  ("LATIN SMALL LETTER Z WITH ", "MIDDLE TILDE,PALATAL HOOK,RETROFLEX HOOK,STROKE,SWASH TAIL"),
  ("LATIN SMALL LIGATURE ", "FF,FFI,FFL,FI,FL,IJ,LONG S T,OE,ST"),
  ("LATIN SUBSCRIPT SMALL LETTER ", "A,E,H,I,J,K,L,M,N,O,P,R,S,SCHWA,T,U,V,X"),
  ("LE", "AF FLUTTERING IN WIND,AFY GREEN,DGER"),
  ("LEFT AND LOWER ", "AND RIGHT TRIANGULAR THREE QUARTERS BLOCK,ONE EIGHTH BLOCK"),
  ("LEFT AND RIGHT ", "DOUBLE TURNSTILE,TACK,TRIANGULAR HALF BLOCK"),
  ("LEFT AND UPPER ", "AND RIGHT TRIANGULAR THREE QUARTERS BLOCK,ONE EIGHTH BLOCK"),
  ("LEFT A", "NGER BUBBLE,NGLE BRACKET,NGLE BRACKET WITH DOT,RC LESS-THAN BRACKET"),
  ("LEFT ", "ARROW WITH CIRCLED PLUS,ARROW WITH SMALL CIRCLE,BARB DOWN RIGHT BARB DOWN HARPOON"),
  ("LEFT BARB ", "DOWN RIGHT BARB UP HARPOON,UP RIGHT BARB DOWN HARPOON,UP RIGHT BARB UP HARPOON"),
  ("LEFT BLACK ", "LENTICULAR BRACKET,TORTOISE SHELL BRACKET"),
  ("LEFT C", "EILING,LOSED ENTRY,ORNER BRACKET,URLY BRACKET,URLY BRACKET LOWER HOOK"),
  ("LEFT ", "CURLY BRACKET MIDDLE PIECE,CURLY BRACKET UPPER HOOK,DOTTED SUBSTITUTION BRACKET"),
  ("LEFT DOUBLE ", "ANGLE BRACKET,PARENTHESIS,QUOTATION MARK,WIGGLY FENCE"),
  ("LEFT ", "FISH TAIL,FIVE EIGHTHS BLOCK,FLOOR,HALF BLACK CIRCLE,HALF BLACK STAR,HALF BLOCK"),
  ("LEFT HALF CIRCLE", ", WITH DOT, WITH FOUR DOTS, WITH THREE DOTS, WITH TWO DOTS"),
  ("LEFT HALF ", "FOLDER,INVERSE MEDIUM SHADE AND RIGHT HALF BLOCK,MEDIUM SHADE,RUNNING MAN"),
  ("LEFT ", "HAND TELEPHONE RECEIVER,LOW PARAPHRASE BRACKET,LUGGAGE,MULTIMAP"),
  ("LEFT ", "NORMAL FACTOR SEMIDIRECT PRODUCT,ONE EIGHTH BLOCK,ONE QUARTER BLOCK,OUTER JOIN"),
  ("LEFT PARENTHESIS", ", EXTENSION, LOWER HOOK, UPPER HOOK"),
  ("LEFT RAISED OMISSION BRACKET", ""),
  ("LEFT RIGHT ARROW", ", THROUGH SMALL CIRCLE, WITH DOUBLE VERTICAL STROKE, WITH STROKE"),
  ("LEFT RIGHT ", "ARROW WITH VERTICAL STROKE,BLACK ARROW"),
  ("LEFT RIGHT DOUBLE ARROW", ", WITH STROKE, WITH VERTICAL STROKE"),
  ("LEFT RIGHT ", "OPEN-HEADED ARROW,SANS-SERIF ARROW,TRIANGLE-HEADED ARROW,WAVE ARROW"),
  ("LEFT ", "RIGHT WHITE ARROW,S-SHAPED BAG DELIMITER,SEMIDIRECT PRODUCT"),
  ("LEFT S", "EVEN EIGHTHS BLOCK,IDEWAYS U BRACKET,INGLE QUOTATION MARK,PEECH BUBBLE"),
  ("LEFT SQUARE BRACKET", ", EXTENSION, LOWER CORNER, UPPER CORNER, WITH DOUBLE STROKE"),
  ("LEFT SQUARE BRACKET WITH ", "QUILL,STROKE,TICK IN BOTTOM CORNER,TICK IN TOP CORNER,UNDERBAR"),
  ("LEFT ", "SUBSTITUTION BRACKET,TACK,THIRD WHITE RIGHT POINTING INDEX,THOUGHT BUBBLE"),
  ("LEFT T", "HREE EIGHTHS BLOCK,HREE QUARTERS BLOCK,ORTOISE SHELL BRACKET,RANSPOSITION BRACKET"),
  ("LEFT TRIANG", "LE BESIDE VERTICAL BAR,ULAR ONE QUARTER BLOCK"),
  ("LEFT ", "VERTICAL BAR WITH QUILL,VERTICAL BOX LINE,WHITE CORNER BRACKET,WHITE CURLY BRACKET"),
  ("LEFT WHITE ", "LENTICULAR BRACKET,PARENTHESIS,SQUARE BRACKET,TORTOISE SHELL BRACKET"),
  ("LEFT", " WIGGLY FENCE, WRITING HAND,-FACING ARMENIAN ETERNITY SIGN,-FACING FIST"),
  ("LEFT-", "FACING SVASTI SIGN,FACING SVASTI SIGN WITH DOTS,HANDED INTERLACED PENTAGRAM"),
  ("LEFT-POINTING ", "ANGLE BRACKET,CURVED ANGLE BRACKET,DOUBLE ANGLE QUOTATION MARK"),
  ("LEFT-", "POINTING MAGNIFYING GLASS,SHADED WHITE RIGHTWARDS ARROW,SIDE ARC ANTICLOCKWISE ARROW"),
  ("LEFT-TO-RIGHT ", "EMBEDDING,ISOLATE,MARK,OVERRIDE"),
  ("LEFTWARDS ARROW", ", ABOVE ALMOST EQUAL TO, ABOVE REVERSE ALMOST EQUAL TO"),
  ("LEFTWARDS ARROW ABOVE ", "REVERSE TILDE OPERATOR,SHORT RIGHTWARDS ARROW,TILDE OPERATOR"),
  ("LEFTWARDS ARROW ", "AND UPPER AND LOWER ONE EIGHTH BLOCK,FROM BAR,FROM BAR TO BLACK DIAMOND"),
  ("LEFTWARDS ARROW ", "OVER RIGHTWARDS ARROW,THROUGH LESS-THAN,THROUGH SUBSET,THROUGH X"),
  ("LEFTWARDS ARROW TO B", "AR,AR OVER RIGHTWARDS ARROW TO BAR,LACK DIAMOND"),
  ("LEFTWARDS ARROW WITH ", "DOTTED STEM,DOUBLE VERTICAL STROKE,EQUILATERAL ARROWHEAD,HOOK"),
  ("LEFTWARDS ARROW WITH ", "LARGE TRIANGLE ARROWHEAD,LOOP,MEDIUM TRIANGLE ARROWHEAD,NOTCHED TAIL"),
  ("LEFTWARDS ARROW WITH ", "PLUS BELOW,SMALL EQUILATERAL ARROWHEAD,SMALL TRIANGLE ARROWHEAD"),
  ("LEFTWARDS ARROW WITH ", "STROKE,TAIL,TAIL WITH DOUBLE VERTICAL STROKE"),
  ("LEFTWARDS ARROW WITH ", "TAIL WITH VERTICAL STROKE,TIP DOWNWARDS,TIP UPWARDS,VERTICAL STROKE"),
  ("LEFTWARDS ", "ARROW-TAIL,BACK-TILTED SHADOWED WHITE ARROW"),
  ("LEFTWARDS BLACK ", "ARROW,CIRCLED WHITE ARROW"),
  ("LEFTWARDS ", "BOTTOM-SHADED WHITE ARROW,COMPRESSED ARROW,DASHED ARROW"),
  ("LEFTWARDS DOUBLE ARROW", ", FROM BAR, WITH STROKE, WITH VERTICAL STROKE,-TAIL"),
  ("LEFTWARDS ", "DOUBLE DASH ARROW,FINGER-POST ARROW,FRONT-TILTED SHADOWED WHITE ARROW"),
  ("LEFTWARDS HA", "ND,RPOON OVER RIGHTWARDS HARPOON"),
  ("LEFTWARDS HARPOON WITH BARB DOWN ", "ABOVE RIGHTWARDS HARPOON WITH BARB DOWN,BELOW LONG DASH"),
  ("LEFTWARDS HARPOON WITH BARB DOWN", " FROM BAR, TO BAR,WARDS"),
  ("LEFTWARDS HARPOON WITH BARB UP ABOVE L", "EFTWARDS HARPOON WITH BARB DOWN,ONG DASH"),
  ("LEFTWARDS HARPOON WITH BARB UP ", "ABOVE RIGHTWARDS HARPOON WITH BARB UP,FROM BAR,TO BAR"),
  ("LEFTWARDS H", "ARPOON WITH BARB UPWARDS,EAVY ARROW,EAVY COMPRESSED ARROW"),
  ("LEFTWARDS ", "LEFT-SHADED WHITE ARROW,OPEN-HEADED ARROW,PAIRED ARROWS,QUADRUPLE ARROW"),
  ("LEFTWARDS ", "RIGHT-SHADED WHITE ARROW,ROCKET,SANS-SERIF ARROW,SQUARED ARROW,SQUIGGLE ARROW"),
  ("LEFTWARDS T", "OP SHADED WHITE ARROW,RIANGLE ARROWHEAD"),
  ("LEFTWARDS TRIANGLE-HEADED ARROW", ", OVER RIGHTWARDS TRIANGLE-HEADED ARROW, TO BAR"),
  ("LEFTWARDS TRIANGLE-HEADED ARROW WITH ", "BOLD SHAFT,DOUBLE HORIZONTAL STROKE"),
  ("LEFTWARDS TRIANGLE-HEADED ARROW WITH ", "DOUBLE VERTICAL STROKE,HEAVY SHAFT"),
  ("LEFTWARDS TRIANGLE-HEADED ARROW WITH LONG TIP ", "DOWNWARDS,UPWARDS"),
  ("LEFTWARDS TRIANGLE-HEADED ARROW WITH ", "MEDIUM SHAFT,NARROW SHAFT,VERY HEAVY SHAFT"),
  ("LEFTWARDS TRIANGLE-HEADED ", "DASHED ARROW,PAIRED ARROWS"),
  ("LEFTWARDS T", "RIPLE ARROW,RIPLE DASH ARROW,WO HEADED ARROW"),
  ("LEFTWARDS TWO-HEADED ARROW ", "FROM BAR,WITH DOUBLE VERTICAL STROKE"),
  ("LEFTWARDS TWO-HEADED ARROW WITH TAIL", ", WITH DOUBLE VERTICAL STROKE, WITH VERTICAL STROKE"),
  ("LEFTWARDS TWO-HEADED ARROW WITH ", "TRIANGLE ARROWHEADS,VERTICAL STROKE"),
  ("LEFTWARDS ", "TWO-HEADED TRIPLE DASH ARROW,WAVE ARROW,WHITE ARROW"),
  ("LE", "FTWARDS WHITE ARROW WITHIN TRIANGLE ARROWHEAD,G,MON,O,OPARD"),
  ("LEPCHA CONSONANT SIGN ", "K,KANG,L,M,N,NYIN-DO,P,R,T"),
  ("LEPCHA DIGIT ", "EIGHT,FIVE,FOUR,NINE,ONE,SEVEN,SIX,THREE,TWO,ZERO"),
  ("LEPCHA LETTER ", "A,BA,BLA,CA,CHA,DA,DDA,DZA,FA,FLA,GA,GLA,HA,HLA,JA,KA,KHA,KLA,LA,MA,MLA,NA"),
  ("LEPCHA LETTER ", "NGA,NYA,PA,PHA,PLA,RA,SA,SHA,TA,THA,TSA,TSHA,TTA,TTHA,VA,WA,YA"),
  ("LEPCHA PUNCTUATION ", "CER-WA,NYET THYOOM TA-ROL,TA-ROL,TSHOOK,TSHOOK CER-WA"),
  ("LEPCHA S", "IGN NUKTA,IGN RAN,UBJOINED LETTER RA,UBJOINED LETTER YA"),
  ("LEPCHA VOWEL SIGN ", "AA,E,I,O,OO,U,UU"),
  ("LESS-THAN ABOVE ", "DOUBLE-LINE EQUAL ABOVE GREATER-THAN,GREATER-THAN ABOVE DOUBLE-LINE EQUAL"),
  ("LESS-THAN ABOVE ", "LEFTWARDS ARROW,SIMILAR ABOVE GREATER-THAN,SIMILAR OR EQUAL"),
  ("LESS-THAN A", "BOVE SLANTED EQUAL ABOVE GREATER-THAN ABOVE SLANTED EQUAL,ND NOT APPROXIMATE"),
  ("LESS-THAN ", "AND SINGLE-LINE NOT EQUAL TO,BUT NOT EQUAL TO,BUT NOT EQUIVALENT TO"),
  ("LESS-THAN ", "CLOSED BY CURVE,CLOSED BY CURVE ABOVE SLANTED EQUAL,EQUAL TO OR GREATER-THAN"),
  ("LESS-THAN OR ", "APPROXIMATE,EQUAL TO,EQUIVALENT TO,GREATER-THAN,SLANTED EQUAL TO"),
  ("LESS-THAN OR SLANTED EQUAL TO WITH DOT ", "ABOVE,ABOVE RIGHT,INSIDE"),
  ("LESS-THAN ", "OVER EQUAL TO,SIGN,WITH CIRCLE INSIDE,WITH DOT,WITH QUESTION MARK ABOVE"),
  ("L", "EVEL SLIDER,F,IBRA,IGATURE OPEN ET ORNAMENT,IGHT CHECK MARK,IGHT EIGHT SPOKED ASTERISK"),
  ("LIGHT F", "IVE POINTED BLACK STAR,IVE SPOKED ASTERISK,OUR POINTED BLACK CUSP"),
  ("LIGHT ", "FOUR POINTED BLACK STAR,GREEK CROSS,LEFT TORTOISE SHELL BRACKET ORNAMENT"),
  ("LIGHT ", "RAIL,RIGHT TORTOISE SHELL BRACKET ORNAMENT,SALTIRE,SHADE,SIX SPOKED ASTERISK"),
  ("LIGHT ", "THREE POINTED BLACK STAR,TWELVE POINTED BLACK STAR,VERTICAL BAR,WHITE SQUARE"),
  ("LIGHTNING", ", MOOD, MOOD BUBBLE"),
  ("LIMBU DIGIT ", "EIGHT,FIVE,FOUR,NINE,ONE,SEVEN,SIX,THREE,TWO,ZERO"),
  ("LIMBU ", "EXCLAMATION MARK,LETTER BA,LETTER BHA,LETTER CA,LETTER CHA,LETTER DA,LETTER DHA"),
  ("LIMBU LETTER ", "GA,GHA,GYAN,HA,JA,JHA,KA,KHA,LA,MA,NA,NGA,PA,PHA,RA,SA,SHA,SSA,TA,THA,TRA,WA"),
  ("LIMBU ", "LETTER YA,LETTER YAN,QUESTION MARK,SIGN KEMPHRENG,SIGN LOO,SIGN MUKPHRENG,SIGN SA-I"),
  ("LIMBU SMALL LETTER ", "ANUSVARA,KA,LA,MA,NA,NGA,PA,RA,TA"),
  ("LIMBU SUBJOINED LETTER ", "RA,WA,YA"),
  ("LIMBU VOWEL SIGN ", "A,AI,AU,E,EE,I,O,OO,U"),
  ("LI", "MBU VOWEL-CARRIER LETTER,MITED LIABILITY SIGN,NE FEED"),
  ("LINE INTEGRATION ", "NOT INCLUDING THE POLE,WITH RECTANGULAR PATH AROUND POLE"),
  ("LINE ", "INTEGRATION WITH SEMICIRCULAR PATH AROUND POLE,SEPARATOR,TABULATION,TABULATION SET"),
  ("LINEAR A SIGN A", "028B,100-102,120B,131C,301,302,303,304,305"),
  ("LINEAR A SIGN A3", "06,07,08,09A,09B,09C,10,11,12,13A,13B,13C,14,15,16,17,18,19,20,21,22,23"),
  ("LINEAR A SIGN A3", "24,25,26,27,28,29,30,31,32,33,34,35,36,37,38,39,40,41,42,43,44,45,46,47"),
  ("LINEAR A SIGN A3", "48,49,50,51,52,53,54,55,56,57,58,59,60,61,62,63,64,65,66,67,68,69,70,71"),
  ("LINEAR A SIGN A40", "0-VAS,1-VAS,2-VAS,3-VAS,4-VAS,5-VAS,6-VAS,7-VAS,8-VAS,9-VAS"),
  ("LINEAR A SIGN A41", "0-VAS,1-VAS,2-VAS,3-VAS,4-VAS,5-VAS,6-VAS,7-VAS,8-VAS"),
  ("LINEAR A SIGN A5", "01,02,03,04,05,06,08,09,10,11,12,13,15,16,20,21,23,24,25,26,27,28,29,30"),
  ("LINEAR A SIGN A5", "31,32,34,35,36,37,38,39,40,41,42,45,47,48,49,50,51,52,53,54,55,56,57,59"),
  ("LINEAR A SIGN A5", "63,64,65,66,68,69,70,71,72,73,74,75,76,77,78,79,80,81,82,83,84,85,86,87"),
  ("LINEAR A SIGN A", "588,589,591,592,594,595,596,598,600,601,602,603"),
  ("LINEAR A SIGN A6", "04,06,08,09,10,11,12,13,14,15,16,17,18,19,20,21,22,23,24,26,27,28,29,34"),
  ("LINEAR A SIGN A6", "37,38,40,42,43,44,45,46,48,49,51,52,53,54,55,56,57,58,59,60,61,62,63,64"),
  ("LINEAR A SIGN A70", "1 A,2 B,3 D,4 E,5 F,6 H,7 J,8 K,9 L,9-2 L2,9-3 L3,9-4 L4,9-6 L6"),
  ("LINEAR A SIGN A7", "10 W,11 X,12 Y,13 OMEGA,14 ABB,15 BB,17 DD,26 EYYY,32 JE"),
  ("LINEAR A SIGN A80", "0,1,2,3,4,5,6,7"),
  ("LINEAR A SIGN AB0", "01,02,03,04,05,06,07,08,09,10,11,13,16,17,20,21,21F,21M,22,22F,22M,23"),
  ("LINEAR A SIGN AB0", "23M,24,26,27,28,29,30,31,34,37,38,39,40,41,44,45,46,47,48,49,50,51,53,54"),
  ("LINEAR A SIGN AB0", "55,56,57,58,59,60,61,65,66,67,69,70,73,74,76,77,78,79,80,81,82,85,86,87"),
  ("LINEAR A SIGN AB1", "18,20,22,23,31A,31B,64,71,80,88,91"),
  ("LINEAR B IDEOGRAM B10", "0 MAN,2 WOMAN,4 DEER,5 EQUID,5F MARE,5M STALLION,6F EWE"),
  ("LINEAR B IDEOGRAM B10", "6M RAM,7F SHE-GOAT,7M HE-GOAT,8F SOW,8M BOAR,9F COW,9M BULL"),
  ("LINEAR B IDEOGRAM B12", "0 WHEAT,1 BARLEY,2 OLIVE,3 SPICE,5 CYPERUS"),
  ("LINEAR B IDEOGRAM B1", "30 OIL,31 WINE,32,40 BRONZE,41 GOLD,42,45 WOOL,46,50,51 HORN,52,53,54"),
  ("LINEAR B IDEOGRAM B1", "57,58,59 CLOTH,60,61,62 GARMENT,63 ARMOUR,64,65,66,67,68,69,70,71"),
  ("LINEAR B IDEOGRAM B1", "72,73 MONTH,74,76 TREE,77,78,79,80,81,82,83,84,85,89,90,91 HELMET"),
  ("LINEAR B IDEOGRAM B2", "20 FOOTSTOOL,25 BATHTUB,30 SPEAR,31 ARROW,32,33 SWORD,34,36"),
  ("LINEAR B IDEOGRAM B24", "0 WHEELED CHARIOT,1 CHARIOT,2 CHARIOT FRAME,3 WHEEL,5,6,8,9"),
  ("LINEAR B IDEOGRAM B25", "1,2,3,4 DART,5,6,7,8,9"),
  ("LINEAR B IDEOGRAM VESSEL B", "155,200,201,202,203,204,205,206,207,208,209,210,211,212,213,214"),
  ("LINEAR B IDEOGRAM VESSEL B", "215,216,217,218,219,221,222,226,227,228,229,250,305"),
  ("LINEAR B MONOGRAM B", "127 KAPO,128 KANAKO,133 AREPA,135 MERI,156 TURO2,247 DIPTE"),
  ("LINEAR B SYLLABLE B00", "1 DA,2 RO,3 PA,4 TE,5 TO,6 NA,7 DI,8 A,9 SE"),
  ("LINEAR B SYLLABLE B0", "10 U,11 PO,12 SO,13 ME,14 DO,15 MO,16 QA,17 ZA,20 ZO,21 QI,23 MU"),
  ("LINEAR B SYLLABLE B0", "24 NE,25 A2,26 RU,27 RE,28 I,29 PU2,30 NI,31 SA,32 QO,33 RA3,36 JO"),
  ("LINEAR B SYLLABLE B0", "37 TI,38 E,39 PI,40 WI,41 SI,42 WO,43 A3,44 KE,45 DE,46 JE,48 NWA"),
  ("LINEAR B SYLLABLE B0", "50 PU,51 DU,52 NO,53 RI,54 WA,55 NU,57 JA,58 SU,59 TA,60 RA,61 O"),
  ("LINEAR B SYLLABLE B0", "62 PTE,65 JU,66 TA2,67 KI,68 RO2,69 TU,70 KO,71 DWE,72 PE,73 MI,74 ZE"),
  ("LINEAR B SYLLABLE B0", "75 WE,76 RA2,77 KA,78 QE,80 MA,81 KU,85 AU,87 TWE,90 DWO,91 TWO"),
  ("LINEAR B SYMBOL B0", "18,19,22,34,47,49,56,63,64,79,82,83,86,89"),
  ("LI", "NK SYMBOL,NKED PAPERCLIPS,ON FACE,PS,PSTICK,RA SIGN"),
  ("LISU LETTER ", "A,AE,BA,CA,CHA,DA,DZA,E,EU,FA,GA,GHA,HA,HHA,I,JA,KA,KHA,LA,MA,NA,NGA,O,OE"),
  ("LISU LETTER ", "PA,PHA,SA,SHA,TA,THA,TONE MYA BO,TONE MYA CYA,TONE MYA JEU,TONE MYA NA"),
  ("LISU LETTER ", "TONE MYA TI,TONE NA PO,TSA,TSHA,U,UE,UH,WA,XA,YA,YHA,ZA,ZHA"),
  ("L", "ISU PUNCTUATION COMMA,ISU PUNCTUATION FULL STOP,IVRE TOURNOIS SIGN,IZARD,LAMA"),
  ("LO", "BSTER,CK,CK WITH INK PEN,CKING-SHIFT ONE,CKING-SHIFT ZERO,GICAL AND"),
  ("LOGICAL AND WITH ", "DOT ABOVE,DOUBLE OVERBAR,DOUBLE UNDERBAR,HORIZONTAL DASH,MIDDLE STEM"),
  ("LOGICAL ", "AND WITH UNDERBAR,OR,OR OVERLAPPING LOGICAL AND"),
  ("LOGICAL OR WITH ", "DOT ABOVE,DOUBLE OVERBAR,DOUBLE UNDERBAR,HORIZONTAL DASH,MIDDLE STEM"),
  ("LO", "LLIPOP,NG DASH FROM LEFT MEMBER OF DOUBLE VERTICAL,NG DIVISION,NG DRUM"),
  ("LONG LEFT ", "RIGHT ARROW,RIGHT DOUBLE ARROW,TACK"),
  ("LONG LEFTWARDS ", "ARROW,ARROW FROM BAR,DOUBLE ARROW,DOUBLE ARROW FROM BAR,SQUIGGLE ARROW"),
  ("LONG RIGHT TACK", ""),
  ("LONG RIGHTWARDS ", "ARROW,ARROW FROM BAR,DOUBLE ARROW,DOUBLE ARROW FROM BAR,SQUIGGLE ARROW"),
  ("LO", "TION BOTTLE,TUS,UDLY CRYING FACE,VE HOTEL,VE LETTER,W ASTERISK"),
  ("LOW ", "BATTERY,BRIGHTNESS SYMBOL,DOUBLE PRIME QUOTATION MARK,KAVYKA,KAVYKA WITH DOT,LINE"),
  ("LOWER ", "BLADE SCISSORS,FIVE EIGHTHS BLOCK,HALF BLOCK,HALF CIRCLE,HALF INVERSE WHITE CIRCLE"),
  ("LOWER ", "HALF MEDIUM SHADE,LEFT BALLPOINT PEN"),
  ("LOWER LEFT BLOCK DIAGONAL LOWER MIDDLE LEFT TO LOWER ", "CENTRE,RIGHT"),
  ("LOWER LEFT BLOCK DIAGONAL UPPER CENTRE TO LOWER ", "MIDDLE RIGHT,RIGHT"),
  ("LOWER LEFT BLOCK DIAGONAL UPPER ", "CENTRE TO UPPER MIDDLE RIGHT,LEFT TO LOWER CENTRE"),
  ("LOWER LEFT BLOCK DIAGONAL UPPER LEFT TO ", "LOWER MIDDLE RIGHT,UPPER MIDDLE RIGHT"),
  ("LOWER LEFT BLOCK DIAGONAL UPPER MIDDLE LEFT TO LOWER ", "CENTRE,MIDDLE RIGHT,RIGHT"),
  ("LOWER LEFT ", "CRAYON,FOUNTAIN PEN,PAINTBRUSH,PENCIL,QUADRANT CIRCULAR ARC"),
  ("LOWER LEFT ", "SEMICIRCULAR ANTICLOCKWISE ARROW,TRIANGLE,TRIANGULAR MEDIUM SHADE"),
  ("LOWER ONE ", "EIGHTH BLOCK,QUARTER BLOCK"),
  ("LOWER RIGHT BLOCK DIAGONAL LOWER CENTRE TO ", "LOWER MIDDLE RIGHT,UPPER MIDDLE RIGHT"),
  ("LOWER RIGHT BLOCK DIAGONAL LOWER ", "CENTRE TO UPPER RIGHT,LEFT TO LOWER MIDDLE RIGHT"),
  ("LOWER RIGHT BLOCK DIAGONAL LOWER LEFT TO UPPER ", "CENTRE,MIDDLE RIGHT"),
  ("LOWER RIGHT BLOCK DIAGONAL LOWER MIDDLE LEFT TO UPPER ", "CENTRE,MIDDLE RIGHT,RIGHT"),
  ("LOWER RIGHT BLOCK DIAGONAL UPPER MIDDLE LEFT TO UPPER ", "CENTRE,RIGHT"),
  ("LOWER RIGHT ", "CORNER WITH DOT,DROP-SHADOWED WHITE SQUARE,PENCIL,QUADRANT CIRCULAR ARC"),
  ("LOWER RIGHT S", "EMICIRCULAR CLOCKWISE ARROW,HADOWED WHITE CIRCLE,HADOWED WHITE SQUARE"),
  ("LOWER ", "RIGHT TRIANGLE,RIGHT TRIANGULAR MEDIUM SHADE,SEVEN EIGHTHS BLOCK"),
  ("LOWER T", "HREE EIGHTHS BLOCK,HREE QUARTERS BLOCK,RIANGULAR ONE QUARTER BLOCK"),
  ("L", "OZENGE,OZENGE DIVIDED BY HORIZONTAL RULE,RE,RI,RM,RO,UGGAGE,UNGS"),
  ("LYCIAN LETTER ", "A,AN,B,BH,D,E,EN,G,H,I,J,K,KK,L,M,MM,N,NN,P,Q,R,S,T,TH,TT,U,W,X,Z"),
  ("LYDIAN LETTER ", "A,AN,B,C,D,E,EN,F,G,I,K,L,LY,M,N,NN,O,Q,R,S,SS,T,TT,U,V,Y"),
  ("LY", "DIAN TRIANGULAR MARK,ING FACE")]

end ModelBindings.Text.CharacterName
