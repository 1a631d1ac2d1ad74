/-!
# Character names that start with the letters from R to S
-/

set_option autoImplicit false

namespace ModelBindings.Text.CharacterName

/-- The character names that start with the letters from R to S, in groups. -/
def namesRToS : List (String × String) := [
  ("RA", "BBIT,BBIT FACE,CCOON,CING CAR,CING MOTORCYCLE,DICAL SYMBOL BOTTOM,DIO,DIO BUTTON"),
  ("RA", "DIOACTIVE SIGN,ILWAY CAR,ILWAY TRACK,IN,INBOW"),
  ("RAISED ", "BACK OF HAND,COMMA,DOT,DOTTED INTERPOLATION MARKER,FIST,HAND"),
  ("RAISED HAND WITH ", "FINGERS SPLAYED,PART BETWEEN MIDDLE AND RING FINGERS"),
  ("RAISED ", "INTERPOLATION MARKER,MC SIGN,MD SIGN,MR SIGN,SQUARE"),
  ("R", "AM,AT,ATIO,AZOR,ECEIPT,ECORD SEPARATOR,ECREATIONAL VEHICLE,ECYCLED PAPER SYMBOL"),
  ("RECYCLING SYMBOL FOR ", "GENERIC MATERIALS,TYPE-1 PLASTICS,TYPE-2 PLASTICS"),
  ("RECYCLING SYMBOL FOR TYPE-", "3 PLASTICS,4 PLASTICS,5 PLASTICS,6 PLASTICS,7 PLASTICS"),
  ("RE", "D APPLE,D GIFT ENVELOPE,FERENCE MARK"),
  ("REGIONAL INDICATOR SYMBOL LETTER ", "A,B,C,D,E,F,G,H,I,J,K,L,M,N,O,P,Q,R,S,T,U,V,W,X,Y,Z"),
  ("REGISTERED SIGN", ""),
  ("REJANG CONSONANT SIGN ", "H,N,NG,R"),
  ("REJANG LETTER ", "A,BA,CA,DA,GA,HA,JA,KA,LA,MA,MBA,NA,NDA,NGA,NGGA,NYA,NYJA,PA,RA,SA,TA,WA,YA"),
  ("REJANG ", "SECTION MARK,VIRAMA"),
  ("REJANG VOWEL SIGN ", "AI,AU,E,EA,EU,I,O,U"),
  ("RE", "LIEVED FACE,MINDER RIBBON,PLACEMENT CHARACTER,SPONSE"),
  ("RE", "STRICTED LEFT ENTRY-1,STRICTED LEFT ENTRY-2,STROOM,TURN LEFT,TURN RIGHT,TURN SYMBOL"),
  ("REVERSE ", "CHECKER BOARD,INDEX,LIGHT FOUR POINTED PINWHEEL STAR,LINE FEED"),
  ("REVERSE SOLIDUS", ", OPERATOR, PRECEDING SUBSET, WITH HORIZONTAL STROKE"),
  ("REVERSE TILDE OPERATOR ABOVE ", "LEFTWARDS ARROW,RIGHTWARDS ARROW"),
  ("REVERSED ", "ANGLE,ANGLE WITH UNDERBAR,COMMA"),
  ("REVERSED DOUBLE ", "PRIME,PRIME QUOTATION MARK,STROKE NOT SIGN"),
  ("REVERSED ", "EMPTY SET,FORKED PARAGRAPHOS,HAND WITH MIDDLE FINGER EXTENDED,NOT SIGN"),
  ("REVERSED ", "PILCROW SIGN,PRIME,QUESTION MARK,RAISED HAND WITH FINGERS SPLAYED,RIGHT ANGLE"),
  ("REVERSED ", "ROTATED FLORAL HEART BULLET,SANS-SERIF CAPITAL L,SEMICOLON,THUMBS DOWN SIGN"),
  ("REVERSED ", "THUMBS UP SIGN,TILDE,TILDE EQUALS,TRIPLE PRIME,VICTORY HAND"),
  ("R", "EVOLVING HEARTS,HINOCEROS,I,IAL SIGN,IBBON"),
  ("RIBBON ARROW ", "DOWN LEFT,DOWN RIGHT,LEFT DOWN,LEFT UP,RIGHT DOWN,RIGHT UP,UP LEFT,UP RIGHT"),
  ("RI", "CE BALL,CE CRACKER,FLE,GHT AND LOWER ONE EIGHTH BLOCK,GHT AND UPPER ONE EIGHTH BLOCK"),
  ("RIGHT ANG", "ER BUBBLE,LE,LE BRACKET,LE BRACKET WITH DOT,LE DOTTED SUBSTITUTION MARKER"),
  ("RIGHT ANGLE ", "SUBSTITUTION MARKER,VARIANT WITH SQUARE,WITH ARC,WITH DOWNWARDS ZIGZAG ARROW"),
  ("RIGHT AR", "C GREATER-THAN BRACKET,ROW WITH CIRCLED PLUS,ROW WITH SMALL CIRCLE"),
  ("RIGHT ", "BLACK LENTICULAR BRACKET,BLACK TORTOISE SHELL BRACKET,CEILING,CORNER BRACKET"),
  ("RIGHT CURLY BRACKET", ", LOWER HOOK, MIDDLE PIECE, UPPER HOOK"),
  ("RIGHT DO", "TTED SUBSTITUTION BRACKET,UBLE ANGLE BRACKET"),
  ("RIGHT DOUBLE ", "ARROW WITH ROUNDED HEAD,PARENTHESIS,QUOTATION MARK,WIGGLY FENCE"),
  ("RIGHT F", "ISH TAIL,IVE EIGHTHS BLOCK,LOOR"),
  ("RIGHT HALF ", "BLACK CIRCLE,BLACK STAR,BLOCK,FOLDER,MEDIUM SHADE,RUNNING MAN"),
  ("RIGHT ", "HAND TELEPHONE RECEIVER,LOW PARAPHRASE BRACKET,NORMAL FACTOR SEMIDIRECT PRODUCT"),
  ("RIGHT O", "NE EIGHTH BLOCK,NE QUARTER BLOCK,PEN SQUARED DOT,UTER JOIN"),
  ("RIGHT PARENTHESIS", ", EXTENSION, LOWER HOOK, UPPER HOOK"),
  ("RIGHT ", "RAISED OMISSION BRACKET,S-SHAPED BAG DELIMITER"),
  ("RIGHT S", "EMIDIRECT PRODUCT,EVEN EIGHTHS BLOCK,IDEWAYS U BRACKET,INGLE QUOTATION MARK"),
  ("RIGHT SPE", "AKER,AKER WITH ONE SOUND WAVE,AKER WITH THREE SOUND WAVES,ECH BUBBLE"),
  ("RIGHT SQUARE BRACKET", ", EXTENSION, LOWER CORNER, UPPER CORNER, WITH DOUBLE STROKE"),
  ("RIGHT SQUARE BRACKET WITH ", "QUILL,STROKE,TICK IN BOTTOM CORNER,TICK IN TOP CORNER,UNDERBAR"),
  ("RIGHT ", "SUBSTITUTION BRACKET,TACK,THIRD WHITE RIGHT POINTING INDEX,THOUGHT BUBBLE"),
  ("RIGHT T", "HREE EIGHTHS BLOCK,HREE QUARTERS BLOCK,ORTOISE SHELL BRACKET,RANSPOSITION BRACKET"),
  ("RIGHT TRIANG", "LE,LE ABOVE LEFT TRIANGLE,ULAR ONE QUARTER BLOCK"),
  ("RIGHT ", "VERTICAL BAR WITH QUILL,VERTICAL BOX LINE,WHITE CORNER BRACKET,WHITE CURLY BRACKET"),
  ("RIGHT WHITE ", "LENTICULAR BRACKET,PARENTHESIS,SQUARE BRACKET,TORTOISE SHELL BRACKET"),
  ("RIGHT", " WIGGLY FENCE,-FACING ARMENIAN ETERNITY SIGN,-FACING FIST,-FACING SVASTI SIGN"),
  ("RIGHT-", "FACING SVASTI SIGN WITH DOTS,HANDED INTERLACED PENTAGRAM,POINTING ANGLE BRACKET"),
  ("RIGHT-POINTING ", "CURVED ANGLE BRACKET,DOUBLE ANGLE QUOTATION MARK,MAGNIFYING GLASS"),
  ("RIGHT-", "SHADED WHITE RIGHTWARDS ARROW,SIDE ARC CLOCKWISE ARROW,TO-LEFT EMBEDDING"),
  ("RIGHT", "-TO-LEFT ISOLATE,-TO-LEFT MARK,-TO-LEFT OVERRIDE,HAND INTERIOR PRODUCT"),
  ("RIGHTWARDS ARROW", ", ABOVE ALMOST EQUAL TO, ABOVE REVERSE ALMOST EQUAL TO"),
  ("RIGHTWARDS ARROW ABOVE ", "REVERSE TILDE OPERATOR,SHORT LEFTWARDS ARROW,TILDE OPERATOR"),
  ("RIGHTWARDS ARROW ", "AND UPPER AND LOWER ONE EIGHTH BLOCK,FROM BAR,FROM BAR TO BLACK DIAMOND"),
  ("RIGHTWARDS ARROW ", "OVER LEFTWARDS ARROW,THROUGH GREATER-THAN,THROUGH SUPERSET,THROUGH X"),
  ("RIGHTWARDS ARROW TO B", "AR,LACK DIAMOND"),
  ("RIGHTWARDS ARROW WITH ", "CORNER DOWNWARDS,DOTTED STEM,DOUBLE VERTICAL STROKE"),
  ("RIGHTWARDS ARROW WITH ", "EQUILATERAL ARROWHEAD,HOOK,LARGE TRIANGLE ARROWHEAD,LOOP"),
  ("RIGHTWARDS ARROW WITH ", "MEDIUM TRIANGLE ARROWHEAD,NOTCHED TAIL,PLUS BELOW"),
  ("RIGHTWARDS ARROW WITH ", "SMALL EQUILATERAL ARROWHEAD,SMALL TRIANGLE ARROWHEAD,STROKE,TAIL"),
  ("RIGHTWARDS ARROW WITH TAIL WITH ", "DOUBLE VERTICAL STROKE,VERTICAL STROKE"),
  ("RIGHTWARDS ARROW", " WITH TIP DOWNWARDS, WITH TIP UPWARDS, WITH VERTICAL STROKE,-TAIL"),
  ("RIGHTWARDS B", "ACK-TILTED SHADOWED WHITE ARROW,LACK ARROW,LACK CIRCLED WHITE ARROW"),
  ("RIGHTWARDS ", "BOTTOM SHADED WHITE ARROW,COMPRESSED ARROW,DASHED ARROW"),
  ("RIGHTWARDS DOUBLE ARROW", ", FROM BAR, WITH STROKE, WITH VERTICAL STROKE,-TAIL"),
  ("RIGHTWARDS ", "DOUBLE DASH ARROW,FINGER-POST ARROW,FRONT-TILTED SHADOWED WHITE ARROW"),
  ("RIGHTWARDS HA", "ND,RPOON OVER LEFTWARDS HARPOON"),
  ("RIGHTWARDS HARPOON WITH BARB DOWN ", "ABOVE LEFTWARDS HARPOON WITH BARB DOWN,BELOW LONG DASH"),
  ("RIGHTWARDS HARPOON WITH BARB DOWN", " FROM BAR, TO BAR,WARDS"),
  ("RIGHTWARDS HARPOON WITH BARB UP ABOVE L", "EFTWARDS HARPOON WITH BARB UP,ONG DASH"),
  ("RIGHTWARDS HARPOON WITH BARB UP ", "ABOVE RIGHTWARDS HARPOON WITH BARB DOWN,FROM BAR,TO BAR"),
  ("RIGHTWARDS H", "ARPOON WITH BARB UPWARDS,EAVY ARROW,EAVY COMPRESSED ARROW"),
  ("RIGHTWARDS ", "LEFT-SHADED WHITE ARROW,OPEN-HEADED ARROW,PAIRED ARROWS,QUADRUPLE ARROW"),
  ("RIGHTWARDS ", "RIGHT-SHADED WHITE ARROW,ROCKET,SANS-SERIF ARROW,SQUARED ARROW,SQUIGGLE ARROW"),
  ("RIGHTWARDS T", "OP SHADED WHITE ARROW,RIANGLE ARROWHEAD"),
  ("RIGHTWARDS TRIANGLE-HEADED ARROW", ", OVER LEFTWARDS TRIANGLE-HEADED ARROW, TO BAR"),
  ("RIGHTWARDS TRIANGLE-HEADED ARROW WITH ", "BOLD SHAFT,DOUBLE HORIZONTAL STROKE"),
  ("RIGHTWARDS TRIANGLE-HEADED ARROW WITH ", "DOUBLE VERTICAL STROKE,HEAVY SHAFT"),
  ("RIGHTWARDS TRIANGLE-HEADED ARROW WITH LONG TIP ", "DOWNWARDS,UPWARDS"),
  ("RIGHTWARDS TRIANGLE-HEADED ARROW WITH ", "MEDIUM SHAFT,NARROW SHAFT,VERY HEAVY SHAFT"),
  ("RIGHTWARDS TRIANGLE-HEADED ", "DASHED ARROW,PAIRED ARROWS"),
  ("RIGHTWARDS T", "RIPLE ARROW,RIPLE DASH ARROW,WO HEADED ARROW"),
  ("RIGHTWARDS TWO-HEADED ARROW ", "FROM BAR,WITH DOUBLE VERTICAL STROKE"),
  ("RIGHTWARDS TWO-HEADED ARROW WITH TAIL", ", WITH DOUBLE VERTICAL STROKE, WITH VERTICAL STROKE"),
  ("RIGHTWARDS TWO-HEADED ARROW WITH ", "TRIANGLE ARROWHEADS,VERTICAL STROKE"),
  ("RIGHTWARDS ", "TWO-HEADED TRIPLE DASH ARROW,WAVE ARROW"),
  ("RIGHTWARDS WHITE ARROW", ", FROM WALL, WITHIN TRIANGLE ARROWHEAD"),
  ("RING", ", ABOVE, BUOY, EQUAL TO, IN EQUAL TO, OPERATOR, POINT,ED PLANET,ING BELL"),
  ("RISING DIAGONAL CROSSING ", "FALLING DIAGONAL,SOUTH EAST ARROW"),
  ("R", "LE,LI,LM,LO,OASTED SWEET POTATO,OBOT FACE,OCK,OCKET,OLL OF PAPER,OLLED-UP NEWSPAPER"),
  ("RO", "LLER COASTER,LLER SKATE,LLING ON THE FLOOR LAUGHING,MAN AS SIGN,MAN CENTURIAL SIGN"),
  ("ROMAN ", "DENARIUS SIGN,DIMIDIA SEXTULA SIGN,DUPONDIUS SIGN,NUMERAL EIGHT,NUMERAL ELEVEN"),
  ("ROMAN NUMERAL F", "IFTY,IFTY EARLY FORM,IFTY THOUSAND,IVE,IVE HUNDRED,IVE THOUSAND,OUR"),
  ("ROMAN NUMERAL ", "NINE,ONE,ONE HUNDRED,ONE HUNDRED THOUSAND,ONE THOUSAND,ONE THOUSAND C D"),
  ("ROMAN NUMERAL ", "REVERSED ONE HUNDRED,SEVEN,SIX,SIX LATE FORM,TEN,TEN THOUSAND,THREE,TWELVE"),
  ("ROMAN ", "NUMERAL TWO,QUINARIUS SIGN,SEMUNCIA SIGN,SESTERTIUS SIGN,SEXTANS SIGN,SEXTULA SIGN"),
  ("RO", "MAN SILIQUA SIGN,MAN UNCIA SIGN,OSTER,SE,SETTE,TATED CAPITAL Q"),
  ("ROTATED ", "FLORAL HEART BULLET,HEAVY BLACK HEART BULLET,LIGHT FOUR POINTED BLACK CUSP"),
  ("RO", "TATED WHITE FOUR POINTED CUSP,UND PUSHPIN,UND TARGET"),
  ("ROUNDED SYMBOL FOR ", "CAI,FU,LU,SHOU,SHUANGXI,XI"),
  ("R", "OWBOAT,S,UBLE SIGN,UGBY FOOTBALL,ULE-DELAYED"),
  ("RUMI DIGIT ", "EIGHT,FIVE,FOUR,NINE,ONE,SEVEN,SIX,THREE,TWO"),
  ("RUMI FRACTION ", "ONE HALF,ONE QUARTER,ONE THIRD,TWO THIRDS"),
  ("RUMI NUMBER ", "EIGHT HUNDRED,EIGHTY,FIFTY,FIVE HUNDRED,FORTY,FOUR HUNDRED,NINE HUNDRED"),
  ("RUMI NUMBER ", "NINETY,ONE HUNDRED,SEVEN HUNDRED,SEVENTY,SIX HUNDRED,SIXTY,TEN,THIRTY"),
  ("RU", "MI NUMBER THREE HUNDRED,MI NUMBER TWENTY,MI NUMBER TWO HUNDRED,NIC ARLAUG SYMBOL"),
  ("RUNIC ", "BELGTHOR SYMBOL,CROSS PUNCTUATION,LETTER AC A,LETTER AESC,LETTER ALGIZ EOLHX"),
  ("RUNIC LETTER ", "ANSUZ A,BERKANAN BEORC BJARKAN B,C,CALC,CEALC,CEN,CWEORTH,D,DAGAZ DAEG D"),
  ("RUNIC LETTER ", "DOTTED-L,DOTTED-N,DOTTED-P,E,EAR,EHWAZ EH E,ENG,ETH,FEHU FEOH FE F"),
  ("RUNIC LETTER FRANKS CASKET ", "AC,AESC,EH,IS,OS"),
  ("RUNIC LETTER ", "G,GAR,GEBO GYFU G,GER,HAEGL H,HAGLAZ H,ICELANDIC-YR,ING,INGWAZ,IOR"),
  ("RUNIC LETTER ", "ISAZ IS ISS I,IWAZ EOH,JERAN J,K,KAUN K,KAUNA,LAUKAZ LAGU LOGR L"),
  ("RUNIC LETTER LONG-BRANCH-", "AR AE,HAGALL H,MADR M,OSS O,YR"),
  ("RUNIC LETTER ", "MANNAZ MAN M,NAUDIZ NYD NAUD N,O,OE,ON,OO,OPEN-P,OS O,OTHALAN ETHEL O"),
  ("RUNIC LETTER ", "PERTHO PEORTH P,Q,RAIDO RAD REID R,SH"),
  ("RUNIC LETTER SHORT-TWIG-", "AR A,BJARKAN B,HAGALL H,MADR M,NAUD N,OSS O,SOL S,TYR T,YR"),
  ("RUNIC LETTER S", "IGEL LONG-BRANCH-SOL S,OWILO S,TAN"),
  ("RUNIC LETTER ", "THURISAZ THURS THORN,TIWAZ TIR TYR T,URUZ UR U,V,W,WUNJO WYNN W,X,Y,YR,Z"),
  ("RUNIC ", "MULTIPLE PUNCTUATION,SINGLE PUNCTUATION,TVIMADUR SYMBOL"),
  ("RU", "NNER,NNING SHIRT WITH SASH,PEE SIGN"),
  ("RUSSIAN ASTROLOGICAL SYMBOL ", "BINOVILE,NOVILE,QUINTILE,SENTAGON,TREDECILE,VIGINTILE"),
  ("S", " IN TRIANGLE,AFETY PIN,AFETY VEST,AGITTARIUS"),
  ("SA", "ILBOAT,KE BOTTLE AND CUP,LT SHAKER,LTIRE,LUTING FACE,MARITAN ABBREVIATION MARK"),
  ("SAMARITAN LETTER ", "ALAF,BAA,BIT,DALAT,FI,GAMAN,IN,IT,IY,KAAF,LABAT,MIM,NUN,QUF,RISH,SHAN"),
  ("SAMARITAN LETTER ", "SINGAAT,TAAF,TIT,TSAADIY,YUT,ZEN"),
  ("SAMARITAN MARK ", "DAGESH,EPENTHETIC YUT,IN,IN-ALAF,NEQUDAA,OCCLUSION"),
  ("SAMARITAN MODIFIER LETTER ", "EPENTHETIC YUT,I,SHORT A"),
  ("SAMARITAN PUNCTUATION ", "AFSAAQ,ANGED,ANNAAU,ARKAANU,ATMAAU,BAU,MELODIC QITSA,NEQUDAA,QITSA"),
  ("SAMARITAN PUNCTUATION ", "SHIYYAALAA,SOF MASHFAAT,TURU,ZAEF,ZIQAA"),
  ("SAMARITAN VOWEL SIGN ", "A,AA,E,I,LONG A,LONG AA,LONG E,LONG I,LONG U,O"),
  ("SAMARITAN VOWEL SIGN ", "OVERLONG A,OVERLONG AA,SHORT A,SUKUN,U"),
  ("SAN", "DWICH,S-SERIF HEAVY DOUBLE COMMA QUOTATION MARK ORNAMENT"),
  ("SANS-SERIF HEAVY DOUBLE TURNED COMMA QUOTATION MARK ORNAMENT", ""),
  ("SANS-SERIF ", "HEAVY LOW DOUBLE COMMA QUOTATION MARK ORNAMENT,INTERROBANG ORNAMENT"),
  ("SA", "RI,TELLITE,TELLITE ANTENNA,TURN,URASHTRA CONSONANT SIGN HAARU,URASHTRA DANDA"),
  ("SAURASHTRA DIGIT ", "EIGHT,FIVE,FOUR,NINE,ONE,SEVEN,SIX,THREE,TWO,ZERO"),
  ("SAURASHTRA DOUBLE DANDA", ""),
  ("SAURASHTRA LETTER ", "A,AA,AI,AU,BA,BHA,CA,CHA,DA,DDA,DDHA,DHA,E,EE,GA,GHA,HA,I,II,JA,JHA,KA"),
  ("SAURASHTRA LETTER ", "KHA,LA,LLA,MA,NA,NGA,NNA,NYA,O,OO,PA,PHA,RA,SA,SHA,SSA,TA,THA,TTA,TTHA"),
  ("SAURASHTRA LETTER ", "U,UU,VA,VOCALIC L,VOCALIC LL,VOCALIC R,VOCALIC RR,YA"),
  ("SAURASHTRA SIGN ", "ANUSVARA,CANDRABINDU,VIRAMA,VISARGA"),
  ("SAURASHTRA VOWEL SIGN ", "AA,AI,AU,E,EE,I,II,O,OO,U,UU,VOCALIC L,VOCALIC LL,VOCALIC R"),
  ("SA", "URASHTRA VOWEL SIGN VOCALIC RR,UROPOD,XOPHONE"),
  ("SC", "ALES,ARF,HOOL,HOOL SATCHEL,I,OOTER,ORPION,ORPIUS,REEN,REWDRIVER"),
  ("SCRIPT CAPITAL ", "B,E,F,H,I,L,M,P,R"),
  ("SCR", "IPT LIGATURE ET ORNAMENT,IPT SMALL E,IPT SMALL G,IPT SMALL L,IPT SMALL O,OLL,UPLE"),
  ("SE", "AL,AT,COND PLACE MEDAL,CTION SIGN,CTOR,DNA,E-NO-EVIL MONKEY,EDLING,GMENT"),
  ("SEGMENTED DIGIT ", "EIGHT,FIVE,FOUR,NINE,ONE,SEVEN,SIX,THREE,TWO,ZERO"),
  ("SE", "LFIE,MICOLON,MIDIRECT PRODUCT WITH BOTTOM CLOSED,MISEXTILE,PARATED SYMBOL"),
  ("SE", "RIOUS FACE WITH SYMBOLS COVERING MOUTH,RVICE MARK,SAME DOT,SQUIQUADRATE,T MINUS"),
  ("S", "ET TRANSMIT STATE,EWING NEEDLE,EXTILE,GC"),
  ("SHADOWED WHITE ", "CIRCLE,LATIN CROSS,STAR"),
  ("SHA", "LLOW PAN OF FOOD,MROCK,RADA ABBREVIATION SIGN,RADA CONTINUATION SIGN,RADA DANDA"),
  ("SHARADA DIGIT ", "EIGHT,FIVE,FOUR,NINE,ONE,SEVEN,SIX,THREE,TWO,ZERO"),
  ("SHARADA ", "DOUBLE DANDA,EKAM,EXTRA SHORT VOWEL MARK,HEADSTROKE"),
  ("SHARADA LETTER ", "A,AA,AI,AU,BA,BHA,CA,CHA,DA,DDA,DDHA,DHA,E,GA,GHA,HA,I,II,JA,JHA,KA,KHA,LA"),
  ("SHARADA LETTER ", "LLA,MA,NA,NGA,NNA,NYA,O,PA,PHA,RA,SA,SHA,SSA,TA,THA,TTA,TTHA,U,UU,VA"),
  ("SHARADA LETTER VOCALIC ", "L,LL,R,RR"),
  ("SHARADA ", "LETTER YA,OM,SANDHI MARK,SECTION MARK-1,SECTION MARK-2,SEPARATOR"),
  ("SHARADA SIGN ", "ANUSVARA,AVAGRAHA,CANDRABINDU,INVERTED CANDRABINDU,JIHVAMULIYA,NUKTA,SIDDHAM"),
  ("SHARADA ", "SIGN UPADHMANIYA,SIGN VIRAMA,SIGN VISARGA,SUTRA MARK,VOWEL MODIFIER MARK"),
  ("SHARADA VOWEL SIGN ", "AA,AI,AU,E,I,II,O,PRISHTHAMATRA E,U,UU,VOCALIC L,VOCALIC LL,VOCALIC R"),
  ("SHA", "RADA VOWEL SIGN VOCALIC RR,RK,VED ICE"),
  ("SHAVIAN LETTER ", "ADO,AGE,AH,AIR,ARE,ARRAY,ASH,AWE,BIB,CHURCH,DEAD,EAR,EAT,EGG,ERR,FEE,GAG"),
  ("SHAVIAN LETTER ", "HA-HA,HUNG,IAN,ICE,IF,JUDGE,KICK,LOLL,MEASURE,MIME,NUN,OAK,OIL,ON"),
  ("SHAVIAN LETTER ", "OOZE,OR,OUT,PEEP,ROAR,SO,SURE,THEY,THIGH,TOT,UP,VOW,WOE,WOOL,YEA,YEW,ZOO"),
  ("SH", "EEP,IELD,IFT IN,IFT OUT,INTO SHRINE,IP,OCKED FACE WITH EXPLODING HEAD"),
  ("SHO", "OTING STAR,PPING BAGS,PPING TROLLEY,RT BACKSLANTED SOUTH ARROW"),
  ("SHORT ", "BENT ARROW POINTING DOWNWARDS THEN NORTH EAST,DOWN TACK,DOWN TACK WITH OVERBAR"),
  ("SHORT ", "LEFT TACK,RIGHTWARDS ARROW ABOVE LEFTWARDS ARROW,SLANTED NORTH ARROW,UP TACK"),
  ("SHORT", " UP TACK ABOVE SHORT DOWN TACK, UP TACK WITH UNDERBAR,CAKE"),
  ("SHORTHAND FORMAT ", "CONTINUING OVERLAP,DOWN STEP,LETTER OVERLAP,UP STEP"),
  ("S", "HORTS,HOULDERED OPEN BOX,HOWER,HRIMP,HRUG,HUFFLE PRODUCT,HY,I,IDDHAM DANDA"),
  ("SIDDHAM ", "DOUBLE DANDA,END OF TEXT MARK,LETTER A,LETTER AA,LETTER AI,LETTER ALTERNATE U"),
  ("SIDDHAM LETTER ", "AU,BA,BHA,CA,CHA,DA,DDA,DDHA,DHA,E,GA,GHA,HA,I,II,JA,JHA,KA,KHA,LA,MA,NA"),
  ("SIDDHAM LETTER ", "NGA,NNA,NYA,O,PA,PHA,RA,SA,SHA,SSA,TA,THA,THREE-CIRCLE ALTERNATE I"),
  ("SIDDHAM LETTER T", "TA,THA,WO-CIRCLE ALTERNATE I,WO-CIRCLE ALTERNATE II"),
  ("SIDDHAM LETTER ", "U,UU,VA,VOCALIC L,VOCALIC LL,VOCALIC R,VOCALIC RR,YA"),
  ("SIDDHAM REPETITION MARK-", "1,2,3"),
  ("SIDDHAM SECTION MARK DOUBLE RING", ", WITH RAYS"),
  ("SIDDHAM SECTION MARK WITH CIRCLES AND ", "FOUR ENCLOSURES,RAYS,TWO ENCLOSURES"),
  ("SIDDHAM SECTION MARK WITH ", "DOUBLE CRESCENTS,QUADRUPLE CRESCENTS"),
  ("SIDDHAM SECTION MARK WITH RAYS AND DOTTED ", "CRESCENTS,DOUBLE CRESCENTS,TRIPLE CRESCENTS"),
  ("SIDDHAM SECTION MARK WITH ", "SEPTUPLE CRESCENTS,TRIDENT AND DOTTED CRESCENTS"),
  ("SIDDHAM SECTION MARK WITH TRI", "DENT AND U-SHAPED ORNAMENTS,PLE CRESCENTS"),
  ("SIDDHAM SEPARATOR ", "BAR,DOT"),
  ("SIDDHAM SIGN ", "ANUSVARA,CANDRABINDU,NUKTA,SIDDHAM,VIRAMA,VISARGA"),
  ("SIDDHAM VOWEL SIGN ", "AA,AI,ALTERNATE U,ALTERNATE UU,AU,E,I,II,O,U,UU,VOCALIC R,VOCALIC RR"),
  ("SIDEWAYS BLACK ", "DOWN POINTING INDEX,LEFT POINTING INDEX,RIGHT POINTING INDEX"),
  ("SIDEWAYS ", "BLACK UP POINTING INDEX,WHITE DOWN POINTING INDEX,WHITE LEFT POINTING INDEX"),
  ("SI", "DEWAYS WHITE RIGHT POINTING INDEX,DEWAYS WHITE UP POINTING INDEX,GN OF THE HORNS"),
  ("SIGNWRITING AIR ", "BLOW SMALL ROTATIONS,BLOWING OUT,SUCK SMALL ROTATIONS,SUCKING IN"),
  ("SIGNWRITING BR", "EATH EXHALE,EATH INHALE,USH BETWEEN,USH MULTIPLE,USH SINGLE"),
  ("SIGNWRITING C", "HEEKS NEUTRAL,HEEKS PUFFED,HEEKS SUCKED,OLON,OMMA"),
  ("SIGNWRITING DREAMY EYEBROWS ", "DOWN NEUTRAL,NEUTRAL DOWN,NEUTRAL UP,UP NEUTRAL"),
  ("SIGNWRITING DYNAMIC ", "ARROWHEAD LARGE,ARROWHEAD SMALL,EVERY OTHER TIME,FAST"),
  ("SIGNWRITING DYNAMIC ", "GRADUAL,RELAXED,SIMULTANEOUS,SIMULTANEOUS ALTERNATING,SLOW,TENSE"),
  ("SIGNWRITING E", "ARS,XCITEMENT,YE BLINK MULTIPLE,YE BLINK SINGLE,YE WINK"),
  ("SIGNWRITING EYEBROWS STRAIGHT ", "DOWN,NEUTRAL,UP"),
  ("SIGNWRITING EYEGAZE-FLOORPLANE ", "CURVED,STRAIGHT,STRAIGHT ALTERNATING,STRAIGHT DOUBLE"),
  ("SIGNWRITING EYEGAZE-WALLPLANE ", "CIRCLING,CURVED,STRAIGHT,STRAIGHT ALTERNATING"),
  ("SIGNWRITING EYE", "GAZE-WALLPLANE STRAIGHT DOUBLE,LASHES DOWN,LASHES FLUTTERING,LASHES UP"),
  ("SIGNWRITING EYES ", "CLOSED,HALF CLOSED,HALF OPEN,OPEN,SQUEEZED,WIDE OPEN,WIDENING MOVEMENT"),
  ("SIGNWRITING FACE DIRECTION POSITION NOSE ", "FORWARD TILTING,UP OR DOWN,UP OR DOWN TILTING"),
  ("SIGNWRITING FI", "LL MODIFIER-2,LL MODIFIER-3,LL MODIFIER-4,LL MODIFIER-5,LL MODIFIER-6,NGER"),
  ("SIGNWRITING FLICK ", "LARGE MULTIPLE,LARGE SINGLE,SEQUENTIAL,SMALL MULTIPLE,SMALL SINGLE"),
  ("SIGNWRITING F", "LOORPLANE SHOULDER HIP MOVE,OREHEAD CONTACT,OREHEAD NEUTRAL,OREHEAD WRINKLED"),
  ("SIGNWRITING ", "FULL STOP,GRASP BETWEEN,GRASP MULTIPLE,GRASP SINGLE,HAIR,HAND-ANGLE"),
  ("SIGNWRITING HAND-ANGLE INDEX", ", MIDDLE LITTLE, MIDDLE RING, RING LITTLE, RING LITTLE OUT"),
  ("SIGNWRITING HAND-ANGLE ", "INDEX THUMB,INDEX THUMB IN,INDEX THUMB OUT,LITTLE INDEX"),
  ("SIGNWRITING HAND-ANGLE LITTLE ", "INDEX THUMB INDEX THUMB,INDEX THUMB INDEX THUMB OUT,UP"),
  ("SIGNWRITING HAND-ANGLE MIDDLE RING LITTLE", ", IN, OUT"),
  ("SIGNWRITING HAND-ANGLE RING ", "DOWN MIDDLE THUMB INDEX CROSS,LITTLE"),
  ("SIGNWRITING HAND-CIRCLE", ", INDEX, INDEX BENT, INDEX HINGE"),
  ("SIGNWRITING HAND-CIRCLE INDEX MIDDLE", ", CROSS LITTLE, CROSSED, LITTLE, RING, THUMB"),
  ("SIGNWRITING HAND-CIRCLE ", "INDEX RING LITTLE,LITTLE INDEX,LITTLE UP,MIDDLE RING LITTLE"),
  ("SIGNWRITING HAND-CIRCLE ", "MIDDLE RING LITTLE BENT,MIDDLE UP,RING LITTLE"),
  ("SIGNWRITING HAND-CLAW", ", FOUR FINGERS CONJOINED, INDEX THUMB CURVE THUMB INSIDE"),
  ("SIGNWRITING HAND-CLAW MIDDLE RING LITTLE CONJOINED", ", SIDE"),
  ("SIGNWRITING HAND-C", "LAW NO THUMB,LAW THUMB FORWARD,LAW THUMB SIDE,UP,UP FIVE FINGERS SPREAD"),
  ("SIGNWRITING HAND-CUP ", "FIVE FINGERS SPREAD OPEN,INDEX,INDEX RING LITTLE,INDEX THUMB"),
  ("SIGNWRITING HAND-CUP ", "INDEX THUMB OPEN,MIDDLE RING LITTLE,NO THUMB,OPEN,OPEN NO THUMB"),
  ("SIGNWRITING HAND-CUP ", "OPEN THUMB FORWARD,OPEN THUMB SIDE,THUMB FORWARD,THUMB SIDE"),
  ("SIGNWRITING HAND-CURLICUE", ", INDEX RING LITTLE ON, MIDDLE RING LITTLE ON, OPEN"),
  ("SIGNWRITING HAND-FIST", ", FOUR FINGERS CONJOINED BENT, HEEL"),
  ("SIGNWRITING HAND-FIST INDEX", ", BENT, BENT OVER MIDDLE, CUPPED"),
  ("SIGNWRITING HAND-FIST INDEX HINGED", ", LOW, MIDDLE UP, MIDDLE UP THUMB SIDE"),
  ("SIGNWRITING HAND-FIST INDEX MIDDLE", ", BENT, BENT THUMB STRAIGHT"),
  ("SIGNWRITING HAND-FIST INDEX MIDDLE CONJOINED", ", CUPPED, CUPPED THUMB FORWARD, HINGED"),
  ("SIGNWRITING HAND-FIST INDEX MIDDLE CONJOINED ", "HINGED THUMB SIDE,INDEX BENT,MIDDLE BENT"),
  ("SIGNWRITING HAND-FIST INDEX MIDDLE CONJOINED THUMB ", "FORWARD,SIDE,SIDE BENT,SIDE CONJOINED"),
  ("SIGNWRITING HAND-FIST INDEX MIDDLE CROSS", " LITTLE,ED,ED THUMB SIDE"),
  ("SIGNWRITING HAND-FIST INDEX MIDDLE ", "HINGED,HINGED SPREAD THUMB SIDE,LITTLE,RAISED KNUCKLES"),
  ("SIGNWRITING HAND-FIST INDEX MIDDLE ", "RING,RING BENT,RING CONJOINED,STRAIGHT THUMB BENT"),
  ("SIGNWRITING HAND-FIST INDEX MIDDLE THUMB", ", ANGLED, ANGLED OUT, BENT"),
  ("SIGNWRITING HAND-FIST INDEX MIDDLE THUMB ", "CIRCLED,CONJOINED HINGED,CUPPED,HINGED,HOOKED"),
  ("SIGNWRITING HAND-FIST INDEX ", "MIDDLE UP SPREAD THUMB FORWARD,RAISED KNUCKLE,RING LITTLE"),
  ("SIGNWRITING HAND-FIST INDEX THUMB ANGLED ", "IN MIDDLE UP,OUT MIDDLE UP"),
  ("SIGNWRITING HAND-FIST INDEX THUMB C", "IRCLE,IRCLED MIDDLE UP,UPPED MIDDLE UP,URLICUE"),
  ("SIGNWRITING HAND-FIST INDEX THUMB CURVE THUMB ", "INSIDE,UNDER"),
  ("SIGNWRITING HAND-FIST INDEX THUMB FORWARD INDEX ", "BENT,STRAIGHT"),
  ("SIGNWRITING HAND-FIST INDEX THUMB HOOK", ",ED MIDDLE HINGED,ED MIDDLE UP"),
  ("SIGNWRITING HAND-FIST INDEX THUMB SIDE", ", BOTH BENT, INDEX BENT, INDEX HINGE"),
  ("SIGNWRITING HAND-FIST INDEX THUMB SIDE THUMB ", "BENT,CONJOINED,DIAGONAL"),
  ("SIGNWRITING HAND-FIST INDEX UP MIDDLE HINGED", ", THUMB CONJOINED, THUMB SIDE"),
  ("SIGNWRITING HAND-FIST LITTLE ", "BENT,DOWN,DOWN OTHERS CIRCLED"),
  ("SIGNWRITING HAND-FIST LITTLE DOWN RIPPLE ", "CURVED,STRAIGHT"),
  ("SIGNWRITING HAND-FIST LITTLE ", "INDEX,INDEX THUMB,RAISED KNUCKLE,THUMB,TOUCHES THUMB,UP"),
  ("SIGNWRITING HAND-FIST MIDDLE ", "BENT OVER INDEX,DOWN,LITTLE,RAISED KNUCKLE,RING LITTLE"),
  ("SIGNWRITING HAND-FIST MIDDLE THUMB ANGLED ", "INDEX UP,OUT INDEX CROSSED,OUT INDEX UP"),
  ("SIGNWRITING HAND-FIST MIDDLE THUMB C", "IRCLED INDEX HINGED,IRCLED INDEX UP,UPPED INDEX UP"),
  ("SIGNWRITING HAND-FIST MIDDLE ", "THUMB HOOKED INDEX UP,THUMB LITTLE,UP,UP THUMB SIDE"),
  ("SIGNWRITING HAND-FIST RING ", "DOWN,INDEX,LITTLE,MIDDLE,MIDDLE CONJOINED"),
  ("SIGNWRITING HAND-FIST RING ", "MIDDLE RAISED KNUCKLES,RAISED KNUCKLE,THUMB,UP"),
  ("SIGNWRITING HAND-FIST THUMB", ", BETWEEN INDEX MIDDLE"),
  ("SIGNWRITING HAND-FIST THUMB BETWEEN ", "INDEX MIDDLE STRAIGHT,MIDDLE RING,RING LITTLE"),
  ("SIGNWRITING HAND-FIST THUMB ", "FORWARD,HEEL,OVER FOUR RAISED KNUCKLES,OVER TWO FINGERS"),
  ("SIGNWRITING HAND-FIST THUMB ", "SIDE BENT,SIDE CONJOINED,SIDE DIAGONAL,UNDER FOUR FINGERS"),
  ("SIGNWRITING HAND-FIST THUMB UNDER ", "INDEX BENT,LITTLE UP,THREE FINGERS,TWO FINGERS"),
  ("SIGNWRITING HAND-FLAT", ", BETWEEN PALM FACINGS"),
  ("SIGNWRITING HAND-FLAT FIVE FINGERS SPREAD", ", BENT, FOUR BENT, HINGED"),
  ("SIGNWRITING HAND-FLAT FIVE FINGERS SPREAD ", "HINGED NO THUMB,HINGED THUMB SIDE,THUMB FORWARD"),
  ("SIGNWRITING HAND-FLAT FOUR FINGERS", ", BENT, CONJOINED, CONJOINED SPLIT, HINGED"),
  ("SIGNWRITING HAND-FLAT HEEL", ", FIVE FINGERS SPREAD, FIVE FINGERS SPREAD BENT"),
  ("SIGNWRITING HAND-FLAT ", "HEEL FIVE FINGERS SPREAD FOUR BENT,HEEL THUMB SIDE,SPLIT CENTRE"),
  ("SIGNWRITING HAND-FLAT SPLIT ", "CENTRE THUMB SIDE,CENTRE THUMB SIDE BENT,INDEX THUMB SIDE"),
  ("SIGNWRITING HAND-FLAT ", "SPLIT LITTLE,THUMB BENT,THUMB FORWARD,THUMB SIDE"),
  ("SIGNWRITING HAND-HINGE", ", FIVE FINGERS SPREAD OPEN, FOUR FINGERS CONJOINED"),
  ("SIGNWRITING HAND-HINGE INDEX", ", HINGED, MIDDLE LITTLE, MIDDLE RING, MIDDLE RING CONJOINED"),
  ("SIGNWRITING HAND-HINGE INDEX ", "RING LITTLE,THUMB,THUMB LARGE,THUMB OPEN,THUMB SIDE"),
  ("SIGNWRITING HAND-HINGE ", "INDEX THUMB SMALL,LITTLE,LITTLE INDEX,LITTLE INDEX THUMB"),
  ("SIGNWRITING HAND-HINGE ", "LITTLE THUMB,MIDDLE,MIDDLE RING LITTLE,NO THUMB,OPEN,OPEN NO THUMB"),
  ("SIGNWRITING HAND-HINGE ", "OPEN THUMB FORWARD,OPEN THUMB SIDE,RING"),
  ("SIGNWRITING HAND-HINGE ", "RING DOWN INDEX THUMB HOOK MIDDLE,SMALL,THUMB BETWEEN MIDDLE RING"),
  ("SIGNWRITING HAND-H", "INGE THUMB SIDE,INGE THUMB SIDE TOUCHING INDEX,OOK,OOK CURLICUE"),
  ("SIGNWRITING HAND-HOOK INDEX RING LITTLE ", "IN,OUT,UNDER"),
  ("SIGNWRITING HAND-HOOK MIDDLE RING LITTLE CONJOINED", ", IN, OUT"),
  ("SIGNWRITING HAND-", "HOOK MIDDLE THUMB,HOOK RING THUMB,OVAL,OVAL FIVE FINGERS SPREAD"),
  ("SIGNWRITING HAND-OVAL ", "INDEX,LITTLE UP,NO THUMB,RING LITTLE,THUMB FORWARD,THUMB SIDE"),
  ("SIGNWRITING HEAD", ", MOVEMENT CIRCLE, MOVEMENT-FLOORPLANE CURVE"),
  ("SIGNWRITING HEAD MOVEMENT-", "FLOORPLANE STRAIGHT,WALLPLANE CURVE,WALLPLANE STRAIGHT"),
  ("SIGNWRITING ", "HEAD MOVEMENT-WALLPLANE TILT,HEAD RIM,LIMB COMBINATION"),
  ("SIGNWRITING LIMB LENGTH-", "1,2,3,4,5,6,7"),
  ("SIGNWRITING LIP", " LOWER OVER UPPER, UPPER OVER LOWER,S PRESSED TOGETHER"),
  ("SIGNWRITING LOCATION ", "DEPTH,HEAD NECK,HEIGHT,LIMBS DIGITS,TORSO,WIDTH"),
  ("SIGNWRITING LOCATION-", "FLOORPLANE SPACE,WALLPLANE SPACE"),
  ("SIGNWRITING MOUTH ", "CLOSED CONTACT,CLOSED FORWARD,CLOSED NEUTRAL,CORNERS,FROWN,FROWN OPEN"),
  ("SIGNWRITING MOUTH ", "FROWN WRINKLED,KISS,KISS FORWARD,KISS WRINKLED,OPEN CIRCLE"),
  ("SIGNWRITING MOUTH OPEN ", "FORWARD,OVAL,OVAL WRINKLED,OVAL YAWN,RECTANGLE,RECTANGLE WRINKLED"),
  ("SIGNWRITING MOUTH ", "OPEN RECTANGLE YAWN,OPEN WRINKLED,SMILE,SMILE OPEN,SMILE WRINKLED,TENSE"),
  ("SIGNWRITING MOUTH ", "TENSE FORWARD,TENSE SUCKED,WRINKLES DOUBLE,WRINKLES SINGLE"),
  ("SIGNWRITING MOVEMENT-DIAGONAL AWAY ", "LARGE,LARGEST,MEDIUM,SMALL"),
  ("SIGNWRITING MOVEMENT-DIAGONAL BETWEEN AWAY ", "LARGE,LARGEST,MEDIUM,SMALL"),
  ("SIGNWRITING MOVEMENT-DIAGONAL BETWEEN TOWARDS ", "LARGE,LARGEST,MEDIUM,SMALL"),
  ("SIGNWRITING MOVEMENT-DIAGONAL TOWARDS ", "LARGE,LARGEST,MEDIUM,SMALL"),
  ("SIGNWRITING MOVEMENT-FLOORPLANE ARM CIRCLE HITTING WALL LARGE ", "DOUBLE,SINGLE"),
  ("SIGNWRITING MOVEMENT-FLOORPLANE ARM CIRCLE HITTING WALL MEDIUM ", "DOUBLE,SINGLE"),
  ("SIGNWRITING MOVEMENT-FLOORPLANE ARM CIRCLE HITTING WALL SMALL ", "DOUBLE,SINGLE"),
  ("SIGNWRITING MOVEMENT-FLOORPLANE ", "BEND,BOX LARGE,BOX MEDIUM,BOX SMALL,CHECK"),
  ("SIGNWRITING MOVEMENT-FLOORPLANE C", "ORNER LARGE,ORNER MEDIUM,ORNER SMALL,ROSS,URVE COMBINED"),
  ("SIGNWRITING MOVEMENT-FLOORPLANE CURVE HITTING ", "CEILING LARGE,CEILING SMALL,FLOOR LARGE"),
  ("SIGNWRITING MOVEMENT-FLOORPLANE CURVE ", "HITTING FLOOR SMALL,LARGE,LARGEST,MEDIUM,SMALL"),
  ("SIGNWRITING MOVEMENT-FLOORPLANE DOUBLE ", "ALTERNATING,ALTERNATING WRIST FLEX,STRAIGHT"),
  ("SIGNWRITING MOVEMENT-FLOORPLANE ", "DOUBLE WRIST FLEX,FINGER CIRCLES HITTING WALL DOUBLE"),
  ("SIGNWRITING MOVEMENT-FLOORPLANE FINGER C", "IRCLES HITTING WALL SINGLE,ONTACT"),
  ("SIGNWRITING MOVEMENT-FLOORPLANE HUMP HITTING CEILING LARGE ", "DOUBLE,TRIPLE"),
  ("SIGNWRITING MOVEMENT-FLOORPLANE HUMP HITTING CEILING SMALL ", "DOUBLE,TRIPLE"),
  ("SIGNWRITING MOVEMENT-FLOORPLANE HUMP HITTING FLOOR ", "LARGE DOUBLE,SMALL DOUBLE"),
  ("SIGNWRITING MOVEMENT-FLOORPLANE HUMP HITTING FLOOR TRIPLE ", "LARGE TRIPLE,SMALL TRIPLE"),
  ("SIGNWRITING MOVEMENT-FLOORPLANE ", "HUMP SMALL,JAW"),
  ("SIGNWRITING MOVEMENT-FLOORPLANE LOOP HITTING CEILING LARGE ", "DOUBLE,SINGLE"),
  ("SIGNWRITING MOVEMENT-FLOORPLANE LOOP HITTING CEILING SMALL ", "DOUBLE,SINGLE"),
  ("SIGNWRITING MOVEMENT-FLOORPLANE LOOP HITTING FLOOR ", "LARGE DOUBLE,LARGE SINGLE,SMALL DOUBLE"),
  ("SIGNWRITING MOVEMENT-FLOORPLANE LOOP ", "HITTING FLOOR SMALL SINGLE,SMALL"),
  ("SIGNWRITING MOVEMENT-FLOORPLANE ", "PEAKS LARGE,PEAKS MEDIUM,PEAKS SMALL,SHAKING PARALLEL"),
  ("SIGNWRITING MOVEMENT-FLOORPLANE SINGLE STRAIGHT ", "LARGE,LARGEST,MEDIUM,SMALL"),
  ("SIGNWRITING MOVEMENT-FLOORPLANE SINGLE WRIST FLEX", ""),
  ("SIGNWRITING MOVEMENT-FLOORPLANE TRIPLE ALTERNATING ", "MOVEMENT,WRIST FLEX"),
  ("SIGNWRITING MOVEMENT-FLOORPLANE TRIPLE ", "STRAIGHT MOVEMENT,WRIST FLEX"),
  ("SIGNWRITING MOVEMENT-FLOORPLANE WAVE HITTING ", "CEILING LARGE,CEILING SMALL,FLOOR LARGE"),
  ("SIGNWRITING MOVEMENT-FLOORPLANE WAVE ", "HITTING FLOOR SMALL,LARGE,SMALL,SNAKE"),
  ("SIGNWRITING MOVEMENT-FLOORPLANE WRIST CIRCLE HITTING WALL ", "DOUBLE,SINGLE"),
  ("SIGNWRITING MOVEMENT-FLOORPLANE ZIGZAG ", "LARGE,MEDIUM,SMALL"),
  ("SIGNWRITING MOVEMENT-HINGE ", "DOWN SEQUENTIAL,SIDE TO SIDE SCISSORS"),
  ("SIGNWRITING MOVEMENT-HINGE UP DOWN ", "ALTERNATING LARGE,ALTERNATING SMALL,LARGE,SMALL"),
  ("SIGNWRITING MOVEMENT-", "HINGE UP SEQUENTIAL,WALLPLANE ARM CIRCLE MEDIUM DOUBLE"),
  ("SIGNWRITING MOVEMENT-WALLPLANE ARM CIRCLE ", "MEDIUM SINGLE,SMALL DOUBLE,SMALL SINGLE"),
  ("SIGNWRITING MOVEMENT-WALLPLANE B", "END LARGE,END MEDIUM,END SMALL,OX LARGE,OX MEDIUM"),
  ("SIGNWRITING MOVEMENT-WALLPLANE ", "BOX SMALL,CHECK LARGE,CHECK MEDIUM,CHECK SMALL"),
  ("SIGNWRITING MOVEMENT-WALLPLANE C", "ORNER LARGE,ORNER MEDIUM,ORNER ROTATION,ORNER SMALL,ROSS"),
  ("SIGNWRITING MOVEMENT-WALLPLANE CURVE HALF-CIRCLE ", "LARGE,LARGEST,MEDIUM,SMALL"),
  ("SIGNWRITING MOVEMENT-WALLPLANE CURVE HITTING ", "CHEST,FRONT WALL"),
  ("SIGNWRITING MOVEMENT-WALLPLANE CURVE QUARTER ", "LARGE,LARGEST,MEDIUM,SMALL"),
  ("SIGNWRITING MOVEMENT-WALLPLANE CURVE THEN STRAIGHT", ""),
  ("SIGNWRITING MOVEMENT-WALLPLANE CURVE THREE-QUARTER CIRCLE ", "MEDIUM,SMALL"),
  ("SIGNWRITING MOVEMENT-WALLPLANE ", "CURVED CROSS MEDIUM,CURVED CROSS SMALL,DOUBLE ALTERNATING"),
  ("SIGNWRITING MOVEMENT-WALLPLANE DOUBLE ", "ALTERNATING WRIST FLEX,STRAIGHT,WRIST FLEX"),
  ("SIGNWRITING MOVEMENT-WALLPLANE FINGER C", "IRCLES DOUBLE,IRCLES SINGLE,ONTACT"),
  ("SIGNWRITING MOVEMENT-WALLPLANE HUMP ", "HITTING CHEST,HITTING FRONT WALL,LARGE,MEDIUM,SMALL"),
  ("SIGNWRITING MOVEMENT-WALLPLANE ", "JAW,LOOP HITTING CHEST"),
  ("SIGNWRITING MOVEMENT-WALLPLANE LOOP ", "HITTING FRONT WALL,LARGE,MEDIUM,SMALL,SMALL DOUBLE"),
  ("SIGNWRITING MOVEMENT-WALLPLANE ", "PEAKS LARGE,PEAKS MEDIUM,PEAKS SMALL,SHAKING"),
  ("SIGNWRITING MOVEMENT-WALLPLANE SINGLE STRAIGHT ", "LARGE,LARGEST,MEDIUM,SMALL"),
  ("SIGNWRITING MOVEMENT-WALLPLANE ", "SINGLE WRIST FLEX,TRIPLE ALTERNATING"),
  ("SIGNWRITING MOVEMENT-WALLPLANE TRIPLE ", "ALTERNATING WRIST FLEX,STRAIGHT MOVEMENT,WRIST FLEX"),
  ("SIGNWRITING MOVEMENT-WALLPLANE WAVE CURVE DOUBLE ", "LARGE,MEDIUM,SMALL"),
  ("SIGNWRITING MOVEMENT-WALLPLANE WAVE CURVE TRIPLE ", "LARGE,MEDIUM,SMALL"),
  ("SIGNWRITING MOVEMENT-WALLPLANE WAVE DIAGONAL PATH ", "LARGE,MEDIUM,SMALL"),
  ("SIGNWRITING MOVEMENT-WALLPLANE WAVE HITTING ", "CHEST,FRONT WALL"),
  ("SIGNWRITING MOVEMENT-WALLPLANE WRIST CIRCLE FRONT ", "DOUBLE,SINGLE"),
  ("SIGNWRITING MOVEMENT-WALLPLANE ZIGZAG ", "LARGE,MEDIUM,SMALL"),
  ("SIGNWRITING ", "NECK,NOSE CONTACT,NOSE NEUTRAL,NOSE WIGGLES,NOSE WRINKLES,PARENTHESIS"),
  ("SIGNWRITING ROTATION MODIFIER-", "10,11,12,13,14,15,16,2,3,4,5,6,7,8,9"),
  ("SIGNWRITING ROTATION-FLOORPLANE ALTERNATING", ", HITTING CEILING, HITTING FLOOR"),
  ("SIGNWRITING ROTATION-FLOORPLANE DOUBLE", ", HITTING CEILING, HITTING FLOOR"),
  ("SIGNWRITING ROTATION-FLOORPLANE SINGLE", ", HITTING CEILING, HITTING FLOOR"),
  ("SIGNWRITING ROTATION-WALLPLANE ALTERNAT", "E,ING HITTING CHEST,ING HITTING FRONT WALL"),
  ("SIGNWRITING ROTATION-WALLPLANE DOUBLE", ", HITTING CHEST, HITTING FRONT WALL"),
  ("SIGNWRITING ROTATION-WALLPLANE SINGLE", ", HITTING CHEST, HITTING FRONT WALL"),
  ("SIGNWRITING ", "RUB BETWEEN,RUB MULTIPLE,RUB SINGLE,SEMICOLON,SHOULDER HIP POSITIONS"),
  ("SIGNWRITING S", "HOULDER HIP SPINE,HOULDER TILTING FROM WAIST,QUEEZE FLICK ALTERNATING"),
  ("SIGNWRITING SQUEEZE ", "LARGE MULTIPLE,LARGE SINGLE,SEQUENTIAL,SMALL MULTIPLE,SMALL SINGLE"),
  ("SIGNWRITING S", "TRIKE BETWEEN,TRIKE MULTIPLE,TRIKE SINGLE,URFACE BETWEEN,URFACE SYMBOLS"),
  ("SIGNWRITING TEETH", ", BITE LIPS, MOVEMENT, ON LIPS, ON LIPS MOVEMENT, ON TONGUE"),
  ("SIGNWRITING TE", "ETH ON TONGUE MOVEMENT,NSE CHEEKS HIGH,NSE CHEEKS LOW,NSE CHEEKS MIDDLE"),
  ("SIGNWRITING TONGUE CENTRE ", "INSIDE MOUTH,STICKING OUT"),
  ("SIGNWRITING TONGUE ", "INSIDE MOUTH RELAXED,LICKING LIPS,MOVES AGAINST CHEEK,STICKING OUT FAR"),
  ("SIGNWRITING TONGUE TIP ", "BETWEEN LIPS,TOUCHING INSIDE MOUTH"),
  ("SIGNWRITING TORSO-", "FLOORPLANE TWISTING,WALLPLANE CURVED BEND,WALLPLANE STRAIGHT STRETCH"),
  ("SIGNWRITING TOUCH ", "BETWEEN,MULTIPLE,SINGLE"),
  ("SIGNWRITING TRAVEL-FLOORPLANE ROTATION-FLOORPLANE ", "ALTERNATING,DOUBLE,SINGLE"),
  ("SIGNWRITING TRAVEL-FLOORPLANE ROTATION-WALLPLANE ", "ALTERNATING,DOUBLE,SINGLE"),
  ("SIGNWRITING TRAVEL-FLOORPLANE SHAKING", ""),
  ("SIGNWRITING TRAVEL-WALLPLANE ARM SPIRAL ", "DOUBLE,SINGLE,TRIPLE"),
  ("SIGNWRITING TRAVEL-WALLPLANE ROTATION-FLOORPLANE ", "ALTERNATING,DOUBLE,SINGLE"),
  ("SIGNWRITING TRAVEL-WALLPLANE ROTATION-WALLPLANE ", "ALTERNATING,DOUBLE,SINGLE"),
  ("SIGNWRITING ", "TRAVEL-WALLPLANE SHAKING,UPPER BODY TILTING FROM HIP JOINTS"),
  ("SI", "GNWRITING WALLPLANE SHOULDER HIP MOVE,LHOUETTE OF JAPAN"),
  ("SIMILAR ABOVE ", "GREATER-THAN ABOVE EQUALS SIGN,LESS-THAN ABOVE EQUALS SIGN"),
  ("SI", "MILAR MINUS SIMILAR,MILAR OR GREATER-THAN,MILAR OR LESS-THAN,NE WAVE"),
  ("SINGLE ", "CHARACTER INTRODUCER,GRAPHIC CHARACTER INTRODUCER,HIGH-REVERSED-9 QUOTATION MARK"),
  ("SINGLE L", "EFT-POINTING ANGLE QUOTATION MARK,OW-9 QUOTATION MARK"),
  ("SINGLE", " RIGHT-POINTING ANGLE QUOTATION MARK, SHIFT THREE, SHIFT TWO,-SHIFT-2,-SHIFT-3"),
  ("SINHALA ARCHAIC DIGIT ", "EIGHT,FIVE,FOUR,NINE,ONE,SEVEN,SIX,THREE,TWO"),
  ("SINHALA ARCHAIC NUMBER ", "EIGHTY,FIFTY,FORTY,NINETY,ONE HUNDRED,ONE THOUSAND,SEVENTY,SIXTY"),
  ("SINHALA ARCHAIC NUMBER T", "EN,HIRTY,WENTY"),
  ("SINHALA LETTER A", "AYANNA,EEYANNA,EYANNA,IYANNA,LPAPRAANA BAYANNA,LPAPRAANA CAYANNA"),
  ("SINHALA LETTER ALPAPRAANA ", "DAYANNA,DDAYANNA,GAYANNA,JAYANNA,KAYANNA,PAYANNA,TAYANNA"),
  ("SINHALA LETTER ", "ALPAPRAANA TTAYANNA,AMBA BAYANNA,AUYANNA,AYANNA,DANTAJA LAYANNA"),
  ("SINHALA LETTER ", "DANTAJA NAYANNA,DANTAJA SAYANNA,EEYANNA,EYANNA,FAYANNA,HAYANNA,IIYANNA"),
  ("SINHALA LETTER ", "ILUUYANNA,ILUYANNA,IRUUYANNA,IRUYANNA,IYANNA,KANTAJA NAASIKYAYA"),
  ("SINHALA LETTER MAHAAPRAANA ", "BAYANNA,CAYANNA,DAYANNA,DDAYANNA,GAYANNA"),
  ("SINHALA LETTER MAHAAPRAANA ", "JAYANNA,KAYANNA,PAYANNA,TAYANNA,TTAYANNA"),
  ("SINHALA LETTER M", "AYANNA,UURDHAJA LAYANNA,UURDHAJA NAYANNA,UURDHAJA SAYANNA"),
  ("SINHALA LETTER ", "OOYANNA,OYANNA,RAYANNA,SANYAKA DAYANNA,SANYAKA DDAYANNA,SANYAKA GAYANNA"),
  ("SINHALA LETTER ", "SANYAKA JAYANNA,TAALUJA NAASIKYAYA,TAALUJA SANYOOGA NAAKSIKYAYA"),
  ("SINHALA LETTER ", "TAALUJA SAYANNA,UUYANNA,UYANNA,VAYANNA,YAYANNA"),
  ("SINHALA LITH DIGIT ", "EIGHT,FIVE,FOUR,NINE,ONE,SEVEN,SIX,THREE,TWO,ZERO"),
  ("SINHALA ", "PUNCTUATION KUNDDALIYA,SIGN AL-LAKUNA,SIGN ANUSVARAYA,SIGN CANDRABINDU"),
  ("SINHALA ", "SIGN VISARGAYA,VOWEL SIGN AELA-PILLA"),
  ("SINHALA VOWEL SIGN DIGA ", "AEDA-PILLA,GAETTA-PILLA,GAYANUKITTA,IS-PILLA,KOMBUVA,PAA-PILLA"),
  ("SINHALA VOWEL SIGN GA", "ETTA-PILLA,YANUKITTA"),
  ("SINHALA VOWEL SIGN K", "ETTI AEDA-PILLA,ETTI IS-PILLA,ETTI PAA-PILLA,OMBU DEKA,OMBUVA"),
  ("SINHALA VOWEL SIGN KOMBUVA HAA ", "AELA-PILLA,DIGA AELA-PILLA,GAYANUKITTA"),
  ("SIX P", "ETALLED BLACK AND WHITE FLORETTE,OINTED BLACK STAR,OINTED PINWHEEL STAR"),
  ("S", "IX POINTED STAR WITH MIDDLE DOT,IX-PER-EM SPACE,IXTEEN POINTED ASTERISK,KATEBOARD"),
  ("S", "KI AND SKI BOOT,KIER,KULL,KULL AND CROSSBONES,KUNK,LANTED EQUAL TO OR GREATER-THAN"),
  ("SLANTED EQUAL TO OR ", "GREATER-THAN WITH DOT INSIDE,LESS-THAN,LESS-THAN WITH DOT INSIDE"),
  ("SLANTED NORTH ARROW WITH HO", "OKED HEAD,RIZONTAL TAIL"),
  ("SL", "AVONIC ASTERISK,ED,EEPING ACCOMMODATION,EEPING FACE,EEPING SYMBOL,EEPY FACE,EUTH OR SPY"),
  ("SL", "ICE OF PIZZA,IGHTLY FROWNING FACE,IGHTLY SMILING FACE,OPE,OPING LARGE AND"),
  ("S", "LOPING LARGE OR,LOT MACHINE,LOTH,MALL AIRPLANE,MALL AMPERSAND,MALL ASTERISK"),
  ("SMALL ", "BLUE DIAMOND,COLON,COMMA,COMMERCIAL AT,CONTAINS AS MEMBER,CONTAINS WITH OVERBAR"),
  ("SMALL ", "CONTAINS WITH VERTICAL BAR AT END OF HORIZONTAL STROKE,DOLLAR SIGN"),
  ("SMALL ELEMENT OF", ", WITH OVERBAR, WITH VERTICAL BAR AT END OF HORIZONTAL STROKE"),
  ("SMALL ", "EM DASH,EQUALS SIGN,EXCLAMATION MARK,FULL STOP,GREATER-THAN SIGN,HYPHEN-MINUS"),
  ("SMALL ", "IDEOGRAPHIC COMMA,LEFT CURLY BRACKET,LEFT PARENTHESIS,LEFT TORTOISE SHELL BRACKET"),
  ("SMALL ", "LESS-THAN SIGN,NUMBER SIGN,ORANGE DIAMOND,PERCENT SIGN,PLUS SIGN,QUESTION MARK"),
  ("SMALL R", "EVERSE SOLIDUS,IGHT CURLY BRACKET,IGHT PARENTHESIS,IGHT TORTOISE SHELL BRACKET"),
  ("SMALL ROMAN NUMERAL ", "EIGHT,ELEVEN,FIFTY,FIVE,FIVE HUNDRED,FOUR,NINE,ONE,ONE HUNDRED"),
  ("SMALL ROMAN NUMERAL ", "ONE THOUSAND,SEVEN,SIX,TEN,THREE,TWELVE,TWO"),
  ("SMALL ", "SEMICOLON,TILDE,TWO DOTS OVER ONE DOT PUNCTUATION,VEE WITH UNDERBAR"),
  ("SM", "ALLER THAN,ALLER THAN OR EQUAL TO,ASH PRODUCT,ILE"),
  ("SMILING CAT FACE WITH ", "HEART-SHAPED EYES,OPEN MOUTH"),
  ("SMILING FACE WITH H", "ALO,EART-SHAPED EYES,ORNS"),
  ("SMILING FACE WITH OPEN MOUTH", ", AND COLD SWEAT, AND SMILING EYES, AND TIGHTLY-CLOSED EYES"),
  ("SMILING FACE WITH SMILING EYES", ", AND HAND COVERING MOUTH, AND THREE HEARTS"),
  ("S", "MILING FACE WITH SUNGLASSES,MILING FACE WITH TEAR,MIRKING FACE,MOKING SYMBOL,NAIL,NAKE"),
  ("S", "NEEZING FACE,NOW CAPPED MOUNTAIN,NOWBOARDER,NOWFLAKE,NOWMAN,NOWMAN WITHOUT SNOW,O"),
  ("SO", "CCER BALL,CKS,FT HYPHEN,FT ICE CREAM,FT SHELL FLOPPY DISK,FTBALL,FTWARE-FUNCTION SYMBOL"),
  ("SOGDIAN COMBINING ", "CURVE ABOVE,CURVE BELOW,DOT ABOVE,DOT BELOW,HOOK ABOVE,HOOK BELOW"),
  ("SOGDIAN COMBINING ", "LONG HOOK BELOW,RESH BELOW,STROKE BELOW,TWO DOTS ABOVE,TWO DOTS BELOW"),
  ("SOGDIAN ", "INDEPENDENT SHIN,LETTER ALEPH,LETTER AYIN,LETTER BETH,LETTER FETH,LETTER GIMEL"),
  ("SOGDIAN LETTER ", "HE,HETH,KAPH,LAMEDH,LESH,MEM,NUN,PE,RESH-AYIN,SADHE,SAMEKH,SHIN,TAW,WAW"),
  ("SOGDIAN ", "LETTER YODH,LETTER ZAYIN,NUMBER ONE,NUMBER ONE HUNDRED,NUMBER TEN,NUMBER TWENTY"),
  ("SOGDIAN PUNCTUATION ", "CIRCLE WITH DOT,HALF CIRCLE WITH DOT,TWO CIRCLES WITH DOTS"),
  ("SOGDIAN PUNCTUATION TWO VERTICAL BARS", ", WITH DOTS"),
  ("SO", "H,LID QUILT SQUARE ORNAMENT,LID QUILT SQUARE ORNAMENT IN BLACK SQUARE,LIDUS"),
  ("SO", "LIDUS WITH OVERBAR,M SIGN,ON WITH RIGHTWARDS ARROW ABOVE"),
  ("SORA SOMPENG DIGIT ", "EIGHT,FIVE,FOUR,NINE,ONE,SEVEN,SIX,THREE,TWO,ZERO"),
  ("SORA SOMPENG LETTER ", "AH,BAH,CAH,DAH,EEH,EH,GAH,HAH,IH,JAH,KAH,LAH,MAE,MAH,NAH,NGAH,NYAH,OH"),
  ("SORA SOMPENG LETTER ", "PAH,RAH,SAH,TAH,UH,VAH,YAH"),
  ("SO", "S,UND RECORDING COPYRIGHT,UTH EAST ARROW,UTH EAST ARROW AND SOUTH WEST ARROW"),
  ("SOUTH EAST ", "ARROW CROSSING NORTH EAST ARROW,ARROW TO CORNER,ARROW WITH HOOK,BLACK ARROW"),
  ("SOUTH EAST ", "DOUBLE ARROW,POINTING BUD,POINTING LEAF,POINTING VINE LEAF,SANS-SERIF ARROW"),
  ("SOUTH EAST ", "TRIANGLE-HEADED ARROW,TRIANGLE-HEADED ARROW TO BAR,WHITE ARROW"),
  ("SOUTH WEST ", "ARROW,ARROW AND NORTH WEST ARROW,ARROW WITH HOOK,BLACK ARROW,DOUBLE ARROW"),
  ("SOUTH WEST ", "POINTING BUD,POINTING LEAF,POINTING VINE LEAF,SANS-SERIF ARROW"),
  ("SOUTH WEST ", "TRIANGLE-HEADED ARROW,TRIANGLE-HEADED ARROW TO BAR,WHITE ARROW"),
  ("SOYOMBO CLUSTER-INITIAL LETTER ", "LA,RA,SA,SHA"),
  ("SOYOMBO FINAL CONSONANT SIGN ", "-A,B,D,G,K,L,M,N,NG,R,S,SH"),
  ("SOYOMBO GEMINATION MARK", ""),
  ("SOYOMBO HEAD MARK WITH MOON AND SUN", ", AND FLAME, AND TRIPLE FLAME"),
  ("SOYOMBO LETTER ", "-A,A,BA,BHA,CA,CHA,DA,DDA,DDHA,DHA,DZA,GA,GHA,HA,JA,JHA,KA,KHA,KSSA,LA,MA"),
  ("SOYOMBO LETTER ", "NA,NGA,NNA,NYA,PA,PHA,RA,SA,SHA,SSA,TA,THA,TSA,TSHA,TTA,TTHA,VA,YA,ZA,ZHA"),
  ("SOYOMBO ", "MARK DOUBLE SHAD,MARK PLUTA,MARK SHAD,MARK TSHEG,SIGN ANUSVARA,SIGN JIHVAMULIYA"),
  ("SOYOMBO ", "SIGN UPADHMANIYA,SIGN VISARGA,SUBJOINER,TERMINAL MARK-1,TERMINAL MARK-2"),
  ("SOYOMBO VOWEL ", "LENGTH MARK,SIGN AI,SIGN AU,SIGN E,SIGN I,SIGN O,SIGN OE,SIGN U,SIGN UE"),
  ("S", "OYOMBO VOWEL SIGN VOCALIC L,OYOMBO VOWEL SIGN VOCALIC R,P,PA,PACE,PAGHETTI"),
  ("SP", "ARKLE,ARKLES,ARKLING HEART,EAK-NO-EVIL MONKEY,EAKER,EAKER WITH CANCELLATION STROKE"),
  ("SPEAK", "ER WITH ONE SOUND WAVE,ER WITH THREE SOUND WAVES,ING HEAD IN SILHOUETTE"),
  ("SP", "EECH BALLOON,EEDBOAT,ESMILO SIGN,HERICAL ANGLE,HERICAL ANGLE OPENING LEFT"),
  ("SP", "HERICAL ANGLE OPENING UP,IDER,IDER WEB,IRAL CALENDAR PAD,IRAL NOTE PAD,IRAL SHELL"),
  ("S", "PLASHING SWEAT SYMBOL,PONGE,POOL OF THREAD,POON,PORTS MEDAL,POUTING WHALE,QUARE A OVER M"),
  ("SQUARE ", "AARU,AM,ANPEA,APAATO,ARUHUA,AU,BAARERU,BAR,BEETA,BIRU,BORUTO,BQ,BUSSYERU,C OVER KG"),
  ("SQUARE ", "CAL,CAP,CC,CD,CM,CM CUBED,CM SQUARED,CO,CORPORATION,CUP,DA,DAASU,DB,DESI,DJ,DL"),
  ("SQUARE ", "DM,DM CUBED,DM SQUARED,DORU,EEKAA,ERA NAME HEISEI,ERA NAME MEIZI,ERA NAME REIWA"),
  ("SQUARE ", "ERA NAME SYOUWA,ERA NAME TAISYOU,ERG,ESUKUUDO,EV,FM,FOOT,FOUR CORNERS"),
  ("SQUARE G", "AL,ANMA,ARON,B,HZ,IGA,INII,IRUDAA,PA,URAMU,URAMUTON,Y"),
  ("SQUARE H", "A,AITU,EKUTAARU,ERUTU,G,IRAGANA HOKA,ON,OON,OORU,P,PA,UARADDO,UIITO,URAN,Z"),
  ("SQUARE I", "MAGE OF,MAGE OF OR EQUAL TO,MAGE OF OR NOT EQUAL TO,N,NINGU,NTI,U"),
  ("SQUARE K", " OHM,A,AIRI,ARATTO,ARORII,B,CAL,EESU,G,HZ,IRO,IROGURAMU,IROMEETORU,IROWATTO,K,L,M"),
  ("SQUARE K", "M CAPITAL,M CUBED,M SQUARED,OOPO,ORUNA,PA,T,UROONE,URUZEIRO,V,W,YURII"),
  ("SQUARE ", "LEFT OPEN BOX OPERATOR,LM,LN,LOG,LOZENGE,LX,M CUBED,M OHM,M OVER S"),
  ("SQUARE M", " OVER S SQUARED, SQUARED,A,AHHA,AIKURO,AIRU,ANSYON,ARUKU,B,B SMALL,EETORU,EGA"),
  ("SQUARE M", "EGATON,G,HZ,IKURON,IL,IRI,IRIBAARU,L,M,M CUBED,M SQUARED,OL,PA,S,U A,U F,U G,U L"),
  ("SQUARE ", "MU M,MU S,MU V,MU W,MV,MV MEGA,MW,MW MEGA,NA,NANO,NF,NM,NOTTO,NS,NV,NW,ONSU,OOMU"),
  ("SQUARE ORIGINAL OF", ", OR EQUAL TO, OR NOT EQUAL TO"),
  ("SQUARE ", "OV,PA,PA AMPS,PAASENTO,PAATU,PC,PEEZI,PENIHI,PENSU,PESO,PF,PH,PIASUTORU"),
  ("SQUARE ", "PIKO,PIKURU,PM,POINTO,PONDO,POSITION INDICATOR,PPM,PR,PS,PV,PW,RAD,RAD OVER S"),
  ("SQUARE R", "AD OVER S SQUARED,EMU,ENTOGEN,IGHT OPEN BOX OPERATOR,IRA,ITTORU,OOT,UPII,UUBURU"),
  ("SQUARE ", "SAIKURU,SANTIIMU,SENTI,SENTO,SIRINGU,SR,SV,TARGET,THZ,TON,UON,V OVER M,WATTO,WB"),
  ("SQUARE WITH ", "BOTTOM HALF BLACK,CONTOURED OUTLINE,DIAGONAL CROSSHATCH FILL,HORIZONTAL FILL"),
  ("SQUARE WITH L", "EFT HALF BLACK,OWER LEFT DIAGONAL HALF BLACK,OWER RIGHT DIAGONAL HALF BLACK"),
  ("SQUARE WITH ", "ORTHOGONAL CROSSHATCH FILL,RIGHT HALF BLACK,TOP HALF BLACK"),
  ("SQUARE WITH UPPER LEFT ", "DIAGONAL HALF BLACK,TO LOWER RIGHT FILL"),
  ("SQUARE WITH UPPER RIGHT ", "DIAGONAL HALF BLACK,TO LOWER LEFT FILL"),
  ("SQUARE", " WITH VERTICAL FILL, YAADO, YAARU, YUAN,D ASTERISK"),
  ("SQUARED CJK UNIFIED IDEOGRAPH-", "4E00,4E09,4E2D,4E8C,4EA4,518D"),
  ("SQUARED CJK UNIFIED IDEOGRAPH-5", "21D,24D,272,3CC,3F3,408,439,5B6,8F0,91A,929,B57,DE6,F8C"),
  ("SQUARED CJK UNIFIED IDEOGRAPH-6", "24B,253,295,307,355,599,5B0,620,708,709,E80,F14"),
  ("SQUARED CJK UNIFIED IDEOGRAPH-", "7121,751F,7533,7981,7A7A,7D42,89E3,8CA9,8D70,904A,914D"),
  ("SQUARED ", "CL,COOL,DOT OPERATOR,EIGHT K,FALLING DIAGONAL SLASH,FIVE POINT ONE"),
  ("SQUARED FOUR ", "DOT PUNCTUATION,K"),
  ("SQUARED ", "FREE,HC,HDR,HI-RES,HV,ID,KATAKANA DE,KATAKANA KOKO,KATAKANA SA,KEY"),
  ("SQUARED LATIN CAPITAL LETTER ", "A,B,C,D,E,F,G,H,I,J,K,L,M,N,O,P,Q,R,S,T,U,V,W,X,Y,Z"),
  ("SQUARED L", "ATIN SMALL LETTER D,OGICAL AND,OGICAL OR,OSSLESS"),
  ("SQUARED ", "MINUS,MV,NEW,NG,OK,ONE HUNDRED TWENTY P,PLUS,PPV,RISING DIAGONAL SLASH"),
  ("SQUARED S", "ALTIRE,D,ECOND SCREEN,EVEN POINT ONE,HV,IXTY P,MALL CIRCLE,OS,QUARE,S"),
  ("SQUARED ", "THREE D,TIMES,TWENTY-TWO POINT TWO,TWO K,UHD,UP WITH EXCLAMATION MARK,VOD,VS,WC"),
  ("S", "QUAT BLACK RIGHTWARDS ARROW,QUID,S2,S3,SA,T"),
  ("STA", "DIUM,FF OF AESCULAPIUS,FF OF HERMES,MPED ENVELOPE,NDING PERSON"),
  ("STAR ", "AND CRESCENT,EQUALS,OF DAVID,OPERATOR,WITH LEFT HALF BLACK,WITH RIGHT HALF BLACK"),
  ("START OF ", "GUARDED AREA,HEADING,PROTECTED AREA,SELECTED AREA,STRING,TEXT"),
  ("ST", "ATION,ATUE OF LIBERTY,EAM LOCOMOTIVE,EAMING BOWL,ENOGRAPHIC FULL STOP,ETHOSCOPE"),
  ("STICK FIGURE", ", LEANING LEFT, LEANING RIGHT, WITH ARMS RAISED, WITH DRESS"),
  ("ST", "OCK CHART,OPWATCH,RAIGHT RULER,RAIGHTNESS,RAWBERRY,RESS OUTLINED WHITE STAR"),
  ("S", "TRICTLY EQUIVALENT TO,TRING TERMINATOR,TS,TUDIO MICROPHONE,TUFFED FLATBREAD,TUPA,TX,UB"),
  ("SUBSCRIPT ", "EIGHT,EQUALS SIGN,FIVE,FOUR,LEFT PARENTHESIS,MINUS,NINE,ONE"),
  ("SUBSCRIPT ", "PLUS SIGN,RIGHT PARENTHESIS,SEVEN,SIX,THREE,TWO,ZERO"),
  ("SUBSET ", "ABOVE RIGHTWARDS ARROW,ABOVE SUBSET,ABOVE SUPERSET,OF"),
  ("SUBSET OF ABOVE ", "ALMOST EQUAL TO,EQUALS SIGN,NOT EQUAL TO,TILDE OPERATOR"),
  ("SUBSET ", "OF OR EQUAL TO,OF OR EQUAL TO WITH DOT ABOVE,OF WITH NOT EQUAL TO,WITH DOT"),
  ("SU", "BSET WITH MULTIPLICATION SIGN BELOW,BSET WITH PLUS SIGN BELOW,BSTITUTE,CCEEDS"),
  ("SUCCEEDS ABOVE ", "ALMOST EQUAL TO,EQUALS SIGN,NOT ALMOST EQUAL TO,NOT EQUAL TO"),
  ("SUCCEEDS ABOVE SINGLE-LINE ", "EQUALS SIGN,NOT EQUAL TO"),
  ("SUCCEEDS ", "BUT NOT EQUIVALENT TO,OR EQUAL TO,OR EQUIVALENT TO,UNDER RELATION"),
  ("SUMMATION ", "BOTTOM,TOP,WITH INTEGRAL"),
  ("SUN", ", BEHIND CLOUD, WITH FACE,DANESE AVAGRAHA"),
  ("SUNDANESE CONSONANT SIGN PA", "MINGKAL,NYAKRA,NYIKU,SANGAN MA,SANGAN WA"),
  ("SUNDANESE DIGIT ", "EIGHT,FIVE,FOUR,NINE,ONE,SEVEN,SIX,THREE,TWO,ZERO"),
  ("SUNDANESE LETTER ", "A,AE,BA,BHA,CA,DA,E,EU,FA,FINAL K,FINAL M,GA,HA,I,JA,KA,KHA,LA,LEU,MA,NA"),
  ("SUNDANESE LETTER ", "NGA,NYA,O,PA,QA,RA,REU,SA,SYA,TA,U,VA,WA,XA,YA,ZA"),
  ("SUNDANESE PUNCTUATION BINDU ", "BA SATANGA,CAKRA,DA SATANGA,KA SATANGA,LEU SATANGA,PANGLONG"),
  ("SUNDANESE PUNCTUATION BINDU ", "PURNAMA,SURYA"),
  ("SUNDANESE SIGN ", "PAMAAEH,PANGLAYAR,PANGWISAD,PANYECEK,VIRAMA"),
  ("SUNDANESE VOWEL SIGN PA", "MEPET,NAELAENG,NEULEUNG,NGHULU,NOLONG,NYUKU"),
  ("SU", "NFLOWER,NRISE,NRISE OVER MOUNTAINS,NSET OVER BUILDINGS,PERHERO"),
  ("SUPERSCRIPT ", "EIGHT,EQUALS SIGN,FIVE,FOUR,LATIN SMALL LETTER I,LATIN SMALL LETTER N"),
  ("SUPERSCRIPT ", "LEFT PARENTHESIS,MINUS,NINE,ONE,PLUS SIGN,RIGHT PARENTHESIS,SEVEN,SIX,THREE"),
  ("SUPERS", "CRIPT TWO,CRIPT ZERO,ET ABOVE LEFTWARDS ARROW,ET ABOVE SUBSET"),
  ("SUPERSET ", "ABOVE SUPERSET,BESIDE AND JOINED BY DASH WITH SUBSET,BESIDE SUBSET,OF"),
  ("SUPERSET OF ABOVE ", "ALMOST EQUAL TO,EQUALS SIGN,NOT EQUAL TO,TILDE OPERATOR"),
  ("SUPERSET OF OR EQUAL TO", ", WITH DOT ABOVE"),
  ("SUPERSET ", "OF WITH NOT EQUAL TO,PRECEDING SOLIDUS,WITH DOT,WITH MULTIPLICATION SIGN BELOW"),
  ("SU", "PERSET WITH PLUS SIGN BELOW,PERVILLAIN,RFACE INTEGRAL,RFER,SHI,SPENSION RAILWAY"),
  ("SW", "AN,ASH AMPERSAND ORNAMENT,IMMER,UNG DASH"),
  ("SYLOTI NAGRI LETTER ", "A,BHO,BO,CHO,CO,DDHO,DDO,DHO,DO,E,GHO,GO,HO,I,JHO,JO,KHO,KO,LO,MO"),
  ("SYLOTI NAGRI LETTER ", "NO,O,PHO,PO,RO,RRO,SO,THO,TO,TTHO,TTO,U"),
  ("SYLOTI NAGRI POETRY MARK-", "1,2,3,4"),
  ("SYLOTI NAGRI SIGN ", "ALTERNATE HASANTA,ANUSVARA,DVISVARA,HASANTA"),
  ("SYLOTI NAGRI VOWEL SIGN ", "A,E,I,OO,U"),
  ("SYMBOL FOR ", "ACKNOWLEDGE,BACKSPACE,BELL,CANCEL,CARRIAGE RETURN,DATA LINK ESCAPE"),
  ("SYMBOL FOR DELETE", ", FORM TWO"),
  ("SYMBOL FOR DEVICE CONTROL ", "FOUR,ONE,THREE,TWO"),
  ("SYMBOL FOR END OF ", "MEDIUM,TEXT,TRANSMISSION,TRANSMISSION BLOCK"),
  ("SYMBOL FOR ", "ENQUIRY,ESCAPE,FILE SEPARATOR,FORM FEED,GROUP SEPARATOR,HORIZONTAL TABULATION"),
  ("SYMBOL FOR ", "LINE FEED,MARKS CHAPTER,NEGATIVE ACKNOWLEDGE,NEWLINE,NULL,RECORD SEPARATOR"),
  ("SYMBOL FOR S", "AMARITAN SOURCE,HIFT IN,HIFT OUT,PACE,TART OF HEADING,TART OF TEXT,UBSTITUTE"),
  ("SYMBOL FOR ", "SUBSTITUTE FORM TWO,SYNCHRONOUS IDLE,TYPE A ELECTRONICS,UNIT SEPARATOR"),
  ("SY", "MBOL FOR VERTICAL TABULATION,MMETRY,N,NAGOGUE,NCHRONOUS IDLE,RIAC ABBREVIATION MARK"),
  ("SYRIAC ", "BARREKH,COLON SKEWED LEFT,COLON SKEWED RIGHT,CONTRACTION,DOTTED ZLAMA ANGULAR"),
  ("SYRIAC ", "DOTTED ZLAMA HORIZONTAL,END OF PARAGRAPH,ESASA ABOVE,ESASA BELOW,FEMININE DOT"),
  ("SYRIAC HARKLEAN ", "ASTERISCUS,METOBELUS,OBELUS"),
  ("SYRIAC H", "BASA ABOVE,BASA BELOW,BASA-ESASA DOTTED,ORIZONTAL COLON"),
  ("SYRIAC LETTER ", "ALAPH,BETH,DALATH,DOTLESS DALATH RISH,E,FINAL SEMKATH,GAMAL,GAMAL GARSHUNI"),
  ("SYRIAC LETTER ", "HE,HETH,KAPH,LAMADH"),
  ("SYRIAC LETTER MALAYALAM ", "BHA,JA,LLA,LLLA,NGA,NNA,NNNA,NYA,RA,SSA,TTA"),
  ("SYRIAC LETTER ", "MIM,NUN,PE,PERSIAN BHETH,PERSIAN DHALATH,PERSIAN GHAMAL,QAPH,REVERSED PE"),
  ("SYRIAC LETTER ", "RISH,SADHE,SEMKATH,SHIN,SOGDIAN FE,SOGDIAN KHAPH,SOGDIAN ZHAIN"),
  ("SYRIAC LETTER ", "SUPERSCRIPT ALAPH,TAW,TETH,TETH GARSHUNI,WAW,YUDH,YUDH HE,ZAIN"),
  ("SYRIAC ", "MUSIC,OBLIQUE LINE ABOVE,OBLIQUE LINE BELOW,PTHAHA ABOVE,PTHAHA BELOW"),
  ("SYRIAC ", "PTHAHA DOTTED,QUSHSHAYA,RBASA ABOVE,RBASA BELOW,RUKKAKHA,RWAHA"),
  ("SYRIAC SUBLINEAR ", "COLON,COLON SKEWED LEFT,COLON SKEWED RIGHT,FULL STOP"),
  ("SYRIAC SUPRALINEAR ", "COLON,COLON SKEWED LEFT,FULL STOP"),
  ("SYRIAC T", "HREE DOTS ABOVE,HREE DOTS BELOW,WO VERTICAL DOTS ABOVE,WO VERTICAL DOTS BELOW"),
  ("SYRI", "AC ZQAPHA ABOVE,AC ZQAPHA BELOW,AC ZQAPHA DOTTED,NGE")]

end ModelBindings.Text.CharacterName
