/-!
# Character names that start with C
-/

set_option autoImplicit false

namespace ModelBindings.Text.CharacterName

/-- The character names that start with C, in groups. -/
def namesC : List (String × String) := [
  ("CA", "CTUS,DA UNA,DUCEUS,LENDAR,LL ME HAND,MERA,MERA WITH FLASH,MPING,N"),
  ("CANADIAN SYLLABICS A", ",A,AI,AY,I,IVILIK B,N,THAPASCAN M,THAPASCAN S,Y"),
  ("CANADIAN SYLLABICS B", "EAVER DENE L,EAVER DENE R,IBLE-CREE Y"),
  ("CANADIAN SYLLABICS BLACKFOOT ", "A,E,I,KA,KE,KI,KO,NA,NE,NI,NO,O,S,W,WA,WE,WI,WO"),
  ("CANADIAN SYLLABICS C", ",A,AA,AAI,ARRIER CHA"),
  ("CANADIAN SYLLABICS CARRIER ", "CHE,CHEE,CHI,CHO,CHU,DEE,DENE GEE,DENTAL S,DI,DLA,DLE,DLEE,DLI"),
  ("CANADIAN SYLLABICS CARRIER ", "DLO,DLU,DZA,DZE,DZEE,DZI,DZO,DZU,EE,GA,GAA,GE,GEE,GHA,GHE,GHEE"),
  ("CANADIAN SYLLABICS CARRIER ", "GHI,GHO,GHU,GI,GO,GU,GWA,GWU,H,HEE,HI,HWA,HWE,HWEE,HWI,HWO,HWU"),
  ("CANADIAN SYLLABICS CARRIER ", "I,INITIAL Z,JA,JE,JEE,JI,JJA,JJE,JJEE,JJI,JJO,JJU,JO,JU,JWA"),
  ("CANADIAN SYLLABICS CARRIER K", "HA,HE,HEE,HI,HO,HU,K,KA,KE,KEE,KI,KO,KU"),
  ("CANADIAN SYLLABICS CARRIER ", "LA,LE,LEE,LHA,LHE,LHEE,LHI,LHO,LHU,LI,LO,LU,MA,ME,MEE,MI,MO,MU"),
  ("CANADIAN SYLLABICS CARRIER ", "NA,NE,NEE,NG,NI,NO,NU,P,PA,PE,PEE,PI,PO,PU,RA,RE,REE,RI,RO,RU"),
  ("CANADIAN SYLLABICS CARRIER ", "SA,SE,SEE,SH,SHA,SHE,SHEE,SHI,SHO,SHU,SI,SO,SU,THA,THE"),
  ("CANADIAN SYLLABICS CARRIER T", "HEE,HI,HO,HU,LA,LE,LEE,LHA,LHE,LHEE,LHI,LHO,LHU,LI,LO,LU,SA"),
  ("CANADIAN SYLLABICS CARRIER T", "SE,SEE,SI,SO,SU,TA,TE,TEE,TI,TO,TSA,TSE,TSEE,TSI,TSO,TSU,TU"),
  ("CANADIAN SYLLABICS CARRIER ", "WA,WE,WEE,WI,WO,WU,YA,YE,YEE,YI,YO,YU,Z,ZA,ZE,ZEE,ZI,ZO,ZU"),
  ("CANADIAN SYLLABICS C", "E,HI SIGN,I,II,O,OO,WA,WAA,WE,WI,WII,WO,WOO"),
  ("CANADIAN SYLLABICS ", "E,EASTERN W,EN,F,FA,FAA,FAAI,FE,FI,FII,FINAL ACUTE"),
  ("CANADIAN SYLLABICS FINAL ", "BOTTOM HALF RING,DOUBLE ACUTE,DOUBLE SHORT VERTICAL STROKES"),
  ("CANADIAN SYLLABICS FINAL ", "DOWN TACK,GRAVE,MIDDLE DOT,PLUS,RAISED DOT,RIGHT HALF RING,RING"),
  ("CANADIAN SYLLABICS FINAL ", "SHORT HORIZONTAL STROKE,SMALL RING,TOP HALF RING"),
  ("CANADIAN SYLLABICS ", "FO,FOO,FULL STOP,FWAA,GLOTTAL STOP,HK,HYPHEN,I,II,IN"),
  ("CANADIAN SYLLABICS K", ",A,AA,AAI,AY,E,I,II,O,OO,W,WA,WAA,WAY,WE,WI,WII,WO,WOO"),
  ("CANADIAN SYLLABICS L", ",A,AA,AAI,AY,E,H,HA,HAA,HI,HII,HO,HOO,I,II,O,OO,WA,WAA,WE,WI,WII,WO"),
  ("CANADIAN SYLLABICS ", "LWOO,M,MA,MAA,MAAI"),
  ("CANADIAN SYLLABICS M", "AY,E,EDIAL L,EDIAL R,H,I,II,O,OO,OOSE-CREE SK,WA,WAA,WE,WI,WII,WO,WOO"),
  ("CANADIAN SYLLABICS N", ",-CREE THE,-CREE THI,-CREE THII,A,AA,AAI,ASKAPI CWAA,ASKAPI KWAA"),
  ("CANADIAN SYLLABICS NASKAPI ", "MWAA,NWAA,S-W,SCWA,SKW,SKWA,SPWA,STWA,SWAA,TWAA,WAA,WOO,YWAA"),
  ("CANADIAN SYLLABICS NATTILIK ", "HA,HAA,HI,HII,HO,HOO,SHRA,SHRAA,SHRI,SHRII,SHRO,SHROO"),
  ("CANADIAN SYLLABICS N", "AY,E,G,GA,GAA,GAAI,GAI,GI,GII,GO,GOO,H,I,II,NG,NGA,NGAA,NGI,NGII,NGO"),
  ("CANADIAN SYLLABICS N", "NGOO,O,OO,OY,UNAVIK H,UNAVIK HA,UNAVIK HAA,UNAVIK HE,UNAVIK HI"),
  ("CANADIAN SYLLABICS N", "UNAVIK HII,UNAVIK HO,UNAVIK HOO,UNAVUT H,WA,WAA,WE,WI,WII,WO,WOO"),
  ("CANADIAN SYLLABICS O", ",JIBWAY C,JIBWAY K,JIBWAY M,JIBWAY N,JIBWAY NWI,JIBWAY NWII"),
  ("CANADIAN SYLLABICS O", "JIBWAY NWO,JIBWAY NWOO,JIBWAY P,JIBWAY S,JIBWAY SH,JIBWAY T,N,O,Y"),
  ("CANADIAN SYLLABICS P", ",A,AA,AAI,AY,E,I,II,O,OO,OY,WA,WAA,WE,WI,WII,WO,WOO,WOY"),
  ("CANADIAN SYLLABICS ", "Q,QA,QAA,QAAI,QAI,QI,QII,QO,QOO,R,R-CREE RE,R-CREE RWE,RA,RAA,RAAI,RAY"),
  ("CANADIAN SYLLABICS ", "RE,RI,RII,RO,ROO,RWA,RWAA,RWEE,RWI,RWII,RWO,RWOO,S,SA,SAA,SAAI,SAY"),
  ("CANADIAN SYLLABICS SAYISI ", "HA,HE,HI,HO,HOO,JI,JU,JUU,M,SHA,SHE,SHI,SHO,SHOO,SHWE,TH,YI"),
  ("CANADIAN SYLLABICS S", "E,H,HA,HAA,HAY,HE,HI,HII,HO,HOO,HOY,HWA,HWAA,HWE,HWI,HWII,HWO"),
  ("CANADIAN SYLLABICS S", "HWOO,HWOY,I,II,O,OO,OUTH-SLAVEY KAH,OUTH-SLAVEY KEH,OUTH-SLAVEY KIH"),
  ("CANADIAN SYLLABICS S", "OUTH-SLAVEY KOH,OY,PA,PE,PI,PO,W,WA,WAA,WE,WI,WII,WO,WOO"),
  ("CANADIAN SYLLABICS T", ",A,AA,AAI,AY,E,H"),
  ("CANADIAN SYLLABICS TH-CREE TH", ",A,AA,E,I,II,O,OO"),
  ("CANADIAN SYLLABICS T", "HA,HAA,HE,HI,HII,HO,HOO,HWA,HWAA,HWE,I,II,LHA,LHE,LHI,LHO,LHOO,LHWE,O"),
  ("CANADIAN SYLLABICS T", "OO,TA,TE,TH,THA,THAA,THE,THI,THO,THOO,THWE,TI,TO,WA,WAA,WE,WI,WII,WO"),
  ("CANADIAN SYLLABICS ", "TWOO,TYA,TYE,TYI,TYO,WA,WAA,WAY,WE,WEST-CREE CWA"),
  ("CANADIAN SYLLABICS WEST-CREE ", "CWAA,CWE,CWI,CWII,CWO,CWOO,FWAA,KWA,KWAA,KWE,KWI,KWII,KWO"),
  ("CANADIAN SYLLABICS WEST-CREE ", "KWOO,L,LA,LAA,LE,LO,LOO,LWA,LWAA,LWE,LWI,LWII,LWO,LWOO,M,MWA"),
  ("CANADIAN SYLLABICS WEST-CREE ", "MWAA,MWE,MWI,MWII,MWO,MWOO,NWA,NWAA,NWE,P,PWA,PWAA,PWE,PWI"),
  ("CANADIAN SYLLABICS WEST-CREE ", "PWII,PWO,PWOO,R,RA,RE,RI,RO,RWAA,SHWA,SHWAA,SHWE,SHWI,SHWII"),
  ("CANADIAN SYLLABICS WEST-CREE ", "SHWO,SHWOO,SWA,SWAA,SWE,SWI,SWII,SWO,SWOO,THWAA,TWA,TWAA,TWE"),
  ("CANADIAN SYLLABICS WEST-CREE ", "TWI,TWII,TWO,TWOO,WA,WAA,WE,WI,WII,WO,WOO,Y,YWA,YWAA,YWE,YWI"),
  ("CANADIAN SYLLABICS W", "EST-CREE YWII,EST-CREE YWO,EST-CREE YWOO,ESTERN W,I,II,O,OO"),
  ("CANADIAN SYLLABICS WOODS-CREE ", "FINAL TH,TH,THA,THE,THI,THO,THWA,THWAA,THWEE,THWI,THWII"),
  ("CANADIAN SYLLABICS ", "WOODS-CREE THWO,WOODS-CREE THWOO,Y"),
  ("CANADIAN SYLLABICS Y-CREE ", "COO,KOO,LOO,MOO,NOO,OO,POO,PWAA,SOO,TOO,W,YOO"),
  ("CANADIAN SYLLABICS Y", "A,AA,AAI,AY,E,I,II,O,OO,OY,WA,WAA,WE,WI,WII,WO,WOO"),
  ("CA", "NCEL,NCEL CHARACTER,NCEL TAG,NCELLATION X,NCER,NDLE,NDY,NNED FOOD,NOE,PITULUM,PRICORN"),
  ("CAR", " SLIDING,D FILE BOX,D INDEX,D INDEX DIVIDERS,E OF,ET,ET INSERTION POINT"),
  ("CARIAN LETTER ", "A,A2,B,C-18,C-39,D,D2,E,E2,G,G2,I,II,K,K2,L,LD,LD2,M,MB,MB2,MB3,MB4,N,ND,NG"),
  ("CARIAN LETTER ", "NN,O,P,P2,Q,R,RR,S,SH,SH2,SS,ST,ST2,T,TT,TT2,U,UU,UUU,UUU2,UUU3,UUUU,X"),
  ("CA", "RON,ROUSEL HORSE,RP STREAMER,RPENTRY SAW,RRIAGE RETURN,RROT,STLE,T,T FACE"),
  ("CA", "T FACE WITH TEARS OF JOY,T FACE WITH WRY SMILE,UCASIAN ALBANIAN CITATION MARK"),
  ("CAUCASIAN ALBANIAN LETTER ", "ALT,AOR,BET,CAR,CAYN,CHA,CHAT,CHI,CHOY,CYAW,CYAY,DAT,DYAN,DZAY"),
  ("CAUCASIAN ALBANIAN LETTER ", "DZYAY,EB,EYN,FAM,GHEYS,GIM,HEYT,INYA,IRB,IWN,JAYN,JHOX,KAR,KIW"),
  ("CAUCASIAN ALBANIAN LETTER ", "LAN,LYIT,MAQ,NOWC,ON,PEN,PIWR,QAR,QAY,RAT,SEYK,SHA,SHAK,SHOY"),
  ("CAUCASIAN ALBANIAN LETTER ", "TAS,TIWR,TYAY,VEYZ,XEYN,YAYD,YOWD,ZARL,ZHA,ZHIL"),
  ("C", "AUTION SIGN,CH,EDI SIGN,EDILLA,ELTIC CROSS,ENT SIGN,ENTRE LINE SYMBOL,ENTRELINE LOW LINE"),
  ("C", "ENTRELINE OVERLINE,ERES,GJ,HAINS,HAIR,HAKMA AU MARK,HAKMA DANDA"),
  ("CHAKMA DIGIT ", "EIGHT,FIVE,FOUR,NINE,ONE,SEVEN,SIX,THREE,TWO,ZERO"),
  ("CHAKMA DOUBLE DANDA", ""),
  ("CHAKMA LETTER ", "AA,BAA,BHAA,CAA,CHAA,DAA,DDAA,DDHAA,DHAA,E,GAA,GHAA,HAA,I,JAA,JHAA,KAA,KHAA"),
  ("CHAKMA LETTER ", "LAA,LHAA,MAA,NAA,NGAA,NNAA,NYAA,PAA,PHAA,RAA,SAA,TAA,THAA,TTAA,TTHAA,U,VAA"),
  ("CHAKMA ", "LETTER WAA,LETTER YAA,LETTER YYAA,MAAYYAA,O MARK,QUESTION MARK,SECTION MARK"),
  ("CHAKMA ", "SIGN ANUSVARA,SIGN CANDRABINDU,SIGN VISARGA,VIRAMA"),
  ("CHAKMA VOWEL SIGN ", "A,AA,AI,AU,E,EI,I,II,O,OI,U,UU"),
  ("CHAM CONSONANT SIGN ", "FINAL H,FINAL M,FINAL NG,LA,RA,WA,YA"),
  ("CHAM DIGIT ", "EIGHT,FIVE,FOUR,NINE,ONE,SEVEN,SIX,THREE,TWO,ZERO"),
  ("CHAM LETTER ", "A,AI,BA,BBA,BHA,CHA,CHHA,DA,DDA,DHA,E"),
  ("CHAM LETTER FINAL ", "CH,G,K,L,N,NG,P,R,SS,T,Y"),
  ("CHAM LETTER ", "GA,GHA,HA,I,JA,JHA,KA,KHA,LA,MA,MUE,NA,NGA,NGUE,NHA,NHJA,NHUE,NUE,O,PA,PHA"),
  ("CHAM LETTER ", "PPA,RA,SA,SSA,TA,THA,U,VA,YA"),
  ("CHAM PUNCTUATION ", "DANDA,DOUBLE DANDA,SPIRAL,TRIPLE DANDA"),
  ("CHAM VOWEL SIGN ", "AA,AI,AU,EI,I,II,O,OE,U,UE"),
  ("CHARACTER T", "ABULATION,ABULATION SET,ABULATION WITH JUSTIFICATION,IE"),
  ("CHART WITH ", "DOWNWARDS TREND,UPWARDS TREND,UPWARDS TREND AND YEN SIGN"),
  ("CHE", "CK MARK,CKER BOARD,CKER BOARD FILL,ERING MEGAPHONE,ESE WEDGE,QUERED FLAG"),
  ("CHEROKEE LETTER ", "A,DA,DE,DI,DLA,DO,DU,DV,E,GA,GE,GI,GO,GU,GV,HA,HE,HI,HNA,HO,HU,HV,I,KA"),
  ("CHEROKEE LETTER ", "LA,LE,LI,LO,LU,LV,MA,ME,MI,MO,MU,MV,NA,NAH,NE,NI,NO,NU,NV"),
  ("CHEROKEE LETTER ", "O,QUA,QUE,QUI,QUO,QUU,QUV,S,SA,SE,SI,SO,SU,SV,TA,TE,TI,TLA,TLE,TLI,TLO"),
  ("CHEROKEE LETTER ", "TLU,TLV,TSA,TSE,TSI,TSO,TSU,TSV,U,V,WA,WE,WI,WO,WU,WV,YA,YE,YI,YO,YU,YV"),
  ("CHEROKEE SMALL LETTER ", "A,DA,DE,DI,DLA,DO,DU,DV,E,GA,GE,GI,GO,GU,GV,HA,HE,HI,HNA,HO,HU,HV,I"),
  ("CHEROKEE SMALL LETTER ", "KA,LA,LE,LI,LO,LU,LV,MA,ME,MI,MO,MU,MV,NA,NAH,NE,NI,NO,NU,NV,O,QUA"),
  ("CHEROKEE SMALL LETTER ", "QUE,QUI,QUO,QUU,QUV,S,SA,SE,SI,SO,SU,SV,TA,TE,TI,TLA,TLE,TLI,TLO"),
  ("CHEROKEE SMALL LETTER ", "TLU,TLV,TSA,TSE,TSI,TSO,TSU,TSV,U,V,WA,WE,WI,WO,WU,WV,YA,YE,YI,YO"),
  ("CHER", "OKEE SMALL LETTER YU,OKEE SMALL LETTER YV,RIES,RY BLOSSOM"),
  ("CH", "ESTNUT,I RHO,ICKEN,ILD,ILDREN CROSSING,IPMUNK,IRON,OCOLATE BAR,OPSTICKS"),
  ("CHORASMIAN LETTER ", "ALEPH,AYIN,BETH,CURLED WAW,DALETH,GIMEL,HE,HETH,KAPH,LAMEDH,MEM,NUN,PE"),
  ("CHORASMIAN LETTER ", "RESH,SAMEKH,SHIN,SMALL ALEPH,TAW,WAW,YODH,ZAYIN"),
  ("CHORASMIAN NUMBER ", "FOUR,ONE,ONE HUNDRED,TEN,THREE,TWENTY,TWO"),
  ("CH", "RISTMAS TREE,URCH"),
  ("CI", "NEMA,RCLE DIVIDED BY HORIZONTAL BAR AND TOP HALF DIVIDED BY VERTICAL BAR"),
  ("CIRCLE WITH ", "ALL BUT UPPER LEFT QUADRANT BLACK,HORIZONTAL BAR,LEFT HALF BLACK"),
  ("CIRCLE WITH ", "LOWER HALF BLACK,RIGHT HALF BLACK,SMALL CIRCLE TO THE RIGHT,SUPERIMPOSED X"),
  ("CIRCLE WITH ", "TWO HORIZONTAL STROKES TO THE RIGHT,UPPER HALF BLACK"),
  ("CIRCLE WITH ", "UPPER RIGHT QUADRANT BLACK,VERTICAL FILL"),
  ("CIRCLED ", "ANTICLOCKWISE ARROW,ANTICLOCKWISE-ROTATED DIVISION SIGN,ASTERISK OPERATOR,BOLD X"),
  ("CIRCLED ", "BULLET,C WITH OVERLAID BACKSLASH,CC,CD,CROSS FORMEE,CROSS FORMEE WITH FOUR DOTS"),
  ("CIRCLED ", "CROSS FORMEE WITH TWO DOTS,CROSS POMMEE,CROSSING LANES,DASH"),
  ("CIRCLED DIGIT ", "EIGHT,FIVE,FOUR,NINE,ONE,SEVEN,SIX,THREE,TWO,ZERO"),
  ("CIRCLED DIVISION S", "IGN,LASH"),
  ("CIRCLED ", "DOLLAR SIGN WITH OVERLAID BACKSLASH,DOT OPERATOR,EQUALS,GREATER-THAN"),
  ("CIRCLED HANGUL ", "CHIEUCH,CHIEUCH A,CIEUC,CIEUC A,HIEUH,HIEUH A,IEUNG,IEUNG A,IEUNG U"),
  ("CIRCLED HANGUL ", "KHIEUKH,KHIEUKH A,KIYEOK,KIYEOK A,MIEUM,MIEUM A,NIEUN,NIEUN A,PHIEUPH"),
  ("CIRCLED HANGUL ", "PHIEUPH A,PIEUP,PIEUP A,RIEUL,RIEUL A,SIOS,SIOS A,THIEUTH,THIEUTH A,TIKEUT"),
  ("CIRCLED H", "ANGUL TIKEUT A,EAVY WHITE RIGHTWARDS ARROW,ORIZONTAL BAR WITH NOTCH,UMAN FIGURE"),
  ("CIRCLED IDEOGRAPH ", "ACCEPT,ADVANTAGE,ALLIANCE,ATTENTION,CENTRE,CONGRATULATION,COPY,CORRECT"),
  ("CIRCLED IDEOGRAPH ", "EARTH,EIGHT,ENTERPRISE,EXCELLENT,FEMALE,FINANCIAL,FIRE,FIVE,FOUR,HAVE"),
  ("CIRCLED IDEOGRAPH ", "HIGH,ITEM,KINDERGARTEN,KOTO,LABOR,LEFT,LOW,MALE,MEDICINE,METAL"),
  ("CIRCLED IDEOGRAPH ", "MOON,NAME,NIGHT,NINE,ONE,PRINT,QUESTION,RELIGION,RESOURCE,REST,RIGHT"),
  ("CIRCLED IDEOGRAPH S", "CHOOL,ECRET,EVEN,IX,OCIETY,PECIAL,TOCK,TUDY,UITABLE,UN,UPERVISE"),
  ("CIRCLED IDEOGRAPH ", "TEN,THREE,TWO,WATER,WOOD"),
  ("CIRCLED I", "NFORMATION SOURCE,TALIC LATIN CAPITAL LETTER C,TALIC LATIN CAPITAL LETTER R"),
  ("CIRCLED KATAKANA ", "A,E,HA,HE,HI,HO,HU,I,KA,KE,KI,KO,KU,MA,ME,MI,MO,MU,NA,NE,NI,NO,NU"),
  ("CIRCLED KATAKANA ", "O,RA,RE,RI,RO,RU,SA,SE,SI,SO,SU,TA,TE,TI,TO,TU,U,WA,WE,WI,WO,YA,YO,YU"),
  ("CIRCLED KOREAN CHARACTER ", "CHAMKO,JUEUI"),
  ("CIRCLED LATIN CAPITAL LETTER ", "A,B,C,D,E,F,G,H,I,J,K,L,M,N,O,P,Q,R,S,T,U,V,W,X,Y,Z"),
  ("CIRCLED LATIN SMALL LETTER ", "A,B,C,D,E,F,G,H,I,J,K,L,M,N,O,P,Q,R,S,T,U,V,W,X,Y,Z"),
  ("CIRCLED ", "LESS-THAN,MINUS,MULTIPLICATION SIGN WITH CIRCUMFLEX ACCENT,NUMBER EIGHTEEN"),
  ("CIRCLED NUMBER ", "EIGHTY ON BLACK SQUARE,ELEVEN,FIFTEEN,FIFTY,FIFTY ON BLACK SQUARE,FORTY"),
  ("CIRCLED NUMBER FORTY ", "EIGHT,FIVE,FOUR,NINE,ON BLACK SQUARE,ONE,SEVEN,SIX,THREE,TWO"),
  ("CIRCLED NUMBER ", "FOURTEEN,NINETEEN,SEVENTEEN,SEVENTY ON BLACK SQUARE,SIXTEEN"),
  ("CIRCLED NUMBER ", "SIXTY ON BLACK SQUARE,TEN,TEN ON BLACK SQUARE,THIRTEEN,THIRTY"),
  ("CIRCLED NUMBER THIRTY ", "EIGHT,FIVE,FOUR,NINE,ON BLACK SQUARE,ONE,SEVEN,SIX,THREE,TWO"),
  ("CIRCLED NUMBER TWE", "LVE,NTY"),
  ("CIRCLED NUMBER TWENTY ", "EIGHT,FIVE,FOUR,NINE,ON BLACK SQUARE,ONE,SEVEN,SIX,THREE,TWO"),
  ("CIRCLED ", "OPEN CENTRE EIGHT POINTED STAR,PARALLEL,PERPENDICULAR,PLUS"),
  ("CIRCLED ", "POSTAL MARK,REVERSE SOLIDUS,RING OPERATOR,SQUARE,TIMES,TRIANGLE"),
  ("CIRCLED ", "TRIANGLE DOWN,VERTICAL BAR,WHITE BULLET,WHITE STAR,WZ,X,ZERO WITH SLASH"),
  ("CI", "RCULATION FUNCTION,RCUMFLEX ACCENT,RCUS TENT,TYSCAPE,TYSCAPE AT DUSK"),
  ("CJK RADICAL B", "AMBOO,LUE,OLT OF CLOTH,ONE,OX,RUSH ONE,RUSH TWO"),
  ("CJK RADICAL C-SIMPLIFIED ", "BIRD,CART,DRAGON,EAT,EVEN,FISH,FLY,FROG,GATE,GOLD,HORSE,LEAF"),
  ("CJK RADICAL C-SIMPLIFIED ", "LONG,SALT,SEE,SHELL,SILK,SPEECH,TANNED LEATHER,TOOTH,TURTLE,WIND"),
  ("CJK RADICAL ", "CHOKE,CITY,CIVILIAN,CLIFF,CLOTHES,COW,DEATH,DIVINATION,DOG,EAT ONE,EAT THREE"),
  ("CJK RADICAL ", "EAT TWO,EWE,EYE,FIRE,FOOT,GHOST,GRASS ONE,GRASS THREE,GRASS TWO,HAND"),
  ("CJK RADICAL ", "HEAD,HEART ONE,HEART TWO,HORN,J-SIMPLIFIED DRAGON,J-SIMPLIFIED EVEN"),
  ("CJK RADICAL ", "J-SIMPLIFIED TOOTH,J-SIMPLIFIED TURTLE,JADE,KNIFE ONE,KNIFE TWO,LAME FOUR"),
  ("CJK RADICAL ", "LAME ONE,LAME THREE,LAME TWO,LONG ONE,LONG TWO,MEAT,MESH,MOON,MORTAR,MOTHER"),
  ("CJK RADICAL ", "MOUND ONE,MOUND TWO,NET FOUR,NET ONE,NET THREE,NET TWO,OLD,PAW ONE,PAW TWO"),
  ("CJK RADICAL ", "PERSON,RAIN,RAM,RAP,REPEAT,SEAL,SECOND ONE,SECOND THREE,SECOND TWO,SHEEP,SILK"),
  ("CJK RADICAL SIMPLIFIED ", "HALF TREE TRUNK,HORN,WALK,WHEAT,YELLOW"),
  ("CJK RADICAL ", "SMALL ONE,SMALL TWO,SNAKE,SNOUT ONE,SNOUT TWO,SPIRIT ONE,SPIRIT TWO,SUN,TABLE"),
  ("CJK RADICAL ", "THREAD,TIGER,TURTLE,WALK ONE,WALK TWO,WATER ONE,WATER TWO,WEST ONE,WEST TWO"),
  ("CJK STROKE ", "BXG,D,H,HG,HP,HPWG,HXWG,HZ,HZG,HZT,HZW,HZWG,HZZ,HZZP,HZZZ,HZZZG,N,P,PD,PG,PZ,Q"),
  ("CJK STROKE ", "S,SG,SP,ST,SW,SWG,SWZ,SZ,SZWG,SZZ,T,TN,WG,XG"),
  ("CLA", "MSHELL MOBILE PHONE,PPER BOARD,PPING HANDS SIGN,SSICAL BUILDING"),
  ("CL", "EAR SCREEN SYMBOL,INKING BEER MUGS,INKING GLASSES,IPBOARD"),
  ("CLOCK FACE ", "EIGHT OCLOCK,EIGHT-THIRTY,ELEVEN OCLOCK,ELEVEN-THIRTY,FIVE OCLOCK,FIVE-THIRTY"),
  ("CLOCK FACE ", "FOUR OCLOCK,FOUR-THIRTY,NINE OCLOCK,NINE-THIRTY,ONE OCLOCK,ONE-THIRTY"),
  ("CLOCK FACE ", "SEVEN OCLOCK,SEVEN-THIRTY,SIX OCLOCK,SIX-THIRTY,TEN OCLOCK,TEN-THIRTY"),
  ("CLOCK FACE T", "HREE OCLOCK,HREE-THIRTY,WELVE OCLOCK,WELVE-THIRTY,WO OCLOCK,WO-THIRTY"),
  ("CLOCKWISE ", "CLOSED CIRCLE ARROW,CONTOUR INTEGRAL,DOWNWARDS AND UPWARDS OPEN CIRCLE ARROWS"),
  ("CLOCKWISE ", "GAPPED CIRCLE ARROW,INTEGRAL,OPEN CIRCLE ARROW,RIGHT AND LEFT SEMICIRCLE ARROWS"),
  ("CLOCKWISE RIGHTWARDS AND LEFTWARDS OPEN CIRCLE ARROWS", ", WITH CIRCLED ONE OVERLAY"),
  ("CLOCKWISE T", "OP SEMICIRCLE ARROW,RIANGLE-HEADED OPEN CIRCLE ARROW"),
  ("CLOSE", " UP,D BOOK,D INTERSECTION WITH SERIFS,D LOCK WITH KEY,D MAILBOX WITH LOWERED FLAG"),
  ("CLOSED ", "MAILBOX WITH RAISED FLAG,SUBSET,SUBSET OR EQUAL TO,SUPERSET,SUPERSET OR EQUAL TO"),
  ("CLOSED U", "MBRELLA,NION WITH SERIFS,NION WITH SERIFS AND SMASH PRODUCT"),
  ("CLO", "UD,UD WITH LIGHTNING,UD WITH RAIN,UD WITH SNOW,UD WITH TORNADO,WN FACE"),
  ("CO", "AT,CKROACH,CKTAIL GLASS,CONUT,FFIN,IN,LLISION SYMBOL,LON,LON EQUALS,LON SIGN"),
  ("COMBINING ACUTE", " ACCENT, ACCENT BELOW, TONE MARK,-GRAVE-ACUTE,-MACRON"),
  ("COMBINING A", "LMOST EQUAL TO ABOVE,LMOST EQUAL TO BELOW,NNUITY SYMBOL"),
  ("COMBINING A", "NTICLOCKWISE ARROW ABOVE,NTICLOCKWISE RING OVERLAY,STERISK ABOVE,STERISK BELOW"),
  ("COMBINING B", "INDU BELOW,REVE,REVE BELOW,REVE-MACRON,RIDGE ABOVE,RIDGE BELOW"),
  ("COMBINING C", "ANDRABINDU,ARON,ARON BELOW,EDILLA,IRCUMFLEX ACCENT,IRCUMFLEX ACCENT BELOW"),
  ("COMBINING CLOCKWISE ", "ARROW ABOVE,RING OVERLAY"),
  ("COMBINING CO", "MMA ABOVE,MMA ABOVE RIGHT,MMA BELOW,NJOINING MACRON,NJOINING MACRON BELOW"),
  ("COMBINING CYRILLIC ", "DASIA PNEUMATA,HUNDRED MILLIONS SIGN,HUNDRED THOUSANDS SIGN,KAVYKA"),
  ("COMBINING CYRILLIC LETTER ", "A,BE,BIG YUS,CHE,DE,DJERV,EF,EL,EM,EN,ER,ES,ES-TE,FITA"),
  ("COMBINING CYRILLIC LETTER ", "GHE,HA,HARD SIGN,I,IE,IOTIFIED A,IOTIFIED BIG YUS,IOTIFIED E,KA"),
  ("COMBINING CYRILLIC LETTER ", "LITTLE YUS,MONOGRAPH UK,O,OMEGA,PE,SHA,SHCHA,SOFT SIGN,TE,TSE,U"),
  ("COMBINING CYRILLIC LETTER ", "UKRAINIAN IE,VE,YAT,YERU,YI,YU,ZE,ZHE"),
  ("COMBINING CYRILLIC ", "MILLIONS SIGN,PALATALIZATION,PAYEROK,POKRYTIE,PSILI PNEUMATA"),
  ("COMBINING CYRILLIC T", "EN MILLIONS SIGN,HOUSAND MILLIONS SIGN,ITLO,ITLO LEFT HALF"),
  ("COMBINING ", "CYRILLIC TITLO RIGHT HALF,CYRILLIC VZMET,DELETION MARK"),
  ("COMBINING DEVANAGARI DIGIT ", "EIGHT,FIVE,FOUR,NINE,ONE,SEVEN,SIX,THREE,TWO,ZERO"),
  ("COMBINING DEVANAGARI LETTER ", "A,KA,NA,PA,RA,U,VI"),
  ("COMBINING D", "EVANAGARI SIGN AVAGRAHA,IAERESIS,IAERESIS BELOW,IAERESIS-RING"),
  ("COMBINING DOT ABOVE", ", LEFT, RIGHT"),
  ("COMBINING DO", "T BELOW,T BELOW LEFT,TTED ACUTE ACCENT,TTED GRAVE ACCENT,UBLE ACUTE ACCENT"),
  ("COMBINING DOUBLE ", "BREVE,BREVE BELOW,CIRCUMFLEX ABOVE,GRAVE ACCENT,INVERTED BREVE"),
  ("COMBINING DOUBLE ", "INVERTED BREVE BELOW,LOW LINE,MACRON,MACRON BELOW,OPEN MARK BELOW"),
  ("COMBINING DOUBLE ", "OVERLINE,PARENTHESES ABOVE,PLUS SIGN ABOVE,PLUS SIGN BELOW"),
  ("COMBINING DOUBLE ", "RIGHTWARDS ARROW BELOW,RING BELOW,TILDE,TILDE LEFT HALF,TILDE RIGHT HALF"),
  ("COMBINING DOUBLE VERTICAL ", "LINE ABOVE,LINE BELOW,STROKE OVERLAY"),
  ("COMBINING DO", "UBLED CIRCUMFLEX ACCENT,WN TACK BELOW,WNWARDS ARROW"),
  ("COMBINING ENCLOSING ", "CIRCLE,CIRCLE BACKSLASH,DIAMOND,KEYCAP,SCREEN,SQUARE"),
  ("COMBINING ", "ENCLOSING UPWARD POINTING TRIANGLE,EQUALS SIGN BELOW,FERMATA,FOUR DOTS ABOVE"),
  ("COMBINING GLAGOLITIC LETTER ", "AZU,BIG YUS,BUKY,CHRIVI,DJERVI,DOBRO,FITA,FRITU,GLAGOLI,HERU"),
  ("COMBINING GLAGOLITIC LETTER I", ",NITIAL IZHE,OTATED BIG YUS,OTATED SMALL YUS,ZHE"),
  ("COMBINING GLAGOLITIC LETTER ", "KAKO,LJUDIJE,MYSLITE,NASHI,ONU,POKOJI,RITSI"),
  ("COMBINING GLAGOLITIC LETTER S", "HA,HTA,LOVO,MALL YUS"),
  ("COMBINING GLAGOLITIC LETTER ", "TSI,TVRIDO,UKU,VEDE,YATI,YERI,YERU,YESTU,YO,YU,ZEMLJA,ZHIVETE"),
  ("COMBINING GRANTHA DIGIT ", "FIVE,FOUR,ONE,SIX,THREE,TWO,ZERO"),
  ("COMBINING GRANTHA LETTER ", "A,KA,NA,PA,VI"),
  ("COMBINING GRA", "PHEME JOINER,VE ACCENT,VE ACCENT BELOW,VE TONE MARK,VE-ACUTE-GRAVE,VE-MACRON"),
  ("COMBINING GREEK ", "DIALYTIKA TONOS,KORONIS"),
  ("COMBINING GREEK MUSICAL ", "PENTASEME,TETRASEME,TRISEME"),
  ("COMBINING ", "GREEK PERISPOMENI,GREEK YPOGEGRAMMENI,HOMOTHETIC ABOVE,HOOK ABOVE,HORN,INFINITY"),
  ("COMBINING INVERTED ", "BREVE,BREVE BELOW,BRIDGE BELOW,DOUBLE ARCH ABOVE,DOUBLE ARCH BELOW"),
  ("COMBINING ", "IS BELOW,KATAKANA-HIRAGANA SEMI-VOICED SOUND MARK"),
  ("COMBINING KA", "TAKANA-HIRAGANA VOICED SOUND MARK,VYKA ABOVE LEFT,VYKA ABOVE RIGHT"),
  ("COMBINING LATIN LETTER SMALL CAPITAL ", "G,L,M,N,R"),
  ("COMBINING LATIN SMALL LETTER ", "A,A WITH DIAERESIS,AE,ALPHA,AO,AV,B,BETA,C,C CEDILLA,D,E,ESH"),
  ("COMBINING LATIN SMALL LETTER ", "ETH,F,FLATTENED OPEN A ABOVE,G,H,I"),
  ("COMBINING LATIN SMALL LETTER INSULAR ", "D,G,R,T"),
  ("COMBINING LATIN SMALL LETTER ", "K,L,L WITH DOUBLE MIDDLE TILDE,LONG S,M,N,O,O WITH DIAERESIS"),
  ("COMBINING LATIN SMALL LETTER ", "O WITH LIGHT CENTRALIZATION STROKE,P,R,R BELOW,R ROTUNDA"),
  ("COMBINING LATIN SMALL LETTER ", "S,SCHWA,T,TURNED W BELOW,U,U WITH DIAERESIS"),
  ("COMBINING LATIN SMALL LETTER ", "U WITH LIGHT CENTRALIZATION STROKE,V,W,W BELOW,X,Z"),
  ("COMBINING LEFT A", "NGLE ABOVE,NGLE BELOW,RROW ABOVE,RROW BELOW,RROWHEAD ABOVE,RROWHEAD BELOW"),
  ("COMBINING LEFT ", "HALF RING ABOVE,HALF RING BELOW,HARPOON ABOVE,PARENTHESIS ABOVE LEFT"),
  ("COMBINING LEFT ", "PARENTHESIS BELOW LEFT,RIGHT ARROW ABOVE,RIGHT ARROW BELOW,TACK BELOW"),
  ("COMBINING LEFTWARDS ", "ARROW OVERLAY,HARPOON WITH BARB DOWNWARDS"),
  ("COMBINING LIGATURE ", "LEFT HALF,LEFT HALF BELOW,RIGHT HALF,RIGHT HALF BELOW"),
  ("COMBINING L", "IGHT CENTRALIZATION STROKE BELOW,ONG DOUBLE SOLIDUS OVERLAY"),
  ("COMBINING LO", "NG SOLIDUS OVERLAY,NG STROKE OVERLAY,NG VERTICAL LINE OVERLAY,W LINE"),
  ("COMBINING MACRON", ", BELOW, LEFT HALF, LEFT HALF BELOW, RIGHT HALF, RIGHT HALF BELOW"),
  ("COMBINING MACRON-", "ACUTE,BREVE,GRAVE"),
  ("COMBINING ", "MINUS SIGN BELOW,NOT TILDE ABOVE,NUMBER SIGN ABOVE,OGONEK,OGONEK ABOVE"),
  ("COMBINING OLD PERMIC LETTER ", "AN,DOI,NENOE,SII,ZATA"),
  ("COMBINING ", "OPEN MARK BELOW,OVERLINE,PALATALIZED HOOK BELOW"),
  ("COMBINING PARENTHESES ", "ABOVE,BELOW,OVERLAY"),
  ("COMBINING ", "PLUS SIGN ABOVE,PLUS SIGN BELOW,RETROFLEX HOOK BELOW"),
  ("COMBINING R", "EVERSE SOLIDUS OVERLAY,EVERSED COMMA ABOVE,IGHT ARROW ABOVE,IGHT ARROW BELOW"),
  ("COMBINING RIGHT ARROWHEAD ", "ABOVE,AND DOWN ARROWHEAD BELOW,AND UP ARROWHEAD BELOW,BELOW"),
  ("COMBINING RIGHT ", "HALF RING ABOVE,HALF RING BELOW,HARPOON ABOVE,PARENTHESIS ABOVE RIGHT"),
  ("COMBINING RIGHT", " PARENTHESIS BELOW RIGHT, TACK BELOW,WARDS HARPOON WITH BARB DOWNWARDS"),
  ("COMBINING ", "RING ABOVE,RING BELOW,RING OVERLAY,SEAGULL BELOW"),
  ("COMBINING SHORT ", "SOLIDUS OVERLAY,STROKE OVERLAY,VERTICAL LINE OVERLAY"),
  ("COMBINING S", "NAKE BELOW,QUARE BELOW,QUARE BRACKETS ABOVE,TRONG CENTRALIZATION STROKE BELOW"),
  ("COMBINING ", "SUSPENSION MARK,THREE DOTS ABOVE,TILDE,TILDE BELOW,TILDE LEFT HALF BELOW"),
  ("COMBINING T", "ILDE OVERLAY,ILDE RIGHT HALF BELOW,RIPLE ACUTE ACCENT,RIPLE DOT,RIPLE UNDERDOT"),
  ("COMBINING ", "TURNED COMMA ABOVE,UP TACK ABOVE,UP TACK BELOW,UPWARDS ARROW BELOW,UR ABOVE"),
  ("COMBINING ", "US ABOVE,VERTICAL LINE ABOVE,VERTICAL LINE BELOW,VERTICAL TILDE"),
  ("COMBINING ", "WIDE BRIDGE ABOVE,WIDE INVERTED BRIDGE BELOW,WIGGLY LINE BELOW,X ABOVE,X BELOW"),
  ("COM", "BINING X-X BELOW,BINING ZIGZAG ABOVE,BINING ZIGZAG BELOW,ET,MA,MERCIAL AT"),
  ("CO", "MMERCIAL MINUS SIGN,MPASS,MPLEMENT,MPOSITION SYMBOL,MPRESSION,NFETTI BALL,NFOUNDED FACE"),
  ("CON", "FUSED FACE,GRUENT WITH DOT ABOVE,ICAL TAPER,JUNCTION,STRUCTION SIGN,STRUCTION WORKER"),
  ("CONTAINS AS ", "MEMBER,NORMAL SUBGROUP,NORMAL SUBGROUP OR EQUAL TO"),
  ("CONTAINS WITH ", "LONG HORIZONTAL STROKE,OVERBAR,VERTICAL BAR AT END OF HORIZONTAL STROKE"),
  ("CONT", "INUOUS UNDERLINE SYMBOL,OUR INTEGRAL,ROL KNOBS,ROL SEQUENCE INTRODUCER"),
  ("CO", "NVENIENCE STORE,OKED RICE,OKIE,OKING"),
  ("COPTIC CAPITAL LETTER ", "AKHMIMIC KHEI,ALFA,BOHAIRIC KHEI,CROSSED SHEI"),
  ("COPTIC CAPITAL LETTER CRYPTOGRAMMIC ", "EIE,GANGIA,NI,SHEI"),
  ("COPTIC CAPITAL LETTER D", "ALDA,EI,IALECT-P ALEF,IALECT-P HORI,IALECT-P KAPA,IALECT-P NI"),
  ("COPTIC CAPITAL LETTER ", "EIE,FEI,FI,GAMMA,GANGIA,HATE,HORI,IAUDA,KAPA,KHEI,KHI"),
  ("COPTIC CAPITAL LETTER ", "KSI,L-SHAPED HA,LAULA,MI,NI,O"),
  ("COPTIC CAPITAL LETTER OLD COPTIC ", "AIN,DJA,ESH,GANGIA,HA,HAT,HEI,HORI,OOU,SHEI,SHIMA"),
  ("COPTIC CAPITAL LETTER OLD NUBIAN ", "NGI,NYI,SHIMA,WAU"),
  ("COPTIC CAPITAL LETTER ", "OOU,PI,PSI,RO,SAMPI,SHEI,SHIMA,SIMA,SOU,TAU,THETHE,UA,VIDA,ZATA"),
  ("COPTIC COMBINING ", "NI ABOVE,SPIRITUS ASPER,SPIRITUS LENIS"),
  ("COPTIC EPACT DIGIT ", "EIGHT,FIVE,FOUR,NINE,ONE,SEVEN,SIX,THREE,TWO"),
  ("COPTIC EPACT NUMBER ", "EIGHT HUNDRED,EIGHTY,FIFTY,FIVE HUNDRED,FORTY,FOUR HUNDRED"),
  ("COPTIC EPACT NUMBER ", "NINE HUNDRED,NINETY,ONE HUNDRED,SEVEN HUNDRED,SEVENTY,SIX HUNDRED"),
  ("COPTIC EPACT NUMBER ", "SIXTY,TEN,THIRTY,THREE HUNDRED,TWENTY,TWO HUNDRED"),
  ("COPTIC ", "EPACT THOUSANDS MARK,FRACTION ONE HALF,FULL STOP,MORPHOLOGICAL DIVIDER"),
  ("COPTIC OLD NUBIAN ", "DIRECT QUESTION MARK,FULL STOP,INDIRECT QUESTION MARK,VERSE DIVIDER"),
  ("COPTIC SMALL LETTER ", "AKHMIMIC KHEI,ALFA,BOHAIRIC KHEI,CROSSED SHEI"),
  ("COPTIC SMALL LETTER CRYPTOGRAMMIC ", "EIE,GANGIA,NI,SHEI"),
  ("COPTIC SMALL LETTER D", "ALDA,EI,IALECT-P ALEF,IALECT-P HORI,IALECT-P KAPA,IALECT-P NI"),
  ("COPTIC SMALL LETTER ", "EIE,FEI,FI,GAMMA,GANGIA,HATE,HORI,IAUDA,KAPA,KHEI,KHI,KSI,L-SHAPED HA"),
  ("COPTIC SMALL LETTER ", "LAULA,MI,NI,O"),
  ("COPTIC SMALL LETTER OLD COPTIC ", "AIN,DJA,ESH,GANGIA,HA,HAT,HEI,HORI,OOU,SHEI,SHIMA"),
  ("COPTIC SMALL LETTER OLD NUBIAN ", "NGI,NYI,SHIMA,WAU"),
  ("COPTIC SMALL LETTER ", "OOU,PI,PSI,RO,SAMPI,SHEI,SHIMA,SIMA,SOU,TAU,THETHE,UA,VIDA,ZATA"),
  ("COPTIC SYMBOL ", "KAI,KHI RO,MI RO,PI RO,SHIMA SIMA,STAUROS,TAU RO"),
  ("CO", "PYLEFT SYMBOL,PYRIGHT SIGN,RAL,RNISH VERSE DIVIDER,RRESPONDS TO,UCH AND LAMP"),
  ("COUNTER", "BORE,SINK"),
  ("COUNTING ROD TENS DIGIT ", "EIGHT,FIVE,FOUR,NINE,ONE,SEVEN,SIX,THREE,TWO"),
  ("COUNTING ROD UNIT DIGIT ", "EIGHT,FIVE,FOUR,NINE,ONE,SEVEN,SIX,THREE,TWO"),
  ("C", "OUPLE WITH HEART,OW,OW FACE,R,RAB,REDIT CARD,RESCENT MOON,RICKET,RICKET BAT AND BALL"),
  ("CRO", "CODILE,ISSANT,SS MARK,SS OF JERUSALEM,SS OF LORRAINE,SS PATTY WITH LEFT CROSSBAR"),
  ("CROSS P", "ATTY WITH RIGHT CROSSBAR,OMMEE,OMMEE WITH HALF-CIRCLE BELOW"),
  ("CROSS", "ED FLAGS,ED NEGATIVE SQUARED LATIN CAPITAL LETTER P,ED SWORDS,ING LANES"),
  ("C", "ROWN,RUTCH,RUZEIRO SIGN,RYING CAT FACE,RYING FACE,RYSTAL BALL,SI,UBE ROOT,UCUMBER"),
  ("CUNEIFORM NUMERIC SIGN EIGHT ", "ASH,DISH,GESH2,SHAR2,U,U VARIANT FORM,VARIANT FORM USSU"),
  ("CUNEIFORM NUMERIC SIGN E", "IGHT VARIANT FORM USSU3,LAMITE FIFTY,LAMITE FORTY"),
  ("CUNEIFORM NUMERIC SIGN ", "ELAMITE ONE THIRD,ELAMITE TWO THIRDS,FIVE ASH,FIVE ASH TENU"),
  ("CUNEIFORM NUMERIC SIGN FIVE ", "BAN2,BAN2 VARIANT FORM,BURU,DISH,GESH2,GESHU,SHAR2,SHARU"),
  ("CUNEIFORM NUMERIC SIGN F", "IVE SIXTHS DISH,IVE U,IVE U VARIANT FORM,OUR ASH,OUR ASH TENU"),
  ("CUNEIFORM NUMERIC SIGN FOUR ", "BAN2,BAN2 VARIANT FORM,BURU,DISH,GESH2,GESHU,SHAR2,SHARU,U"),
  ("CUNEIFORM NUMERIC SIGN FOUR ", "U VARIANT FORM,VARIANT FORM LIMMU,VARIANT FORM LIMMU A"),
  ("CUNEIFORM NUMERIC SIGN ", "FOUR VARIANT FORM LIMMU B,FOUR VARIANT FORM LIMMU4,NIGIDAESH"),
  ("CUNEIFORM NUMERIC SIGN NI", "GIDAMIN,NE ASH,NE DISH,NE GESH2,NE SHAR2,NE U,NE U VARIANT FORM"),
  ("CUNEIFORM NUMERIC SIGN NINE VARIANT FORM ILIMMU", ", A,3,4"),
  ("CUNEIFORM NUMERIC SIGN OLD ASSYRIAN ONE ", "QUARTER,SIXTH"),
  ("CUNEIFORM NUMERIC SIGN ONE ", "BAN2,BURU,EIGHTH ASH,ESHE3,GESH2,GESHU,HALF GUR,QUARTER ASH"),
  ("CUNEIFORM NUMERIC SIGN ONE ", "QUARTER GUR,SHARU,THIRD DISH,THIRD VARIANT FORM A"),
  ("CUNEIFORM NUMERIC SIGN SEVEN ", "ASH,DISH,GESH2,SHAR2,U,U VARIANT FORM"),
  ("CUNEIFORM NUMERIC SIGN SEVEN VARIANT FORM IMIN", " A, B,3"),
  ("CUNEIFORM NUMERIC SIGN S", "HAR2 TIMES GAL PLUS DISH,HAR2 TIMES GAL PLUS MIN,IX ASH"),
  ("CUNEIFORM NUMERIC SIGN SIX ", "ASH TENU,DISH,GESH2,SHAR2,U,U VARIANT FORM,VARIANT FORM ASH9"),
  ("CUNEIFORM NUMERIC SIGN THREE ", "ASH,ASH TENU,BAN2,BURU,BURU VARIANT FORM,DISH,GESH2,GESHU"),
  ("CUNEIFORM NUMERIC SIGN THREE SHAR", "2,2 VARIANT FORM,U,U VARIANT FORM"),
  ("CUNEIFORM NUMERIC SIGN T", "HREE VARIANT FORM ESH16,HREE VARIANT FORM ESH21,WO ASH"),
  ("CUNEIFORM NUMERIC SIGN TWO ", "ASH TENU,BAN2,BURU,ESHE3,GESH2,GESHU,SHAR2,SHARU,THIRDS DISH"),
  ("CUNEIFORM ", "NUMERIC SIGN TWO THIRDS VARIANT FORM A,PUNCTUATION SIGN DIAGONAL COLON"),
  ("CUNEIFORM PUNCTUATION SIGN ", "DIAGONAL QUADCOLON,DIAGONAL TRICOLON,OLD ASSYRIAN WORD DIVIDER"),
  ("CUNEIFORM ", "PUNCTUATION SIGN VERTICAL COLON,SIGN A"),
  ("CUNEIFORM SIGN A TIMES ", "A,BAD,GAN2 TENU,HA,IGI,LAGAR GUNU,MUSH,SAG"),
  ("CUNEIFORM SIGN A", "2,B,B GUNU,B TIMES ASH2,B TIMES DUN3 GUNU,B TIMES GAL,B TIMES GAN2 TENU"),
  ("CUNEIFORM SIGN AB TIMES ", "HA,IGI GUNU,IMIN,LAGAB,NUN,NUN TENU,SHESH,SHU2,U PLUS U PLUS U"),
  ("CUNEIFORM SIGN AB2", ", TIMES A, TIMES BALAG, TIMES GAN2 TENU, TIMES ME PLUS EN, TIMES SHA3"),
  ("CUNEIFORM SIGN A", "B2 TIMES TAK4,D,D TIMES ESH2,K,K TIMES ERIN2,K TIMES SHITA PLUS GISH,L"),
  ("CUNEIFORM SIGN AL TIMES ", "AL,DIM2,GISH,HA,KAD3,KI,SHE,USH"),
  ("CUNEIFORM SIGN A", "LAN,LEPH,MAR,MAR TIMES KUG,MAR TIMES SHE,N,N OVER AN"),
  ("CUNEIFORM SIGN AN PLUS NAGA ", "OPPOSING AN PLUS NAGA,SQUARED"),
  ("CUNEIFORM SIGN A", "N THREE TIMES,NSHE,PIN,RAD,RAD TIMES KUR,RKAB,SAL2,SH,SH KABA TENU"),
  ("CUNEIFORM SIGN ASH OVER ASH OVER ASH", ", CROSSING ASH OVER ASH OVER ASH"),
  ("CUNEIFORM SIGN ASH", " OVER ASH TUG2 OVER TUG2 TUG2 OVER TUG2 PAP, ZIDA TENU,2,GAB"),
  ("CUNEIFORM SIGN BA", ",D,D TIMES DISH TENU,G3,HAR2,HAR2 TIMES AB2,HAR2 TIMES NI,HAR2 TIMES ZA"),
  ("CUNEIFORM SIGN B", "AL,AL OVER BAL,ALAG,AR,ARA2,I,I TIMES A,I TIMES GAR,I TIMES IGI GUNU,U"),
  ("CUNEIFORM SIGN BU ", "CROSSING BU,OVER BU AB,OVER BU TIMES NA2,OVER BU UN"),
  ("CUNEIFORM SIGN ", "BULUG,BULUG OVER BULUG,BUR,BUR2,DA,DA TIMES TAK4,DAG"),
  ("CUNEIFORM SIGN DAG KISIM5 TIMES ", "A PLUS MASH,AMAR,BALAG,BI,GA,GA PLUS MASH,GI,GIR2,GUD"),
  ("CUNEIFORM SIGN DAG KISIM5 TIMES ", "HA,IR,IR PLUS LU,KAK,LA,LU,LU PLUS MASH2,LUM"),
  ("CUNEIFORM SIGN DAG KISIM5 TIMES ", "NE,PAP PLUS PAP,SI,TAK4,U2 PLUS GIR2,U2 PLUS MASH,USH"),
  ("CUNEIFORM SIGN D", "AG TIMES KUR,AG3,AM,AR,ARA3,ARA4,I,IB,IM,IM TIMES IGI,IM TIMES SHE"),
  ("CUNEIFORM SIGN DI", "M TIMES U U U,M2,M2 TIMES UD,N,N KASKAL U GUNU DISH,SH,SH PLUS SHU"),
  ("CUNEIFORM SIGN DU", ", GUNU, OVER DU, SHESHIG,B,B TIMES ESH2,B TIMES SHE,B2,G"),
  ("CUNEIFORM SIGN DUG TIMES ", "ANSHE,ASH,ASH AT LEFT,DIN,DUN,ERIN2,GA,GI,GIR2 GUNU,GISH,HA,HI"),
  ("CUNEIFORM SIGN DUG TIMES ", "IGI GUNU,KASKAL,KUR,KUSHU2,KUSHU2 PLUS KASKAL,LAK-020,LAM"),
  ("CUNEIFORM SIGN DUG TIMES ", "LAM TIMES KUR,LUH PLUS GISH,MASH,MES,MI,NI,PI,SHE,SI GUNU"),
  ("CUNEIFORM SIGN DU", "GUD,H,N,N3,N3 GUNU,N3 GUNU GUNU,N4,R2"),
  ("CUNEIFORM SIGN E", ", OVER E NUN OVER NUN, TIMES PAP,2"),
  ("CUNEIFORM SIGN E2 TIMES ", "A PLUS HA PLUS DA,GAR,KUR,MI,PAP,SAL,SHE,U"),
  ("CUNEIFORM SIGN E", "DIN,GIR,L,N,N CROSSING EN,N OPPOSING EN,N SQUARED,N TIMES GAN2"),
  ("CUNEIFORM SIGN E", "N TIMES GAN2 TENU,N TIMES ME,REN,RIN2,RIN2 X,SH2,SH2 CROSSING ESH2,ZEN"),
  ("CUNEIFORM SIGN EZEN SHESHIG TIMES ", "ASH,HI,IGI GUNU,LA,LAL,ME,MES,SU"),
  ("CUNEIFORM SIGN EZEN TIMES A", ", PLUS LAL, PLUS LAL TIMES LAL,N"),
  ("CUNEIFORM SIGN EZEN TIMES ", "BAD,DUN3 GUNU,DUN3 GUNU GUNU,GUD,HA,HA GUNU,IGI GUNU,KASKAL"),
  ("CUNEIFORM SIGN EZEN TIMES ", "KASKAL SQUARED,KU3,LA,LAL TIMES LAL,LI,LU,SHE,SU,U2,UD"),
  ("CUNEIFORM SIGN GA", ", GUNU,2,2 OVER GA2,2 TIMES A PLUS DA PLUS HA"),
  ("CUNEIFORM SIGN GA2 TIMES A", " PLUS HA, PLUS IGI,B2 TENU PLUS TAB,N,N PLUS KAK PLUS A,SH,SH2"),
  ("CUNEIFORM SIGN GA2 TIMES ", "ASH2 PLUS GAL,BAD,BAHAR2,BAR PLUS RA,BUR,BUR PLUS RA"),
  ("CUNEIFORM SIGN GA2 TIMES D", "A,I,IM GUNU,IM TIMES SHE,UB,UG TIMES IGI GUNU,UG TIMES KASKAL"),
  ("CUNEIFORM SIGN GA2 TIMES E", "L,L PLUS LA,N,N TIMES GAN2 TENU,REN"),
  ("CUNEIFORM SIGN GA2 TIMES G", "A,AN2 TENU,AR,AR PLUS DI,AR PLUS NE,I,I4,I4 PLUS A,IR2 PLUS SU"),
  ("CUNEIFORM SIGN GA2 TIMES H", "A PLUS A,A PLUS LU PLUS ESH2,AL,AL PLUS LA,I PLUS LI,UB2"),
  ("CUNEIFORM SIGN GA2 TIMES ", "IGI GUNU,ISH PLUS HU PLUS ASH,KAK,KASKAL,KID,KID PLUS LAL"),
  ("CUNEIFORM SIGN GA2 TIMES ", "KU3 PLUS AN,KUSHU2 PLUS KASKAL,LA,LAM,LAM TIMES KUR,LUH"),
  ("CUNEIFORM SIGN GA2 TIMES ", "ME PLUS EN,MI,MUSH,NE,NE PLUS E2,NE PLUS GI,NUN,NUN OVER NUN,PA"),
  ("CUNEIFORM SIGN GA2 TIMES ", "SAL,SAR,SHE,SHE PLUS TUR,SHID,SHIM,SUM,TAK4,U,UD,UD PLUS DU,ZIZ2"),
  ("CUNEIFORM SIGN GA", "BA,BA CROSSING GABA,BA ROTATED NINETY DEGREES,D,D OVER GAD GAR OVER GAR"),
  ("CUNEIFORM SIGN GA", "L,L GAD OVER GAD GAR OVER GAR,LAM,M,N,N2,N2 CROSSING GAN2,N2 OVER GAN2"),
  ("CUNEIFORM SIGN G", "AN2 TENU,AR,AR3,ASHAN,E22,ESHTIN,ESHTIN TIMES KUR,ESHTIN TIMES U"),
  ("CUNEIFORM SIGN GI", ", CROSSING GI, TIMES E, TIMES U,4,4 CROSSING GI4,4 OVER GI4,DIM,G"),
  ("CUNEIFORM SIGN GIR", "2,2 GUNU,3,3 TIMES A PLUS IGI,3 TIMES GAN2 TENU,3 TIMES IGI"),
  ("CUNEIFORM SIGN GI", "R3 TIMES LU PLUS IGI,R3 TIMES PA,SAL,SH,SH CROSSING GISH,SH TENU"),
  ("CUNEIFORM SIGN G", "ISH TIMES BAD,ISH TIMES GISH CROSSING GISH,ISH TIMES TAK4,U,U CROSSING GU"),
  ("CUNEIFORM SIGN GU2", ", GUNU, TIMES IGI GUNU, TIMES KAK, TIMES KAK TIMES IGI GUNU, TIMES NUN"),
  ("CUNEIFORM SIGN GU", "2 TIMES SAL PLUS TUG2,D,D OVER GUD LUGAL,D PLUS GISH TIMES TAK4"),
  ("CUNEIFORM SIGN GU", "D TIMES A PLUS KUR,D TIMES KUR,L,M,M TIMES SHE,R,R7,RUN,RUSH"),
  ("CUNEIFORM SIGN H", "A,A GUNU,A TENU,A TENU GUNU,AL,I"),
  ("CUNEIFORM SIGN HI TIMES ", "ASH,ASH OVER HI TIMES ASH,ASH2,BAD,DISH,GAD,KIN,NUN,SHE,U"),
  ("CUNEIFORM SIGN HU", ",B2,B2 TIMES AN,B2 TIMES HAL,B2 TIMES KASKAL,B2 TIMES LISH,B2 TIMES UD"),
  ("CUNEIFORM SIGN ", "HUL2,HUSH,I,I A,IB,IDIM,IDIM OVER IDIM BUR,IDIM OVER IDIM SQUARED,IG,IGI"),
  ("CUNEIFORM SIGN IGI ", "DIB,GUNU,OVER IGI SHIR OVER SHIR UD OVER UD,RI"),
  ("CUNEIFORM SIGN I", "L,L TIMES GAN2 TENU,L2,M,M CROSSING IM,M OPPOSING IM,M SQUARED"),
  ("CUNEIFORM SIGN ", "IM TIMES TAK4,IMIN,IN,IR,ISH,KA"),
  ("CUNEIFORM SIGN KA TIMES ", "A,AD,AD PLUS KU3,ANSHE,ASH2,ASH3,BAD,BALAG,BAR,BI,BU,ERIN2,ESH2"),
  ("CUNEIFORM SIGN KA TIMES G", "A,AL,AN2 TENU,AR,AR PLUS SHA3 PLUS A,I,IR2,ISH,ISH CROSSING GISH"),
  ("CUNEIFORM SIGN KA TIMES ", "GISH PLUS SAR,GU,GUD,GUR7,HI TIMES ASH2,IGI,IM,KA,KAK,KI,KID,LI"),
  ("CUNEIFORM SIGN KA TIMES ", "LU,LUM,ME,ME PLUS DU,ME PLUS GI,ME PLUS TE,MI,MI PLUS NUNUZ,NE"),
  ("CUNEIFORM SIGN KA TIMES ", "NUN,PA,PI,RU,SA,SAR,SHA,SHE,SHID,SHU,SHUL,SIG"),
  ("CUNEIFORM SIGN KA TIMES ", "SUHUR,TAR,TU,U,U U U,U2,UD,UMUM TIMES PA,UR,UR2,USH,ZI"),
  ("CUNEIFORM SIGN KA", "2,2 CROSSING KA2,B,D2,D3,D4,D5,D5 OVER KAD5,K"),
  ("CUNEIFORM SIGN KA", "K TIMES IGI GUNU,L,L CROSSING KAL,L TIMES BAD,M2,M4,P ELAMITE"),
  ("CUNEIFORM SIGN KASKAL", ", LAGAB TIMES U OVER LAGAB TIMES U"),
  ("CUNEIFORM SIGN K", "ASKAL OVER KASKAL LAGAB TIMES U OVER LAGAB TIMES U,ESH2"),
  ("CUNEIFORM SIGN KI", ", TIMES BAD, TIMES U, TIMES UD,D,N,SAL,SH,SIM5,SIM5 OVER KISIM5"),
  ("CUNEIFORM SIGN KU", ", OVER HI TIMES ASH2 KU OVER HI TIMES ASH2,3,4,4 VARIANT FORM,7,L,L GUNU"),
  ("CUNEIFORM SIGN ", "KUN,KUR,KUR OPPOSING KUR,KUSHU2,KWU318,LA,LAGAB,LAGAB SQUARED"),
  ("CUNEIFORM SIGN LAGAB TIMES A", ", PLUS DA PLUS HA, PLUS GAR, PLUS LAL,L,N,SH ZIDA TENU"),
  ("CUNEIFORM SIGN LAGAB TIMES ", "BAD,BI,DAR,EN,GA,GAR,GI,GUD,GUD PLUS GUD,HA,HAL,HI TIMES NUN"),
  ("CUNEIFORM SIGN LAGAB TIMES ", "IGI GUNU,IM,IM PLUS HA,IM PLUS LU,KI,KIN,KU3,KUL"),
  ("CUNEIFORM SIGN LAGAB TIMES ", "KUL PLUS HI PLUS A,LAGAB,LISH,LU,LUL,ME,ME PLUS EN,MUSH,NE"),
  ("CUNEIFORM SIGN LAGAB TIMES SH", "E PLUS SUM,ITA PLUS GISH PLUS ERIN2,ITA PLUS GISH TENU,U2"),
  ("CUNEIFORM SIGN LAGAB TIMES ", "SHU2 PLUS SHU2,SUM,TAG,TAK4,TE PLUS A PLUS SU PLUS NA,U"),
  ("CUNEIFORM SIGN LAGAB TIMES ", "U PLUS A,U PLUS U PLUS U,U2 PLUS ASH,UD,USH,ZU OVER ZU"),
  ("CUNEIFORM SIGN LAGAR", ", GUNU, GUNU OVER LAGAR GUNU SHE, TIMES SHE, TIMES SHE PLUS SUM"),
  ("CUNEIFORM SIGN LA", "HSHU,K-003,K-021"),
  ("CUNEIFORM SIGN LAK-", "025,030,050,051,062,079 OVER LAK-079 GUNU,080,081 OVER LAK-081,092,130"),
  ("CUNEIFORM SIGN LAK-", "142,210,219,220,225,228,238,265,266,343,347,348,383,384,390,441,449"),
  ("CUNEIFORM SIGN LAK-449 TIMES ", "GU,IGI,PAP PLUS LU3,PAP PLUS PAP PLUS LU3,U2 PLUS BA"),
  ("CUNEIFORM SIGN LAK-", "450,457,470,483,490,492,493,495,550,608,617"),
  ("CUNEIFORM SIGN LAK-617 TIMES ", "ASH,BAD,DUN3 GUNU GUNU,KU3,LA,TAR,TE,U2,UD,URUDA"),
  ("CUNEIFORM SIGN LAK-6", "36,48,48 TIMES DUB,48 TIMES GA"),
  ("CUNEIFORM SIGN LAK-648 TIMES ", "IGI,IGI GUNU,NI,PAP PLUS PAP PLUS LU3,SHESH PLUS KI,UD,URUDA"),
  ("CUNEIFORM SIGN LA", "K-724,K-749,L,L TIMES LAL,M,M TIMES KUR,M TIMES KUR PLUS RU"),
  ("CUNEIFORM SIGN L", "I,IL,IMMU2,ISH,U,U TIMES BAD,U2,U2 CROSSING LU2,U2 GUNU TIMES ASH"),
  ("CUNEIFORM SIGN LU2 ", "OPPOSING LU2,SHESHIG,SHESHIG TIMES BAD,SQUARED,TENU,TIMES AL"),
  ("CUNEIFORM SIGN LU2 TIMES ", "BAD,DISH,ESH2,ESH2 PLUS LAL,ESH2 TENU,GAN2 TENU,HAL,HI TIMES BAD"),
  ("CUNEIFORM SIGN LU2 TIMES ", "IM,KAD2,KAD3,KAD3 PLUS ASH,KI,LA PLUS ASH,LAGAB,ME PLUS EN,NE,NU"),
  ("CUNEIFORM SIGN LU2 TIMES ", "PAP,PAP PLUS PAP PLUS LU3,SHU,SI PLUS ASH,SIK2 PLUS BU,TAK4,TUG2"),
  ("CUNEIFORM SIGN LU", "3,GAL,GAL OPPOSING LUGAL,GAL OVER LUGAL,GAL SHESHIG,H,L,M,M OVER LUM"),
  ("CUNEIFORM SIGN ", "LUM OVER LUM GAR OVER GAR,MA,MA GUNU,MA TIMES TAK4,MA2,MAH,MAR"),
  ("CUNEIFORM SIGN M", "ASH,ASH2,E,ES,ESH,I,I PLUS ZA7,IN,U,U OVER MU,UG,UG GUNU,UNSUB,URGU2,USH"),
  ("CUNEIFORM SIGN MUSH ", "CROSSING MUSH,OVER MUSH,OVER MUSH TIMES A PLUS NA,OVER MUSH TIMES GA"),
  ("CUNEIFORM SIGN MUSH", " OVER MUSH TIMES KAK, TIMES A, TIMES KUR, TIMES ZA,3,3 GUNU"),
  ("CUNEIFORM SIGN MUSH3 TIMES ", "A,A PLUS DI,DI,ZA"),
  ("CUNEIFORM SIGN NA", ",2,4,GA,GA INVERTED,GA OPPOSING NAGA,GA TIMES SHU TENU,GAR,M,M NUTILLU"),
  ("CUNEIFORM SIGN N", "AM2,E,E SHESHIG,E TIMES A,E TIMES UD"),
  ("CUNEIFORM SIGN NI", ", TIMES E,2,M,M TIMES GAN2 TENU,M TIMES GAR PLUS GAN2 TENU,N,N9,NDA2"),
  ("CUNEIFORM SIGN NINDA2 TIMES ", "AN,ASH,ASH PLUS ASH,BAL,DIM GUNU,GI,GISH,GUD,GUL,HI,KESH2"),
  ("CUNEIFORM SIGN NINDA2 TIMES ", "LAK-050,MASH,ME PLUS GAN2 TENU,NE,NUN,PAP PLUS PAP,SHE"),
  ("CUNEIFORM SIGN NINDA2 TIMES SHE PLUS A", " AN,SH,SH PLUS ASH"),
  ("CUNEIFORM SIGN NINDA2 TIMES U", ", PLUS U,2 PLUS ASH,RUDA,SH"),
  ("CUNEIFORM SIGN N", "ISAG,U,U11,U11 OVER NU11 BUR OVER BUR,U11 ROTATED NINETY DEGREES,U11 TENU"),
  ("CUNEIFORM SIGN NUN", ", CROSSING NUN, CROSSING NUN LAGAR OVER LAGAR"),
  ("CUNEIFORM SIGN NUN LAGAR TIMES ", "GAR,MASH,SAL,SAL OVER NUN LAGAR TIMES SAL,USH"),
  ("CUNEIFORM SIGN NUN", " OVER NUN, TENU,UZ"),
  ("CUNEIFORM SIGN NUNUZ AB2 TIMES ", "ASHGAB,BI,DUG,GUD,IGI GUNU,KAD3,LA,NE,SILA3,U2"),
  ("CUNEIFORM SIGN ", "NUNUZ KISIM5 TIMES BI,NUNUZ KISIM5 TIMES BI U,PA,PAD,PAN,PAP,PESH2"),
  ("CUNEIFORM SIGN P", "ESH2 ASTERISK,I,I CROSSING PI,I TIMES A,I TIMES AB,I TIMES BI,I TIMES BU"),
  ("CUNEIFORM SIGN PI", " TIMES E, TIMES I, TIMES IB, TIMES U, TIMES U2,R2,RIG,RIG OPPOSING PIRIG"),
  ("CUNEIFORM SIGN ", "PIRIG TIMES KAL,PIRIG TIMES UD,PIRIG TIMES ZA,RA,RAB,RI,RU,SA,SAG,SAG GUNU"),
  ("CUNEIFORM SIGN SAG ", "GUNU TIMES HA,NUTILLU,OVER SAG,TIMES A,TIMES DU,TIMES DUB,TIMES EN"),
  ("CUNEIFORM SIGN SAG TIMES ", "HA,IGI GUNU,KAK,KUR,LUM,MI,NUN,SAL,SHE AT LEFT,SHID,TAB,TAK4,U2"),
  ("CUNEIFORM SIGN SA", "G TIMES UB,G TIMES UM,G TIMES UR,G TIMES USH,L,L LAGAB TIMES ASH2,NGA2,R"),
  ("CUNEIFORM SIGN SHA", ",3,3 TIMES A,3 TIMES BAD,3 TIMES GISH,3 TIMES NE,3 TIMES SHU2"),
  ("CUNEIFORM SIGN SH", "A3 TIMES TUR,A3 TIMES U,A3 TIMES U PLUS A,A6,A6 TENU,AB6,AR2,E,E HU"),
  ("CUNEIFORM SIGN SHE OVER SHE", ", GAD OVER GAD GAR OVER GAR, TAB OVER TAB GAR OVER GAR"),
  ("CUNEIFORM SIGN SHE PLUS ", "HUB2,NAM2,SAR"),
  ("CUNEIFORM SIGN SH", "EG9,EN,ESH,ESH2,ESHLAM,ID,ID TIMES A,ID TIMES IM,IM"),
  ("CUNEIFORM SIGN SHIM TIMES ", "A,BAL,BULUG,DIN,GAR,IGI,IGI GUNU,KUSHU2,LUL,MUG,SAL"),
  ("CUNEIFORM SIGN SHI", "NIG,R,R OVER SHIR BUR OVER BUR,R TENU,TA"),
  ("CUNEIFORM SIGN SHU", ", OVER INVERTED SHU,2,2 PLUS DUG TIMES NI,2 PLUS E2 TIMES AN,BUR"),
  ("CUNEIFORM SIGN SI", ", GUNU, TIMES TAK4,G,G4,G4 OVER SIG4 SHU2,K2,LA3"),
  ("CUNEIFORM SIGN ", "SU,SU OVER SU,SUD,SUD2,SUHUR,SUM,SUMASH,SUR,SUR9,TA,TA ASTERISK,TA GUNU"),
  ("CUNEIFORM SIGN TA", " TIMES HI, TIMES MI,B,B OVER TAB NI OVER NI DISH OVER DISH,B SQUARED,G"),
  ("CUNEIFORM SIGN TAG TIMES ", "BI,GUD,SHE,SHU,TUG2,UD"),
  ("CUNEIFORM SIGN T", "AK4,AK4 PLUS SAG,AR,E,E GUNU,I,I TENU,I2,IL,IR"),
  ("CUNEIFORM SIGN TIR ", "OVER TIR,OVER TIR GAD OVER GAD GAR OVER GAR,TIMES TAK4"),
  ("CUNEIFORM SIGN TU", ",G2,K,M,M TIMES GAN2 TENU,M TIMES THREE DISH,R,R OVER TUR ZA OVER ZA"),
  ("CUNEIFORM SIGN U", ", GUD, OVER U PA OVER PA GAR OVER GAR"),
  ("CUNEIFORM SIGN U", " OVER U SUR OVER SUR, OVER U U REVERSED OVER U REVERSED, U, U U,2,B,D"),
  ("CUNEIFORM SIGN UD ", "GUNU,KUSHU2,SHESHIG,SHESHIG TIMES BAD,TIMES BAD,TIMES MI"),
  ("CUNEIFORM SIGN U", "D TIMES U PLUS U PLUS U,D TIMES U PLUS U PLUS U GUNU,DUG,M,M TIMES LAGAB"),
  ("CUNEIFORM SIGN UM", " TIMES ME, TIMES ME PLUS DA, TIMES SHA3, TIMES U,BIN,UM,UM TIMES KASKAL"),
  ("CUNEIFORM SIGN U", "MUM TIMES PA,N,N GUNU,R,R CROSSING UR,R SHESHIG,R2,R2 INVERTED"),
  ("CUNEIFORM SIGN UR2 TIMES ", "A PLUS HA,A PLUS NA,AL,HA,NUN,U2,U2 PLUS ASH,U2 PLUS BI,UD"),
  ("CUNEIFORM SIGN UR", "4,I,I3,U"),
  ("CUNEIFORM SIGN URU TIMES ", "A,ASHGAB,BAR,DARA3,DUN,GA,GAL,GAN2 TENU,GAR,GU,HA,IGI,IM,ISH"),
  ("CUNEIFORM SIGN URU TIMES ", "KI,LAK-668,LU3,LUM,MIN,PA,SHE,SIG4,TU,U PLUS GUD,UD,URUDA"),
  ("CUNEIFORM SIGN U", "RUDA,RUDA TIMES U,SH,SH TIMES A,SH TIMES KU,SH TIMES KUR,SH TIMES TAK4"),
  ("CUNEIFORM SIGN ", "USH2,USHUMX,USHX,UTUKI,UZ3,UZ3 TIMES KASKAL,UZU,ZA,ZA SQUARED TIMES KUR"),
  ("CUNEIFORM SIGN Z", "A TENU,A7,AG,AMX,E2,I,I OVER ZI,I3,IB,IB KABA TENU,IG,IZ2"),
  ("CUNEIFORM SIGN ZU", ", OVER ZU PLUS SAR,5,5 TIMES A,5 TIMES THREE DISH TENU,BUR,M"),
  ("CU", "P ON BLACK SQUARE,P WITH STRAW,PCAKE,PIDO,RLING STONE,RLY BRACKET EXTENSION"),
  ("CUR", "LY LOGICAL AND,LY LOGICAL OR,LY LOOP,RENCY EXCHANGE,RENCY SIGN,RY AND RICE"),
  ("C", "URVED STEM PARAGRAPH SIGN ORNAMENT,USTARD,USTOMS,UT OF MEAT,YCLONE,YLINDRICITY"),
  ("CYPRIOT SYLLABLE ", "A,E,I,JA,JO,KA,KE,KI,KO,KU,LA,LE,LI,LO,LU,MA,ME,MI,MO,MU,NA,NE,NI,NO"),
  ("CYPRIOT SYLLABLE ", "NU,O,PA,PE,PI,PO,PU,RA,RE,RI,RO,RU,SA,SE,SI,SO,SU,TA,TE,TI,TO,TU,U,WA,WE"),
  ("CYPRIOT SYLLABLE ", "WI,WO,XA,XE,ZA,ZO"),
  ("CYPRO-MINOAN SIGN CM0", "01,02,04,05,06,07,08,09,10,11,12,12B,13,15,17,19,21,23,24,25,26,27"),
  ("CYPRO-MINOAN SIGN CM0", "28,29,30,33,34,35,36,37,38,39,40,41,44,46,47,49,50,51,52,53,54,55,56"),
  ("CYPRO-MINOAN SIGN CM0", "58,59,60,61,62,63,64,66,67,68,69,70,71,72,73,74,75,75B,76,78,79,80"),
  ("CYPRO-MINOAN SIGN CM0", "81,82,83,84,85,86,87,88,89,90,91,92,94,95,96,97,98,99"),
  ("CYPRO-MINOAN SIGN CM", "100,101,102,103,104,105,107,108,109,110,112,114,301,302"),
  ("CYRILLIC CAPITAL LETTER A", ", WITH BREVE, WITH DIAERESIS"),
  ("CYRILLIC CAPITAL LETTER ABKHASIAN ", "CHE,CHE WITH DESCENDER,DZE,HA"),
  ("CYRILLIC CAPITAL LETTER ", "ALEUT KA,BARRED O,BARRED O WITH DIAERESIS,BASHKIR KA,BE,BIG YUS"),
  ("CYRILLIC CAPITAL LETTER ", "BINOCULAR O,BLENDED YUS,BROAD OMEGA,BYELORUSSIAN-UKRAINIAN I,CCHE"),
  ("CYRILLIC CAPITAL LETTER CHE", ", WITH DESCENDER, WITH DIAERESIS, WITH VERTICAL STROKE"),
  ("CYRILLIC CAPITAL LETTER ", "CLOSED LITTLE YUS,CROSSED O,DCHE,DE,DJE,DJERV,DOUBLE MONOCULAR O"),
  ("CYRILLIC CAPITAL LETTER ", "DOUBLE O,DWE,DZE,DZELO,DZHE,DZWE,DZZE,DZZHE,E,E WITH DIAERESIS,EF"),
  ("CYRILLIC CAPITAL LETTER EL", ", WITH DESCENDER, WITH HOOK, WITH MIDDLE HOOK, WITH TAIL"),
  ("CYRILLIC CAPITAL LETTER E", "M,M WITH TAIL,N,N WITH DESCENDER,N WITH HOOK,N WITH LEFT HOOK"),
  ("CYRILLIC CAPITAL LETTER E", "N WITH MIDDLE HOOK,N WITH TAIL,R,R WITH TICK,S,S WITH DESCENDER"),
  ("CYRILLIC CAPITAL LETTER ", "FITA,GHE,GHE WITH DESCENDER,GHE WITH MIDDLE HOOK,GHE WITH STROKE"),
  ("CYRILLIC CAPITAL LETTER ", "GHE WITH STROKE AND HOOK,GHE WITH UPTURN,GJE,HA,HA WITH DESCENDER"),
  ("CYRILLIC CAPITAL LETTER ", "HA WITH HOOK,HA WITH STROKE,HARD SIGN,HWE,I,I WITH DIAERESIS"),
  ("CYRILLIC CAPITAL LETTER I", " WITH GRAVE, WITH MACRON,E,E WITH BREVE,E WITH GRAVE,O,OTA"),
  ("CYRILLIC CAPITAL LETTER IOTIFIED ", "A,BIG YUS,CLOSED LITTLE YUS,E,LITTLE YUS,YAT"),
  ("CYRILLIC CAPITAL LETTER ", "IZHITSA,IZHITSA WITH DOUBLE GRAVE ACCENT,JE,KA,KA WITH DESCENDER"),
  ("CYRILLIC CAPITAL LETTER K", "A WITH HOOK,A WITH STROKE,A WITH VERTICAL STROKE,HAKASSIAN CHE"),
  ("CYRILLIC CAPITAL LETTER K", "JE,OMI DE,OMI DJE,OMI DZJE,OMI LJE,OMI NJE,OMI SJE,OMI TJE"),
  ("CYRILLIC CAPITAL LETTER ", "KOMI ZJE,KOPPA,KSI,LHA,LITTLE YUS,LJE,MONOCULAR O,MONOGRAPH UK"),
  ("CYRILLIC CAPITAL LETTER ", "NEUTRAL YER,NJE,O,O WITH DIAERESIS,OMEGA,OMEGA WITH TITLO,OT,PE"),
  ("CYRILLIC CAPITAL LETTER ", "PE WITH DESCENDER,PE WITH MIDDLE HOOK,PSI,QA"),
  ("CYRILLIC CAPITAL LETTER REVERSED ", "DZE,TSE,YU,ZE"),
  ("CYRILLIC CAPITAL LETTER ", "RHA,ROUND OMEGA,SCHWA,SCHWA WITH DIAERESIS,SEMISOFT SIGN"),
  ("CYRILLIC CAPITAL LETTER SH", "A,CHA,HA,HA WITH DESCENDER,ORT I,ORT I WITH TAIL,ORT U,WE"),
  ("CYRILLIC CAPITAL LETTER S", "OFT DE,OFT EL,OFT EM,OFT SIGN,TRAIGHT U,TRAIGHT U WITH STROKE"),
  ("CYRILLIC CAPITAL LETTER T", "CHE,E,E WITH DESCENDER,E WITH MIDDLE HOOK,SE,SHE,SSE,SWE,WE"),
  ("CYRILLIC CAPITAL LETTER U", ", WITH DIAERESIS, WITH DOUBLE ACUTE, WITH MACRON,K,KRAINIAN IE"),
  ("CYRILLIC CAPITAL LETTER ", "VE,WE,YA,YAE,YAT,YERU,YERU WITH BACK YER,YERU WITH DIAERESIS,YI"),
  ("CYRILLIC CAPITAL LETTER ", "YN,YU,ZE,ZE WITH DESCENDER,ZE WITH DIAERESIS,ZEMLYA"),
  ("CYRILLIC CAPITAL LETTER ZH", "E,E WITH BREVE,E WITH DESCENDER,E WITH DIAERESIS,WE"),
  ("CYRILLIC CAPITAL LIGATURE ", "A IE,EN GHE,TE TSE"),
  ("CYRILLIC ", "KAVYKA,LETTER MULTIOCULAR O,LETTER PALOCHKA,LETTER SMALL CAPITAL EL,PAYEROK"),
  ("CYRILLIC SMALL LETTER A", ", WITH BREVE, WITH DIAERESIS"),
  ("CYRILLIC SMALL LETTER ABKHASIAN ", "CHE,CHE WITH DESCENDER,DZE,HA"),
  ("CYRILLIC SMALL LETTER ", "ALEUT KA,BARRED O,BARRED O WITH DIAERESIS,BASHKIR KA,BE,BIG YUS"),
  ("CYRILLIC SMALL LETTER ", "BINOCULAR O,BLENDED YUS,BROAD OMEGA,BYELORUSSIAN-UKRAINIAN I,CCHE"),
  ("CYRILLIC SMALL LETTER CHE", ", WITH DESCENDER, WITH DIAERESIS, WITH VERTICAL STROKE"),
  ("CYRILLIC SMALL LETTER ", "CLOSED LITTLE YUS,CROSSED O,DCHE,DE,DJE,DJERV,DOUBLE MONOCULAR O"),
  ("CYRILLIC SMALL LETTER ", "DOUBLE O,DWE,DZE,DZELO,DZHE,DZWE,DZZE,DZZHE,E,E WITH DIAERESIS,EF"),
  ("CYRILLIC SMALL LETTER EL", ", WITH DESCENDER, WITH HOOK, WITH MIDDLE HOOK, WITH TAIL"),
  ("CYRILLIC SMALL LETTER E", "M,M WITH TAIL,N,N WITH DESCENDER,N WITH HOOK,N WITH LEFT HOOK"),
  ("CYRILLIC SMALL LETTER E", "N WITH MIDDLE HOOK,N WITH TAIL,R,R WITH TICK,S,S WITH DESCENDER"),
  ("CYRILLIC SMALL LETTER ", "FITA,GHE,GHE WITH DESCENDER,GHE WITH MIDDLE HOOK,GHE WITH STROKE"),
  ("CYRILLIC SMALL LETTER ", "GHE WITH STROKE AND HOOK,GHE WITH UPTURN,GJE,HA,HA WITH DESCENDER"),
  ("CYRILLIC SMALL LETTER ", "HA WITH HOOK,HA WITH STROKE,HARD SIGN,HWE,I,I WITH DIAERESIS"),
  ("CYRILLIC SMALL LETTER I", " WITH GRAVE, WITH MACRON,E,E WITH BREVE,E WITH GRAVE,O,OTA"),
  ("CYRILLIC SMALL LETTER IOTIFIED ", "A,BIG YUS,CLOSED LITTLE YUS,E,LITTLE YUS,YAT"),
  ("CYRILLIC SMALL LETTER ", "IZHITSA,IZHITSA WITH DOUBLE GRAVE ACCENT,JE,KA,KA WITH DESCENDER"),
  ("CYRILLIC SMALL LETTER K", "A WITH HOOK,A WITH STROKE,A WITH VERTICAL STROKE,HAKASSIAN CHE,JE"),
  ("CYRILLIC SMALL LETTER KO", "MI DE,MI DJE,MI DZJE,MI LJE,MI NJE,MI SJE,MI TJE,MI ZJE,PPA"),
  ("CYRILLIC SMALL LETTER ", "KSI,LHA,LITTLE YUS,LJE,LONG-LEGGED DE,MONOCULAR O,MONOGRAPH UK"),
  ("CYRILLIC SMALL LETTER ", "NARROW O,NEUTRAL YER,NJE,O,O WITH DIAERESIS,OMEGA,OMEGA WITH TITLO"),
  ("CYRILLIC SMALL LETTER ", "OT,PALOCHKA,PE,PE WITH DESCENDER,PE WITH MIDDLE HOOK,PSI,QA"),
  ("CYRILLIC SMALL LETTER REVERSED ", "DZE,TSE,YU,ZE"),
  ("CYRILLIC SMALL LETTER ", "RHA,ROUND OMEGA,ROUNDED VE,SCHWA,SCHWA WITH DIAERESIS,SEMISOFT SIGN"),
  ("CYRILLIC SMALL LETTER SH", "A,CHA,HA,HA WITH DESCENDER,ORT I,ORT I WITH TAIL,ORT U,WE"),
  ("CYRILLIC SMALL LETTER S", "OFT DE,OFT EL,OFT EM,OFT SIGN,TRAIGHT U,TRAIGHT U WITH STROKE"),
  ("CYRILLIC SMALL LETTER T", "ALL HARD SIGN,ALL TE,ALL YAT,CHE,E,E WITH DESCENDER"),
  ("CYRILLIC SMALL LETTER T", "E WITH MIDDLE HOOK,HREE-LEGGED TE,SE,SHE,SSE,SWE,WE"),
  ("CYRILLIC SMALL LETTER U", ", WITH DIAERESIS, WITH DOUBLE ACUTE, WITH MACRON,K,KRAINIAN IE"),
  ("CYRILLIC SMALL LETTER ", "UNBLENDED UK,VE,WE,WIDE ES,YA,YAE,YAT,YERU,YERU WITH BACK YER"),
  ("CYRILLIC SMALL LETTER ", "YERU WITH DIAERESIS,YI,YN,YU,ZE,ZE WITH DESCENDER,ZE WITH DIAERESIS"),
  ("CYRILLIC SMALL LETTER Z", "EMLYA,HE,HE WITH BREVE,HE WITH DESCENDER,HE WITH DIAERESIS,HWE"),
  ("CYRILLIC ", "SMALL LIGATURE A IE,SMALL LIGATURE EN GHE,SMALL LIGATURE TE TSE,THOUSANDS SIGN")]

end ModelBindings.Text.CharacterName
