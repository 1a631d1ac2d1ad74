/-!
# Character names that start with B
-/

set_option autoImplicit false

namespace ModelBindings.Text.CharacterName

/-- The character names that start with B, in groups. -/
def namesB : List (String × String) := [
  ("BABY", ", ANGEL, BOTTLE, CHICK, SYMBOL"),
  ("BACK", " OF ENVELOPE, WITH LEFTWARDS ARROW ABOVE,-TILTED SHADOWED WHITE RIGHTWARDS ARROW"),
  ("BACKS", "LANTED SOUTH ARROW WITH HOOKED TAIL,LANTED SOUTH ARROW WITH HORIZONTAL TAIL,PACE"),
  ("BA", "CON,CTRIAN CAMEL,DGER,DMINTON RACQUET AND SHUTTLECOCK,GEL,GGAGE CLAIM,GUETTE BREAD"),
  ("BALINESE ", "ADEG ADEG,CARIK PAMUNGKAH,CARIK PAREREN,CARIK SIKI"),
  ("BALINESE DIGIT ", "EIGHT,FIVE,FOUR,NINE,ONE,SEVEN,SIX,THREE,TWO,ZERO"),
  ("BALINESE LETTER ", "AIKARA,AKARA,AKARA TEDUNG,ARCHAIC JNYA,ASYURA SASAK,BA,BA KEMBANG,CA"),
  ("BALINESE LETTER ", "CA LACA,DA,DA MADU,DA MURDA ALPAPRANA,DA MURDA MAHAPRANA,EF SASAK,EKARA"),
  ("BALINESE LETTER ", "GA,GA GORA,HA,IKARA,IKARA TEDUNG,JA,JA JERA,KA,KA MAHAPRANA,KAF SASAK"),
  ("BALINESE LETTER ", "KHOT SASAK,LA,LA LENGA,LA LENGA TEDUNG,MA,NA,NA RAMBAT,NGA,NYA,OKARA"),
  ("BALINESE LETTER ", "OKARA TEDUNG,PA,PA KAPAL,RA,RA REPA,RA REPA TEDUNG,SA,SA SAGA,SA SAPA,TA"),
  ("BALINESE LETTER TA ", "LATIK,MURDA MAHAPRANA,TAWA"),
  ("BALINESE LETTER ", "TZIR SASAK,UKARA,UKARA TEDUNG,VE SASAK,WA,YA,ZAL SASAK"),
  ("BALINESE MUSICAL SYMBOL COMBINING ", "BENDE,ENDEP,GONG,JEGOGAN,KEMPLI,KEMPLI WITH JEGOGAN"),
  ("BALINESE MUSICAL SYMBOL COMBINING ", "KEMPUL,KEMPUL WITH JEGOGAN,TEGEH"),
  ("BALINESE MUSICAL SYMBOL D", "AENG,AING,ANG,ANG GEDE,ANG SURANG,ENG,EUNG,ING,ONG,UNG"),
  ("BALINESE MUSICAL SYMBOL LEFT-HAND ", "CLOSED PLAK,CLOSED PLUK,OPEN PANG,OPEN PING,OPEN PUNG"),
  ("BALINESE MUSICAL SYMBOL RIGHT-HAND ", "CLOSED TAK,CLOSED TUK,OPEN DAG,OPEN DUG"),
  ("BALINESE PA", "MADA,MADA LANTANG,MENENG,NTI,NTI LANTANG"),
  ("BALINESE SIGN ", "BISAH,CECEK,REREKAN,SURANG,ULU CANDRA,ULU RICEM"),
  ("BALINESE VOWEL SIGN LA LENGA", ", TEDUNG"),
  ("BALINESE VOWEL SIGN ", "PEPET,PEPET TEDUNG,RA REPA,RA REPA TEDUNG,SUKU,SUKU ILUT,TALING"),
  ("BALINESE VOWEL SIGN ", "TALING REPA,TALING REPA TEDUNG,TALING TEDUNG,TEDUNG,ULU,ULU SARI"),
  ("BAL", "INESE WINDU,L OF YARN,LET SHOES,LOON,LOON-SPOKED ASTERISK,LOT BOLD SCRIPT X,LOT BOX"),
  ("BALLOT BOX WITH ", "BALLOT,BOLD CHECK,BOLD SCRIPT X,CHECK,LIGHT X,SCRIPT X,X"),
  ("BALLOT ", "SCRIPT X,X"),
  ("BAMUM ", "COLON,COMBINING MARK KOQNDON,COMBINING MARK TUKWENTIS,COMMA,FULL STOP"),
  ("BAMUM LETTER ", "A,EE,FAAMAE,FEE,FOM,FU,I,KA,KEN,KET,KEUX,KI,KO,KOGHOM,KOVUU,KPA,KU,KYEE,LA"),
  ("BAMUM LETTER ", "LEEEE,LI,LOQ,LU,M,MA,MBAA,MBEN,MEEEE,MEN,MI,MO,MU,NA,NDAA,NGA,NGGA,NGKWAEN"),
  ("BAMUM LETTER ", "NI,NJAEM,NJEE,NJUAE,NSHA,NTEE,NTUU,NU,NUAE,NYI,O,PA,PEE,PEUX"),
  ("BAMUM LETTER PHASE-A ", "FIRI,GBIEE FON,GHEUAEGHEUAE,GHEUAERAE,KAFA,KAQ,KET,KEUKEUTNDA,KPOQ"),
  ("BAMUM LETTER PHASE-A ", "KUOQ,LAPAQ,LET KUT,LOMMAE,LU,LUAEP"),
  ("BAMUM LETTER PHASE-A MA", "EKEUP,EM,EMBGBIEE,EMKPEN,EMVEUX,ENYI,ESI,NSUAE,P PIEET"),
  ("BAMUM LETTER PHASE-A M", "BANYI,BAQ,EUNJOMNDEUQ,GBASA,ON NGGEUAET,OOMEUT,OOMPUQ,VEUAENGAM"),
  ("BAMUM LETTER PHASE-A N", "AA MFON,AQ,DA LEERAEWA,DAANGGEUAET,EN,GANGU,GGEN,GKUE MFON"),
  ("BAMUM LETTER PHASE-A N", "GKUENZEUM,IKA,JAM,KAARAE,KINDI,SHA,SHIEE,TAP,TAP MFAA,TAP NTAA"),
  ("BAMUM LETTER PHASE-A ", "NTOQPEN,NYET,NYI,NYIT MONGKEUAEQ,NZA MFON,NZUN MEUT,PA LEERAEWA"),
  ("BAMUM LETTER PHASE-A P", "AAM,AARAE,AMSHAE,ASHAE,ET,ON MFON PIPAEMBA,ON MFON PIPAEMGBIEE"),
  ("BAMUM LETTER PHASE-A ", "PON PA NJI PIPAEMBA,PON PA NJI PIPAEMGBIEE,PUP,ROM,SEUNYAM"),
  ("BAMUM LETTER PHASE-A S", "HINDA PA NJI,HIRAE,HOQ NSHUT YUM,HUENSHUET,HUM,ISA,ONJAM,OQ,OT,UU"),
  ("BAMUM LETTER PHASE-A ", "TEUAEN,TEUTEUWEN,TITA MFON,TU MAEMBA,TUAEP,U YUQ NAE,UNKNOWN,VEE"),
  ("BAMUM LETTER PHASE-B ", "FEE,FEUX,GHEUGHEN,GHEUGHEUAEM,KAM,KEUAEM,KEUPUQ,KEUYEUX,KIEEM,KIQ"),
  ("BAMUM LETTER PHASE-B ", "LAANAE,LAM NSHUT NYAM,LET,LOM NTEUM,MA,MA NJEUAENA,MA NJUQA"),
  ("BAMUM LETTER PHASE-B M", "BA MAELEE,BAARAE,BEURI,BIT MBAAKET,BUOQ,EUQ,EUT NGGEET,FIYAQ"),
  ("BAMUM LETTER PHASE-B ", "MFON TEUAEQ,MONTIEEN,NDU NJAA,NGGAAM,NGGEU MBU,NGGUOQ"),
  ("BAMUM LETTER PHASE-B N", "GGUOQ LARGE,GKINDI MVOP,GOM,SEN,SHUET,TIEE SHEUOQ,YAEMAE,YI NTEUM"),
  ("BAMUM LETTER PHASE-B ", "PARUM,PEESHI,PIT,PUNGAAM,SAKEUAE,SET TU,SHET NJAQ,SHEUAEQTU,SIEE,SUE"),
  ("BAMUM LETTER PHASE-B ", "TAAM,TU MAEMGBIEE,TU NSIEE,VEUM,WUAET,YAFU LEERAEWA,YEURAE"),
  ("BAMUM LETTER PHASE-C ", "BUNG,FUE,GBAYI,GHAP,GHARAE,KAA,KEN FATIGUE,KEN LAW,KET,KEUKAQ,KEUM"),
  ("BAMUM LETTER PHASE-C ", "KEUSEUX,KEUSHEUAEP,KPARAQ,KUOP NKAARAE,KUT,LAM,LAP,LIQ,LU,MA KEUAERI"),
  ("BAMUM LETTER PHASE-C M", "A NSIEE,AEMBA,AESI,BAA CABBAGE-TREE,BAA PICKET,BANYI,BEEKEET,BERAE"),
  ("BAMUM LETTER PHASE-C ", "MBEUM,MBEUX,MBI,MBIRIEEN,MBIT,MBUAEM,MBUE,MGBASAQ,MIEE,MUAE,NANSANAQ"),
  ("BAMUM LETTER PHASE-C N", "AQ,DAM,DAP,DEUAEREE,DEUT,DIDA,DOMBU,GAQ,GGEN,GGU,GGUAEN NYAM,GGUEET"),
  ("BAMUM LETTER PHASE-C N", "GGUM,GGUON,GKAQ,GKUE MAEMBA,GOM,JAEM,JAM,JEEEE,JEUX,JUEQ,SA,SEUAEN"),
  ("BAMUM LETTER PHASE-C N", "SHAQ,SOM,SUN,SUOT NGOM,TAA,TEN,TEUNGBA,TU MBIT,YIR MKPARAQ MEUN,ZA"),
  ("BAMUM LETTER PHASE-C ", "NZEUM,PEN,PIN,PIRIEEN,RU,SETFON,SEUX,SHIQ,SHUEQ,SUAET,TAASHAE,TET"),
  ("BAMUM LETTER PHASE-C ", "TEUTEUX,TITA YUE,TITUAEP,VEUAEPEN,VEUX,WANGKUOQ,WUP,YAA,YEUQ"),
  ("BAMUM LETTER PHASE-", "C YU MUOMAE,C YUM,C YUWOQ,D FAA,D FEUFEUAET,D GHAA,D GHEUAE"),
  ("BAMUM LETTER PHASE-D K", "ET,EUAETMEUN,EUM,EUOT MBUAE,EUP,U,UN,UOM,UQ,WAET,YEE"),
  ("BAMUM LETTER PHASE-D ", "LEEEE,LET,LEUAEP,LEUM,LIEE,LOQ,LUM,M,MAENJET,MALEERI,MBAA,MBAA SEVEN"),
  ("BAMUM LETTER PHASE-D M", "BUO,EEEE,EUN,EUT,FEUAE,FEUT,FIEE,FO,FON,GBEUN,GBIEE,GBOFUM,ONI,U"),
  ("BAMUM LETTER PHASE-D ", "MVOP,NDAM,NDEE,NDEUX,NDON,NGGAAM,NGGAAMAE,NGGAP,NGGEUX,NGGUOM"),
  ("BAMUM LETTER PHASE-D N", "GGWAEN,GKAP,GKEUAEQ,GKEURI,GKIEE,GKUN,GKYEE,I,JAP,JEUAEM,JEUT,JI"),
  ("BAMUM LETTER PHASE-D N", "JIEE,JUEQ,SHEE,SHUT,SIEEP,SIEET,SUM,TEE,TEUM,TUU,U,YAM,YET,YI,YUE"),
  ("BAMUM LETTER PHASE-D ", "PAP,PEE,PEUTAE,PIP,PUQ,PUUT,RAEM,REN MUCH,REN OLD,RII,SAP,SAQ,SEUAEQ"),
  ("BAMUM LETTER PHASE-D ", "SHEE,SHEUAE,SHEUX,SHII,SHOQ,SHU,SOT,SUAE,SUE,SUU,TAE,TEEEE,TEUAEN"),
  ("BAMUM LETTER PHASE-D ", "TEUN,TEUT,TI,TOQ,TU,TUOT,WAP,WUAEN,YAEMMAE,YEN,YUOM,YUOP,YUWOQ"),
  ("BAMUM LETTER PHASE-E ", "A,FA,FAQ,FEE,FOM,FU CALL,FU I,FU REMEDY,FUE,FUET,GBET,GBEUX,GHAAMAE"),
  ("BAMUM LETTER PHASE-E ", "GHET,GHEUAE,GHEUN,GHEUX,GHOM,I,KET,KEUAE,KEUX,KI,KO,KPEUX,KUET"),
  ("BAMUM LETTER PHASE-E ", "KUOP,KUT,LAAM,LAP,LAQ,LEUAEM,LOM,LOON,LOOT,LOQ,LU,MA,MAE,MAEM,MAP"),
  ("BAMUM LETTER PHASE-E ", "MAQ,MBEE,MBEUM,MEN,MFEUQ,MGBA,MGBEN,MI,MIEE,MON,MUAE,MVI,NA,NAE"),
  ("BAMUM LETTER PHASE-E N", "DAA MY HOUSE,DAA SOFTNESS,DAP,DIAQ,DIQ,DUN,GA,GEUREUT,GGEEEE,GGEUAE"),
  ("BAMUM LETTER PHASE-E NG", "GEUAET,GUAESHAE NYAM,GUP,GURAE,KA,KAAMI,KEUAEM,KEUX,KUM,KUP,OP,OQ"),
  ("BAMUM LETTER PHASE-E N", "GUAE,GUAET,JAEMLI,JEE,JEE EPOCH,JEUX,KOM,SHIEE,SHUE,SHUOP,TAP,TUM"),
  ("BAMUM LETTER PHASE-E ", "NYI BETWEEN,NYI CLEAVER,NZAQ,NZUQ,O,PA PEOPLE,PA PLURAL,PAA,PAAM"),
  ("BAMUM LETTER PHASE-E ", "PEEM,PEUT,PEUX,PI,PIEEQ,PIET,PO,POON,PU,PUAE,PUAQ,PUE,PUM,RAE,RAQ"),
  ("BAMUM LETTER PHASE-E ", "REUX,RIMGBA,SAA,SEE,SET,SHEUAEQ,SHIQ,SHO,SHOQ,SOM,SUAEN,TAA,TAAQ"),
  ("BAMUM LETTER PHASE-E ", "TAEN NTEUM,TAM,TAQ,TEN,TEU,TEUAEQ,TOO,TOON,TOQ,TUAE,TUM,TUMAE,VEE"),
  ("BAMUM LETTER PHASE-E ", "VEUAE,VOM,WEUX,WUE,WUO,YAP,YEUAE,YEUAET,YEUM,YEUX,YIEE,YIT,YOQ COVER"),
  ("BAMUM LETTER PHASE-", "E YOQ SWIMMING,E YUAEN,E YUEQ,E YUN,E YUQ,F EE,F FOM,F KA,F KEN,F KET"),
  ("BAMUM LETTER PHASE-F ", "KO,KPA,KU,KYEE,LA,LI,LOQ,M,MA,MBAA,MBEN,MEEEE,MO,NDAA,NGGA,NGKWAEN"),
  ("BAMUM LETTER PHASE-F ", "NI,NJAEM,NJUAE,NSHA,NTEE,NU,NUAE,NYI,PEE,PEUX,PUAE,REE,REN,REUX,RIEE"),
  ("BAMUM LETTER PHASE-F ", "RII,RU,SAMBA,SEUX,SHII,SHO,SHU,SI,SUU,TAA,TAE,TET,U,VUEQ,WA,WUE,YA"),
  ("BAMUM LETTER ", "PHASE-F YOQ,PI,PUAE,PUE,RAE,REE,REN,REUX,RIEE,RII,RU,SAMBA,SEUX,SHEUX,SHII"),
  ("BAMUM LETTER ", "SHO,SHU,SI,SUU,TAA,TAE,TEN,TET,TI,U,WA,WUE,YA,YOQ,YUQ"),
  ("BA", "MUM NJAEMLI,MUM QUESTION MARK,MUM SEMICOLON,NANA,NJO,NK"),
  ("BANKNOTE WITH ", "DOLLAR SIGN,EURO SIGN,POUND SIGN,YEN SIGN"),
  ("BA", "R CHART,R OF SOAP,RBER POLE,SEBALL,SKET,SKETBALL AND HOOP"),
  ("BASSA VAH COMBINING ", "HIGH TONE,HIGH-LOW TONE,LOW TONE,LOW-MID TONE,MID TONE"),
  ("BASSA VAH FULL STOP", ""),
  ("BASSA VAH LETTER ", "A,BA,CE,DHII,DO,E,EE,ENNI,FA,GAH,GBU,HWAH,I,JO,KA,KPAH,MBE,O,OO,PA,SE"),
  ("BASSA VAH LETTER ", "TO,U,UWU,VU,WA,WADDA,YEIN,YIE,ZO"),
  ("BAT", ",AK CONSONANT SIGN H,AK CONSONANT SIGN NG"),
  ("BATAK LETTER ", "A,BA,CA,DA,GA,HA,I,JA,KARO BA,LA,MA,MANDAILING HA,MANDAILING NA"),
  ("BATAK LETTER ", "MANDAILING SA,MBA,NA,NDA,NGA,NORTHERN TA,NYA,PA,PAKPAK WA,RA,SA"),
  ("BATAK LETTER SIMALUNGUN ", "A,GA,HA,LA,MA,PA,RA,SA,WA,YA"),
  ("BATAK ", "LETTER SOUTHERN TA,LETTER U,LETTER WA,LETTER YA,PANGOLAT,PANONGONAN,SIGN TOMPI"),
  ("BATAK SYMBOL BINDU ", "JUDUL,NA METEK,PANGOLAT,PINARBORAS"),
  ("BATAK VOWEL SIGN ", "E,EE,I,KARO I,KARO O,O,PAKPAK E,U,U FOR SIMALUNGUN SA"),
  ("B", "ATH,ATHTUB,ATTERY,EACH WITH UMBRELLA"),
  ("BEAMED ", "ASCENDING MUSICAL NOTES,DESCENDING MUSICAL NOTES,EIGHTH NOTES,SIXTEENTH NOTES"),
  ("BE", "ANS,AR FACE,ARDED PERSON,ATING HEART,AVER,CAUSE,D,ER MUG,ETLE,L"),
  ("BELL", ", PEPPER, SYMBOL, WITH CANCELLATION STROKE,HOP BELL"),
  ("BENGALI ", "ABBREVIATION SIGN,ANJI,AU LENGTH MARK,CURRENCY DENOMINATOR SIXTEEN"),
  ("BENGALI CURRENCY NUMERATOR ", "FOUR,ONE,ONE LESS THAN THE DENOMINATOR,THREE,TWO"),
  ("BENGALI DIGIT ", "EIGHT,FIVE,FOUR,NINE,ONE,SEVEN,SIX,THREE,TWO,ZERO"),
  ("BENGALI ", "GANDA MARK,ISSHAR"),
  ("BENGALI LETTER ", "A,AA,AI,AU,BA,BHA,CA,CHA,DA,DDA,DDHA,DHA,E,GA,GHA,HA,I,II,JA,JHA,KA,KHA"),
  ("BENGALI LETTER ", "KHANDA TA,LA,MA,NA,NGA,NNA,NYA,O,PA,PHA,RA,RA WITH LOWER DIAGONAL"),
  ("BENGALI LETTER ", "RA WITH MIDDLE DIAGONAL,RHA,RRA,SA,SHA,SSA,TA,THA,TTA,TTHA,U,UU"),
  ("BENGALI LETTER ", "VEDIC ANUSVARA,VOCALIC L,VOCALIC LL,VOCALIC R,VOCALIC RR,YA,YYA"),
  ("BENGALI ", "RUPEE MARK,RUPEE SIGN,SANDHI MARK"),
  ("BENGALI SIGN ", "ANUSVARA,AVAGRAHA,CANDRABINDU,NUKTA,VIRAMA,VISARGA"),
  ("BENGALI VOWEL SIGN ", "AA,AI,AU,E,I,II,O,U,UU,VOCALIC L,VOCALIC LL,VOCALIC R,VOCALIC RR"),
  ("BEN", "T ARROW POINTING DOWNWARDS THEN NORTH EAST,TO BOX,ZENE RING,ZENE RING WITH CIRCLE"),
  ("B", "ET SYMBOL,ETWEEN,EVERAGE BOX,HAIKSUKI DANDA"),
  ("BHAIKSUKI DIGIT ", "EIGHT,FIVE,FOUR,NINE,ONE,SEVEN,SIX,THREE,TWO,ZERO"),
  ("BHAIKSUKI ", "DOUBLE DANDA,GAP FILLER-1,GAP FILLER-2,HUNDREDS UNIT MARK"),
  ("BHAIKSUKI LETTER ", "A,AA,AI,AU,BA,BHA,CA,CHA,DA,DDA,DDHA,DHA,E,GA,GHA,HA,I,II,JA,JHA,KA,KHA"),
  ("BHAIKSUKI LETTER ", "LA,MA,NA,NGA,NNA,NYA,O,PA,PHA,RA,SA,SHA,SSA,TA,THA,TTA,TTHA,U"),
  ("BHAIKSUKI LETTER ", "UU,VA,VOCALIC L,VOCALIC R,VOCALIC RR,YA"),
  ("BHAIKSUKI NUMBER ", "EIGHT,EIGHTY,FIFTY,FIVE,FORTY,FOUR,NINE,NINETY,ONE,SEVEN"),
  ("BHAIKSUKI NUMBER ", "SEVENTY,SIX,SIXTY,TEN,THIRTY,THREE,TWENTY,TWO"),
  ("BHAIKSUKI SIGN ", "ANUSVARA,AVAGRAHA,CANDRABINDU,VIRAMA,VISARGA"),
  ("BHAIKSUKI VOWEL SIGN ", "AA,AI,AU,E,I,II,O,U,UU,VOCALIC L,VOCALIC R,VOCALIC RR"),
  ("B", "HAIKSUKI WORD SEPARATOR,ICYCLE,ICYCLIST,IG REVERSE SOLIDUS"),
  ("BI", "G SOLIDUS,KINI,LLED CAP,LLIARDS,OHAZARD SIGN,RD,RTHDAY CAKE,SON,TCOIN SIGN,TING LIP"),
  ("BLACK ", "BOWTIE,CENTRE WHITE STAR"),
  ("BLACK CHESS BISHOP", ", ROTATED NINETY DEGREES, ROTATED TWO HUNDRED SEVENTY DEGREES"),
  ("BLACK CHESS EQUIHOPPER", ", ROTATED NINETY DEGREES"),
  ("BLACK CHESS KING", ", ROTATED NINETY DEGREES, ROTATED TWO HUNDRED SEVENTY DEGREES"),
  ("BLACK CHESS KNIGHT", ", ROTATED FORTY-FIVE DEGREES, ROTATED NINETY DEGREES"),
  ("BLACK CHESS KNIGHT ROTATED ", "ONE HUNDRED THIRTY-FIVE DEGREES,THREE HUNDRED FIFTEEN DEGREES"),
  ("BLACK CHESS KNIGHT ROTATED TWO HUNDRED ", "SEVENTY DEGREES,TWENTY-FIVE DEGREES"),
  ("BLACK CHESS KNIGHT-", "BISHOP,QUEEN,ROOK"),
  ("BLACK CHESS PAWN", ", ROTATED NINETY DEGREES, ROTATED TWO HUNDRED SEVENTY DEGREES"),
  ("BLACK CHESS QUEEN", ", ROTATED NINETY DEGREES, ROTATED TWO HUNDRED SEVENTY DEGREES"),
  ("BLACK CHESS ROOK", ", ROTATED NINETY DEGREES, ROTATED TWO HUNDRED SEVENTY DEGREES"),
  ("BLACK CHESS TURNED ", "BISHOP,KING,KNIGHT,PAWN,QUEEN,ROOK"),
  ("BLACK CIRCLE", ", FOR RECORD, WITH DOWN ARROW, WITH TWO WHITE DOTS, WITH WHITE DOT RIGHT"),
  ("BLACK C", "LUB SUIT,ROSS ON SHIELD,URVED DOWNWARDS AND LEFTWARDS ARROW"),
  ("BLACK CURVED ", "DOWNWARDS AND RIGHTWARDS ARROW,LEFTWARDS AND DOWNWARDS ARROW"),
  ("BLACK CURVED ", "LEFTWARDS AND UPWARDS ARROW,RIGHTWARDS AND DOWNWARDS ARROW"),
  ("BLACK CURVED ", "RIGHTWARDS AND UPWARDS ARROW,UPWARDS AND LEFTWARDS ARROW"),
  ("BLACK ", "CURVED UPWARDS AND RIGHTWARDS ARROW,DIAMOND,DIAMOND CENTRED,DIAMOND MINUS WHITE X"),
  ("BLACK D", "IAMOND ON CROSS,IAMOND SUIT,IAMOND WITH DOWN ARROW,OWN POINTING BACKHAND INDEX"),
  ("BLACK DOWN-POINTING ", "DOUBLE TRIANGLE,ISOSCELES RIGHT TRIANGLE,SMALL TRIANGLE,TRIANGLE"),
  ("BLACK D", "OWNWARDS EQUILATERAL ARROWHEAD,RAUGHTS KING,RAUGHTS MAN,ROPLET"),
  ("BLACK ", "FLAG,FLORETTE,FOLDER,FOUR POINTED STAR,HARD SHELL FLOPPY DISK,HEART"),
  ("BLACK ", "HEART SUIT,HEXAGON,HORIZONTAL ELLIPSE,HOURGLASS,LARGE CIRCLE,LARGE SQUARE"),
  ("BLACK LEFT", " LANE MERGE, POINTING BACKHAND INDEX, POINTING INDEX,-POINTING DOUBLE TRIANGLE"),
  ("BLACK LEFT-POINTING ", "DOUBLE TRIANGLE WITH VERTICAL BAR,ISOSCELES RIGHT TRIANGLE,POINTER"),
  ("BLACK LEFT", "-POINTING SMALL TRIANGLE,-POINTING TRIANGLE,WARDS BULLET"),
  ("BLACK L", "EFTWARDS EQUILATERAL ARROWHEAD,OWER LEFT TRIANGLE,OWER RIGHT TRIANGLE,OZENGE"),
  ("BLACK MEDIUM D", "IAMOND,OWN-POINTING TRIANGLE,OWN-POINTING TRIANGLE CENTRED"),
  ("BLACK MEDIUM L", "EFT-POINTING TRIANGLE,EFT-POINTING TRIANGLE CENTRED,OZENGE"),
  ("BLACK MEDIUM RIGHT-POINTING TRIANGLE", ", CENTRED"),
  ("BLACK MEDIUM ", "SMALL DIAMOND,SMALL LOZENGE,SMALL SQUARE,SQUARE,UP-POINTING TRIANGLE"),
  ("BLACK M", "EDIUM UP-POINTING TRIANGLE CENTRED,OON LILITH"),
  ("BLACK ", "NIB,OCTAGON,PARALLELOGRAM,PENNANT,PENTAGON,PUSHPIN,QUESTION MARK ORNAMENT,RECTANGLE"),
  ("BLACK RIGHT", " POINTING BACKHAND INDEX, POINTING INDEX,-POINTING DOUBLE TRIANGLE"),
  ("BLACK RIGHT-POINTING ", "DOUBLE TRIANGLE WITH VERTICAL BAR,ISOSCELES RIGHT TRIANGLE,PENTAGON"),
  ("BLACK RIGHT-POINTING ", "POINTER,SMALL TRIANGLE,TRIANGLE,TRIANGLE WITH DOUBLE VERTICAL BAR"),
  ("BLACK RIGHTWARDS ", "ARROW,ARROWHEAD,BULLET,EQUILATERAL ARROWHEAD"),
  ("BLACK ", "ROSETTE,SAFETY SCISSORS,SCISSORS,SHOGI PIECE,SKULL AND CROSSBONES"),
  ("BLACK SLIGHTLY SMALL ", "CIRCLE,SQUARE"),
  ("BLACK SM", "ALL DIAMOND,ALL LOZENGE,ALL SQUARE,ALL STAR,ILING FACE"),
  ("BLACK S", "NOWMAN,PADE SUIT,QUARE,QUARE BUTTON,QUARE CENTRED,QUARE FOR STOP,TAR,UN WITH RAYS"),
  ("BLACK T", "ELEPHONE,INY DIAMOND,INY LOZENGE,INY SQUARE,OUCHTONE TELEPHONE,RUCK"),
  ("BLACK ", "TWO-WAY LEFT WAY TRAFFIC,UNIVERSAL RECYCLING SYMBOL,UP POINTING BACKHAND INDEX"),
  ("BLACK UP-POINTING ", "DOUBLE TRIANGLE,ISOSCELES RIGHT TRIANGLE,SMALL TRIANGLE,TRIANGLE"),
  ("BLACK UP", "PER LEFT TRIANGLE,PER RIGHT TRIANGLE,WARDS EQUILATERAL ARROWHEAD"),
  ("BLACK VER", "TICAL ELLIPSE,TICAL RECTANGLE,Y SMALL DIAMOND,Y SMALL LOZENGE,Y SMALL SQUARE"),
  ("BLACK-FEATHERED ", "NORTH EAST ARROW,RIGHTWARDS ARROW,SOUTH EAST ARROW"),
  ("BLACK-LETTER CAPITAL ", "C,H,I,R,Z"),
  ("BLANK SYMBOL", ""),
  ("BLOCK SEXTANT-1", ",2,23,234,2345,2346,235,2356,236,24,245,2456,246,25,256,26,3,34,345,3456"),
  ("BLOCK SEXTANT-", "1346,1356,136,14,145,1456,146,15,156,16,2,23,234,2345,23456,2346,235,2356"),
  ("BLOCK SEXTANT-", "236,24,245,2456,25,256,26,3,34,345,3456,346,35,356,36,4,45,456,46,5,56,6"),
  ("B", "LOSSOM,LOWFISH,LUE BOOK,LUE HEART,LUEBERRIES,OAR"),
  ("BOLD ", "EIGHT SPOKED ASTERISK,FIVE SPOKED ASTERISK,GREEK CROSS,SALTIRE,SIX SPOKED ASTERISK"),
  ("BO", "LD WHITE CIRCLE,LD WHITE SQUARE,M,MB,NE,OK,OKMARK,OKMARK TABS,OKS,OMERANG"),
  ("BOPOMOFO FINAL LETTER ", "G,H,K,P,T"),
  ("BOPOMOFO LETTER ", "A,AH,AI,AINN,AM,AN,ANG,ANN,AU,AUNN,B,BU,C,CH,D,E,EE,EH,EI,EN,ENG,ENN,ER,F"),
  ("BOPOMOFO LETTER ", "G,GH,GN,GU,GW,H,I,IH,IM,INN,INNN,IR,IU,J,JI,K,KW,L,LH,M,N,NG,NGG,NN"),
  ("BOPOMOFO LETTER ", "O,O WITH DOT ABOVE,OE,OM,ONG,ONN,OO,OU,P,Q,R,S,SH,T,U,UNN,V,X,Z,ZH,ZI,ZY"),
  ("BOTT", "LE WITH POPPING CORK,OM ARC ANTICLOCKWISE ARROW,OM CURLY BRACKET"),
  ("BOTTOM HALF ", "BLACK CIRCLE,INTEGRAL,LEFT PARENTHESIS,RIGHT PARENTHESIS"),
  ("BOTTOM ", "LEFT CORNER,LEFT CROP,LEFT HALF BRACKET,PARENTHESIS,RIGHT CORNER,RIGHT CROP"),
  ("BOTTOM ", "RIGHT HALF BRACKET,SQUARE BRACKET,SQUARE BRACKET OVER TOP SQUARE BRACKET"),
  ("BO", "TTOM TORTOISE SHELL BRACKET,UQUET,UQUET OF FLOWERS,W AND ARROW"),
  ("BOW", "L OF HYGIEIA,L WITH SPOON,LING,TIE,TIE WITH LEFT HALF BLACK,TIE WITH RIGHT HALF BLACK"),
  ("BOX DRAWINGS DOUBLE DOWN AND ", "HORIZONTAL,LEFT,RIGHT"),
  ("BOX DRAWINGS DOUBLE ", "HORIZONTAL,UP AND HORIZONTAL,UP AND LEFT,UP AND RIGHT,VERTICAL"),
  ("BOX DRAWINGS DOUBLE VERTICAL AND ", "HORIZONTAL,LEFT,RIGHT"),
  ("BOX DRAWINGS DOWN DOUBLE AND ", "HORIZONTAL SINGLE,LEFT SINGLE,RIGHT SINGLE"),
  ("BOX DRAWINGS DOWN HEAVY AND ", "HORIZONTAL LIGHT,LEFT LIGHT,LEFT UP LIGHT,RIGHT LIGHT"),
  ("BOX DRAWINGS DOWN HEAVY AND ", "RIGHT UP LIGHT,UP HORIZONTAL LIGHT"),
  ("BOX DRAWINGS DOWN LIGHT AND ", "HORIZONTAL HEAVY,LEFT HEAVY,LEFT UP HEAVY,RIGHT HEAVY"),
  ("BOX DRAWINGS DOWN LIGHT AND ", "RIGHT UP HEAVY,UP HORIZONTAL HEAVY"),
  ("BOX DRAWINGS DOWN SINGLE AND ", "HORIZONTAL DOUBLE,LEFT DOUBLE,RIGHT DOUBLE"),
  ("BOX DRAWINGS HEAVY DO", "UBLE DASH HORIZONTAL,UBLE DASH VERTICAL,WN,WN AND HORIZONTAL"),
  ("BOX DRAWINGS HEAVY ", "DOWN AND LEFT,DOWN AND RIGHT,HORIZONTAL,LEFT,LEFT AND LIGHT RIGHT"),
  ("BOX DRAWINGS HEAVY QUADRUPLE DASH ", "HORIZONTAL,VERTICAL"),
  ("BOX DRAWINGS HEAVY ", "RIGHT,TRIPLE DASH HORIZONTAL,TRIPLE DASH VERTICAL,UP"),
  ("BOX DRAWINGS HEAVY UP AND ", "HORIZONTAL,LEFT,LIGHT DOWN,RIGHT"),
  ("BOX DRAWINGS HEAVY VERTICAL", ", AND HORIZONTAL, AND LEFT, AND RIGHT"),
  ("BOX DRAWINGS LEFT DOWN HEAVY AND RIGHT UP LIGHT", ""),
  ("BOX DRAWINGS LEFT HEAVY AND RIGHT ", "DOWN LIGHT,UP LIGHT,VERTICAL LIGHT"),
  ("BOX DRAWINGS LEFT LIGHT AND RIGHT ", "DOWN HEAVY,UP HEAVY,VERTICAL HEAVY"),
  ("BOX DRAWINGS LEFT UP HEAVY AND RIGHT DOWN LIGHT", ""),
  ("BOX DRAWINGS LIGHT ARC ", "DOWN AND LEFT,DOWN AND RIGHT,UP AND LEFT,UP AND RIGHT"),
  ("BOX DRAWINGS LIGHT DIAGONAL ", "CROSS,DIAMOND"),
  ("BOX DRAWINGS LIGHT DIAGONAL MIDDLE LEFT TO LOWER CENTRE", ", TO MIDDLE RIGHT"),
  ("BOX DRAWINGS LIGHT DIAGONAL MIDDLE LEFT TO UPPER CENTRE TO MIDDLE RIGHT", ", TO LOWER CENTRE"),
  ("BOX DRAWINGS LIGHT DIAGONAL MIDDLE RIGHT TO LOWER CENTRE", ""),
  ("BOX DRAWINGS LIGHT DIAGONAL MIDDLE RIGHT TO UPPER CENTRE TO MIDDLE LEFT TO LOWER CENTRE", ""),
  ("BOX DRAWINGS LIGHT DIAGONAL UPPER CENTRE TO MIDDLE LEFT", ", AND MIDDLE RIGHT TO LOWER CENTRE"),
  ("BOX DRAWINGS LIGHT DIAGONAL UPPER CENTRE TO MIDDLE LEFT TO LOWER CENTRE", ", TO MIDDLE RIGHT"),
  ("BOX DRAWINGS LIGHT DIAGONAL UPPER CENTRE TO MIDDLE RIGHT", ", AND MIDDLE LEFT TO LOWER CENTRE"),
  ("BOX DRAWINGS LIGHT DIAGONAL UPPER CENTRE TO MIDDLE RIGHT TO LOWER CENTRE", ", TO MIDDLE LEFT"),
  ("BOX DRAWINGS LIGHT DIAGONAL UPPER ", "LEFT TO LOWER RIGHT,RIGHT TO LOWER LEFT"),
  ("BOX DRAWINGS LIGHT DOUBLE DASH ", "HORIZONTAL,VERTICAL"),
  ("BOX DRAWINGS LIGHT DOWN", ", AND HORIZONTAL, AND LEFT, AND RIGHT"),
  ("BOX DRAWINGS LIGHT ", "HORIZONTAL,HORIZONTAL WITH VERTICAL STROKE,LEFT,LEFT AND HEAVY RIGHT"),
  ("BOX DRAWINGS LIGHT QUADRUPLE DASH ", "HORIZONTAL,VERTICAL"),
  ("BOX DRAWINGS LIGHT ", "RIGHT,TRIPLE DASH HORIZONTAL,TRIPLE DASH VERTICAL,UP"),
  ("BOX DRAWINGS LIGHT UP AND ", "HEAVY DOWN,HORIZONTAL,LEFT,RIGHT"),
  ("BOX DRAWINGS LIGHT VERTICAL", ", AND HORIZONTAL, AND LEFT, AND RIGHT"),
  ("BOX DRAWINGS RIGHT DOWN HEAVY AND LEFT UP LIGHT", ""),
  ("BOX DRAWINGS RIGHT HEAVY AND LEFT ", "DOWN LIGHT,UP LIGHT,VERTICAL LIGHT"),
  ("BOX DRAWINGS RIGHT LIGHT AND LEFT ", "DOWN HEAVY,UP HEAVY,VERTICAL HEAVY"),
  ("BOX DRAWINGS RIGHT UP HEAVY AND LEFT DOWN LIGHT", ""),
  ("BOX DRAWINGS UP DOUBLE AND ", "HORIZONTAL SINGLE,LEFT SINGLE,RIGHT SINGLE"),
  ("BOX DRAWINGS UP HEAVY AND ", "DOWN HORIZONTAL LIGHT,HORIZONTAL LIGHT,LEFT DOWN LIGHT"),
  ("BOX DRAWINGS UP HEAVY AND ", "LEFT LIGHT,RIGHT DOWN LIGHT,RIGHT LIGHT"),
  ("BOX DRAWINGS UP LIGHT AND ", "DOWN HORIZONTAL HEAVY,HORIZONTAL HEAVY,LEFT DOWN HEAVY"),
  ("BOX DRAWINGS UP LIGHT AND ", "LEFT HEAVY,RIGHT DOWN HEAVY,RIGHT HEAVY"),
  ("BOX DRAWINGS UP SINGLE AND ", "HORIZONTAL DOUBLE,LEFT DOUBLE,RIGHT DOUBLE"),
  ("BOX DRAWINGS VERTICAL DOUBLE AND ", "HORIZONTAL SINGLE,LEFT SINGLE,RIGHT SINGLE"),
  ("BOX DRAWINGS VERTICAL HEAVY AND ", "HORIZONTAL LIGHT,LEFT LIGHT,RIGHT LIGHT"),
  ("BOX DRAWINGS VERTICAL LIGHT AND ", "HORIZONTAL HEAVY,LEFT HEAVY,RIGHT HEAVY"),
  ("BOX DRAWINGS VERTICAL SINGLE AND ", "HORIZONTAL DOUBLE,LEFT DOUBLE,RIGHT DOUBLE"),
  ("B", "OXING GLOVE,OY,OYS SYMBOL,PH,RAHMI DANDA"),
  ("BRAHMI DIGIT ", "EIGHT,FIVE,FOUR,NINE,ONE,SEVEN,SIX,THREE,TWO,ZERO"),
  ("BRAHMI DOUBLE DANDA", ""),
  ("BRAHMI LETTER ", "A,AA,AI,AU,BA,BHA,CA,CHA,DA,DDA,DDHA,DHA,E,GA,GHA,HA,I,II,JA,JHA,KA,KHA,LA"),
  ("BRAHMI LETTER ", "LLA,MA,NA,NGA,NNA,NYA,O,OLD TAMIL LLA,OLD TAMIL LLLA,OLD TAMIL NNNA"),
  ("BRAHMI LETTER ", "OLD TAMIL RRA,OLD TAMIL SHORT E,OLD TAMIL SHORT O,PA,PHA,RA,SA,SHA,SSA,TA"),
  ("BRAHMI LETTER ", "THA,TTA,TTHA,U,UU,VA,VOCALIC L,VOCALIC LL,VOCALIC R,VOCALIC RR,YA"),
  ("BRAHMI NUMBER ", "EIGHT,EIGHTY,FIFTY,FIVE,FORTY,FOUR,JOINER,NINE,NINETY,ONE,ONE HUNDRED"),
  ("BRAHMI NUMBER ", "ONE THOUSAND,SEVEN,SEVENTY,SIX,SIXTY,TEN,THIRTY,THREE,TWENTY,TWO"),
  ("BRAHMI PUNCTUATION ", "CRESCENT BAR,DOT,DOUBLE DOT,LINE,LOTUS"),
  ("BRAHMI SIGN ", "ANUSVARA,CANDRABINDU,JIHVAMULIYA,OLD TAMIL VIRAMA,UPADHMANIYA,VISARGA"),
  ("BRAHMI V", "IRAMA,OWEL SIGN AA,OWEL SIGN AI,OWEL SIGN AU,OWEL SIGN BHATTIPROLU AA"),
  ("BRAHMI VOWEL SIGN ", "E,I,II,O,OLD TAMIL SHORT E,OLD TAMIL SHORT O,U,UU,VOCALIC L,VOCALIC LL"),
  ("BRA", "HMI VOWEL SIGN VOCALIC R,HMI VOWEL SIGN VOCALIC RR,ILLE PATTERN BLANK"),
  ("BRAILLE PATTERN DOTS-1", ",2,23,234,2345,23456,234567,2345678,234568,23457,234578,23458"),
  ("BRAILLE PATTERN DOTS-123", "46,467,4678,468,47,478,48,5,56,567,5678,568,57,578,58,6,67,678,68"),
  ("BRAILLE PATTERN DOTS-12", "37,378,38,4,45,456,4567,45678,4568,457,4578,458,46,467,4678,468,47"),
  ("BRAILLE PATTERN DOTS-12", "478,48,5,56,567,5678,568,57,578,58,6,67,678,68,7,78,8"),
  ("BRAILLE PATTERN DOTS-13", ",4,45,456,4567,45678,4568,457,4578,458,46,467,4678,468,47,478,48,5"),
  ("BRAILLE PATTERN DOTS-13", "56,567,5678,568,57,578,58,6,67,678,68,7,78,8"),
  ("BRAILLE PATTERN DOTS-14", ",5,56,567,5678,568,57,578,58,6,67,678,68,7,78,8"),
  ("BRAILLE PATTERN DOTS-", "15,156,1567,15678,1568,157,1578,158,16,167,1678,168,17,178,18,2,23"),
  ("BRAILLE PATTERN DOTS-234", ",5,56,567,5678,568,57,578,58,6,67,678,68,7,78,8"),
  ("BRAILLE PATTERN DOTS-23", "5,56,567,5678,568,57,578,58,6,67,678,68,7,78,8"),
  ("BRAILLE PATTERN DOTS-24", ",5,56,567,5678,568,57,578,58,6,67,678,68,7,78,8"),
  ("BRAILLE PATTERN DOTS-2", "5,56,567,5678,568,57,578,58,6,67,678,68,7,78,8"),
  ("BRAILLE PATTERN DOTS-3", ",4,45,456,4567,45678,4568,457,4578,458,46,467,4678,468"),
  ("BRAILLE PATTERN DOTS-3", "47,478,48,5,56,567,5678,568,57,578,58,6,67,678,68,7,78,8"),
  ("BRAILLE PATTERN DOTS-4", ",5,56,567,5678,568,57,578,58,6,67,678,68,7,78,8"),
  ("BRAILLE PATTERN DOTS-", "5,56,567,5678,568,57,578,58,6,67,678,68,7,78,8"),
  ("BR", "AIN,EAD,EAK PERMITTED HERE,EAST-FEEDING,EVE,ICK,IDE WITH VEIL,IDGE AT NIGHT,IEFCASE"),
  ("BR", "IEFS,OCCOLI,OKEN BAR,OKEN CIRCLE WITH NORTHWEST ARROW,OKEN HEART,OOM,OWN HEART"),
  ("B", "S,UBBLE TEA,UBBLES,UCKET,UG,UGINESE END OF SECTION,UGINESE LETTER A"),
  ("BUGINESE LETTER ", "BA,CA,DA,GA,HA,JA,KA,LA,MA,MPA,NA,NGA,NGKA,NRA,NYA,NYCA,PA,RA,SA,TA,VA,YA"),
  ("BUGINESE ", "PALLAWA,VOWEL SIGN AE,VOWEL SIGN E,VOWEL SIGN I,VOWEL SIGN O,VOWEL SIGN U"),
  ("BUHID LETTER ", "A,BA,DA,GA,HA,I,KA,LA,MA,NA,NGA,PA,RA,SA,TA,U,WA,YA"),
  ("BUHID VOWEL SIGN ", "I,U"),
  ("BU", "ILDING CONSTRUCTION,LLET,LLET OPERATOR,LLHORN,LLHORN WITH SOUND WAVES,LLSEYE,RRITO,S"),
  ("B", "US STOP,UST IN SILHOUETTE,USTS IN SILHOUETTE,UTTER,UTTERFLY,YTE ORDER MARK"),
  ("BYZANTINE MUSICAL SYMBOL AGOGI ", "ARGI,ARGOTERI,GORGI,GORGOTERI,MESI,METRIA,POLI ARGI"),
  ("BYZANTINE MUSICAL SYMBOL A", "GOGI POLI GORGI,NATRICHISMA,NTIKENOKYLISMA,NTIKENOMA"),
  ("BYZANTINE MUSICAL SYMBOL AP", "ESO EKFONITIKON,ESO EXO NEO,LI,ODERMA ARCHAION,ODERMA NEO"),
  ("BYZANTINE MUSICAL SYMBOL APOSTROFO", "I SYNDESMOS NEO,I TELOUS ICHIMATOS,S,S DIPLI,S NEO"),
  ("BYZANTINE MUSICAL SYMBOL A", "POTHEMA,RGON,RGOSYNTHETON,RKTIKO DI,RKTIKO GA,RKTIKO KE"),
  ("BYZANTINE MUSICAL SYMBOL ", "ARKTIKO NI,ARKTIKO PA,ARKTIKO VOU,ARKTIKO ZO,CHAMILI,CHAMILON"),
  ("BYZANTINE MUSICAL SYMBOL CH", "OREVMA ARCHAION,OREVMA NEO,ROA KLITON,ROA SPATHI,ROA ZYGOS"),
  ("BYZANTINE MUSICAL SYMBOL D", "ASEIA,IARGON,IASTOLI APLI MEGALI,IASTOLI APLI MIKRI"),
  ("BYZANTINE MUSICAL SYMBOL DI", "ASTOLI DIPLI,ASTOLI THESEOS,ESIS APLI DYO DODEKATA"),
  ("BYZANTINE MUSICAL SYMBOL DIESIS ", "DIGRAMMOS EX DODEKATA,MONOGRAMMOS TESSERA DODEKATA"),
  ("BYZANTINE MUSICAL SYMBOL DIESIS T", "ETARTIMORION,RIGRAMMOS OKTO DODEKATA,RITIMORION"),
  ("BYZANTINE MUSICAL SYMBOL DI", "FTOGGOS OU,GORGON"),
  ("BYZANTINE MUSICAL SYMBOL DIGORGON PARESTIGMENON ", "ARISTERA ANO,ARISTERA KATO,DEXIA"),
  ("BYZANTINE MUSICAL SYMBOL D", "IGRAMMA GG,IPLI,IPLI ARCHAION,YO"),
  ("BYZANTINE MUSICAL SYMBOL E", "KSTREPTON,LAFRON,NARXIS KAI FTHORA VOU,NDOFONON,PEGERMA"),
  ("BYZANTINE MUSICAL SYMBOL E", "TERON ARGOSYNTHETON,TERON PARAKALESMA,XO EKFONITIKON"),
  ("BYZANTINE MUSICAL SYMBOL FANEROSIS ", "DIFONIAS,MONOFONIAS,TETRAFONIAS"),
  ("BYZANTINE MUSICAL SYMBOL FHTORA SKLIRON CHROMA VASIS", ""),
  ("BYZANTINE MUSICAL SYMBOL FTHORA ARCHAION", ", DEYTEROU ICHOU"),
  ("BYZANTINE MUSICAL SYMBOL FTHORA DIATONIKI ", "DI,KE,NANA,NI ANO,NI KATO,PA,ZO"),
  ("BYZANTINE MUSICAL SYMBOL FTHORA ", "ENARMONIOS ANTIFONIA,I YFESIS TETARTIMORION"),
  ("BYZANTINE MUSICAL SYMBOL FTHORA MALAKON CHROMA ", "DIFONIAS,MONOFONIAS"),
  ("BYZANTINE MUSICAL SYMBOL FTHORA N", "AOS ICHOS,ENANO"),
  ("BYZANTINE MUSICAL SYMBOL FTHORA SKLIRON ", "CHROMA SYNAFI,CHROMA VASIS,DIATONON DI"),
  ("BYZANTINE MUSICAL SYMBOL GENIKI ", "DIESIS,YFESIS"),
  ("BYZANTINE MUSICAL SYMBOL GORGON ", "ARCHAION,NEO ANO,NEO KATO,PARESTIGMENON ARISTERA"),
  ("BYZANTINE MUSICAL SYMBOL GOR", "GON PARESTIGMENON DEXIA,GOSYNTHETON,THMIKON N APLOUN"),
  ("BYZANTINE MUSICAL SYMBOL ", "GORTHMIKON N DIPLOUN,GRONTHISMATA,ICHADIN,IMIDIARGON,IMIFONON"),
  ("BYZANTINE MUSICAL SYMBOL I", "MIFTHORA,MIFTHORON,SAKIA TELOUS ICHIMATOS,SON ARCHAION,SON NEO"),
  ("BYZANTINE MUSICAL SYMBOL KAT", "AVA TROMIKON,AVASMA,HISTI"),
  ("BYZANTINE MUSICAL SYMBOL KENTIMA", " ARCHAION, NEO ANO, NEO KATO, NEO MESO,TA,TA ARCHAION"),
  ("BYZANTINE MUSICAL SYMBOL KENTIMATA NEO ", "ANO,KATO,MESO"),
  ("BYZANTINE MUSICAL SYMBOL K", "LASMA,LASMA ANO,LASMA KATO,ONTEVMA,ONTEVMA ALLO,ORONIS,OUFISMA"),
  ("BYZANTINE MUSICAL SYMBOL KRATIM", "A ALLO,A ARCHAION,A NEO,ATA,OKOUFISMA,OYPORROON"),
  ("BYZANTINE MUSICAL SYMBOL K", "REMASTI,YLISMA"),
  ("BYZANTINE MUSICAL SYMBOL LEIMMA ", "DYO CHRONON,ENOS CHRONOU,IMISEOS CHRONOU,TESSARON CHRONON"),
  ("BYZANTINE MUSICAL SYMBOL ", "LEIMMA TRION CHRONON,LEMOI,LYGISMA,MARTYRIA ALLI DEYTEROS ICHOS"),
  ("BYZANTINE MUSICAL SYMBOL MARTYRIA ", "ALLI PROTOS ICHOS,DEYTEROS ICHOS,LEGETOS ICHOS"),
  ("BYZANTINE MUSICAL SYMBOL MARTYRIA P", "LAGIOS ICHOS,LAGIOS TETARTOS ICHOS,ROTOS ICHOS"),
  ("BYZANTINE MUSICAL SYMBOL MARTYRIA ", "PROTOVARYS ICHOS,TETARTOS ICHOS,TETARTOS LEGETOS ICHOS"),
  ("BYZANTINE MUSICAL SYMBOL MARTYRIA ", "TRIFONIAS,TRITOS ICHOS,VARYS ICHOS"),
  ("BYZANTINE MUSICAL SYMBOL ", "MIKRON ISON,NANA,OLIGON ARCHAION,OLIGON NEO,OMALON"),
  ("BYZANTINE MUSICAL SYMBOL OXEIA", " DIPLI, EKFONITIKON, NEO,I ARCHAION"),
  ("BYZANTINE MUSICAL SYMBOL OYRANISMA ", "ARCHAION,NEO"),
  ("BYZANTINE MUSICAL SYMBOL PARAK", "ALESMA ARCHAION,ALESMA NEO,LITIKI,LITIKI ARCHAION"),
  ("BYZANTINE MUSICAL SYMBOL P", "ARAKLITIKI NEO,ARICHON,ELASTON,ELASTON NEO,ERISPOMENI,ETASMA"),
  ("BYZANTINE MUSICAL SYMBOL P", "ETASTI,ETASTOKOUFISMA,IASMA ARCHAION,IASMA NEO"),
  ("BYZANTINE MUSICAL SYMBOL PSIFISTO", "LYGISMA,N,N NEO,PARAKALESMA,SYNAGMA"),
  ("BYZANTINE MUSICAL SYMBOL ", "PSILI,PSILON,RAPISMA,REVMA,SAXIMATA,SEISMA,SEISMA NEO"),
  ("BYZANTINE MUSICAL SYMBOL SIMANSIS ARSEOS", ", DISIMOU, TETRASIMOU, TRISIMOU"),
  ("BYZANTINE MUSICAL SYMBOL SIMANSIS THESEOS", ", DISIMOU, TETRASIMOU, TRISIMOU"),
  ("BYZANTINE MUSICAL SYMBOL S", "TAVROS,TAVROS APODEXIA,TIGMA,TRAGGISMATA,YNAGMA ARCHAION"),
  ("BYZANTINE MUSICAL SYMBOL ", "SYNAGMA META STAVROU,SYNAGMA NEO,SYNEVMA,SYRMA,SYRMATIKI,TELEIA"),
  ("BYZANTINE MUSICAL SYMBOL T", "ESSERA,ETRAPLI,HEMA,HEMA APLOUN,HEMATISMOS ESO,HEMATISMOS EXO"),
  ("BYZANTINE MUSICAL SYMBOL T", "HES KAI APOTHES,HITA,INAGMA,RIA,RIGORGON,RIPLI,ROMIKOLYGISMA"),
  ("BYZANTINE MUSICAL SYMBOL TROMIKO", "N ALLO,N ARCHAION,N NEO,PARAKALESMA,PSIFISTON,SYNAGMA"),
  ("BYZANTINE MUSICAL SYMBOL VAREIA", " DIPLI, EKFONITIKON, NEO,I ARCHAION"),
  ("BYZANTINE MUSICAL SYMBOL ", "VATHY,XIRON KLASMA,YFEN ANO,YFEN KATO,YFESIS APLI DYO DODEKATA"),
  ("BYZANTINE MUSICAL SYMBOL YFESIS ", "DIGRAMMOS EX DODEKATA,MONOGRAMMOS TESSERA DODEKATA"),
  ("BYZANTINE MUSICAL SYMBOL YFESIS TRI", "GRAMMOS OKTO DODEKATA,TIMORION"),
  ("BYZANTINE MUSICAL SYMBOL YP", "OKRISIS,OKRISIS DIPLI,ORROI,SILI")]

end ModelBindings.Text.CharacterName
