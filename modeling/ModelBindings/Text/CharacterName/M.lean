/-!
# Character names that start with M
-/

set_option autoImplicit false

namespace ModelBindings.Text.CharacterName

/-- The character names that start with M, in groups. -/
def namesM : List (String × String) := [
  ("MA", "CRON,GE,GIC WAND,GNET,HAJANI ABBREVIATION SIGN"),
  ("MAHAJANI LETTER ", "A,BA,BHA,CA,CHA,DA,DDA,DDHA,DHA,E,GA,GHA,HA,I,JA,JHA,KA,KHA,LA,MA"),
  ("MAHAJANI LETTER ", "NA,NNA,NYA,O,PA,PHA,RA,RRA,SA,TA,THA,TTA,TTHA,U,VA"),
  ("MAH", "AJANI LIGATURE SHRI,AJANI SECTION MARK,AJANI SIGN NUKTA,JONG TILE AUTUMN"),
  ("MAHJONG TILE ", "BACK,BAMBOO,CHRYSANTHEMUM,EAST WIND,EIGHT OF BAMBOOS,EIGHT OF CHARACTERS"),
  ("MAHJONG TILE ", "EIGHT OF CIRCLES,FIVE OF BAMBOOS,FIVE OF CHARACTERS,FIVE OF CIRCLES"),
  ("MAHJONG TILE ", "FOUR OF BAMBOOS,FOUR OF CHARACTERS,FOUR OF CIRCLES,GREEN DRAGON,JOKER"),
  ("MAHJONG TILE ", "NINE OF BAMBOOS,NINE OF CHARACTERS,NINE OF CIRCLES,NORTH WIND,ONE OF BAMBOOS"),
  ("MAHJONG TILE ", "ONE OF CHARACTERS,ONE OF CIRCLES,ORCHID,PLUM,RED DRAGON,SEVEN OF BAMBOOS"),
  ("MAHJONG TILE S", "EVEN OF CHARACTERS,EVEN OF CIRCLES,IX OF BAMBOOS,IX OF CHARACTERS"),
  ("MAHJONG TILE ", "SIX OF CIRCLES,SOUTH WIND,SPRING,SUMMER,THREE OF BAMBOOS,THREE OF CHARACTERS"),
  ("MAHJONG TILE ", "THREE OF CIRCLES,TWO OF BAMBOOS,TWO OF CHARACTERS,TWO OF CIRCLES,WEST WIND"),
  ("MA", "HJONG TILE WHITE DRAGON,HJONG TILE WINTER,KASAR ANGKA,KASAR END OF SECTION"),
  ("MAKASAR LETTER ", "A,BA,CA,DA,GA,JA,KA,LA,MA,NA,NGA,NYA,PA,RA,SA,TA,VA,YA"),
  ("MAKASAR ", "PASSIMBANG,VOWEL SIGN E,VOWEL SIGN I,VOWEL SIGN O,VOWEL SIGN U"),
  ("MALAYALAM ", "AU LENGTH MARK,DATE MARK"),
  ("MALAYALAM DIGIT ", "EIGHT,FIVE,FOUR,NINE,ONE,SEVEN,SIX,THREE,TWO,ZERO"),
  ("MALAYALAM FRACTION ONE ", "EIGHTH,FIFTH,FORTIETH,HALF,ONE-HUNDRED-AND-SIXTIETH,QUARTER"),
  ("MALAYALAM FRACTION ONE ", "SIXTEENTH,TENTH,TWENTIETH"),
  ("MALAYALAM FRACTION THREE ", "EIGHTIETHS,QUARTERS,SIXTEENTHS,TWENTIETHS"),
  ("MALAYALAM LETTER ", "A,AA,AI,ARCHAIC II,AU,BA,BHA,CA,CHA"),
  ("MALAYALAM LETTER CHILLU ", "K,L,LL,LLL,M,N,NN,RR,Y"),
  ("MALAYALAM LETTER ", "DA,DDA,DDHA,DHA,DOT REPH,E,EE,GA,GHA,HA,I,II,JA,JHA,KA,KHA,LA,LLA,LLLA"),
  ("MALAYALAM LETTER ", "MA,NA,NGA,NNA,NNNA,NYA,O,OO,PA,PHA,RA,RRA,SA,SHA,SSA,TA,THA,TTA,TTHA"),
  ("MALAYALAM LETTER ", "TTTA,U,UU,VA,VEDIC ANUSVARA,VOCALIC L,VOCALIC LL,VOCALIC R,VOCALIC RR,YA"),
  ("MALAYALAM NUMBER ", "ONE HUNDRED,ONE THOUSAND,TEN"),
  ("MALAYALAM SIGN ", "ANUSVARA,AVAGRAHA,CANDRABINDU,CIRCULAR VIRAMA,COMBINING ANUSVARA ABOVE"),
  ("MALAYALAM ", "SIGN PARA,SIGN VERTICAL BAR VIRAMA,SIGN VIRAMA,SIGN VISARGA,VOWEL SIGN AA"),
  ("MALAYALAM VOWEL SIGN ", "AI,AU,E,EE,I,II,O,OO,U,UU,VOCALIC L,VOCALIC LL,VOCALIC R,VOCALIC RR"),
  ("MALE ", "AND FEMALE SIGN,SIGN,WITH STROKE AND MALE AND FEMALE SIGN,WITH STROKE SIGN"),
  ("MA", "LTESE CROSS,MMOTH,N,N AND WOMAN HOLDING HANDS"),
  ("MAN", " DANCING, IN BUSINESS SUIT LEVITATING, IN TUXEDO, WITH GUA PI MAO, WITH TURBAN,AT SIGN"),
  ("MANDAIC ", "AFFRICATION MARK,GEMINATION MARK,LETTER AB,LETTER AD,LETTER AG"),
  ("MANDAIC LETTER ", "AH,AIN,AK,AKSA,AL,AM,AN,AP,AQ,AR,AS,ASH,ASZ,AT,ATT,AZ,DUSHENNA,HALQA,IN,IT"),
  ("MAN", "DAIC LETTER KAD,DAIC LETTER USHENNA,DAIC PUNCTUATION,DAIC VOCALIZATION MARK,GO"),
  ("MANICHAEAN ABBREVIATION MARK ", "ABOVE,BELOW"),
  ("MANICHAEAN LETTER ", "AAYIN,ALEPH,AYIN,BETH,BHETH,DALETH,DHAMEDH,FE,GHIMEL,GIMEL"),
  ("MANICHAEAN LETTER ", "HE,HETH,JAYIN,JHAYIN,KAPH,KHAPH,LAMEDH,MEM,NUN,PE,QHOPH,QOPH,RESH,SADHE"),
  ("MANICHAEAN LETTER ", "SAMEKH,SHIN,SSHIN,TAW,TETH,THAMEDH,WAW,XAPH,XOPH,YODH,ZAYIN,ZHAYIN"),
  ("MANICHAEAN NUMBER ", "FIVE,ONE,ONE HUNDRED,TEN,TWENTY"),
  ("MANICHAEAN PUNCTUATION ", "DOT,DOT WITHIN DOT,DOUBLE DOT WITHIN DOT,FLEURON,LINE FILLER,STAR"),
  ("MAN", "ICHAEAN PUNCTUATION TWO DOTS,ICHAEAN SIGN UD,S SHOE,TELPIECE CLOCK,UAL WHEELCHAIR"),
  ("MA", "P SYMBOL FOR LIGHTHOUSE,PLE LEAF,RCHEN HEAD MARK"),
  ("MARCHEN LETTER ", "-A,A,BA,CA,CHA,DA,DZA,GA,HA,JA,KA,KHA,LA,MA,NA,NGA,NYA,PA,PHA,RA,SA,SHA,TA"),
  ("MARCHEN LETTER ", "THA,TSA,TSHA,WA,YA,ZA,ZHA"),
  ("MARCHEN ", "MARK SHAD,SIGN ANUSVARA,SIGN CANDRABINDU"),
  ("MARCHEN SUBJOINED LETTER ", "A,BA,CA,CHA,DA,DZA,GA,HA,JA,KA,KHA,LA,MA,NA,NGA,NYA,PA,PHA,RA,SA"),
  ("MARCHEN SUBJOINED LETTER ", "SHA,TA,THA,TSA,TSHA,WA,YA,ZA,ZHA"),
  ("MARCHEN VOWEL SIGN ", "AA,E,I,O,U"),
  ("MAR", "RIAGE SYMBOL,TIAL ARTS UNIFORM"),
  ("MASARAM GONDI DIGIT ", "EIGHT,FIVE,FOUR,NINE,ONE,SEVEN,SIX,THREE,TWO,ZERO"),
  ("MASARAM GONDI LETTER ", "A,AA,AI,AU,BA,BHA,CA,CHA,DA,DDA,DDHA,DHA,E,GA,GHA,HA,I,II"),
  ("MASARAM GONDI LETTER ", "JA,JHA,JNYA,KA,KHA,KSSA,LA,LLA,MA,NA,NGA,NNA,NYA,O,PA,PHA"),
  ("MASARAM GONDI LETTER ", "RA,SA,SHA,SSA,TA,THA,TRA,TTA,TTHA,U,UU,VA,YA"),
  ("MASARAM GONDI R", "A-KARA,EPHA"),
  ("MASARAM GONDI ", "SIGN ANUSVARA,SIGN CANDRA,SIGN HALANTA,SIGN NUKTA,SIGN VISARGA,VIRAMA"),
  ("MASARAM GONDI VOWEL SIGN ", "AA,AI,AU,E,I,II,O,U,UU,VOCALIC R"),
  ("MA", "SCULINE ORDINAL INDICATOR,SK WORK SYMBOL,SU MARK,TE DRINK"),
  ("MATHEMATICAL BOLD CAPITAL ", "A,ALPHA,B,BETA,C,CHI,D,DELTA,DIGAMMA,E,EPSILON,ETA,F,G,GAMMA,H"),
  ("MATHEMATICAL BOLD CAPITAL ", "I,IOTA,J,K,KAPPA,L,LAMDA,M,MU,N,NU,O,OMEGA,OMICRON,P,PHI,PI,PSI"),
  ("MATHEMATICAL BOLD CAPITAL ", "Q,R,RHO,S,SIGMA,T,TAU,THETA,THETA SYMBOL,U,UPSILON,V,W,X,XI,Y,Z"),
  ("MATHEMATICAL BOLD ", "CAPITAL ZETA,DIGIT EIGHT,DIGIT FIVE,DIGIT FOUR,DIGIT NINE,DIGIT ONE"),
  ("MATHEMATICAL BOLD ", "DIGIT SEVEN,DIGIT SIX,DIGIT THREE,DIGIT TWO,DIGIT ZERO,EPSILON SYMBOL"),
  ("MATHEMATICAL BOLD FRAKTUR CAPITAL ", "A,B,C,D,E,F,G,H,I,J,K,L,M,N,O,P,Q,R,S,T,U,V,W,X,Y,Z"),
  ("MATHEMATICAL BOLD FRAKTUR SMALL ", "A,B,C,D,E,F,G,H,I,J,K,L,M,N,O,P,Q,R,S,T,U,V,W,X,Y,Z"),
  ("MATHEMATICAL BOLD ITALIC CAPITAL ", "A,ALPHA,B,BETA,C,CHI,D,DELTA,E,EPSILON,ETA,F,G,GAMMA,H"),
  ("MATHEMATICAL BOLD ITALIC CAPITAL ", "I,IOTA,J,K,KAPPA,L,LAMDA,M,MU,N,NU,O,OMEGA,OMICRON"),
  ("MATHEMATICAL BOLD ITALIC CAPITAL ", "P,PHI,PI,PSI,Q,R,RHO,S,SIGMA,T,TAU,THETA,THETA SYMBOL"),
  ("MATHEMATICAL BOLD ITALIC CAPITAL ", "U,UPSILON,V,W,X,XI,Y,Z,ZETA"),
  ("MATHEMATICAL BOLD ITALIC ", "EPSILON SYMBOL,KAPPA SYMBOL,NABLA,PARTIAL DIFFERENTIAL"),
  ("MATHEMATICAL BOLD ITALIC ", "PHI SYMBOL,PI SYMBOL,RHO SYMBOL,SMALL A,SMALL ALPHA"),
  ("MATHEMATICAL BOLD ITALIC SMALL ", "B,BETA,C,CHI,D,DELTA,E,EPSILON,ETA,F,FINAL SIGMA,G,GAMMA,H"),
  ("MATHEMATICAL BOLD ITALIC SMALL ", "I,IOTA,J,K,KAPPA,L,LAMDA,M,MU,N,NU,O,OMEGA,OMICRON,P,PHI"),
  ("MATHEMATICAL BOLD ITALIC SMALL ", "PI,PSI,Q,R,RHO,S,SIGMA,T,TAU,THETA,U,UPSILON,V,W,X,XI,Y,Z"),
  ("MATHEMATICAL BOLD ITALIC ", "SMALL ZETA,THETA SYMBOL"),
  ("MATHEMATICAL BOLD ", "KAPPA SYMBOL,NABLA,PARTIAL DIFFERENTIAL,PHI SYMBOL,PI SYMBOL,RHO SYMBOL"),
  ("MATHEMATICAL BOLD SCRIPT CAPITAL ", "A,B,C,D,E,F,G,H,I,J,K,L,M,N,O,P,Q,R,S,T,U,V,W,X,Y,Z"),
  ("MATHEMATICAL BOLD SCRIPT SMALL ", "A,B,C,D,E,F,G,H,I,J,K,L,M,N,O,P,Q,R,S,T,U,V,W,X,Y,Z"),
  ("MATHEMATICAL BOLD SMALL ", "A,ALPHA,B,BETA,C,CHI,D,DELTA,DIGAMMA,E,EPSILON,ETA,F,FINAL SIGMA"),
  ("MATHEMATICAL BOLD SMALL ", "G,GAMMA,H,I,IOTA,J,K,KAPPA,L,LAMDA,M,MU,N,NU,O,OMEGA,OMICRON,P"),
  ("MATHEMATICAL BOLD SMALL ", "PHI,PI,PSI,Q,R,RHO,S,SIGMA,T,TAU,THETA,U,UPSILON,V,W,X,XI,Y,Z"),
  ("MATHEMATICAL BOLD ", "SMALL ZETA,THETA SYMBOL"),
  ("MATHEMATICAL DOUBLE-STRUCK CAPITAL ", "A,B,D,E,F,G,I,J,K,L,M,O,S,T,U,V,W,X,Y"),
  ("MATHEMATICAL DOUBLE-STRUCK DIGIT ", "EIGHT,FIVE,FOUR,NINE,ONE,SEVEN,SIX,THREE,TWO,ZERO"),
  ("MATHEMATICAL DOUBLE-STRUCK SMALL ", "A,B,C,D,E,F,G,H,I,J,K,L,M,N,O,P,Q,R,S,T,U,V,W,X,Y,Z"),
  ("MATHEMATICAL FALLING DIAGONAL", ""),
  ("MATHEMATICAL FRAKTUR CAPITAL ", "A,B,D,E,F,G,J,K,L,M,N,O,P,Q,S,T,U,V,W,X,Y"),
  ("MATHEMATICAL FRAKTUR SMALL ", "A,B,C,D,E,F,G,H,I,J,K,L,M,N,O,P,Q,R,S,T,U,V,W,X,Y,Z"),
  ("MATHEMATICAL ITALIC CAPITAL ", "A,ALPHA,B,BETA,C,CHI,D,DELTA,E,EPSILON,ETA,F,G,GAMMA,H,I,IOTA"),
  ("MATHEMATICAL ITALIC CAPITAL ", "J,K,KAPPA,L,LAMDA,M,MU,N,NU,O,OMEGA,OMICRON,P,PHI,PI,PSI,Q,R"),
  ("MATHEMATICAL ITALIC CAPITAL ", "RHO,S,SIGMA,T,TAU,THETA,THETA SYMBOL,U,UPSILON,V,W,X,XI,Y,Z"),
  ("MATHEMATICAL ITALIC ", "CAPITAL ZETA,EPSILON SYMBOL,KAPPA SYMBOL"),
  ("MATHEMATICAL ITALIC ", "NABLA,PARTIAL DIFFERENTIAL,PHI SYMBOL,PI SYMBOL,RHO SYMBOL"),
  ("MATHEMATICAL ITALIC SMALL ", "A,ALPHA,B,BETA,C,CHI,D,DELTA,DOTLESS I"),
  ("MATHEMATICAL ITALIC SMALL ", "DOTLESS J,E,EPSILON,ETA,F,FINAL SIGMA,G,GAMMA,I,IOTA,J,K"),
  ("MATHEMATICAL ITALIC SMALL ", "KAPPA,L,LAMDA,M,MU,N,NU,O,OMEGA,OMICRON,P,PHI,PI,PSI,Q,R,RHO"),
  ("MATHEMATICAL ITALIC SMALL ", "S,SIGMA,T,TAU,THETA,U,UPSILON,V,W,X,XI,Y,Z,ZETA"),
  ("MATHEMATICAL ", "ITALIC THETA SYMBOL,LEFT ANGLE BRACKET,LEFT DOUBLE ANGLE BRACKET"),
  ("MATHEMATICAL LEFT ", "FLATTENED PARENTHESIS,WHITE SQUARE BRACKET,WHITE TORTOISE SHELL BRACKET"),
  ("MATHEMATICAL MONOSPACE CAPITAL ", "A,B,C,D,E,F,G,H,I,J,K,L,M,N,O,P,Q,R,S,T,U,V,W,X,Y,Z"),
  ("MATHEMATICAL MONOSPACE DIGIT ", "EIGHT,FIVE,FOUR,NINE,ONE,SEVEN,SIX,THREE,TWO,ZERO"),
  ("MATHEMATICAL MONOSPACE SMALL ", "A,B,C,D,E,F,G,H,I,J,K,L,M,N,O,P,Q,R,S,T,U,V,W,X,Y,Z"),
  ("MATHEMATICAL RIGHT ", "ANGLE BRACKET,DOUBLE ANGLE BRACKET,FLATTENED PARENTHESIS"),
  ("MATHEMATICAL RI", "GHT WHITE SQUARE BRACKET,GHT WHITE TORTOISE SHELL BRACKET,SING DIAGONAL"),
  ("MATHEMATICAL SANS-SERIF BOLD CAPITAL ", "A,ALPHA,B,BETA,C,CHI,D,DELTA,E,EPSILON,ETA,F,G,GAMMA"),
  ("MATHEMATICAL SANS-SERIF BOLD CAPITAL ", "H,I,IOTA,J,K,KAPPA,L,LAMDA,M,MU,N,NU,O,OMEGA,OMICRON"),
  ("MATHEMATICAL SANS-SERIF BOLD CAPITAL ", "P,PHI,PI,PSI,Q,R,RHO,S,SIGMA,T,TAU,THETA"),
  ("MATHEMATICAL SANS-SERIF BOLD CAPITAL ", "THETA SYMBOL,U,UPSILON,V,W,X,XI,Y,Z,ZETA"),
  ("MATHEMATICAL SANS-SERIF BOLD DIGIT ", "EIGHT,FIVE,FOUR,NINE,ONE,SEVEN,SIX,THREE,TWO,ZERO"),
  ("MATHEMATICAL SANS-SERIF BOLD ", "EPSILON SYMBOL,ITALIC CAPITAL A"),
  ("MATHEMATICAL SANS-SERIF BOLD ITALIC CAPITAL ", "ALPHA,B,BETA,C,CHI,D,DELTA,E,EPSILON,ETA,F,G"),
  ("MATHEMATICAL SANS-SERIF BOLD ITALIC CAPITAL ", "GAMMA,H,I,IOTA,J,K,KAPPA,L,LAMDA,M,MU,N,NU,O"),
  ("MATHEMATICAL SANS-SERIF BOLD ITALIC CAPITAL ", "OMEGA,OMICRON,P,PHI,PI,PSI,Q,R,RHO,S,SIGMA,T"),
  ("MATHEMATICAL SANS-SERIF BOLD ITALIC CAPITAL ", "TAU,THETA,THETA SYMBOL,U,UPSILON,V,W,X,XI,Y,Z"),
  ("MATHEMATICAL SANS-SERIF BOLD ITALIC ", "CAPITAL ZETA,EPSILON SYMBOL,KAPPA SYMBOL,NABLA"),
  ("MATHEMATICAL SANS-SERIF BOLD ITALIC ", "PARTIAL DIFFERENTIAL,PHI SYMBOL,PI SYMBOL,RHO SYMBOL"),
  ("MATHEMATICAL SANS-SERIF BOLD ITALIC SMALL ", "A,ALPHA,B,BETA,C,CHI,D,DELTA,E,EPSILON,ETA,F"),
  ("MATHEMATICAL SANS-SERIF BOLD ITALIC SMALL ", "FINAL SIGMA,G,GAMMA,H,I,IOTA,J,K,KAPPA,L,LAMDA"),
  ("MATHEMATICAL SANS-SERIF BOLD ITALIC SMALL ", "M,MU,N,NU,O,OMEGA,OMICRON,P,PHI,PI,PSI,Q,R,RHO"),
  ("MATHEMATICAL SANS-SERIF BOLD ITALIC SMALL ", "S,SIGMA,T,TAU,THETA,U,UPSILON,V,W,X,XI,Y,Z,ZETA"),
  ("MATHEMATICAL SANS-SERIF BOLD ", "ITALIC THETA SYMBOL,KAPPA SYMBOL,NABLA,PARTIAL DIFFERENTIAL"),
  ("MATHEMATICAL SANS-SERIF BOLD ", "PHI SYMBOL,PI SYMBOL,RHO SYMBOL,SMALL A,SMALL ALPHA,SMALL B"),
  ("MATHEMATICAL SANS-SERIF BOLD SMALL ", "BETA,C,CHI,D,DELTA,E,EPSILON,ETA,F,FINAL SIGMA,G,GAMMA"),
  ("MATHEMATICAL SANS-SERIF BOLD SMALL ", "H,I,IOTA,J,K,KAPPA,L,LAMDA,M,MU,N,NU,O,OMEGA,OMICRON,P"),
  ("MATHEMATICAL SANS-SERIF BOLD SMALL ", "PHI,PI,PSI,Q,R,RHO,S,SIGMA,T,TAU,THETA,U,UPSILON,V,W,X"),
  ("MATHEMATICAL SANS-SERIF BOLD ", "SMALL XI,SMALL Y,SMALL Z,SMALL ZETA,THETA SYMBOL"),
  ("MATHEMATICAL SANS-SERIF CAPITAL ", "A,B,C,D,E,F,G,H,I,J,K,L,M,N,O,P,Q,R,S,T,U,V,W,X,Y,Z"),
  ("MATHEMATICAL SANS-SERIF DIGIT ", "EIGHT,FIVE,FOUR,NINE,ONE,SEVEN,SIX,THREE,TWO,ZERO"),
  ("MATHEMATICAL SANS-SERIF ITALIC CAPITAL ", "A,B,C,D,E,F,G,H,I,J,K,L,M,N,O,P,Q,R,S,T,U,V,W,X,Y"),
  ("MATHEMATICAL SANS-SERIF ITALIC CAPITAL Z", ""),
  ("MATHEMATICAL SANS-SERIF ITALIC SMALL ", "A,B,C,D,E,F,G,H,I,J,K,L,M,N,O,P,Q,R,S,T,U,V,W,X,Y,Z"),
  ("MATHEMATICAL SANS-SERIF SMALL ", "A,B,C,D,E,F,G,H,I,J,K,L,M,N,O,P,Q,R,S,T,U,V,W,X,Y,Z"),
  ("MATHEMATICAL SCRIPT CAPITAL ", "A,C,D,G,J,K,N,O,P,Q,S,T,U,V,W,X,Y,Z"),
  ("MATHEMATICAL SCRIPT SMALL ", "A,B,C,D,F,H,I,J,K,L,M,N,P,Q,R,S,T,U,V,W,X,Y,Z"),
  ("MAXIMIZE", ""),
  ("MAYAN NUMERAL ", "EIGHT,EIGHTEEN,ELEVEN,FIFTEEN,FIVE,FOUR,FOURTEEN,NINE,NINETEEN,ONE"),
  ("MAYAN NUMERAL ", "SEVEN,SEVENTEEN,SIX,SIXTEEN,TEN,THIRTEEN,THREE,TWELVE,TWO,ZERO"),
  ("MEASURED ANGLE", ", OPENING LEFT"),
  ("MEASURED ANGLE WITH OPEN ARM ENDING IN ARROW POINTING DOWN AND ", "LEFT,RIGHT"),
  ("MEASURED ANGLE WITH OPEN ARM ENDING IN ARROW POINTING LEFT AND ", "DOWN,UP"),
  ("MEASURED ANGLE WITH OPEN ARM ENDING IN ARROW POINTING RIGHT AND ", "DOWN,UP"),
  ("MEASURED ANGLE WITH OPEN ARM ENDING IN ARROW POINTING UP AND ", "LEFT,RIGHT"),
  ("ME", "ASURED BY,ASURED RIGHT ANGLE WITH DOT,AT ON BONE,CHANICAL ARM,CHANICAL LEG"),
  ("MEDEFAIDRIN CAPITAL LETTER ", "A,AI,ATIU,B,C,D,E,F,G,H,HP,I,J,K,KP,L,M,N,NG,NY,O,OE,P,Q,R,S,T"),
  ("MEDEFAIDRIN CAPITAL LETTER ", "U,V,W,X,Y,YU,Z"),
  ("MEDEFAIDRIN ", "COMMA,DIGIT EIGHT,DIGIT FIVE,DIGIT FOUR"),
  ("MEDEFAIDRIN DIGIT ", "NINE,ONE,ONE ALTERNATE FORM,SEVEN,SIX,THREE,THREE ALTERNATE FORM,TWO"),
  ("MEDEFAIDRIN ", "DIGIT TWO ALTERNATE FORM,DIGIT ZERO,EXCLAMATION OH,FULL STOP,NUMBER EIGHTEEN"),
  ("MEDEFAIDRIN NUMBER ", "ELEVEN,FIFTEEN,FOURTEEN,NINETEEN,SEVENTEEN,SIXTEEN,TEN,THIRTEEN,TWELVE"),
  ("MEDEFAIDRIN SMALL LETTER ", "A,AI,ATIU,B,C,D,E,F,G,H,HP,I,J,K,KP,L,M,N,NG,NY,O,OE,P,Q,R,S,T,U"),
  ("MEDEFAIDRIN SMALL LETTER ", "V,W,X,Y,YU,Z"),
  ("MED", "EFAIDRIN SYMBOL AIVA,IEVAL COMMA,IEVAL EXCLAMATION MARK,IEVAL QUESTION MARK"),
  ("MEDIUM B", "LACK CIRCLE,OLD WHITE CIRCLE"),
  ("MEDIUM ", "EIGHT POINTED BLACK STAR,EIGHT SPOKED ASTERISK,FIVE SPOKED ASTERISK"),
  ("MEDIUM FLATTENED ", "LEFT PARENTHESIS ORNAMENT,RIGHT PARENTHESIS ORNAMENT"),
  ("MEDIUM ", "FOUR POINTED BLACK STAR,FOUR POINTED PINWHEEL STAR,GREEK CROSS"),
  ("MEDIUM LEFT", " CURLY BRACKET ORNAMENT, PARENTHESIS ORNAMENT,-POINTING ANGLE BRACKET ORNAMENT"),
  ("MEDIUM ", "MATHEMATICAL SPACE,RIGHT CURLY BRACKET ORNAMENT,RIGHT PARENTHESIS ORNAMENT"),
  ("MEDIUM ", "RIGHT-POINTING ANGLE BRACKET ORNAMENT,SALTIRE,SHADE,SIX POINTED BLACK STAR"),
  ("MEDIUM ", "SIX SPOKED ASTERISK,SMALL WHITE CIRCLE,THREE POINTED BLACK STAR"),
  ("MEDIUM ", "THREE POINTED PINWHEEL STAR,VERTICAL BAR,WHITE CIRCLE,WHITE SQUARE"),
  ("MEETEI MAYEK ", "AHANG KHUDAM,ANJI,APUN IYEK,CHEIKHAN,CHEIKHEI"),
  ("MEETEI MAYEK DIGIT ", "EIGHT,FIVE,FOUR,NINE,ONE,SEVEN,SIX,THREE,TWO,ZERO"),
  ("MEETEI MAYEK LETTER ", "ATIYA,BA,BHAM,CHA,CHIL,DDA,DDHA,DHOU,DIL,E,GHOU,GOK,HUK"),
  ("MEETEI MAYEK LETTER ", "I,I LONSUM,JHAM,JIL,KHOU,KOK,KOK LONSUM,LAI,LAI LONSUM,MIT,MIT LONSUM"),
  ("MEETEI MAYEK LETTER ", "NA,NA LONSUM,NGOU,NGOU LONSUM,NNA,NYA,O,PA,PA LONSUM,PHAM,RAI,SAM,SHA"),
  ("MEETEI MAYEK LETTER ", "SSA,THOU,TIL,TIL LONSUM,TTA,TTHA,UN,WAI,YANG"),
  ("MEETEI MAYEK ", "LUM IYEK,SYLLABLE REPETITION MARK,VIRAMA"),
  ("MEETEI MAYEK VOWEL SIGN ", "AAI,AAU,ANAP,AU,CHEINAP,II,INAP,NUNG,ONAP,SOUNAP,UNAP,UU,VISARGA"),
  ("MEETEI MAYEK ", "VOWEL SIGN YENAP,WORD REPETITION MARK"),
  ("ME", "LON,LTING FACE,MO,NDE KIKAKUI COMBINING NUMBER HUNDRED THOUSANDS"),
  ("MENDE KIKAKUI COMBINING NUMBER ", "HUNDREDS,MILLIONS,TEENS,TEN THOUSANDS,TENS,THOUSANDS"),
  ("MENDE KIKAKUI DIGIT ", "EIGHT,FIVE,FOUR,NINE,ONE,SEVEN,SIX,THREE,TWO"),
  ("MENDE KIKAKUI SYLLABLE M00", "1 KI,2 KA,3 KU,4 WI,5 WA,6 WU,7 MIN,8 MAN,9 MUN"),
  ("MENDE KIKAKUI SYLLABLE M01", "0 BI,1 BA,2 BU,3 I,4 A,5 U,6 DI,7 DA,8 DU,9 SI"),
  ("MENDE KIKAKUI SYLLABLE M02", "0 SA,1 SU,2 TI,3 TA,4 TU,5 LI,6 LA,7 LU,8 JI,9 JA"),
  ("MENDE KIKAKUI SYLLABLE M03", "0 JU,1 YI,2 YA,3 YU,4 FI,5 FA,6 FU,7 NIN,8 NAN,9 NUN"),
  ("MENDE KIKAKUI SYLLABLE M04", "0 HEE,1 HA,2 HOO,3 NGGA,4 KPEE,5 WO,6 HUAN,7 MBEE,8 KO,9 WVA"),
  ("MENDE KIKAKUI SYLLABLE M05", "0 PU,1 PE,2 HEN,3 HIN,4 LOO,5 TE,6 GBA,7 NGON,8 NYAN,9 MEN"),
  ("MENDE KIKAKUI SYLLABLE M06", "0 NYON,1 WVI,2 MBA,3 JO,4 NDO,5 KEE,6 PO,7 NDOO,8 PI,9 TO"),
  ("MENDE KIKAKUI SYLLABLE M07", "0 GBO,1 GBOO,2 MBE,3 LE,4 KPU,5 FE,6 KOO,7 VO,8 FEE,9 SO"),
  ("MENDE KIKAKUI SYLLABLE M08", "0 YE,1 PEE,2 NGGU,3 HEEI,4 LEE,5 VE,6 LONG NGGE,7 HUN,8 FO"),
  ("MENDE KIKAKUI SYLLABLE M0", "89 DEE,90 NGGI,91 TEE,92 KPA,93 GBEE,94 MON,95 KE,96 HE,97 BE"),
  ("MENDE KIKAKUI SYLLABLE M", "098 NYEN,099 PA,100 E,101 FAN"),
  ("MENDE KIKAKUI SYLLABLE M10", "2 POO,3 BOO,4 TOO,5 LONG MBOO,6 LONG NGGOO,7 GBE,8 KPE,9 YEE"),
  ("MENDE KIKAKUI SYLLABLE M11", "0 LONG LE,1 GA,2 KPOO,3 JE,4 WOO,5 NGGEE,6 SE,7 NEN,8 WE,9 NDE"),
  ("MENDE KIKAKUI SYLLABLE M12", "0 NGGO,1 YO,2 MBU,3 NDI,4 GBI,5 NDU,6 WEE,7 NGGUA,8 HOOU,9 NDA"),
  ("MENDE KIKAKUI SYLLABLE M13", "0 HAN,1 IN,2 KPI,3 FOO,4 NJOO,5 IN,6 SOO,7 EI,8 BO,9 WVE"),
  ("MENDE KIKAKUI SYLLABLE M14", "0 HO,1 YOO,2 LONG MBO,3 WEI,4 VOO,5 MBI,6 NGGE,7 O,8 GBU,9 NJEE"),
  ("MENDE KIKAKUI SYLLABLE M15", "0 BEE,1 VU,2 NJA,3 LO,4 MUAN,5 GI,6 NGGOO,7 JEE,8 KPO,9 NGGAA"),
  ("MENDE KIKAKUI SYLLABLE M16", "0 JOO,1 LONG MBE,2 SEE,3 EE,4 NYIN,5 OO,6 GUEI,7 GUAN,8 GU"),
  ("MENDE KIKAKUI SYLLABLE M1", "69 NON,70 NYUN"),
  ("MENDE KIKAKUI SYLLABLE M17", "1 RA,2 MBOO,3 VEE,4 MBO,5 LONG JO,6 HI,7 NGUAN,8 EN,9 KUA"),
  ("MENDE KIKAKUI SYLLABLE M18", "0 DOO,1 DO,2 VI,3 LONG NGGO,4 NGEN,5 VA,6 HU,7 MBUU,8 MBEE"),
  ("MENDE KIKAKUI SYLLABLE M1", "89 MUEN,90 GEE,91 NDEE,92 NJU,93 HON,94 WUI,95 AN,96 SIA,97 FUA"),
  ("ME", "NORAH WITH NINE BRANCHES,NS SYMBOL,RCURY"),
  ("MEROITIC CURSIVE FRACTION ", "EIGHT TWELFTHS,ELEVEN TWELFTHS,FIVE TWELFTHS,FOUR TWELFTHS"),
  ("MEROITIC CURSIVE FRACTION ", "NINE TWELFTHS,ONE HALF,ONE TWELFTH,SEVEN TWELFTHS,SIX TWELFTHS"),
  ("MEROITIC CURSIVE FRACTION T", "EN TWELFTHS,HREE TWELFTHS,WO TWELFTHS"),
  ("MEROITIC CURSIVE LETTER ", "A,ARCHAIC SA,BA,DA,E,HHA,I,KA,KHA,LA,MA,NA,NE,O,PA,QA,RA,SA,SE,TA"),
  ("MEROITIC CURSIVE L", "ETTER TE,ETTER TO,ETTER WA,ETTER YA,OGOGRAM IMN,OGOGRAM RMT"),
  ("MEROITIC CURSIVE NUMBER EIGHT", ", HUNDRED, HUNDRED THOUSAND, THOUSAND,Y THOUSAND"),
  ("MEROITIC CURSIVE NUMBER FI", "FTY,FTY THOUSAND,VE,VE HUNDRED,VE HUNDRED THOUSAND,VE THOUSAND"),
  ("MEROITIC CURSIVE NUMBER FO", "RTY,RTY THOUSAND,UR,UR HUNDRED,UR HUNDRED THOUSAND,UR THOUSAND"),
  ("MEROITIC CURSIVE NUMBER NINE", ", HUNDRED, HUNDRED THOUSAND, THOUSAND,TY THOUSAND"),
  ("MEROITIC CURSIVE NUMBER ONE", ", HUNDRED, HUNDRED THOUSAND, THOUSAND"),
  ("MEROITIC CURSIVE NUMBER SEVEN", ", HUNDRED, HUNDRED THOUSAND, THOUSAND,TY,TY THOUSAND"),
  ("MEROITIC CURSIVE NUMBER SIX", ", HUNDRED, HUNDRED THOUSAND, THOUSAND,TY,TY THOUSAND"),
  ("MEROITIC CURSIVE NUMBER T", "EN,EN THOUSAND,HIRTY,HIRTY THOUSAND"),
  ("MEROITIC CURSIVE NUMBER THREE", ", HUNDRED, HUNDRED THOUSAND, THOUSAND"),
  ("MEROITIC CURSIVE NUMBER TW", "ENTY,ENTY THOUSAND,O,O HUNDRED,O HUNDRED THOUSAND,O THOUSAND"),
  ("MEROITIC HIEROGLYPHIC LETTER ", "A,BA,BA-2,DA,E,HHA,I,KA,KHA,LA,MA,NA,NA-2,NE,NE-2,O,PA,QA,RA"),
  ("MEROITIC HIEROGLYPHIC LETTER ", "RA-2,SA,SA-2,SE,TA,TA-2,TE,TE-2,TO,WA,YA"),
  ("ME", "ROITIC HIEROGLYPHIC SYMBOL VIDJ,ROITIC HIEROGLYPHIC SYMBOL VIDJ-2,RPERSON,SSAGE WAITING"),
  ("METRICAL ", "BREVE,LONG OVER SHORT,LONG OVER TWO SHORTS,PENTASEME,SHORT OVER LONG,TETRASEME"),
  ("METR", "ICAL TRISEME,ICAL TWO SHORTS JOINED,ICAL TWO SHORTS OVER LONG,O"),
  ("MIAO LETTER A", "H,RCHAIC MA,RCHAIC NA,RCHAIC NGA,RCHAIC ZZA"),
  ("MIAO LETTER ", "BA,BRI,DA,DDA,DLHA,DLHYA,DZA,DZHA,DZYI,DZZA,FA,GA,GHA,GHHA,HA,HHA,KA,LA,LHA"),
  ("MIAO LETTER ", "LHYA,LYA,MA,MHA,NA,NASALIZATION,NGA,NGHA,NHA,NNA,NNHA,NYA,NYHA,PA,PLA,QA,QGA"),
  ("MIAO LETTER REFORMED TONE-", "1,2,4,5,6,8"),
  ("MIAO LETTER ", "REFORMED TSHA,RTE,SA,SHA,SSA,SYI,TA,TE,TLHA,TLHYA,TONE-2,TONE-3,TONE-4,TONE-5"),
  ("MIAO LETTER ", "TONE-6,TONE-7,TONE-8,TSA,TSE,TSHA,TSSA,TTA,VA,VFA,WA,XA,YI DZHA,YI KA,YI NNA"),
  ("MIAO LETTER ", "YI PA,YI TA,YI TSA,YI TSHA,YI TTA,ZA,ZHA,ZSA,ZSHA,ZZA,ZZSA,ZZSYA,ZZYA"),
  ("MIAO SIGN ", "ASPIRATION,CONSONANT MODIFIER BAR,REFORMED ASPIRATION,REFORMED VOICING"),
  ("MIAO TONE ", "ABOVE,BELOW,RIGHT,TOP RIGHT"),
  ("MIAO VOWEL SIGN ", "A,AA,AE,AEE,AHH,AI,AN,ANG,AU,E,EA,EI,EN,ENG,ER,ERR,I,IA,IAN,IANG,IE,IG,II"),
  ("MIAO VOWEL SIGN ", "ING,IO,IONG,IU,N,NG,O,OER,OEY,OG,OO,OU,ROUNDED ER,ROUNDED ERR,U"),
  ("MIAO VOWEL SIGN ", "UA,UAN,UANG,UEI,UI,UNG,UOG,UU,VW,W,WO,Y,YI,YUI"),
  ("MICR", " DASH SYMBOL, ON US SYMBOL,O SIGN,OBE,OPHONE,OSCOPE"),
  ("MI", "DDLE DOT,DDLE THIRD WHITE RIGHT POINTING INDEX,DLINE HORIZONTAL ELLIPSIS,LITARY HELMET"),
  ("MI", "LITARY MEDAL,LKY WAY,LL SIGN,NIBUS,NIDISC,NIMIZE,NUS SIGN,NUS SIGN IN TRIANGLE"),
  ("MINUS SIGN WITH ", "COMMA ABOVE,DOT BELOW,FALLING DOTS,RISING DOTS"),
  ("M", "INUS TILDE,INUS-OR-PLUS SIGN,INY,IRROR,IRROR BALL,MSP"),
  ("MOBILE PHONE", ", OFF, WITH RIGHTWARDS ARROW AT LEFT"),
  ("MOD", "ELS,ERN PENTATHLON,I ABBREVIATION SIGN,I DANDA,I DIGIT EIGHT,I DIGIT FIVE,I DIGIT FOUR"),
  ("MODI D", "IGIT NINE,IGIT ONE,IGIT SEVEN,IGIT SIX,IGIT THREE,IGIT TWO,IGIT ZERO,OUBLE DANDA"),
  ("MODI LETTER ", "A,AA,AI,AU,BA,BHA,CA,CHA,DA,DDA,DDHA,DHA,E,GA,GHA,HA,I,II,JA,JHA,KA"),
  ("MODI LETTER ", "KHA,LA,LLA,MA,NA,NGA,NNA,NYA,O,PA,PHA,RA,SA,SHA,SSA,TA,THA,TTA,TTHA,U"),
  ("MODI LETTER ", "UU,VA,VOCALIC L,VOCALIC LL,VOCALIC R,VOCALIC RR,YA"),
  ("MODI SIGN ", "ANUSVARA,ARDHACANDRA,HUVA,VIRAMA,VISARGA"),
  ("MODI VOWEL SIGN ", "AA,AI,AU,E,I,II,O,U,UU,VOCALIC L,VOCALIC LL,VOCALIC R,VOCALIC RR"),
  ("MODIFIER ", "BREVE WITH INVERTED BREVE,LETTER ACUTE ACCENT"),
  ("MODIFIER LETTER ", "ALVEOLAR CLICK,APOSTROPHE,BEGIN HIGH TONE,BEGIN LOW TONE,BILABIAL CLICK"),
  ("MODIFIER LETTER CAPITAL ", "A,AE,B,BARRED B,C,D,E,F,G,H,H WITH STROKE,I,J,K,L,M,N,O"),
  ("MODIFIER LETTER CAPITAL ", "OU,P,Q,R,REVERSED E,REVERSED N,T,U,V,W"),
  ("MODIFIER LETTER CENTRED ", "LEFT HALF RING,RIGHT HALF RING"),
  ("MODIFIER LETTER CHINESE TONE Y", "ANG PING,ANG QU,ANG RU,ANG SHANG,IN PING,IN QU,IN RU"),
  ("MODIFIER LETTER C", "HINESE TONE YIN SHANG,IRCUMFLEX ACCENT,OLON,ROSS ACCENT,YRILLIC EN"),
  ("MODIFIER LETTER ", "CYRILLIC HARD SIGN,CYRILLIC SOFT SIGN,DENTAL CLICK,DOT HORIZONTAL BAR"),
  ("MODIFIER LETTER DO", "T SLASH,T VERTICAL BAR,UBLE APOSTROPHE,UBLE PRIME,WN ARROWHEAD,WN TACK"),
  ("MODIFIER LETTER E", "ND HIGH TONE,ND LOW TONE,XTRA-HIGH DOTTED LEFT-STEM TONE BAR"),
  ("MODIFIER LETTER EXTRA-HIGH ", "DOTTED TONE BAR,LEFT-STEM TONE BAR,TONE BAR"),
  ("MODIFIER LETTER EXTRA-LOW ", "DOTTED LEFT-STEM TONE BAR,DOTTED TONE BAR,LEFT-STEM TONE BAR"),
  ("MODIFIER LETTER ", "EXTRA-LOW TONE BAR,GEORGIAN NAR,GLOTTAL STOP,GLOTTAL STOP WITH STROKE"),
  ("MODIFIER LETTER ", "GRAVE ACCENT,HALF TRIANGULAR COLON,HIGH DOTTED LEFT-STEM TONE BAR"),
  ("MODIFIER LETTER HIGH ", "DOTTED TONE BAR,LEFT-STEM TONE BAR,TONE BAR"),
  ("MODIFIER LETTER L", "ATERAL CLICK,EFT ARROWHEAD,EFT HALF RING,EFT TACK"),
  ("MODIFIER LETTER LOW ", "ACUTE ACCENT,CIRCUMFLEX ACCENT,DOTTED LEFT-STEM TONE BAR"),
  ("MODIFIER LETTER LOW ", "DOTTED TONE BAR,DOWN ARROWHEAD,GRAVE ACCENT,INVERTED EXCLAMATION MARK"),
  ("MODIFIER LETTER LOW LEFT", " ARROW, ARROWHEAD,-STEM TONE BAR"),
  ("MODIFIER LETTER LOW ", "MACRON,RIGHT ARROWHEAD,RING,TILDE,TONE BAR,UP ARROWHEAD,VERTICAL LINE"),
  ("MODIFIER LETTER ", "LOWER RIGHT CORNER ANGLE,MACRON"),
  ("MODIFIER LETTER MID ", "DOTTED LEFT-STEM TONE BAR,DOTTED TONE BAR,LEFT-STEM TONE BAR,TONE BAR"),
  ("MODIFIER LETTER MIDDLE ", "DOUBLE ACUTE ACCENT,DOUBLE GRAVE ACCENT,GRAVE ACCENT"),
  ("MODIFIER LETTER ", "MINUS SIGN,OPEN SHELF,PLUS SIGN,PRIME,RAISED COLON"),
  ("MODIFIER LETTER RAISED ", "DOWN ARROW,EXCLAMATION MARK,INVERTED EXCLAMATION MARK,UP ARROW"),
  ("MODIFIER LETTER RE", "TROFLEX CLICK WITH RETROFLEX HOOK,VERSED COMMA,VERSED GLOTTAL STOP"),
  ("MODIFIER LETTER R", "EVERSED GLOTTAL STOP WITH STROKE,HOTIC HOOK,IGHT ARROWHEAD"),
  ("MODIFIER LETTER ", "RIGHT HALF RING,RIGHT TACK,SHELF,SHORT EQUALS SIGN,SMALL A,SMALL AE"),
  ("MODIFIER LETTER SMALL ", "AIN,ALPHA,B,B WITH HOOK,BARRED O,BETA,BOTTOM HALF O,C,C WITH CURL"),
  ("MODIFIER LETTER SMALL CAPITAL ", "AA,B,G,G WITH HOOK,H,I,I WITH STROKE,INVERTED R,L"),
  ("MODIFIER LETTER SMALL CAPITAL ", "L WITH BELT,N,OE,R,U,Y"),
  ("MODIFIER LETTER SMALL C", "HI,LOSED OMEGA,LOSED REVERSED OPEN E"),
  ("MODIFIER LETTER SMALL D", ", WITH HOOK, WITH HOOK AND TAIL, WITH TAIL,ELTA,EZH DIGRAPH"),
  ("MODIFIER LETTER SMALL DOTLESS J WITH STROKE", ", AND HOOK"),
  ("MODIFIER LETTER SMALL DZ DIGRAPH", ", WITH CURL, WITH RETROFLEX HOOK"),
  ("MODIFIER LETTER SMALL ", "E,ENG,ESH,ETH,EZH,F,FENG DIGRAPH,G,G WITH HOOK,GAMMA,GREEK GAMMA"),
  ("MODIFIER LETTER SMALL ", "GREEK PHI,H,H WITH HOOK,H WITH STROKE,HENG,HENG WITH HOOK"),
  ("MODIFIER LETTER SMALL ", "I WITH STROKE,IOTA,J,J WITH CROSSED-TAIL,K,L,L WITH BELT"),
  ("MODIFIER LETTER SMALL L WITH ", "INVERTED LAZY S,MIDDLE TILDE,PALATAL HOOK,RETROFLEX HOOK"),
  ("MODIFIER LETTER SMALL L", " WITH RETROFLEX HOOK AND BELT,EZH,EZH WITH RETROFLEX HOOK"),
  ("MODIFIER LETTER SMALL ", "LIGATURE OE,LS DIGRAPH,LZ DIGRAPH,M,M WITH HOOK,N WITH LEFT HOOK"),
  ("MODIFIER LETTER SMALL ", "N WITH RETROFLEX HOOK,O,O WITH STROKE,OPEN E,OPEN O,P,PHI,Q"),
  ("MODIFIER LETTER SMALL R", ", WITH FISHHOOK, WITH TAIL,AMS HORN,EVERSED E,EVERSED GLOTTAL STOP"),
  ("MODIFIER LETTER SMALL ", "REVERSED OPEN E,S,S WITH CURL,S WITH HOOK,SCHWA,SCRIPT G,SIDEWAYS U"),
  ("MODIFIER LETTER SMALL T", ", WITH PALATAL HOOK, WITH RETROFLEX HOOK,C DIGRAPH WITH CURL"),
  ("MODIFIER LETTER SMALL T", "ESH DIGRAPH,HETA,OP HALF O,S DIGRAPH,S DIGRAPH WITH RETROFLEX HOOK"),
  ("MODIFIER LETTER SMALL TURNED ", "A,AE,ALPHA,H,I,M,M WITH LONG LEG,OPEN E,R,R WITH HOOK"),
  ("MODIFIER LETTER SMALL TURNED ", "R WITH LONG LEG,R WITH LONG LEG AND RETROFLEX HOOK,V,W,Y"),
  ("MODIFIER LETTER SMALL ", "TURNED Y WITH BELT,U,U BAR,U WITH LEFT HOOK,UPSILON,V,V WITH HOOK"),
  ("MODIFIER LETTER SMALL ", "V WITH RIGHT HOOK,W,X,Y,Z,Z WITH CURL,Z WITH RETROFLEX HOOK"),
  ("MODIFIER LETTER STRESS AND ", "HIGH TONE,LOW TONE"),
  ("MODIFIER LETTER SUPERSCRIPT ", "HALF TRIANGULAR COLON,TRIANGULAR COLON"),
  ("MODIFIER LETTER ", "TRIANGULAR COLON,TURNED COMMA,UNASPIRATED,UP ARROWHEAD,UP TACK"),
  ("MODIFIER LETTER ", "US,VERTICAL LINE,VOICING,YANG DEPARTING TONE MARK,YIN DEPARTING TONE MARK"),
  ("MO", "DULO TWO SUM,NEY BAG,NEY WITH WINGS,NEY-MOUTH FACE"),
  ("MONGOLIAN ", "BIRGA,BIRGA WITH DOUBLE ORNAMENT,BIRGA WITH ORNAMENT,COLON,COMMA"),
  ("MONGOLIAN DIGIT ", "EIGHT,FIVE,FOUR,NINE,ONE,SEVEN,SIX,THREE,TWO,ZERO"),
  ("MONGOLIAN ", "DOUBLE BIRGA WITH ORNAMENT,ELLIPSIS,FOUR DOTS"),
  ("MONGOLIAN FREE VARIATION SELECTOR ", "FOUR,ONE,THREE,TWO"),
  ("MONGOLIAN ", "FULL STOP,INVERTED BIRGA,INVERTED BIRGA WITH DOUBLE ORNAMENT,LETTER A"),
  ("MONGOLIAN LETTER ALI GALI ", "A,AH,ANUSVARA ONE,BALUDA,CA,DA,DAGALGA,DAMARU"),
  ("MONGOLIAN LETTER ALI GALI ", "DDA,HALF U,HALF YA,I,INVERTED UBADAMA,KA,NGA,NNA,PA,PHA,SSA"),
  ("MONGOLIAN LETTER ALI GALI ", "TA,THREE BALUDA,TTA,TTHA,UBADAMA,VISARGA ONE,ZA,ZHA"),
  ("MONGOLIAN LETTER ", "ANG,BA,CHA,CHA WITH TWO DOTS,CHI,DA,E,EE,FA,GA,HAA,I,JA,KA,KHA,LA,LHA,MA"),
  ("MONGOLIAN LETTER MANCHU ALI GALI ", "BHA,CA,CYA,DDHA,DHA,GHA,JHA,LHA,NGA,SSA,TA,TTA,ZA,ZHA"),
  ("MONGOLIAN LETTER MANCHU ", "FA,I,KA,RA,ZHA"),
  ("MONGOLIAN LETTER ", "NA,O,OE,PA,QA,RA,SA,SHA,SIBE ANG"),
  ("MONGOLIAN LETTER SIBE ", "CHA,DA,E,FA,GA,GAA,HA,HAA,I,IY,JA,KA,PA,RAA,SHA,TA,TSA,U,UE,ZA,ZHA"),
  ("MONGOLIAN LETTER T", "A,ODO ALI GALI TA,ODO ALI GALI ZHA,ODO ANG,ODO BA,ODO CHA,ODO DA"),
  ("MONGOLIAN LETTER TODO ", "DZA,E,GA,GAA,HAA,I,JA,JIA,KA,LONG VOWEL SIGN,MA,NIA,O,OE,PA,QA,TA"),
  ("MONGOLIAN LETTER ", "TODO TSA,TODO U,TODO UE,TODO WA,TODO YA,TSA,U,UE,WA,YA,ZA,ZHI,ZRA"),
  ("MONGOLIAN ", "MANCHU COMMA,MANCHU FULL STOP,NIRUGU"),
  ("MONGOLIAN ROTATED BIRGA", ", WITH DOUBLE ORNAMENT, WITH ORNAMENT"),
  ("MONGOLIAN S", "IBE SYLLABLE BOUNDARY MARKER,WIRL BIRGA,WIRL BIRGA WITH DOUBLE ORNAMENT"),
  ("MONGOLIAN ", "SWIRL BIRGA WITH ORNAMENT,TODO SOFT HYPHEN,TRIPLE BIRGA WITH ORNAMENT"),
  ("MON", "GOLIAN TURNED SWIRL BIRGA WITH DOUBLE ORNAMENT,GOLIAN VOWEL SEPARATOR,KEY,KEY FACE"),
  ("MONOGRAM FOR ", "EARTH,YANG,YIN"),
  ("MO", "NORAIL,NOSTABLE SYMBOL,OD BUBBLE,ON CAKE,ON VIEWING CEREMONY,SQUE,SQUITO,THER CHRISTMAS"),
  ("MO", "TOR BOAT,TOR SCOOTER,TORIZED WHEELCHAIR,TORWAY,UNT FUJI,UNTAIN,UNTAIN BICYCLIST"),
  ("M", "OUNTAIN CABLEWAY,OUNTAIN RAILWAY,OUSE,OUSE FACE,OUSE TRAP,OUTH,OVIE CAMERA,OYAI,RO DANDA"),
  ("MRO DIGIT ", "EIGHT,FIVE,FOUR,NINE,ONE,SEVEN,SIX,THREE,TWO,ZERO"),
  ("MRO ", "DOUBLE DANDA,LETTER A,LETTER BA,LETTER CHU,LETTER DA,LETTER DAI"),
  ("MRO LETTER ", "E,EA,HAI,HAO,KEAAE,KHAI,KO,LA,LAN,MAEM,MIM,NGI,NIN,O,OL,OO,PA,PHI,RI,RO,SHI,TA"),
  ("M", "RO LETTER TEK,RO LETTER THEA,RO LETTER WA,RO LETTER YO,UCH GREATER-THAN,UCH LESS-THAN"),
  ("MULTANI LETTER ", "A,BA,BHA,CA,CHA,DA,DDA,DDDA,DDHA,DHA,E,GA,GHA,HA,I,JA,JJA,KA,KHA,LA,MA,NA"),
  ("MULTANI LETTER ", "NNA,NYA,PA,PHA,RA,RHA,RRA,SA,TA,THA,TTA,TTHA,U,VA,YA"),
  ("MULT", "ANI SECTION MARK,IMAP,IPLE MUSICAL NOTES,IPLICATION SIGN"),
  ("MULTIPLICATION SIGN IN ", "DOUBLE CIRCLE,LEFT HALF CIRCLE,RIGHT HALF CIRCLE,TRIANGLE"),
  ("MULTI", "PLICATION SIGN WITH DOT ABOVE,PLICATION SIGN WITH UNDERBAR,PLICATION X,SET"),
  ("MU", "LTISET MULTIPLICATION,LTISET UNION,SHROOM,SIC FLAT SIGN,SIC NATURAL SIGN,SIC SHARP SIGN"),
  ("MUSICAL ", "KEYBOARD,KEYBOARD WITH JACKS,NOTE,SCORE,SYMBOL ARPEGGIATO DOWN"),
  ("MUSICAL SYMBOL ", "ARPEGGIATO UP,BEGIN BEAM,BEGIN PHRASE,BEGIN SLUR,BEGIN TIE,BRACE,BRACKET"),
  ("MUSICAL SYMBOL ", "BREATH MARK,BREVE,BREVIS,BREVIS REST,C CLEF,CAESURA,CIRCLE X NOTEHEAD"),
  ("MUSICAL SYMBOL C", "LIMACUS,LIVIS,LUSTER NOTEHEAD BLACK,LUSTER NOTEHEAD WHITE,ODA"),
  ("MUSICAL SYMBOL COMBINING A", "CCENT,CCENT-STACCATO,UGMENTATION DOT"),
  ("MUSICAL SYMBOL COMBINING ", "BEND,DOIT,DOUBLE TONGUE,DOWN BOW,FLAG-1,FLAG-2,FLAG-3,FLAG-4"),
  ("MUSICAL SYMBOL COMBINING ", "FLAG-5,FLIP,HARMONIC,LOURE,MARCATO,MARCATO-STACCATO,RIP"),
  ("MUSICAL SYMBOL COMBINING S", "MEAR,NAP PIZZICATO,PRECHGESANG STEM,TACCATISSIMO,TACCATO,TEM"),
  ("MUSICAL SYMBOL COMBINING ", "TENUTO,TREMOLO-1,TREMOLO-2,TREMOLO-3,TRIPLE TONGUE,UP BOW"),
  ("MUSICAL SYMBOL ", "COMMON TIME,CRESCENDO,CROIX,CUT TIME,DA CAPO,DAL SEGNO"),
  ("MUSICAL SYMBOL D", "AMP,AMP ALL,ASHED BARLINE,ECRESCENDO,EGREE SLASH,OUBLE BARLINE,OUBLE FLAT"),
  ("MUSICAL SYMBOL ", "DOUBLE SHARP,DRUM CLEF-1,DRUM CLEF-2,EIGHTH NOTE,EIGHTH REST,END BEAM"),
  ("MUSICAL SYMBOL ", "END OF STIMME,END PHRASE,END SLUR,END TIE,F CLEF"),
  ("MUSICAL SYMBOL F", " CLEF OTTAVA ALTA, CLEF OTTAVA BASSA,ERMATA,ERMATA BELOW,INAL BARLINE"),
  ("MUSICAL SYMBOL FINGERED TREMOLO-", "1,2,3"),
  ("MUSICAL SYMBOL F", "IVE-LINE STAFF,LAT DOWN,LAT UP,ORTE,OUR-LINE STAFF,OUR-STRING FRETBOARD"),
  ("MUSICAL SYMBOL ", "FUSA BLACK,FUSA WHITE,G CLEF,G CLEF OTTAVA ALTA,G CLEF OTTAVA BASSA"),
  ("MUSICAL SYMBOL G", "LISSANDO DOWN,LISSANDO UP,RACE NOTE NO SLASH,RACE NOTE SLASH"),
  ("MUSICAL SYMBOL ", "GREGORIAN C CLEF,GREGORIAN F CLEF,HALF NOTE,HALF PEDAL MARK,HALF REST"),
  ("MUSICAL SYMBOL ", "HAUPTSTIMME,INVERTED TURN,KIEVAN C CLEF,KIEVAN EIGHTH NOTE STEM DOWN"),
  ("MUSICAL SYMBOL KIEVAN ", "EIGHTH NOTE STEM UP,END OF PIECE,FINAL NOTE,FLAT SIGN,HALF NOTE"),
  ("MUSICAL SYMBOL KIEVAN ", "QUARTER NOTE STEM DOWN,QUARTER NOTE STEM UP,RECITATIVE MARK"),
  ("MUSICAL SYMBOL ", "KIEVAN WHOLE NOTE,KORON,LEFT REPEAT SIGN,LONGA,LONGA IMPERFECTA REST"),
  ("MUSICAL SYMBOL ", "LONGA PERFECTA REST,MAXIMA,MEZZO,MINIMA,MINIMA BLACK,MINIMA REST"),
  ("MUSICAL SYMBOL M", "OON NOTEHEAD BLACK,OON NOTEHEAD WHITE,ULTI REST,ULTIPLE MEASURE REST"),
  ("MUSICAL SYMBOL N", "ATURAL DOWN,ATURAL UP,EBENSTIMME,OTEHEAD BLACK,ULL NOTEHEAD"),
  ("MUSICAL SYMBOL ONE", " HUNDRED TWENTY-EIGHTH NOTE, HUNDRED TWENTY-EIGHTH REST,-LINE STAFF"),
  ("MUSICAL SYMBOL ORNAMENT STROKE-", "1,10,11,2,3,4,5,6,7,8,9"),
  ("MUSICAL SYMBOL ", "OTTAVA ALTA,OTTAVA BASSA,PARENTHESIS NOTEHEAD,PEDAL MARK,PEDAL UP MARK"),
  ("MUSICAL SYMBOL P", "ES SUBPUNCTIS,IANO,LUS NOTEHEAD,ODATUS,ORRECTUS,ORRECTUS FLEXUS"),
  ("MUSICAL SYMBOL QUARTER ", "NOTE,REST,TONE FLAT,TONE SHARP"),
  ("MUSICAL SYMBOL ", "QUINDICESIMA ALTA,QUINDICESIMA BASSA,REPEAT DOTS,REPEATED FIGURE-1"),
  ("MUSICAL SYMBOL R", "EPEATED FIGURE-2,EPEATED FIGURE-3,EVERSE FINAL BARLINE,IGHT REPEAT SIGN"),
  ("MUSICAL SYMBOL ", "RINFORZANDO,SCANDICUS,SCANDICUS FLEXUS,SEGNO,SEMIBREVIS BLACK"),
  ("MUSICAL SYMBOL SEMI", "BREVIS REST,BREVIS WHITE,MINIMA BLACK,MINIMA REST,MINIMA WHITE"),
  ("MUSICAL SYMBOL S", "HARP DOWN,HARP UP,HORT BARLINE,INGLE BARLINE,IX-LINE STAFF"),
  ("MUSICAL SYMBOL SIX", "-STRING FRETBOARD,TEENTH NOTE,TEENTH REST,TY-FOURTH NOTE,TY-FOURTH REST"),
  ("MUSICAL SYMBOL S", "ORI,QUARE B,QUARE NOTEHEAD BLACK,QUARE NOTEHEAD WHITE,UBITO"),
  ("MUSICAL SYMBOL TEMPUS IMPERFECTUM CUM PROLATIONE IMPERFECTA", ", DIMINUTION-1, DIMINUTION-2"),
  ("MUSICAL SYMBOL TEMPUS IMPERFECTUM CUM PROLATIONE ", "IMPERFECTA DIMINUTION-3,PERFECTA"),
  ("MUSICAL SYMBOL TEMPUS PERFECTUM CUM PROLATIONE ", "IMPERFECTA,PERFECTA,PERFECTA DIMINUTION-1"),
  ("MUSICAL SYMBOL THIRTY-SECOND ", "NOTE,REST"),
  ("MUSICAL SYMBOL T", "HREE-LINE STAFF,ORCULUS,ORCULUS RESUPINUS,R,RIANGLE NOTEHEAD DOWN BLACK"),
  ("MUSICAL SYMBOL TRIANGLE NOTEHEAD ", "DOWN WHITE,LEFT BLACK,LEFT WHITE,RIGHT BLACK,RIGHT WHITE"),
  ("MUSICAL SYMBOL TRIANGLE NOTEHEAD UP ", "BLACK,RIGHT BLACK,RIGHT WHITE,WHITE"),
  ("MUSICAL SYMBOL TRIANGLE-ROUND NOTEHEAD DOWN ", "BLACK,WHITE"),
  ("MUSICAL SYMBOL T", "URN,URN SLASH,URN UP,WO-LINE STAFF"),
  ("MUSICAL SYMBOL ", "VIRGA,VOID NOTEHEAD,WHOLE NOTE,WHOLE REST,WITH FINGERNAILS,X NOTEHEAD,Z"),
  ("M", "VS,W"),
  ("MYANMAR CONSONANT SIGN MEDIAL ", "HA,RA,WA,YA"),
  ("MYANMAR CONSONANT SIGN ", "MON MEDIAL LA,MON MEDIAL MA,MON MEDIAL NA,SHAN MEDIAL WA"),
  ("MYANMAR DIGIT ", "EIGHT,FIVE,FOUR,NINE,ONE,SEVEN,SIX,THREE,TWO,ZERO"),
  ("MYANMAR LETTER ", "A,AITON RA,AU,BA,BHA,CA,CHA,DA,DDA,DDHA,DHA,E"),
  ("MYANMAR LETTER EASTERN PWO KAREN ", "GHWA,NNA,YWA"),
  ("MYANMAR LETTER ", "GA,GHA,GREAT SA,HA,I,II,JA,JHA,KA,KHA,KHAMTI CA,KHAMTI CHA"),
  ("MYANMAR LETTER KHAMTI ", "DDA,DDHA,DHA,FA,GA,HA,HHA,JA,JHA,LLA,NA,NYA,RA,SA,TTA,TTHA,XA,ZA"),
  ("MYANMAR LETTER ", "LA,LLA,MA,MON BBA,MON BBE,MON E,MON JHA,MON NGA,NA,NGA,NNA,NNYA,NYA,O,PA"),
  ("MYANMAR LETTER ", "PHA,RA,RUMAI PALAUNG FA,SA,SGAW KAREN SHA,SHA"),
  ("MYANMAR LETTER SHAN ", "A,BA,BHA,CA,CHA,DA,FA,GA,GHA,HA,JHA,KA,KHA,NA,NNA,NYA,PHA,THA,ZA"),
  ("MYANMAR LETTER ", "SHWE PALAUNG CHA,SHWE PALAUNG SHA,SSA,TA"),
  ("MYANMAR LETTER TAI LAING ", "BA,BHA,DA,DDA,DDHA,DHA,FA,GA,GHA,JA,JHA,LLA,NNA,NYA"),
  ("MYANMAR LETTER ", "THA,TTA,TTHA,U,UU,VOCALIC L,VOCALIC LL"),
  ("MYANMAR LETTER ", "VOCALIC R,VOCALIC RR,WA,WESTERN PWO KAREN PWA,WESTERN PWO KAREN THA,YA"),
  ("MYANMAR LOGOGRAM KHAMTI ", "HM,OAY,QN"),
  ("MYANMAR MODIFIER LETTER ", "KHAMTI REDUPLICATION,SHAN REDUPLICATION"),
  ("MYANMAR SHAN DIGIT ", "EIGHT,FIVE,FOUR,NINE,ONE,SEVEN,SIX,THREE,TWO,ZERO"),
  ("MYANMAR SIGN ", "ANUSVARA,ASAT,DOT BELOW,KHAMTI TONE-1,KHAMTI TONE-3,LITTLE SECTION"),
  ("MYANMAR SIGN ", "PAO KAREN TONE,RUMAI PALAUNG TONE-5,SECTION,SHAN COUNCIL EMPHATIC TONE"),
  ("MYANMAR SIGN SHAN ", "COUNCIL TONE-2,COUNCIL TONE-3,SAW,TONE-2,TONE-3,TONE-5,TONE-6"),
  ("MYANMAR SIGN ", "TAI LAING TONE-2,TAI LAING TONE-5,VIRAMA,VISARGA"),
  ("MYANMAR SIGN WESTERN PWO KAREN TONE-", "1,2,3,4,5"),
  ("MYANMAR SYMBOL A", "FOREMENTIONED,ITON EXCLAMATION,ITON ONE,ITON TWO"),
  ("MYANMAR SYMBOL ", "COMPLETED,GENITIVE,LOCATIVE,SHAN EXCLAMATION,SHAN ONE"),
  ("MYANMAR TAI LAING DIGIT ", "EIGHT,FIVE,FOUR,NINE,ONE,SEVEN,SIX,THREE,TWO,ZERO"),
  ("MYANMAR TONE MARK SGAW KAREN ", "HATHI,KE PHO"),
  ("MYANMAR VOWEL SIGN ", "AA,AI,AITON A,AITON AI,E,E ABOVE,GEBA KAREN I,I,II,KAYAH EE,KAYAH OE"),
  ("MYANMAR VOWEL SIGN ", "KAYAH U,MON II,MON O,SGAW KAREN EU,SHAN AA,SHAN E,SHAN E ABOVE"),
  ("MYANMAR VOWEL SIGN ", "SHAN FINAL Y,TALL AA,U,UU,VOCALIC L,VOCALIC LL,VOCALIC R,VOCALIC RR"),
  ("MYANMAR VOWEL SIGN WESTERN PWO KAREN ", "EU,UE")]

end ModelBindings.Text.CharacterName
