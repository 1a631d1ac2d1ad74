/-!
# Character names that start with the letters from T to Z
-/

set_option autoImplicit false

namespace ModelBindings.Text.CharacterName

/-- The character names that start with the letters from T to Z, in groups. -/
def namesTToZ : List (String × String) := [
  ("T", "-REX,-SHIRT,AB,ABLE TENNIS PADDLE AND BALL,ACO,AG AMPERSAND,AG APOSTROPHE,AG ASTERISK"),
  ("TAG ", "CIRCUMFLEX ACCENT,COLON,COMMA,COMMERCIAL AT,DIGIT EIGHT,DIGIT FIVE,DIGIT FOUR"),
  ("TAG D", "IGIT NINE,IGIT ONE,IGIT SEVEN,IGIT SIX,IGIT THREE,IGIT TWO,IGIT ZERO,OLLAR SIGN"),
  ("TAG ", "EQUALS SIGN,EXCLAMATION MARK,FULL STOP,GRAVE ACCENT,GREATER-THAN SIGN,HYPHEN-MINUS"),
  ("TAG LATIN CAPITAL LETTER ", "A,B,C,D,E,F,G,H,I,J,K,L,M,N,O,P,Q,R,S,T,U,V,W,X,Y,Z"),
  ("TAG LATIN SMALL LETTER ", "A,B,C,D,E,F,G,H,I,J,K,L,M,N,O,P,Q,R,S,T,U,V,W,X,Y,Z"),
  ("TAG L", "EFT CURLY BRACKET,EFT PARENTHESIS,EFT SQUARE BRACKET,ESS-THAN SIGN,OW LINE"),
  ("TAG ", "NUMBER SIGN,PERCENT SIGN,PLUS SIGN,QUESTION MARK,QUOTATION MARK,REVERSE SOLIDUS"),
  ("TAG RIGHT ", "CURLY BRACKET,PARENTHESIS,SQUARE BRACKET"),
  ("TAG ", "SEMICOLON,SOLIDUS,SPACE,TILDE,VERTICAL LINE"),
  ("TAGALOG LETTER ", "A,ARCHAIC RA,BA,DA,GA,HA,I,KA,LA,MA,NA,NGA,PA,RA,SA,TA,U,WA,YA"),
  ("TAGALOG ", "SIGN PAMUDPOD,SIGN VIRAMA,VOWEL SIGN I,VOWEL SIGN U"),
  ("TAGBANWA LETTER ", "A,BA,DA,GA,I,KA,LA,MA,NA,NGA,PA,SA,TA,U,WA,YA"),
  ("TAGBANWA VOWEL SIGN ", "I,U"),
  ("TAI LE LETTER ", "A,AI,AUE,E,EE,EH,FA,HA,I,KA,KHA,LA,MA,NA,NGA,O,OO,PA,PHA,QA,SA,TA,THA"),
  ("TAI LE LETTER ", "TONE-2,TONE-3,TONE-4,TONE-5,TONE-6,TSA,TSHA,U,UE,VA,XA,YA"),
  ("TAI THAM CO", "MBINING CRYPTOGRAMMIC DOT,NSONANT SIGN BA,NSONANT SIGN FINAL NGA"),
  ("TAI THAM CONSONANT SIGN ", "HIGH RATHA OR LOW PA,LA TANG LAI,LOW PA,MA,MEDIAL LA,MEDIAL RA,SA"),
  ("TAI THAM HORA DIGIT ", "EIGHT,FIVE,FOUR,NINE,ONE,SEVEN,SIX,THREE,TWO,ZERO"),
  ("TAI THAM LETTER ", "A,BA,DA,EE,GREAT SA"),
  ("TAI THAM LETTER HIGH ", "CA,CHA,FA,HA,KA,KHA,KXA,PA,PHA,RATHA,SA,SHA,SSA,TA,THA,YA"),
  ("TAI THAM LETTER ", "I,II,LA,LAE,LLA"),
  ("TAI THAM LETTER LOW ", "CA,CHA,FA,HA,KA,KHA,KXA,PA,PHA,RATHA,SA,TA,THA,YA"),
  ("TAI THAM LETTER ", "LUE,MA,NA,NGA,NYA,OO,RA,RANA,RATA,RUE,U,UU,WA"),
  ("TAI THAM SIGN ", "CAANG,DOKMAI,HANG,HOY,KAAN,KAANKUU,KEOW"),
  ("TAI THAM SIGN KHUEN", " TONE-3, TONE-4, TONE-5,-LUE KARAN"),
  ("TAI THAM SIGN ", "MAI KANG,MAI KANG LAI,MAI SAM,MAI YAMOK,RA HAAM,REVERSED ROTATED RANA,SAKOT"),
  ("TAI THAM SIGN ", "SATKAAN,SATKAANKUU,SAWAN,TONE-1,TONE-2,WIANG,WIANGWAAK"),
  ("TAI THAM THAM DIGIT ", "EIGHT,FIVE,FOUR,NINE,ONE,SEVEN,SIX,THREE,TWO,ZERO"),
  ("TAI THAM VOWEL SIGN A", ",A,E,I"),
  ("TAI THAM VOWEL SIGN ", "E,I,II,MAI SAT,O,OA ABOVE,OA BELOW,OO,OY,TALL AA,THAM AI,U,UE,UU,UUE"),
  ("TAI VIET LETTER HIGH ", "BO,CHO,CO,DO,FO,GO,HO,KHHO,KHO,KO,LO,MO,NGO,NO,NYO,O,PHO,PO,RO,SO"),
  ("TAI VIET LETTER ", "HIGH THO,HIGH TO,HIGH VO,HIGH YO,LOW BO,LOW CHO,LOW CO"),
  ("TAI VIET LETTER LOW ", "DO,FO,GO,HO,KHHO,KHO,KO,LO,MO,NGO,NO,NYO,O,PHO,PO,RO,SO,THO,TO,VO,YO"),
  ("TAI VIET ", "MAI KANG,MAI KHIT,SYMBOL HO HOI,SYMBOL KOI KOI,SYMBOL KON,SYMBOL NUENG"),
  ("TAI VIET ", "SYMBOL SAM,TONE MAI EK,TONE MAI NUENG,TONE MAI SONG,TONE MAI THO"),
  ("TAI VIET VOWEL ", "AA,AM,AN,AUE,AY,E,I,IA,O,U,UA,UE,UEA"),
  ("TAK", "EOUT BOX,RI ABBREVIATION SIGN"),
  ("TAKRI DIGIT ", "EIGHT,FIVE,FOUR,NINE,ONE,SEVEN,SIX,THREE,TWO,ZERO"),
  ("TAKRI LETTER ", "A,AA,AI,ARCHAIC KHA,AU,BA,BHA,CA,CHA,DA,DDA,DDHA,DHA,E,GA,GHA,HA,I,II,JA,JHA"),
  ("TAKRI LETTER ", "KA,KHA,LA,MA,NA,NGA,NNA,NYA,O,PA,PHA,RA,RRA,SA,SHA,TA,THA,TTA,TTHA,U,UU,VA"),
  ("TAKRI ", "LETTER YA,SIGN ANUSVARA,SIGN NUKTA,SIGN VIRAMA,SIGN VISARGA"),
  ("TAKRI VOWEL SIGN ", "AA,AI,AU,E,I,II,O,U,UU"),
  ("TA", "LLY MARK FIVE,LLY MARK ONE,MALE,MIL AND ODD SIGN"),
  ("TAMIL ", "AS ABOVE SIGN,AU LENGTH MARK,CREDIT SIGN,CURRENT SIGN,DAY SIGN,DEBIT SIGN"),
  ("TAMIL DIGIT ", "EIGHT,FIVE,FOUR,NINE,ONE,SEVEN,SIX,THREE,TWO,ZERO"),
  ("TAMIL ", "DRY CULTIVATION SIGN,FRACTION DOWNSCALING FACTOR KIIZH"),
  ("TAMIL FRACTION ONE ", "EIGHTH,EIGHTIETH,FIFTH,FORTIETH,HALF-1,HALF-2,ONE-HUNDRED-AND-SIXTIETH"),
  ("TAMIL FRACTION ONE ", "QUARTER,SIXTEENTH-1,SIXTEENTH-2,SIXTY-FOURTH"),
  ("TAMIL FRACTION ONE T", "ENTH,HIRTY-SECOND,HREE-HUNDRED-AND-TWENTIETH,WENTIETH"),
  ("TAMIL FRACTION THREE ", "EIGHTIETHS,QUARTERS,SIXTEENTHS,SIXTY-FOURTHS,TWENTIETHS"),
  ("TAMIL ", "IN POSSESSION SIGN,LAND SIGN"),
  ("TAMIL LETTER ", "A,AA,AI,AU,CA,E,EE,HA,I,II,JA,KA,LA,LLA,LLLA,MA,NA,NGA,NNA,NNNA,NYA,O,OO,PA"),
  ("TAMIL LETTER ", "RA,RRA,SA,SHA,SSA,TA,TTA,U,UU,VA,YA"),
  ("TAMIL ", "MONTH SIGN,NUMBER ONE HUNDRED,NUMBER ONE THOUSAND,NUMBER SIGN,NUMBER TEN"),
  ("TAMIL ", "OM,PUNCTUATION END OF TEXT,RUPEE SIGN,SALT PAN SIGN"),
  ("TAMIL SIGN ", "AAZHAAKKU,ANUSVARA,CEVITU,KAACU,KURUNI,KUZHI,MUKKURUNI,MUTHALIYA,MUUVUZHAKKU"),
  ("TAMIL SIGN ", "NEL,PAARAM,PANAM,PATHAKKU,PON,UZHAKKU,VAKAIYARAA,VARAAKAN,VELI,VIRAMA,VISARGA"),
  ("TAMIL ", "SPENT SIGN,STARTING FROM SIGN,TOTAL SIGN"),
  ("TAMIL TRADITIONAL ", "CREDIT SIGN,NUMBER SIGN"),
  ("TAMIL VOWEL SIGN ", "AA,AI,AU,E,EE,I,II,O,OO,U,UU"),
  ("TA", "MIL WET CULTIVATION SIGN,MIL YEAR SIGN,NABATA TREE,NGERINE"),
  ("TANGSA DIGIT ", "EIGHT,FIVE,FOUR,NINE,ONE,SEVEN,SIX,THREE,TWO,ZERO"),
  ("TANGSA LETTER ", "AC,AQ,AWC,AWQ,AWX,AWZ,AX,AZ,BA,CA,CHA,DA,DHA,EC,EQ,EX,EZ,FA,FINAL NG,GA,GHA"),
  ("TANGSA LETTER ", "HA,HTA,HTTA,IC,IQ,IX,IZ,KA,KHA,LA,LONG UEX,MA,MC,MQ,MX,MZ,NA,NGA,NHA,NYA"),
  ("TANGSA LETTER ", "OC,OQ,OX,OZ,PA,PHA,RA,SA,SHA,SHORT AWX,SHORT UEZ,TA,THA,TSA,UC,UEC,UEQ,UEX"),
  ("TANGSA LETTER ", "UEZ,UIC,UIQ,UIUC,UIUQ,UIUX,UIUZ,UIX,UIZ,UQ,UX,UZ,VC,VQ,VX,VZ,WA,XA,YA,ZA"),
  ("TANGUT COMPONENT-0", "01,02,03,04,05,06,07,08,09,10,11,12,13,14,15,16,17,18,19,20,21,22,23,24"),
  ("TANGUT COMPONENT-0", "25,26,27,28,29,30,31,32,33,34,35,36,37,38,39,40,41,42,43,44,45,46,47,48"),
  ("TANGUT COMPONENT-0", "49,50,51,52,53,54,55,56,57,58,59,60,61,62,63,64,65,66,67,68,69,70,71,72"),
  ("TANGUT COMPONENT-0", "73,74,75,76,77,78,79,80,81,82,83,84,85,86,87,88,89,90,91,92,93,94,95,96"),
  ("TANGUT COMPONENT-", "097,098,099,100,101,102,103,104,105,106,107,108,109,110,111,112,113,114"),
  ("TANGUT COMPONENT-1", "15,16,17,18,19,20,21,22,23,24,25,26,27,28,29,30,31,32,33,34,35,36,37,38"),
  ("TANGUT COMPONENT-1", "39,40,41,42,43,44,45,46,47,48,49,50,51,52,53,54,55,56,57,58,59,60,61,62"),
  ("TANGUT COMPONENT-1", "63,64,65,66,67,68,69,70,71,72,73,74,75,76,77,78,79,80,81,82,83,84,85,86"),
  ("TANGUT COMPONENT-", "187,188,189,190,191,192,193,194,195,196,197,198,199,200,201,202,203"),
  ("TANGUT COMPONENT-2", "04,05,06,07,08,09,10,11,12,13,14,15,16,17,18,19,20,21,22,23,24,25,26,27"),
  ("TANGUT COMPONENT-2", "28,29,30,31,32,33,34,35,36,37,38,39,40,41,42,43,44,45,46,47,48,49,50,51"),
  ("TANGUT COMPONENT-2", "52,53,54,55,56,57,58,59,60,61,62,63,64,65,66,67,68,69,70,71,72,73,74,75"),
  ("TANGUT COMPONENT-2", "76,77,78,79,80,81,82,83,84,85,86,87,88,89,90,91,92,93,94,95,96,97,98,99"),
  ("TANGUT COMPONENT-3", "00,01,02,03,04,05,06,07,08,09,10,11,12,13,14,15,16,17,18,19,20,21,22,23"),
  ("TANGUT COMPONENT-3", "24,25,26,27,28,29,30,31,32,33,34,35,36,37,38,39,40,41,42,43,44,45,46,47"),
  ("TANGUT COMPONENT-3", "48,49,50,51,52,53,54,55,56,57,58,59,60,61,62,63,64,65,66,67,68,69,70,71"),
  ("TANGUT COMPONENT-3", "72,73,74,75,76,77,78,79,80,81,82,83,84,85,86,87,88,89,90,91,92,93,94,95"),
  ("TANGUT COMPONENT-", "396,397,398,399,400,401,402,403"),
  ("TANGUT COMPONENT-4", "04,05,06,07,08,09,10,11,12,13,14,15,16,17,18,19,20,21,22,23,24,25,26,27"),
  ("TANGUT COMPONENT-4", "28,29,30,31,32,33,34,35,36,37,38,39,40,41,42,43,44,45,46,47,48,49,50,51"),
  ("TANGUT COMPONENT-4", "52,53,54,55,56,57,58,59,60,61,62,63,64,65,66,67,68,69,70,71,72,73,74,75"),
  ("TANGUT COMPONENT-4", "76,77,78,79,80,81,82,83,84,85,86,87,88,89,90,91,92,93,94,95,96,97,98,99"),
  ("TANGUT COMPONENT-5", "00,01,02,03,04,05,06,07,08,09,10,11,12,13,14,15,16,17,18,19,20,21,22,23"),
  ("TANGUT COMPONENT-5", "24,25,26,27,28,29,30,31,32,33,34,35,36,37,38,39,40,41,42,43,44,45,46,47"),
  ("TANGUT COMPONENT-5", "48,49,50,51,52,53,54,55,56,57,58,59,60,61,62,63,64,65,66,67,68,69,70,71"),
  ("TANGUT COMPONENT-5", "72,73,74,75,76,77,78,79,80,81,82,83,84,85,86,87,88,89,90,91,92,93,94,95"),
  ("TANGUT COMPONENT-", "596,597,598,599,600,601,602,603"),
  ("TANGUT COMPONENT-6", "04,05,06,07,08,09,10,11,12,13,14,15,16,17,18,19,20,21,22,23,24,25,26,27"),
  ("TANGUT COMPONENT-6", "28,29,30,31,32,33,34,35,36,37,38,39,40,41,42,43,44,45,46,47,48,49,50,51"),
  ("TANGUT COMPONENT-6", "52,53,54,55,56,57,58,59,60,61,62,63,64,65,66,67,68,69,70,71,72,73,74,75"),
  ("TANGUT COMPONENT-6", "76,77,78,79,80,81,82,83,84,85,86,87,88,89,90,91,92,93,94,95,96,97,98,99"),
  ("TANGUT COMPONENT-7", "00,01,02,03,04,05,06,07,08,09,10,11,12,13,14,15,16,17,18,19,20,21,22"),
  ("TANGUT COMPONENT-7", "23,24,25,26,27,28,29,30,31,32,33,34,35,36,37,38,39,40,41,42,43,44,45"),
  ("TANGUT COMPONENT-7", "46,47,48,49,50,51,52,53,54,55,56,57,58,59,60,61,62,63,64,65,66,67,68"),
  ("T", "ANGUT ITERATION MARK,APE CARTRIDGE,APE DRIVE,AURUS,AXI,EACUP WITHOUT HANDLE"),
  ("TE", "APOT,AR-OFF CALENDAR,ARDROP-BARBED RIGHTWARDS ARROW,ARDROP-SPOKED ASTERISK,DDY BEAR"),
  ("TELEPHONE ", "LOCATION SIGN,ON TOP OF MODEM,RECEIVER,RECEIVER WITH PAGE,RECORDER,SIGN"),
  ("TEL", "ESCOPE,EVISION,UGU AI LENGTH MARK"),
  ("TELUGU DIGIT ", "EIGHT,FIVE,FOUR,NINE,ONE,SEVEN,SIX,THREE,TWO,ZERO"),
  ("TELUGU FRACTION DIGIT ONE FOR ", "EVEN POWERS OF FOUR,ODD POWERS OF FOUR"),
  ("TELUGU FRACTION DIGIT THREE FOR ", "EVEN POWERS OF FOUR,ODD POWERS OF FOUR"),
  ("TELUGU FRACTION DIGIT TWO FOR ", "EVEN POWERS OF FOUR,ODD POWERS OF FOUR"),
  ("TELUGU ", "FRACTION DIGIT ZERO FOR ODD POWERS OF FOUR,LENGTH MARK"),
  ("TELUGU LETTER A", ",A,I,U"),
  ("TELUGU LETTER ", "BA,BHA,CA,CHA,DA,DDA,DDHA,DHA,DZA,E,EE,GA,GHA,HA,I,II,JA,JHA,KA,KHA,LA,LLA"),
  ("TELUGU LETTER ", "LLLA,MA,NA,NAKAARA POLLU,NGA,NNA,NYA,O,OO,PA,PHA,RA,RRA,RRRA,SA,SHA,SSA,TA"),
  ("TELUGU LETTER ", "THA,TSA,TTA,TTHA,U,UU,VA,VOCALIC L,VOCALIC LL,VOCALIC R,VOCALIC RR,YA"),
  ("TELUGU SIGN ", "ANUSVARA,AVAGRAHA,CANDRABINDU,COMBINING ANUSVARA ABOVE"),
  ("TELUGU SIGN ", "COMBINING CANDRABINDU ABOVE,NUKTA,SIDDHAM,TUUMU,VIRAMA,VISARGA"),
  ("TELUGU VOWEL SIGN ", "AA,AI,AU,E,EE,I,II,O,OO,U,UU,VOCALIC L,VOCALIC LL,VOCALIC R,VOCALIC RR"),
  ("TE", "NGE SIGN,NNIS RACQUET AND BALL,NT,ST TUBE,TRAGRAM FOR ACCUMULATION"),
  ("TETRAGRAM FOR ", "ADVANCE,AGGRAVATION,ASCENT,BARRIER,BOLD RESOLUTION,BRANCHING OUT,CENTRE"),
  ("TETRAGRAM FOR C", "HANGE,LOSED MOUTH,LOSENESS,LOSURE,OMPLETION,OMPLIANCE,ONSTANCY,ONTACT"),
  ("TETRAGRAM FOR ", "CONTENTION,CONTRARIETY,DARKENING,DECISIVENESS,DEFECTIVENESS OR DISTORTION"),
  ("TETRAGRAM FOR ", "DEPARTURE,DIFFICULTIES,DIMINISHMENT,DIMMING,DIVERGENCE,DOUBT,DUTIES,EASE"),
  ("TETRAGRAM FOR ", "EMBELLISHMENT,ENCOUNTERS,ENDEAVOUR,ENLARGEMENT,ETERNITY,EXHAUSTION,FAILURE"),
  ("TETRAGRAM FOR ", "FLIGHT,FOLLOWING,FOSTERING,FULL CIRCLE,FULLNESS,GATHERING,GATHERING IN"),
  ("TETRAGRAM FOR ", "GOING TO MEET,GREATNESS,GUARDEDNESS,HARDNESS,HOLDING BACK,INCREASE,INNER"),
  ("TETRAGRAM FOR ", "JOY,KEEPING SMALL,KINSHIP,LABOURING,LAW OR MODEL,LEGION,MASSING,MEASURE"),
  ("TETRAGRAM FOR ", "MIRED,ON THE VERGE,OPPOSITION,PACKING,PATTERN,PENETRATION,PURITY,REACH"),
  ("TETRAGRAM FOR ", "RELEASE,RESIDENCE,RESISTANCE,RESPONSE,RITUAL,SEVERANCE,SINKING,STOPPAGE"),
  ("TETRAGRAM FOR ", "STOVE,STRENGTH,UNITY,VASTNESS OR WASTING,WAITING,WATCH,YOUTHFULNESS"),
  ("THAANA ", "AABAAFILI,ABAFILI,EBEFILI,EEBEEFILI,EYBEYFILI,IBIFILI,LETTER AINU"),
  ("THAANA LETTER ", "ALIFU,BAA,CHAVIYANI,DAADHU,DAVIYANI,DHAALU,FAAFU,GAAFU,GHAINU,GNAVIYANI,HAA"),
  ("THAANA LETTER ", "HHAA,JAVIYANI,KAAFU,KHAA,LAAMU,LHAVIYANI,MEEMU,NAA,NOONU,PAVIYANI,QAAFU,RAA"),
  ("THAANA LETTER ", "SAADHU,SEENU,SHAVIYANI,SHEENU,TAVIYANI,THAA,THAALU,TO,TTAA,VAAVU,WAAVU,YAA"),
  ("THAANA ", "LETTER ZAA,LETTER ZAVIYANI,LETTER ZO,OABOAFILI,OBOFILI,OOBOOFILI,SUKUN,UBUFILI"),
  ("THAI CHARACTER ", "ANGKHANKHU,BO BAIMAI,CHO CHAN,CHO CHANG,CHO CHING,CHO CHOE,DO CHADA,DO DEK"),
  ("THAI CHARACTER ", "FO FA,FO FAN,FONGMAN,HO HIP,HO NOKHUK,KHO KHAI,KHO KHON,KHO KHUAT"),
  ("THAI CHARACTER ", "KHO KHWAI,KHO RAKHANG,KHOMUT,KO KAI,LAKKHANGYAO,LO CHULA,LO LING,LU"),
  ("THAI CHARACTER MAI", " CHATTAWA, EK, HAN-AKAT, THO, TRI,TAIKHU,YAMOK"),
  ("THAI CHARACTER ", "MO MA,NGO NGU,NIKHAHIT,NO NEN,NO NU,O ANG,PAIYANNOI,PHINTHU"),
  ("THAI CHARACTER ", "PHO PHAN,PHO PHUNG,PHO SAMPHAO,PO PLA,RO RUA,RU"),
  ("THAI CHARACTER SARA ", "A,AA,AE,AI MAIMALAI,AI MAIMUAN,AM,E,I,II,O,U,UE,UEE,UU"),
  ("THAI CHARACTER ", "SO RUSI,SO SALA,SO SO,SO SUA,THANTHAKHAT,THO NANGMONTHO,THO PHUTHAO"),
  ("THAI CHARACTER ", "THO THAHAN,THO THAN,THO THONG,THO THUNG,TO PATAK,TO TAO,WO WAEN,YAMAKKAN"),
  ("THAI C", "HARACTER YO YAK,HARACTER YO YING,URRENCY SYMBOL BAHT"),
  ("THAI DIGIT ", "EIGHT,FIVE,FOUR,NINE,ONE,SEVEN,SIX,THREE,TWO,ZERO"),
  ("TH", "ERE DOES NOT EXIST,ERE EXISTS,EREFORE,ERMODYNAMIC,ERMOMETER,IN GREEK CROSS,IN SALTIRE"),
  ("TH", "IN SPACE,INKING FACE,IRD PLACE MEDAL,ONG SANDAL,OUGHT BALLOON,REE BUTTON MOUSE"),
  ("THREE ", "CONSECUTIVE EQUALS SIGNS,DIMENSIONAL ANGLE,DOT PUNCTUATION,LEFTWARDS ARROWS"),
  ("THREE ", "LINES CONVERGING LEFT,LINES CONVERGING RIGHT,NETWORKED COMPUTERS,POINTED BLACK STAR"),
  ("THREE ", "RAYS ABOVE,RAYS BELOW,RAYS LEFT,RAYS RIGHT,RIGHTWARDS ARROWS,SPEECH BUBBLES"),
  ("THREE-D ", "BOTTOM-LIGHTED RIGHTWARDS ARROWHEAD,LEFT-LIGHTED DOWNWARDS EQUILATERAL ARROWHEAD"),
  ("THREE-D RIGHT-LIGHTED UPWARDS EQUILATERAL ARROWHEAD", ""),
  ("THREE-D TOP-LIGHTED ", "LEFTWARDS EQUILATERAL ARROWHEAD,RIGHTWARDS ARROWHEAD"),
  ("THREE-", "D TOP-LIGHTED RIGHTWARDS EQUILATERAL ARROWHEAD,EM DASH,PER-EM SPACE"),
  ("THU", "MBS DOWN SIGN,MBS UP SIGN,NDER CLOUD AND RAIN,NDERSTORM"),
  ("TIBETAN ASTROLOGICAL SIGN ", "-KHYUD PA,SDONG TSHUGS,SGRA GCAN -CHAR RTAGS"),
  ("TIBETAN CANTILLATION SIGN ", "CANG TE-U,HEAVY BEAT,LIGHT BEAT,SBUB -CHAL"),
  ("TIBETAN DIGIT ", "EIGHT,FIVE,FOUR,HALF EIGHT,HALF FIVE,HALF FOUR,HALF NINE,HALF ONE"),
  ("TIBETAN DIGIT ", "HALF SEVEN,HALF SIX,HALF THREE,HALF TWO,HALF ZERO,NINE,ONE,SEVEN,SIX,THREE"),
  ("TIBETAN ", "DIGIT TWO,DIGIT ZERO,KU RU KHA,KU RU KHA BZHI MIG CAN,LETTER -A"),
  ("TIBETAN LETTER ", "A,BA,BHA,CA,CHA,DA,DDA,DDHA,DHA,DZA,DZHA,FIXED-FORM RA,GA,GHA,HA,JA,KA,KHA"),
  ("TIBETAN LETTER ", "KKA,KSSA,LA,MA,NA,NGA,NNA,NYA,PA,PHA,RA,RRA,SA,SHA,SSA,TA,THA,TSA,TSHA,TTA"),
  ("TIBETAN L", "ETTER TTHA,ETTER WA,ETTER YA,ETTER ZA,ETTER ZHA,OGOTYPE SIGN CHAD RTAGS"),
  ("TIBETAN ", "LOGOTYPE SIGN LHAG RTAGS,MARK ANG KHANG GYAS,MARK ANG KHANG GYON"),
  ("TIBETAN MARK B", "KA- SHOG GI MGO RGYAN,KA- SHOG YIG MGO,SDUS RTAGS,SKA- SHOG GI MGO RGYAN"),
  ("TIBETAN MARK ", "BSKUR YIG MGO,CARET -DZUD RTAGS BZHI MIG CAN,CARET -DZUD RTAGS ME LONG CAN"),
  ("TIBETAN MARK C", "ARET YIG MGO PHUR SHAD MA,HE MGO,LOSING BRDA RNYING YIG MGO SGAB MA"),
  ("TIBETAN MARK ", "CLOSING YIG MGO SGAB MA,DELIMITER TSHEG BSTAR,GTER TSHEG"),
  ("TIBETAN MARK GTER YIG MGO ", "-UM GTER TSHEG MA,-UM RNAM BCAD MA,TRUNCATED A"),
  ("TIBETAN MARK ", "GUG RTAGS GYAS,GUG RTAGS GYON,HALANTA,INITIAL BRDA RNYING YIG MGO MDUN MA"),
  ("TIBETAN MARK ", "INITIAL YIG MGO MDUN MA,INTERSYLLABIC TSHEG,LEADING MCHAN RTAGS"),
  ("TIBETAN MARK ", "MNYAM YIG GI MGO RGYAN,NGAS BZUNG NYI ZLA,NGAS BZUNG SGOR RTAGS,NYIS SHAD"),
  ("TIBETAN MARK ", "NYIS TSHEG,NYIS TSHEG SHAD,PALUTA,RGYA GRAM SHAD,RIN CHEN SPUNGS SHAD"),
  ("TIBETAN MARK ", "SBRUL SHAD,SHAD,TRAILING MCHAN RTAGS,TSA -PHRU,TSHEG SHAD"),
  ("TIBETAN ", "MARK YIG MGO TSHEG SHAD MA,SIGN GRU CAN RGYINGS,SIGN GRU MED RGYINGS"),
  ("TIBETAN SIGN ", "INVERTED MCHU CAN,LCE TSA CAN,LCI RTAGS,MAR TSHES,MCHU CAN,NYI ZLA NAA DA"),
  ("TIBETAN SIGN RDEL DKAR ", "GCIG,GNYIS,GSUM,RDEL NAG"),
  ("TIBETAN SIGN RDEL NAG ", "GCIG,GNYIS,GSUM,RDEL DKAR"),
  ("TIBETAN SIGN ", "RJES SU NGA RO,RNAM BCAD,SNA LDAN,YANG RTAGS,YAR TSHES"),
  ("TIBETAN SUBJOINED LETTER ", "-A,A,BA,BHA,CA,CHA,DA,DDA,DDHA,DHA,DZA,DZHA,FIXED-FORM RA"),
  ("TIBETAN SUBJOINED LETTER ", "FIXED-FORM WA,FIXED-FORM YA,GA,GHA,HA,JA,KA,KHA,KSSA,LA,MA,NA"),
  ("TIBETAN SUBJOINED LETTER ", "NGA,NNA,NYA,PA,PHA,RA,SA,SHA,SSA,TA,THA,TSA,TSHA,TTA,TTHA,WA,YA"),
  ("TIBETAN SUBJOINED ", "LETTER ZA,LETTER ZHA,SIGN INVERTED MCHU CAN,SIGN LCE TSA CAN"),
  ("TIBETAN S", "UBJOINED SIGN MCHU CAN,YLLABLE OM,YMBOL DRIL BU"),
  ("TIBETAN SYMBOL NOR BU", ", BZHI -KHYIL, GSUM -KHYIL, NYIS -KHYIL"),
  ("TIBETAN SYMBOL ", "PADMA GDAN,PHUR PA,RDO RJE,RDO RJE RGYA GRAM"),
  ("TIBETAN VOWEL SIGN ", "AA,E,EE,I,II,O,OO,REVERSED I,REVERSED II,U,UU"),
  ("TIBETAN VOWEL SIGN VOCALIC ", "L,LL,R,RR"),
  ("TI", "CKET,E OVER INFINITY,FINAGH CONSONANT JOINER,FINAGH LETTER AHAGGAR YAZH"),
  ("TIFINAGH LETTER ", "AYER YAGH,BERBER ACADEMY YAH,BERBER ACADEMY YAJ,TAWELLEMET YAZ"),
  ("TIFINAGH LETTER TUAREG YA", "GH,GN,H,K,KH,NG,Q,ZH"),
  ("TIFINAGH LETTER YA", ",A,B,BH,CH,D,DD,DDH,DH,F,G,GH,GHH,H,HH,J,K,KH,KHH,L,M,N,P,Q,R,RR,S,SH"),
  ("TIFINAGH LETTER Y", "ASS,AT,ATH,ATT,AV,AW,AY,AZ,AZH,AZZ,E,EY,I,O,U"),
  ("TIFINAGH ", "MODIFIER LETTER LABIALIZATION MARK,SEPARATOR MARK"),
  ("TI", "GER,GER FACE,GHT TRIFOLIATE SNOWFLAKE,LDE"),
  ("TILDE OPERATOR", ", ABOVE LEFTWARDS ARROW, ABOVE RIGHTWARDS ARROW, WITH DOT ABOVE"),
  ("TILDE ", "OPERATOR WITH RISING DOTS,WITH DOT ABOVE,WITH DOT BELOW,WITH RING ABOVE"),
  ("TIME", "R CLOCK,S WITH LEFT HALF BLACK,S WITH RIGHT HALF BLACK"),
  ("TI", "NY,NY TWO DOTS OVER ONE DOT PUNCTUATION,RED FACE,RHUTA ABBREVIATION SIGN,RHUTA ANJI"),
  ("TIRHUTA DIGIT ", "EIGHT,FIVE,FOUR,NINE,ONE,SEVEN,SIX,THREE,TWO,ZERO"),
  ("TIRHUTA GVANG", ""),
  ("TIRHUTA LETTER ", "A,AA,AI,AU,BA,BHA,CA,CHA,DA,DDA,DDHA,DHA,E,GA,GHA,HA,I,II,JA,JHA,KA,KHA,LA"),
  ("TIRHUTA LETTER ", "MA,NA,NGA,NNA,NYA,O,PA,PHA,RA,SA,SHA,SSA,TA,THA,TTA,TTHA,U,UU,VA,VOCALIC L"),
  ("TIRHUTA ", "LETTER VOCALIC LL,LETTER VOCALIC R,LETTER VOCALIC RR,LETTER YA,OM"),
  ("TIRHUTA SIGN ", "ANUSVARA,AVAGRAHA,CANDRABINDU,NUKTA,VIRAMA,VISARGA"),
  ("TIRHUTA VOWEL SIGN ", "AA,AI,AU,E,I,II,O,SHORT E,SHORT O,U,UU,VOCALIC L,VOCALIC LL,VOCALIC R"),
  ("TIR", "HUTA VOWEL SIGN VOCALIC RR,ONIAN SIGN CAPITAL ET,ONIAN SIGN ET"),
  ("TO", "ILET,KYO TOWER,MATO,NGUE,OLBOX,OTH,OTHBRUSH,P ARC ANTICLOCKWISE ARROW"),
  ("TOP ", "ARC ANTICLOCKWISE ARROW WITH PLUS,ARC CLOCKWISE ARROW WITH MINUS,CURLY BRACKET"),
  ("TOP HALF ", "BLACK CIRCLE,INTEGRAL,LEFT PARENTHESIS,RIGHT PARENTHESIS,SECTION SIGN"),
  ("TOP ", "HAT,LEFT CORNER,LEFT CROP,LEFT HALF BRACKET,PARENTHESIS,RIGHT CORNER,RIGHT CROP"),
  ("TOP ", "RIGHT HALF BRACKET,SQUARE BRACKET,TORTOISE SHELL BRACKET,WITH UPWARDS ARROW ABOVE"),
  ("TORTOISE SHELL BRACKETED CJK UNIFIED IDEOGRAPH-", "4E09,4E8C,52DD,5B89,6253,6557,672C,70B9"),
  ("TORTOISE SHELL BRACKETED ", "CJK UNIFIED IDEOGRAPH-76D7,LATIN CAPITAL LETTER S"),
  ("TOT", "AL RUNOUT,O LETTER A,O LETTER AE,O LETTER BA"),
  ("TOTO LETTER BREATHY ", "AE,E,EO,I,IU"),
  ("TOTO LETTER ", "CHA,DA,E,EO,GA,HA,I,IU,JA,KA,LA,MA,NA,NGA,O,PA,RA,SA,TA,U,WA,YA"),
  ("T", "OTO SIGN RISING TONE,RACKBALL,RACTOR,RADE MARK SIGN,RAIN,RAM,RAM CAR"),
  ("TR", "ANSPLUTO,ANSVERSAL INTERSECTION,IANGLE WITH DOT ABOVE,IANGLE WITH ROUNDED CORNERS"),
  ("TRIANGLE", " WITH SERIFS AT BOTTOM, WITH UNDERBAR,-HEADED RIGHTWARDS ARROW"),
  ("TRI", "ANGULAR BULLET,ANGULAR FLAG ON POST,ANGULAR RULER,COLON,DENT EMBLEM"),
  ("TRIGRAM FOR ", "EARTH,FIRE,HEAVEN,LAKE,MOUNTAIN,THUNDER,WATER,WIND"),
  ("TRIPLE ", "COLON OPERATOR,DAGGER,HORIZONTAL BAR WITH DOUBLE VERTICAL STROKE"),
  ("TRIPLE ", "HORIZONTAL BAR WITH TRIPLE VERTICAL STROKE,INTEGRAL,NESTED GREATER-THAN"),
  ("TRIPLE ", "NESTED LESS-THAN,PLUS,PRIME,SOLIDUS BINARY RELATION,TILDE"),
  ("TRIPLE VERTICAL BAR ", "BINARY RELATION,DELIMITER,RIGHT TURNSTILE,WITH HORIZONTAL STROKE"),
  ("TR", "OLL,OLLEYBUS,OPHY,OPICAL DRINK,OPICAL FISH,UE,UE LIGHT MOON ARTA,UMPET"),
  ("TU", "GRIK SIGN,LIP,MBLER GLASS,RKEY,RKISH LIRA SIGN,RNED AMPERSAND,RNED ANGLE"),
  ("TURNED ", "BLACK PENTAGON,BLACK SHOGI PIECE,CAPITAL F,COMMA,DAGGER,DIGIT THREE,DIGIT TWO"),
  ("TURNED ", "GREEK SMALL LETTER IOTA,NORTH EAST POINTING LEAF,NORTH WEST POINTING LEAF,NOT SIGN"),
  ("TURNED ", "OK HAND SIGN,SANS-SERIF CAPITAL G,SANS-SERIF CAPITAL L,SANS-SERIF CAPITAL Y"),
  ("TURNED S", "EMICOLON,MALL F,OUTH EAST POINTING LEAF,OUTH WEST POINTING LEAF"),
  ("T", "URNED WHITE SHOGI PIECE,URTLE,WELVE POINTED BLACK STAR,WISTED RIGHTWARDS ARROWS"),
  ("TWO ", "ASTERISKS ALIGNED VERTICALLY,BUTTON MOUSE,CONSECUTIVE EQUALS SIGNS,DOT LEADER"),
  ("TWO ", "DOT PUNCTUATION,DOTS OVER ONE DOT PUNCTUATION,HEARTS,INTERSECTING LOGICAL AND"),
  ("TWO ", "INTERSECTING LOGICAL OR,JOINED SQUARES,LOGICAL AND OPERATOR,LOGICAL OR OPERATOR"),
  ("TWO", " MEN HOLDING HANDS, SPEECH BUBBLES, WOMEN HOLDING HANDS,-EM DASH"),
  ("UGARITIC LETTER ", "AIN,ALPA,BETA,DELTA,DHAL,GAMLA,GHAIN,HO,HOTA,I,KAF,KHA,LAMDA,MEM,NUN,PU"),
  ("UGARITIC LETTER ", "QOPA,RASHA,SADE,SAMKA,SHIN,SSU,TET,THANNA,TO,U,WO,YOD,ZETA,ZU"),
  ("U", "GARITIC WORD DIVIDER,MBRELLA,MBRELLA ON GROUND,MBRELLA WITH RAIN DROPS"),
  ("UN", "AMUSED FACE,CERTAINTY SIGN,DERTIE,DO SYMBOL,ICORN FACE"),
  ("UNION", ", ABOVE BAR ABOVE INTERSECTION, ABOVE INTERSECTION, BESIDE AND JOINED WITH UNION"),
  ("UNION WITH ", "LOGICAL OR,MINUS SIGN,OVERBAR"),
  ("UN", "IT SEPARATOR,ITED SYMBOL,IVERSAL RECYCLING SYMBOL,MARRIED PARTNERSHIP SYMBOL"),
  ("UP ARROW", " THROUGH CIRCLE,HEAD,HEAD BETWEEN TWO HORIZONTAL BARS,HEAD IN A RECTANGLE BOX"),
  ("UP BARB LEFT DOWN BARB ", "LEFT HARPOON,RIGHT HARPOON"),
  ("UP ", "BARB RIGHT DOWN BARB LEFT HARPOON,BARB RIGHT DOWN BARB RIGHT HARPOON,DOWN ARROW"),
  ("UP DOWN ", "ARROW WITH BASE,BLACK ARROW,DOUBLE ARROW,SANS-SERIF ARROW,TRIANGLE-HEADED ARROW"),
  ("UP ", "DOWN WHITE ARROW,FISH TAIL,RIGHT DIAGONAL ELLIPSIS,TACK,TACK WITH CIRCLE ABOVE"),
  ("UP-POINTING ", "AIRPLANE,MILITARY AIRPLANE,RED TRIANGLE,SMALL AIRPLANE,SMALL RED TRIANGLE"),
  ("UP-POINTING TRIANGLE WITH ", "LEFT HALF BLACK,RIGHT HALF BLACK"),
  ("UPPER AND L", "EFT AND LOWER TRIANGULAR THREE QUARTERS BLOCK,OWER ONE EIGHTH BLOCK"),
  ("UPPER AND ", "LOWER TRIANGULAR HALF BLOCK,RIGHT AND LOWER TRIANGULAR THREE QUARTERS BLOCK"),
  ("UPPER ", "BLADE SCISSORS,FIVE EIGHTHS BLOCK"),
  ("UPPER HALF ", "BLOCK,BLOCK AND LOWER HALF INVERSE MEDIUM SHADE,CIRCLE"),
  ("UPPER HALF ", "INVERSE MEDIUM SHADE AND LOWER HALF BLOCK,INVERSE WHITE CIRCLE,MEDIUM SHADE"),
  ("UPPER LEFT BLOCK DIAGONAL LOWER CENTRE TO ", "LOWER MIDDLE RIGHT,UPPER MIDDLE RIGHT"),
  ("UPPER LEFT BLOCK DIAGONAL LOWER ", "CENTRE TO UPPER RIGHT,LEFT TO LOWER MIDDLE RIGHT"),
  ("UPPER LEFT BLOCK DIAGONAL LOWER LEFT TO UPPER ", "CENTRE,MIDDLE RIGHT"),
  ("UPPER LEFT BLOCK DIAGONAL LOWER MIDDLE LEFT TO UPPER ", "CENTRE,MIDDLE RIGHT,RIGHT"),
  ("UPPER LEFT BLOCK DIAGONAL UPPER MIDDLE LEFT TO UPPER ", "CENTRE,RIGHT"),
  ("UPPER LEFT ", "CORNER WITH DOT,OR LOWER RIGHT CURLY BRACKET SECTION,QUADRANT CIRCULAR ARC"),
  ("UPPER LEFT T", "O LOWER RIGHT FILL,RIANGLE,RIANGULAR MEDIUM SHADE"),
  ("UPPER ONE ", "EIGHTH BLOCK,QUARTER BLOCK"),
  ("UPPER RIGHT BLOCK DIAGONAL LOWER MIDDLE LEFT TO LOWER ", "CENTRE,RIGHT"),
  ("UPPER RIGHT BLOCK DIAGONAL UPPER CENTRE TO LOWER ", "MIDDLE RIGHT,RIGHT"),
  ("UPPER RIGHT BLOCK DIAGONAL UPPER ", "CENTRE TO UPPER MIDDLE RIGHT,LEFT TO LOWER CENTRE"),
  ("UPPER RIGHT BLOCK DIAGONAL UPPER LEFT TO ", "LOWER MIDDLE RIGHT,UPPER MIDDLE RIGHT"),
  ("UPPER RIGHT BLOCK DIAGONAL UPPER MIDDLE LEFT TO LOWER ", "CENTRE,MIDDLE RIGHT,RIGHT"),
  ("UPPER RIGHT ", "DROP-SHADOWED WHITE SQUARE,OR LOWER LEFT CURLY BRACKET SECTION,PENCIL"),
  ("UPPER RIGHT ", "QUADRANT CIRCULAR ARC,SHADOWED WHITE CIRCLE,SHADOWED WHITE SQUARE"),
  ("UPPER RIGHT T", "O LOWER LEFT FILL,RIANGLE,RIANGULAR MEDIUM SHADE"),
  ("UPPER ", "SEVEN EIGHTHS BLOCK,THREE EIGHTHS BLOCK,THREE QUARTERS BLOCK"),
  ("UP", "PER TRIANGULAR ONE QUARTER BLOCK,SIDE-DOWN FACE,WARDS ANCORA"),
  ("UPWARDS ARROW", ", AND RIGHT ONE EIGHTH BLOCK, FROM BAR, LEFTWARDS OF DOWNWARDS ARROW, TO BAR"),
  ("UPWARDS ARROW WITH ", "DOUBLE STROKE,EQUILATERAL ARROWHEAD,HORIZONTAL STROKE"),
  ("UPWARDS ARROW WITH ", "LARGE TRIANGLE ARROWHEAD,MEDIUM TRIANGLE ARROWHEAD,NOTCHED TAIL"),
  ("UPWARDS ARROW WITH SMALL ", "EQUILATERAL ARROWHEAD,TRIANGLE ARROWHEAD"),
  ("UPWARDS ARROW WITH TIP ", "LEFTWARDS,RIGHTWARDS"),
  ("UPWARDS ", "BLACK ARROW,BLACK CIRCLED WHITE ARROW,COMPRESSED ARROW,DASHED ARROW,DOUBLE ARROW"),
  ("UPWARDS ", "FINGER-POST ARROW,HARPOON WITH BARB LEFT BESIDE DOWNWARDS HARPOON WITH BARB RIGHT"),
  ("UPWARDS HARPOON WITH BARB LEFT ", "BESIDE UPWARDS HARPOON WITH BARB RIGHT,FROM BAR,TO BAR"),
  ("UPWARDS HARPOON WITH BARB ", "LEFTWARDS,RIGHT FROM BAR,RIGHT TO BAR,RIGHTWARDS"),
  ("UPWARDS ", "HEAVY ARROW,HEAVY COMPRESSED ARROW,PAIRED ARROWS,QUADRUPLE ARROW,ROCKET"),
  ("UPWARDS ", "SANS-SERIF ARROW,SQUARED ARROW,TRIANGLE ARROWHEAD"),
  ("UPWARDS TRIANGLE-HEADED ARROW", ", LEFTWARDS OF DOWNWARDS TRIANGLE-HEADED ARROW, TO BAR"),
  ("UPWARDS TRIANGLE-HEADED ARROW WITH ", "BOLD SHAFT,DOUBLE HORIZONTAL STROKE,HEAVY SHAFT"),
  ("UPWARDS TRIANGLE-HEADED ARROW WITH ", "LONG TIP LEFTWARDS,LONG TIP RIGHTWARDS,MEDIUM SHAFT"),
  ("UPWARDS TRIANGLE-HEADED ", "ARROW WITH NARROW SHAFT,ARROW WITH VERY HEAVY SHAFT,DASHED ARROW"),
  ("UPWARDS T", "RIANGLE-HEADED PAIRED ARROWS,RIPLE ARROW,WO HEADED ARROW"),
  ("UPWARDS TWO-HEADED ARROW ", "FROM SMALL CIRCLE,WITH TRIANGLE ARROWHEADS"),
  ("UPWARDS WHITE ARROW", ", FROM BAR, FROM BAR WITH HORIZONTAL BAR"),
  ("UPWARDS WHITE ARROW ON PEDESTAL", ", WITH HORIZONTAL BAR, WITH VERTICAL BAR"),
  ("UPWARDS WHITE ", "ARROW WITHIN TRIANGLE ARROWHEAD,DOUBLE ARROW,DOUBLE ARROW ON PEDESTAL"),
  ("U", "RANUS,S"),
  ("VAI ", "COMMA,DIGIT EIGHT,DIGIT FIVE,DIGIT FOUR,DIGIT NINE,DIGIT ONE,DIGIT SEVEN,DIGIT SIX"),
  ("VAI ", "DIGIT THREE,DIGIT TWO,DIGIT ZERO,FULL STOP,QUESTION MARK,SYLLABLE A,SYLLABLE AN"),
  ("VAI SYLLABLE ", "BA,BE,BEE,BHA,BHE,BHEE,BHI,BHO,BHOO,BHU,BI,BO,BOO,BU,CA,CE,CEE,CI,CO,COO,CU"),
  ("VAI SYLLABLE D", "A,E,EE,HA,HE,HEE,HHA,HHE,HHEE,HHI,HHO,HHOO,HHU,HI,HO,HOO,HU,I,O,OO,U"),
  ("VAI SYLLABLE ", "E,EE,EEN,EN,FA,FE,FEE,FI,FO,FOO,FU,GA,GBA,GBE,GBEE,GBEN,GBI,GBO,GBON,GBOO"),
  ("VAI SYLLABLE ", "GBU,GE,GEE,GEN,GI,GO,GOO,GU,HA,HAN,HE,HEE,HEN,HI,HIN,HO,HON,HOO,HU,HUN,I,IN"),
  ("VAI SYLLABLE ", "JA,JE,JEE,JI,JO,JOO,JU,KA,KAN,KE,KEE,KI,KO,KOO,KPA,KPAN,KPE"),
  ("VAI SYLLABLE ", "KPEE,KPEN,KPI,KPO,KPOO,KPU,KU,LA,LE,LEE,LENGTHENER,LI,LO,LOO,LU"),
  ("VAI SYLLABLE M", "A,BA,BE,BEE,BI,BO,BOO,BU,E,EE,GBA,GBE,GBEE,GBI,GBO,GBOO,GBU,I,O,OO,U"),
  ("VAI SYLLABLE N", "A,DA,DE,DEE,DI,DO,DOLE DO,DOLE FA,DOLE KA,DOLE MA,DOLE SOO,DOO,DU,E,EE"),
  ("VAI SYLLABLE N", "G,GAN,GEN,GGA,GGE,GGEE,GGEN,GGI,GGO,GGOO,GGU,GON,I,JA,JE,JEE,JI,JO,JOO,JU,O"),
  ("VAI SYLLABLE ", "NOO,NU,NYA,NYE,NYEE,NYI,NYO,NYOO,NYU,O,ON,OO,OON,PA,PE,PEE,PI,PO,POO,PU"),
  ("VAI SYLLABLE ", "RA,RE,REE,RI,RO,ROO,RU,SA,SE,SEE,SHA,SHE,SHEE,SHI,SHO,SHOO,SHU,SI,SO,SOO,SU"),
  ("VAI SYLLABLE ", "TA,TE,TEE,THA,THE,THEE,THI,THO,THOO,THU,TI,TO,TOO,TU,U,UN,VA,VE,VEE,VI"),
  ("VAI SYLLABLE ", "VO,VOO,VU,WA,WAN,WE,WEE,WEEN,WEN,WI,WIN,WO,WON,WOO,WOON,WU,WUN,YA,YE"),
  ("VAI SYLLABLE ", "YEE,YI,YO,YOO,YU,ZA,ZE,ZEE,ZHA,ZHE,ZHEE,ZHI,ZHO,ZHOO,ZHU,ZI,ZO,ZOO,ZU"),
  ("VAI SYMBOL ", "BANG,DANG,DO-O,DOONG,FAA,FEENG,JONG,KEENG,KUNG,NII,TAA,TING,TONG"),
  ("VAMPIRE", ""),
  ("VARIATION SELECTOR-1", ",0,00,01,02,03,04,05,06,07,08,09,1,10,11,12,13,14,15,16,17,18,19,2,20"),
  ("VARIATION SELECTOR-1", "21,22,23,24,25,26,27,28,29,3,30,31,32,33,34,35,36,37,38,39,4,40,41,42"),
  ("VARIATION SELECTOR-1", "43,44,45,46,47,48,49,5,50,51,52,53,54,55,56,57,58,59,6,60,61,62,63,64"),
  ("VARIATION SELECTOR-1", "65,66,67,68,69,7,70,71,72,73,74,75,76,77,78,79,8,80,81,82,83,84,85,86"),
  ("VARIATION SELECTOR-", "187,188,189,19,190,191,192,193,194,195,196,197,198,199,2,20,200,201"),
  ("VARIATION SELECTOR-2", "02,03,04,05,06,07,08,09,1,10,11,12,13,14,15,16,17,18,19,2,20,21,22,23"),
  ("VARIATION SELECTOR-2", "24,25,26,27,28,29,3,30,31,32,33,34,35,36,37,38,39,4,40,41,42,43,44,45"),
  ("VARIATION SELECTOR-", "246,247,248,249,25,250,251,252,253,254,255,256,26,27,28,29,3,30,31,32"),
  ("VARIATION SELECTOR-", "33,34,35,36,37,38,39,4,40,41,42,43,44,45,46,47,48,49,5,50,51,52,53,54"),
  ("VARIATION SELECTOR-", "55,56,57,58,59,6,60,61,62,63,64,65,66,67,68,69,7,70,71,72,73,74,75,76"),
  ("VARIATION SELECTOR-", "77,78,79,8,80,81,82,83,84,85,86,87,88,89,9,90,91,92,93,94,95,96,97,98"),
  ("V", "ARIATION SELECTOR-99,ECTOR OR CROSS PRODUCT,EDIC SIGN ANUSVARA ANTARGOMUKHA"),
  ("VEDIC SIGN ANUSVARA ", "BAHIRGOMUKHA,UBHAYATO MUKHA,VAMAGOMUKHA,VAMAGOMUKHA WITH TAIL"),
  ("VEDIC SIGN ", "ARDHAVISARGA,ATIKRAMA,DOUBLE ANUSVARA ANTARGOMUKHA,HEXIFORM LONG ANUSVARA"),
  ("VEDIC SIGN ", "JIHVAMULIYA,LONG ANUSVARA,NIHSHVASA,REVERSED VISARGA ANUDATTA"),
  ("VEDIC SIGN R", "EVERSED VISARGA UDATTA,OTATED ARDHAVISARGA,THANG LONG ANUSVARA"),
  ("VEDIC SIGN ", "TIRYAK,UPADHMANIYA,VISARGA ANUDATTA,VISARGA ANUDATTA WITH TAIL,VISARGA SVARITA"),
  ("VEDIC SIGN ", "VISARGA UDATTA,VISARGA UDATTA WITH TAIL,YAJURVEDIC MIDLINE SVARITA"),
  ("VEDIC TONE ", "ATHARVAVEDIC INDEPENDENT SVARITA,CANDRA ABOVE,CANDRA BELOW,DOT BELOW"),
  ("VEDIC TONE ", "DOUBLE RING ABOVE,DOUBLE SVARITA,KARSHANA,KATHAKA ANUDATTA,PRENKHA"),
  ("VEDIC TONE ", "RIGVEDIC KASHMIRI INDEPENDENT SVARITA,RING ABOVE,SHARA,THREE DOTS BELOW"),
  ("VEDIC TONE ", "TRIPLE SVARITA,TWO DOTS BELOW,YAJURVEDIC AGGRAVATED INDEPENDENT SVARITA"),
  ("VEDIC TONE YAJURVEDIC ", "INDEPENDENT SVARITA,KATHAKA INDEPENDENT SVARITA"),
  ("VE", "DIC TONE YAJURVEDIC KATHAKA INDEPENDENT SVARITA SCHROEDER,RSICLE"),
  ("VERTICAL BAR ", "BESIDE RIGHT TRIANGLE,DOUBLE LEFT TURNSTILE,TRIPLE RIGHT TURNSTILE"),
  ("VERTICAL ", "BAR WITH HORIZONTAL STROKE,ELLIPSIS,FOUR DOTS,IDEOGRAPHIC ITERATION MARK"),
  ("VERTICAL KANA REPEAT MARK", ", LOWER HALF, UPPER HALF"),
  ("VERTICAL KANA REPEAT WITH VOICED SOUND MARK", ", UPPER HALF"),
  ("VERTICAL LINE", ", EXTENSION, WITH CIRCLE ABOVE, WITH CIRCLE BELOW, WITH MIDDLE DOT"),
  ("VERTICAL MALE WITH STROKE SIGN", ""),
  ("VERTICAL ONE EIGHTH BLOCK-", "2,3,4,5,6,7"),
  ("VERTICAL ", "SIX DOTS,TAB KEY,TABULATION,TABULATION SET,TILDE,TRAFFIC LIGHT,ZIGZAG LINE"),
  ("VERY ", "BOLD GREEK CROSS,HEAVY EIGHT POINTED BLACK STAR,HEAVY EIGHT SPOKED ASTERISK"),
  ("VERY HEAVY ", "FIVE SPOKED ASTERISK,GREEK CROSS,REVERSE SOLIDUS,SALTIRE,SIX SPOKED ASTERISK"),
  ("VERY ", "HEAVY SOLIDUS,HEAVY WHITE CIRCLE,HEAVY WHITE SQUARE,MUCH GREATER-THAN,MUCH LESS-THAN"),
  ("V", "ESTA,IBRATION MODE,ICTORY HAND,IDEO CAMERA,IDEO GAME,IDEOCASSETTE"),
  ("VIETNAMESE ALTERNATE READING MARK ", "CA,NHAY"),
  ("VI", "EWDATA SQUARE,OLIN,RGO"),
  ("VITHKUQI CAPITAL LETTER ", "A,BBE,BE,CE,CHE,DE,DHE,E,EI,FE,GA,HA,HHA,I,IJE,JE,KA,LA,LLA,ME,NE"),
  ("VITHKUQI CAPITAL LETTER ", "NJE,O,PE,QA,RE,SE,SHE,TE,THE,U,VE,XE,Y,ZE"),
  ("VITHKUQI SMALL LETTER ", "A,BBE,BE,CE,CHE,DE,DHE,E,EI,FE,GA,HA,HHA,I,IJE,JE,KA,LA,LLA,ME,NE"),
  ("VITHKUQI SMALL LETTER ", "NJE,O,PE,QA,RE,SE,SHE,TE,THE,U,VE,XE,Y,ZE"),
  ("V", "OIDED GREEK CROSS,OLCANO,OLLEYBALL,OLUME INTEGRAL,S1,S10,S100,S101,S102,S103"),
  ("VS1", "04,05,06,07,08,09,1,10,11,12,13,14,15,16,17,18,19,2,20,21,22,23,24,25,26,27,28,29,3,30"),
  ("VS1", "31,32,33,34,35,36,37,38,39,4,40,41,42,43,44,45,46,47,48,49,5,50,51,52,53,54,55,56,57"),
  ("VS1", "58,59,6,60,61,62,63,64,65,66,67,68,69,7,70,71,72,73,74,75,76,77,78,79,8,80,81,82,83,84"),
  ("VS", "185,186,187,188,189,19,190,191,192,193,194,195,196,197,198,199,2,20,200,201,202,203,204"),
  ("VS2", "05,06,07,08,09,1,10,11,12,13,14,15,16,17,18,19,2,20,21,22,23,24,25,26,27,28,29,3,30,31"),
  ("VS2", "32,33,34,35,36,37,38,39,4,40,41,42,43,44,45,46,47,48,49,5,50,51,52,53,54,55,56,6,7,8,9"),
  ("VS", "3,30,31,32,33,34,35,36,37,38,39,4,40,41,42,43,44,45,46,47,48,49,5,50,51,52,53,54,55,56"),
  ("VS", "57,58,59,6,60,61,62,63,64,65,66,67,68,69,7,70,71,72,73,74,75,76,77,78,79,8,80,81,82,83"),
  ("V", "S84,S85,S86,S87,S88,S89,S9,S90,S91,S92,S93,S94,S95,S96,S97,S98,S99,T,TS,ULCANUS"),
  ("VULGAR FRACTION F", "IVE EIGHTHS,IVE SIXTHS,OUR FIFTHS"),
  ("VULGAR FRACTION ONE ", "EIGHTH,FIFTH,HALF,NINTH,QUARTER,SEVENTH,SIXTH,TENTH,THIRD"),
  ("VULGAR FRACTION ", "SEVEN EIGHTHS,THREE EIGHTHS,THREE FIFTHS"),
  ("VULGAR FRACTION ", "THREE QUARTERS,TWO FIFTHS,TWO THIRDS,ZERO THIRDS"),
  ("WAFFLE", ""),
  ("WANCHO DIGIT ", "EIGHT,FIVE,FOUR,NINE,ONE,SEVEN,SIX,THREE,TWO,ZERO"),
  ("WANCHO LETTER ", "A,AA,AAN,AANG,ANG,AU,BA,CA,DA,E,EN,FA,GA,HA,I,ING,JA,KA,KHA,LA,LLHA,MA,NA"),
  ("WANCHO LETTER ", "NGA,NYA,O,ON,ONG,PA,PHA,RA,SA,SHA,TA,THA,TRA,TSA,U,UEN,VA,WA,YA,YIH,ZA"),
  ("WANCHO ", "NGUN SIGN,TONE KOI,TONE KOINI,TONE TUP,TONE TUPNI"),
  ("WANING ", "CRESCENT MOON SYMBOL,GIBBOUS MOON SYMBOL"),
  ("WARANG CITI CAPITAL LETTER ", "A,AM,ANG,AT,BU,DA,E,ENN,ENY,GA,HAR,HIYO,HOLO,HORR,II,KO,NGAA"),
  ("WARANG CITI CAPITAL LETTER ", "NUNG,O,ODD,PU,SII,SSUU,TTE,UC,UU,VIYO,WI,YA,YO,YU,YUJ"),
  ("WARANG CITI DIGIT ", "EIGHT,FIVE,FOUR,NINE,ONE,SEVEN,SIX,THREE,TWO,ZERO"),
  ("WARANG CITI NUMBER ", "EIGHTY,FIFTY,FORTY,NINETY,SEVENTY,SIXTY,TEN,THIRTY,TWENTY"),
  ("WARANG CITI OM", ""),
  ("WARANG CITI SMALL LETTER ", "A,AM,ANG,AT,BU,DA,E,ENN,ENY,GA,HAR,HIYO,HOLO,HORR,II,KO"),
  ("WARANG CITI SMALL LETTER ", "NGAA,NUNG,O,ODD,PU,SII,SSUU,TTE,UC,UU,VIYO,WI,YA,YO,YU,YUJ"),
  ("WA", "RNING SIGN,STEBASKET,TCH,TER BUFFALO,TER CLOSET,TER POLO,TER WAVE,TERMELON"),
  ("WAVE ARROW POINTING DIRECTLY ", "LEFT,RIGHT"),
  ("WAV", "E DASH,ING BLACK FLAG,ING HAND SIGN,ING WHITE FLAG,Y DASH,Y LINE,Y LOW LINE,Y OVERLINE"),
  ("WAXING ", "CRESCENT MOON SYMBOL,GIBBOUS MOON SYMBOL"),
  ("WE", "ARY CAT FACE,ARY FACE,DDING,DGE-TAILED RIGHTWARDS ARROW,IERSTRASS ELLIPTIC FUNCTION"),
  ("W", "EIGHT LIFTER,EST SYRIAC CROSS,HALE,HEEL,HEEL OF DHARMA,HEELCHAIR SYMBOL"),
  ("WHITE ", "ARROW SHAFT WIDTH ONE,ARROW SHAFT WIDTH TWO THIRDS,BULLET"),
  ("WHITE CHESS BISHOP", ", ROTATED NINETY DEGREES, ROTATED TWO HUNDRED SEVENTY DEGREES"),
  ("WHITE CHESS EQUIHOPPER", ", ROTATED NINETY DEGREES"),
  ("WHITE CHESS KING", ", ROTATED NINETY DEGREES, ROTATED TWO HUNDRED SEVENTY DEGREES"),
  ("WHITE CHESS KNIGHT", ", ROTATED FORTY-FIVE DEGREES, ROTATED NINETY DEGREES"),
  ("WHITE CHESS KNIGHT ROTATED ", "ONE HUNDRED THIRTY-FIVE DEGREES,THREE HUNDRED FIFTEEN DEGREES"),
  ("WHITE CHESS KNIGHT ROTATED TWO HUNDRED ", "SEVENTY DEGREES,TWENTY-FIVE DEGREES"),
  ("WHITE CHESS KNIGHT-", "BISHOP,QUEEN,ROOK"),
  ("WHITE CHESS PAWN", ", ROTATED NINETY DEGREES, ROTATED TWO HUNDRED SEVENTY DEGREES"),
  ("WHITE CHESS QUEEN", ", ROTATED NINETY DEGREES, ROTATED TWO HUNDRED SEVENTY DEGREES"),
  ("WHITE CHESS ROOK", ", ROTATED NINETY DEGREES, ROTATED TWO HUNDRED SEVENTY DEGREES"),
  ("WHITE CHESS TURNED ", "BISHOP,KING,KNIGHT,PAWN,QUEEN,ROOK"),
  ("WHITE CIRCLE", ", CONTAINING BLACK SMALL CIRCLE"),
  ("WHITE CIRCLE WITH ", "DOT RIGHT,DOWN ARROW,LOWER LEFT QUADRANT,LOWER RIGHT QUADRANT,TWO DOTS"),
  ("WHITE C", "IRCLE WITH UPPER LEFT QUADRANT,IRCLE WITH UPPER RIGHT QUADRANT,LUB SUIT"),
  ("WHITE CONCAVE-SIDED DIAMOND", ", WITH LEFTWARDS TICK, WITH RIGHTWARDS TICK"),
  ("WHITE DIAMOND", ", CONTAINING BLACK MEDIUM DIAMOND, CONTAINING BLACK SMALL DIAMOND"),
  ("WHITE DIAMOND ", "CONTAINING BLACK VERY SMALL DIAMOND,IN SQUARE,SUIT,WITH CENTRED DOT"),
  ("WHITE DOWN POINTING ", "BACKHAND INDEX,INDEX,LEFT HAND INDEX"),
  ("WHITE D", "OWN-POINTING SMALL TRIANGLE,OWN-POINTING TRIANGLE,RAUGHTS KING,RAUGHTS MAN"),
  ("WHITE ", "EXCLAMATION MARK ORNAMENT,FLAG,FLAG WITH HORIZONTAL MIDDLE BLACK STRIPE,FLORETTE"),
  ("WHITE ", "FLOWER,FOUR POINTED CUSP,FOUR POINTED STAR,FROWNING FACE,HARD SHELL FLOPPY DISK"),
  ("WHITE HEA", "RT,RT SUIT,VY CHECK MARK,VY SALTIRE WITH ROUNDED CORNERS"),
  ("WHITE ", "HEXAGON,HORIZONTAL ELLIPSE,HOURGLASS,LARGE SQUARE,LATIN CROSS,LEFT LANE MERGE"),
  ("WHITE LEFT POINTING ", "BACKHAND INDEX,INDEX"),
  ("WHITE LEFT-POINTING ", "POINTER,SMALL TRIANGLE,TRIANGLE"),
  ("WHITE ", "LOZENGE CONTAINING BLACK SMALL LOZENGE,MEDIUM DIAMOND,MEDIUM LOZENGE"),
  ("WHITE ", "MEDIUM SMALL SQUARE,MEDIUM SQUARE,MEDIUM STAR,MOON SELENA,NIB,PARALLELOGRAM,PENNANT"),
  ("WHITE ", "PENTAGON,QUESTION MARK ORNAMENT,RECTANGLE,RIGHT POINTING BACKHAND INDEX"),
  ("WHITE RIGHT", " POINTING INDEX,-POINTING PENTAGON,-POINTING POINTER,-POINTING SMALL TRIANGLE"),
  ("WHITE ", "RIGHT-POINTING TRIANGLE,SCISSORS,SESAME DOT,SHOGI PIECE"),
  ("WHITE S", "MALL LOZENGE,MALL SQUARE,MALL STAR,MILING FACE,PADE SUIT,QUARE,QUARE BUTTON"),
  ("WHITE SQUARE CONTAINING BLACK ", "MEDIUM SQUARE,SMALL SQUARE,VERY SMALL SQUARE"),
  ("WHITE SQUARE WITH ", "CENTRE VERTICAL LINE,LEFTWARDS TICK,LOWER LEFT QUADRANT"),
  ("WHITE SQUARE WITH ", "LOWER RIGHT QUADRANT,RIGHTWARDS TICK,ROUNDED CORNERS"),
  ("WHITE SQUARE WITH ", "UPPER LEFT QUADRANT,UPPER RIGHT QUADRANT,VERTICAL BISECTING LINE"),
  ("WHITE S", "TAR,UN,UN BEHIND CLOUD,UN BEHIND CLOUD WITH RAIN,UN WITH RAYS,UN WITH SMALL CLOUD"),
  ("WHITE T", "ELEPHONE,OUCHTONE TELEPHONE,RAPEZIUM,RIANGLE CONTAINING SMALL WHITE TRIANGLE"),
  ("WHITE ", "TWO-WAY LEFT WAY TRAFFIC,UP POINTING BACKHAND INDEX,UP POINTING INDEX"),
  ("WHITE UP-POINTING ", "CHEVRON,SMALL TRIANGLE,TRIANGLE,TRIANGLE WITH DOT"),
  ("WHITE VERTICAL ", "BAR,ELLIPSE,RECTANGLE"),
  ("WHITE", " VERY SMALL SQUARE,-FEATHERED RIGHTWARDS ARROW"),
  ("WIDE-HEADED DOWNWARDS ", "BARB ARROW,HEAVY BARB ARROW,LIGHT BARB ARROW"),
  ("WIDE-HEADED DOWNWARDS ", "MEDIUM BARB ARROW,VERY HEAVY BARB ARROW"),
  ("WIDE-HEADED LEFTWARDS ", "BARB ARROW,HEAVY BARB ARROW,LIGHT BARB ARROW,MEDIUM BARB ARROW"),
  ("WIDE-HEADED LEFTWARDS VERY HEAVY BARB ARROW", ""),
  ("WIDE-HEADED NORTH EAST ", "BARB ARROW,HEAVY BARB ARROW,LIGHT BARB ARROW,MEDIUM BARB ARROW"),
  ("WIDE-HEADED NORTH ", "EAST VERY HEAVY BARB ARROW,WEST BARB ARROW,WEST HEAVY BARB ARROW"),
  ("WIDE-HEADED NORTH WEST ", "LIGHT BARB ARROW,MEDIUM BARB ARROW,VERY HEAVY BARB ARROW"),
  ("WIDE-HEADED RIGHTWARDS ", "BARB ARROW,HEAVY BARB ARROW,LIGHT BARB ARROW,MEDIUM BARB ARROW"),
  ("WIDE-HEADED RIGHTWARDS VERY HEAVY BARB ARROW", ""),
  ("WIDE-HEADED SOUTH EAST ", "BARB ARROW,HEAVY BARB ARROW,LIGHT BARB ARROW,MEDIUM BARB ARROW"),
  ("WIDE-HEADED SOUTH ", "EAST VERY HEAVY BARB ARROW,WEST BARB ARROW,WEST HEAVY BARB ARROW"),
  ("WIDE-HEADED SOUTH WEST ", "LIGHT BARB ARROW,MEDIUM BARB ARROW,VERY HEAVY BARB ARROW"),
  ("WIDE-HEADED UPWARDS ", "BARB ARROW,HEAVY BARB ARROW,LIGHT BARB ARROW,MEDIUM BARB ARROW"),
  ("WI", "DE-HEADED UPWARDS VERY HEAVY BARB ARROW,GGLY VERTICAL LINE,LTED FLOWER,ND BLOWING FACE"),
  ("W", "IND CHIME,INDOW,INE GLASS,INKING FACE,IRED KEYBOARD,J,OLF FACE"),
  ("WOMAN", ", WITH BUNNY EARS,S BOOTS,S CLOTHES,S HAT,S SANDAL"),
  ("WO", "MENS SYMBOL,N SIGN,OD,RD JOINER,RD SEPARATOR MIDDLE DOT,RLD MAP,RM,RRIED FACE"),
  ("WR", "APPED PRESENT,EATH PRODUCT,ENCH,ESTLERS,ITING HAND"),
  ("X", " IN A RECTANGLE BOX,-RAY"),
  ("XIANGQI BLACK ", "CANNON,CHARIOT,ELEPHANT,GENERAL,HORSE,MANDARIN,SOLDIER"),
  ("XIANGQI RED ", "CANNON,CHARIOT,ELEPHANT,GENERAL,HORSE,MANDARIN,SOLDIER"),
  ("XOR", ""),
  ("Y", "AWNING FACE,ELLOW HEART,EN SIGN"),
  ("YEZIDI ", "COMBINING HAMZA MARK,COMBINING MADDA MARK,HYPHENATION MARK"),
  ("YEZIDI LETTER ", "BE,CHHIM,CHIM,CIM,DAD,DAL,ELIF,ET,EW,EYN,FA,GAF,HAY,HHA,JA,KAF,KHAF,LAM"),
  ("YEZIDI LETTER ", "LAM WITH DOT ABOVE,MIM,NUN,OW,PE,PHE,QAF,RA,RHA,SAD,SE,SHIN,SIN,TA,THE,UM"),
  ("YEZIDI LETTER ", "VA,VA ALTERNATE FORM,WAW,XA,XHEYN,YOT,YOT WITH CIRCUMFLEX ABOVE,ZA,ZAL,ZE"),
  ("YI RADICAL ", "BBUT,BUR,CHE,CIP,CUOP,CY,CYP,CYT,DDUR,DU,GA,GEP,GGOP,GGUO,GOT,HMO,HXIT,HXOP"),
  ("YI RADICAL ", "HXUO,JJIE,JJUT,JJY,JO,KE,KIT,LI,LIE,LYR,MI,MOP,NBIE,NYIP,NYOP,NZUP,OP,PUT,PYT"),
  ("YI RADICAL ", "QOT,SHAT,SHOP,SHUR,SHY,SSI,TAT,TU,VEP,VUR,WO,YIT,YO,ZA,ZOT,ZUP,ZUR,ZZIET"),
  ("YI SYLLABLE ", "A,AP,AT,AX,BA,BAP,BAT,BAX,BBA,BBAP,BBAT,BBAX"),
  ("YI SYLLABLE BB", "E,EP,EX,I,IE,IEP,IET,IEX,IP,IT,IX,O,OP,OT,OX,U,UO,UOP,UOX,UP,UR,URX,UT,UX,Y"),
  ("YI SYLLABLE B", "BYP,BYT,BYX,E,EP,EX,I,IE,IEP,IET,IEX,IP,IT,IX,O,OP,OT,OX,U,UO,UOP,UOX,UP,UR"),
  ("YI SYLLABLE ", "BURX,BUT,BUX,BY,BYP,BYR,BYRX,BYT,BYX,CA,CAP,CAT,CAX,CE,CEP,CEX,CHA,CHAP"),
  ("YI SYLLABLE CH", "AT,AX,E,EP,ET,EX,O,OP,OT,OX,U,UO,UOP,UOT,UOX,UP,UR,URX,UX,Y,YP,YR,YRX,YT,YX"),
  ("YI SYLLABLE C", "I,IE,IEP,IET,IEX,IP,IT,IX,O,OP,OT,OX,U,UO,UOP,UOX,UP,UR,URX,UT,UX,Y,YP,YR"),
  ("YI SYLLABLE ", "CYRX,CYT,CYX,DA,DAP,DAT,DAX"),
  ("YI SYLLABLE DD", "A,AP,AT,AX,E,EP,EX,I,IE,IEP,IEX,IP,IT,IX,O,OP,OT,OX,U,UO,UOP,UOX,UP,UR,URX"),
  ("YI SYLLABLE D", "DUT,DUX,E,EP,EX,I,IE,IEP,IEX,IP,IT,IX,O,OP,OT,OX,U,UO,UOX,UP,UR,URX,UT,UX"),
  ("YI SYLLABLE ", "E,EX,FA,FAP,FAT,FAX,FI,FIP,FIT,FIX,FO,FOP,FOX,FU,FUP,FUR,FURX,FUT,FUX,FY,FYP"),
  ("YI SYLLABLE ", "FYT,FYX,GA,GAP,GAT,GAX,GE,GEP,GET,GEX,GGA,GGAP,GGAT"),
  ("YI SYLLABLE GG", "AX,E,EP,ET,EX,I,IE,IEP,IEX,IT,IX,O,OP,OT,OX,U,UO,UOP,UOT,UOX,UP,UR,URX,UT"),
  ("YI SYLLABLE G", "GUX,I,IE,IEP,IET,IEX,IP,IT,IX,O,OP,OT,OX,U,UO,UOP,UOT,UOX,UP,UR,URX,UT,UX"),
  ("YI SYLLABLE H", "A,AP,AT,AX,E,EP,EX,IE,IEX,IT,LA,LAP,LAT,LAX,LE,LEP,LEX,LI"),
  ("YI SYLLABLE HL", "IE,IEP,IEX,IP,IT,IX,O,OP,OX,U,UO,UOP,UOX,UP,UR,URX,UT,UX,Y,YP,YR,YRX,YT,YX"),
  ("YI SYLLABLE HM", "A,AP,AT,AX,I,IE,IEP,IEX,IP,IT,IX,O,OP,OT,OX,U,UO,UOP,UOX,UP,UR,URX,UT,UX,Y"),
  ("YI SYLLABLE H", "MYP,MYR,MYRX,MYX,NA,NAP,NAT,NAX,NE,NEP,NEX,NI,NIE,NIEP,NIET,NIEX,NIP,NIT"),
  ("YI SYLLABLE H", "NIX,NOP,NOT,NOX,NUO,NUOX,NUT,O,OP,OT,OX,UO,UOP,UOT,UOX"),
  ("YI SYLLABLE HX", "A,AP,AT,AX,E,EP,EX,I,IE,IEP,IET,IEX,IP,IT,IX,O,OP,OT,OX,UO,UOP,UOT,UOX"),
  ("YI SYLLABLE ", "I,IE,IEP,IET,IEX,IP,IT,ITERATION MARK,IX,JI,JIE,JIEP,JIET,JIEX,JIP,JIT,JIX"),
  ("YI SYLLABLE JJ", "I,IE,IEP,IET,IEX,IP,IT,IX,O,OP,OT,OX,U,UO,UOP,UOX,UP,UR,URX,UT,UX,Y,YP,YT"),
  ("YI SYLLABLE J", "JYX,O,OP,OT,OX,U,UO,UOP,UOT,UOX,UP,UR,URX,UT,UX,Y,YP,YR,YRX,YT,YX"),
  ("YI SYLLABLE K", "A,AP,AT,AX,E,EP,ET,EX,I,IE,IEP,IEX,IP,IT,IX,O,OP,OT,OX,U,UO,UOP,UOX,UP,UR"),
  ("YI SYLLABLE ", "KURX,KUT,KUX,LA,LAP,LAT,LAX,LE,LEP,LEX,LI,LIE,LIEP,LIET"),
  ("YI SYLLABLE L", "IEX,IP,IT,IX,O,OP,OT,OX,U,UO,UOP,UOT,UOX,UP,UR,URX,UT,UX,Y,YP,YR,YRX,YT,YX"),
  ("YI SYLLABLE M", "A,AP,AT,AX,E,EX,GA,GAP,GAT,GAX,GE,GEP,GEX,GIE,GIEX,GO,GOP,GOT,GOX,GU,GUO"),
  ("YI SYLLABLE M", "GUOP,GUOX,GUP,GUR,GURX,GUT,GUX,I,IE,IEP,IEX,IP,IT,IX,O,OP,OT,OX,U,UO,UOP,UOT"),
  ("YI SYLLABLE ", "MUOX,MUP,MUR,MURX,MUT,MUX,MY,MYP,MYT,MYX,NA,NAP,NAX,NBA,NBAP"),
  ("YI SYLLABLE NB", "AT,AX,I,IE,IEP,IEX,IP,IT,IX,O,OP,OT,OX,U,UP,UR,URX,UT,UX,Y,YP,YR,YRX,YT,YX"),
  ("YI SYLLABLE ND", "A,AP,AT,AX,E,EP,EX,I,IE,IEX,IP,IT,IX,O,OP,OT,OX,U,UP,UR,URX,UT,UX"),
  ("YI SYLLABLE N", "E,EP,EX,GA,GAP,GAT,GAX,GE,GEP,GEX,GIE,GIEP,GIEX,GO,GOP,GOT,GOX,GUO,GUOT,GUOX"),
  ("YI SYLLABLE N", "I,IE,IEP,IEX,IP,IT,IX,JI,JIE,JIEP,JIET,JIEX,JIP,JIT,JIX,JO,JOP,JOT,JOX"),
  ("YI SYLLABLE N", "JU,JUO,JUOX,JUP,JUR,JURX,JUX,JY,JYP,JYR,JYRX,JYT,JYX,O,OP,OT,OX"),
  ("YI SYLLABLE NR", "A,AP,AT,AX,E,EP,ET,EX,O,OP,OX,U,UP,UR,URX,UT,UX,Y,YP,YR,YRX,YT,YX"),
  ("YI SYLLABLE NU", ",O,OP,OX,P,R,RX,T,X"),
  ("YI SYLLABLE NY", "I,IE,IEP,IET,IEX,IP,IT,IX,O,OP,OT,OX,U,UO,UOP,UOX,UP,UT,UX"),
  ("YI SYLLABLE NZ", "A,AP,AT,AX,E,EX,I,IE,IEP,IEX,IP,IT,IX,OP,OX,U,UO,UOX,UP,UR,URX,UX,Y,YP,YR"),
  ("YI SYLLABLE ", "NZYRX,NZYT,NZYX,O,OP,OT,OX,PA,PAP,PAT,PAX,PI,PIE"),
  ("YI SYLLABLE P", "IEP,IEX,IP,IT,IX,O,OP,OT,OX,U,UO,UOP,UOX,UP,UR,URX,UT,UX,Y,YP,YR,YRX,YT,YX"),
  ("YI SYLLABLE Q", "I,IE,IEP,IET,IEX,IP,IT,IX,O,OP,OT,OX,U,UO,UOP,UOT,UOX,UP,UR,URX,UT,UX,Y,YP"),
  ("YI SYLLABLE ", "QYR,QYRX,QYT,QYX,RA,RAP,RAT,RAX,RE,REP,REX,RO,ROP,ROT,ROX"),
  ("YI SYLLABLE RR", "A,AX,E,EP,ET,EX,O,OP,OT,OX,U,UO,UOX,UP,UR,URX,UT,UX,Y,YP,YR,YRX,YT,YX"),
  ("YI SYLLABLE ", "RU,RUO,RUOP,RUOX,RUP,RUR,RURX,RUT,RUX,RY,RYP,RYR,RYRX,RYT,RYX,SA,SAP,SAT"),
  ("YI SYLLABLE S", "AX,E,EP,EX,HA,HAP,HAT,HAX,HE,HEP,HET,HEX,HO,HOP,HOT,HOX,HU,HUO,HUOP,HUOX,HUP"),
  ("YI SYLLABLE S", "HUR,HURX,HUT,HUX,HY,HYP,HYR,HYRX,HYT,HYX,I,IE,IEP,IEX,IP,IT,IX,O,OP,OT,OX,SA"),
  ("YI SYLLABLE SS", "AP,AT,AX,E,EP,EX,I,IE,IEP,IEX,IP,IT,IX,O,OP,OT,OX,U,UP,UT,UX,Y,YP,YR,YRX,YT"),
  ("YI SYLLABLE S", "SYX,U,UO,UOP,UOX,UP,UR,URX,UT,UX,Y,YP,YR,YRX,YT,YX"),
  ("YI SYLLABLE T", "A,AP,AT,AX,E,EP,EX,I,IE,IEP,IEX,IP,IT,IX,O,OP,OT,OX,U,UO,UOP,UOT,UOX,UP,UR"),
  ("YI SYLLABLE ", "TURX,TUT,TUX,UO,UOP,UOX,VA,VAP,VAT,VAX,VEP"),
  ("YI SYLLABLE V", "EX,I,IE,IEP,IET,IEX,IP,IT,IX,O,OP,OT,OX,U,UP,UR,URX,UT,UX,Y,YP,YR,YRX,YT,YX"),
  ("YI SYLLABLE ", "WA,WAP,WAT,WAX,WE,WEP,WEX,WO,WOP,WOX,WU,WUO,WUOP,WUOX,XI,XIE,XIEP,XIET,XIEX"),
  ("YI SYLLABLE ", "XIP,XIT,XIX,XO,XOP,XOT,XOX,XUO,XUOX,XY,XYP,XYR,XYRX,XYT,XYX,YI,YIE,YIEP,YIET"),
  ("YI SYLLABLE Y", "IEX,IP,IT,IX,O,OP,OT,OX,U,UO,UOP,UOT,UOX,UP,UR,URX,UT,UX,Y,YP,YR,YRX,YT,YX"),
  ("YI SYLLABLE Z", "A,AP,AT,AX,E,EP,EX,HA,HAP,HAT,HAX,HE,HEP,HET,HEX,HO,HOP,HOT,HOX,HU,HUO,HUOP"),
  ("YI SYLLABLE Z", "HUOX,HUP,HUR,HURX,HUT,HUX,HY,HYP,HYR,HYRX,HYT,HYX,I,IE,IEP,IEX,IP,IT,IX,O,OP"),
  ("YI SYLLABLE Z", "OT,OX,U,UO,UOP,UOX,UP,UR,URX,UT,UX,Y,YP,YR,YRX,YT,YX,ZA,ZAP,ZAT,ZAX"),
  ("YI SYLLABLE ZZ", "E,EP,EX,I,IE,IEP,IET,IEX,IP,IT,IX,O,OP,OX,U,UP,UR,URX,UX,Y,YP,YR,YRX,YT,YX"),
  ("Y", "IN YANG,O-YO"),
  ("Z NOTATION ", "BAG MEMBERSHIP,DOMAIN ANTIRESTRICTION,LEFT BINDING BRACKET,LEFT IMAGE BRACKET"),
  ("Z NOTATION R", "ANGE ANTIRESTRICTION,ELATIONAL COMPOSITION,IGHT BINDING BRACKET"),
  ("Z NOTATION ", "RIGHT IMAGE BRACKET,SCHEMA COMPOSITION,SCHEMA PIPING,SCHEMA PROJECTION,SPOT"),
  ("Z", " NOTATION TYPE COLON,ANABAZAR SQUARE CLOSING DOUBLE-LINED HEAD MARK"),
  ("ZANABAZAR SQUARE CL", "OSING HEAD MARK,USTER-FINAL LETTER LA,USTER-FINAL LETTER RA"),
  ("ZANABAZAR SQUARE CLUSTER-", "FINAL LETTER VA,FINAL LETTER YA,INITIAL LETTER RA"),
  ("ZANABAZAR SQUARE ", "FINAL CONSONANT MARK,INITIAL DOUBLE-LINED HEAD MARK,INITIAL HEAD MARK"),
  ("ZANABAZAR SQUARE LETTER ", "-A,A,BA,BHA,CA,CHA,DA,DDA,DDHA,DHA,DZA,DZHA,GA,GHA,HA,JA,KA"),
  ("ZANABAZAR SQUARE LETTER ", "KHA,KSSA,LA,MA,NA,NGA,NNA,NYA,PA,PHA,RA,SA,SHA,SSA"),
  ("ZANABAZAR SQUARE LETTER ", "TA,THA,TSA,TSHA,TTA,TTHA,VA,YA,ZA,ZHA"),
  ("ZANABAZAR SQUARE MARK ", "DOUBLE SHAD,LONG TSHEG,SHAD,TSHEG"),
  ("ZANABAZAR SQUARE SIGN ", "ANUSVARA,CANDRA WITH ORNAMENT,CANDRABINDU,CANDRABINDU WITH ORNAMENT"),
  ("ZANABAZAR SQUARE ", "SIGN VIRAMA,SIGN VISARGA,SUBJOINER,VOWEL LENGTH MARK"),
  ("ZANABAZAR SQUARE VOWEL SIGN ", "AI,AU,E,I,O,OE,REVERSED I,U,UE"),
  ("ZE", "BRA FACE,RO WIDTH JOINER,RO WIDTH NO-BREAK SPACE,RO WIDTH NON-JOINER,RO WIDTH SPACE,US"),
  ("ZIPPER-MOUTH FACE", ""),
  ("ZNAMENNY COMBINING ", "ATTACHING VERTICAL OMET,LOWER TONAL RANGE INDICATOR"),
  ("ZNAMENNY COMBINING MARK ", "BORZAYA,CHASHKA,CHASHKA POLNAYA,CURVED OMET,DEMESTVENNY ZADERZHKA"),
  ("ZNAMENNY COMBINING MARK ", "DVOETOCHIE,GORAZDO NIZKO ON LEFT"),
  ("ZNAMENNY COMBINING MARK GORAZDO NIZKO ", "ON RIGHT,S KRYZHEM ON LEFT,S KRYZHEM ON RIGHT"),
  ("ZNAMENNY COMBINING MARK ", "GORAZDO VYSOKO,KACHKA,KRYZH,KRYZH ON LEFT,KUPNAYA,LOMKA"),
  ("ZNAMENNY COMBINING MARK MALO POVYSHE ", "ON LEFT,ON RIGHT,S KHOKHLOM ON LEFT"),
  ("ZNAMENNY COMBINING MARK MALO POVYSHE S", " KHOKHLOM ON RIGHT, KRYZHEM,TRANNO"),
  ("ZNAMENNY COMBINING MARK NIZKO ", "ON LEFT,ON RIGHT,S KRYZHEM ON LEFT,S KRYZHEM ON RIGHT"),
  ("ZNAMENNY COMBINING MARK ", "OBLACHKO,ON,OTSECHKA,PODCHASHIE,PODCHASHIE WITH VERTICAL STROKE"),
  ("ZNAMENNY COMBINING MARK PO", "DVERTKA,VYSHE ON LEFT,VYSHE ON RIGHT"),
  ("ZNAMENNY COMBINING MARK POVYSHE S", " KHOKHLOM ON LEFT, KHOKHLOM ON RIGHT, KRYZHEM,TRANNO"),
  ("ZNAMENNY COMBINING MARK ", "RAVNO,RAZSEKA,SKOBA,SOROCHYA NOZHKA,SREDNE ON LEFT"),
  ("ZNAMENNY COMBINING MARK ", "SREDNE ON RIGHT,STRANNO MALO POVYSHE,TIKHAYA,TOCHKA,TSATA ON LEFT"),
  ("ZNAMENNY COMBINING MARK ", "TSATA ON RIGHT,TSATA S KRYZHEM,UDARKA,VYSOKO ON LEFT"),
  ("ZNAMENNY COMBINING MARK VYSOKO ", "ON RIGHT,S KHOKHLOM ON LEFT,S KHOKHLOM ON RIGHT,S KRYZHEM"),
  ("ZNAMENNY COMBINING MARK Z", "ADERZHKA,ELO,EVOK"),
  ("ZNAMENNY COMBINING TONAL RANGE MARK ", "MRACHNO,SVETLO,TRESVETLO"),
  ("ZNAMENNY NEUME ", "CHASHKA,CHELYUSTKA,DEMESTVENNY KLYUCH,DERBITSA,DOUBLE ZAPYATAYA,DUDA"),
  ("ZNAMENNY NEUME ", "DVA V CHELNU,FITA,GOLUBCHIK BORZY,GOLUBCHIK MRACHNY,GOLUBCHIK SVETLY"),
  ("ZNAMENNY NEUME ", "GOLUBCHIK TIKHY,GOLUBCHIK TRESVETLY,KHAMILO,KLYUCH,KOBYLA,KRYUK"),
  ("ZNAMENNY NEUME ", "KRYUK TIKHY,KRYZH,KUFISMA,MECHIK,MECHIK KLYUCHENEPOSTOYANNY"),
  ("ZNAMENNY NEUME ", "MECHIK KLYUCHEPOVODNY,MECHIK KLYUCHEVOY,MECHIK POVODNY,NEMKA,OBLAKO,OSOKA"),
  ("ZNAMENNY NEUME OSOKA K", "LYUCHEVAYA NEPOSTOYANNAYA,LYUCHEVAYA SVETLAYA,RYUKOVAYA SVETLAYA"),
  ("ZNAMENNY NEUME ", "OSOKA SVETLAYA,OSOKA TRESVETLAYA,PALKA,PARAKLIT,PAUK,PEREVODKA"),
  ("ZNAMENNY NEUME ", "PEREVODKA NEPOSTOYANNAYA,PODCHASHIE,POLKULIZMY,REVERSED CHELYUSTKA,ROG"),
  ("ZNAMENNY NEUME SKAMEYTSA DVOECHELNAYA ", "KLYUCHEVAYA,NEPOSTOYANNAYA,PROSTAYA,SVETLAYA"),
  ("ZNAMENNY NEUME SKAMEYTSA KLYUCHE", "NEPOSTOYANNAYA,VAYA SVETLAYA,VAYA TIKHAYA"),
  ("ZNAMENNY NEUME SKAMEYTSA ", "MRACHNAYA,SVETLAYA,TIKHAYA,TRESVETLAYA"),
  ("ZNAMENNY NEUME SLOZHITIE", ", S KRYZHEM, S ZAPYATOY, ZAKRYTOE"),
  ("ZNAMENNY NEUME STATYA", ", NEPOSTOYANNAYA, S DVUMYA ZAPYATYMI"),
  ("ZNAMENNY NEUME STATYA S ", "KRYZHEM,KRYZHEM I ZAPYATOY,ROGOM,ZAPYATOY,ZAPYATOY I KRYZHEM"),
  ("ZNAMENNY NEUME STATYA ", "S ZAPYATOY I PODCHASHIEM,ZAKRYTAYA,ZAKRYTAYA S ZAPYATOY"),
  ("ZNAMENNY NEUME STOPITSA", ", S OCHKOM, WITH SOROCHYA NOZHKA"),
  ("ZNAMENNY NEUME STRELA DVOECHELN", "AYA,AYA KLYUCHEVAYA,OKRYZHEVAYA,OPOVODNAYA"),
  ("ZNAMENNY NEUME STRELA ", "DVOECHELNOPOVODNAYA KLYUCHEVAYA,GROMNAYA"),
  ("ZNAMENNY NEUME STRELA GROM", "NAYA WITH SINGLE ZAPYATAYA,OKRYZHEVAYA,OKRYZHEVAYA POVODNAYA"),
  ("ZNAMENNY NEUME STRELA GROMOPOVODNAYA", ", WITH DOUBLE ZAPYATAYA, WITH SINGLE ZAPYATAYA"),
  ("ZNAMENNY NEUME STRELA KLYUCHE", "NEPOSTOYANNAYA,POVODNAYA"),
  ("ZNAMENNY NEUME STRELA KRYUKOVAYA", ", GROMNAYA, GROMNAYA WITH SINGLE ZAPYATAYA"),
  ("ZNAMENNY NEUME STRELA KRYUKOVAYA GROMO", "KRYZHEVAYA,KRYZHEVAYA POVODNAYA,POVODNAYA"),
  ("ZNAMENNY NEUME STRELA KRYUKOVAYA GROMOPOVODNAYA WITH ", "DOUBLE ZAPYATAYA,SINGLE ZAPYATAYA"),
  ("ZNAMENNY NEUME STRELA ", "KRYUKOVAYA POVODNAYA,KRYUKOVAYA TRYASKA,KRYZHEVAYA,MRACHNOTIKHAYA"),
  ("ZNAMENNY NEUME STRELA ", "NEPOSTOYANNAYA,POLUPOVODNAYA,POVODNAYA,PROSTAYA,TIKHAYA PUTNAYA"),
  ("ZNAMENNY NEUME STRELA TRYASO", "GLASNAYA,POVODNAYA,STRELNAYA"),
  ("ZNAMENNY NEUME VRAKHIYA KLYUCHEVAYA ", "MRACHNAYA,PROSTAYA,SVETLAYA,TRESVETLAYA"),
  ("ZNAMENNY NEUME VRAKHIYA ", "MRACHNAYA,PROSTAYA,SVETLAYA,TRESVETLAYA"),
  ("ZNAMENNY NEUME Z", "ANOZHEK,APYATAYA,MEYTSA"),
  ("ZNAMENNY PRIZNAK MODIFIER ", "DIRECTION FLIP,KRYZH,LEVEL-2,LEVEL-3,ROG"),
  ("Z", "OMBIE,WJ,WNBSP,WNJ,WSP")]

end ModelBindings.Text.CharacterName
