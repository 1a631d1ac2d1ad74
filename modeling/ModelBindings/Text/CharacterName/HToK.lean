/-!
# Character names that start with the letters from H to K
-/

set_option autoImplicit false

namespace ModelBindings.Text.CharacterName

/-- The character names that start with the letters from H to K, in groups. -/
def namesHToK : List (String × String) := [
  ("HA", "DES,IR SPACE,IRCUT"),
  ("HALFWIDTH ", "BLACK SQUARE,DOWNWARDS ARROW,FORMS LIGHT VERTICAL,HANGUL FILLER,HANGUL LETTER A"),
  ("HALFWIDTH HANGUL LETTER ", "AE,CHIEUCH,CIEUC,E,EO,EU,HIEUH,I,IEUNG,KHIEUKH,KIYEOK,KIYEOK-SIOS"),
  ("HALFWIDTH HANGUL LETTER ", "MIEUM,NIEUN,NIEUN-CIEUC,NIEUN-HIEUH,O,OE,PHIEUPH,PIEUP,PIEUP-SIOS"),
  ("HALFWIDTH HANGUL LETTER RIEUL", ",-HIEUH,-KIYEOK,-MIEUM,-PHIEUPH,-PIEUP,-SIOS,-THIEUTH"),
  ("HALFWIDTH HANGUL LETTER S", "IOS,SANGCIEUC,SANGKIYEOK,SANGPIEUP,SANGSIOS,SANGTIKEUT"),
  ("HALFWIDTH HANGUL LETTER ", "THIEUTH,TIKEUT,U,WA,WAE,WE,WEO,WI,YA,YAE,YE,YEO,YI,YO,YU"),
  ("HALFWIDTH IDEOGRAPHIC ", "COMMA,FULL STOP"),
  ("HALFWIDTH KATAKANA LETTER ", "A,E,HA,HE,HI,HO,HU,I,KA,KE,KI,KO,KU,MA,ME,MI,MO,MU,N,NA,NE"),
  ("HALFWIDTH KATAKANA LETTER ", "NI,NO,NU,O,RA,RE,RI,RO,RU,SA,SE,SI"),
  ("HALFWIDTH KATAKANA LETTER SMALL ", "A,E,I,O,TU,U,YA,YO,YU"),
  ("HALFWIDTH KATAKANA LETTER ", "SO,SU,TA,TE,TI,TO,TU,U,WA,WO,YA,YO,YU"),
  ("HALFWIDTH KATAKANA ", "MIDDLE DOT,SEMI-VOICED SOUND MARK,VOICED SOUND MARK"),
  ("HALFWIDTH ", "KATAKANA-HIRAGANA PROLONGED SOUND MARK,LEFT CORNER BRACKET,LEFTWARDS ARROW"),
  ("HALFWIDTH ", "RIGHT CORNER BRACKET,RIGHTWARDS ARROW,UPWARDS ARROW,WHITE CIRCLE"),
  ("HAM", "BURGER,MER,MER AND PICK,MER AND SICKLE,MER AND WRENCH,SA,STER FACE"),
  ("HAND WITH INDEX ", "AND MIDDLE FINGERS CROSSED,FINGER AND THUMB CROSSED"),
  ("HAND", "BAG,BALL,SHAKE"),
  ("HANGUL CHOSEONG CEONGCHIEUM", "CHIEUCH,CIEUC,SIOS,SSANGCIEUC,SSANGSIOS"),
  ("HANGUL CHOSEONG CHIEUCH", ",-HIEUH,-KHIEUKH"),
  ("HANGUL CHOSEONG CHITUEUM", "CHIEUCH,CIEUC,SIOS,SSANGCIEUC,SSANGSIOS"),
  ("HANGUL CHOSEONG ", "CIEUC,CIEUC-IEUNG,FILLER,HIEUH,HIEUH-SIOS,IEUNG,IEUNG-CHIEUCH,IEUNG-CIEUC"),
  ("HANGUL CHOSEONG IEUNG-", "HIEUH,KIYEOK,MIEUM,PANSIOS,PHIEUPH,PIEUP,RIEUL,SIOS,THIEUTH,TIKEUT"),
  ("HANGUL CHOSEONG KAPYEOUN", "MIEUM,PHIEUPH,PIEUP,RIEUL,SSANGPIEUP"),
  ("HANGUL CHOSEONG ", "KHIEUKH,KIYEOK,KIYEOK-TIKEUT,MIEUM,MIEUM-KIYEOK,MIEUM-PIEUP,MIEUM-SIOS"),
  ("HANGUL CHOSEONG ", "MIEUM-TIKEUT,NIEUN,NIEUN-CIEUC,NIEUN-HIEUH,NIEUN-KIYEOK,NIEUN-PIEUP"),
  ("HANGUL CHOSEONG ", "NIEUN-SIOS,NIEUN-TIKEUT,PANSIOS,PHIEUPH,PHIEUPH-HIEUH,PHIEUPH-PIEUP,PIEUP"),
  ("HANGUL CHOSEONG PIEUP-", "CHIEUCH,CIEUC,HIEUH,KHIEUKH,KIYEOK,NIEUN,PHIEUPH,SIOS,SIOS-CIEUC"),
  ("HANGUL CHOSEONG PIEUP-", "SIOS-KIYEOK,SIOS-PIEUP,SIOS-THIEUTH,SIOS-TIKEUT,SSANGSIOS,THIEUTH"),
  ("HANGUL CHOSEONG ", "PIEUP-TIKEUT,RIEUL,RIEUL-CIEUC,RIEUL-HIEUH,RIEUL-KAPYEOUNPIEUP"),
  ("HANGUL CHOSEONG RIEUL-", "KHIEUKH,KIYEOK,MIEUM,NIEUN,PIEUP,SIOS,SSANGKIYEOK,SSANGPIEUP"),
  ("HANGUL CHOSEONG ", "RIEUL-SSANGTIKEUT,RIEUL-TIKEUT,SIOS,SIOS-CHIEUCH,SIOS-CIEUC"),
  ("HANGUL CHOSEONG SIOS-", "HIEUH,IEUNG,KHIEUKH,KIYEOK,MIEUM,NIEUN,PHIEUPH,PIEUP,PIEUP-KIYEOK"),
  ("HANGUL CHOSEONG S", "IOS-RIEUL,IOS-SSANGSIOS,IOS-THIEUTH,IOS-TIKEUT,SANGCIEUC,SANGCIEUC-HIEUH"),
  ("HANGUL CHOSEONG SSANG", "HIEUH,IEUNG,KIYEOK,NIEUN,PIEUP,RIEUL,SIOS,SIOS-PIEUP,THIEUTH,TIKEUT"),
  ("HANGUL CHOSEONG ", "SSANGYEORINHIEUH,THIEUTH,TIKEUT,TIKEUT-CIEUC,TIKEUT-KIYEOK,TIKEUT-MIEUM"),
  ("HANGUL CHOSEONG ", "TIKEUT-PIEUP,TIKEUT-RIEUL,TIKEUT-SIOS,YEORINHIEUH,YESIEUNG"),
  ("HANGUL ", "DOUBLE DOT TONE MARK,FILLER,JONGSEONG CHIEUCH,JONGSEONG CIEUC"),
  ("HANGUL JONGSEONG ", "CIEUC-PIEUP,CIEUC-SSANGPIEUP,HIEUH,HIEUH-MIEUM,HIEUH-NIEUN,HIEUH-PIEUP"),
  ("HANGUL JONGSEONG ", "HIEUH-RIEUL,IEUNG,IEUNG-KHIEUKH,IEUNG-KIYEOK,IEUNG-SSANGKIYEOK"),
  ("HANGUL JONGSEONG K", "APYEOUNMIEUM,APYEOUNPHIEUPH,APYEOUNPIEUP,APYEOUNRIEUL,HIEUKH,IYEOK"),
  ("HANGUL JONGSEONG KIYEOK-", "CHIEUCH,HIEUH,KHIEUKH,NIEUN,PIEUP,RIEUL,SIOS,SIOS-KIYEOK"),
  ("HANGUL JONGSEONG MIEUM", ",-CHIEUCH,-CIEUC,-HIEUH,-KIYEOK"),
  ("HANGUL JONGSEONG MIEUM-", "NIEUN,PANSIOS,PIEUP,PIEUP-SIOS,RIEUL,SIOS,SSANGNIEUN,SSANGSIOS"),
  ("HANGUL JONGSEONG NIEUN", ",-CHIEUCH,-CIEUC,-HIEUH,-KIYEOK,-PANSIOS,-RIEUL,-SIOS,-THIEUTH"),
  ("HANGUL JONGSEONG ", "NIEUN-TIKEUT,PANSIOS,PANSIOS-KAPYEOUNPIEUP,PANSIOS-PIEUP,PHIEUPH"),
  ("HANGUL JONGSEONG P", "HIEUPH-PIEUP,HIEUPH-SIOS,HIEUPH-THIEUTH,IEUP,IEUP-CHIEUCH,IEUP-CIEUC"),
  ("HANGUL JONGSEONG PIEUP-", "HIEUH,MIEUM,PHIEUPH,RIEUL,RIEUL-PHIEUPH,SIOS,SIOS-TIKEUT,TIKEUT"),
  ("HANGUL JONGSEONG RIEUL", ",-HIEUH,-KAPYEOUNPIEUP,-KHIEUKH,-KIYEOK,-KIYEOK-HIEUH,-KIYEOK-SIOS"),
  ("HANGUL JONGSEONG RIEUL-", "MIEUM,MIEUM-HIEUH,MIEUM-KIYEOK,MIEUM-SIOS,NIEUN,PANSIOS,PHIEUPH"),
  ("HANGUL JONGSEONG RIEUL-PIEUP", ",-HIEUH,-PHIEUPH,-SIOS,-TIKEUT"),
  ("HANGUL JONGSEONG RIEUL-", "SIOS,SSANGKIYEOK,SSANGSIOS,THIEUTH,TIKEUT,TIKEUT-HIEUH,YEORINHIEUH"),
  ("HANGUL JONGSEONG ", "RIEUL-YEORINHIEUH-HIEUH,RIEUL-YESIEUNG,SIOS,SIOS-CHIEUCH,SIOS-CIEUC"),
  ("HANGUL JONGSEONG SIOS-", "HIEUH,KAPYEOUNPIEUP,KIYEOK,MIEUM,PANSIOS,PIEUP,RIEUL,THIEUTH,TIKEUT"),
  ("HANGUL JONGSEONG SSANG", "CIEUC,IEUNG,KIYEOK,MIEUM,NIEUN,PIEUP,RIEUL,RIEUL-KHIEUKH,SIOS"),
  ("HANGUL JONGSEONG SSANG", "SIOS-KIYEOK,SIOS-TIKEUT,TIKEUT,TIKEUT-PIEUP,YESIEUNG"),
  ("HANGUL JONGSEONG T", "HIEUTH,IKEUT,IKEUT-CHIEUCH,IKEUT-CIEUC,IKEUT-KIYEOK,IKEUT-PIEUP"),
  ("HANGUL JONGSEONG ", "TIKEUT-RIEUL,TIKEUT-SIOS,TIKEUT-SIOS-KIYEOK,TIKEUT-THIEUTH,YEORINHIEUH"),
  ("HANGUL JONGSEONG YESIEUNG", ",-HIEUH,-KHIEUKH,-KIYEOK,-MIEUM,-PANSIOS,-SIOS,-SSANGKIYEOK"),
  ("HANGUL JUNGSEONG A", ",-EU,-O,-U,E,RAEA,RAEA-A,RAEA-E,RAEA-EO,RAEA-I,RAEA-U"),
  ("HANGUL JUNGSEONG ", "E,EO,EO-EU,EO-O,EO-U,EU,EU-A,EU-E,EU-EO,EU-EU,EU-O,EU-U,FILLER,I"),
  ("HANGUL JUNGSEONG I-", "A,ARAEA,EU,I,O,O-I,U,YA,YA-O,YAE,YE,YEO,YO,YU"),
  ("HANGUL JUNGSEONG ", "O,O-E,O-EO,O-O,O-O-I,O-U,O-YA,O-YAE,O-YE,O-YEO,OE,SSANGARAEA,U,U-A,U-AE"),
  ("HANGUL JUNGSEONG ", "U-EO-EU,U-I-I,U-U,U-YE,U-YEO,WA,WAE,WE,WEO,WI,YA,YA-O,YA-U,YA-YO,YAE"),
  ("HANGUL JUNGSEONG Y", "E,EO,EO-O,EO-U,EO-YA,I,I-U,O,O-A,O-AE,O-EO,O-I,O-O,O-YA,O-YAE,O-YEO,U"),
  ("HANGUL JUNGSEONG YU-", "A,AE,E,EO,I,O,U,YE,YEO"),
  ("HANGUL LETTER ", "A,AE,ARAEA,ARAEAE,CHIEUCH,CIEUC,E,EO,EU,HIEUH,I,IEUNG,KAPYEOUNMIEUM"),
  ("HANGUL LETTER K", "APYEOUNPHIEUPH,APYEOUNPIEUP,APYEOUNSSANGPIEUP,HIEUKH,IYEOK,IYEOK-SIOS"),
  ("HANGUL LETTER ", "MIEUM,MIEUM-PANSIOS,MIEUM-PIEUP,MIEUM-SIOS,NIEUN,NIEUN-CIEUC,NIEUN-HIEUH"),
  ("HANGUL LETTER ", "NIEUN-PANSIOS,NIEUN-SIOS,NIEUN-TIKEUT,O,OE,PANSIOS,PHIEUPH,PIEUP"),
  ("HANGUL LETTER PIEUP-", "CIEUC,KIYEOK,SIOS,SIOS-KIYEOK,SIOS-TIKEUT,THIEUTH,TIKEUT"),
  ("HANGUL LETTER RIEUL", ",-HIEUH,-KIYEOK,-KIYEOK-SIOS,-MIEUM"),
  ("HANGUL LETTER RIEUL-", "PANSIOS,PHIEUPH,PIEUP,PIEUP-SIOS,SIOS,THIEUTH,TIKEUT,YEORINHIEUH"),
  ("HANGUL LETTER SIOS", ",-CIEUC,-KIYEOK,-NIEUN,-PIEUP,-TIKEUT"),
  ("HANGUL LETTER SSANG", "CIEUC,HIEUH,IEUNG,KIYEOK,NIEUN,PIEUP,SIOS,TIKEUT"),
  ("HANGUL LETTER ", "THIEUTH,TIKEUT,U,WA,WAE,WE,WEO,WI,YA,YAE,YE,YEO,YEORINHIEUH"),
  ("HANGUL LETTER Y", "ESIEUNG,ESIEUNG-PANSIOS,ESIEUNG-SIOS,I,O,O-I,O-YA,O-YAE,U,U-I,U-YE,U-YEO"),
  ("HANGUL SINGLE DOT TONE MARK", ""),
  ("HANGZHOU NUMERAL ", "EIGHT,FIVE,FOUR,NINE,ONE,SEVEN,SIX,TEN,THIRTY,THREE,TWENTY,TWO"),
  ("HANIFI ROHINGYA DIGIT ", "EIGHT,FIVE,FOUR,NINE,ONE,SEVEN,SIX,THREE,TWO,ZERO"),
  ("HANIFI ROHINGYA LETTER ", "A,BA,CA,DA,DDA,FA,GA,HA,JA,KA,KHA,KINNA WA,KINNA YA,LA,MA,NA,NGA"),
  ("HANIFI ROHINGYA LETTER ", "NYA,PA,RA,RRA,SA,SHA,TA,TTA,VA,WA,YA,ZA"),
  ("HANIFI ROHINGYA ", "MARK NA KHONNA,MARK SAKIN,SIGN HARBAHAY,SIGN TAHALA,SIGN TANA,SIGN TASSI"),
  ("HANIFI ROHINGYA VOWEL ", "A,E,I,O,U"),
  ("HANUNOO LETTER ", "A,BA,DA,GA,HA,I,KA,LA,MA,NA,NGA,PA,RA,SA,TA,U,WA,YA"),
  ("HANUNOO ", "SIGN PAMUDPOD,VOWEL SIGN I,VOWEL SIGN U"),
  ("HA", "PPY PERSON RAISING ONE HAND,RD DISK,TCHING CHICK"),
  ("HATRAN LETTER ", "ALEPH,AYN,BETH,DALETH-RESH,GIMEL,HE,HETH,KAPH,LAMEDH,MEM,NUN,PE,QOPH,SADHE"),
  ("HATRAN LETTER ", "SAMEKH,SHIN,TAW,TETH,WAW,YODH,ZAYN"),
  ("HATRAN NUMBER ", "FIVE,ONE,ONE HUNDRED,TEN,TWENTY"),
  ("HEA", "DPHONE,DSTONE,DSTONE GRAVEYARD SYMBOL,R-NO-EVIL MONKEY,RT DECORATION,RT HANDS"),
  ("HEA", "RT WITH ARROW,RT WITH RIBBON,RT WITH TIP ON THE LEFT,VY AMPERSAND ORNAMENT"),
  ("HEAVY ARROW SHAFT WIDTH ", "ONE,ONE HALF,ONE THIRD,TWO THIRDS"),
  ("HEAVY ", "ASTERISK,BALLOT X,BLACK CURVED DOWNWARDS AND RIGHTWARDS ARROW"),
  ("HEAVY BLACK ", "CURVED UPWARDS AND RIGHTWARDS ARROW,HEART"),
  ("HEAVY BLACK-FEATHERED ", "NORTH EAST ARROW,RIGHTWARDS ARROW,SOUTH EAST ARROW"),
  ("HEAVY CHE", "CK MARK,VRON SNOWFLAKE"),
  ("HEAVY CIRCLE", ", WITH CIRCLE INSIDE, WITH STROKE AND TWO DOTS ABOVE,D SALTIRE"),
  ("HEAVY CONCAVE-POINTED BLACK RIGHTWARDS ARROW", ""),
  ("HEAVY D", "ASHED TRIANGLE-HEADED RIGHTWARDS ARROW,IVISION SIGN,OLLAR SIGN"),
  ("HEAVY DOUBLE ", "COMMA QUOTATION MARK ORNAMENT,TURNED COMMA QUOTATION MARK ORNAMENT"),
  ("HEAVY DOWNWARDS ARROW WITH ", "EQUILATERAL ARROWHEAD,LARGE EQUILATERAL ARROWHEAD"),
  ("HEAVY EIGHT POINTED ", "BLACK STAR,PINWHEEL STAR,RECTILINEAR BLACK STAR"),
  ("HEAVY E", "IGHT SPOKED ASTERISK,IGHT TEARDROP-SPOKED PROPELLER ASTERISK,QUALS SIGN"),
  ("HEAVY EXCLAMATION MARK ", "ORNAMENT,SYMBOL"),
  ("HEAVY FIVE ", "POINTED BLACK STAR,SPOKED ASTERISK"),
  ("HEAVY ", "FOUR BALLOON-SPOKED ASTERISK,GREEK CROSS,HEART EXCLAMATION MARK ORNAMENT"),
  ("HEAVY ", "HORIZONTAL FILL,INTERROBANG ORNAMENT,LARGE CIRCLE,LATIN CROSS"),
  ("HEAVY LEFT-POINTING ANGLE ", "BRACKET ORNAMENT,QUOTATION MARK ORNAMENT"),
  ("HEAVY LEFTWARDS ARROW WITH ", "EQUILATERAL ARROWHEAD,LARGE EQUILATERAL ARROWHEAD"),
  ("HEAVY L", "IGATURE OPEN ET ORNAMENT,OW DOUBLE COMMA QUOTATION MARK ORNAMENT"),
  ("HEAVY LOW", " SINGLE COMMA QUOTATION MARK ORNAMENT,ER RIGHT-SHADOWED WHITE RIGHTWARDS ARROW"),
  ("HEAVY ", "MINUS SIGN,MULTIPLICATION X,NORTH EAST ARROW,NORTH EAST POINTING BUD"),
  ("HEAVY NORTH ", "EAST POINTING VINE LEAF,WEST POINTING BUD,WEST POINTING VINE LEAF"),
  ("HEAVY ", "OPEN CENTRE CROSS,OUTLINED BLACK STAR,OVAL WITH OVAL INSIDE,PLUS SIGN"),
  ("HEAVY RIGHT-POINTING ANGLE ", "BRACKET ORNAMENT,QUOTATION MARK ORNAMENT"),
  ("HEAVY RIGHTWARDS ARROW", ", WITH EQUILATERAL ARROWHEAD, WITH LARGE EQUILATERAL ARROWHEAD"),
  ("HEAVY ", "ROUND-TIPPED RIGHTWARDS ARROW,SALTIRE,SANS-SERIF INTERROBANG ORNAMENT"),
  ("HEAVY S", "CRIPT LIGATURE ET ORNAMENT,INGLE COMMA QUOTATION MARK ORNAMENT"),
  ("HEAVY SI", "NGLE TURNED COMMA QUOTATION MARK ORNAMENT,X POINTED BLACK STAR,X SPOKED ASTERISK"),
  ("HEAVY SOUTH EAST ", "ARROW,POINTING BUD,POINTING VINE LEAF"),
  ("HEAVY S", "OUTH WEST POINTING BUD,OUTH WEST POINTING VINE LEAF,PARKLE"),
  ("HEAVY TEARDROP-S", "HANKED RIGHTWARDS ARROW,POKED ASTERISK,POKED PINWHEEL ASTERISK"),
  ("HEAVY T", "RIANGLE-HEADED RIGHTWARDS ARROW,WELVE POINTED BLACK STAR"),
  ("HEAVY ", "TWELVE POINTED PINWHEEL STAR,UPPER RIGHT-SHADOWED WHITE RIGHTWARDS ARROW"),
  ("HEAVY UPWARDS ARROW WITH ", "EQUILATERAL ARROWHEAD,LARGE EQUILATERAL ARROWHEAD"),
  ("HEAVY ", "VERTICAL BAR,WEDGE-TAILED RIGHTWARDS ARROW"),
  ("HEAVY W", "HITE CIRCLE,HITE DOWN-POINTING TRIANGLE,HITE SQUARE,IDE-HEADED RIGHTWARDS ARROW"),
  ("HEBREW ACCENT ", "ATNAH HAFUKH,DARGA,DEHI,ETNAHTA,GERESH,GERESH MUQDAM,GERSHAYIM,ILUY"),
  ("HEBREW ACCENT ", "MAHAPAKH,MERKHA,MERKHA KEFULA,MUNAH,OLE,PASHTA,PAZER,QADMA,QARNEY PARA"),
  ("HEBREW ACCENT ", "REVIA,SEGOL,SHALSHELET,TELISHA GEDOLA,TELISHA QETANA,TEVIR,TIPEHA"),
  ("HEBREW ACCENT ", "YERAH BEN YOMO,YETIV,ZAQEF GADOL,ZAQEF QATAN,ZARQA,ZINOR"),
  ("HEBREW LETTER AL", "EF,EF WITH MAPIQ,EF WITH PATAH,EF WITH QAMATS,TERNATIVE AYIN"),
  ("HEBREW LETTER ", "ALTERNATIVE PLUS SIGN,AYIN,BET,BET WITH DAGESH,BET WITH RAFE,DALET"),
  ("HEBREW LETTER ", "DALET WITH DAGESH,FINAL KAF,FINAL KAF WITH DAGESH,FINAL MEM,FINAL NUN"),
  ("HEBREW LETTER ", "FINAL PE,FINAL PE WITH DAGESH,FINAL TSADI,GIMEL,GIMEL WITH DAGESH,HE"),
  ("HEBREW LETTER ", "HE WITH MAPIQ,HET,KAF,KAF WITH DAGESH,KAF WITH RAFE,LAMED,LAMED WITH DAGESH"),
  ("HEBREW LETTER ", "MEM,MEM WITH DAGESH,NUN,NUN WITH DAGESH,PE,PE WITH DAGESH,PE WITH RAFE,QOF"),
  ("HEBREW LETTER ", "QOF WITH DAGESH,RESH,RESH WITH DAGESH,SAMEKH,SAMEKH WITH DAGESH,SHIN"),
  ("HEBREW LETTER SHIN WITH ", "DAGESH,DAGESH AND SHIN DOT,DAGESH AND SIN DOT,SHIN DOT,SIN DOT"),
  ("HEBREW LETTER T", "AV,AV WITH DAGESH,ET,ET WITH DAGESH,SADI,SADI WITH DAGESH"),
  ("HEBREW LETTER VAV", ", WITH DAGESH, WITH HOLAM"),
  ("HEBREW LETTER WIDE ", "ALEF,DALET,FINAL MEM,HE,KAF,LAMED,RESH,TAV"),
  ("HEBREW LETTER ", "YOD,YOD WITH DAGESH,YOD WITH HIRIQ,ZAYIN,ZAYIN WITH DAGESH"),
  ("HEBREW LIGATURE ", "ALEF LAMED,YIDDISH DOUBLE VAV,YIDDISH DOUBLE YOD,YIDDISH VAV YOD"),
  ("HEBREW ", "LIGATURE YIDDISH YOD YOD PATAH,MARK LOWER DOT,MARK MASORA CIRCLE,MARK UPPER DOT"),
  ("HEBREW POINT ", "DAGESH OR MAPIQ,HATAF PATAH,HATAF QAMATS,HATAF SEGOL,HIRIQ"),
  ("HEBREW POINT ", "HOLAM,HOLAM HASER FOR VAV,JUDEO-SPANISH VARIKA,METEG,PATAH"),
  ("HEBREW POINT ", "QAMATS,QAMATS QATAN,QUBUTS,RAFE,SEGOL,SHEVA,SHIN DOT,SIN DOT,TSERE"),
  ("HEBREW PUNCTUATION ", "GERESH,GERSHAYIM,MAQAF,NUN HAFUKHA,PASEQ,SOF PASUQ"),
  ("HE", "BREW YOD TRIANGLE,DGEHOG,LICOPTER,LLSCHREIBER PAUSE SYMBOL,LM SYMBOL"),
  ("HE", "LMET WITH WHITE CROSS,NTAIGANA LETTER A-1,NTAIGANA LETTER A-2,NTAIGANA LETTER A-3"),
  ("HENTAIGANA LETTER ", "A-WO,E-1,E-2,E-3,E-4,E-5,E-6,HA-1,HA-10,HA-11,HA-2,HA-3,HA-4,HA-5,HA-6"),
  ("HENTAIGANA LETTER H", "A-7,A-8,A-9,E-1,E-2,E-3,E-4,E-5,E-6,E-7,I-1,I-2,I-3,I-4,I-5,I-6,I-7"),
  ("HENTAIGANA LETTER ", "HO-1,HO-2,HO-3,HO-4,HO-5,HO-6,HO-7,HO-8,HU-1,HU-2,HU-3,I-1,I-2,I-3,I-4"),
  ("HENTAIGANA LETTER K", "A-1,A-10,A-11,A-2,A-3,A-4,A-5,A-6,A-7,A-8,A-9,A-KE,E-1,E-2,E-3,E-4,E-5"),
  ("HENTAIGANA LETTER K", "E-6,I-1,I-2,I-3,I-4,I-5,I-6,I-7,I-8,O-1,O-2,O-3,O-KI,U-1,U-2,U-3,U-4"),
  ("HENTAIGANA LETTER ", "KU-5,KU-6,KU-7,MA-1,MA-2,MA-3,MA-4,MA-5,MA-6,MA-7,ME-1,ME-2,ME-MA"),
  ("HENTAIGANA LETTER M", "I-1,I-2,I-3,I-4,I-5,I-6,I-7,O-1,O-2,O-3,O-4,O-5,O-6,U-1,U-2,U-3,U-4"),
  ("HENTAIGANA LETTER N", "-MU-MO-1,-MU-MO-2,A-1,A-2,A-3,A-4,A-5,A-6,A-7,A-8,A-9,E-1,E-2,E-3,E-4"),
  ("HENTAIGANA LETTER N", "E-5,E-6,E-KO,I-1,I-2,I-3,I-4,I-5,I-6,I-7,I-TE,O-1,O-2,O-3,O-4,O-5,U-1"),
  ("HENTAIGANA LETTER ", "NU-2,NU-3,O-1,O-2,O-3,RA-1,RA-2,RA-3,RA-4,RE-1,RE-2,RE-3,RE-4,RI-1,RI-2"),
  ("HENTAIGANA LETTER R", "I-3,I-4,I-5,I-6,I-7,O-1,O-2,O-3,O-4,O-5,O-6,U-1,U-2,U-3,U-4,U-5,U-6"),
  ("HENTAIGANA LETTER S", "A-1,A-2,A-3,A-4,A-5,A-6,A-7,A-8,E-1,E-2,E-3,E-4,E-5,I-1,I-2,I-3,I-4"),
  ("HENTAIGANA LETTER S", "I-5,I-6,O-1,O-2,O-3,O-4,O-5,O-6,O-7,U-1,U-2,U-3,U-4,U-5,U-6,U-7,U-8"),
  ("HENTAIGANA LETTER T", "A-1,A-2,A-3,A-4,E-1,E-2,E-3,E-4,E-5,E-6,E-7,E-8,E-9,I-1,I-2,I-3,I-4"),
  ("HENTAIGANA LETTER T", "I-5,I-6,I-7,O-1,O-2,O-3,O-4,O-5,O-6,O-RA,U-1,U-2,U-3,U-4,U-TO"),
  ("HENTAIGANA LETTER ", "U-1,U-2,U-3,U-4,U-5,WA-1,WA-2,WA-3,WA-4"),
  ("HENTAIGANA LETTER W", "A-5,E-1,E-2,E-3,E-4,I-1,I-2,I-3,I-4,I-5,O-1,O-2,O-3,O-4,O-5,O-6,O-7"),
  ("HENTAIGANA LETTER Y", "A-1,A-2,A-3,A-4,A-5,A-YO,O-1,O-2,O-3,O-4,O-5,O-6,U-1,U-2,U-3,U-4"),
  ("HER", "B,MITIAN CONJUGATE MATRIX"),
  ("HEXAGRAM FOR ", "ABUNDANCE,AFTER COMPLETION,APPROACH,BEFORE COMPLETION,BITING THROUGH"),
  ("HEXAGRAM FOR ", "BREAKTHROUGH,COMING TO MEET,CONFLICT,CONTEMPLATION,DARKENING OF THE LIGHT"),
  ("HEXAGRAM FOR D", "ECREASE,ELIVERANCE,EVELOPMENT,IFFICULTY AT THE BEGINNING,ISPERSION,URATION"),
  ("HEXAGRAM FOR ", "ENTHUSIASM,FELLOWSHIP,FOLLOWING,GATHERING TOGETHER,GRACE,GREAT POSSESSION"),
  ("HEXAGRAM FOR ", "GREAT POWER,GREAT PREPONDERANCE,GREAT TAMING,HOLDING TOGETHER,INCREASE"),
  ("HEXAGRAM FOR ", "INFLUENCE,INNER TRUTH,INNOCENCE,LIMITATION,MODESTY,MOUTH CORNERS,OBSTRUCTION"),
  ("HEXAGRAM FOR ", "OPPOSITION,OPPRESSION,PEACE,PROGRESS,PUSHING UPWARD,RETREAT,RETURN"),
  ("HEXAGRAM FOR ", "REVOLUTION,SMALL PREPONDERANCE,SMALL TAMING,SPLITTING APART,STANDSTILL"),
  ("HEXAGRAM FOR THE ", "ABYSMAL WATER,ARMY,AROUSING THUNDER,CAULDRON,CLINGING FIRE"),
  ("HEXAGRAM FOR THE ", "CREATIVE HEAVEN,FAMILY,GENTLE WIND,JOYOUS LAKE,KEEPING STILL MOUNTAIN"),
  ("HEXAGRAM FOR T", "HE MARRYING MAIDEN,HE RECEPTIVE EARTH,HE WANDERER,HE WELL,READING"),
  ("H", "EXAGRAM FOR WAITING,EXAGRAM FOR WORK ON THE DECAYED,EXAGRAM FOR YOUTHFUL FOLLY,IBISCUS"),
  ("HIGH", " BRIGHTNESS SYMBOL, OCTET PRESET, VOLTAGE SIGN,-HEELED SHOE,-SPEED TRAIN"),
  ("HI", "GH-SPEED TRAIN WITH BULLET NOSE,KING BOOT,NDU TEMPLE,PPOPOTAMUS,RAGANA DIGRAPH YORI"),
  ("HIRAGANA ", "ITERATION MARK,LETTER A,LETTER ARCHAIC WU,LETTER ARCHAIC YE,LETTER BA,LETTER BE"),
  ("HIRAGANA LETTER ", "BI,BO,BU,DA,DE,DI,DO,DU,E,GA,GE,GI,GO,GU,HA,HE,HI,HO,HU,I,KA,KE,KI,KO,KU"),
  ("HIRAGANA LETTER ", "MA,ME,MI,MO,MU,N,NA,NE,NI,NO,NU,O,PA,PE,PI,PO,PU,RA,RE,RI,RO,RU,SA,SE,SI"),
  ("HIRAGANA LETTER SMALL ", "A,E,I,KA,KE,O,TU,U,WA,WE,WI,WO,YA,YO,YU"),
  ("HIRAGANA LETTER ", "SO,SU,TA,TE,TI,TO,TU,U,VU,WA,WE,WI,WO,YA,YO,YU,ZA,ZE,ZI,ZO,ZU"),
  ("H", "IRAGANA VOICED ITERATION MARK,ISTORIC SITE,OCHO,OLE,OLLOW QUILT SQUARE ORNAMENT"),
  ("HO", "LLOW QUILT SQUARE ORNAMENT IN BLACK SQUARE,MOTHETIC,NEY POT,NEYBEE,OK,P"),
  ("HORIZONTAL ", "BAR,BLACK HEXAGON,BLACK OCTAGON,ELLIPSIS,LINE EXTENSION,MALE WITH STROKE SIGN"),
  ("HORIZONTAL ONE EIGHTH BLOCK-", "1358,2,3,4,5,6,7"),
  ("HORIZONTAL SCAN LINE-", "1,3,7,9"),
  ("HORIZONTAL T", "AB KEY,ABULATION,ABULATION SET,ABULATION WITH JUSTIFICATION,RAFFIC LIGHT"),
  ("HO", "RSE,RSE FACE,RSE RACING,SPITAL,T BEVERAGE,T DOG,T PEPPER,T SPRINGS,TEL"),
  ("HOU", "RGLASS,RGLASS WITH FLOWING SAND,SE,SE BUILDING,SE BUILDINGS,SE WITH GARDEN"),
  ("H", "RYVNIA SIGN,T,TJ,TS,UGGING FACE,UNDRED POINTS SYMBOL,USHED FACE,UT,YGIEA,YPHEN"),
  ("HY", "PHEN BULLET,PHEN WITH DIAERESIS,PHEN-MINUS,PHENATION POINT,PODIASTOLE,STERESIS SYMBOL"),
  ("I", " LOVE YOU HAND SIGN,CE CREAM,CE CUBE,CE HOCKEY STICK AND PUCK,CE SKATE"),
  ("IDENTI", "CAL TO,CAL TO AND SLANTED PARALLEL,CAL WITH DOT ABOVE,FICATION CARD"),
  ("IDEOGRAPHIC ANNOTATION ", "BOTTOM MARK,EARTH MARK,FIRST MARK,FOUR MARK,FOURTH MARK"),
  ("IDEOGRAPHIC ANNOTATION ", "HEAVEN MARK,LINKING MARK,MAN MARK,MIDDLE MARK,ONE MARK"),
  ("IDEOGRAPHIC ANNOTATION ", "REVERSE MARK,SECOND MARK,THIRD MARK,THREE MARK,TOP MARK,TWO MARK"),
  ("IDEOGRAPHIC ", "CLOSING MARK,COMMA,DEPARTING TONE MARK"),
  ("IDEOGRAPHIC DESCRIPTION CHARACTER ", "ABOVE TO BELOW,ABOVE TO MIDDLE AND BELOW,FULL SURROUND"),
  ("IDEOGRAPHIC DESCRIPTION CHARACTER ", "LEFT TO MIDDLE AND RIGHT,LEFT TO RIGHT,OVERLAID"),
  ("IDEOGRAPHIC DESCRIPTION CHARACTER SURROUND FROM ", "ABOVE,BELOW,LEFT,LOWER LEFT"),
  ("IDEOGRAPHIC DESCRIPTION CHARACTER SURROUND FROM UPPER ", "LEFT,RIGHT"),
  ("IDEOGRAPHIC ", "ENTERING TONE MARK,FULL STOP,HALF FILL SPACE,ITERATION MARK,LEVEL TONE MARK"),
  ("IDEOGRAPHIC ", "NUMBER ZERO,RISING TONE MARK,SPACE"),
  ("IDEOGRAPHIC TALLY MARK ", "FIVE,FOUR,ONE,THREE,TWO"),
  ("IDEOGRAPHIC TELEGRAPH ", "LINE FEED SEPARATOR SYMBOL,SYMBOL FOR APRIL,SYMBOL FOR AUGUST"),
  ("IDEOGRAPHIC TELEGRAPH SYMBOL FOR DAY ", "EIGHT,EIGHTEEN,ELEVEN,FIFTEEN,FIVE,FOUR,FOURTEEN"),
  ("IDEOGRAPHIC TELEGRAPH SYMBOL FOR DAY ", "NINE,NINETEEN,ONE,SEVEN,SEVENTEEN,SIX,SIXTEEN"),
  ("IDEOGRAPHIC TELEGRAPH SYMBOL FOR DAY T", "EN,HIRTEEN,HIRTY,HIRTY-ONE,HREE,WELVE,WENTY"),
  ("IDEOGRAPHIC TELEGRAPH SYMBOL FOR DAY TWENTY-", "EIGHT,FIVE,FOUR,NINE,ONE,SEVEN,SIX,THREE,TWO"),
  ("IDEOGRAPHIC TELEGRAPH SYMBOL FOR ", "DAY TWO,DECEMBER,FEBRUARY"),
  ("IDEOGRAPHIC TELEGRAPH SYMBOL FOR HOUR ", "EIGHT,EIGHTEEN,ELEVEN,FIFTEEN,FIVE,FOUR,FOURTEEN"),
  ("IDEOGRAPHIC TELEGRAPH SYMBOL FOR HOUR ", "NINE,NINETEEN,ONE,SEVEN,SEVENTEEN,SIX,SIXTEEN"),
  ("IDEOGRAPHIC TELEGRAPH SYMBOL FOR HOUR T", "EN,HIRTEEN,HREE,WELVE,WENTY,WENTY-FOUR,WENTY-ONE"),
  ("IDEOGRAPHIC TELEGRAPH SYMBOL FOR HOUR ", "TWENTY-THREE,TWENTY-TWO,TWO,ZERO"),
  ("IDEOGRAPHIC TELEGRAPH SYMBOL FOR ", "JANUARY,JULY,JUNE,MARCH,MAY,NOVEMBER,OCTOBER,SEPTEMBER"),
  ("I", "DEOGRAPHIC VARIATION INDICATOR,MAGE OF,MAGE OF OR APPROXIMATELY EQUAL TO,MP"),
  ("IMPERIAL ARAMAIC LETTER ", "ALEPH,AYIN,BETH,DALETH,GIMEL,HE,HETH,KAPH,LAMEDH,MEM,NUN,PE,QOPH"),
  ("IMPERIAL ARAMAIC LETTER ", "RESH,SADHE,SAMEKH,SHIN,TAW,TETH,WAW,YODH,ZAYIN"),
  ("IMPERIAL ARAMAIC NUMBER ", "ONE,ONE HUNDRED,ONE THOUSAND,TEN,TEN THOUSAND,THREE,TWENTY,TWO"),
  ("I", "MPERIAL ARAMAIC SECTION SIGN,NBOX TRAY,NCOMING ENVELOPE,NCOMPLETE INFINITY"),
  ("INCRE", "ASE FONT SIZE SYMBOL,ASES AS,MENT"),
  ("IND", ",EX,EX POINTING AT THE VIEWER,IAN RUPEE SIGN,IC SIYAQ ALTERNATE LAKH MARK"),
  ("INDIC SIYAQ ", "FRACTION ONE HALF,FRACTION ONE QUARTER,FRACTION THREE QUARTERS,LAKH MARK"),
  ("INDIC SIYAQ NUMBER ALTERNATE ", "ONE,TEN THOUSAND,TWO"),
  ("INDIC SIYAQ NUMBER ", "EIGHT,EIGHT HUNDRED,EIGHT THOUSAND,EIGHTY,EIGHTY THOUSAND,FIFTY"),
  ("INDIC SIYAQ NUMBER F", "IFTY THOUSAND,IVE,IVE HUNDRED,IVE THOUSAND,ORTY,ORTY THOUSAND,OUR"),
  ("INDIC SIYAQ NUMBER ", "FOUR HUNDRED,FOUR THOUSAND,KAROR,KARORAN,LAKH,LAKHAN,NINE,NINE HUNDRED"),
  ("INDIC SIYAQ NUMBER ", "NINE THOUSAND,NINETY,NINETY THOUSAND,ONE,ONE HUNDRED,ONE THOUSAND"),
  ("INDIC SIYAQ NUMBER PREFIXED ", "EIGHT,FIVE,FOUR,NINE,ONE,SEVEN,SIX,THREE,TWO"),
  ("INDIC SIYAQ NUMBER SEVEN", ", HUNDRED, THOUSAND,TY,TY THOUSAND"),
  ("INDIC SIYAQ NUMBER SIX", ", HUNDRED, THOUSAND,TY,TY THOUSAND"),
  ("INDIC SIYAQ NUMBER T", "EN,EN THOUSAND,HIRTY,HIRTY THOUSAND,HREE,HREE HUNDRED,HREE THOUSAND"),
  ("INDIC SIYAQ NUMBER TW", "ENTY,ENTY THOUSAND,O,O HUNDRED,O THOUSAND"),
  ("IN", "DIC SIYAQ PLACEHOLDER,DIC SIYAQ RUPEE MARK,FINITY,FINITY NEGATED WITH VERTICAL BAR"),
  ("INFORMATION ", "DESK PERSON,SEPARATOR FOUR,SEPARATOR ONE,SEPARATOR THREE,SEPARATOR TWO,SOURCE"),
  ("INHIBIT ", "ARABIC FORM SHAPING,SYMMETRIC SWAPPING"),
  ("INPUT SYMBOL FOR ", "LATIN CAPITAL LETTERS,LATIN LETTERS,LATIN SMALL LETTERS,NUMBERS,SYMBOLS"),
  ("INSCRIPTIONAL PAHLAVI LETTER ", "ALEPH,BETH,DALETH,GIMEL,HE,HETH,KAPH,LAMEDH,MEM-QOPH,NUN,PE"),
  ("INSCRIPTIONAL PAHLAVI LETTER ", "SADHE,SAMEKH,SHIN,TAW,TETH,WAW-AYIN-RESH,YODH,ZAYIN"),
  ("INSCRIPTIONAL PAHLAVI NUMBER ", "FOUR,ONE,ONE HUNDRED,ONE THOUSAND,TEN,THREE,TWENTY,TWO"),
  ("INSCRIPTIONAL PARTHIAN LETTER ", "ALEPH,AYIN,BETH,DALETH,GIMEL,HE,HETH,KAPH,LAMEDH,MEM,NUN,PE"),
  ("INSCRIPTIONAL PARTHIAN LETTER ", "QOPH,RESH,SADHE,SAMEKH,SHIN,TAW,TETH,WAW,YODH,ZAYIN"),
  ("INSCRIPTIONAL PARTHIAN NUMBER ", "FOUR,ONE,ONE HUNDRED,ONE THOUSAND,TEN,THREE,TWENTY,TWO"),
  ("INSERTION SYMBOL", ""),
  ("INTEGRAL", ", AROUND A POINT OPERATOR, AVERAGE WITH SLASH, EXTENSION, WITH DOUBLE STROKE"),
  ("INTEGRAL WITH ", "INTERSECTION,LEFTWARDS ARROW WITH HOOK,OVERBAR,TIMES SIGN,UNDERBAR,UNION"),
  ("INTER", "CALATE,IOR PRODUCT,LINEAR ANNOTATION ANCHOR,LINEAR ANNOTATION SEPARATOR"),
  ("INTER", "LINEAR ANNOTATION TERMINATOR,LOCKED FEMALE AND MALE SIGN,ROBANG"),
  ("INTERSECTION", ", ABOVE BAR ABOVE UNION, ABOVE UNION, BESIDE AND JOINED WITH INTERSECTION"),
  ("INTERSECTION WITH ", "DOT,LOGICAL AND,OVERBAR"),
  ("INVERSE ", "BULLET,CHECK MARK,CHECKER BOARD FILL,DOWNWARDS ARROW WITH TIP LEFTWARDS"),
  ("INVER", "SE MEDIUM SHADE,SE WHITE CIRCLE,TED EXCLAMATION MARK,TED INTERROBANG"),
  ("INVERTED ", "LAZY S,LOW KAVYKA,LOW KAVYKA WITH KAVYKA ABOVE,OHM SIGN,PENTAGRAM,QUESTION MARK"),
  ("I", "NVERTED UNDERTIE,NVISIBLE PLUS,NVISIBLE SEPARATOR,NVISIBLE TIMES,ZAKAYA LANTERN"),
  ("JA", "CK-O-LANTERN,PANESE BANK SYMBOL,PANESE CASTLE"),
  ("JAPANESE ", "DOLLS,GOBLIN,INDUSTRIAL STANDARD SYMBOL,OGRE,POST OFFICE,SYMBOL FOR BEGINNER"),
  ("JA", "R,VANESE CONSONANT SIGN CAKRA,VANESE CONSONANT SIGN KERET,VANESE CONSONANT SIGN PENGKAL"),
  ("JAVANESE DIGIT ", "EIGHT,FIVE,FOUR,NINE,ONE,SEVEN,SIX,THREE,TWO,ZERO"),
  ("JAVANESE LE", "FT RERENGGAN,TTER A,TTER AI"),
  ("JAVANESE LETTER ", "BA,BA MURDA,CA,CA MURDA,DA,DA MAHAPRANA,DDA,DDA MAHAPRANA,E,GA,GA MURDA"),
  ("JAVANESE LETTER ", "HA,I,I KAWI,II,JA,JA MAHAPRANA,KA,KA MURDA,KA SASAK,LA,MA,NA,NA MURDA,NGA"),
  ("JAVANESE LETTER ", "NGA LELET,NGA LELET RASWADI,NYA,NYA MURDA,O,PA,PA CEREK,PA MURDA,RA"),
  ("JAVANESE LETTER ", "RA AGUNG,SA,SA MAHAPRANA,SA MURDA,TA,TA MURDA,TTA,TTA MAHAPRANA,U,WA,YA"),
  ("JAVANESE PADA ", "ADEG,ADEG ADEG,ANDAP,ISEN-ISEN,LINGSA,LUHUR,LUNGSI,MADYA,PANGKAT,PISELEH"),
  ("JAVANESE ", "PADA TIRTA TUMETES,PADA WINDU,PANGKON,PANGRANGKEP,RIGHT RERENGGAN,SIGN CECAK"),
  ("JAVANESE ", "SIGN CECAK TELU,SIGN LAYAR,SIGN PANYANGGA,SIGN WIGNYAN,TURNED PADA PISELEH"),
  ("JAVANESE VOWEL SIGN ", "DIRGA MURE,PEPET,SUKU,SUKU MENDUT,TALING,TARUNG,TOLONG,WULU"),
  ("J", "AVANESE VOWEL SIGN WULU MELIK,EANS,IGSAW PUZZLE PIECE,OIN,OYSTICK,UGGLING,UNO,UPITER"),
  ("KAABA", ""),
  ("KAITHI ", "ABBREVIATION SIGN,DANDA,DOUBLE DANDA,DOUBLE SECTION MARK,ENUMERATION SIGN,LETTER A"),
  ("KAITHI LETTER ", "AA,AI,AU,BA,BHA,CA,CHA,DA,DDA,DDDHA,DDHA,DHA,E,GA,GHA,HA,I,II,JA,JHA,KA,KHA"),
  ("KAITHI LETTER ", "LA,MA,NA,NGA,NNA,NYA,O,PA,PHA,RA,RHA,SA,SHA,SSA,TA,THA,TTA,TTHA,U,UU,VA,YA"),
  ("KAITHI ", "NUMBER SIGN,NUMBER SIGN ABOVE,SECTION MARK"),
  ("KAITHI SIGN ", "ANUSVARA,CANDRABINDU,NUKTA,VIRAMA,VISARGA"),
  ("KAITHI VOWEL SIGN ", "AA,AI,AU,E,I,II,O,U,UU,VOCALIC R"),
  ("KANG", "AROO,XI RADICAL AGAIN"),
  ("KANGXI RADICAL ", "AND,ARRIVE,ARROW,AXE,BADGER,BAMBOO,BEAN,BIG,BIRD,BITTER,BLACK,BLOOD,BLUE"),
  ("KANGXI RADICAL ", "BOAT,BODY,BOLT OF CLOTH,BONE,BOW,BRANCH,BRISTLE,BRUSH,CART,CAULDRON,CAVE"),
  ("KANGXI RADICAL ", "CHILD,CITY,CLAN,CLAW,CLIFF,CLOTHES,COLOR,COMPARE,CORPSE,COVER,COW,DEATH"),
  ("KANGXI RADICAL D", "EER,IPPER,ISH,ISTINGUISH,IVINATION,O NOT,OG,OOR,OT,OTTED CLIFF,OTTED TENT"),
  ("KANGXI RADICAL ", "DOUBLE X,DOWN BOX,DRAGON,DRUM,DRY,EAR,EARTH,EAT,EIGHT,EMBROIDERY,ENCLOSURE"),
  ("KANGXI RADICAL ", "ENTER,EVEN,EVENING,EYE,FACE,FANG,FATHER,FEATHER,FIELD,FIGHT,FIRE,FISH"),
  ("KANGXI RADICAL ", "FLUTE,FLY,FOOT,FRAGRANT,FROG,FUR,GATE,GHOST,GO,GO SLOWLY,GOLD,GRAIN,GRASS"),
  ("KANGXI RADICAL H", "AIR,ALBERD,ALF TREE TRUNK,AND,EAD,EART,EMP,IDING ENCLOSURE,OOK,ORN,ORSE"),
  ("KANGXI RADICAL ", "ICE,INCH,INSECT,JADE,JAR,KNIFE,LACK,LAME,LEAF,LEATHER,LEEK,LEGS,LID,LIFE"),
  ("KANGXI RADICAL ", "LINE,LONG,LONG STRIDE,MAN,MEAT,MELON,MILLET,MINISTER,MOON,MORNING,MORTAR"),
  ("KANGXI RADICAL ", "MOUND,MOUNTAIN,MOUTH,NET,NOSE,NOT,OLD,ONE,ONESELF,OPEN BOX,OPPOSE,PIG,PLOW"),
  ("KANGXI RADICAL ", "POWER,PRIVATE,PROFOUND,RAIN,RAP,RAT,RED,RICE,RIGHT OPEN BOX,RIVER,ROOF,RUN"),
  ("KANGXI RADICAL S", "ACRIFICIAL WINE,ALT,AY,CHOLAR,CRIPT,EAL,ECOND,EE,ELF,HEEP,HELL,HOOT"),
  ("KANGXI RADICAL S", "HORT TAILED BIRD,HORT THREAD,ICKNESS,ILK,KIN,LASH,LAVE,LICE,MALL,NOUT"),
  ("KANGXI RADICAL S", "OUND,PEAR,PEECH,PIRIT,POON,PROUT,QUARE,TAND,TEAM,TEP,TONE,TOP,TOPPING,UN"),
  ("KANGXI RADICAL ", "SWEET,TABLE,TALL,TANNED LEATHER,TEN,TIGER,TILE,TONGUE,TOOTH,TRACK,TREE"),
  ("KANGXI RADICAL ", "TRIPOD,TURBAN,TURTLE,TWO,TWO HANDS,USE,VALLEY,VILLAGE,WALK,WALK ENCLOSURE"),
  ("KANGXI RADICAL ", "WATER,WEAPON,WEST,WHEAT,WHITE,WIND,WINE,WOMAN,WORK,WRAP,WRONG,YELLOW"),
  ("KANNADA ", "AI LENGTH MARK,DIGIT EIGHT,DIGIT FIVE,DIGIT FOUR,DIGIT NINE"),
  ("KANNADA ", "DIGIT ONE,DIGIT SEVEN,DIGIT SIX,DIGIT THREE,DIGIT TWO,DIGIT ZERO,LENGTH MARK"),
  ("KANNADA LETTER ", "A,AA,AI,AU,BA,BHA,CA,CHA,DA,DDA,DDHA,DHA,E,EE,FA,GA,GHA,HA,I,II,JA,JHA,KA"),
  ("KANNADA LETTER ", "KHA,LA,LLA,LLLA,MA,NA,NAKAARA POLLU,NGA,NNA,NYA,O,OO,PA,PHA,RA,RRA,SA,SHA"),
  ("KANNADA LETTER ", "SSA,TA,THA,TTA,TTHA,U,UU,VA,VOCALIC L,VOCALIC LL,VOCALIC R,VOCALIC RR,YA"),
  ("KANNADA SIGN ", "ANUSVARA,AVAGRAHA,CANDRABINDU,JIHVAMULIYA,NUKTA,SIDDHAM"),
  ("KANNADA SIGN ", "SPACING CANDRABINDU,UPADHMANIYA,VIRAMA,VISARGA"),
  ("KANNADA VOWEL SIGN ", "AA,AI,AU,E,EE,I,II,O,OO,U,UU,VOCALIC L,VOCALIC LL,VOCALIC R,VOCALIC RR"),
  ("KATAKANA ", "DIGRAPH KOTO,ITERATION MARK"),
  ("KATAKANA LETTER ", "A,ARCHAIC E,ARCHAIC WU,ARCHAIC YE,ARCHAIC YI,BA,BE,BI,BO,BU,DA,DE,DI,DO"),
  ("KATAKANA LETTER ", "DU,E,GA,GE,GI,GO,GU,HA,HE,HI,HO,HU,I,KA,KE,KI,KO,KU,MA,ME,MI"),
  ("KATAKANA LETTER MINNAN NASALIZED TONE-", "1,2,3,4,5,7,8"),
  ("KATAKANA LETTER MINNAN TONE-", "2,3,4,5,7,8"),
  ("KATAKANA LETTER ", "MO,MU,N,NA,NE,NI,NO,NU,O,PA,PE,PI,PO,PU,RA,RE,RI,RO,RU,SA,SE,SI"),
  ("KATAKANA LETTER SMALL ", "A,E,HA,HE,HI,HO,HU,I,KA,KE,KU,MU,N,NU,O,RA,RE,RI,RO,RU,SI,SU,TO,TU"),
  ("KATAKANA LETTER SMALL ", "U,WA,WE,WI,WO,YA,YO,YU"),
  ("KATAKANA LETTER ", "SO,SU,TA,TE,TI,TO,TU,U,VA,VE,VI,VO,VU,WA,WE,WI,WO,YA,YO,YU,ZA,ZE,ZI,ZO,ZU"),
  ("KATAKANA", " MIDDLE DOT, VOICED ITERATION MARK,-HIRAGANA DOUBLE HYPHEN"),
  ("KATAKANA-HIRAGANA ", "PROLONGED SOUND MARK,SEMI-VOICED SOUND MARK,VOICED SOUND MARK"),
  ("KAYAH LI DIGIT ", "EIGHT,FIVE,FOUR,NINE,ONE,SEVEN,SIX,THREE,TWO,ZERO"),
  ("KAYAH LI LETTER ", "A,BA,CA,DA,GA,HA,HTA,I,KA,KHA,LA,MA,NA,NGA,NYA,OE,OO,PA,PHA,RA,SA,SHA,TA"),
  ("KAYAH LI ", "LETTER THA,LETTER VA,LETTER WA,LETTER YA,LETTER ZA,SIGN CWI,SIGN SHYA,TONE CALYA"),
  ("KAYAH LI ", "TONE CALYA PLOPHU,TONE PLOPHU,VOWEL E,VOWEL EE,VOWEL O,VOWEL U,VOWEL UE"),
  ("KE", "LVIN SIGN,Y,YBOARD,YBOARD AND MOUSE,YCAP TEN"),
  ("KHAROSHTHI ", "DIGIT FOUR,DIGIT ONE,DIGIT THREE,DIGIT TWO,FRACTION ONE HALF"),
  ("KHAROSHTHI LETTER ", "A,BA,BHA,CA,CHA,DA,DDA,DDHA,DHA,GA,GHA,HA,JA,KA,KHA,KKA,LA,MA"),
  ("KHAROSHTHI LETTER ", "NA,NNA,NYA,PA,PHA,RA,SA,SHA,SSA,TA,THA,TTA,TTHA,TTTA,TTTHA,VA,VHA,YA,ZA"),
  ("KHAROSHTHI NUMBER ", "ONE HUNDRED,ONE THOUSAND,TEN,TWENTY"),
  ("KHAROSHTHI PUNCTUATION ", "CIRCLE,CRESCENT BAR,DANDA,DOT,DOUBLE DANDA,LINES,LOTUS,MANGALAM"),
  ("KHAROSHTHI ", "PUNCTUATION SMALL CIRCLE,SIGN ANUSVARA,SIGN BAR ABOVE,SIGN CAUDA"),
  ("KHAROSHTHI ", "SIGN DOT BELOW,SIGN DOUBLE RING BELOW,SIGN VISARGA,VIRAMA,VOWEL LENGTH MARK"),
  ("KHAROSHTHI VOWEL SIGN ", "E,I,O,U,VOCALIC R"),
  ("KH", "ITAN SMALL SCRIPT FILLER,MER CURRENCY SYMBOL RIEL"),
  ("KHMER DIGIT ", "EIGHT,FIVE,FOUR,NINE,ONE,SEVEN,SIX,THREE,TWO,ZERO"),
  ("KHMER INDEPENDENT VOWEL ", "LY,LYY,QAA,QAI,QAQ,QAU,QE,QI,QII,QOO TYPE ONE,QOO TYPE TWO,QU,QUK"),
  ("KHMER INDEPENDENT VOWEL ", "QUU,QUUV,RY,RYY"),
  ("KHMER LETTER ", "BA,CA,CHA,CHO,CO,DA,DO,HA,KA,KHA,KHO,KO,LA,LO,MO,NGO,NNO,NO,NYO,PHA,PHO"),
  ("KHMER LETTER ", "PO,QA,RO,SA,SHA,SSO,TA,THA,THO,TO,TTHA,TTHO,VO,YO"),
  ("KHMER SIGN ", "AHSDA,ATTHACAN,AVAKRAHASANYA,BANTOC,BARIYOOSAN,BATHAMASAT,BEYYAL"),
  ("KHMER SIGN ", "CAMNUC PII KUUH,COENG,KAKABAT,KHAN,KOOMUUT,LEK TOO,MUUSIKATOAN,NIKAHIT"),
  ("KHMER SIGN ", "PHNAEK MUAN,REAHMUK,ROBAT,SAMYOK SANNYA,TOANDAKHIAT,TRIISAP,VIRIAM"),
  ("KHMER S", "IGN YUUKALEAPINTU,YMBOL BEI KOET,YMBOL BEI ROC,YMBOL BUON KOET,YMBOL BUON ROC"),
  ("KHMER SYMBOL DAP", " KOET, ROC,-BEI KOET,-BEI ROC,-BUON KOET,-BUON ROC,-MUOY KOET,-MUOY ROC"),
  ("KHMER SYMBOL DAP-P", "II KOET,II ROC,RAM KOET,RAM ROC"),
  ("KHMER SYMBOL LEK ATTAK ", "BEI,BUON,MUOY,PII,PRAM,PRAM-BEI,PRAM-BUON,PRAM-MUOY,PRAM-PII,SON"),
  ("KHMER SYMBOL ", "MUOY KOET,MUOY ROC,PATHAMASAT,PII KOET,PII ROC,PRAM KOET,PRAM ROC"),
  ("KHMER SYMBOL PRAM-", "BEI KOET,BEI ROC,BUON KOET,BUON ROC,MUOY KOET,MUOY ROC,PII KOET,PII ROC"),
  ("KHMER ", "SYMBOL TUTEYASAT,VOWEL INHERENT AA,VOWEL INHERENT AQ"),
  ("KHMER VOWEL SIGN ", "AA,AE,AI,AU,E,I,IE,II,OE,OO,U,UA,UU,Y,YA,YY"),
  ("KHOJKI ", "ABBREVIATION SIGN,DANDA,DOUBLE DANDA,DOUBLE SECTION MARK"),
  ("KHOJKI LETTER ", "A,AA,AI,AU,BA,BBA,BHA,CA,CHA,DA,DDA,DDDA,DDHA,DHA,E,GA,GGA,GHA,HA,I,JA,JJA"),
  ("KHOJKI LETTER ", "KA,KHA,LA,LLA,MA,NA,NGA,NNA,NYA,O,PA,PHA,RA,SA,TA,THA,TTA,TTHA,U,VA,YA"),
  ("KHOJKI S", "ECTION MARK,IGN ANUSVARA,IGN NUKTA,IGN SHADDA,IGN SUKUN,IGN VIRAMA"),
  ("KHOJKI VOWEL SIGN ", "AA,AI,AU,E,I,II,O,U"),
  ("KHOJKI WORD SEPARATOR", ""),
  ("KHUDAWADI DIGIT ", "EIGHT,FIVE,FOUR,NINE,ONE,SEVEN,SIX,THREE,TWO,ZERO"),
  ("KHUDAWADI LETTER ", "A,AA,AI,AU,BA,BBA,BHA,CA,CHA,DA,DDA,DDDA,DDHA,DHA,E,GA,GGA,GHA,HA"),
  ("KHUDAWADI LETTER ", "I,II,JA,JHA,JJA,KA,KHA,LA,MA,NA,NGA,NNA,NYA,O,PA,PHA,RA,RRA,SA,SHA,TA"),
  ("KHUDAWADI LETTER ", "THA,TTA,TTHA,U,UU,VA,YA"),
  ("KHUDAWADI SIGN ", "ANUSVARA,NUKTA,VIRAMA"),
  ("KHUDAWADI VOWEL SIGN ", "AA,AI,AU,E,I,II,O,U,UU"),
  ("KI", "MONO,P SIGN,SS,SS MARK,SSING CAT FACE WITH CLOSED EYES"),
  ("KISSING FACE", ", WITH CLOSED EYES, WITH SMILING EYES"),
  ("K", "ITE,IWIFRUIT,NEELING PERSON,NOT,OALA,OREAN STANDARD SYMBOL,RONOS")]

end ModelBindings.Text.CharacterName
