/-!
# Character names from O to Z

Each group of names has a front, in front of a colon, that all its names share, and
their endings behind it.
-/

namespace LogMarkup

/-- The character names whose fronts begin with letters from O to Z. -/
def namesOToZ : String := "
OBJECT: REPLACEMENT CHARACTER;
OBLIQUE: ANGLE OPENING DOWN, ANGLE OPENING UP, HYPHEN;
OBSERVER: EYE SYMBOL;
OCR: AMOUNT OF CHECK, BELT BUCKLE, BOW TIE, BRANCH BANK IDENTIFICATION, CHAIR, CUSTOMER ACCOUNT
NUMBER, DASH, DOUBLE BACKSLASH, FORK, HOOK, INVERTED FORK;
OCTAGONAL: SIGN;
OFFICE: BUILDING;
OGHAM FEATHER: MARK;
OGHAM LETTER: AILM, BEITH, CEIRT, COLL, DAIR, EABHADH, EADHADH, EAMHANCHOLL, FEARN, GORT, IFIN,
IODHADH, LUIS, MUIN, NGEADAL, NION, ONN, OR, PEITH, RUIS, SAIL, STRAIF, TINNE, UATH, UILLEANN, UR;
OGHAM REVERSED: FEATHER MARK;
OGHAM SPACE: MARK;
OHM: SIGN;
OIL: DRUM;
OK: HAND SIGN;
OL CHIKI: AHAD, PHAARKAA, RELAA;
OL CHIKI DIGIT: EIGHT, FIVE, FOUR, NINE, ONE, SEVEN, SIX, THREE, TWO, ZERO;
OL CHIKI GAAHLAA: TTUDDAAG;
OL CHIKI LETTER: AAJ, AAK, AAM, AAW, AG, AL, ANG, AT, EDD, EN, EP, ERR, IH, INY, IR, IS, LA, LAA,
LE, LI, LO, LU, OB, OH, OTT, OV, UC, UD, UNN, UY;
OL CHIKI MU: TTUDDAG;
OL CHIKI MU-GAAHLAA: TTUDDAAG;
OL CHIKI PUNCTUATION: DOUBLE MUCAAD, MUCAAD;
OLD: KEY;
OLD CHINESE: HOOK MARK, ITERATION MARK;
OLD HUNGARIAN CAPITAL LETTER: A, AA, AK, AMB, AND, CLOSE E, E, EB, EC, ECH, ECS, ED, EE, EF, EG,
EGY, EH, EJ, EK, EL, ELY, EM, EMP, EN, ENC, ENT, ENT-SHAPED SIGN, ENY, EP, ER, ES, ESZ, ET, ETY,
EV, EZ, EZS, I, II, NIKOLSBURG OE, NIKOLSBURG UE, O, OEE, OO, RUDIMENTA OE, RUDIMENTA UE, SHORT
ER, U, UNK, US, UU;
OLD HUNGARIAN NUMBER: FIFTY, FIVE, ONE, ONE HUNDRED, ONE THOUSAND, TEN;
OLD HUNGARIAN SMALL LETTER: A, AA, AK, AMB, AND, CLOSE E, E, EB, EC, ECH, ECS, ED, EE, EF, EG,
EGY, EH, EJ, EK, EL, ELY, EM, EMP, EN, ENC, ENT, ENT-SHAPED SIGN, ENY, EP, ER, ES, ESZ, ET, ETY,
EV, EZ, EZS, I, II, NIKOLSBURG OE, NIKOLSBURG UE, O, OEE, OO, RUDIMENTA OE, RUDIMENTA UE, SHORT
ER, U, UNK, US, UU;
OLD ITALIC LETTER: A, BE, CHE, DE, E, EF, EKS, EL, EM, EN, ER, ERS, ES, ESH, ESS, HE, I, II, KA,
KE, KHE, KU, NORTHERN TSE, O, PE, PHE, SHE, SOUTHERN TSE, TE, THE, U, UU, VE, YE, ZE;
OLD ITALIC NUMERAL: FIFTY, FIVE, ONE, TEN;
OLD NORTH ARABIAN LETTER: AIN, ALEF, BEH, DAD, DAL, ES-1, ES-2, ES-3, FEH, GEEM, GHAIN, HAH, HEH,
KAF, KHAH, LAM, MEEM, NOON, QAF, REH, SAD, TAH, TEH, THAL, THEH, WAW, YEH, ZAH, ZAIN;
OLD NORTH ARABIAN NUMBER: ONE, TEN, TWENTY;
OLD PERMIC LETTER: AN, BUR, CHERY, DOI, DZHOI, DZITA, E, EF, GAI, HA, I, IA, IE, KOKE, LEI, MENOE,
NENOE, O, OO, PEEI, REI, SHCHOOI, SHOOI, SII, TAI, TSIU, U, VER, VOOI, YA, YAT, YER, YERI, YERU,
YRY, YU, ZATA, ZHOI;
OLD PERSIAN NUMBER: HUNDRED, ONE, TEN, TWENTY, TWO;
OLD PERSIAN SIGN: A, AURAMAZDAA, AURAMAZDAA-2, AURAMAZDAAHA, BA, BAGA, BUUMISH, CA, DA, DAHYAAUSH,
DAHYAAUSH-2, DI, DU, FA, GA, GU, HA, I, JA, JI, KA, KU, LA, MA, MI, MU, NA, NU, PA, RA, RU, SA,
SHA, SSA, TA, THA, TU, U, VA, VI, XA, XSHAAYATHIYA, YA, ZA;
OLD PERSIAN WORD: DIVIDER;
OLD PERSONAL: COMPUTER;
OLD SOGDIAN FRACTION: ONE HALF;
OLD SOGDIAN LETTER: ALEPH, ALTERNATE AYIN, AYIN, BETH, FINAL ALEPH, FINAL BETH, FINAL HE, FINAL
NUN, FINAL NUN WITH VERTICAL TAIL, FINAL SADHE, FINAL SADHE WITH VERTICAL TAIL, FINAL TAW, FINAL
TAW WITH VERTICAL TAIL, GIMEL, HE, HETH, KAPH, LAMEDH, MEM, NUN, PE, RESH-AYIN-DALETH, SADHE,
SAMEKH, SHIN, TAW, WAW, YODH, ZAYIN;
OLD SOGDIAN LIGATURE: AYIN-DALETH;
OLD SOGDIAN NUMBER: FIVE, FOUR, ONE, ONE HUNDRED, TEN, THIRTY, THREE, TWENTY, TWO;
OLD SOUTH ARABIAN LETTER: ALEF, AYN, BETH, DALETH, DHADHE, DHALETH, FE, GHAYN, GIMEL, HE, HETH,
KAPH, KHETH, LAMEDH, MEM, NUN, QOPH, RESH, SADHE, SAMEKH, SAT, SHIN, TAW, TETH, THAW, THETH, WAW,
YODH, ZAYN;
OLD SOUTH ARABIAN NUMBER: FIFTY, ONE;
OLD SOUTH ARABIAN NUMERIC: INDICATOR;
OLD TURKIC LETTER ORKHON: A, AB, AD, AEB, AED, AEG, AEK, AEL, AEN, AER, AES, AET, AEY, AG, AL, AN,
AQ, AR, AS, ASH, AT, AY, BASH, EC, ELT, EM, ENC, ENG, ENT, ENY, EP, ESH, EZ, I, IC, IQ, O, OE,
OEK, OP, OQ, OT;
OLD TURKIC LETTER YENISEI: A, AB, AD, AE, AEB, AEG, AEK, AEN, AENG, AET, AEY, AG, AL, ANG, AQ, AR,
ASH, AT, AY, E, EC, ENC, ENT, ENY, ESH, EZ, I, IQ, OE, OEK, OQ;
OLD UYGHUR COMBINING: DOT ABOVE, DOT BELOW, TWO DOTS ABOVE, TWO DOTS BELOW;
OLD UYGHUR LETTER: ALEPH, BETH, FINAL HETH, GIMEL-HETH, KAPH, LAMEDH, LESH, MEM, NUN, PE, RESH,
SADHE, SAMEKH, SHIN, TAW, WAW, YODH, ZAYIN;
OLD UYGHUR PUNCTUATION: BAR, FOUR DOTS, TWO BARS, TWO DOTS;
OLDER: ADULT, MAN, WOMAN;
OM: SYMBOL;
ON: WITH EXCLAMATION MARK WITH LEFT RIGHT ARROW ABOVE;
ONCOMING: AUTOMOBILE, BUS, FIRE ENGINE, POLICE CAR, TAXI;
ONE: BUTTON MOUSE, DOT LEADER, DOT OVER TWO DOTS PUNCTUATION;
ONE-PIECE: SWIMSUIT;
OPEN: BOOK, BOX, CENTRE ASTERISK, CENTRE BLACK STAR, CENTRE CROSS, CENTRE TEARDROP-SPOKED
ASTERISK, FILE FOLDER, FOLDER, HANDS SIGN, LOCK, MAILBOX WITH LOWERED FLAG, MAILBOX WITH RAISED
FLAG, SUBSET, SUPERSET;
OPEN-CIRCUIT-OUTPUT: H-TYPE SYMBOL, L-TYPE SYMBOL;
OPEN-OUTLINED: RIGHTWARDS ARROW;
OPERATING: SYSTEM COMMAND;
OPTICAL: DISC, DISC ICON;
OPTION: KEY;
OR: WITH DOT INSIDE;
ORANGE: BOOK, HEART;
ORIGINAL: OF;
ORIYA: ISSHAR;
ORIYA AI: LENGTH MARK;
ORIYA AU: LENGTH MARK;
ORIYA DIGIT: EIGHT, FIVE, FOUR, NINE, ONE, SEVEN, SIX, THREE, TWO, ZERO;
ORIYA FRACTION: ONE EIGHTH, ONE HALF, ONE QUARTER, ONE SIXTEENTH, THREE QUARTERS, THREE
SIXTEENTHS;
ORIYA LETTER: A, AA, AI, AU, BA, BHA, CA, CHA, DA, DDA, DDHA, DHA, E, GA, GHA, HA, I, II, JA, JHA,
KA, KHA, LA, LLA, MA, NA, NGA, NNA, NYA, O, PA, PHA, RA, RHA, RRA, SA, SHA, SSA, TA, THA, TTA,
TTHA, U, UU, VA, VOCALIC L, VOCALIC LL, VOCALIC R, VOCALIC RR, WA, YA, YYA;
ORIYA SIGN: ANUSVARA, AVAGRAHA, CANDRABINDU, NUKTA, OVERLINE, VIRAMA, VISARGA;
ORIYA VOWEL SIGN: AA, AI, AU, E, I, II, O, U, UU, VOCALIC L, VOCALIC LL, VOCALIC R, VOCALIC RR;
ORNATE: LEFT PARENTHESIS, RIGHT PARENTHESIS;
ORTHODOX: CROSS;
OSAGE CAPITAL LETTER: A, AH, AI, AIN, BRA, CHA, DHA, E, EHCHA, EHKA, EHPA, EHTA, EHTSA, EIN, GHA,
HA, HYA, I, KA, KHA, KYA, LA, MA, NA, O, OIN, PA, SA, SHA, TA, TSA, TSHA, U, WA, ZA, ZHA;
OSAGE SMALL LETTER: A, AH, AI, AIN, BRA, CHA, DHA, E, EHCHA, EHKA, EHPA, EHTA, EHTSA, EIN, GHA,
HA, HYA, I, KA, KHA, KYA, LA, MA, NA, O, OIN, PA, SA, SHA, TA, TSA, TSHA, U, WA, ZA, ZHA;
OSMANYA DIGIT: EIGHT, FIVE, FOUR, NINE, ONE, SEVEN, SIX, THREE, TWO, ZERO;
OSMANYA LETTER: A, AA, ALEF, BA, CAYN, DEEL, DHA, E, EE, FA, GA, HA, I, JA, KAAF, KHA, LAAN, MIIN,
NUUN, O, OO, QAAF, RA, SA, SHIIN, TA, U, WAW, XA, YA;
OTTOMAN SIYAQ: MARRATAN;
OTTOMAN SIYAQ ALTERNATE NUMBER: EIGHT, FIVE, FOUR, FOUR HUNDRED, NINE, SEVEN, SIX, SIX HUNDRED,
TEN, TEN THOUSAND, THREE, TWO, TWO THOUSAND;
OTTOMAN SIYAQ FRACTION ONE: HALF, SIXTH;
OTTOMAN SIYAQ NUMBER: EIGHT, EIGHT HUNDRED, EIGHT THOUSAND, EIGHTY, EIGHTY THOUSAND, FIFTY, FIFTY
THOUSAND, FIVE, FIVE HUNDRED, FIVE THOUSAND, FORTY, FORTY THOUSAND, FOUR, FOUR HUNDRED, FOUR
THOUSAND, NINE, NINE HUNDRED, NINE THOUSAND, NINETY, NINETY THOUSAND, ONE, ONE HUNDRED, ONE
THOUSAND, SEVEN, SEVEN HUNDRED, SEVEN THOUSAND, SEVENTY, SEVENTY THOUSAND, SIX, SIX HUNDRED, SIX
THOUSAND, SIXTY, SIXTY THOUSAND, TEN, TEN THOUSAND, THIRTY, THIRTY THOUSAND, THREE, THREE HUNDRED,
THREE THOUSAND, TWENTY, TWENTY THOUSAND, TWO, TWO HUNDRED, TWO THOUSAND;
OUNCE: SIGN;
OUTBOX: TRAY;
OUTLINED: BLACK STAR, GREEK CROSS, LATIN CROSS, WHITE STAR;
OVERHEATED: FACE;
OVERLAPPING: BLACK SQUARES, WHITE AND BLACK SQUARES, WHITE SQUARES;
PADDING: CHARACTER;
PAGE: FACING UP, WITH CIRCLED TEXT, WITH CURL;
PAHAWH HMONG CLAN SIGN: FAJ, HAM, HAWJ, KHAB, KOO, KWM, LAUJ, LIS, MUAS, PHAB, THOJ, TSAB, TSHEEJ,
TSWB, VAJ, VWJ, XYOOJ, YAJ, YEEG;
PAHAWH HMONG CONSONANT: AU, CAU, CHAU, HAU, HLAU, HNAU, LAU, MAU, NAU, NCHAU, NKAU, NLAU, NTHAU,
NTSAU, PLHAU, QHAU, RAU, VAU, XAU, YAU;
PAHAWH HMONG DIGIT: EIGHT, FIVE, FOUR, NINE, ONE, SEVEN, SIX, THREE, TWO, ZERO;
PAHAWH HMONG MARK CIM: HOM, KES, KHAV, SO, SUAM, TAUM, TUB;
PAHAWH HMONG NUMBER: HUNDRED MILLIONS, HUNDREDS, MILLIONS, TEN BILLIONS, TEN THOUSANDS, TENS,
TRILLIONS;
PAHAWH HMONG SIGN: AV, CIM CHEEM, CIM CUAM TSHOOJ, CIM HAIS LUS NTOG NTOG, CIM NRES TOS, CIM PUB
DAWB, CIM TSOV ROG, CIM TXWV, CIM TXWV CHWV, HLI, HNUB, IB YAM, LOS, MEEJ SUAB, MEEJ TSEEB, MUS,
NQIG, NTUJ, TAU, THIRD-STAGE HLI, TXHEEJ CEEV, VOS FEEM, VOS LUB, VOS NRUA, VOS SEEV, VOS THIAB,
VOS THOM, VOS TSHAB CEEB, XAUS, XIAB, XYEEM FAIB, XYEEM NTXIV, XYEEM RHO, XYEEM TOV, XYOO, ZWJ
THAJ;
PAHAWH HMONG VOWEL: KAAB, KAAV, KAB, KAIB, KAIV, KAUB, KAUV, KAV, KAWB, KAWV, KEB, KEEB, KEEV,
KEV, KIAB, KIAV, KIB, KIV, KOB, KOOB, KOOV, KOV, KUAB, KUAV, KUB, KUV, KWB, KWV;
PALM: BRANCH, DOWN HAND, TREE, UP HAND;
PALMS: UP TOGETHER;
PALMYRENE LEFT-POINTING: FLEURON;
PALMYRENE LETTER: ALEPH, AYIN, BETH, DALETH, FINAL NUN, GIMEL, HE, HETH, KAPH, LAMEDH, MEM, NUN,
PE, QOPH, RESH, SADHE, SAMEKH, SHIN, TAW, TETH, WAW, YODH, ZAYIN;
PALMYRENE NUMBER: FIVE, FOUR, ONE, TEN, THREE, TWENTY, TWO;
PALMYRENE RIGHT-POINTING: FLEURON;
PANDA: FACE;
PARAGRAPH: SEPARATOR;
PARAGRAPHUS: MARK;
PARALLEL: TO, WITH HORIZONTAL STROKE, WITH TILDE OPERATOR;
PARENTHESIZED DIGIT: EIGHT, FIVE, FOUR, NINE, ONE, SEVEN, SIX, THREE, TWO;
PARENTHESIZED HANGUL: CHIEUCH, CHIEUCH A, CIEUC, CIEUC A, CIEUC U, HIEUH, HIEUH A, IEUNG, IEUNG A,
KHIEUKH, KHIEUKH A, KIYEOK, KIYEOK A, MIEUM, MIEUM A, NIEUN, NIEUN A, PHIEUPH, PHIEUPH A, PIEUP,
PIEUP A, RIEUL, RIEUL A, SIOS, SIOS A, THIEUTH, THIEUTH A, TIKEUT, TIKEUT A;
PARENTHESIZED IDEOGRAPH: ALLIANCE, CALL, CONGRATULATION, EARTH, EIGHT, ENTERPRISE, FESTIVAL,
FINANCIAL, FIRE, FIVE, FOUR, HAVE, LABOR, METAL, MOON, NAME, NINE, ONE, REACH, REPRESENT,
RESOURCE, REST, SELF, SEVEN, SIX, SOCIETY, SPECIAL, STOCK, STUDY, SUN, SUPERVISE, TEN, THREE, TWO,
WATER, WOOD;
PARENTHESIZED KOREAN CHARACTER: O HU, OJEON;
PARENTHESIZED LATIN CAPITAL LETTER: A, B, C, D, E, F, G, H, I, J, K, L, M, N, O, P, Q, R, S, T, U,
V, W, X, Y, Z;
PARENTHESIZED LATIN SMALL LETTER: A, B, C, D, E, F, G, H, I, J, K, L, M, N, O, P, Q, R, S, T, U,
V, W, X, Y, Z;
PARENTHESIZED NUMBER: EIGHTEEN, ELEVEN, FIFTEEN, FOURTEEN, NINETEEN, SEVENTEEN, SIXTEEN, TEN,
THIRTEEN, TWELVE, TWENTY;
PART: ALTERNATION MARK;
PARTIAL: DIFFERENTIAL, LINE BACKWARD, LINE DOWN, LINE FORWARD, LINE UP;
PARTIALLY-RECYCLED: PAPER SYMBOL;
PARTNERSHIP: SIGN;
PARTY: POPPER;
PASSED: SYMBOL;
PASSENGER: SHIP;
PASSIVE-PULL-DOWN-OUTPUT: SYMBOL;
PASSIVE-PULL-UP-OUTPUT: SYMBOL;
PASSPORT: CONTROL;
PAU CIN HAU GLOTTAL: STOP, STOP FINAL, STOP VARIANT;
PAU CIN HAU LETTER: A, BA, CA, CHA, DA, E, FA, FINAL K, FINAL L, FINAL M, FINAL N, FINAL NG, FINAL
P, FINAL T, FINAL W, FINAL Y, GA, HA, I, IA, KA, KHA, LA, MA, NA, NGA, O, PA, PHA, RA, SA, TA,
THA, U, UA, VA, ZA;
PAU CIN HAU LOW-FALLING: TONE, TONE FINAL, TONE LONG, TONE LONG FINAL;
PAU CIN HAU MID-LEVEL: TONE, TONE FINAL, TONE LONG FINAL;
PAU CIN HAU RISING: TONE, TONE FINAL, TONE LONG, TONE LONG FINAL;
PAU CIN HAU SANDHI: GLOTTAL STOP, GLOTTAL STOP FINAL, TONE, TONE FINAL, TONE LONG, TONE LONG
FINAL;
PAW: PRINTS;
PEACE: SYMBOL;
PEN: OVER STAMPED ENVELOPE;
PENSIVE: FACE;
PEOPLE: HUGGING;
PER: MILLE SIGN, SIGN, TEN THOUSAND SIGN;
PERCENT: SIGN;
PERFORMING: ARTS;
PERMANENT: PAPER SIGN;
PERPENDICULAR: WITH S;
PERSEVERING: FACE;
PERSON: BOWING DEEPLY, CLIMBING, DOING CARTWHEEL, FROWNING, IN LOTUS POSITION, IN STEAMY ROOM,
RAISING BOTH HANDS IN CELEBRATION, WITH BALL, WITH BLOND HAIR, WITH CROWN, WITH FOLDED HANDS, WITH
HEADSCARF, WITH POUTING FACE;
PERSONAL: COMPUTER;
PESETA: SIGN;
PESO: SIGN;
PETRI: DISH;
PHAGS-PA DOUBLE: HEAD MARK;
PHAGS-PA LETTER: A, ALTERNATE YA, ASPIRATED FA, BA, CA, CANDRABINDU, CHA, DA, DDA, DZA, E, EE, FA,
GA, GGA, HA, I, JA, KA, KHA, LA, MA, NA, NGA, NNA, NYA, O, PA, PHA, QA, RA, SA, SHA, SMALL A, TA,
THA, TSA, TSHA, TTA, TTHA, U, VOICED HA, VOICELESS SHA, WA, XA, YA, ZA, ZHA;
PHAGS-PA MARK: DOUBLE SHAD, SHAD;
PHAGS-PA SINGLE: HEAD MARK;
PHAGS-PA SUBJOINED LETTER: RA, WA, YA;
PHAGS-PA SUPERFIXED: LETTER RA;
PHAISTOS DISC SIGN: ARROW, BEE, BEEHIVE, BOOMERANG, BOW, BULLS LEG, CAPTIVE, CARPENTRY PLANE, CAT,
CHILD, CLUB, COLUMN, COMB, COMBINING OBLIQUE STROKE, DOLIUM, DOVE, EAGLE, FLUTE, GAUNTLET, GRATER,
HELMET, HIDE, HORN, LID, LILY, MANACLES, MATTOCK, OX BACK, PAPYRUS, PEDESTRIAN, PLANE TREE, PLUMED
HEAD, RAM, ROSETTE, SAW, SHIELD, SHIP, SLING, SMALL AXE, STRAINER, TATTOOED HEAD, TIARA, TUNNY,
VINE, WAVY BAND, WOMAN;
PHILIPPINE: DOUBLE PUNCTUATION, SINGLE PUNCTUATION;
PHOENICIAN LETTER: AIN, ALF, BET, DELT, GAML, HE, HET, KAF, LAMD, MEM, NUN, PE, QOF, ROSH, SADE,
SEMK, SHIN, TAU, TET, WAU, YOD, ZAI;
PHOENICIAN NUMBER: ONE, ONE HUNDRED, TEN, THREE, TWENTY, TWO;
PHOENICIAN WORD: SEPARATOR;
PICKUP: TRUCK;
PIG: FACE, NOSE;
PILCROW: SIGN;
PILE: OF POO;
PINCHED: FINGERS;
PINCHING: HAND;
PINE: DECORATION;
PINWHEEL: STAR;
PITCHFORK: WITH TEE TOP;
PLACE OF: INTEREST SIGN, WORSHIP;
PLANCK: CONSTANT, CONSTANT OVER TWO PI;
PLAYGROUND: SLIDE;
PLAYING CARD: ACE OF CLUBS, ACE OF DIAMONDS, ACE OF HEARTS, ACE OF SPADES, BACK, BLACK JOKER,
EIGHT OF CLUBS, EIGHT OF DIAMONDS, EIGHT OF HEARTS, EIGHT OF SPADES, FIVE OF CLUBS, FIVE OF
DIAMONDS, FIVE OF HEARTS, FIVE OF SPADES, FOOL, FOUR OF CLUBS, FOUR OF DIAMONDS, FOUR OF HEARTS,
FOUR OF SPADES, JACK OF CLUBS, JACK OF DIAMONDS, JACK OF HEARTS, JACK OF SPADES, KING OF CLUBS,
KING OF DIAMONDS, KING OF HEARTS, KING OF SPADES, KNIGHT OF CLUBS, KNIGHT OF DIAMONDS, KNIGHT OF
HEARTS, KNIGHT OF SPADES, NINE OF CLUBS, NINE OF DIAMONDS, NINE OF HEARTS, NINE OF SPADES, QUEEN
OF CLUBS, QUEEN OF DIAMONDS, QUEEN OF HEARTS, QUEEN OF SPADES, RED JOKER, SEVEN OF CLUBS, SEVEN OF
DIAMONDS, SEVEN OF HEARTS, SEVEN OF SPADES, SIX OF CLUBS, SIX OF DIAMONDS, SIX OF HEARTS, SIX OF
SPADES, TEN OF CLUBS, TEN OF DIAMONDS, TEN OF HEARTS, TEN OF SPADES, THREE OF CLUBS, THREE OF
DIAMONDS, THREE OF HEARTS, THREE OF SPADES, TRUMP-1, TRUMP-10, TRUMP-11, TRUMP-12, TRUMP-13,
TRUMP-14, TRUMP-15, TRUMP-16, TRUMP-17, TRUMP-18, TRUMP-19, TRUMP-2, TRUMP-20, TRUMP-21, TRUMP-3,
TRUMP-4, TRUMP-5, TRUMP-6, TRUMP-7, TRUMP-8, TRUMP-9, TWO OF CLUBS, TWO OF DIAMONDS, TWO OF
HEARTS, TWO OF SPADES, WHITE JOKER;
PLUS: SIGN;
PLUS SIGN: ABOVE EQUALS SIGN, IN LEFT HALF CIRCLE, IN RIGHT HALF CIRCLE, IN TRIANGLE, WITH BLACK
TRIANGLE, WITH CIRCUMFLEX ACCENT ABOVE, WITH DOT BELOW, WITH SMALL CIRCLE ABOVE, WITH SUBSCRIPT
TWO, WITH TILDE ABOVE, WITH TILDE BELOW;
PLUS-MINUS: SIGN;
PLUTO FORM: FIVE, FOUR, THREE, TWO;
POCKET: CALCULATOR;
POLICE: CAR, CARS REVOLVING LIGHT, OFFICER;
POP DIRECTIONAL: FORMATTING, ISOLATE;
PORTABLE: STEREO;
POSITION: INDICATOR;
POSTAL: HORN, MARK, MARK FACE;
POT: OF FOOD;
POTABLE: WATER SYMBOL;
POTTED: PLANT;
POULTRY: LEG;
POUND: SIGN;
POURING: LIQUID;
POUTING: CAT FACE, FACE;
POWER: ON SYMBOL, ON-OFF SYMBOL, SLEEP SYMBOL, SYMBOL;
PRAYER: BEADS;
PRECEDES: ABOVE ALMOST EQUAL TO, ABOVE EQUALS SIGN, ABOVE NOT ALMOST EQUAL TO, ABOVE NOT EQUAL TO,
ABOVE SINGLE-LINE EQUALS SIGN, ABOVE SINGLE-LINE NOT EQUAL TO, BUT NOT EQUIVALENT TO, OR EQUAL TO,
OR EQUIVALENT TO, UNDER RELATION;
PREGNANT: MAN, PERSON, WOMAN;
PRESCRIPTION: TAKE;
PRESENTATION FORM FOR VERTICAL: COLON, COMMA, EM DASH, EN DASH, EXCLAMATION MARK, HORIZONTAL
ELLIPSIS, IDEOGRAPHIC COMMA, IDEOGRAPHIC FULL STOP, LEFT ANGLE BRACKET, LEFT BLACK LENTICULAR
BRACKET, LEFT CORNER BRACKET, LEFT CURLY BRACKET, LEFT DOUBLE ANGLE BRACKET, LEFT PARENTHESIS,
LEFT SQUARE BRACKET, LEFT TORTOISE SHELL BRACKET, LEFT WHITE CORNER BRACKET, LEFT WHITE LENTICULAR
BRACKET, LOW LINE, QUESTION MARK, RIGHT ANGLE BRACKET, RIGHT BLACK LENTICULAR BRACKET, RIGHT
CORNER BRACKET, RIGHT CURLY BRACKET, RIGHT DOUBLE ANGLE BRACKET, RIGHT PARENTHESIS, RIGHT SQUARE
BRACKET, RIGHT TORTOISE SHELL BRACKET, RIGHT WHITE CORNER BRACKET, RIGHT WHITE LENTICULAR BRACKET,
RIGHT WHITE LENTICULAR BRAKCET, SEMICOLON, TWO DOT LEADER, WAVY LOW LINE;
PREVIOUS: PAGE;
PRINT: SCREEN SYMBOL;
PRINTER: ICON;
PRIVACY: MESSAGE;
PRIVATE: USE ONE, USE TWO, USE-1, USE-2;
PROBING: CANE;
PROHIBITED: SIGN;
PROPERTY: LINE;
PROPORTIONAL: TO;
PSALTER PAHLAVI: FOUR DOTS WITH CROSS, FOUR DOTS WITH DOT, LETTER ALEPH, LETTER BETH, LETTER
DALETH, LETTER GIMEL, LETTER HE, LETTER HETH, LETTER KAPH, LETTER LAMEDH, LETTER MEM-QOPH, LETTER
NUN, LETTER PE, LETTER SADHE, LETTER SAMEKH, LETTER SHIN, LETTER TAW, LETTER WAW-AYIN-RESH, LETTER
YODH, LETTER ZAYIN, NUMBER FOUR, NUMBER ONE, NUMBER ONE HUNDRED, NUMBER TEN, NUMBER THREE, NUMBER
TWENTY, NUMBER TWO, SECTION MARK, TURNED SECTION MARK;
PUBLIC: ADDRESS LOUDSPEAKER;
PUNCTUATION: SPACE;
PUNCTUS: ELEVATUS MARK;
PURPLE: HEART;
PUT: LITTER IN ITS PLACE SYMBOL;
QUADRANT LOWER: LEFT, RIGHT;
QUADRANT UPPER: LEFT, LEFT AND LOWER LEFT AND LOWER RIGHT, LEFT AND LOWER RIGHT, LEFT AND UPPER
RIGHT AND LOWER LEFT, LEFT AND UPPER RIGHT AND LOWER RIGHT, RIGHT, RIGHT AND LOWER LEFT, RIGHT AND
LOWER LEFT AND LOWER RIGHT;
QUADRUPLE: INTEGRAL OPERATOR, PRIME;
QUARTER: NOTE;
QUATERNION: INTEGRAL OPERATOR;
QUESTION: EXCLAMATION MARK, MARK;
QUESTIONED: EQUAL TO;
QUOTATION: MARK;
RABBIT: FACE;
RACING: CAR, MOTORCYCLE;
RADICAL: SYMBOL BOTTOM;
RADIO: BUTTON;
RADIOACTIVE: SIGN;
RAILWAY: CAR, TRACK;
RAISED: BACK OF HAND, COMMA, DOT, DOTTED INTERPOLATION MARKER, FIST, HAND, HAND WITH FINGERS
SPLAYED, HAND WITH PART BETWEEN MIDDLE AND RING FINGERS, INTERPOLATION MARKER, MC SIGN, MD SIGN,
MR SIGN, SQUARE;
RECORD: SEPARATOR;
RECREATIONAL: VEHICLE;
RECYCLED: PAPER SYMBOL;
RECYCLING SYMBOL FOR: GENERIC MATERIALS, TYPE-1 PLASTICS, TYPE-2 PLASTICS, TYPE-3 PLASTICS, TYPE-4
PLASTICS, TYPE-5 PLASTICS, TYPE-6 PLASTICS, TYPE-7 PLASTICS;
RED: APPLE, GIFT ENVELOPE;
REFERENCE: MARK;
REGIONAL INDICATOR SYMBOL LETTER: A, B, C, D, E, F, G, H, I, J, K, L, M, N, O, P, Q, R, S, T, U,
V, W, X, Y, Z;
REGISTERED: SIGN;
REJANG: VIRAMA;
REJANG CONSONANT SIGN: H, N, NG, R;
REJANG LETTER: A, BA, CA, DA, GA, HA, JA, KA, LA, MA, MBA, NA, NDA, NGA, NGGA, NYA, NYJA, PA, RA,
SA, TA, WA, YA;
REJANG SECTION: MARK;
REJANG VOWEL SIGN: AI, AU, E, EA, EU, I, O, U;
RELIEVED: FACE;
REMINDER: RIBBON;
REPLACEMENT: CHARACTER;
RESTRICTED LEFT: ENTRY-1, ENTRY-2;
RETURN: LEFT, RIGHT, SYMBOL;
REVERSE: CHECKER BOARD, INDEX, LIGHT FOUR POINTED PINWHEEL STAR, LINE FEED, SOLIDUS, SOLIDUS
OPERATOR, SOLIDUS PRECEDING SUBSET, SOLIDUS WITH HORIZONTAL STROKE, TILDE OPERATOR ABOVE LEFTWARDS
ARROW, TILDE OPERATOR ABOVE RIGHTWARDS ARROW;
REVERSED: ANGLE, ANGLE WITH UNDERBAR, COMMA, DOUBLE PRIME, DOUBLE PRIME QUOTATION MARK, DOUBLE
STROKE NOT SIGN, EMPTY SET, FORKED PARAGRAPHOS, HAND WITH MIDDLE FINGER EXTENDED, NOT SIGN,
PILCROW SIGN, PRIME, QUESTION MARK, RAISED HAND WITH FINGERS SPLAYED, RIGHT ANGLE, ROTATED FLORAL
HEART BULLET, SANS-SERIF CAPITAL L, SEMICOLON, THUMBS DOWN SIGN, THUMBS UP SIGN, TILDE, TILDE
EQUALS, TRIPLE PRIME, VICTORY HAND;
REVOLVING: HEARTS;
RIAL: SIGN;
RIBBON ARROW: DOWN LEFT, DOWN RIGHT, LEFT DOWN, LEFT UP, RIGHT DOWN, RIGHT UP, UP LEFT, UP RIGHT;
RICE: BALL, CRACKER;
RIGHT: AND LOWER ONE EIGHTH BLOCK, AND UPPER ONE EIGHTH BLOCK, ANGER BUBBLE, ANGLE, ANGLE BRACKET,
ANGLE BRACKET WITH DOT, ANGLE DOTTED SUBSTITUTION MARKER, ANGLE SUBSTITUTION MARKER, ANGLE VARIANT
WITH SQUARE, ANGLE WITH ARC, ANGLE WITH DOWNWARDS ZIGZAG ARROW, ARC GREATER-THAN BRACKET, ARROW
WITH CIRCLED PLUS, ARROW WITH SMALL CIRCLE, BLACK LENTICULAR BRACKET, BLACK TORTOISE SHELL
BRACKET, CEILING, CORNER BRACKET, CURLY BRACKET, CURLY BRACKET LOWER HOOK, CURLY BRACKET MIDDLE
PIECE, CURLY BRACKET UPPER HOOK, DOTTED SUBSTITUTION BRACKET, DOUBLE ANGLE BRACKET, DOUBLE ARROW
WITH ROUNDED HEAD, DOUBLE PARENTHESIS, DOUBLE QUOTATION MARK, DOUBLE WIGGLY FENCE, FISH TAIL, FIVE
EIGHTHS BLOCK, FLOOR, HALF BLACK CIRCLE, HALF BLACK STAR, HALF BLOCK, HALF FOLDER, HALF MEDIUM
SHADE, HALF RUNNING MAN, HAND TELEPHONE RECEIVER, LOW PARAPHRASE BRACKET, NORMAL FACTOR SEMIDIRECT
PRODUCT, ONE EIGHTH BLOCK, ONE QUARTER BLOCK, OPEN SQUARED DOT, OUTER JOIN, PARENTHESIS,
PARENTHESIS EXTENSION, PARENTHESIS LOWER HOOK, PARENTHESIS UPPER HOOK, RAISED OMISSION BRACKET,
S-SHAPED BAG DELIMITER, SEMIDIRECT PRODUCT, SEVEN EIGHTHS BLOCK, SIDEWAYS U BRACKET, SINGLE
QUOTATION MARK, SPEAKER, SPEAKER WITH ONE SOUND WAVE, SPEAKER WITH THREE SOUND WAVES, SPEECH
BUBBLE, SQUARE BRACKET, SQUARE BRACKET EXTENSION, SQUARE BRACKET LOWER CORNER, SQUARE BRACKET
UPPER CORNER, SQUARE BRACKET WITH DOUBLE STROKE, SQUARE BRACKET WITH QUILL, SQUARE BRACKET WITH
STROKE, SQUARE BRACKET WITH TICK IN BOTTOM CORNER, SQUARE BRACKET WITH TICK IN TOP CORNER, SQUARE
BRACKET WITH UNDERBAR, SUBSTITUTION BRACKET, TACK, THIRD WHITE RIGHT POINTING INDEX, THOUGHT
BUBBLE, THREE EIGHTHS BLOCK, THREE QUARTERS BLOCK, TORTOISE SHELL BRACKET, TRANSPOSITION BRACKET,
TRIANGLE, TRIANGLE ABOVE LEFT TRIANGLE, TRIANGULAR ONE QUARTER BLOCK, VERTICAL BAR WITH QUILL,
VERTICAL BOX LINE, WHITE CORNER BRACKET, WHITE CURLY BRACKET, WHITE LENTICULAR BRACKET, WHITE
PARENTHESIS, WHITE SQUARE BRACKET, WHITE TORTOISE SHELL BRACKET, WIGGLY FENCE;
RIGHT-FACING: ARMENIAN ETERNITY SIGN, FIST, SVASTI SIGN, SVASTI SIGN WITH DOTS;
RIGHT-HANDED: INTERLACED PENTAGRAM;
RIGHT-POINTING: ANGLE BRACKET, CURVED ANGLE BRACKET, DOUBLE ANGLE QUOTATION MARK, MAGNIFYING
GLASS;
RIGHT-SHADED: WHITE RIGHTWARDS ARROW;
RIGHT-SIDE: ARC CLOCKWISE ARROW;
RIGHT-TO-LEFT: EMBEDDING, ISOLATE, MARK, OVERRIDE;
RIGHTHAND: INTERIOR PRODUCT;
RIGHTWARDS: ARROW, ARROW ABOVE ALMOST EQUAL TO, ARROW ABOVE REVERSE ALMOST EQUAL TO, ARROW ABOVE
REVERSE TILDE OPERATOR, ARROW ABOVE SHORT LEFTWARDS ARROW, ARROW ABOVE TILDE OPERATOR, ARROW AND
UPPER AND LOWER ONE EIGHTH BLOCK, ARROW FROM BAR, ARROW FROM BAR TO BLACK DIAMOND, ARROW OVER
LEFTWARDS ARROW, ARROW THROUGH GREATER-THAN, ARROW THROUGH SUPERSET, ARROW THROUGH X, ARROW TO
BAR, ARROW TO BLACK DIAMOND, ARROW WITH CORNER DOWNWARDS, ARROW WITH DOTTED STEM, ARROW WITH
DOUBLE VERTICAL STROKE, ARROW WITH EQUILATERAL ARROWHEAD, ARROW WITH HOOK, ARROW WITH LARGE
TRIANGLE ARROWHEAD, ARROW WITH LOOP, ARROW WITH MEDIUM TRIANGLE ARROWHEAD, ARROW WITH NOTCHED
TAIL, ARROW WITH PLUS BELOW, ARROW WITH SMALL EQUILATERAL ARROWHEAD, ARROW WITH SMALL TRIANGLE
ARROWHEAD, ARROW WITH STROKE, ARROW WITH TAIL, ARROW WITH TAIL WITH DOUBLE VERTICAL STROKE, ARROW
WITH TAIL WITH VERTICAL STROKE, ARROW WITH TIP DOWNWARDS, ARROW WITH TIP UPWARDS, ARROW WITH
VERTICAL STROKE, ARROW-TAIL, BACK-TILTED SHADOWED WHITE ARROW, BLACK ARROW, BLACK CIRCLED WHITE
ARROW, BOTTOM SHADED WHITE ARROW, COMPRESSED ARROW, DASHED ARROW, DOUBLE ARROW, DOUBLE ARROW FROM
BAR, DOUBLE ARROW WITH STROKE, DOUBLE ARROW WITH VERTICAL STROKE, DOUBLE ARROW-TAIL, DOUBLE DASH
ARROW, FINGER-POST ARROW, FRONT-TILTED SHADOWED WHITE ARROW, HAND, HARPOON OVER LEFTWARDS HARPOON,
HARPOON WITH BARB DOWN ABOVE LEFTWARDS HARPOON WITH BARB DOWN, HARPOON WITH BARB DOWN BELOW LONG
DASH, HARPOON WITH BARB DOWN FROM BAR, HARPOON WITH BARB DOWN TO BAR, HARPOON WITH BARB DOWNWARDS,
HARPOON WITH BARB UP ABOVE LEFTWARDS HARPOON WITH BARB UP, HARPOON WITH BARB UP ABOVE LONG DASH,
HARPOON WITH BARB UP ABOVE RIGHTWARDS HARPOON WITH BARB DOWN, HARPOON WITH BARB UP FROM BAR,
HARPOON WITH BARB UP TO BAR, HARPOON WITH BARB UPWARDS, HEAVY ARROW, HEAVY COMPRESSED ARROW,
LEFT-SHADED WHITE ARROW, OPEN-HEADED ARROW, PAIRED ARROWS, QUADRUPLE ARROW, RIGHT-SHADED WHITE
ARROW, ROCKET, SANS-SERIF ARROW, SQUARED ARROW, SQUIGGLE ARROW, TOP SHADED WHITE ARROW, TRIANGLE
ARROWHEAD, TRIANGLE-HEADED ARROW, TRIANGLE-HEADED ARROW OVER LEFTWARDS TRIANGLE-HEADED ARROW,
TRIANGLE-HEADED ARROW TO BAR, TRIANGLE-HEADED ARROW WITH BOLD SHAFT, TRIANGLE-HEADED ARROW WITH
DOUBLE HORIZONTAL STROKE, TRIANGLE-HEADED ARROW WITH DOUBLE VERTICAL STROKE, TRIANGLE-HEADED ARROW
WITH HEAVY SHAFT, TRIANGLE-HEADED ARROW WITH LONG TIP DOWNWARDS, TRIANGLE-HEADED ARROW WITH LONG
TIP UPWARDS, TRIANGLE-HEADED ARROW WITH MEDIUM SHAFT, TRIANGLE-HEADED ARROW WITH NARROW SHAFT,
TRIANGLE-HEADED ARROW WITH VERY HEAVY SHAFT, TRIANGLE-HEADED DASHED ARROW, TRIANGLE-HEADED PAIRED
ARROWS, TRIPLE ARROW, TRIPLE DASH ARROW, TWO HEADED ARROW, TWO-HEADED ARROW FROM BAR, TWO-HEADED
ARROW WITH DOUBLE VERTICAL STROKE, TWO-HEADED ARROW WITH TAIL, TWO-HEADED ARROW WITH TAIL WITH
DOUBLE VERTICAL STROKE, TWO-HEADED ARROW WITH TAIL WITH VERTICAL STROKE, TWO-HEADED ARROW WITH
TRIANGLE ARROWHEADS, TWO-HEADED ARROW WITH VERTICAL STROKE, TWO-HEADED TRIPLE DASH ARROW, WAVE
ARROW, WHITE ARROW, WHITE ARROW FROM WALL, WHITE ARROW WITHIN TRIANGLE ARROWHEAD;
RING: ABOVE, BUOY, EQUAL TO, IN EQUAL TO, OPERATOR, POINT;
RINGED: PLANET;
RINGING: BELL;
RISING DIAGONAL CROSSING: FALLING DIAGONAL, SOUTH EAST ARROW;
ROASTED: SWEET POTATO;
ROBOT: FACE;
ROLL: OF PAPER;
ROLLED-UP: NEWSPAPER;
ROLLER: COASTER, SKATE;
ROLLING: ON THE FLOOR LAUGHING;
ROMAN: AS SIGN, CENTURIAL SIGN, DENARIUS SIGN, DIMIDIA SEXTULA SIGN, DUPONDIUS SIGN, NUMERAL
EIGHT, NUMERAL ELEVEN, NUMERAL FIFTY, NUMERAL FIFTY EARLY FORM, NUMERAL FIFTY THOUSAND, NUMERAL
FIVE, NUMERAL FIVE HUNDRED, NUMERAL FIVE THOUSAND, NUMERAL FOUR, NUMERAL NINE, NUMERAL ONE,
NUMERAL ONE HUNDRED, NUMERAL ONE HUNDRED THOUSAND, NUMERAL ONE THOUSAND, NUMERAL ONE THOUSAND C D,
NUMERAL REVERSED ONE HUNDRED, NUMERAL SEVEN, NUMERAL SIX, NUMERAL SIX LATE FORM, NUMERAL TEN,
NUMERAL TEN THOUSAND, NUMERAL THREE, NUMERAL TWELVE, NUMERAL TWO, QUINARIUS SIGN, SEMUNCIA SIGN,
SESTERTIUS SIGN, SEXTANS SIGN, SEXTULA SIGN, SILIQUA SIGN, UNCIA SIGN;
ROTATED: CAPITAL Q, FLORAL HEART BULLET, HEAVY BLACK HEART BULLET, LIGHT FOUR POINTED BLACK CUSP,
WHITE FOUR POINTED CUSP;
ROUND: PUSHPIN, TARGET;
ROUNDED SYMBOL FOR: CAI, FU, LU, SHOU, SHUANGXI, XI;
RUBLE: SIGN;
RUGBY: FOOTBALL;
RUMI DIGIT: EIGHT, FIVE, FOUR, NINE, ONE, SEVEN, SIX, THREE, TWO;
RUMI FRACTION: ONE HALF, ONE QUARTER, ONE THIRD, TWO THIRDS;
RUMI NUMBER: EIGHT HUNDRED, EIGHTY, FIFTY, FIVE HUNDRED, FORTY, FOUR HUNDRED, NINE HUNDRED,
NINETY, ONE HUNDRED, SEVEN HUNDRED, SEVENTY, SIX HUNDRED, SIXTY, TEN, THIRTY, THREE HUNDRED,
TWENTY, TWO HUNDRED;
RUNIC ARLAUG: SYMBOL;
RUNIC BELGTHOR: SYMBOL;
RUNIC CROSS: PUNCTUATION;
RUNIC LETTER: AC A, AESC, ALGIZ EOLHX, ANSUZ A, BERKANAN BEORC BJARKAN B, C, CALC, CEALC, CEN,
CWEORTH, D, DAGAZ DAEG D, DOTTED-L, DOTTED-N, DOTTED-P, E, EAR, EHWAZ EH E, ENG, ETH, FEHU FEOH FE
F, FRANKS CASKET AC, FRANKS CASKET AESC, FRANKS CASKET EH, FRANKS CASKET IS, FRANKS CASKET OS, G,
GAR, GEBO GYFU G, GER, HAEGL H, HAGLAZ H, ICELANDIC-YR, ING, INGWAZ, IOR, ISAZ IS ISS I, IWAZ EOH,
JERAN J, K, KAUN K, KAUNA, LAUKAZ LAGU LOGR L, LONG-BRANCH-AR AE, LONG-BRANCH-HAGALL H,
LONG-BRANCH-MADR M, LONG-BRANCH-OSS O, LONG-BRANCH-YR, MANNAZ MAN M, NAUDIZ NYD NAUD N, O, OE, ON,
OO, OPEN-P, OS O, OTHALAN ETHEL O, PERTHO PEORTH P, Q, RAIDO RAD REID R, SH, SHORT-TWIG-AR A,
SHORT-TWIG-BJARKAN B, SHORT-TWIG-HAGALL H, SHORT-TWIG-MADR M, SHORT-TWIG-NAUD N, SHORT-TWIG-OSS O,
SHORT-TWIG-SOL S, SHORT-TWIG-TYR T, SHORT-TWIG-YR, SIGEL LONG-BRANCH-SOL S, SOWILO S, STAN,
THURISAZ THURS THORN, TIWAZ TIR TYR T, URUZ UR U, V, W, WUNJO WYNN W, X, Y, YR, Z;
RUNIC MULTIPLE: PUNCTUATION;
RUNIC SINGLE: PUNCTUATION;
RUNIC TVIMADUR: SYMBOL;
RUNNING: SHIRT WITH SASH;
RUPEE: SIGN;
RUSSIAN ASTROLOGICAL SYMBOL: BINOVILE, NOVILE, QUINTILE, SENTAGON, TREDECILE, VIGINTILE;
S: IN TRIANGLE;
SAFETY: PIN, VEST;
SAKE: BOTTLE AND CUP;
SALT: SHAKER;
SALUTING: FACE;
SAMARITAN ABBREVIATION: MARK;
SAMARITAN LETTER: ALAF, BAA, BIT, DALAT, FI, GAMAN, IN, IT, IY, KAAF, LABAT, MIM, NUN, QUF, RISH,
SHAN, SINGAAT, TAAF, TIT, TSAADIY, YUT, ZEN;
SAMARITAN MARK: DAGESH, EPENTHETIC YUT, IN, IN-ALAF, NEQUDAA, OCCLUSION;
SAMARITAN MODIFIER LETTER: EPENTHETIC YUT, I, SHORT A;
SAMARITAN PUNCTUATION: AFSAAQ, ANGED, ANNAAU, ARKAANU, ATMAAU, BAU, MELODIC QITSA, NEQUDAA, QITSA,
SHIYYAALAA, SOF MASHFAAT, TURU, ZAEF, ZIQAA;
SAMARITAN VOWEL SIGN: A, AA, E, I, LONG A, LONG AA, LONG E, LONG I, LONG U, O, OVERLONG A,
OVERLONG AA, SHORT A, SUKUN, U;
SANS-SERIF: HEAVY DOUBLE COMMA QUOTATION MARK ORNAMENT, HEAVY DOUBLE TURNED COMMA QUOTATION MARK
ORNAMENT, HEAVY LOW DOUBLE COMMA QUOTATION MARK ORNAMENT, INTERROBANG ORNAMENT;
SATELLITE: ANTENNA;
SAURASHTRA: DANDA;
SAURASHTRA CONSONANT: SIGN HAARU;
SAURASHTRA DIGIT: EIGHT, FIVE, FOUR, NINE, ONE, SEVEN, SIX, THREE, TWO, ZERO;
SAURASHTRA DOUBLE: DANDA;
SAURASHTRA LETTER: A, AA, AI, AU, BA, BHA, CA, CHA, DA, DDA, DDHA, DHA, E, EE, GA, GHA, HA, I, II,
JA, JHA, KA, KHA, LA, LLA, MA, NA, NGA, NNA, NYA, O, OO, PA, PHA, RA, SA, SHA, SSA, TA, THA, TTA,
TTHA, U, UU, VA, VOCALIC L, VOCALIC LL, VOCALIC R, VOCALIC RR, YA;
SAURASHTRA SIGN: ANUSVARA, CANDRABINDU, VIRAMA, VISARGA;
SAURASHTRA VOWEL SIGN: AA, AI, AU, E, EE, I, II, O, OO, U, UU, VOCALIC L, VOCALIC LL, VOCALIC R,
VOCALIC RR;
SCHOOL: SATCHEL;
SCRIPT CAPITAL: B, E, F, H, I, L, M, P, R;
SCRIPT LIGATURE: ET ORNAMENT;
SCRIPT SMALL: E, G, L, O;
SECOND: PLACE MEDAL;
SECTION: SIGN;
SEE-NO-EVIL: MONKEY;
SEGMENTED DIGIT: EIGHT, FIVE, FOUR, NINE, ONE, SEVEN, SIX, THREE, TWO, ZERO;
SEMIDIRECT: PRODUCT WITH BOTTOM CLOSED;
SEPARATED: SYMBOL;
SERIOUS: FACE WITH SYMBOLS COVERING MOUTH;
SERVICE: MARK;
SESAME: DOT;
SET: MINUS, TRANSMIT STATE;
SEWING: NEEDLE;
SHADOWED WHITE: CIRCLE, LATIN CROSS, STAR;
SHALLOW: PAN OF FOOD;
SHARADA: DANDA, EKAM, HEADSTROKE, OM, SEPARATOR;
SHARADA ABBREVIATION: SIGN;
SHARADA CONTINUATION: SIGN;
SHARADA DIGIT: EIGHT, FIVE, FOUR, NINE, ONE, SEVEN, SIX, THREE, TWO, ZERO;
SHARADA DOUBLE: DANDA;
SHARADA EXTRA: SHORT VOWEL MARK;
SHARADA LETTER: A, AA, AI, AU, BA, BHA, CA, CHA, DA, DDA, DDHA, DHA, E, GA, GHA, HA, I, II, JA,
JHA, KA, KHA, LA, LLA, MA, NA, NGA, NNA, NYA, O, PA, PHA, RA, SA, SHA, SSA, TA, THA, TTA, TTHA, U,
UU, VA, VOCALIC L, VOCALIC LL, VOCALIC R, VOCALIC RR, YA;
SHARADA SANDHI: MARK;
SHARADA SECTION: MARK-1, MARK-2;
SHARADA SIGN: ANUSVARA, AVAGRAHA, CANDRABINDU, INVERTED CANDRABINDU, JIHVAMULIYA, NUKTA, SIDDHAM,
UPADHMANIYA, VIRAMA, VISARGA;
SHARADA SUTRA: MARK;
SHARADA VOWEL MODIFIER: MARK;
SHARADA VOWEL SIGN: AA, AI, AU, E, I, II, O, PRISHTHAMATRA E, U, UU, VOCALIC L, VOCALIC LL,
VOCALIC R, VOCALIC RR;
SHAVED: ICE;
SHAVIAN LETTER: ADO, AGE, AH, AIR, ARE, ARRAY, ASH, AWE, BIB, CHURCH, DEAD, EAR, EAT, EGG, ERR,
FEE, GAG, HA-HA, HUNG, IAN, ICE, IF, JUDGE, KICK, LOLL, MEASURE, MIME, NUN, OAK, OIL, ON, OOZE,
OR, OUT, PEEP, ROAR, SO, SURE, THEY, THIGH, TOT, UP, VOW, WOE, WOOL, YEA, YEW, ZOO;
SHIFT: IN, OUT;
SHINTO: SHRINE;
SHOCKED: FACE WITH EXPLODING HEAD;
SHOOTING: STAR;
SHOPPING: BAGS, TROLLEY;
SHORT: BACKSLANTED SOUTH ARROW, BENT ARROW POINTING DOWNWARDS THEN NORTH EAST, DOWN TACK, DOWN
TACK WITH OVERBAR, LEFT TACK, RIGHTWARDS ARROW ABOVE LEFTWARDS ARROW, SLANTED NORTH ARROW, UP
TACK, UP TACK ABOVE SHORT DOWN TACK, UP TACK WITH UNDERBAR;
SHORTHAND FORMAT: CONTINUING OVERLAP, DOWN STEP, LETTER OVERLAP, UP STEP;
SHOULDERED: OPEN BOX;
SHUFFLE: PRODUCT;
SIDDHAM: DANDA;
SIDDHAM DOUBLE: DANDA;
SIDDHAM END: OF TEXT MARK;
SIDDHAM LETTER: A, AA, AI, ALTERNATE U, AU, BA, BHA, CA, CHA, DA, DDA, DDHA, DHA, E, GA, GHA, HA,
I, II, JA, JHA, KA, KHA, LA, MA, NA, NGA, NNA, NYA, O, PA, PHA, RA, SA, SHA, SSA, TA, THA,
THREE-CIRCLE ALTERNATE I, TTA, TTHA, TWO-CIRCLE ALTERNATE I, TWO-CIRCLE ALTERNATE II, U, UU, VA,
VOCALIC L, VOCALIC LL, VOCALIC R, VOCALIC RR, YA;
SIDDHAM REPETITION: MARK-1, MARK-2, MARK-3;
SIDDHAM SECTION MARK DOUBLE: RING, RING WITH RAYS;
SIDDHAM SECTION MARK WITH: CIRCLES AND FOUR ENCLOSURES, CIRCLES AND RAYS, CIRCLES AND TWO
ENCLOSURES, DOUBLE CRESCENTS, QUADRUPLE CRESCENTS, RAYS AND DOTTED CRESCENTS, RAYS AND DOTTED
DOUBLE CRESCENTS, RAYS AND DOTTED TRIPLE CRESCENTS, SEPTUPLE CRESCENTS, TRIDENT AND DOTTED
CRESCENTS, TRIDENT AND U-SHAPED ORNAMENTS, TRIPLE CRESCENTS;
SIDDHAM SEPARATOR: BAR, DOT;
SIDDHAM SIGN: ANUSVARA, CANDRABINDU, NUKTA, SIDDHAM, VIRAMA, VISARGA;
SIDDHAM VOWEL SIGN: AA, AI, ALTERNATE U, ALTERNATE UU, AU, E, I, II, O, U, UU, VOCALIC R, VOCALIC
RR;
SIDEWAYS: BLACK DOWN POINTING INDEX, BLACK LEFT POINTING INDEX, BLACK RIGHT POINTING INDEX, BLACK
UP POINTING INDEX, WHITE DOWN POINTING INDEX, WHITE LEFT POINTING INDEX, WHITE RIGHT POINTING
INDEX, WHITE UP POINTING INDEX;
SIGN: OF THE HORNS;
SIGNWRITING: COLON, COMMA, EARS, EXCITEMENT, FINGER, HAIR, HAND-ANGLE, HAND-CIRCLE, HAND-CLAW,
HAND-CUP, HAND-CURLICUE, HAND-FIST, HAND-FLAT, HAND-HINGE, HAND-HOOK, HAND-OVAL, HEAD, NECK,
PARENTHESIS, SEMICOLON, TEETH;
SIGNWRITING AIR: BLOW SMALL ROTATIONS, BLOWING OUT, SUCK SMALL ROTATIONS, SUCKING IN;
SIGNWRITING BREATH: EXHALE, INHALE;
SIGNWRITING BRUSH: BETWEEN, MULTIPLE, SINGLE;
SIGNWRITING CHEEKS: NEUTRAL, PUFFED, SUCKED;
SIGNWRITING DREAMY EYEBROWS: DOWN NEUTRAL, NEUTRAL DOWN, NEUTRAL UP, UP NEUTRAL;
SIGNWRITING DYNAMIC: ARROWHEAD LARGE, ARROWHEAD SMALL, EVERY OTHER TIME, FAST, GRADUAL, RELAXED,
SIMULTANEOUS, SIMULTANEOUS ALTERNATING, SLOW, TENSE;
SIGNWRITING EYE: BLINK MULTIPLE, BLINK SINGLE, WINK;
SIGNWRITING EYEBROWS STRAIGHT: DOWN, NEUTRAL, UP;
SIGNWRITING EYEGAZE-FLOORPLANE: CURVED, STRAIGHT, STRAIGHT ALTERNATING, STRAIGHT DOUBLE;
SIGNWRITING EYEGAZE-WALLPLANE: CIRCLING, CURVED, STRAIGHT, STRAIGHT ALTERNATING, STRAIGHT DOUBLE;
SIGNWRITING EYELASHES: DOWN, FLUTTERING, UP;
SIGNWRITING EYES: CLOSED, HALF CLOSED, HALF OPEN, OPEN, SQUEEZED, WIDE OPEN, WIDENING MOVEMENT;
SIGNWRITING FACE DIRECTION POSITION NOSE: FORWARD TILTING, UP OR DOWN, UP OR DOWN TILTING;
SIGNWRITING FILL: MODIFIER-2, MODIFIER-3, MODIFIER-4, MODIFIER-5, MODIFIER-6;
SIGNWRITING FLICK: LARGE MULTIPLE, LARGE SINGLE, SEQUENTIAL, SMALL MULTIPLE, SMALL SINGLE;
SIGNWRITING FLOORPLANE: SHOULDER HIP MOVE;
SIGNWRITING FOREHEAD: CONTACT, NEUTRAL, WRINKLED;
SIGNWRITING FULL: STOP;
SIGNWRITING GRASP: BETWEEN, MULTIPLE, SINGLE;
SIGNWRITING HAND-ANGLE: INDEX, INDEX MIDDLE LITTLE, INDEX MIDDLE RING, INDEX RING LITTLE, INDEX
RING LITTLE OUT, INDEX THUMB, INDEX THUMB IN, INDEX THUMB OUT, LITTLE INDEX, LITTLE INDEX THUMB
INDEX THUMB, LITTLE INDEX THUMB INDEX THUMB OUT, LITTLE UP, MIDDLE RING LITTLE, MIDDLE RING LITTLE
IN, MIDDLE RING LITTLE OUT, RING DOWN MIDDLE THUMB INDEX CROSS, RING LITTLE;
SIGNWRITING HAND-CIRCLE: INDEX, INDEX BENT, INDEX HINGE, INDEX MIDDLE, INDEX MIDDLE CROSS LITTLE,
INDEX MIDDLE CROSSED, INDEX MIDDLE LITTLE, INDEX MIDDLE RING, INDEX MIDDLE THUMB, INDEX RING
LITTLE, LITTLE INDEX, LITTLE UP, MIDDLE RING LITTLE, MIDDLE RING LITTLE BENT, MIDDLE UP, RING
LITTLE;
SIGNWRITING HAND-CLAW: FOUR FINGERS CONJOINED, INDEX THUMB CURVE THUMB INSIDE, MIDDLE RING LITTLE
CONJOINED, MIDDLE RING LITTLE CONJOINED SIDE, NO THUMB, THUMB FORWARD, THUMB SIDE;
SIGNWRITING HAND-CUP: FIVE FINGERS SPREAD, FIVE FINGERS SPREAD OPEN, INDEX, INDEX RING LITTLE,
INDEX THUMB, INDEX THUMB OPEN, MIDDLE RING LITTLE, NO THUMB, OPEN, OPEN NO THUMB, OPEN THUMB
FORWARD, OPEN THUMB SIDE, THUMB FORWARD, THUMB SIDE;
SIGNWRITING HAND-CURLICUE: INDEX RING LITTLE ON, MIDDLE RING LITTLE ON, OPEN;
SIGNWRITING HAND-FIST: HEEL, INDEX, THUMB;
SIGNWRITING HAND-FIST FOUR: FINGERS CONJOINED BENT;
SIGNWRITING HAND-FIST INDEX: BENT, BENT OVER MIDDLE, CUPPED, HINGED, HINGED LOW, HINGED MIDDLE UP,
HINGED MIDDLE UP THUMB SIDE, MIDDLE, MIDDLE BENT, MIDDLE BENT THUMB STRAIGHT, MIDDLE CONJOINED,
MIDDLE CONJOINED CUPPED, MIDDLE CONJOINED CUPPED THUMB FORWARD, MIDDLE CONJOINED HINGED, MIDDLE
CONJOINED HINGED THUMB SIDE, MIDDLE CONJOINED INDEX BENT, MIDDLE CONJOINED MIDDLE BENT, MIDDLE
CONJOINED THUMB FORWARD, MIDDLE CONJOINED THUMB SIDE, MIDDLE CONJOINED THUMB SIDE BENT, MIDDLE
CONJOINED THUMB SIDE CONJOINED, MIDDLE CROSS LITTLE, MIDDLE CROSSED, MIDDLE CROSSED THUMB SIDE,
MIDDLE HINGED, MIDDLE HINGED SPREAD THUMB SIDE, MIDDLE LITTLE, MIDDLE RAISED KNUCKLES, MIDDLE
RING, MIDDLE RING BENT, MIDDLE RING CONJOINED, MIDDLE STRAIGHT THUMB BENT, MIDDLE THUMB, MIDDLE
THUMB ANGLED, MIDDLE THUMB ANGLED OUT, MIDDLE THUMB BENT, MIDDLE THUMB CIRCLED, MIDDLE THUMB
CONJOINED HINGED, MIDDLE THUMB CUPPED, MIDDLE THUMB HINGED, MIDDLE THUMB HOOKED, MIDDLE UP SPREAD
THUMB FORWARD, RAISED KNUCKLE, RING LITTLE, THUMB ANGLED IN MIDDLE UP, THUMB ANGLED OUT MIDDLE UP,
THUMB CIRCLE, THUMB CIRCLED MIDDLE UP, THUMB CUPPED MIDDLE UP, THUMB CURLICUE, THUMB CURVE THUMB
INSIDE, THUMB CURVE THUMB UNDER, THUMB FORWARD INDEX BENT, THUMB FORWARD INDEX STRAIGHT, THUMB
HOOK, THUMB HOOKED MIDDLE HINGED, THUMB HOOKED MIDDLE UP, THUMB SIDE, THUMB SIDE BOTH BENT, THUMB
SIDE INDEX BENT, THUMB SIDE INDEX HINGE, THUMB SIDE THUMB BENT, THUMB SIDE THUMB CONJOINED, THUMB
SIDE THUMB DIAGONAL, UP MIDDLE HINGED, UP MIDDLE HINGED THUMB CONJOINED, UP MIDDLE HINGED THUMB
SIDE;
SIGNWRITING HAND-FIST LITTLE: BENT, DOWN, DOWN OTHERS CIRCLED, DOWN RIPPLE CURVED, DOWN RIPPLE
STRAIGHT, INDEX, INDEX THUMB, RAISED KNUCKLE, THUMB, TOUCHES THUMB, UP;
SIGNWRITING HAND-FIST MIDDLE: BENT OVER INDEX, DOWN, LITTLE, RAISED KNUCKLE, RING LITTLE, THUMB
ANGLED INDEX UP, THUMB ANGLED OUT INDEX CROSSED, THUMB ANGLED OUT INDEX UP, THUMB CIRCLED INDEX
HINGED, THUMB CIRCLED INDEX UP, THUMB CUPPED INDEX UP, THUMB HOOKED INDEX UP, THUMB LITTLE, UP, UP
THUMB SIDE;
SIGNWRITING HAND-FIST RING: DOWN, INDEX, LITTLE, MIDDLE, MIDDLE CONJOINED, MIDDLE RAISED KNUCKLES,
RAISED KNUCKLE, THUMB, UP;
SIGNWRITING HAND-FIST THUMB: BETWEEN INDEX MIDDLE, BETWEEN INDEX MIDDLE STRAIGHT, BETWEEN MIDDLE
RING, BETWEEN RING LITTLE, FORWARD, HEEL, OVER FOUR RAISED KNUCKLES, OVER TWO FINGERS, SIDE BENT,
SIDE CONJOINED, SIDE DIAGONAL, UNDER FOUR FINGERS, UNDER INDEX BENT, UNDER LITTLE UP, UNDER THREE
FINGERS, UNDER TWO FINGERS;
SIGNWRITING HAND-FLAT: BETWEEN PALM FACINGS, FIVE FINGERS SPREAD, FIVE FINGERS SPREAD BENT, FIVE
FINGERS SPREAD FOUR BENT, FIVE FINGERS SPREAD HINGED, FIVE FINGERS SPREAD HINGED NO THUMB, FIVE
FINGERS SPREAD HINGED THUMB SIDE, FIVE FINGERS SPREAD THUMB FORWARD, FOUR FINGERS, FOUR FINGERS
BENT, FOUR FINGERS CONJOINED, FOUR FINGERS CONJOINED SPLIT, FOUR FINGERS HINGED, HEEL, HEEL FIVE
FINGERS SPREAD, HEEL FIVE FINGERS SPREAD BENT, HEEL FIVE FINGERS SPREAD FOUR BENT, HEEL THUMB
SIDE, SPLIT CENTRE, SPLIT CENTRE THUMB SIDE, SPLIT CENTRE THUMB SIDE BENT, SPLIT INDEX THUMB SIDE,
SPLIT LITTLE, THUMB BENT, THUMB FORWARD, THUMB SIDE;
SIGNWRITING HAND-HINGE: FIVE FINGERS SPREAD OPEN, FOUR FINGERS CONJOINED, INDEX, INDEX HINGED,
INDEX MIDDLE LITTLE, INDEX MIDDLE RING, INDEX MIDDLE RING CONJOINED, INDEX RING LITTLE, INDEX
THUMB, INDEX THUMB LARGE, INDEX THUMB OPEN, INDEX THUMB SIDE, INDEX THUMB SMALL, LITTLE, LITTLE
INDEX, LITTLE INDEX THUMB, LITTLE THUMB, MIDDLE, MIDDLE RING LITTLE, NO THUMB, OPEN, OPEN NO
THUMB, OPEN THUMB FORWARD, OPEN THUMB SIDE, RING, RING DOWN INDEX THUMB HOOK MIDDLE, SMALL, THUMB
BETWEEN MIDDLE RING, THUMB SIDE, THUMB SIDE TOUCHING INDEX;
SIGNWRITING HAND-HOOK: CURLICUE, INDEX RING LITTLE IN, INDEX RING LITTLE OUT, INDEX RING LITTLE
UNDER, MIDDLE RING LITTLE CONJOINED, MIDDLE RING LITTLE CONJOINED IN, MIDDLE RING LITTLE CONJOINED
OUT, MIDDLE THUMB, RING THUMB;
SIGNWRITING HAND-OVAL: FIVE FINGERS SPREAD, INDEX, LITTLE UP, NO THUMB, RING LITTLE, THUMB
FORWARD, THUMB SIDE;
SIGNWRITING HEAD: MOVEMENT CIRCLE, MOVEMENT-FLOORPLANE CURVE, MOVEMENT-FLOORPLANE STRAIGHT,
MOVEMENT-WALLPLANE CURVE, MOVEMENT-WALLPLANE STRAIGHT, MOVEMENT-WALLPLANE TILT, RIM;
SIGNWRITING LIMB: COMBINATION, LENGTH-1, LENGTH-2, LENGTH-3, LENGTH-4, LENGTH-5, LENGTH-6,
LENGTH-7;
SIGNWRITING LIP: LOWER OVER UPPER, UPPER OVER LOWER;
SIGNWRITING LIPS: PRESSED TOGETHER;
SIGNWRITING LOCATION: DEPTH, HEAD NECK, HEIGHT, LIMBS DIGITS, TORSO, WIDTH;
SIGNWRITING LOCATION-FLOORPLANE: SPACE;
SIGNWRITING LOCATION-WALLPLANE: SPACE;
SIGNWRITING MOUTH: CLOSED CONTACT, CLOSED FORWARD, CLOSED NEUTRAL, CORNERS, FROWN, FROWN OPEN,
FROWN WRINKLED, KISS, KISS FORWARD, KISS WRINKLED, OPEN CIRCLE, OPEN FORWARD, OPEN OVAL, OPEN OVAL
WRINKLED, OPEN OVAL YAWN, OPEN RECTANGLE, OPEN RECTANGLE WRINKLED, OPEN RECTANGLE YAWN, OPEN
WRINKLED, SMILE, SMILE OPEN, SMILE WRINKLED, TENSE, TENSE FORWARD, TENSE SUCKED, WRINKLES DOUBLE,
WRINKLES SINGLE;
SIGNWRITING MOVEMENT-DIAGONAL: AWAY LARGE, AWAY LARGEST, AWAY MEDIUM, AWAY SMALL, BETWEEN AWAY
LARGE, BETWEEN AWAY LARGEST, BETWEEN AWAY MEDIUM, BETWEEN AWAY SMALL, BETWEEN TOWARDS LARGE,
BETWEEN TOWARDS LARGEST, BETWEEN TOWARDS MEDIUM, BETWEEN TOWARDS SMALL, TOWARDS LARGE, TOWARDS
LARGEST, TOWARDS MEDIUM, TOWARDS SMALL;
SIGNWRITING MOVEMENT-FLOORPLANE: ARM CIRCLE HITTING WALL LARGE DOUBLE, ARM CIRCLE HITTING WALL
LARGE SINGLE, ARM CIRCLE HITTING WALL MEDIUM DOUBLE, ARM CIRCLE HITTING WALL MEDIUM SINGLE, ARM
CIRCLE HITTING WALL SMALL DOUBLE, ARM CIRCLE HITTING WALL SMALL SINGLE, BEND, BOX LARGE, BOX
MEDIUM, BOX SMALL, CHECK, CORNER LARGE, CORNER MEDIUM, CORNER SMALL, CROSS, CURVE COMBINED, CURVE
HITTING CEILING LARGE, CURVE HITTING CEILING SMALL, CURVE HITTING FLOOR LARGE, CURVE HITTING FLOOR
SMALL, CURVE LARGE, CURVE LARGEST, CURVE MEDIUM, CURVE SMALL, DOUBLE ALTERNATING, DOUBLE
ALTERNATING WRIST FLEX, DOUBLE STRAIGHT, DOUBLE WRIST FLEX, FINGER CIRCLES HITTING WALL DOUBLE,
FINGER CIRCLES HITTING WALL SINGLE, FINGER CONTACT, HUMP HITTING CEILING LARGE DOUBLE, HUMP
HITTING CEILING LARGE TRIPLE, HUMP HITTING CEILING SMALL DOUBLE, HUMP HITTING CEILING SMALL
TRIPLE, HUMP HITTING FLOOR LARGE DOUBLE, HUMP HITTING FLOOR SMALL DOUBLE, HUMP HITTING FLOOR
TRIPLE LARGE TRIPLE, HUMP HITTING FLOOR TRIPLE SMALL TRIPLE, HUMP SMALL, JAW, LOOP HITTING CEILING
LARGE DOUBLE, LOOP HITTING CEILING LARGE SINGLE, LOOP HITTING CEILING SMALL DOUBLE, LOOP HITTING
CEILING SMALL SINGLE, LOOP HITTING FLOOR LARGE DOUBLE, LOOP HITTING FLOOR LARGE SINGLE, LOOP
HITTING FLOOR SMALL DOUBLE, LOOP HITTING FLOOR SMALL SINGLE, LOOP SMALL, PEAKS LARGE, PEAKS
MEDIUM, PEAKS SMALL, SHAKING PARALLEL, SINGLE STRAIGHT LARGE, SINGLE STRAIGHT LARGEST, SINGLE
STRAIGHT MEDIUM, SINGLE STRAIGHT SMALL, SINGLE WRIST FLEX, TRIPLE ALTERNATING MOVEMENT, TRIPLE
ALTERNATING WRIST FLEX, TRIPLE STRAIGHT MOVEMENT, TRIPLE WRIST FLEX, WAVE HITTING CEILING LARGE,
WAVE HITTING CEILING SMALL, WAVE HITTING FLOOR LARGE, WAVE HITTING FLOOR SMALL, WAVE LARGE, WAVE
SMALL, WAVE SNAKE, WRIST CIRCLE HITTING WALL DOUBLE, WRIST CIRCLE HITTING WALL SINGLE, ZIGZAG
LARGE, ZIGZAG MEDIUM, ZIGZAG SMALL;
SIGNWRITING MOVEMENT-HINGE: DOWN SEQUENTIAL, SIDE TO SIDE SCISSORS, UP DOWN ALTERNATING LARGE, UP
DOWN ALTERNATING SMALL, UP DOWN LARGE, UP DOWN SMALL, UP SEQUENTIAL;
SIGNWRITING MOVEMENT-WALLPLANE: ARM CIRCLE MEDIUM DOUBLE, ARM CIRCLE MEDIUM SINGLE, ARM CIRCLE
SMALL DOUBLE, ARM CIRCLE SMALL SINGLE, BEND LARGE, BEND MEDIUM, BEND SMALL, BOX LARGE, BOX MEDIUM,
BOX SMALL, CHECK LARGE, CHECK MEDIUM, CHECK SMALL, CORNER LARGE, CORNER MEDIUM, CORNER ROTATION,
CORNER SMALL, CROSS, CURVE HALF-CIRCLE LARGE, CURVE HALF-CIRCLE LARGEST, CURVE HALF-CIRCLE MEDIUM,
CURVE HALF-CIRCLE SMALL, CURVE HITTING CHEST, CURVE HITTING FRONT WALL, CURVE QUARTER LARGE, CURVE
QUARTER LARGEST, CURVE QUARTER MEDIUM, CURVE QUARTER SMALL, CURVE THEN STRAIGHT, CURVE
THREE-QUARTER CIRCLE MEDIUM, CURVE THREE-QUARTER CIRCLE SMALL, CURVED CROSS MEDIUM, CURVED CROSS
SMALL, DOUBLE ALTERNATING, DOUBLE ALTERNATING WRIST FLEX, DOUBLE STRAIGHT, DOUBLE WRIST FLEX,
FINGER CIRCLES DOUBLE, FINGER CIRCLES SINGLE, FINGER CONTACT, HUMP HITTING CHEST, HUMP HITTING
FRONT WALL, HUMP LARGE, HUMP MEDIUM, HUMP SMALL, JAW, LOOP HITTING CHEST, LOOP HITTING FRONT WALL,
LOOP LARGE, LOOP MEDIUM, LOOP SMALL, LOOP SMALL DOUBLE, PEAKS LARGE, PEAKS MEDIUM, PEAKS SMALL,
SHAKING, SINGLE STRAIGHT LARGE, SINGLE STRAIGHT LARGEST, SINGLE STRAIGHT MEDIUM, SINGLE STRAIGHT
SMALL, SINGLE WRIST FLEX, TRIPLE ALTERNATING, TRIPLE ALTERNATING WRIST FLEX, TRIPLE STRAIGHT
MOVEMENT, TRIPLE WRIST FLEX, WAVE CURVE DOUBLE LARGE, WAVE CURVE DOUBLE MEDIUM, WAVE CURVE DOUBLE
SMALL, WAVE CURVE TRIPLE LARGE, WAVE CURVE TRIPLE MEDIUM, WAVE CURVE TRIPLE SMALL, WAVE DIAGONAL
PATH LARGE, WAVE DIAGONAL PATH MEDIUM, WAVE DIAGONAL PATH SMALL, WAVE HITTING CHEST, WAVE HITTING
FRONT WALL, WRIST CIRCLE FRONT DOUBLE, WRIST CIRCLE FRONT SINGLE, ZIGZAG LARGE, ZIGZAG MEDIUM,
ZIGZAG SMALL;
SIGNWRITING NOSE: CONTACT, NEUTRAL, WIGGLES, WRINKLES;
SIGNWRITING ROTATION: MODIFIER-10, MODIFIER-11, MODIFIER-12, MODIFIER-13, MODIFIER-14,
MODIFIER-15, MODIFIER-16, MODIFIER-2, MODIFIER-3, MODIFIER-4, MODIFIER-5, MODIFIER-6, MODIFIER-7,
MODIFIER-8, MODIFIER-9;
SIGNWRITING ROTATION-FLOORPLANE: ALTERNATING, ALTERNATING HITTING CEILING, ALTERNATING HITTING
FLOOR, DOUBLE, DOUBLE HITTING CEILING, DOUBLE HITTING FLOOR, SINGLE, SINGLE HITTING CEILING,
SINGLE HITTING FLOOR;
SIGNWRITING ROTATION-WALLPLANE: ALTERNATE, ALTERNATING HITTING CHEST, ALTERNATING HITTING FRONT
WALL, DOUBLE, DOUBLE HITTING CHEST, DOUBLE HITTING FRONT WALL, SINGLE, SINGLE HITTING CHEST,
SINGLE HITTING FRONT WALL;
SIGNWRITING RUB: BETWEEN, MULTIPLE, SINGLE;
SIGNWRITING SHOULDER: HIP POSITIONS, HIP SPINE, TILTING FROM WAIST;
SIGNWRITING SQUEEZE: FLICK ALTERNATING, LARGE MULTIPLE, LARGE SINGLE, SEQUENTIAL, SMALL MULTIPLE,
SMALL SINGLE;
SIGNWRITING STRIKE: BETWEEN, MULTIPLE, SINGLE;
SIGNWRITING SURFACE: BETWEEN, SYMBOLS;
SIGNWRITING TEETH: BITE LIPS, MOVEMENT, ON LIPS, ON LIPS MOVEMENT, ON TONGUE, ON TONGUE MOVEMENT;
SIGNWRITING TENSE CHEEKS: HIGH, LOW, MIDDLE;
SIGNWRITING TONGUE: CENTRE INSIDE MOUTH, CENTRE STICKING OUT, INSIDE MOUTH RELAXED, LICKING LIPS,
MOVES AGAINST CHEEK, STICKING OUT FAR, TIP BETWEEN LIPS, TIP TOUCHING INSIDE MOUTH;
SIGNWRITING TORSO-FLOORPLANE: TWISTING;
SIGNWRITING TORSO-WALLPLANE: CURVED BEND, STRAIGHT STRETCH;
SIGNWRITING TOUCH: BETWEEN, MULTIPLE, SINGLE;
SIGNWRITING TRAVEL-FLOORPLANE: ROTATION-FLOORPLANE ALTERNATING, ROTATION-FLOORPLANE DOUBLE,
ROTATION-FLOORPLANE SINGLE, ROTATION-WALLPLANE ALTERNATING, ROTATION-WALLPLANE DOUBLE,
ROTATION-WALLPLANE SINGLE, SHAKING;
SIGNWRITING TRAVEL-WALLPLANE: ARM SPIRAL DOUBLE, ARM SPIRAL SINGLE, ARM SPIRAL TRIPLE,
ROTATION-FLOORPLANE ALTERNATING, ROTATION-FLOORPLANE DOUBLE, ROTATION-FLOORPLANE SINGLE,
ROTATION-WALLPLANE ALTERNATING, ROTATION-WALLPLANE DOUBLE, ROTATION-WALLPLANE SINGLE, SHAKING;
SIGNWRITING UPPER: BODY TILTING FROM HIP JOINTS;
SIGNWRITING WALLPLANE: SHOULDER HIP MOVE;
SILHOUETTE: OF JAPAN;
SIMILAR: ABOVE GREATER-THAN ABOVE EQUALS SIGN, ABOVE LESS-THAN ABOVE EQUALS SIGN, MINUS SIMILAR,
OR GREATER-THAN, OR LESS-THAN;
SINE: WAVE;
SINGLE: CHARACTER INTRODUCER, GRAPHIC CHARACTER INTRODUCER, HIGH-REVERSED-9 QUOTATION MARK,
LEFT-POINTING ANGLE QUOTATION MARK, LOW-9 QUOTATION MARK, RIGHT-POINTING ANGLE QUOTATION MARK,
SHIFT THREE, SHIFT TWO;
SINHALA ARCHAIC DIGIT: EIGHT, FIVE, FOUR, NINE, ONE, SEVEN, SIX, THREE, TWO;
SINHALA ARCHAIC NUMBER: EIGHTY, FIFTY, FORTY, NINETY, ONE HUNDRED, ONE THOUSAND, SEVENTY, SIXTY,
TEN, THIRTY, TWENTY;
SINHALA LETTER: AAYANNA, AEEYANNA, AEYANNA, AIYANNA, ALPAPRAANA BAYANNA, ALPAPRAANA CAYANNA,
ALPAPRAANA DAYANNA, ALPAPRAANA DDAYANNA, ALPAPRAANA GAYANNA, ALPAPRAANA JAYANNA, ALPAPRAANA
KAYANNA, ALPAPRAANA PAYANNA, ALPAPRAANA TAYANNA, ALPAPRAANA TTAYANNA, AMBA BAYANNA, AUYANNA,
AYANNA, DANTAJA LAYANNA, DANTAJA NAYANNA, DANTAJA SAYANNA, EEYANNA, EYANNA, FAYANNA, HAYANNA,
IIYANNA, ILUUYANNA, ILUYANNA, IRUUYANNA, IRUYANNA, IYANNA, KANTAJA NAASIKYAYA, MAHAAPRAANA
BAYANNA, MAHAAPRAANA CAYANNA, MAHAAPRAANA DAYANNA, MAHAAPRAANA DDAYANNA, MAHAAPRAANA GAYANNA,
MAHAAPRAANA JAYANNA, MAHAAPRAANA KAYANNA, MAHAAPRAANA PAYANNA, MAHAAPRAANA TAYANNA, MAHAAPRAANA
TTAYANNA, MAYANNA, MUURDHAJA LAYANNA, MUURDHAJA NAYANNA, MUURDHAJA SAYANNA, OOYANNA, OYANNA,
RAYANNA, SANYAKA DAYANNA, SANYAKA DDAYANNA, SANYAKA GAYANNA, SANYAKA JAYANNA, TAALUJA NAASIKYAYA,
TAALUJA SANYOOGA NAAKSIKYAYA, TAALUJA SAYANNA, UUYANNA, UYANNA, VAYANNA, YAYANNA;
SINHALA LITH DIGIT: EIGHT, FIVE, FOUR, NINE, ONE, SEVEN, SIX, THREE, TWO, ZERO;
SINHALA PUNCTUATION: KUNDDALIYA;
SINHALA SIGN: AL-LAKUNA, ANUSVARAYA, CANDRABINDU, VISARGAYA;
SINHALA VOWEL SIGN: AELA-PILLA, DIGA AEDA-PILLA, DIGA GAETTA-PILLA, DIGA GAYANUKITTA, DIGA
IS-PILLA, DIGA KOMBUVA, DIGA PAA-PILLA, GAETTA-PILLA, GAYANUKITTA, KETTI AEDA-PILLA, KETTI
IS-PILLA, KETTI PAA-PILLA, KOMBU DEKA, KOMBUVA, KOMBUVA HAA AELA-PILLA, KOMBUVA HAA DIGA
AELA-PILLA, KOMBUVA HAA GAYANUKITTA;
SIX: PETALLED BLACK AND WHITE FLORETTE, POINTED BLACK STAR, POINTED PINWHEEL STAR, POINTED STAR
WITH MIDDLE DOT;
SIX-PER-EM: SPACE;
SIXTEEN: POINTED ASTERISK;
SKI: AND SKI BOOT;
SKULL: AND CROSSBONES;
SLANTED EQUAL TO OR: GREATER-THAN, GREATER-THAN WITH DOT INSIDE, LESS-THAN, LESS-THAN WITH DOT
INSIDE;
SLANTED NORTH ARROW WITH: HOOKED HEAD, HORIZONTAL TAIL;
SLAVONIC: ASTERISK;
SLEEPING: ACCOMMODATION, FACE, SYMBOL;
SLEEPY: FACE;
SLEUTH: OR SPY;
SLICE: OF PIZZA;
SLIGHTLY: FROWNING FACE, SMILING FACE;
SLOPING LARGE: AND, OR;
SLOT: MACHINE;
SMALL: AIRPLANE, AMPERSAND, ASTERISK, BLUE DIAMOND, COLON, COMMA, COMMERCIAL AT, CONTAINS AS
MEMBER, CONTAINS WITH OVERBAR, CONTAINS WITH VERTICAL BAR AT END OF HORIZONTAL STROKE, DOLLAR
SIGN, ELEMENT OF, ELEMENT OF WITH OVERBAR, ELEMENT OF WITH VERTICAL BAR AT END OF HORIZONTAL
STROKE, EM DASH, EQUALS SIGN, EXCLAMATION MARK, FULL STOP, GREATER-THAN SIGN, HYPHEN-MINUS,
IDEOGRAPHIC COMMA, LEFT CURLY BRACKET, LEFT PARENTHESIS, LEFT TORTOISE SHELL BRACKET, LESS-THAN
SIGN, NUMBER SIGN, ORANGE DIAMOND, PERCENT SIGN, PLUS SIGN, QUESTION MARK, REVERSE SOLIDUS, RIGHT
CURLY BRACKET, RIGHT PARENTHESIS, RIGHT TORTOISE SHELL BRACKET, ROMAN NUMERAL EIGHT, ROMAN NUMERAL
ELEVEN, ROMAN NUMERAL FIFTY, ROMAN NUMERAL FIVE, ROMAN NUMERAL FIVE HUNDRED, ROMAN NUMERAL FOUR,
ROMAN NUMERAL NINE, ROMAN NUMERAL ONE, ROMAN NUMERAL ONE HUNDRED, ROMAN NUMERAL ONE THOUSAND,
ROMAN NUMERAL SEVEN, ROMAN NUMERAL SIX, ROMAN NUMERAL TEN, ROMAN NUMERAL THREE, ROMAN NUMERAL
TWELVE, ROMAN NUMERAL TWO, SEMICOLON, TILDE, TWO DOTS OVER ONE DOT PUNCTUATION, VEE WITH UNDERBAR;
SMALLER: THAN, THAN OR EQUAL TO;
SMASH: PRODUCT;
SMILING CAT FACE WITH: HEART-SHAPED EYES, OPEN MOUTH;
SMILING FACE WITH: HALO, HEART-SHAPED EYES, HORNS, OPEN MOUTH, OPEN MOUTH AND COLD SWEAT, OPEN
MOUTH AND SMILING EYES, OPEN MOUTH AND TIGHTLY-CLOSED EYES, SMILING EYES, SMILING EYES AND HAND
COVERING MOUTH, SMILING EYES AND THREE HEARTS, SUNGLASSES, TEAR;
SMIRKING: FACE;
SMOKING: SYMBOL;
SNEEZING: FACE;
SNOW: CAPPED MOUNTAIN;
SNOWMAN: WITHOUT SNOW;
SOCCER: BALL;
SOFT: HYPHEN, ICE CREAM, SHELL FLOPPY DISK;
SOFTWARE-FUNCTION: SYMBOL;
SOGDIAN COMBINING: CURVE ABOVE, CURVE BELOW, DOT ABOVE, DOT BELOW, HOOK ABOVE, HOOK BELOW, LONG
HOOK BELOW, RESH BELOW, STROKE BELOW, TWO DOTS ABOVE, TWO DOTS BELOW;
SOGDIAN INDEPENDENT: SHIN;
SOGDIAN LETTER: ALEPH, AYIN, BETH, FETH, GIMEL, HE, HETH, KAPH, LAMEDH, LESH, MEM, NUN, PE,
RESH-AYIN, SADHE, SAMEKH, SHIN, TAW, WAW, YODH, ZAYIN;
SOGDIAN NUMBER: ONE, ONE HUNDRED, TEN, TWENTY;
SOGDIAN PUNCTUATION: CIRCLE WITH DOT, HALF CIRCLE WITH DOT, TWO CIRCLES WITH DOTS, TWO VERTICAL
BARS, TWO VERTICAL BARS WITH DOTS;
SOLID QUILT SQUARE: ORNAMENT, ORNAMENT IN BLACK SQUARE;
SOLIDUS: WITH OVERBAR;
SOM: SIGN;
SOON: WITH RIGHTWARDS ARROW ABOVE;
SORA SOMPENG DIGIT: EIGHT, FIVE, FOUR, NINE, ONE, SEVEN, SIX, THREE, TWO, ZERO;
SORA SOMPENG LETTER: AH, BAH, CAH, DAH, EEH, EH, GAH, HAH, IH, JAH, KAH, LAH, MAE, MAH, NAH, NGAH,
NYAH, OH, PAH, RAH, SAH, TAH, UH, VAH, YAH;
SOUND: RECORDING COPYRIGHT;
SOUTH EAST: ARROW, ARROW AND SOUTH WEST ARROW, ARROW CROSSING NORTH EAST ARROW, ARROW TO CORNER,
ARROW WITH HOOK, BLACK ARROW, DOUBLE ARROW, POINTING BUD, POINTING LEAF, POINTING VINE LEAF,
SANS-SERIF ARROW, TRIANGLE-HEADED ARROW, TRIANGLE-HEADED ARROW TO BAR, WHITE ARROW;
SOUTH WEST: ARROW, ARROW AND NORTH WEST ARROW, ARROW WITH HOOK, BLACK ARROW, DOUBLE ARROW,
POINTING BUD, POINTING LEAF, POINTING VINE LEAF, SANS-SERIF ARROW, TRIANGLE-HEADED ARROW,
TRIANGLE-HEADED ARROW TO BAR, WHITE ARROW;
SOYOMBO: SUBJOINER;
SOYOMBO CLUSTER-INITIAL LETTER: LA, RA, SA, SHA;
SOYOMBO FINAL CONSONANT SIGN: -A, B, D, G, K, L, M, N, NG, R, S, SH;
SOYOMBO GEMINATION: MARK;
SOYOMBO HEAD MARK WITH MOON AND: SUN, SUN AND FLAME, SUN AND TRIPLE FLAME;
SOYOMBO LETTER: -A, A, BA, BHA, CA, CHA, DA, DDA, DDHA, DHA, DZA, GA, GHA, HA, JA, JHA, KA, KHA,
KSSA, LA, MA, NA, NGA, NNA, NYA, PA, PHA, RA, SA, SHA, SSA, TA, THA, TSA, TSHA, TTA, TTHA, VA, YA,
ZA, ZHA;
SOYOMBO MARK: DOUBLE SHAD, PLUTA, SHAD, TSHEG;
SOYOMBO SIGN: ANUSVARA, JIHVAMULIYA, UPADHMANIYA, VISARGA;
SOYOMBO TERMINAL: MARK-1, MARK-2;
SOYOMBO VOWEL LENGTH: MARK;
SOYOMBO VOWEL SIGN: AI, AU, E, I, O, OE, U, UE, VOCALIC L, VOCALIC R;
SPARKLING: HEART;
SPEAK-NO-EVIL: MONKEY;
SPEAKER WITH: CANCELLATION STROKE, ONE SOUND WAVE, THREE SOUND WAVES;
SPEAKING: HEAD IN SILHOUETTE;
SPEECH: BALLOON;
SPESMILO: SIGN;
SPHERICAL: ANGLE, ANGLE OPENING LEFT, ANGLE OPENING UP;
SPIDER: WEB;
SPIRAL: CALENDAR PAD, NOTE PAD, SHELL;
SPLASHING: SWEAT SYMBOL;
SPOOL: OF THREAD;
SPORTS: MEDAL;
SPOUTING: WHALE;
SQUARE: A OVER M, AARU, AM, ANPEA, APAATO, ARUHUA, AU, BAARERU, BAR, BEETA, BIRU, BORUTO, BQ,
BUSSYERU, C OVER KG, CAL, CAP, CC, CD, CM, CM CUBED, CM SQUARED, CO, CORPORATION, CUP, DA, DAASU,
DB, DESI, DJ, DL, DM, DM CUBED, DM SQUARED, DORU, EEKAA, ERA NAME HEISEI, ERA NAME MEIZI, ERA NAME
REIWA, ERA NAME SYOUWA, ERA NAME TAISYOU, ERG, ESUKUUDO, EV, FM, FOOT, FOUR CORNERS, GAL, GANMA,
GARON, GB, GHZ, GIGA, GINII, GIRUDAA, GPA, GURAMU, GURAMUTON, GY, HA, HAITU, HEKUTAARU, HERUTU,
HG, HIRAGANA HOKA, HON, HOON, HOORU, HP, HPA, HUARADDO, HUIITO, HURAN, HZ, IMAGE OF, IMAGE OF OR
EQUAL TO, IMAGE OF OR NOT EQUAL TO, IN, ININGU, INTI, IU, K OHM, KA, KAIRI, KARATTO, KARORII, KB,
KCAL, KEESU, KG, KHZ, KIRO, KIROGURAMU, KIROMEETORU, KIROWATTO, KK, KL, KM, KM CAPITAL, KM CUBED,
KM SQUARED, KOOPO, KORUNA, KPA, KT, KUROONE, KURUZEIRO, KV, KW, KYURII, LEFT OPEN BOX OPERATOR,
LM, LN, LOG, LOZENGE, LX, M CUBED, M OHM, M OVER S, M OVER S SQUARED, M SQUARED, MA, MAHHA,
MAIKURO, MAIRU, MANSYON, MARUKU, MB, MB SMALL, MEETORU, MEGA, MEGATON, MG, MHZ, MIKURON, MIL,
MIRI, MIRIBAARU, ML, MM, MM CUBED, MM SQUARED, MOL, MPA, MS, MU A, MU F, MU G, MU L, MU M, MU S,
MU V, MU W, MV, MV MEGA, MW, MW MEGA, NA, NANO, NF, NM, NOTTO, NS, NV, NW, ONSU, OOMU, ORIGINAL
OF, ORIGINAL OF OR EQUAL TO, ORIGINAL OF OR NOT EQUAL TO, OV, PA, PA AMPS, PAASENTO, PAATU, PC,
PEEZI, PENIHI, PENSU, PESO, PF, PH, PIASUTORU, PIKO, PIKURU, PM, POINTO, PONDO, POSITION
INDICATOR, PPM, PR, PS, PV, PW, RAD, RAD OVER S, RAD OVER S SQUARED, REMU, RENTOGEN, RIGHT OPEN
BOX OPERATOR, RIRA, RITTORU, ROOT, RUPII, RUUBURU, SAIKURU, SANTIIMU, SENTI, SENTO, SIRINGU, SR,
SV, TARGET, THZ, TON, UON, V OVER M, WATTO, WB, WITH BOTTOM HALF BLACK, WITH CONTOURED OUTLINE,
WITH DIAGONAL CROSSHATCH FILL, WITH HORIZONTAL FILL, WITH LEFT HALF BLACK, WITH LOWER LEFT
DIAGONAL HALF BLACK, WITH LOWER RIGHT DIAGONAL HALF BLACK, WITH ORTHOGONAL CROSSHATCH FILL, WITH
RIGHT HALF BLACK, WITH TOP HALF BLACK, WITH UPPER LEFT DIAGONAL HALF BLACK, WITH UPPER LEFT TO
LOWER RIGHT FILL, WITH UPPER RIGHT DIAGONAL HALF BLACK, WITH UPPER RIGHT TO LOWER LEFT FILL, WITH
VERTICAL FILL, YAADO, YAARU, YUAN;
SQUARED: ASTERISK, CL, COOL, FREE, HC, HDR, HI-RES, HV, ID, KEY, LOSSLESS, MINUS, MV, NEW, NG, OK,
PLUS, PPV, SALTIRE, SD, SHV, SOS, SQUARE, SS, TIMES, UHD, VOD, VS, WC;
SQUARED CJK UNIFIED: IDEOGRAPH-4E00, IDEOGRAPH-4E09, IDEOGRAPH-4E2D, IDEOGRAPH-4E8C,
IDEOGRAPH-4EA4, IDEOGRAPH-518D, IDEOGRAPH-521D, IDEOGRAPH-524D, IDEOGRAPH-5272, IDEOGRAPH-53CC,
IDEOGRAPH-53F3, IDEOGRAPH-5408, IDEOGRAPH-5439, IDEOGRAPH-55B6, IDEOGRAPH-58F0, IDEOGRAPH-591A,
IDEOGRAPH-5929, IDEOGRAPH-5B57, IDEOGRAPH-5DE6, IDEOGRAPH-5F8C, IDEOGRAPH-624B, IDEOGRAPH-6253,
IDEOGRAPH-6295, IDEOGRAPH-6307, IDEOGRAPH-6355, IDEOGRAPH-6599, IDEOGRAPH-65B0, IDEOGRAPH-6620,
IDEOGRAPH-6708, IDEOGRAPH-6709, IDEOGRAPH-6E80, IDEOGRAPH-6F14, IDEOGRAPH-7121, IDEOGRAPH-751F,
IDEOGRAPH-7533, IDEOGRAPH-7981, IDEOGRAPH-7A7A, IDEOGRAPH-7D42, IDEOGRAPH-89E3, IDEOGRAPH-8CA9,
IDEOGRAPH-8D70, IDEOGRAPH-904A, IDEOGRAPH-914D;
SQUARED DOT: OPERATOR;
SQUARED EIGHT: K;
SQUARED FALLING: DIAGONAL SLASH;
SQUARED FIVE: POINT ONE;
SQUARED FOUR: DOT PUNCTUATION, K;
SQUARED KATAKANA: DE, KOKO, SA;
SQUARED LATIN CAPITAL LETTER: A, B, C, D, E, F, G, H, I, J, K, L, M, N, O, P, Q, R, S, T, U, V, W,
X, Y, Z;
SQUARED LATIN SMALL: LETTER D;
SQUARED LOGICAL: AND, OR;
SQUARED ONE: HUNDRED TWENTY P;
SQUARED RISING: DIAGONAL SLASH;
SQUARED SECOND: SCREEN;
SQUARED SEVEN: POINT ONE;
SQUARED SIXTY: P;
SQUARED SMALL: CIRCLE;
SQUARED THREE: D;
SQUARED TWENTY-TWO: POINT TWO;
SQUARED TWO: K;
SQUARED UP: WITH EXCLAMATION MARK;
SQUAT: BLACK RIGHTWARDS ARROW;
STAFF OF: AESCULAPIUS, HERMES;
STAMPED: ENVELOPE;
STANDING: PERSON;
STAR: AND CRESCENT, EQUALS, OF DAVID, OPERATOR, WITH LEFT HALF BLACK, WITH RIGHT HALF BLACK;
START OF: GUARDED AREA, HEADING, PROTECTED AREA, SELECTED AREA, STRING, TEXT;
STATUE: OF LIBERTY;
STEAM: LOCOMOTIVE;
STEAMING: BOWL;
STENOGRAPHIC: FULL STOP;
STICK: FIGURE, FIGURE LEANING LEFT, FIGURE LEANING RIGHT, FIGURE WITH ARMS RAISED, FIGURE WITH
DRESS;
STOCK: CHART;
STRAIGHT: RULER;
STRESS: OUTLINED WHITE STAR;
STRICTLY: EQUIVALENT TO;
STRING: TERMINATOR;
STUDIO: MICROPHONE;
STUFFED: FLATBREAD;
SUBSCRIPT: EIGHT, EQUALS SIGN, FIVE, FOUR, LEFT PARENTHESIS, MINUS, NINE, ONE, PLUS SIGN, RIGHT
PARENTHESIS, SEVEN, SIX, THREE, TWO, ZERO;
SUBSET: ABOVE RIGHTWARDS ARROW, ABOVE SUBSET, ABOVE SUPERSET, OF, OF ABOVE ALMOST EQUAL TO, OF
ABOVE EQUALS SIGN, OF ABOVE NOT EQUAL TO, OF ABOVE TILDE OPERATOR, OF OR EQUAL TO, OF OR EQUAL TO
WITH DOT ABOVE, OF WITH NOT EQUAL TO, WITH DOT, WITH MULTIPLICATION SIGN BELOW, WITH PLUS SIGN
BELOW;
SUCCEEDS: ABOVE ALMOST EQUAL TO, ABOVE EQUALS SIGN, ABOVE NOT ALMOST EQUAL TO, ABOVE NOT EQUAL TO,
ABOVE SINGLE-LINE EQUALS SIGN, ABOVE SINGLE-LINE NOT EQUAL TO, BUT NOT EQUIVALENT TO, OR EQUAL TO,
OR EQUIVALENT TO, UNDER RELATION;
SUMMATION: BOTTOM, TOP, WITH INTEGRAL;
SUN: BEHIND CLOUD, WITH FACE;
SUNDANESE: AVAGRAHA;
SUNDANESE CONSONANT SIGN: PAMINGKAL, PANYAKRA, PANYIKU, PASANGAN MA, PASANGAN WA;
SUNDANESE DIGIT: EIGHT, FIVE, FOUR, NINE, ONE, SEVEN, SIX, THREE, TWO, ZERO;
SUNDANESE LETTER: A, AE, BA, BHA, CA, DA, E, EU, FA, FINAL K, FINAL M, GA, HA, I, JA, KA, KHA, LA,
LEU, MA, NA, NGA, NYA, O, PA, QA, RA, REU, SA, SYA, TA, U, VA, WA, XA, YA, ZA;
SUNDANESE PUNCTUATION BINDU: BA SATANGA, CAKRA, DA SATANGA, KA SATANGA, LEU SATANGA, PANGLONG,
PURNAMA, SURYA;
SUNDANESE SIGN: PAMAAEH, PANGLAYAR, PANGWISAD, PANYECEK, VIRAMA;
SUNDANESE VOWEL SIGN: PAMEPET, PANAELAENG, PANEULEUNG, PANGHULU, PANOLONG, PANYUKU;
SUNRISE: OVER MOUNTAINS;
SUNSET: OVER BUILDINGS;
SUPERSCRIPT: EIGHT, EQUALS SIGN, FIVE, FOUR, LATIN SMALL LETTER I, LATIN SMALL LETTER N, LEFT
PARENTHESIS, MINUS, NINE, ONE, PLUS SIGN, RIGHT PARENTHESIS, SEVEN, SIX, THREE, TWO, ZERO;
SUPERSET: ABOVE LEFTWARDS ARROW, ABOVE SUBSET, ABOVE SUPERSET, BESIDE AND JOINED BY DASH WITH
SUBSET, BESIDE SUBSET, OF, OF ABOVE ALMOST EQUAL TO, OF ABOVE EQUALS SIGN, OF ABOVE NOT EQUAL TO,
OF ABOVE TILDE OPERATOR, OF OR EQUAL TO, OF OR EQUAL TO WITH DOT ABOVE, OF WITH NOT EQUAL TO,
PRECEDING SOLIDUS, WITH DOT, WITH MULTIPLICATION SIGN BELOW, WITH PLUS SIGN BELOW;
SURFACE: INTEGRAL;
SUSPENSION: RAILWAY;
SWASH: AMPERSAND ORNAMENT;
SWUNG: DASH;
SYLOTI NAGRI LETTER: A, BHO, BO, CHO, CO, DDHO, DDO, DHO, DO, E, GHO, GO, HO, I, JHO, JO, KHO, KO,
LO, MO, NO, O, PHO, PO, RO, RRO, SO, THO, TO, TTHO, TTO, U;
SYLOTI NAGRI POETRY: MARK-1, MARK-2, MARK-3, MARK-4;
SYLOTI NAGRI SIGN: ALTERNATE HASANTA, ANUSVARA, DVISVARA, HASANTA;
SYLOTI NAGRI VOWEL SIGN: A, E, I, OO, U;
SYMBOL FOR: ACKNOWLEDGE, BACKSPACE, BELL, CANCEL, CARRIAGE RETURN, DATA LINK ESCAPE, DELETE,
DELETE FORM TWO, DEVICE CONTROL FOUR, DEVICE CONTROL ONE, DEVICE CONTROL THREE, DEVICE CONTROL
TWO, END OF MEDIUM, END OF TEXT, END OF TRANSMISSION, END OF TRANSMISSION BLOCK, ENQUIRY, ESCAPE,
FILE SEPARATOR, FORM FEED, GROUP SEPARATOR, HORIZONTAL TABULATION, LINE FEED, MARKS CHAPTER,
NEGATIVE ACKNOWLEDGE, NEWLINE, NULL, RECORD SEPARATOR, SAMARITAN SOURCE, SHIFT IN, SHIFT OUT,
SPACE, START OF HEADING, START OF TEXT, SUBSTITUTE, SUBSTITUTE FORM TWO, SYNCHRONOUS IDLE, TYPE A
ELECTRONICS, UNIT SEPARATOR, VERTICAL TABULATION;
SYNCHRONOUS: IDLE;
SYRIAC: ABBREVIATION MARK, BARREKH, COLON SKEWED LEFT, COLON SKEWED RIGHT, CONTRACTION, DOTTED
ZLAMA ANGULAR, DOTTED ZLAMA HORIZONTAL, END OF PARAGRAPH, ESASA ABOVE, ESASA BELOW, FEMININE DOT,
HARKLEAN ASTERISCUS, HARKLEAN METOBELUS, HARKLEAN OBELUS, HBASA ABOVE, HBASA BELOW, HBASA-ESASA
DOTTED, HORIZONTAL COLON, LETTER ALAPH, LETTER BETH, LETTER DALATH, LETTER DOTLESS DALATH RISH,
LETTER E, LETTER FINAL SEMKATH, LETTER GAMAL, LETTER GAMAL GARSHUNI, LETTER HE, LETTER HETH,
LETTER KAPH, LETTER LAMADH, LETTER MALAYALAM BHA, LETTER MALAYALAM JA, LETTER MALAYALAM LLA,
LETTER MALAYALAM LLLA, LETTER MALAYALAM NGA, LETTER MALAYALAM NNA, LETTER MALAYALAM NNNA, LETTER
MALAYALAM NYA, LETTER MALAYALAM RA, LETTER MALAYALAM SSA, LETTER MALAYALAM TTA, LETTER MIM, LETTER
NUN, LETTER PE, LETTER PERSIAN BHETH, LETTER PERSIAN DHALATH, LETTER PERSIAN GHAMAL, LETTER QAPH,
LETTER REVERSED PE, LETTER RISH, LETTER SADHE, LETTER SEMKATH, LETTER SHIN, LETTER SOGDIAN FE,
LETTER SOGDIAN KHAPH, LETTER SOGDIAN ZHAIN, LETTER SUPERSCRIPT ALAPH, LETTER TAW, LETTER TETH,
LETTER TETH GARSHUNI, LETTER WAW, LETTER YUDH, LETTER YUDH HE, LETTER ZAIN, MUSIC, OBLIQUE LINE
ABOVE, OBLIQUE LINE BELOW, PTHAHA ABOVE, PTHAHA BELOW, PTHAHA DOTTED, QUSHSHAYA, RBASA ABOVE,
RBASA BELOW, RUKKAKHA, RWAHA, SUBLINEAR COLON, SUBLINEAR COLON SKEWED LEFT, SUBLINEAR COLON SKEWED
RIGHT, SUBLINEAR FULL STOP, SUPRALINEAR COLON, SUPRALINEAR COLON SKEWED LEFT, SUPRALINEAR FULL
STOP, THREE DOTS ABOVE, THREE DOTS BELOW, TWO VERTICAL DOTS ABOVE, TWO VERTICAL DOTS BELOW, ZQAPHA
ABOVE, ZQAPHA BELOW, ZQAPHA DOTTED;
TABLE: TENNIS PADDLE AND BALL;
TAG: AMPERSAND, APOSTROPHE, ASTERISK, COLON, COMMA, HYPHEN-MINUS, SEMICOLON, SOLIDUS, SPACE,
TILDE;
TAG CIRCUMFLEX: ACCENT;
TAG COMMERCIAL: AT;
TAG DIGIT: EIGHT, FIVE, FOUR, NINE, ONE, SEVEN, SIX, THREE, TWO, ZERO;
TAG DOLLAR: SIGN;
TAG EQUALS: SIGN;
TAG EXCLAMATION: MARK;
TAG FULL: STOP;
TAG GRAVE: ACCENT;
TAG GREATER-THAN: SIGN;
TAG LATIN CAPITAL LETTER: A, B, C, D, E, F, G, H, I, J, K, L, M, N, O, P, Q, R, S, T, U, V, W, X,
Y, Z;
TAG LATIN SMALL LETTER: A, B, C, D, E, F, G, H, I, J, K, L, M, N, O, P, Q, R, S, T, U, V, W, X, Y,
Z;
TAG LEFT: CURLY BRACKET, PARENTHESIS, SQUARE BRACKET;
TAG LESS-THAN: SIGN;
TAG LOW: LINE;
TAG NUMBER: SIGN;
TAG PERCENT: SIGN;
TAG PLUS: SIGN;
TAG QUESTION: MARK;
TAG QUOTATION: MARK;
TAG REVERSE: SOLIDUS;
TAG RIGHT: CURLY BRACKET, PARENTHESIS, SQUARE BRACKET;
TAG VERTICAL: LINE;
TAGALOG LETTER: A, ARCHAIC RA, BA, DA, GA, HA, I, KA, LA, MA, NA, NGA, PA, RA, SA, TA, U, WA, YA;
TAGALOG SIGN: PAMUDPOD, VIRAMA;
TAGALOG VOWEL SIGN: I, U;
TAGBANWA LETTER: A, BA, DA, GA, I, KA, LA, MA, NA, NGA, PA, SA, TA, U, WA, YA;
TAGBANWA VOWEL SIGN: I, U;
TAI LE LETTER: A, AI, AUE, E, EE, EH, FA, HA, I, KA, KHA, LA, MA, NA, NGA, O, OO, PA, PHA, QA, SA,
TA, THA, TONE-2, TONE-3, TONE-4, TONE-5, TONE-6, TSA, TSHA, U, UE, VA, XA, YA;
TAI THAM COMBINING: CRYPTOGRAMMIC DOT;
TAI THAM CONSONANT SIGN: BA, FINAL NGA, HIGH RATHA OR LOW PA, LA TANG LAI, LOW PA, MA, MEDIAL LA,
MEDIAL RA, SA;
TAI THAM HORA DIGIT: EIGHT, FIVE, FOUR, NINE, ONE, SEVEN, SIX, THREE, TWO, ZERO;
TAI THAM LETTER: A, BA, DA, EE, GREAT SA, HIGH CA, HIGH CHA, HIGH FA, HIGH HA, HIGH KA, HIGH KHA,
HIGH KXA, HIGH PA, HIGH PHA, HIGH RATHA, HIGH SA, HIGH SHA, HIGH SSA, HIGH TA, HIGH THA, HIGH YA,
I, II, LA, LAE, LLA, LOW CA, LOW CHA, LOW FA, LOW HA, LOW KA, LOW KHA, LOW KXA, LOW PA, LOW PHA,
LOW RATHA, LOW SA, LOW TA, LOW THA, LOW YA, LUE, MA, NA, NGA, NYA, OO, RA, RANA, RATA, RUE, U, UU,
WA;
TAI THAM SIGN: CAANG, DOKMAI, HANG, HOY, KAAN, KAANKUU, KEOW, KHUEN TONE-3, KHUEN TONE-4, KHUEN
TONE-5, KHUEN-LUE KARAN, MAI KANG, MAI KANG LAI, MAI SAM, MAI YAMOK, RA HAAM, REVERSED ROTATED
RANA, SAKOT, SATKAAN, SATKAANKUU, SAWAN, TONE-1, TONE-2, WIANG, WIANGWAAK;
TAI THAM THAM DIGIT: EIGHT, FIVE, FOUR, NINE, ONE, SEVEN, SIX, THREE, TWO, ZERO;
TAI THAM VOWEL SIGN: A, AA, AE, AI, E, I, II, MAI SAT, O, OA ABOVE, OA BELOW, OO, OY, TALL AA,
THAM AI, U, UE, UU, UUE;
TAI VIET LETTER HIGH: BO, CHO, CO, DO, FO, GO, HO, KHHO, KHO, KO, LO, MO, NGO, NO, NYO, O, PHO,
PO, RO, SO, THO, TO, VO, YO;
TAI VIET LETTER LOW: BO, CHO, CO, DO, FO, GO, HO, KHHO, KHO, KO, LO, MO, NGO, NO, NYO, O, PHO, PO,
RO, SO, THO, TO, VO, YO;
TAI VIET MAI: KANG, KHIT;
TAI VIET SYMBOL: HO HOI, KOI KOI, KON, NUENG, SAM;
TAI VIET TONE MAI: EK, NUENG, SONG, THO;
TAI VIET VOWEL: AA, AM, AN, AUE, AY, E, I, IA, O, U, UA, UE, UEA;
TAKEOUT: BOX;
TAKRI ABBREVIATION: SIGN;
TAKRI DIGIT: EIGHT, FIVE, FOUR, NINE, ONE, SEVEN, SIX, THREE, TWO, ZERO;
TAKRI LETTER: A, AA, AI, ARCHAIC KHA, AU, BA, BHA, CA, CHA, DA, DDA, DDHA, DHA, E, GA, GHA, HA, I,
II, JA, JHA, KA, KHA, LA, MA, NA, NGA, NNA, NYA, O, PA, PHA, RA, RRA, SA, SHA, TA, THA, TTA, TTHA,
U, UU, VA, YA;
TAKRI SIGN: ANUSVARA, NUKTA, VIRAMA, VISARGA;
TAKRI VOWEL SIGN: AA, AI, AU, E, I, II, O, U, UU;
TALLY MARK: FIVE, ONE;
TAMIL: AND ODD SIGN, AS ABOVE SIGN, AU LENGTH MARK, CREDIT SIGN, CURRENT SIGN, DAY SIGN, DEBIT
SIGN, DIGIT EIGHT, DIGIT FIVE, DIGIT FOUR, DIGIT NINE, DIGIT ONE, DIGIT SEVEN, DIGIT SIX, DIGIT
THREE, DIGIT TWO, DIGIT ZERO, DRY CULTIVATION SIGN, FRACTION DOWNSCALING FACTOR KIIZH, FRACTION
ONE EIGHTH, FRACTION ONE EIGHTIETH, FRACTION ONE FIFTH, FRACTION ONE FORTIETH, FRACTION ONE
HALF-1, FRACTION ONE HALF-2, FRACTION ONE ONE-HUNDRED-AND-SIXTIETH, FRACTION ONE QUARTER, FRACTION
ONE SIXTEENTH-1, FRACTION ONE SIXTEENTH-2, FRACTION ONE SIXTY-FOURTH, FRACTION ONE TENTH, FRACTION
ONE THIRTY-SECOND, FRACTION ONE THREE-HUNDRED-AND-TWENTIETH, FRACTION ONE TWENTIETH, FRACTION
THREE EIGHTIETHS, FRACTION THREE QUARTERS, FRACTION THREE SIXTEENTHS, FRACTION THREE
SIXTY-FOURTHS, FRACTION THREE TWENTIETHS, IN POSSESSION SIGN, LAND SIGN, LETTER A, LETTER AA,
LETTER AI, LETTER AU, LETTER CA, LETTER E, LETTER EE, LETTER HA, LETTER I, LETTER II, LETTER JA,
LETTER KA, LETTER LA, LETTER LLA, LETTER LLLA, LETTER MA, LETTER NA, LETTER NGA, LETTER NNA,
LETTER NNNA, LETTER NYA, LETTER O, LETTER OO, LETTER PA, LETTER RA, LETTER RRA, LETTER SA, LETTER
SHA, LETTER SSA, LETTER TA, LETTER TTA, LETTER U, LETTER UU, LETTER VA, LETTER YA, MONTH SIGN,
NUMBER ONE HUNDRED, NUMBER ONE THOUSAND, NUMBER SIGN, NUMBER TEN, OM, PUNCTUATION END OF TEXT,
RUPEE SIGN, SALT PAN SIGN, SIGN AAZHAAKKU, SIGN ANUSVARA, SIGN CEVITU, SIGN KAACU, SIGN KURUNI,
SIGN KUZHI, SIGN MUKKURUNI, SIGN MUTHALIYA, SIGN MUUVUZHAKKU, SIGN NEL, SIGN PAARAM, SIGN PANAM,
SIGN PATHAKKU, SIGN PON, SIGN UZHAKKU, SIGN VAKAIYARAA, SIGN VARAAKAN, SIGN VELI, SIGN VIRAMA,
SIGN VISARGA, SPENT SIGN, STARTING FROM SIGN, TOTAL SIGN, TRADITIONAL CREDIT SIGN, TRADITIONAL
NUMBER SIGN, VOWEL SIGN AA, VOWEL SIGN AI, VOWEL SIGN AU, VOWEL SIGN E, VOWEL SIGN EE, VOWEL SIGN
I, VOWEL SIGN II, VOWEL SIGN O, VOWEL SIGN OO, VOWEL SIGN U, VOWEL SIGN UU, WET CULTIVATION SIGN,
YEAR SIGN;
TANABATA: TREE;
TANGSA DIGIT: EIGHT, FIVE, FOUR, NINE, ONE, SEVEN, SIX, THREE, TWO, ZERO;
TANGSA LETTER: AC, AQ, AWC, AWQ, AWX, AWZ, AX, AZ, BA, CA, CHA, DA, DHA, EC, EQ, EX, EZ, FA, FINAL
NG, GA, GHA, HA, HTA, HTTA, IC, IQ, IX, IZ, KA, KHA, LA, LONG UEX, MA, MC, MQ, MX, MZ, NA, NGA,
NHA, NYA, OC, OQ, OX, OZ, PA, PHA, RA, SA, SHA, SHORT AWX, SHORT UEZ, TA, THA, TSA, UC, UEC, UEQ,
UEX, UEZ, UIC, UIQ, UIUC, UIUQ, UIUX, UIUZ, UIX, UIZ, UQ, UX, UZ, VC, VQ, VX, VZ, WA, XA, YA, ZA;
TANGUT: COMPONENT-001, COMPONENT-002, COMPONENT-003, COMPONENT-004, COMPONENT-005, COMPONENT-006,
COMPONENT-007, COMPONENT-008, COMPONENT-009, COMPONENT-010, COMPONENT-011, COMPONENT-012,
COMPONENT-013, COMPONENT-014, COMPONENT-015, COMPONENT-016, COMPONENT-017, COMPONENT-018,
COMPONENT-019, COMPONENT-020, COMPONENT-021, COMPONENT-022, COMPONENT-023, COMPONENT-024,
COMPONENT-025, COMPONENT-026, COMPONENT-027, COMPONENT-028, COMPONENT-029, COMPONENT-030,
COMPONENT-031, COMPONENT-032, COMPONENT-033, COMPONENT-034, COMPONENT-035, COMPONENT-036,
COMPONENT-037, COMPONENT-038, COMPONENT-039, COMPONENT-040, COMPONENT-041, COMPONENT-042,
COMPONENT-043, COMPONENT-044, COMPONENT-045, COMPONENT-046, COMPONENT-047, COMPONENT-048,
COMPONENT-049, COMPONENT-050, COMPONENT-051, COMPONENT-052, COMPONENT-053, COMPONENT-054,
COMPONENT-055, COMPONENT-056, COMPONENT-057, COMPONENT-058, COMPONENT-059, COMPONENT-060,
COMPONENT-061, COMPONENT-062, COMPONENT-063, COMPONENT-064, COMPONENT-065, COMPONENT-066,
COMPONENT-067, COMPONENT-068, COMPONENT-069, COMPONENT-070, COMPONENT-071, COMPONENT-072,
COMPONENT-073, COMPONENT-074, COMPONENT-075, COMPONENT-076, COMPONENT-077, COMPONENT-078,
COMPONENT-079, COMPONENT-080, COMPONENT-081, COMPONENT-082, COMPONENT-083, COMPONENT-084,
COMPONENT-085, COMPONENT-086, COMPONENT-087, COMPONENT-088, COMPONENT-089, COMPONENT-090,
COMPONENT-091, COMPONENT-092, COMPONENT-093, COMPONENT-094, COMPONENT-095, COMPONENT-096,
COMPONENT-097, COMPONENT-098, COMPONENT-099, COMPONENT-100, COMPONENT-101, COMPONENT-102,
COMPONENT-103, COMPONENT-104, COMPONENT-105, COMPONENT-106, COMPONENT-107, COMPONENT-108,
COMPONENT-109, COMPONENT-110, COMPONENT-111, COMPONENT-112, COMPONENT-113, COMPONENT-114,
COMPONENT-115, COMPONENT-116, COMPONENT-117, COMPONENT-118, COMPONENT-119, COMPONENT-120,
COMPONENT-121, COMPONENT-122, COMPONENT-123, COMPONENT-124, COMPONENT-125, COMPONENT-126,
COMPONENT-127, COMPONENT-128, COMPONENT-129, COMPONENT-130, COMPONENT-131, COMPONENT-132,
COMPONENT-133, COMPONENT-134, COMPONENT-135, COMPONENT-136, COMPONENT-137, COMPONENT-138,
COMPONENT-139, COMPONENT-140, COMPONENT-141, COMPONENT-142, COMPONENT-143, COMPONENT-144,
COMPONENT-145, COMPONENT-146, COMPONENT-147, COMPONENT-148, COMPONENT-149, COMPONENT-150,
COMPONENT-151, COMPONENT-152, COMPONENT-153, COMPONENT-154, COMPONENT-155, COMPONENT-156,
COMPONENT-157, COMPONENT-158, COMPONENT-159, COMPONENT-160, COMPONENT-161, COMPONENT-162,
COMPONENT-163, COMPONENT-164, COMPONENT-165, COMPONENT-166, COMPONENT-167, COMPONENT-168,
COMPONENT-169, COMPONENT-170, COMPONENT-171, COMPONENT-172, COMPONENT-173, COMPONENT-174,
COMPONENT-175, COMPONENT-176, COMPONENT-177, COMPONENT-178, COMPONENT-179, COMPONENT-180,
COMPONENT-181, COMPONENT-182, COMPONENT-183, COMPONENT-184, COMPONENT-185, COMPONENT-186,
COMPONENT-187, COMPONENT-188, COMPONENT-189, COMPONENT-190, COMPONENT-191, COMPONENT-192,
COMPONENT-193, COMPONENT-194, COMPONENT-195, COMPONENT-196, COMPONENT-197, COMPONENT-198,
COMPONENT-199, COMPONENT-200, COMPONENT-201, COMPONENT-202, COMPONENT-203, COMPONENT-204,
COMPONENT-205, COMPONENT-206, COMPONENT-207, COMPONENT-208, COMPONENT-209, COMPONENT-210,
COMPONENT-211, COMPONENT-212, COMPONENT-213, COMPONENT-214, COMPONENT-215, COMPONENT-216,
COMPONENT-217, COMPONENT-218, COMPONENT-219, COMPONENT-220, COMPONENT-221, COMPONENT-222,
COMPONENT-223, COMPONENT-224, COMPONENT-225, COMPONENT-226, COMPONENT-227, COMPONENT-228,
COMPONENT-229, COMPONENT-230, COMPONENT-231, COMPONENT-232, COMPONENT-233, COMPONENT-234,
COMPONENT-235, COMPONENT-236, COMPONENT-237, COMPONENT-238, COMPONENT-239, COMPONENT-240,
COMPONENT-241, COMPONENT-242, COMPONENT-243, COMPONENT-244, COMPONENT-245, COMPONENT-246,
COMPONENT-247, COMPONENT-248, COMPONENT-249, COMPONENT-250, COMPONENT-251, COMPONENT-252,
COMPONENT-253, COMPONENT-254, COMPONENT-255, COMPONENT-256, COMPONENT-257, COMPONENT-258,
COMPONENT-259, COMPONENT-260, COMPONENT-261, COMPONENT-262, COMPONENT-263, COMPONENT-264,
COMPONENT-265, COMPONENT-266, COMPONENT-267, COMPONENT-268, COMPONENT-269, COMPONENT-270,
COMPONENT-271, COMPONENT-272, COMPONENT-273, COMPONENT-274, COMPONENT-275, COMPONENT-276,
COMPONENT-277, COMPONENT-278, COMPONENT-279, COMPONENT-280, COMPONENT-281, COMPONENT-282,
COMPONENT-283, COMPONENT-284, COMPONENT-285, COMPONENT-286, COMPONENT-287, COMPONENT-288,
COMPONENT-289, COMPONENT-290, COMPONENT-291, COMPONENT-292, COMPONENT-293, COMPONENT-294,
COMPONENT-295, COMPONENT-296, COMPONENT-297, COMPONENT-298, COMPONENT-299, COMPONENT-300,
COMPONENT-301, COMPONENT-302, COMPONENT-303, COMPONENT-304, COMPONENT-305, COMPONENT-306,
COMPONENT-307, COMPONENT-308, COMPONENT-309, COMPONENT-310, COMPONENT-311, COMPONENT-312,
COMPONENT-313, COMPONENT-314, COMPONENT-315, COMPONENT-316, COMPONENT-317, COMPONENT-318,
COMPONENT-319, COMPONENT-320, COMPONENT-321, COMPONENT-322, COMPONENT-323, COMPONENT-324,
COMPONENT-325, COMPONENT-326, COMPONENT-327, COMPONENT-328, COMPONENT-329, COMPONENT-330,
COMPONENT-331, COMPONENT-332, COMPONENT-333, COMPONENT-334, COMPONENT-335, COMPONENT-336,
COMPONENT-337, COMPONENT-338, COMPONENT-339, COMPONENT-340, COMPONENT-341, COMPONENT-342,
COMPONENT-343, COMPONENT-344, COMPONENT-345, COMPONENT-346, COMPONENT-347, COMPONENT-348,
COMPONENT-349, COMPONENT-350, COMPONENT-351, COMPONENT-352, COMPONENT-353, COMPONENT-354,
COMPONENT-355, COMPONENT-356, COMPONENT-357, COMPONENT-358, COMPONENT-359, COMPONENT-360,
COMPONENT-361, COMPONENT-362, COMPONENT-363, COMPONENT-364, COMPONENT-365, COMPONENT-366,
COMPONENT-367, COMPONENT-368, COMPONENT-369, COMPONENT-370, COMPONENT-371, COMPONENT-372,
COMPONENT-373, COMPONENT-374, COMPONENT-375, COMPONENT-376, COMPONENT-377, COMPONENT-378,
COMPONENT-379, COMPONENT-380, COMPONENT-381, COMPONENT-382, COMPONENT-383, COMPONENT-384,
COMPONENT-385, COMPONENT-386, COMPONENT-387, COMPONENT-388, COMPONENT-389, COMPONENT-390,
COMPONENT-391, COMPONENT-392, COMPONENT-393, COMPONENT-394, COMPONENT-395, COMPONENT-396,
COMPONENT-397, COMPONENT-398, COMPONENT-399, COMPONENT-400, COMPONENT-401, COMPONENT-402,
COMPONENT-403, COMPONENT-404, COMPONENT-405, COMPONENT-406, COMPONENT-407, COMPONENT-408,
COMPONENT-409, COMPONENT-410, COMPONENT-411, COMPONENT-412, COMPONENT-413, COMPONENT-414,
COMPONENT-415, COMPONENT-416, COMPONENT-417, COMPONENT-418, COMPONENT-419, COMPONENT-420,
COMPONENT-421, COMPONENT-422, COMPONENT-423, COMPONENT-424, COMPONENT-425, COMPONENT-426,
COMPONENT-427, COMPONENT-428, COMPONENT-429, COMPONENT-430, COMPONENT-431, COMPONENT-432,
COMPONENT-433, COMPONENT-434, COMPONENT-435, COMPONENT-436, COMPONENT-437, COMPONENT-438,
COMPONENT-439, COMPONENT-440, COMPONENT-441, COMPONENT-442, COMPONENT-443, COMPONENT-444,
COMPONENT-445, COMPONENT-446, COMPONENT-447, COMPONENT-448, COMPONENT-449, COMPONENT-450,
COMPONENT-451, COMPONENT-452, COMPONENT-453, COMPONENT-454, COMPONENT-455, COMPONENT-456,
COMPONENT-457, COMPONENT-458, COMPONENT-459, COMPONENT-460, COMPONENT-461, COMPONENT-462,
COMPONENT-463, COMPONENT-464, COMPONENT-465, COMPONENT-466, COMPONENT-467, COMPONENT-468,
COMPONENT-469, COMPONENT-470, COMPONENT-471, COMPONENT-472, COMPONENT-473, COMPONENT-474,
COMPONENT-475, COMPONENT-476, COMPONENT-477, COMPONENT-478, COMPONENT-479, COMPONENT-480,
COMPONENT-481, COMPONENT-482, COMPONENT-483, COMPONENT-484, COMPONENT-485, COMPONENT-486,
COMPONENT-487, COMPONENT-488, COMPONENT-489, COMPONENT-490, COMPONENT-491, COMPONENT-492,
COMPONENT-493, COMPONENT-494, COMPONENT-495, COMPONENT-496, COMPONENT-497, COMPONENT-498,
COMPONENT-499, COMPONENT-500, COMPONENT-501, COMPONENT-502, COMPONENT-503, COMPONENT-504,
COMPONENT-505, COMPONENT-506, COMPONENT-507, COMPONENT-508, COMPONENT-509, COMPONENT-510,
COMPONENT-511, COMPONENT-512, COMPONENT-513, COMPONENT-514, COMPONENT-515, COMPONENT-516,
COMPONENT-517, COMPONENT-518, COMPONENT-519, COMPONENT-520, COMPONENT-521, COMPONENT-522,
COMPONENT-523, COMPONENT-524, COMPONENT-525, COMPONENT-526, COMPONENT-527, COMPONENT-528,
COMPONENT-529, COMPONENT-530, COMPONENT-531, COMPONENT-532, COMPONENT-533, COMPONENT-534,
COMPONENT-535, COMPONENT-536, COMPONENT-537, COMPONENT-538, COMPONENT-539, COMPONENT-540,
COMPONENT-541, COMPONENT-542, COMPONENT-543, COMPONENT-544, COMPONENT-545, COMPONENT-546,
COMPONENT-547, COMPONENT-548, COMPONENT-549, COMPONENT-550, COMPONENT-551, COMPONENT-552,
COMPONENT-553, COMPONENT-554, COMPONENT-555, COMPONENT-556, COMPONENT-557, COMPONENT-558,
COMPONENT-559, COMPONENT-560, COMPONENT-561, COMPONENT-562, COMPONENT-563, COMPONENT-564,
COMPONENT-565, COMPONENT-566, COMPONENT-567, COMPONENT-568, COMPONENT-569, COMPONENT-570,
COMPONENT-571, COMPONENT-572, COMPONENT-573, COMPONENT-574, COMPONENT-575, COMPONENT-576,
COMPONENT-577, COMPONENT-578, COMPONENT-579, COMPONENT-580, COMPONENT-581, COMPONENT-582,
COMPONENT-583, COMPONENT-584, COMPONENT-585, COMPONENT-586, COMPONENT-587, COMPONENT-588,
COMPONENT-589, COMPONENT-590, COMPONENT-591, COMPONENT-592, COMPONENT-593, COMPONENT-594,
COMPONENT-595, COMPONENT-596, COMPONENT-597, COMPONENT-598, COMPONENT-599, COMPONENT-600,
COMPONENT-601, COMPONENT-602, COMPONENT-603, COMPONENT-604, COMPONENT-605, COMPONENT-606,
COMPONENT-607, COMPONENT-608, COMPONENT-609, COMPONENT-610, COMPONENT-611, COMPONENT-612,
COMPONENT-613, COMPONENT-614, COMPONENT-615, COMPONENT-616, COMPONENT-617, COMPONENT-618,
COMPONENT-619, COMPONENT-620, COMPONENT-621, COMPONENT-622, COMPONENT-623, COMPONENT-624,
COMPONENT-625, COMPONENT-626, COMPONENT-627, COMPONENT-628, COMPONENT-629, COMPONENT-630,
COMPONENT-631, COMPONENT-632, COMPONENT-633, COMPONENT-634, COMPONENT-635, COMPONENT-636,
COMPONENT-637, COMPONENT-638, COMPONENT-639, COMPONENT-640, COMPONENT-641, COMPONENT-642,
COMPONENT-643, COMPONENT-644, COMPONENT-645, COMPONENT-646, COMPONENT-647, COMPONENT-648,
COMPONENT-649, COMPONENT-650, COMPONENT-651, COMPONENT-652, COMPONENT-653, COMPONENT-654,
COMPONENT-655, COMPONENT-656, COMPONENT-657, COMPONENT-658, COMPONENT-659, COMPONENT-660,
COMPONENT-661, COMPONENT-662, COMPONENT-663, COMPONENT-664, COMPONENT-665, COMPONENT-666,
COMPONENT-667, COMPONENT-668, COMPONENT-669, COMPONENT-670, COMPONENT-671, COMPONENT-672,
COMPONENT-673, COMPONENT-674, COMPONENT-675, COMPONENT-676, COMPONENT-677, COMPONENT-678,
COMPONENT-679, COMPONENT-680, COMPONENT-681, COMPONENT-682, COMPONENT-683, COMPONENT-684,
COMPONENT-685, COMPONENT-686, COMPONENT-687, COMPONENT-688, COMPONENT-689, COMPONENT-690,
COMPONENT-691, COMPONENT-692, COMPONENT-693, COMPONENT-694, COMPONENT-695, COMPONENT-696,
COMPONENT-697, COMPONENT-698, COMPONENT-699, COMPONENT-700, COMPONENT-701, COMPONENT-702,
COMPONENT-703, COMPONENT-704, COMPONENT-705, COMPONENT-706, COMPONENT-707, COMPONENT-708,
COMPONENT-709, COMPONENT-710, COMPONENT-711, COMPONENT-712, COMPONENT-713, COMPONENT-714,
COMPONENT-715, COMPONENT-716, COMPONENT-717, COMPONENT-718, COMPONENT-719, COMPONENT-720,
COMPONENT-721, COMPONENT-722, COMPONENT-723, COMPONENT-724, COMPONENT-725, COMPONENT-726,
COMPONENT-727, COMPONENT-728, COMPONENT-729, COMPONENT-730, COMPONENT-731, COMPONENT-732,
COMPONENT-733, COMPONENT-734, COMPONENT-735, COMPONENT-736, COMPONENT-737, COMPONENT-738,
COMPONENT-739, COMPONENT-740, COMPONENT-741, COMPONENT-742, COMPONENT-743, COMPONENT-744,
COMPONENT-745, COMPONENT-746, COMPONENT-747, COMPONENT-748, COMPONENT-749, COMPONENT-750,
COMPONENT-751, COMPONENT-752, COMPONENT-753, COMPONENT-754, COMPONENT-755, COMPONENT-756,
COMPONENT-757, COMPONENT-758, COMPONENT-759, COMPONENT-760, COMPONENT-761, COMPONENT-762,
COMPONENT-763, COMPONENT-764, COMPONENT-765, COMPONENT-766, COMPONENT-767, COMPONENT-768,
ITERATION MARK;
TAPE: CARTRIDGE, DRIVE;
TEACUP: WITHOUT HANDLE;
TEAR-OFF: CALENDAR;
TEARDROP-BARBED: RIGHTWARDS ARROW;
TEARDROP-SPOKED: ASTERISK;
TEDDY: BEAR;
TELEPHONE: LOCATION SIGN, ON TOP OF MODEM, RECEIVER, RECEIVER WITH PAGE, RECORDER, SIGN;
TELUGU AI: LENGTH MARK;
TELUGU DIGIT: EIGHT, FIVE, FOUR, NINE, ONE, SEVEN, SIX, THREE, TWO, ZERO;
TELUGU FRACTION DIGIT: ONE FOR EVEN POWERS OF FOUR, ONE FOR ODD POWERS OF FOUR, THREE FOR EVEN
POWERS OF FOUR, THREE FOR ODD POWERS OF FOUR, TWO FOR EVEN POWERS OF FOUR, TWO FOR ODD POWERS OF
FOUR, ZERO FOR ODD POWERS OF FOUR;
TELUGU LENGTH: MARK;
TELUGU LETTER: A, AA, AI, AU, BA, BHA, CA, CHA, DA, DDA, DDHA, DHA, DZA, E, EE, GA, GHA, HA, I,
II, JA, JHA, KA, KHA, LA, LLA, LLLA, MA, NA, NAKAARA POLLU, NGA, NNA, NYA, O, OO, PA, PHA, RA,
RRA, RRRA, SA, SHA, SSA, TA, THA, TSA, TTA, TTHA, U, UU, VA, VOCALIC L, VOCALIC LL, VOCALIC R,
VOCALIC RR, YA;
TELUGU SIGN: ANUSVARA, AVAGRAHA, CANDRABINDU, COMBINING ANUSVARA ABOVE, COMBINING CANDRABINDU
ABOVE, NUKTA, SIDDHAM, TUUMU, VIRAMA, VISARGA;
TELUGU VOWEL SIGN: AA, AI, AU, E, EE, I, II, O, OO, U, UU, VOCALIC L, VOCALIC LL, VOCALIC R,
VOCALIC RR;
TENGE: SIGN;
TENNIS: RACQUET AND BALL;
TEST: TUBE;
TETRAGRAM FOR: ACCUMULATION, ADVANCE, AGGRAVATION, ASCENT, BARRIER, BOLD RESOLUTION, BRANCHING
OUT, CENTRE, CHANGE, CLOSED MOUTH, CLOSENESS, CLOSURE, COMPLETION, COMPLIANCE, CONSTANCY, CONTACT,
CONTENTION, CONTRARIETY, DARKENING, DECISIVENESS, DEFECTIVENESS OR DISTORTION, DEPARTURE,
DIFFICULTIES, DIMINISHMENT, DIMMING, DIVERGENCE, DOUBT, DUTIES, EASE, EMBELLISHMENT, ENCOUNTERS,
ENDEAVOUR, ENLARGEMENT, ETERNITY, EXHAUSTION, FAILURE, FLIGHT, FOLLOWING, FOSTERING, FULL CIRCLE,
FULLNESS, GATHERING, GATHERING IN, GOING TO MEET, GREATNESS, GUARDEDNESS, HARDNESS, HOLDING BACK,
INCREASE, INNER, JOY, KEEPING SMALL, KINSHIP, LABOURING, LAW OR MODEL, LEGION, MASSING, MEASURE,
MIRED, ON THE VERGE, OPPOSITION, PACKING, PATTERN, PENETRATION, PURITY, REACH, RELEASE, RESIDENCE,
RESISTANCE, RESPONSE, RITUAL, SEVERANCE, SINKING, STOPPAGE, STOVE, STRENGTH, UNITY, VASTNESS OR
WASTING, WAITING, WATCH, YOUTHFULNESS;
THAANA: AABAAFILI, ABAFILI, EBEFILI, EEBEEFILI, EYBEYFILI, IBIFILI, OABOAFILI, OBOFILI, OOBOOFILI,
SUKUN, UBUFILI;
THAANA LETTER: AINU, ALIFU, BAA, CHAVIYANI, DAADHU, DAVIYANI, DHAALU, FAAFU, GAAFU, GHAINU,
GNAVIYANI, HAA, HHAA, JAVIYANI, KAAFU, KHAA, LAAMU, LHAVIYANI, MEEMU, NAA, NOONU, PAVIYANI, QAAFU,
RAA, SAADHU, SEENU, SHAVIYANI, SHEENU, TAVIYANI, THAA, THAALU, TO, TTAA, VAAVU, WAAVU, YAA, ZAA,
ZAVIYANI, ZO;
THAI CHARACTER: ANGKHANKHU, BO BAIMAI, CHO CHAN, CHO CHANG, CHO CHING, CHO CHOE, DO CHADA, DO DEK,
FO FA, FO FAN, FONGMAN, HO HIP, HO NOKHUK, KHO KHAI, KHO KHON, KHO KHUAT, KHO KHWAI, KHO RAKHANG,
KHOMUT, KO KAI, LAKKHANGYAO, LO CHULA, LO LING, LU, MAI CHATTAWA, MAI EK, MAI HAN-AKAT, MAI THO,
MAI TRI, MAITAIKHU, MAIYAMOK, MO MA, NGO NGU, NIKHAHIT, NO NEN, NO NU, O ANG, PAIYANNOI, PHINTHU,
PHO PHAN, PHO PHUNG, PHO SAMPHAO, PO PLA, RO RUA, RU, SARA A, SARA AA, SARA AE, SARA AI MAIMALAI,
SARA AI MAIMUAN, SARA AM, SARA E, SARA I, SARA II, SARA O, SARA U, SARA UE, SARA UEE, SARA UU, SO
RUSI, SO SALA, SO SO, SO SUA, THANTHAKHAT, THO NANGMONTHO, THO PHUTHAO, THO THAHAN, THO THAN, THO
THONG, THO THUNG, TO PATAK, TO TAO, WO WAEN, YAMAKKAN, YO YAK, YO YING;
THAI CURRENCY: SYMBOL BAHT;
THAI DIGIT: EIGHT, FIVE, FOUR, NINE, ONE, SEVEN, SIX, THREE, TWO, ZERO;
THERE: DOES NOT EXIST, EXISTS;
THIN: GREEK CROSS, SALTIRE, SPACE;
THINKING: FACE;
THIRD: PLACE MEDAL;
THONG: SANDAL;
THOUGHT: BALLOON;
THREE: BUTTON MOUSE, CONSECUTIVE EQUALS SIGNS, DIMENSIONAL ANGLE, DOT PUNCTUATION, LEFTWARDS
ARROWS, LINES CONVERGING LEFT, LINES CONVERGING RIGHT, NETWORKED COMPUTERS, POINTED BLACK STAR,
RAYS ABOVE, RAYS BELOW, RAYS LEFT, RAYS RIGHT, RIGHTWARDS ARROWS, SPEECH BUBBLES;
THREE-D: BOTTOM-LIGHTED RIGHTWARDS ARROWHEAD, LEFT-LIGHTED DOWNWARDS EQUILATERAL ARROWHEAD,
RIGHT-LIGHTED UPWARDS EQUILATERAL ARROWHEAD, TOP-LIGHTED LEFTWARDS EQUILATERAL ARROWHEAD,
TOP-LIGHTED RIGHTWARDS ARROWHEAD, TOP-LIGHTED RIGHTWARDS EQUILATERAL ARROWHEAD;
THREE-EM: DASH;
THREE-PER-EM: SPACE;
THUMBS: DOWN SIGN, UP SIGN;
THUNDER: CLOUD AND RAIN;
TIBETAN ASTROLOGICAL SIGN: -KHYUD PA, SDONG TSHUGS, SGRA GCAN -CHAR RTAGS;
TIBETAN CANTILLATION SIGN: CANG TE-U, HEAVY BEAT, LIGHT BEAT, SBUB -CHAL;
TIBETAN DIGIT: EIGHT, FIVE, FOUR, NINE, ONE, SEVEN, SIX, THREE, TWO, ZERO;
TIBETAN DIGIT HALF: EIGHT, FIVE, FOUR, NINE, ONE, SEVEN, SIX, THREE, TWO, ZERO;
TIBETAN KU RU: KHA, KHA BZHI MIG CAN;
TIBETAN LETTER: -A, A, BA, BHA, CA, CHA, DA, DDA, DDHA, DHA, DZA, DZHA, FIXED-FORM RA, GA, GHA,
HA, JA, KA, KHA, KKA, KSSA, LA, MA, NA, NGA, NNA, NYA, PA, PHA, RA, RRA, SA, SHA, SSA, TA, THA,
TSA, TSHA, TTA, TTHA, WA, YA, ZA, ZHA;
TIBETAN LOGOTYPE SIGN: CHAD RTAGS, LHAG RTAGS;
TIBETAN MARK: ANG KHANG GYAS, ANG KHANG GYON, BKA- SHOG GI MGO RGYAN, BKA- SHOG YIG MGO, BSDUS
RTAGS, BSKA- SHOG GI MGO RGYAN, BSKUR YIG MGO, CARET -DZUD RTAGS BZHI MIG CAN, CARET -DZUD RTAGS
ME LONG CAN, CARET YIG MGO PHUR SHAD MA, CHE MGO, CLOSING BRDA RNYING YIG MGO SGAB MA, CLOSING YIG
MGO SGAB MA, DELIMITER TSHEG BSTAR, GTER TSHEG, GTER YIG MGO -UM GTER TSHEG MA, GTER YIG MGO -UM
RNAM BCAD MA, GTER YIG MGO TRUNCATED A, GUG RTAGS GYAS, GUG RTAGS GYON, HALANTA, INITIAL BRDA
RNYING YIG MGO MDUN MA, INITIAL YIG MGO MDUN MA, INTERSYLLABIC TSHEG, LEADING MCHAN RTAGS, MNYAM
YIG GI MGO RGYAN, NGAS BZUNG NYI ZLA, NGAS BZUNG SGOR RTAGS, NYIS SHAD, NYIS TSHEG, NYIS TSHEG
SHAD, PALUTA, RGYA GRAM SHAD, RIN CHEN SPUNGS SHAD, SBRUL SHAD, SHAD, TRAILING MCHAN RTAGS, TSA
-PHRU, TSHEG SHAD, YIG MGO TSHEG SHAD MA;
TIBETAN SIGN: GRU CAN RGYINGS, GRU MED RGYINGS, INVERTED MCHU CAN, LCE TSA CAN, LCI RTAGS, MAR
TSHES, MCHU CAN, NYI ZLA NAA DA, RDEL DKAR GCIG, RDEL DKAR GNYIS, RDEL DKAR GSUM, RDEL DKAR RDEL
NAG, RDEL NAG GCIG, RDEL NAG GNYIS, RDEL NAG GSUM, RDEL NAG RDEL DKAR, RJES SU NGA RO, RNAM BCAD,
SNA LDAN, YANG RTAGS, YAR TSHES;
TIBETAN SUBJOINED LETTER: -A, A, BA, BHA, CA, CHA, DA, DDA, DDHA, DHA, DZA, DZHA, FIXED-FORM RA,
FIXED-FORM WA, FIXED-FORM YA, GA, GHA, HA, JA, KA, KHA, KSSA, LA, MA, NA, NGA, NNA, NYA, PA, PHA,
RA, SA, SHA, SSA, TA, THA, TSA, TSHA, TTA, TTHA, WA, YA, ZA, ZHA;
TIBETAN SUBJOINED SIGN: INVERTED MCHU CAN, LCE TSA CAN, MCHU CAN;
TIBETAN SYLLABLE: OM;
TIBETAN SYMBOL: DRIL BU, NOR BU, NOR BU BZHI -KHYIL, NOR BU GSUM -KHYIL, NOR BU NYIS -KHYIL, PADMA
GDAN, PHUR PA, RDO RJE, RDO RJE RGYA GRAM;
TIBETAN VOWEL SIGN: AA, E, EE, I, II, O, OO, REVERSED I, REVERSED II, U, UU, VOCALIC L, VOCALIC
LL, VOCALIC R, VOCALIC RR;
TIE: OVER INFINITY;
TIFINAGH CONSONANT: JOINER;
TIFINAGH LETTER: AHAGGAR YAZH, AYER YAGH, BERBER ACADEMY YAH, BERBER ACADEMY YAJ, TAWELLEMET YAZ,
TUAREG YAGH, TUAREG YAGN, TUAREG YAH, TUAREG YAK, TUAREG YAKH, TUAREG YANG, TUAREG YAQ, TUAREG
YAZH, YA, YAA, YAB, YABH, YACH, YAD, YADD, YADDH, YADH, YAF, YAG, YAGH, YAGHH, YAH, YAHH, YAJ,
YAK, YAKH, YAKHH, YAL, YAM, YAN, YAP, YAQ, YAR, YARR, YAS, YASH, YASS, YAT, YATH, YATT, YAV, YAW,
YAY, YAZ, YAZH, YAZZ, YE, YEY, YI, YO, YU;
TIFINAGH MODIFIER: LETTER LABIALIZATION MARK;
TIFINAGH SEPARATOR: MARK;
TIGER: FACE;
TIGHT: TRIFOLIATE SNOWFLAKE;
TILDE: OPERATOR, OPERATOR ABOVE LEFTWARDS ARROW, OPERATOR ABOVE RIGHTWARDS ARROW, OPERATOR WITH
DOT ABOVE, OPERATOR WITH RISING DOTS, WITH DOT ABOVE, WITH DOT BELOW, WITH RING ABOVE;
TIMER: CLOCK;
TIMES WITH: LEFT HALF BLACK, RIGHT HALF BLACK;
TINY: TWO DOTS OVER ONE DOT PUNCTUATION;
TIRED: FACE;
TIRHUTA: ANJI, GVANG, OM;
TIRHUTA ABBREVIATION: SIGN;
TIRHUTA DIGIT: EIGHT, FIVE, FOUR, NINE, ONE, SEVEN, SIX, THREE, TWO, ZERO;
TIRHUTA LETTER: A, AA, AI, AU, BA, BHA, CA, CHA, DA, DDA, DDHA, DHA, E, GA, GHA, HA, I, II, JA,
JHA, KA, KHA, LA, MA, NA, NGA, NNA, NYA, O, PA, PHA, RA, SA, SHA, SSA, TA, THA, TTA, TTHA, U, UU,
VA, VOCALIC L, VOCALIC LL, VOCALIC R, VOCALIC RR, YA;
TIRHUTA SIGN: ANUSVARA, AVAGRAHA, CANDRABINDU, NUKTA, VIRAMA, VISARGA;
TIRHUTA VOWEL SIGN: AA, AI, AU, E, I, II, O, SHORT E, SHORT O, U, UU, VOCALIC L, VOCALIC LL,
VOCALIC R, VOCALIC RR;
TIRONIAN SIGN: CAPITAL ET, ET;
TOKYO: TOWER;
TOP: ARC ANTICLOCKWISE ARROW, ARC ANTICLOCKWISE ARROW WITH PLUS, ARC CLOCKWISE ARROW WITH MINUS,
CURLY BRACKET, HALF BLACK CIRCLE, HALF INTEGRAL, HALF LEFT PARENTHESIS, HALF RIGHT PARENTHESIS,
HALF SECTION SIGN, HAT, LEFT CORNER, LEFT CROP, LEFT HALF BRACKET, PARENTHESIS, RIGHT CORNER,
RIGHT CROP, RIGHT HALF BRACKET, SQUARE BRACKET, TORTOISE SHELL BRACKET, WITH UPWARDS ARROW ABOVE;
TORTOISE SHELL BRACKETED CJK UNIFIED: IDEOGRAPH-4E09, IDEOGRAPH-4E8C, IDEOGRAPH-52DD,
IDEOGRAPH-5B89, IDEOGRAPH-6253, IDEOGRAPH-6557, IDEOGRAPH-672C, IDEOGRAPH-70B9, IDEOGRAPH-76D7;
TORTOISE SHELL BRACKETED LATIN: CAPITAL LETTER S;
TOTAL: RUNOUT;
TOTO LETTER: A, AE, BA, BREATHY AE, BREATHY E, BREATHY EO, BREATHY I, BREATHY IU, CHA, DA, E, EO,
GA, HA, I, IU, JA, KA, LA, MA, NA, NGA, O, PA, RA, SA, TA, U, WA, YA;
TOTO SIGN: RISING TONE;
TRADE: MARK SIGN;
TRAM: CAR;
TRANSVERSAL: INTERSECTION;
TRIANGLE WITH: DOT ABOVE, ROUNDED CORNERS, SERIFS AT BOTTOM, UNDERBAR;
TRIANGLE-HEADED: RIGHTWARDS ARROW;
TRIANGULAR: BULLET, FLAG ON POST, RULER;
TRIDENT: EMBLEM;
TRIGRAM FOR: EARTH, FIRE, HEAVEN, LAKE, MOUNTAIN, THUNDER, WATER, WIND;
TRIPLE: COLON OPERATOR, DAGGER, HORIZONTAL BAR WITH DOUBLE VERTICAL STROKE, HORIZONTAL BAR WITH
TRIPLE VERTICAL STROKE, INTEGRAL, NESTED GREATER-THAN, NESTED LESS-THAN, PLUS, PRIME, SOLIDUS
BINARY RELATION, TILDE, VERTICAL BAR BINARY RELATION, VERTICAL BAR DELIMITER, VERTICAL BAR RIGHT
TURNSTILE, VERTICAL BAR WITH HORIZONTAL STROKE;
TROPICAL: DRINK, FISH;
TRUE: LIGHT MOON ARTA;
TUGRIK: SIGN;
TUMBLER: GLASS;
TURKISH: LIRA SIGN;
TURNED: AMPERSAND, ANGLE, BLACK PENTAGON, BLACK SHOGI PIECE, CAPITAL F, COMMA, DAGGER, DIGIT
THREE, DIGIT TWO, GREEK SMALL LETTER IOTA, NORTH EAST POINTING LEAF, NORTH WEST POINTING LEAF, NOT
SIGN, OK HAND SIGN, SANS-SERIF CAPITAL G, SANS-SERIF CAPITAL L, SANS-SERIF CAPITAL Y, SEMICOLON,
SMALL F, SOUTH EAST POINTING LEAF, SOUTH WEST POINTING LEAF, WHITE SHOGI PIECE;
TWELVE: POINTED BLACK STAR;
TWISTED: RIGHTWARDS ARROWS;
TWO: ASTERISKS ALIGNED VERTICALLY, BUTTON MOUSE, CONSECUTIVE EQUALS SIGNS, DOT LEADER, DOT
PUNCTUATION, DOTS OVER ONE DOT PUNCTUATION, HEARTS, INTERSECTING LOGICAL AND, INTERSECTING LOGICAL
OR, JOINED SQUARES, LOGICAL AND OPERATOR, LOGICAL OR OPERATOR, MEN HOLDING HANDS, SPEECH BUBBLES,
WOMEN HOLDING HANDS;
TWO-EM: DASH;
UGARITIC LETTER: AIN, ALPA, BETA, DELTA, DHAL, GAMLA, GHAIN, HO, HOTA, I, KAF, KHA, LAMDA, MEM,
NUN, PU, QOPA, RASHA, SADE, SAMKA, SHIN, SSU, TET, THANNA, TO, U, WO, YOD, ZETA, ZU;
UGARITIC WORD: DIVIDER;
UMBRELLA: ON GROUND, WITH RAIN DROPS;
UNAMUSED: FACE;
UNCERTAINTY: SIGN;
UNDO: SYMBOL;
UNICORN: FACE;
UNION: ABOVE BAR ABOVE INTERSECTION, ABOVE INTERSECTION, BESIDE AND JOINED WITH UNION, WITH
LOGICAL OR, WITH MINUS SIGN, WITH OVERBAR;
UNIT: SEPARATOR;
UNITED: SYMBOL;
UNIVERSAL: RECYCLING SYMBOL;
UNMARRIED: PARTNERSHIP SYMBOL;
UP: ARROW THROUGH CIRCLE, ARROWHEAD, ARROWHEAD BETWEEN TWO HORIZONTAL BARS, ARROWHEAD IN A
RECTANGLE BOX, BARB LEFT DOWN BARB LEFT HARPOON, BARB LEFT DOWN BARB RIGHT HARPOON, BARB RIGHT
DOWN BARB LEFT HARPOON, BARB RIGHT DOWN BARB RIGHT HARPOON, DOWN ARROW, DOWN ARROW WITH BASE, DOWN
BLACK ARROW, DOWN DOUBLE ARROW, DOWN SANS-SERIF ARROW, DOWN TRIANGLE-HEADED ARROW, DOWN WHITE
ARROW, FISH TAIL, RIGHT DIAGONAL ELLIPSIS, TACK, TACK WITH CIRCLE ABOVE;
UP-POINTING: AIRPLANE, MILITARY AIRPLANE, RED TRIANGLE, SMALL AIRPLANE, SMALL RED TRIANGLE,
TRIANGLE WITH LEFT HALF BLACK, TRIANGLE WITH RIGHT HALF BLACK;
UPPER: AND LEFT AND LOWER TRIANGULAR THREE QUARTERS BLOCK, AND LOWER ONE EIGHTH BLOCK, AND LOWER
TRIANGULAR HALF BLOCK, AND RIGHT AND LOWER TRIANGULAR THREE QUARTERS BLOCK, BLADE SCISSORS, FIVE
EIGHTHS BLOCK, HALF BLOCK, HALF BLOCK AND LOWER HALF INVERSE MEDIUM SHADE, HALF CIRCLE, HALF
INVERSE MEDIUM SHADE AND LOWER HALF BLOCK, HALF INVERSE WHITE CIRCLE, HALF MEDIUM SHADE, LEFT
BLOCK DIAGONAL LOWER CENTRE TO LOWER MIDDLE RIGHT, LEFT BLOCK DIAGONAL LOWER CENTRE TO UPPER
MIDDLE RIGHT, LEFT BLOCK DIAGONAL LOWER CENTRE TO UPPER RIGHT, LEFT BLOCK DIAGONAL LOWER LEFT TO
LOWER MIDDLE RIGHT, LEFT BLOCK DIAGONAL LOWER LEFT TO UPPER CENTRE, LEFT BLOCK DIAGONAL LOWER LEFT
TO UPPER MIDDLE RIGHT, LEFT BLOCK DIAGONAL LOWER MIDDLE LEFT TO UPPER CENTRE, LEFT BLOCK DIAGONAL
LOWER MIDDLE LEFT TO UPPER MIDDLE RIGHT, LEFT BLOCK DIAGONAL LOWER MIDDLE LEFT TO UPPER RIGHT,
LEFT BLOCK DIAGONAL UPPER MIDDLE LEFT TO UPPER CENTRE, LEFT BLOCK DIAGONAL UPPER MIDDLE LEFT TO
UPPER RIGHT, LEFT CORNER WITH DOT, LEFT OR LOWER RIGHT CURLY BRACKET SECTION, LEFT QUADRANT
CIRCULAR ARC, LEFT TO LOWER RIGHT FILL, LEFT TRIANGLE, LEFT TRIANGULAR MEDIUM SHADE, ONE EIGHTH
BLOCK, ONE QUARTER BLOCK, RIGHT BLOCK DIAGONAL LOWER MIDDLE LEFT TO LOWER CENTRE, RIGHT BLOCK
DIAGONAL LOWER MIDDLE LEFT TO LOWER RIGHT, RIGHT BLOCK DIAGONAL UPPER CENTRE TO LOWER MIDDLE
RIGHT, RIGHT BLOCK DIAGONAL UPPER CENTRE TO LOWER RIGHT, RIGHT BLOCK DIAGONAL UPPER CENTRE TO
UPPER MIDDLE RIGHT, RIGHT BLOCK DIAGONAL UPPER LEFT TO LOWER CENTRE, RIGHT BLOCK DIAGONAL UPPER
LEFT TO LOWER MIDDLE RIGHT, RIGHT BLOCK DIAGONAL UPPER LEFT TO UPPER MIDDLE RIGHT, RIGHT BLOCK
DIAGONAL UPPER MIDDLE LEFT TO LOWER CENTRE, RIGHT BLOCK DIAGONAL UPPER MIDDLE LEFT TO LOWER MIDDLE
RIGHT, RIGHT BLOCK DIAGONAL UPPER MIDDLE LEFT TO LOWER RIGHT, RIGHT DROP-SHADOWED WHITE SQUARE,
RIGHT OR LOWER LEFT CURLY BRACKET SECTION, RIGHT PENCIL, RIGHT QUADRANT CIRCULAR ARC, RIGHT
SHADOWED WHITE CIRCLE, RIGHT SHADOWED WHITE SQUARE, RIGHT TO LOWER LEFT FILL, RIGHT TRIANGLE,
RIGHT TRIANGULAR MEDIUM SHADE, SEVEN EIGHTHS BLOCK, THREE EIGHTHS BLOCK, THREE QUARTERS BLOCK,
TRIANGULAR ONE QUARTER BLOCK;
UPSIDE-DOWN: FACE;
UPWARDS: ANCORA, ARROW, ARROW AND RIGHT ONE EIGHTH BLOCK, ARROW FROM BAR, ARROW LEFTWARDS OF
DOWNWARDS ARROW, ARROW TO BAR, ARROW WITH DOUBLE STROKE, ARROW WITH EQUILATERAL ARROWHEAD, ARROW
WITH HORIZONTAL STROKE, ARROW WITH LARGE TRIANGLE ARROWHEAD, ARROW WITH MEDIUM TRIANGLE ARROWHEAD,
ARROW WITH NOTCHED TAIL, ARROW WITH SMALL EQUILATERAL ARROWHEAD, ARROW WITH SMALL TRIANGLE
ARROWHEAD, ARROW WITH TIP LEFTWARDS, ARROW WITH TIP RIGHTWARDS, BLACK ARROW, BLACK CIRCLED WHITE
ARROW, COMPRESSED ARROW, DASHED ARROW, DOUBLE ARROW, FINGER-POST ARROW, HARPOON WITH BARB LEFT
BESIDE DOWNWARDS HARPOON WITH BARB RIGHT, HARPOON WITH BARB LEFT BESIDE UPWARDS HARPOON WITH BARB
RIGHT, HARPOON WITH BARB LEFT FROM BAR, HARPOON WITH BARB LEFT TO BAR, HARPOON WITH BARB
LEFTWARDS, HARPOON WITH BARB RIGHT FROM BAR, HARPOON WITH BARB RIGHT TO BAR, HARPOON WITH BARB
RIGHTWARDS, HEAVY ARROW, HEAVY COMPRESSED ARROW, PAIRED ARROWS, QUADRUPLE ARROW, ROCKET,
SANS-SERIF ARROW, SQUARED ARROW, TRIANGLE ARROWHEAD, TRIANGLE-HEADED ARROW, TRIANGLE-HEADED ARROW
LEFTWARDS OF DOWNWARDS TRIANGLE-HEADED ARROW, TRIANGLE-HEADED ARROW TO BAR, TRIANGLE-HEADED ARROW
WITH BOLD SHAFT, TRIANGLE-HEADED ARROW WITH DOUBLE HORIZONTAL STROKE, TRIANGLE-HEADED ARROW WITH
HEAVY SHAFT, TRIANGLE-HEADED ARROW WITH LONG TIP LEFTWARDS, TRIANGLE-HEADED ARROW WITH LONG TIP
RIGHTWARDS, TRIANGLE-HEADED ARROW WITH MEDIUM SHAFT, TRIANGLE-HEADED ARROW WITH NARROW SHAFT,
TRIANGLE-HEADED ARROW WITH VERY HEAVY SHAFT, TRIANGLE-HEADED DASHED ARROW, TRIANGLE-HEADED PAIRED
ARROWS, TRIPLE ARROW, TWO HEADED ARROW, TWO-HEADED ARROW FROM SMALL CIRCLE, TWO-HEADED ARROW WITH
TRIANGLE ARROWHEADS, WHITE ARROW, WHITE ARROW FROM BAR, WHITE ARROW FROM BAR WITH HORIZONTAL BAR,
WHITE ARROW ON PEDESTAL, WHITE ARROW ON PEDESTAL WITH HORIZONTAL BAR, WHITE ARROW ON PEDESTAL WITH
VERTICAL BAR, WHITE ARROW WITHIN TRIANGLE ARROWHEAD, WHITE DOUBLE ARROW, WHITE DOUBLE ARROW ON
PEDESTAL;
VAI: COMMA;
VAI DIGIT: EIGHT, FIVE, FOUR, NINE, ONE, SEVEN, SIX, THREE, TWO, ZERO;
VAI FULL: STOP;
VAI QUESTION: MARK;
VAI SYLLABLE: A, AN, BA, BE, BEE, BHA, BHE, BHEE, BHI, BHO, BHOO, BHU, BI, BO, BOO, BU, CA, CE,
CEE, CI, CO, COO, CU, DA, DE, DEE, DHA, DHE, DHEE, DHHA, DHHE, DHHEE, DHHI, DHHO, DHHOO, DHHU,
DHI, DHO, DHOO, DHU, DI, DO, DOO, DU, E, EE, EEN, EN, FA, FE, FEE, FI, FO, FOO, FU, GA, GBA, GBE,
GBEE, GBEN, GBI, GBO, GBON, GBOO, GBU, GE, GEE, GEN, GI, GO, GOO, GU, HA, HAN, HE, HEE, HEN, HI,
HIN, HO, HON, HOO, HU, HUN, I, IN, JA, JE, JEE, JI, JO, JOO, JU, KA, KAN, KE, KEE, KI, KO, KOO,
KPA, KPAN, KPE, KPEE, KPEN, KPI, KPO, KPOO, KPU, KU, LA, LE, LEE, LENGTHENER, LI, LO, LOO, LU, MA,
MBA, MBE, MBEE, MBI, MBO, MBOO, MBU, ME, MEE, MGBA, MGBE, MGBEE, MGBI, MGBO, MGBOO, MGBU, MI, MO,
MOO, MU, NA, NDA, NDE, NDEE, NDI, NDO, NDOLE DO, NDOLE FA, NDOLE KA, NDOLE MA, NDOLE SOO, NDOO,
NDU, NE, NEE, NG, NGAN, NGEN, NGGA, NGGE, NGGEE, NGGEN, NGGI, NGGO, NGGOO, NGGU, NGON, NI, NJA,
NJE, NJEE, NJI, NJO, NJOO, NJU, NO, NOO, NU, NYA, NYE, NYEE, NYI, NYO, NYOO, NYU, O, ON, OO, OON,
PA, PE, PEE, PI, PO, POO, PU, RA, RE, REE, RI, RO, ROO, RU, SA, SE, SEE, SHA, SHE, SHEE, SHI, SHO,
SHOO, SHU, SI, SO, SOO, SU, TA, TE, TEE, THA, THE, THEE, THI, THO, THOO, THU, TI, TO, TOO, TU, U,
UN, VA, VE, VEE, VI, VO, VOO, VU, WA, WAN, WE, WEE, WEEN, WEN, WI, WIN, WO, WON, WOO, WOON, WU,
WUN, YA, YE, YEE, YI, YO, YOO, YU, ZA, ZE, ZEE, ZHA, ZHE, ZHEE, ZHI, ZHO, ZHOO, ZHU, ZI, ZO, ZOO,
ZU;
VAI SYMBOL: BANG, DANG, DO-O, DOONG, FAA, FEENG, JONG, KEENG, KUNG, NII, TAA, TING, TONG;
VARIATION: SELECTOR-1, SELECTOR-10, SELECTOR-100, SELECTOR-101, SELECTOR-102, SELECTOR-103,
SELECTOR-104, SELECTOR-105, SELECTOR-106, SELECTOR-107, SELECTOR-108, SELECTOR-109, SELECTOR-11,
SELECTOR-110, SELECTOR-111, SELECTOR-112, SELECTOR-113, SELECTOR-114, SELECTOR-115, SELECTOR-116,
SELECTOR-117, SELECTOR-118, SELECTOR-119, SELECTOR-12, SELECTOR-120, SELECTOR-121, SELECTOR-122,
SELECTOR-123, SELECTOR-124, SELECTOR-125, SELECTOR-126, SELECTOR-127, SELECTOR-128, SELECTOR-129,
SELECTOR-13, SELECTOR-130, SELECTOR-131, SELECTOR-132, SELECTOR-133, SELECTOR-134, SELECTOR-135,
SELECTOR-136, SELECTOR-137, SELECTOR-138, SELECTOR-139, SELECTOR-14, SELECTOR-140, SELECTOR-141,
SELECTOR-142, SELECTOR-143, SELECTOR-144, SELECTOR-145, SELECTOR-146, SELECTOR-147, SELECTOR-148,
SELECTOR-149, SELECTOR-15, SELECTOR-150, SELECTOR-151, SELECTOR-152, SELECTOR-153, SELECTOR-154,
SELECTOR-155, SELECTOR-156, SELECTOR-157, SELECTOR-158, SELECTOR-159, SELECTOR-16, SELECTOR-160,
SELECTOR-161, SELECTOR-162, SELECTOR-163, SELECTOR-164, SELECTOR-165, SELECTOR-166, SELECTOR-167,
SELECTOR-168, SELECTOR-169, SELECTOR-17, SELECTOR-170, SELECTOR-171, SELECTOR-172, SELECTOR-173,
SELECTOR-174, SELECTOR-175, SELECTOR-176, SELECTOR-177, SELECTOR-178, SELECTOR-179, SELECTOR-18,
SELECTOR-180, SELECTOR-181, SELECTOR-182, SELECTOR-183, SELECTOR-184, SELECTOR-185, SELECTOR-186,
SELECTOR-187, SELECTOR-188, SELECTOR-189, SELECTOR-19, SELECTOR-190, SELECTOR-191, SELECTOR-192,
SELECTOR-193, SELECTOR-194, SELECTOR-195, SELECTOR-196, SELECTOR-197, SELECTOR-198, SELECTOR-199,
SELECTOR-2, SELECTOR-20, SELECTOR-200, SELECTOR-201, SELECTOR-202, SELECTOR-203, SELECTOR-204,
SELECTOR-205, SELECTOR-206, SELECTOR-207, SELECTOR-208, SELECTOR-209, SELECTOR-21, SELECTOR-210,
SELECTOR-211, SELECTOR-212, SELECTOR-213, SELECTOR-214, SELECTOR-215, SELECTOR-216, SELECTOR-217,
SELECTOR-218, SELECTOR-219, SELECTOR-22, SELECTOR-220, SELECTOR-221, SELECTOR-222, SELECTOR-223,
SELECTOR-224, SELECTOR-225, SELECTOR-226, SELECTOR-227, SELECTOR-228, SELECTOR-229, SELECTOR-23,
SELECTOR-230, SELECTOR-231, SELECTOR-232, SELECTOR-233, SELECTOR-234, SELECTOR-235, SELECTOR-236,
SELECTOR-237, SELECTOR-238, SELECTOR-239, SELECTOR-24, SELECTOR-240, SELECTOR-241, SELECTOR-242,
SELECTOR-243, SELECTOR-244, SELECTOR-245, SELECTOR-246, SELECTOR-247, SELECTOR-248, SELECTOR-249,
SELECTOR-25, SELECTOR-250, SELECTOR-251, SELECTOR-252, SELECTOR-253, SELECTOR-254, SELECTOR-255,
SELECTOR-256, SELECTOR-26, SELECTOR-27, SELECTOR-28, SELECTOR-29, SELECTOR-3, SELECTOR-30,
SELECTOR-31, SELECTOR-32, SELECTOR-33, SELECTOR-34, SELECTOR-35, SELECTOR-36, SELECTOR-37,
SELECTOR-38, SELECTOR-39, SELECTOR-4, SELECTOR-40, SELECTOR-41, SELECTOR-42, SELECTOR-43,
SELECTOR-44, SELECTOR-45, SELECTOR-46, SELECTOR-47, SELECTOR-48, SELECTOR-49, SELECTOR-5,
SELECTOR-50, SELECTOR-51, SELECTOR-52, SELECTOR-53, SELECTOR-54, SELECTOR-55, SELECTOR-56,
SELECTOR-57, SELECTOR-58, SELECTOR-59, SELECTOR-6, SELECTOR-60, SELECTOR-61, SELECTOR-62,
SELECTOR-63, SELECTOR-64, SELECTOR-65, SELECTOR-66, SELECTOR-67, SELECTOR-68, SELECTOR-69,
SELECTOR-7, SELECTOR-70, SELECTOR-71, SELECTOR-72, SELECTOR-73, SELECTOR-74, SELECTOR-75,
SELECTOR-76, SELECTOR-77, SELECTOR-78, SELECTOR-79, SELECTOR-8, SELECTOR-80, SELECTOR-81,
SELECTOR-82, SELECTOR-83, SELECTOR-84, SELECTOR-85, SELECTOR-86, SELECTOR-87, SELECTOR-88,
SELECTOR-89, SELECTOR-9, SELECTOR-90, SELECTOR-91, SELECTOR-92, SELECTOR-93, SELECTOR-94,
SELECTOR-95, SELECTOR-96, SELECTOR-97, SELECTOR-98, SELECTOR-99;
VECTOR: OR CROSS PRODUCT;
VEDIC SIGN: ANUSVARA ANTARGOMUKHA, ANUSVARA BAHIRGOMUKHA, ANUSVARA UBHAYATO MUKHA, ANUSVARA
VAMAGOMUKHA, ANUSVARA VAMAGOMUKHA WITH TAIL, ARDHAVISARGA, ATIKRAMA, DOUBLE ANUSVARA ANTARGOMUKHA,
HEXIFORM LONG ANUSVARA, JIHVAMULIYA, LONG ANUSVARA, NIHSHVASA, REVERSED VISARGA ANUDATTA, REVERSED
VISARGA UDATTA, ROTATED ARDHAVISARGA, RTHANG LONG ANUSVARA, TIRYAK, UPADHMANIYA, VISARGA ANUDATTA,
VISARGA ANUDATTA WITH TAIL, VISARGA SVARITA, VISARGA UDATTA, VISARGA UDATTA WITH TAIL, YAJURVEDIC
MIDLINE SVARITA;
VEDIC TONE: ATHARVAVEDIC INDEPENDENT SVARITA, CANDRA ABOVE, CANDRA BELOW, DOT BELOW, DOUBLE RING
ABOVE, DOUBLE SVARITA, KARSHANA, KATHAKA ANUDATTA, PRENKHA, RIGVEDIC KASHMIRI INDEPENDENT SVARITA,
RING ABOVE, SHARA, THREE DOTS BELOW, TRIPLE SVARITA, TWO DOTS BELOW, YAJURVEDIC AGGRAVATED
INDEPENDENT SVARITA, YAJURVEDIC INDEPENDENT SVARITA, YAJURVEDIC KATHAKA INDEPENDENT SVARITA,
YAJURVEDIC KATHAKA INDEPENDENT SVARITA SCHROEDER;
VERTICAL: BAR BESIDE RIGHT TRIANGLE, BAR DOUBLE LEFT TURNSTILE, BAR TRIPLE RIGHT TURNSTILE, BAR
WITH HORIZONTAL STROKE, ELLIPSIS, FOUR DOTS, IDEOGRAPHIC ITERATION MARK, KANA REPEAT MARK, KANA
REPEAT MARK LOWER HALF, KANA REPEAT MARK UPPER HALF, KANA REPEAT WITH VOICED SOUND MARK, KANA
REPEAT WITH VOICED SOUND MARK UPPER HALF, LINE, LINE EXTENSION, LINE WITH CIRCLE ABOVE, LINE WITH
CIRCLE BELOW, LINE WITH MIDDLE DOT, MALE WITH STROKE SIGN, ONE EIGHTH BLOCK-2, ONE EIGHTH BLOCK-3,
ONE EIGHTH BLOCK-4, ONE EIGHTH BLOCK-5, ONE EIGHTH BLOCK-6, ONE EIGHTH BLOCK-7, SIX DOTS, TAB KEY,
TABULATION, TABULATION SET, TILDE, TRAFFIC LIGHT, ZIGZAG LINE;
VERY: BOLD GREEK CROSS, HEAVY EIGHT POINTED BLACK STAR, HEAVY EIGHT SPOKED ASTERISK, HEAVY FIVE
SPOKED ASTERISK, HEAVY GREEK CROSS, HEAVY REVERSE SOLIDUS, HEAVY SALTIRE, HEAVY SIX SPOKED
ASTERISK, HEAVY SOLIDUS, HEAVY WHITE CIRCLE, HEAVY WHITE SQUARE, MUCH GREATER-THAN, MUCH
LESS-THAN;
VIBRATION: MODE;
VICTORY: HAND;
VIDEO: CAMERA, GAME;
VIETNAMESE ALTERNATE READING MARK: CA, NHAY;
VIEWDATA: SQUARE;
VITHKUQI CAPITAL LETTER: A, BBE, BE, CE, CHE, DE, DHE, E, EI, FE, GA, HA, HHA, I, IJE, JE, KA, LA,
LLA, ME, NE, NJE, O, PE, QA, RE, SE, SHE, TE, THE, U, VE, XE, Y, ZE;
VITHKUQI SMALL LETTER: A, BBE, BE, CE, CHE, DE, DHE, E, EI, FE, GA, HA, HHA, I, IJE, JE, KA, LA,
LLA, ME, NE, NJE, O, PE, QA, RE, SE, SHE, TE, THE, U, VE, XE, Y, ZE;
VOIDED: GREEK CROSS;
VOLUME: INTEGRAL;
VULGAR FRACTION: FIVE EIGHTHS, FIVE SIXTHS, FOUR FIFTHS, ONE EIGHTH, ONE FIFTH, ONE HALF, ONE
NINTH, ONE QUARTER, ONE SEVENTH, ONE SIXTH, ONE TENTH, ONE THIRD, SEVEN EIGHTHS, THREE EIGHTHS,
THREE FIFTHS, THREE QUARTERS, TWO FIFTHS, TWO THIRDS, ZERO THIRDS;
WANCHO DIGIT: EIGHT, FIVE, FOUR, NINE, ONE, SEVEN, SIX, THREE, TWO, ZERO;
WANCHO LETTER: A, AA, AAN, AANG, ANG, AU, BA, CA, DA, E, EN, FA, GA, HA, I, ING, JA, KA, KHA, LA,
LLHA, MA, NA, NGA, NYA, O, ON, ONG, PA, PHA, RA, SA, SHA, TA, THA, TRA, TSA, U, UEN, VA, WA, YA,
YIH, ZA;
WANCHO NGUN: SIGN;
WANCHO TONE: KOI, KOINI, TUP, TUPNI;
WANING: CRESCENT MOON SYMBOL, GIBBOUS MOON SYMBOL;
WARANG CITI: OM;
WARANG CITI CAPITAL LETTER: A, AM, ANG, AT, BU, DA, E, ENN, ENY, GA, HAR, HIYO, HOLO, HORR, II,
KO, NGAA, NUNG, O, ODD, PU, SII, SSUU, TTE, UC, UU, VIYO, WI, YA, YO, YU, YUJ;
WARANG CITI DIGIT: EIGHT, FIVE, FOUR, NINE, ONE, SEVEN, SIX, THREE, TWO, ZERO;
WARANG CITI NUMBER: EIGHTY, FIFTY, FORTY, NINETY, SEVENTY, SIXTY, TEN, THIRTY, TWENTY;
WARANG CITI SMALL LETTER: A, AM, ANG, AT, BU, DA, E, ENN, ENY, GA, HAR, HIYO, HOLO, HORR, II, KO,
NGAA, NUNG, O, ODD, PU, SII, SSUU, TTE, UC, UU, VIYO, WI, YA, YO, YU, YUJ;
WARNING: SIGN;
WATER: BUFFALO, CLOSET, POLO, WAVE;
WAVE: ARROW POINTING DIRECTLY LEFT, ARROW POINTING DIRECTLY RIGHT, DASH;
WAVING: BLACK FLAG, HAND SIGN, WHITE FLAG;
WAVY: DASH, LINE, LOW LINE, OVERLINE;
WAXING: CRESCENT MOON SYMBOL, GIBBOUS MOON SYMBOL;
WEARY: CAT FACE, FACE;
WEDGE-TAILED: RIGHTWARDS ARROW;
WEIERSTRASS: ELLIPTIC FUNCTION;
WEIGHT: LIFTER;
WEST: SYRIAC CROSS;
WHEEL: OF DHARMA;
WHEELCHAIR: SYMBOL;
WHITE: ARROW SHAFT WIDTH ONE, ARROW SHAFT WIDTH TWO THIRDS, BULLET, CHESS BISHOP, CHESS BISHOP
ROTATED NINETY DEGREES, CHESS BISHOP ROTATED TWO HUNDRED SEVENTY DEGREES, CHESS EQUIHOPPER, CHESS
EQUIHOPPER ROTATED NINETY DEGREES, CHESS KING, CHESS KING ROTATED NINETY DEGREES, CHESS KING
ROTATED TWO HUNDRED SEVENTY DEGREES, CHESS KNIGHT, CHESS KNIGHT ROTATED FORTY-FIVE DEGREES, CHESS
KNIGHT ROTATED NINETY DEGREES, CHESS KNIGHT ROTATED ONE HUNDRED THIRTY-FIVE DEGREES, CHESS KNIGHT
ROTATED THREE HUNDRED FIFTEEN DEGREES, CHESS KNIGHT ROTATED TWO HUNDRED SEVENTY DEGREES, CHESS
KNIGHT ROTATED TWO HUNDRED TWENTY-FIVE DEGREES, CHESS KNIGHT-BISHOP, CHESS KNIGHT-QUEEN, CHESS
KNIGHT-ROOK, CHESS PAWN, CHESS PAWN ROTATED NINETY DEGREES, CHESS PAWN ROTATED TWO HUNDRED SEVENTY
DEGREES, CHESS QUEEN, CHESS QUEEN ROTATED NINETY DEGREES, CHESS QUEEN ROTATED TWO HUNDRED SEVENTY
DEGREES, CHESS ROOK, CHESS ROOK ROTATED NINETY DEGREES, CHESS ROOK ROTATED TWO HUNDRED SEVENTY
DEGREES, CHESS TURNED BISHOP, CHESS TURNED KING, CHESS TURNED KNIGHT, CHESS TURNED PAWN, CHESS
TURNED QUEEN, CHESS TURNED ROOK, CIRCLE, CIRCLE CONTAINING BLACK SMALL CIRCLE, CIRCLE WITH DOT
RIGHT, CIRCLE WITH DOWN ARROW, CIRCLE WITH LOWER LEFT QUADRANT, CIRCLE WITH LOWER RIGHT QUADRANT,
CIRCLE WITH TWO DOTS, CIRCLE WITH UPPER LEFT QUADRANT, CIRCLE WITH UPPER RIGHT QUADRANT, CLUB
SUIT, CONCAVE-SIDED DIAMOND, CONCAVE-SIDED DIAMOND WITH LEFTWARDS TICK, CONCAVE-SIDED DIAMOND WITH
RIGHTWARDS TICK, DIAMOND, DIAMOND CONTAINING BLACK MEDIUM DIAMOND, DIAMOND CONTAINING BLACK SMALL
DIAMOND, DIAMOND CONTAINING BLACK VERY SMALL DIAMOND, DIAMOND IN SQUARE, DIAMOND SUIT, DIAMOND
WITH CENTRED DOT, DOWN POINTING BACKHAND INDEX, DOWN POINTING INDEX, DOWN POINTING LEFT HAND
INDEX, DOWN-POINTING SMALL TRIANGLE, DOWN-POINTING TRIANGLE, DRAUGHTS KING, DRAUGHTS MAN,
EXCLAMATION MARK ORNAMENT, FLAG, FLAG WITH HORIZONTAL MIDDLE BLACK STRIPE, FLORETTE, FLOWER, FOUR
POINTED CUSP, FOUR POINTED STAR, FROWNING FACE, HARD SHELL FLOPPY DISK, HEART, HEART SUIT, HEAVY
CHECK MARK, HEAVY SALTIRE WITH ROUNDED CORNERS, HEXAGON, HORIZONTAL ELLIPSE, HOURGLASS, LARGE
SQUARE, LATIN CROSS, LEFT LANE MERGE, LEFT POINTING BACKHAND INDEX, LEFT POINTING INDEX,
LEFT-POINTING POINTER, LEFT-POINTING SMALL TRIANGLE, LEFT-POINTING TRIANGLE, LOZENGE CONTAINING
BLACK SMALL LOZENGE, MEDIUM DIAMOND, MEDIUM LOZENGE, MEDIUM SMALL SQUARE, MEDIUM SQUARE, MEDIUM
STAR, MOON SELENA, NIB, PARALLELOGRAM, PENNANT, PENTAGON, QUESTION MARK ORNAMENT, RECTANGLE, RIGHT
POINTING BACKHAND INDEX, RIGHT POINTING INDEX, RIGHT-POINTING PENTAGON, RIGHT-POINTING POINTER,
RIGHT-POINTING SMALL TRIANGLE, RIGHT-POINTING TRIANGLE, SCISSORS, SESAME DOT, SHOGI PIECE, SMALL
LOZENGE, SMALL SQUARE, SMALL STAR, SMILING FACE, SPADE SUIT, SQUARE, SQUARE BUTTON, SQUARE
CONTAINING BLACK MEDIUM SQUARE, SQUARE CONTAINING BLACK SMALL SQUARE, SQUARE CONTAINING BLACK VERY
SMALL SQUARE, SQUARE WITH CENTRE VERTICAL LINE, SQUARE WITH LEFTWARDS TICK, SQUARE WITH LOWER LEFT
QUADRANT, SQUARE WITH LOWER RIGHT QUADRANT, SQUARE WITH RIGHTWARDS TICK, SQUARE WITH ROUNDED
CORNERS, SQUARE WITH UPPER LEFT QUADRANT, SQUARE WITH UPPER RIGHT QUADRANT, SQUARE WITH VERTICAL
BISECTING LINE, STAR, SUN, SUN BEHIND CLOUD, SUN BEHIND CLOUD WITH RAIN, SUN WITH RAYS, SUN WITH
SMALL CLOUD, TELEPHONE, TOUCHTONE TELEPHONE, TRAPEZIUM, TRIANGLE CONTAINING SMALL WHITE TRIANGLE,
TWO-WAY LEFT WAY TRAFFIC, UP POINTING BACKHAND INDEX, UP POINTING INDEX, UP-POINTING CHEVRON,
UP-POINTING SMALL TRIANGLE, UP-POINTING TRIANGLE, UP-POINTING TRIANGLE WITH DOT, VERTICAL BAR,
VERTICAL ELLIPSE, VERTICAL RECTANGLE, VERY SMALL SQUARE;
WHITE-FEATHERED: RIGHTWARDS ARROW;
WIDE-HEADED DOWNWARDS: BARB ARROW, HEAVY BARB ARROW, LIGHT BARB ARROW, MEDIUM BARB ARROW, VERY
HEAVY BARB ARROW;
WIDE-HEADED LEFTWARDS: BARB ARROW, HEAVY BARB ARROW, LIGHT BARB ARROW, MEDIUM BARB ARROW, VERY
HEAVY BARB ARROW;
WIDE-HEADED NORTH: EAST BARB ARROW, EAST HEAVY BARB ARROW, EAST LIGHT BARB ARROW, EAST MEDIUM BARB
ARROW, EAST VERY HEAVY BARB ARROW, WEST BARB ARROW, WEST HEAVY BARB ARROW, WEST LIGHT BARB ARROW,
WEST MEDIUM BARB ARROW, WEST VERY HEAVY BARB ARROW;
WIDE-HEADED RIGHTWARDS: BARB ARROW, HEAVY BARB ARROW, LIGHT BARB ARROW, MEDIUM BARB ARROW, VERY
HEAVY BARB ARROW;
WIDE-HEADED SOUTH: EAST BARB ARROW, EAST HEAVY BARB ARROW, EAST LIGHT BARB ARROW, EAST MEDIUM BARB
ARROW, EAST VERY HEAVY BARB ARROW, WEST BARB ARROW, WEST HEAVY BARB ARROW, WEST LIGHT BARB ARROW,
WEST MEDIUM BARB ARROW, WEST VERY HEAVY BARB ARROW;
WIDE-HEADED UPWARDS: BARB ARROW, HEAVY BARB ARROW, LIGHT BARB ARROW, MEDIUM BARB ARROW, VERY HEAVY
BARB ARROW;
WIGGLY: VERTICAL LINE;
WILTED: FLOWER;
WIND: BLOWING FACE, CHIME;
WINE: GLASS;
WINKING: FACE;
WIRED: KEYBOARD;
WOLF: FACE;
WOMAN: WITH BUNNY EARS;
WOMANS: BOOTS, CLOTHES, HAT, SANDAL;
WOMENS: SYMBOL;
WON: SIGN;
WORD: JOINER, SEPARATOR MIDDLE DOT;
WORLD: MAP;
WORRIED: FACE;
WRAPPED: PRESENT;
WREATH: PRODUCT;
WRITING: HAND;
X: IN A RECTANGLE BOX;
XIANGQI BLACK: CANNON, CHARIOT, ELEPHANT, GENERAL, HORSE, MANDARIN, SOLDIER;
XIANGQI RED: CANNON, CHARIOT, ELEPHANT, GENERAL, HORSE, MANDARIN, SOLDIER;
YAWNING: FACE;
YELLOW: HEART;
YEN: SIGN;
YEZIDI COMBINING: HAMZA MARK, MADDA MARK;
YEZIDI HYPHENATION: MARK;
YEZIDI LETTER: BE, CHHIM, CHIM, CIM, DAD, DAL, ELIF, ET, EW, EYN, FA, GAF, HAY, HHA, JA, KAF,
KHAF, LAM, LAM WITH DOT ABOVE, MIM, NUN, OW, PE, PHE, QAF, RA, RHA, SAD, SE, SHIN, SIN, TA, THE,
UM, VA, VA ALTERNATE FORM, WAW, XA, XHEYN, YOT, YOT WITH CIRCUMFLEX ABOVE, ZA, ZAL, ZE;
YI RADICAL: BBUT, BUR, CHE, CIP, CUOP, CY, CYP, CYT, DDUR, DU, GA, GEP, GGOP, GGUO, GOT, HMO,
HXIT, HXOP, HXUO, JJIE, JJUT, JJY, JO, KE, KIT, LI, LIE, LYR, MI, MOP, NBIE, NYIP, NYOP, NZUP, OP,
PUT, PYT, QOT, SHAT, SHOP, SHUR, SHY, SSI, TAT, TU, VEP, VUR, WO, YIT, YO, ZA, ZOT, ZUP, ZUR,
ZZIET;
YI SYLLABLE: A, AP, AT, AX, BA, BAP, BAT, BAX, BBA, BBAP, BBAT, BBAX, BBE, BBEP, BBEX, BBI, BBIE,
BBIEP, BBIET, BBIEX, BBIP, BBIT, BBIX, BBO, BBOP, BBOT, BBOX, BBU, BBUO, BBUOP, BBUOX, BBUP, BBUR,
BBURX, BBUT, BBUX, BBY, BBYP, BBYT, BBYX, BE, BEP, BEX, BI, BIE, BIEP, BIET, BIEX, BIP, BIT, BIX,
BO, BOP, BOT, BOX, BU, BUO, BUOP, BUOX, BUP, BUR, BURX, BUT, BUX, BY, BYP, BYR, BYRX, BYT, BYX,
CA, CAP, CAT, CAX, CE, CEP, CEX, CHA, CHAP, CHAT, CHAX, CHE, CHEP, CHET, CHEX, CHO, CHOP, CHOT,
CHOX, CHU, CHUO, CHUOP, CHUOT, CHUOX, CHUP, CHUR, CHURX, CHUX, CHY, CHYP, CHYR, CHYRX, CHYT, CHYX,
CI, CIE, CIEP, CIET, CIEX, CIP, CIT, CIX, CO, COP, COT, COX, CU, CUO, CUOP, CUOX, CUP, CUR, CURX,
CUT, CUX, CY, CYP, CYR, CYRX, CYT, CYX, DA, DAP, DAT, DAX, DDA, DDAP, DDAT, DDAX, DDE, DDEP, DDEX,
DDI, DDIE, DDIEP, DDIEX, DDIP, DDIT, DDIX, DDO, DDOP, DDOT, DDOX, DDU, DDUO, DDUOP, DDUOX, DDUP,
DDUR, DDURX, DDUT, DDUX, DE, DEP, DEX, DI, DIE, DIEP, DIEX, DIP, DIT, DIX, DO, DOP, DOT, DOX, DU,
DUO, DUOX, DUP, DUR, DURX, DUT, DUX, E, EX, FA, FAP, FAT, FAX, FI, FIP, FIT, FIX, FO, FOP, FOX,
FU, FUP, FUR, FURX, FUT, FUX, FY, FYP, FYT, FYX, GA, GAP, GAT, GAX, GE, GEP, GET, GEX, GGA, GGAP,
GGAT, GGAX, GGE, GGEP, GGET, GGEX, GGI, GGIE, GGIEP, GGIEX, GGIT, GGIX, GGO, GGOP, GGOT, GGOX,
GGU, GGUO, GGUOP, GGUOT, GGUOX, GGUP, GGUR, GGURX, GGUT, GGUX, GI, GIE, GIEP, GIET, GIEX, GIP,
GIT, GIX, GO, GOP, GOT, GOX, GU, GUO, GUOP, GUOT, GUOX, GUP, GUR, GURX, GUT, GUX, HA, HAP, HAT,
HAX, HE, HEP, HEX, HIE, HIEX, HIT, HLA, HLAP, HLAT, HLAX, HLE, HLEP, HLEX, HLI, HLIE, HLIEP,
HLIEX, HLIP, HLIT, HLIX, HLO, HLOP, HLOX, HLU, HLUO, HLUOP, HLUOX, HLUP, HLUR, HLURX, HLUT, HLUX,
HLY, HLYP, HLYR, HLYRX, HLYT, HLYX, HMA, HMAP, HMAT, HMAX, HMI, HMIE, HMIEP, HMIEX, HMIP, HMIT,
HMIX, HMO, HMOP, HMOT, HMOX, HMU, HMUO, HMUOP, HMUOX, HMUP, HMUR, HMURX, HMUT, HMUX, HMY, HMYP,
HMYR, HMYRX, HMYX, HNA, HNAP, HNAT, HNAX, HNE, HNEP, HNEX, HNI, HNIE, HNIEP, HNIET, HNIEX, HNIP,
HNIT, HNIX, HNOP, HNOT, HNOX, HNUO, HNUOX, HNUT, HO, HOP, HOT, HOX, HUO, HUOP, HUOT, HUOX, HXA,
HXAP, HXAT, HXAX, HXE, HXEP, HXEX, HXI, HXIE, HXIEP, HXIET, HXIEX, HXIP, HXIT, HXIX, HXO, HXOP,
HXOT, HXOX, HXUO, HXUOP, HXUOT, HXUOX, I, IE, IEP, IET, IEX, IP, IT, ITERATION MARK, IX, JI, JIE,
JIEP, JIET, JIEX, JIP, JIT, JIX, JJI, JJIE, JJIEP, JJIET, JJIEX, JJIP, JJIT, JJIX, JJO, JJOP,
JJOT, JJOX, JJU, JJUO, JJUOP, JJUOX, JJUP, JJUR, JJURX, JJUT, JJUX, JJY, JJYP, JJYT, JJYX, JO,
JOP, JOT, JOX, JU, JUO, JUOP, JUOT, JUOX, JUP, JUR, JURX, JUT, JUX, JY, JYP, JYR, JYRX, JYT, JYX,
KA, KAP, KAT, KAX, KE, KEP, KET, KEX, KI, KIE, KIEP, KIEX, KIP, KIT, KIX, KO, KOP, KOT, KOX, KU,
KUO, KUOP, KUOX, KUP, KUR, KURX, KUT, KUX, LA, LAP, LAT, LAX, LE, LEP, LEX, LI, LIE, LIEP, LIET,
LIEX, LIP, LIT, LIX, LO, LOP, LOT, LOX, LU, LUO, LUOP, LUOT, LUOX, LUP, LUR, LURX, LUT, LUX, LY,
LYP, LYR, LYRX, LYT, LYX, MA, MAP, MAT, MAX, ME, MEX, MGA, MGAP, MGAT, MGAX, MGE, MGEP, MGEX,
MGIE, MGIEX, MGO, MGOP, MGOT, MGOX, MGU, MGUO, MGUOP, MGUOX, MGUP, MGUR, MGURX, MGUT, MGUX, MI,
MIE, MIEP, MIEX, MIP, MIT, MIX, MO, MOP, MOT, MOX, MU, MUO, MUOP, MUOT, MUOX, MUP, MUR, MURX, MUT,
MUX, MY, MYP, MYT, MYX, NA, NAP, NAX, NBA, NBAP, NBAT, NBAX, NBI, NBIE, NBIEP, NBIEX, NBIP, NBIT,
NBIX, NBO, NBOP, NBOT, NBOX, NBU, NBUP, NBUR, NBURX, NBUT, NBUX, NBY, NBYP, NBYR, NBYRX, NBYT,
NBYX, NDA, NDAP, NDAT, NDAX, NDE, NDEP, NDEX, NDI, NDIE, NDIEX, NDIP, NDIT, NDIX, NDO, NDOP, NDOT,
NDOX, NDU, NDUP, NDUR, NDURX, NDUT, NDUX, NE, NEP, NEX, NGA, NGAP, NGAT, NGAX, NGE, NGEP, NGEX,
NGIE, NGIEP, NGIEX, NGO, NGOP, NGOT, NGOX, NGUO, NGUOT, NGUOX, NI, NIE, NIEP, NIEX, NIP, NIT, NIX,
NJI, NJIE, NJIEP, NJIET, NJIEX, NJIP, NJIT, NJIX, NJO, NJOP, NJOT, NJOX, NJU, NJUO, NJUOX, NJUP,
NJUR, NJURX, NJUX, NJY, NJYP, NJYR, NJYRX, NJYT, NJYX, NO, NOP, NOT, NOX, NRA, NRAP, NRAT, NRAX,
NRE, NREP, NRET, NREX, NRO, NROP, NROX, NRU, NRUP, NRUR, NRURX, NRUT, NRUX, NRY, NRYP, NRYR,
NRYRX, NRYT, NRYX, NU, NUO, NUOP, NUOX, NUP, NUR, NURX, NUT, NUX, NYI, NYIE, NYIEP, NYIET, NYIEX,
NYIP, NYIT, NYIX, NYO, NYOP, NYOT, NYOX, NYU, NYUO, NYUOP, NYUOX, NYUP, NYUT, NYUX, NZA, NZAP,
NZAT, NZAX, NZE, NZEX, NZI, NZIE, NZIEP, NZIEX, NZIP, NZIT, NZIX, NZOP, NZOX, NZU, NZUO, NZUOX,
NZUP, NZUR, NZURX, NZUX, NZY, NZYP, NZYR, NZYRX, NZYT, NZYX, O, OP, OT, OX, PA, PAP, PAT, PAX, PI,
PIE, PIEP, PIEX, PIP, PIT, PIX, PO, POP, POT, POX, PU, PUO, PUOP, PUOX, PUP, PUR, PURX, PUT, PUX,
PY, PYP, PYR, PYRX, PYT, PYX, QI, QIE, QIEP, QIET, QIEX, QIP, QIT, QIX, QO, QOP, QOT, QOX, QU,
QUO, QUOP, QUOT, QUOX, QUP, QUR, QURX, QUT, QUX, QY, QYP, QYR, QYRX, QYT, QYX, RA, RAP, RAT, RAX,
RE, REP, REX, RO, ROP, ROT, ROX, RRA, RRAX, RRE, RREP, RRET, RREX, RRO, RROP, RROT, RROX, RRU,
RRUO, RRUOX, RRUP, RRUR, RRURX, RRUT, RRUX, RRY, RRYP, RRYR, RRYRX, RRYT, RRYX, RU, RUO, RUOP,
RUOX, RUP, RUR, RURX, RUT, RUX, RY, RYP, RYR, RYRX, RYT, RYX, SA, SAP, SAT, SAX, SE, SEP, SEX,
SHA, SHAP, SHAT, SHAX, SHE, SHEP, SHET, SHEX, SHO, SHOP, SHOT, SHOX, SHU, SHUO, SHUOP, SHUOX,
SHUP, SHUR, SHURX, SHUT, SHUX, SHY, SHYP, SHYR, SHYRX, SHYT, SHYX, SI, SIE, SIEP, SIEX, SIP, SIT,
SIX, SO, SOP, SOT, SOX, SSA, SSAP, SSAT, SSAX, SSE, SSEP, SSEX, SSI, SSIE, SSIEP, SSIEX, SSIP,
SSIT, SSIX, SSO, SSOP, SSOT, SSOX, SSU, SSUP, SSUT, SSUX, SSY, SSYP, SSYR, SSYRX, SSYT, SSYX, SU,
SUO, SUOP, SUOX, SUP, SUR, SURX, SUT, SUX, SY, SYP, SYR, SYRX, SYT, SYX, TA, TAP, TAT, TAX, TE,
TEP, TEX, TI, TIE, TIEP, TIEX, TIP, TIT, TIX, TO, TOP, TOT, TOX, TU, TUO, TUOP, TUOT, TUOX, TUP,
TUR, TURX, TUT, TUX, UO, UOP, UOX, VA, VAP, VAT, VAX, VEP, VEX, VI, VIE, VIEP, VIET, VIEX, VIP,
VIT, VIX, VO, VOP, VOT, VOX, VU, VUP, VUR, VURX, VUT, VUX, VY, VYP, VYR, VYRX, VYT, VYX, WA, WAP,
WAT, WAX, WE, WEP, WEX, WO, WOP, WOX, WU, WUO, WUOP, WUOX, XI, XIE, XIEP, XIET, XIEX, XIP, XIT,
XIX, XO, XOP, XOT, XOX, XUO, XUOX, XY, XYP, XYR, XYRX, XYT, XYX, YI, YIE, YIEP, YIET, YIEX, YIP,
YIT, YIX, YO, YOP, YOT, YOX, YU, YUO, YUOP, YUOT, YUOX, YUP, YUR, YURX, YUT, YUX, YY, YYP, YYR,
YYRX, YYT, YYX, ZA, ZAP, ZAT, ZAX, ZE, ZEP, ZEX, ZHA, ZHAP, ZHAT, ZHAX, ZHE, ZHEP, ZHET, ZHEX,
ZHO, ZHOP, ZHOT, ZHOX, ZHU, ZHUO, ZHUOP, ZHUOX, ZHUP, ZHUR, ZHURX, ZHUT, ZHUX, ZHY, ZHYP, ZHYR,
ZHYRX, ZHYT, ZHYX, ZI, ZIE, ZIEP, ZIEX, ZIP, ZIT, ZIX, ZO, ZOP, ZOT, ZOX, ZU, ZUO, ZUOP, ZUOX,
ZUP, ZUR, ZURX, ZUT, ZUX, ZY, ZYP, ZYR, ZYRX, ZYT, ZYX, ZZA, ZZAP, ZZAT, ZZAX, ZZE, ZZEP, ZZEX,
ZZI, ZZIE, ZZIEP, ZZIET, ZZIEX, ZZIP, ZZIT, ZZIX, ZZO, ZZOP, ZZOX, ZZU, ZZUP, ZZUR, ZZURX, ZZUX,
ZZY, ZZYP, ZZYR, ZZYRX, ZZYT, ZZYX;
YIN: YANG;
Z NOTATION: BAG MEMBERSHIP, DOMAIN ANTIRESTRICTION, LEFT BINDING BRACKET, LEFT IMAGE BRACKET,
RANGE ANTIRESTRICTION, RELATIONAL COMPOSITION, RIGHT BINDING BRACKET, RIGHT IMAGE BRACKET, SCHEMA
COMPOSITION, SCHEMA PIPING, SCHEMA PROJECTION, SPOT, TYPE COLON;
ZANABAZAR SQUARE: SUBJOINER;
ZANABAZAR SQUARE CLOSING: DOUBLE-LINED HEAD MARK, HEAD MARK;
ZANABAZAR SQUARE CLUSTER-FINAL LETTER: LA, RA, VA, YA;
ZANABAZAR SQUARE CLUSTER-INITIAL: LETTER RA;
ZANABAZAR SQUARE FINAL: CONSONANT MARK;
ZANABAZAR SQUARE INITIAL: DOUBLE-LINED HEAD MARK, HEAD MARK;
ZANABAZAR SQUARE LETTER: -A, A, BA, BHA, CA, CHA, DA, DDA, DDHA, DHA, DZA, DZHA, GA, GHA, HA, JA,
KA, KHA, KSSA, LA, MA, NA, NGA, NNA, NYA, PA, PHA, RA, SA, SHA, SSA, TA, THA, TSA, TSHA, TTA,
TTHA, VA, YA, ZA, ZHA;
ZANABAZAR SQUARE MARK: DOUBLE SHAD, LONG TSHEG, SHAD, TSHEG;
ZANABAZAR SQUARE SIGN: ANUSVARA, CANDRA WITH ORNAMENT, CANDRABINDU, CANDRABINDU WITH ORNAMENT,
VIRAMA, VISARGA;
ZANABAZAR SQUARE VOWEL: LENGTH MARK, SIGN AI, SIGN AU, SIGN E, SIGN I, SIGN O, SIGN OE, SIGN
REVERSED I, SIGN U, SIGN UE;
ZEBRA: FACE;
ZERO WIDTH: JOINER, NO-BREAK SPACE, NON-JOINER, SPACE;
ZIPPER-MOUTH: FACE;
ZNAMENNY COMBINING ATTACHING: VERTICAL OMET;
ZNAMENNY COMBINING LOWER: TONAL RANGE INDICATOR;
ZNAMENNY COMBINING MARK: BORZAYA, CHASHKA, CHASHKA POLNAYA, CURVED OMET, DEMESTVENNY ZADERZHKA,
DVOETOCHIE, GORAZDO NIZKO ON LEFT, GORAZDO NIZKO ON RIGHT, GORAZDO NIZKO S KRYZHEM ON LEFT,
GORAZDO NIZKO S KRYZHEM ON RIGHT, GORAZDO VYSOKO, KACHKA, KRYZH, KRYZH ON LEFT, KUPNAYA, LOMKA,
MALO POVYSHE ON LEFT, MALO POVYSHE ON RIGHT, MALO POVYSHE S KHOKHLOM ON LEFT, MALO POVYSHE S
KHOKHLOM ON RIGHT, MALO POVYSHE S KRYZHEM, MALO POVYSHE STRANNO, NIZKO ON LEFT, NIZKO ON RIGHT,
NIZKO S KRYZHEM ON LEFT, NIZKO S KRYZHEM ON RIGHT, OBLACHKO, ON, OTSECHKA, PODCHASHIE, PODCHASHIE
WITH VERTICAL STROKE, PODVERTKA, POVYSHE ON LEFT, POVYSHE ON RIGHT, POVYSHE S KHOKHLOM ON LEFT,
POVYSHE S KHOKHLOM ON RIGHT, POVYSHE S KRYZHEM, POVYSHE STRANNO, RAVNO, RAZSEKA, SKOBA, SOROCHYA
NOZHKA, SREDNE ON LEFT, SREDNE ON RIGHT, STRANNO MALO POVYSHE, TIKHAYA, TOCHKA, TSATA ON LEFT,
TSATA ON RIGHT, TSATA S KRYZHEM, UDARKA, VYSOKO ON LEFT, VYSOKO ON RIGHT, VYSOKO S KHOKHLOM ON
LEFT, VYSOKO S KHOKHLOM ON RIGHT, VYSOKO S KRYZHEM, ZADERZHKA, ZELO, ZEVOK;
ZNAMENNY COMBINING TONAL RANGE MARK: MRACHNO, SVETLO, TRESVETLO;
ZNAMENNY NEUME: CHASHKA, CHELYUSTKA, DEMESTVENNY KLYUCH, DERBITSA, DOUBLE ZAPYATAYA, DUDA, DVA V
CHELNU, FITA, GOLUBCHIK BORZY, GOLUBCHIK MRACHNY, GOLUBCHIK SVETLY, GOLUBCHIK TIKHY, GOLUBCHIK
TRESVETLY, KHAMILO, KLYUCH, KOBYLA, KRYUK, KRYUK TIKHY, KRYZH, KUFISMA, MECHIK, MECHIK
KLYUCHENEPOSTOYANNY, MECHIK KLYUCHEPOVODNY, MECHIK KLYUCHEVOY, MECHIK POVODNY, NEMKA, OBLAKO,
OSOKA, OSOKA KLYUCHEVAYA NEPOSTOYANNAYA, OSOKA KLYUCHEVAYA SVETLAYA, OSOKA KRYUKOVAYA SVETLAYA,
OSOKA SVETLAYA, OSOKA TRESVETLAYA, PALKA, PARAKLIT, PAUK, PEREVODKA, PEREVODKA NEPOSTOYANNAYA,
PODCHASHIE, POLKULIZMY, REVERSED CHELYUSTKA, ROG, SKAMEYTSA DVOECHELNAYA KLYUCHEVAYA, SKAMEYTSA
DVOECHELNAYA NEPOSTOYANNAYA, SKAMEYTSA DVOECHELNAYA PROSTAYA, SKAMEYTSA DVOECHELNAYA SVETLAYA,
SKAMEYTSA KLYUCHENEPOSTOYANNAYA, SKAMEYTSA KLYUCHEVAYA SVETLAYA, SKAMEYTSA KLYUCHEVAYA TIKHAYA,
SKAMEYTSA MRACHNAYA, SKAMEYTSA SVETLAYA, SKAMEYTSA TIKHAYA, SKAMEYTSA TRESVETLAYA, SLOZHITIE,
SLOZHITIE S KRYZHEM, SLOZHITIE S ZAPYATOY, SLOZHITIE ZAKRYTOE, STATYA, STATYA NEPOSTOYANNAYA,
STATYA S DVUMYA ZAPYATYMI, STATYA S KRYZHEM, STATYA S KRYZHEM I ZAPYATOY, STATYA S ROGOM, STATYA S
ZAPYATOY, STATYA S ZAPYATOY I KRYZHEM, STATYA S ZAPYATOY I PODCHASHIEM, STATYA ZAKRYTAYA, STATYA
ZAKRYTAYA S ZAPYATOY, STOPITSA, STOPITSA S OCHKOM, STOPITSA WITH SOROCHYA NOZHKA, STRELA
DVOECHELNAYA, STRELA DVOECHELNAYA KLYUCHEVAYA, STRELA DVOECHELNOKRYZHEVAYA, STRELA
DVOECHELNOPOVODNAYA, STRELA DVOECHELNOPOVODNAYA KLYUCHEVAYA, STRELA GROMNAYA, STRELA GROMNAYA WITH
SINGLE ZAPYATAYA, STRELA GROMOKRYZHEVAYA, STRELA GROMOKRYZHEVAYA POVODNAYA, STRELA GROMOPOVODNAYA,
STRELA GROMOPOVODNAYA WITH DOUBLE ZAPYATAYA, STRELA GROMOPOVODNAYA WITH SINGLE ZAPYATAYA, STRELA
KLYUCHENEPOSTOYANNAYA, STRELA KLYUCHEPOVODNAYA, STRELA KRYUKOVAYA, STRELA KRYUKOVAYA GROMNAYA,
STRELA KRYUKOVAYA GROMNAYA WITH SINGLE ZAPYATAYA, STRELA KRYUKOVAYA GROMOKRYZHEVAYA, STRELA
KRYUKOVAYA GROMOKRYZHEVAYA POVODNAYA, STRELA KRYUKOVAYA GROMOPOVODNAYA, STRELA KRYUKOVAYA
GROMOPOVODNAYA WITH DOUBLE ZAPYATAYA, STRELA KRYUKOVAYA GROMOPOVODNAYA WITH SINGLE ZAPYATAYA,
STRELA KRYUKOVAYA POVODNAYA, STRELA KRYUKOVAYA TRYASKA, STRELA KRYZHEVAYA, STRELA MRACHNOTIKHAYA,
STRELA NEPOSTOYANNAYA, STRELA POLUPOVODNAYA, STRELA POVODNAYA, STRELA PROSTAYA, STRELA TIKHAYA
PUTNAYA, STRELA TRYASOGLASNAYA, STRELA TRYASOPOVODNAYA, STRELA TRYASOSTRELNAYA, VRAKHIYA
KLYUCHEVAYA MRACHNAYA, VRAKHIYA KLYUCHEVAYA PROSTAYA, VRAKHIYA KLYUCHEVAYA SVETLAYA, VRAKHIYA
KLYUCHEVAYA TRESVETLAYA, VRAKHIYA MRACHNAYA, VRAKHIYA PROSTAYA, VRAKHIYA SVETLAYA, VRAKHIYA
TRESVETLAYA, ZANOZHEK, ZAPYATAYA, ZMEYTSA;
ZNAMENNY PRIZNAK MODIFIER: DIRECTION FLIP, KRYZH, LEVEL-2, LEVEL-3, ROG;
"

end LogMarkup
