/-!
# Character names from D to K

Each group of names has a front, in front of a colon, that all its names share, and
their endings behind it.
-/

namespace LogMarkup

/-- The character names whose fronts begin with letters from D to K. -/
def namesDToK : String := "
DAGGER: KNIFE, WITH LEFT GUARD, WITH RIGHT GUARD;
DALET: SYMBOL;
DARK: SHADE, SUNGLASSES;
DASH: SYMBOL, WITH LEFT UPTURN;
DASHED: LOW LINE, OVERLINE, TRIANGLE-HEADED RIGHTWARDS ARROW;
DATA: LINK ESCAPE;
DEAF: PERSON;
DECIDUOUS: TREE;
DECIMAL: EXPONENT SYMBOL, SEPARATOR KEY SYMBOL;
DECREASE: FONT SIZE SYMBOL;
DEGREE: CELSIUS, FAHRENHEIT, SIGN;
DELIVERY: TRUCK;
DELTA: EQUAL TO;
DENTISTRY SYMBOL LIGHT: DOWN AND HORIZONTAL, DOWN AND HORIZONTAL WITH CIRCLE, DOWN AND HORIZONTAL
WITH TRIANGLE, DOWN AND HORIZONTAL WITH WAVE, UP AND HORIZONTAL, UP AND HORIZONTAL WITH CIRCLE, UP
AND HORIZONTAL WITH TRIANGLE, UP AND HORIZONTAL WITH WAVE, VERTICAL AND BOTTOM LEFT, VERTICAL AND
BOTTOM RIGHT, VERTICAL AND TOP LEFT, VERTICAL AND TOP RIGHT, VERTICAL AND WAVE, VERTICAL WITH
CIRCLE, VERTICAL WITH TRIANGLE;
DEPARTMENT: STORE;
DERELICT: HOUSE BUILDING;
DESCENDING: NODE;
DESERET CAPITAL LETTER: AY, BEE, CHEE, DEE, EF, EL, EM, EN, ENG, ER, ES, ESH, ETH, EW, GAY, H,
JEE, KAY, LONG A, LONG AH, LONG E, LONG I, LONG O, LONG OO, OI, OW, PEE, SHORT A, SHORT AH, SHORT
E, SHORT I, SHORT O, SHORT OO, TEE, THEE, VEE, WU, YEE, ZEE, ZHEE;
DESERET SMALL LETTER: AY, BEE, CHEE, DEE, EF, EL, EM, EN, ENG, ER, ES, ESH, ETH, EW, GAY, H, JEE,
KAY, LONG A, LONG AH, LONG E, LONG I, LONG O, LONG OO, OI, OW, PEE, SHORT A, SHORT AH, SHORT E,
SHORT I, SHORT O, SHORT OO, TEE, THEE, VEE, WU, YEE, ZEE, ZHEE;
DESERT: ISLAND;
DESKTOP: COMPUTER, WINDOW;
DEVANAGARI: CARET, DANDA, HEADSTROKE, OM;
DEVANAGARI ABBREVIATION: SIGN;
DEVANAGARI ACUTE: ACCENT;
DEVANAGARI DIGIT: EIGHT, FIVE, FOUR, NINE, ONE, SEVEN, SIX, THREE, TWO, ZERO;
DEVANAGARI DOUBLE: DANDA;
DEVANAGARI GAP: FILLER;
DEVANAGARI GRAVE: ACCENT;
DEVANAGARI JAIN: OM;
DEVANAGARI LETTER: A, AA, AI, AU, AW, AY, BA, BBA, BHA, CA, CANDRA A, CANDRA E, CANDRA O, CHA, DA,
DDA, DDDA, DDDHA, DDHA, DHA, E, FA, GA, GGA, GHA, GHHA, GLOTTAL STOP, HA, HEAVY YA, I, II, JA,
JHA, JJA, KA, KHA, KHHA, LA, LLA, LLLA, MA, MARWARI DDA, NA, NGA, NNA, NNNA, NYA, O, OE, OOE, PA,
PHA, QA, RA, RHA, RRA, SA, SHA, SHORT A, SHORT E, SHORT O, SSA, TA, THA, TTA, TTHA, U, UE, UU,
UUE, VA, VOCALIC L, VOCALIC LL, VOCALIC R, VOCALIC RR, YA, YYA, ZA, ZHA;
DEVANAGARI SIGN: ANUSVARA, AVAGRAHA, CANDRABINDU, CANDRABINDU AVAGRAHA, CANDRABINDU THREE,
CANDRABINDU TWO, CANDRABINDU VIRAMA, DOUBLE CANDRABINDU VIRAMA, HIGH SPACING DOT, INVERTED
CANDRABINDU, NUKTA, PUSHPIKA, SIDDHAM, SPACING CANDRABINDU, VIRAMA, VISARGA;
DEVANAGARI STRESS SIGN: ANUDATTA, UDATTA;
DEVANAGARI VOWEL SIGN: AA, AI, AU, AW, AY, CANDRA E, CANDRA LONG E, CANDRA O, E, I, II, O, OE,
OOE, PRISHTHAMATRA E, SHORT E, SHORT O, U, UE, UU, UUE, VOCALIC L, VOCALIC LL, VOCALIC R, VOCALIC
RR;
DEVICE CONTROL: FOUR, ONE, STRING, THREE, TWO;
DIAMETER: SIGN;
DIAMOND: OPERATOR, SHAPE WITH A DOT INSIDE, TARGET, WITH BOTTOM HALF BLACK, WITH LEFT HALF BLACK,
WITH RIGHT HALF BLACK, WITH TOP HALF BLACK;
DIE: FACE-1, FACE-2, FACE-3, FACE-4, FACE-5, FACE-6;
DIESEL: LOCOMOTIVE;
DIFFERENCE: BETWEEN;
DIGIT: EIGHT, EIGHT COMMA, EIGHT FULL STOP, FIVE, FIVE COMMA, FIVE FULL STOP, FOUR, FOUR COMMA,
FOUR FULL STOP, NINE, NINE COMMA, NINE FULL STOP, ONE, ONE COMMA, ONE FULL STOP, SEVEN, SEVEN
COMMA, SEVEN FULL STOP, SIX, SIX COMMA, SIX FULL STOP, THREE, THREE COMMA, THREE FULL STOP, TWO,
TWO COMMA, TWO FULL STOP, ZERO, ZERO COMMA, ZERO FULL STOP;
DIGRAM FOR: EARTH, EARTHLY HEAVEN, EARTHLY HUMAN, GREATER YANG, GREATER YIN, HEAVENLY EARTH, HUMAN
EARTH, LESSER YANG, LESSER YIN;
DIMENSION: ORIGIN;
DINGBAT CIRCLED SANS-SERIF: DIGIT EIGHT, DIGIT FIVE, DIGIT FOUR, DIGIT NINE, DIGIT ONE, DIGIT
SEVEN, DIGIT SIX, DIGIT THREE, DIGIT TWO, DIGIT ZERO, NUMBER TEN;
DINGBAT NEGATIVE CIRCLED DIGIT: EIGHT, FIVE, FOUR, NINE, ONE, SEVEN, SIX, THREE, TWO;
DINGBAT NEGATIVE CIRCLED NUMBER: TEN;
DINGBAT NEGATIVE CIRCLED SANS-SERIF: DIGIT EIGHT, DIGIT FIVE, DIGIT FOUR, DIGIT NINE, DIGIT ONE,
DIGIT SEVEN, DIGIT SIX, DIGIT THREE, DIGIT TWO, DIGIT ZERO, NUMBER TEN;
DIRECT: CURRENT SYMBOL FORM TWO, HIT;
DISABLED: CAR;
DISAPPOINTED: BUT RELIEVED FACE, FACE;
DISCONTINUOUS: UNDERLINE SYMBOL;
DISGUISED: FACE;
DITTO: MARK;
DIVES AKURU: VIRAMA;
DIVES AKURU DIGIT: EIGHT, FIVE, FOUR, NINE, ONE, SEVEN, SIX, THREE, TWO, ZERO;
DIVES AKURU DOUBLE: DANDA;
DIVES AKURU END: OF TEXT MARK;
DIVES AKURU GAP: FILLER;
DIVES AKURU INITIAL: RA;
DIVES AKURU LETTER: A, AA, BA, BHA, CA, CHA, DA, DDA, DDHA, DHA, E, GA, GHA, HA, I, II, JA, KA,
KHA, LA, LLA, MA, NA, NGA, NNA, NYA, O, PA, PHA, RA, SA, SHA, SSA, TA, THA, TTA, U, UU, VA, YA,
YYA, ZA;
DIVES AKURU MEDIAL: RA, YA;
DIVES AKURU PREFIXED: NASAL SIGN;
DIVES AKURU SIGN: ANUSVARA, CANDRABINDU, HALANTA, NUKTA;
DIVES AKURU VOWEL SIGN: AA, AI, E, I, II, O, U, UU;
DIVING: MASK;
DIVISION: SIGN, SLASH, TIMES;
DIVORCE: SYMBOL;
DIYA: LAMP;
DIZZY: FACE, SYMBOL;
DNA: DOUBLE HELIX;
DO: NOT LITTER SYMBOL;
DOCUMENT WITH: PICTURE, TEXT, TEXT AND PICTURE;
DOES NOT: CONTAIN AS MEMBER, CONTAIN AS NORMAL SUBGROUP, CONTAIN AS NORMAL SUBGROUP OR EQUAL,
DIVIDE, DIVIDE WITH REVERSED NEGATION SLASH, FORCE, PRECEDE, PRECEDE OR EQUAL, PROVE, SUCCEED,
SUCCEED OR EQUAL;
DOG: FACE;
DOGRA ABBREVIATION: SIGN;
DOGRA LETTER: A, AA, AI, AU, BA, BHA, CA, CHA, DA, DDA, DDHA, DHA, E, GA, GHA, HA, I, II, JA, JHA,
KA, KHA, LA, MA, NA, NGA, NNA, NYA, O, PA, PHA, RA, RRA, SA, SHA, SSA, TA, THA, TTA, TTHA, U, UU,
VA, YA;
DOGRA SIGN: ANUSVARA, NUKTA, VIRAMA, VISARGA;
DOGRA VOWEL SIGN: AA, AI, AU, E, I, II, O, U, UU, VOCALIC R, VOCALIC RR;
DOLLAR: SIGN;
DOMINO TILE: HORIZONTAL BACK, HORIZONTAL-00-00, HORIZONTAL-00-01, HORIZONTAL-00-02,
HORIZONTAL-00-03, HORIZONTAL-00-04, HORIZONTAL-00-05, HORIZONTAL-00-06, HORIZONTAL-01-00,
HORIZONTAL-01-01, HORIZONTAL-01-02, HORIZONTAL-01-03, HORIZONTAL-01-04, HORIZONTAL-01-05,
HORIZONTAL-01-06, HORIZONTAL-02-00, HORIZONTAL-02-01, HORIZONTAL-02-02, HORIZONTAL-02-03,
HORIZONTAL-02-04, HORIZONTAL-02-05, HORIZONTAL-02-06, HORIZONTAL-03-00, HORIZONTAL-03-01,
HORIZONTAL-03-02, HORIZONTAL-03-03, HORIZONTAL-03-04, HORIZONTAL-03-05, HORIZONTAL-03-06,
HORIZONTAL-04-00, HORIZONTAL-04-01, HORIZONTAL-04-02, HORIZONTAL-04-03, HORIZONTAL-04-04,
HORIZONTAL-04-05, HORIZONTAL-04-06, HORIZONTAL-05-00, HORIZONTAL-05-01, HORIZONTAL-05-02,
HORIZONTAL-05-03, HORIZONTAL-05-04, HORIZONTAL-05-05, HORIZONTAL-05-06, HORIZONTAL-06-00,
HORIZONTAL-06-01, HORIZONTAL-06-02, HORIZONTAL-06-03, HORIZONTAL-06-04, HORIZONTAL-06-05,
HORIZONTAL-06-06, VERTICAL BACK, VERTICAL-00-00, VERTICAL-00-01, VERTICAL-00-02, VERTICAL-00-03,
VERTICAL-00-04, VERTICAL-00-05, VERTICAL-00-06, VERTICAL-01-00, VERTICAL-01-01, VERTICAL-01-02,
VERTICAL-01-03, VERTICAL-01-04, VERTICAL-01-05, VERTICAL-01-06, VERTICAL-02-00, VERTICAL-02-01,
VERTICAL-02-02, VERTICAL-02-03, VERTICAL-02-04, VERTICAL-02-05, VERTICAL-02-06, VERTICAL-03-00,
VERTICAL-03-01, VERTICAL-03-02, VERTICAL-03-03, VERTICAL-03-04, VERTICAL-03-05, VERTICAL-03-06,
VERTICAL-04-00, VERTICAL-04-01, VERTICAL-04-02, VERTICAL-04-03, VERTICAL-04-04, VERTICAL-04-05,
VERTICAL-04-06, VERTICAL-05-00, VERTICAL-05-01, VERTICAL-05-02, VERTICAL-05-03, VERTICAL-05-04,
VERTICAL-05-05, VERTICAL-05-06, VERTICAL-06-00, VERTICAL-06-01, VERTICAL-06-02, VERTICAL-06-03,
VERTICAL-06-04, VERTICAL-06-05, VERTICAL-06-06;
DONG: SIGN;
DOT: ABOVE, MINUS, OPERATOR, PLUS;
DOTTED: CIRCLE, CROSS, FENCE, LINE FACE, OBELOS, RIGHT-POINTING ANGLE, SOLIDUS, SQUARE,
TRANSPOSITION MARKER;
DOUBLE: ACUTE ACCENT, CIRCLED DIGIT EIGHT, CIRCLED DIGIT FIVE, CIRCLED DIGIT FOUR, CIRCLED DIGIT
NINE, CIRCLED DIGIT ONE, CIRCLED DIGIT SEVEN, CIRCLED DIGIT SIX, CIRCLED DIGIT THREE, CIRCLED
DIGIT TWO, CIRCLED NUMBER TEN, COLON EQUAL, CURLY LOOP, DAGGER, DOWN TACK, EXCLAMATION MARK,
HIGH-REVERSED-9 QUOTATION MARK, HYPHEN, INTEGRAL, INTERSECTION, LEFT ARC GREATER-THAN BRACKET,
LOGICAL AND, LOGICAL OR, LOW LINE, LOW-9 QUOTATION MARK, LOW-REVERSED-9 QUOTATION MARK, NESTED
GREATER-THAN, NESTED LESS-THAN, NESTED LESS-THAN WITH UNDERBAR, OBLIQUE HYPHEN, PLUS, PRECEDES,
PRIME, PRIME QUOTATION MARK, QUESTION MARK, RIGHT ARC LESS-THAN BRACKET, SOLIDUS OPERATOR, SQUARE
INTERSECTION, SQUARE UNION, STACKED COMMA, STROKE NOT SIGN, SUBSET, SUCCEEDS, SUPERSET, SUSPENSION
MARK, UNION, UP TACK, VERTICAL BAR, VERTICAL BAR DOUBLE LEFT TURNSTILE, VERTICAL BAR DOUBLE RIGHT
TURNSTILE, VERTICAL BAR LEFT TURNSTILE, VERTICAL LINE, WAVY OVERLINE;
DOUBLE-ENDED: MULTIMAP;
DOUBLE-LINE: EQUAL TO OR GREATER-THAN, EQUAL TO OR LESS-THAN, SLANTED EQUAL TO OR GREATER-THAN,
SLANTED EQUAL TO OR LESS-THAN, SLANTED GREATER-THAN OR EQUAL TO, SLANTED LESS-THAN OR EQUAL TO;
DOUBLE-STRUCK: CAPITAL C, CAPITAL GAMMA, CAPITAL H, CAPITAL N, CAPITAL P, CAPITAL PI, CAPITAL Q,
CAPITAL R, CAPITAL Z, ITALIC CAPITAL D, ITALIC SMALL D, ITALIC SMALL E, ITALIC SMALL I, ITALIC
SMALL J, N-ARY SUMMATION, SMALL GAMMA, SMALL PI;
DOUBLED: FEMALE SIGN, MALE SIGN, SYMBOL;
DOVE: OF PEACE;
DOWN: ARROWHEAD, FISH TAIL, RIGHT DIAGONAL ELLIPSIS, TACK, TACK WITH CIRCLE BELOW;
DOWN-POINTING: RED TRIANGLE, SMALL RED TRIANGLE, TRIANGLE WITH LEFT HALF BLACK, TRIANGLE WITH
RIGHT HALF BLACK;
DOWNWARD FACING: HOOK, HOOK WITH DOT, NOTCHED HOOK, NOTCHED HOOK WITH DOT;
DOWNWARDS: ANCORA, ARROW, ARROW AND RIGHT ONE EIGHTH BLOCK, ARROW FROM BAR, ARROW LEFTWARDS OF
UPWARDS ARROW, ARROW TO BAR, ARROW WITH CORNER LEFTWARDS, ARROW WITH DOUBLE STROKE, ARROW WITH
EQUILATERAL ARROWHEAD, ARROW WITH HORIZONTAL STROKE, ARROW WITH LARGE TRIANGLE ARROWHEAD, ARROW
WITH MEDIUM TRIANGLE ARROWHEAD, ARROW WITH NOTCHED TAIL, ARROW WITH SMALL EQUILATERAL ARROWHEAD,
ARROW WITH SMALL TRIANGLE ARROWHEAD, ARROW WITH TIP LEFTWARDS, ARROW WITH TIP RIGHTWARDS, BLACK
ARROW, BLACK CIRCLED WHITE ARROW, COMPRESSED ARROW, DASHED ARROW, DOUBLE ARROW, FINGER-POST ARROW,
HARPOON WITH BARB LEFT BESIDE DOWNWARDS HARPOON WITH BARB RIGHT, HARPOON WITH BARB LEFT BESIDE
UPWARDS HARPOON WITH BARB RIGHT, HARPOON WITH BARB LEFT FROM BAR, HARPOON WITH BARB LEFT TO BAR,
HARPOON WITH BARB LEFTWARDS, HARPOON WITH BARB RIGHT FROM BAR, HARPOON WITH BARB RIGHT TO BAR,
HARPOON WITH BARB RIGHTWARDS, HEAVY ARROW, HEAVY COMPRESSED ARROW, PAIRED ARROWS, QUADRUPLE ARROW,
ROCKET, SANS-SERIF ARROW, SQUARED ARROW, TRIANGLE ARROWHEAD, TRIANGLE-HEADED ARROW,
TRIANGLE-HEADED ARROW LEFTWARDS OF UPWARDS TRIANGLE-HEADED ARROW, TRIANGLE-HEADED ARROW TO BAR,
TRIANGLE-HEADED ARROW WITH BOLD SHAFT, TRIANGLE-HEADED ARROW WITH DOUBLE HORIZONTAL STROKE,
TRIANGLE-HEADED ARROW WITH HEAVY SHAFT, TRIANGLE-HEADED ARROW WITH LONG TIP LEFTWARDS,
TRIANGLE-HEADED ARROW WITH LONG TIP RIGHTWARDS, TRIANGLE-HEADED ARROW WITH MEDIUM SHAFT,
TRIANGLE-HEADED ARROW WITH NARROW SHAFT, TRIANGLE-HEADED ARROW WITH VERY HEAVY SHAFT,
TRIANGLE-HEADED DASHED ARROW, TRIANGLE-HEADED PAIRED ARROWS, TRIANGLE-HEADED ZIGZAG ARROW, TRIPLE
ARROW, TWO HEADED ARROW, TWO-HEADED ARROW WITH TRIANGLE ARROWHEADS, WHITE ARROW, WHITE ARROW
WITHIN TRIANGLE ARROWHEAD, ZIGZAG ARROW;
DRACHMA: SIGN;
DRAFTING: POINT RIGHTWARDS ARROW;
DRAGON: FACE;
DRIVE: SLOW SIGN;
DROMEDARY: CAMEL;
DROOLING: FACE;
DROP: OF BLOOD;
DRUM: WITH DRUMSTICKS;
DUPLOYAN AFFIX: ATTACHED E HOOK, ATTACHED I HOOK, ATTACHED LEFT-TO-RIGHT SECANT, ATTACHED SECANT,
ATTACHED TAIL, ATTACHED TANGENT, ATTACHED TANGENT HOOK, HIGH ACUTE, HIGH CIRCLE, HIGH DOT, HIGH
GRAVE, HIGH LINE, HIGH LONG GRAVE, HIGH TIGHT ACUTE, HIGH VERTICAL, HIGH VERTICAL SECANT, HIGH
WAVE, LEFT HORIZONTAL SECANT, LOW ACUTE, LOW ARROW, LOW CIRCLE, LOW DOT, LOW GRAVE, LOW LINE, LOW
LONG GRAVE, LOW TIGHT ACUTE, LOW VERTICAL, LOW VERTICAL SECANT, LOW WAVE, MID HORIZONTAL SECANT,
MID VERTICAL SECANT, RIGHT HORIZONTAL SECANT;
DUPLOYAN DOUBLE: MARK;
DUPLOYAN LETTER: A, AOU, B, D, D S, DH, E, EE, EU, F, F N, G, G R S, H, HL, I, IE, J, J M, J M S,
J N, J N S, J S, J S WITH DOT, J WITH DOT, J WITH DOTS INSIDE AND ABOVE, K, K M, K R S, KK, L, LH,
LONG I, LONG U, M, M N, M N S, M S, M WITH DOT, N, N M, N M S, N S, N WITH DOT, NASAL A, NASAL I,
NASAL O, NASAL U, O, OA, OOH, OU, OW, P, P N, PERNIN AM, PERNIN AN, R, R S, RH, ROMANIAN I,
ROMANIAN U, S, S J, S J S, S K, S K R, S M, S N, S P, S P R, S S, S T, S T R, S WITH DOT, S WITH
DOT BELOW, SHORT I, SLOAN AN, SLOAN DH, SLOAN EE, SLOAN EH, SLOAN EN, SLOAN J, SLOAN ON, SLOAN OW,
SLOAN U, T, T R S, T S, TH, U, U N, UH, UI, V, VOCALIC M, W, W R, WA, WEI, WH, WI, WO, WOW, X, XW,
YE;
DUPLOYAN PUNCTUATION: CHINOOK FULL STOP;
DUPLOYAN SIGN: O WITH CROSS;
DUPLOYAN THICK: LETTER SELECTOR;
E-MAIL: SYMBOL;
EAR: OF MAIZE, OF RICE, WITH HEARING AID;
EARTH: GLOBE AMERICAS, GLOBE ASIA-AUSTRALIA, GLOBE EUROPE-AFRICA, GROUND;
EAST: SYRIAC CROSS;
EDITORIAL: CORONIS;
EGYPTIAN HIEROGLYPH: A001, A002, A003, A004, A005, A005A, A006, A006A, A006B, A007, A008, A009,
A010, A011, A012, A013, A014, A014A, A015, A016, A017, A017A, A018, A019, A020, A021, A022, A023,
A024, A025, A026, A027, A028, A029, A030, A031, A032, A032A, A033, A034, A035, A036, A037, A038,
A039, A040, A040A, A041, A042, A042A, A043, A043A, A044, A045, A045A, A046, A047, A048, A049,
A050, A051, A052, A053, A054, A055, A056, A057, A058, A059, A060, A061, A062, A063, A064, A065,
A066, A067, A068, A069, A070, AA001, AA002, AA003, AA004, AA005, AA006, AA007, AA007A, AA007B,
AA008, AA009, AA010, AA011, AA012, AA013, AA014, AA015, AA016, AA017, AA018, AA019, AA020, AA021,
AA022, AA023, AA024, AA025, AA026, AA027, AA028, AA029, AA030, AA031, AA032, B001, B002, B003,
B004, B005, B005A, B006, B007, B008, B009, BEGIN SEGMENT, C001, C002, C002A, C002B, C002C, C003,
C004, C005, C006, C007, C008, C009, C010, C010A, C011, C012, C013, C014, C015, C016, C017, C018,
C019, C020, C021, C022, C023, C024, D001, D002, D003, D004, D005, D006, D007, D008, D008A, D009,
D010, D011, D012, D013, D014, D015, D016, D017, D018, D019, D020, D021, D022, D023, D024, D025,
D026, D027, D027A, D028, D029, D030, D031, D031A, D032, D033, D034, D034A, D035, D036, D037, D038,
D039, D040, D041, D042, D043, D044, D045, D046, D046A, D047, D048, D048A, D049, D050, D050A,
D050B, D050C, D050D, D050E, D050F, D050G, D050H, D050I, D051, D052, D052A, D053, D054, D054A,
D055, D056, D057, D058, D059, D060, D061, D062, D063, D064, D065, D066, D067, D067A, D067B, D067C,
D067D, D067E, D067F, D067G, D067H, E001, E002, E003, E004, E005, E006, E007, E008, E008A, E009,
E009A, E010, E011, E012, E013, E014, E015, E016, E016A, E017, E017A, E018, E019, E020, E020A,
E021, E022, E023, E024, E025, E026, E027, E028, E028A, E029, E030, E031, E032, E033, E034, E034A,
E036, E037, E038, END SEGMENT, F001, F001A, F002, F003, F004, F005, F006, F007, F008, F009, F010,
F011, F012, F013, F013A, F014, F015, F016, F017, F018, F019, F020, F021, F021A, F022, F023, F024,
F025, F026, F027, F028, F029, F030, F031, F031A, F032, F033, F034, F035, F036, F037, F037A, F038,
F038A, F039, F040, F041, F042, F043, F044, F045, F045A, F046, F046A, F047, F047A, F048, F049,
F050, F051, F051A, F051B, F051C, F052, F053, G001, G002, G003, G004, G005, G006, G006A, G007,
G007A, G007B, G008, G009, G010, G011, G011A, G012, G013, G014, G015, G016, G017, G018, G019, G020,
G020A, G021, G022, G023, G024, G025, G026, G026A, G027, G028, G029, G030, G031, G032, G033, G034,
G035, G036, G036A, G037, G037A, G038, G039, G040, G041, G042, G043, G043A, G044, G045, G045A,
G046, G047, G048, G049, G050, G051, G052, G053, G054, H001, H002, H003, H004, H005, H006, H006A,
H007, H008, HORIZONTAL JOINER, I001, I002, I003, I004, I005, I005A, I006, I007, I008, I009, I009A,
I010, I010A, I011, I011A, I012, I013, I014, I015, INSERT AT BOTTOM END, INSERT AT BOTTOM START,
INSERT AT TOP END, INSERT AT TOP START, K001, K002, K003, K004, K005, K006, K007, K008, L001,
L002, L002A, L003, L004, L005, L006, L006A, L007, L008, M001, M001A, M001B, M002, M003, M003A,
M004, M005, M006, M007, M008, M009, M010, M010A, M011, M012, M012A, M012B, M012C, M012D, M012E,
M012F, M012G, M012H, M013, M014, M015, M015A, M016, M016A, M017, M017A, M018, M019, M020, M021,
M022, M022A, M023, M024, M024A, M025, M026, M027, M028, M028A, M029, M030, M031, M031A, M032,
M033, M033A, M033B, M034, M035, M036, M037, M038, M039, M040, M040A, M041, M042, M043, M044, N001,
N002, N003, N004, N005, N006, N007, N008, N009, N010, N011, N012, N013, N014, N015, N016, N017,
N018, N018A, N018B, N019, N020, N021, N022, N023, N024, N025, N025A, N026, N027, N028, N029, N030,
N031, N032, N033, N033A, N034, N034A, N035, N035A, N036, N037, N037A, N038, N039, N040, N041,
N042, NL001, NL002, NL003, NL004, NL005, NL005A, NL006, NL007, NL008, NL009, NL010, NL011, NL012,
NL013, NL014, NL015, NL016, NL017, NL017A, NL018, NL019, NL020, NU001, NU002, NU003, NU004, NU005,
NU006, NU007, NU008, NU009, NU010, NU010A, NU011, NU011A, NU012, NU013, NU014, NU015, NU016,
NU017, NU018, NU018A, NU019, NU020, NU021, NU022, NU022A, O001, O001A, O002, O003, O004, O005,
O005A, O006, O006A, O006B, O006C, O006D, O006E, O006F, O007, O008, O009, O010, O010A, O010B,
O010C, O011, O012, O013, O014, O015, O016, O017, O018, O019, O019A, O020, O020A, O021, O022, O023,
O024, O024A, O025, O025A, O026, O027, O028, O029, O029A, O030, O030A, O031, O032, O033, O033A,
O034, O035, O036, O036A, O036B, O036C, O036D, O037, O038, O039, O040, O041, O042, O043, O044,
O045, O046, O047, O048, O049, O050, O050A, O050B, O051, OVERLAY MIDDLE, P001, P001A, P002, P003,
P003A, P004, P005, P006, P007, P008, P009, P010, P011, Q001, Q002, Q003, Q004, Q005, Q006, Q007,
R001, R002, R002A, R003, R003A, R003B, R004, R005, R006, R007, R008, R009, R010, R010A, R011,
R012, R013, R014, R015, R016, R016A, R017, R018, R019, R020, R021, R022, R023, R024, R025, R026,
R027, R028, R029, S001, S002, S002A, S003, S004, S005, S006, S006A, S007, S008, S009, S010, S011,
S012, S013, S014, S014A, S014B, S015, S016, S017, S017A, S018, S019, S020, S021, S022, S023, S024,
S025, S026, S026A, S026B, S027, S028, S029, S030, S031, S032, S033, S034, S035, S035A, S036, S037,
S038, S039, S040, S041, S042, S043, S044, S045, S046, T001, T002, T003, T003A, T004, T005, T006,
T007, T007A, T008, T008A, T009, T009A, T010, T011, T011A, T012, T013, T014, T015, T016, T016A,
T017, T018, T019, T020, T021, T022, T023, T024, T025, T026, T027, T028, T029, T030, T031, T032,
T032A, T033, T033A, T034, T035, T036, U001, U002, U003, U004, U005, U006, U006A, U006B, U007,
U008, U009, U010, U011, U012, U013, U014, U015, U016, U017, U018, U019, U020, U021, U022, U023,
U023A, U024, U025, U026, U027, U028, U029, U029A, U030, U031, U032, U032A, U033, U034, U035, U036,
U037, U038, U039, U040, U041, U042, V001, V001A, V001B, V001C, V001D, V001E, V001F, V001G, V001H,
V001I, V002, V002A, V003, V004, V005, V006, V007, V007A, V007B, V008, V009, V010, V011, V011A,
V011B, V011C, V012, V012A, V012B, V013, V014, V015, V016, V017, V018, V019, V020, V020A, V020B,
V020C, V020D, V020E, V020F, V020G, V020H, V020I, V020J, V020K, V020L, V021, V022, V023, V023A,
V024, V025, V026, V027, V028, V028A, V029, V029A, V030, V030A, V031, V031A, V032, V033, V033A,
V034, V035, V036, V037, V037A, V038, V039, V040, V040A, VERTICAL JOINER, W001, W002, W003, W003A,
W004, W005, W006, W007, W008, W009, W009A, W010, W010A, W011, W012, W013, W014, W014A, W015, W016,
W017, W017A, W018, W018A, W019, W020, W021, W022, W023, W024, W024A, W025, X001, X002, X003, X004,
X004A, X004B, X005, X006, X006A, X007, X008, X008A, Y001, Y001A, Y002, Y003, Y004, Y005, Y006,
Y007, Y008, Z001, Z002, Z002A, Z002B, Z002C, Z002D, Z003, Z003A, Z003B, Z004, Z004A, Z005, Z005A,
Z006, Z007, Z008, Z009, Z010, Z011, Z012, Z013, Z014, Z015, Z015A, Z015B, Z015C, Z015D, Z015E,
Z015F, Z015G, Z015H, Z015I, Z016, Z016A, Z016B, Z016C, Z016D, Z016E, Z016F, Z016G, Z016H;
EIGHT: PETALLED OUTLINED BLACK FLORETTE, POINTED BLACK STAR, POINTED PINWHEEL STAR, POINTED
RECTILINEAR BLACK STAR, SPOKED ASTERISK, TEARDROP-SPOKED PROPELLER ASTERISK;
EIGHTH: NOTE;
EJECT: SYMBOL;
ELBASAN LETTER: A, BE, CE, CHE, DE, DHE, E, EI, FE, GE, GHAMMA, GHE, GJE, HE, I, JE, KE, KHE, LE,
LLE, ME, NA, NDE, NE, NJE, O, PE, QE, RE, RRE, SE, SHE, TE, THE, U, VE, XE, Y, ZE, ZHE;
ELECTRIC: ARROW, LIGHT BULB, PLUG, TORCH;
ELECTRICAL: INTERSECTION;
ELEMENT: OF, OF OPENING DOWNWARDS, OF OPENING UPWARDS, OF WITH DOT ABOVE, OF WITH LONG HORIZONTAL
STROKE, OF WITH OVERBAR, OF WITH TWO HORIZONTAL STROKES, OF WITH UNDERBAR, OF WITH VERTICAL BAR AT
END OF HORIZONTAL STROKE;
ELYMAIC LETTER: ALEPH, AYIN, BETH, DALETH, GIMEL, HE, HETH, KAPH, LAMEDH, MEM, NUN, PE, QOPH,
RESH, SADHE, SAMEKH, SHIN, TAW, TETH, WAW, YODH, ZAYIN;
ELYMAIC LIGATURE: ZAYIN-YODH;
EM: DASH, QUAD, SPACE;
EMOJI COMPONENT: BALD, CURLY HAIR, RED HAIR, WHITE HAIR;
EMOJI MODIFIER FITZPATRICK: TYPE-1-2, TYPE-3, TYPE-4, TYPE-5, TYPE-6;
EMPHASIS: SYMBOL;
EMPTY: DOCUMENT, NEST, NOTE, NOTE PAD, NOTE PAGE, PAGE, PAGES, SET, SET WITH LEFT ARROW ABOVE, SET
WITH OVERBAR, SET WITH RIGHT ARROW ABOVE, SET WITH SMALL CIRCLE ABOVE;
EN: DASH, QUAD, SPACE;
END: OF GUARDED AREA, OF LINE, OF MEDIUM, OF PROOF, OF PROTECTED AREA, OF SELECTED AREA, OF TEXT,
OF TRANSMISSION, OF TRANSMISSION BLOCK, WITH LEFTWARDS ARROW ABOVE;
ENTER: SYMBOL;
ENVELOPE WITH: DOWNWARDS ARROW ABOVE, LIGHTNING;
EQUAL: AND PARALLEL TO, TO BY DEFINITION, TO OR GREATER-THAN, TO OR LESS-THAN, TO OR PRECEDES, TO
OR SUCCEEDS;
EQUALS: COLON, SIGN, SIGN ABOVE LEFTWARDS ARROW, SIGN ABOVE PLUS SIGN, SIGN ABOVE RIGHTWARDS
ARROW, SIGN ABOVE TILDE OPERATOR, SIGN AND SLANTED PARALLEL, SIGN AND SLANTED PARALLEL WITH TILDE
ABOVE, SIGN WITH BUMPY ABOVE, SIGN WITH DOT BELOW, SIGN WITH INFINITY BELOW, SIGN WITH TWO DOTS
ABOVE AND TWO DOTS BELOW, WITH ASTERISK;
EQUIANGULAR: TO;
EQUIVALENT: TO, WITH FOUR DOTS ABOVE;
ERASE TO THE: LEFT, RIGHT;
ERIS FORM: ONE, TWO;
ERROR-BARRED: BLACK CIRCLE, BLACK DIAMOND, BLACK SQUARE, WHITE CIRCLE, WHITE DIAMOND, WHITE
SQUARE;
ESTIMATED: SYMBOL;
ETHIOPIC: COLON, COMMA, SEMICOLON, WORDSPACE;
ETHIOPIC COMBINING: GEMINATION AND VOWEL LENGTH MARK, GEMINATION MARK, VOWEL LENGTH MARK;
ETHIOPIC DIGIT: EIGHT, FIVE, FOUR, NINE, ONE, SEVEN, SIX, THREE, TWO;
ETHIOPIC FULL: STOP;
ETHIOPIC NUMBER: EIGHTY, FIFTY, FORTY, HUNDRED, NINETY, SEVENTY, SIXTY, TEN, TEN THOUSAND, THIRTY,
TWENTY;
ETHIOPIC PARAGRAPH: SEPARATOR;
ETHIOPIC PREFACE: COLON;
ETHIOPIC QUESTION: MARK;
ETHIOPIC SECTION: MARK;
ETHIOPIC SYLLABLE: BA, BAA, BBA, BBAA, BBE, BBEE, BBI, BBO, BBU, BE, BEE, BI, BO, BOA, BU, BWA,
BWE, BWEE, BWI, CA, CAA, CCA, CCAA, CCE, CCEE, CCHA, CCHAA, CCHE, CCHEE, CCHHA, CCHHAA, CCHHE,
CCHHEE, CCHHI, CCHHO, CCHHU, CCHI, CCHO, CCHU, CCI, CCO, CCU, CE, CEE, CHA, CHAA, CHE, CHEE, CHI,
CHO, CHOA, CHU, CHWA, CI, CO, COA, CU, CWA, DA, DAA, DDA, DDAA, DDE, DDEE, DDHAA, DDHE, DDHEE,
DDHI, DDHO, DDHU, DDI, DDO, DDOA, DDU, DDWA, DE, DEE, DI, DO, DOA, DU, DWA, DZAA, DZE, DZEE, DZI,
DZO, DZU, FA, FAA, FE, FEE, FI, FO, FU, FWA, FWE, FWEE, FWI, FYA, GA, GAA, GE, GEE, GGA, GGAA,
GGE, GGEE, GGI, GGO, GGU, GGWA, GGWAA, GGWE, GGWEE, GGWI, GI, GO, GOA, GU, GWA, GWAA, GWE, GWEE,
GWI, GYA, GYAA, GYE, GYEE, GYI, GYO, GYU, HA, HAA, HE, HEE, HHA, HHAA, HHE, HHEE, HHI, HHO, HHU,
HHWA, HHWE, HHWEE, HHWI, HHYA, HHYAA, HHYE, HHYEE, HHYI, HHYO, HHYU, HI, HO, HOA, HU, JA, JAA, JE,
JEE, JI, JO, JOA, JU, JWA, KA, KAA, KE, KEE, KI, KO, KOA, KU, KWA, KWAA, KWE, KWEE, KWI, KXA,
KXAA, KXE, KXEE, KXI, KXO, KXU, KXWA, KXWAA, KXWE, KXWEE, KXWI, KYA, KYAA, KYE, KYEE, KYI, KYO,
KYU, LA, LAA, LE, LEE, LI, LO, LOA, LU, LWA, MA, MAA, ME, MEE, MI, MO, MOA, MU, MWA, MWE, MWEE,
MWI, MYA, NA, NAA, NE, NEE, NI, NO, NOA, NU, NWA, NYA, NYAA, NYE, NYEE, NYI, NYO, NYOA, NYU, NYWA,
PA, PAA, PE, PEE, PHA, PHAA, PHE, PHEE, PHI, PHO, PHOA, PHU, PHWA, PI, PO, POA, PU, PWA, PWE,
PWEE, PWI, QA, QAA, QE, QEE, QHA, QHAA, QHE, QHEE, QHI, QHO, QHU, QHWA, QHWAA, QHWE, QHWEE, QHWI,
QI, QO, QOA, QU, QWA, QWAA, QWE, QWEE, QWI, QYA, QYAA, QYE, QYEE, QYI, QYO, QYU, RA, RAA, RE, REE,
RI, RO, ROA, RU, RWA, RYA, SA, SAA, SE, SEE, SHA, SHAA, SHE, SHEE, SHI, SHO, SHOA, SHU, SHWA, SI,
SO, SOA, SSA, SSAA, SSE, SSEE, SSI, SSO, SSU, SU, SWA, SZA, SZAA, SZE, SZEE, SZI, SZO, SZU, SZWA,
TA, TAA, TE, TEE, THA, THAA, THE, THEE, THI, THO, THOA, THU, THWA, TI, TO, TOA, TSA, TSAA, TSE,
TSEE, TSI, TSO, TSU, TSWA, TTHAA, TTHE, TTHEE, TTHI, TTHO, TTHU, TU, TWA, TZA, TZAA, TZE, TZEE,
TZI, TZO, TZOA, TZU, VA, VAA, VE, VEE, VI, VO, VU, VWA, WA, WAA, WE, WEE, WI, WO, WOA, WU, XA,
XAA, XE, XEE, XI, XO, XOA, XU, XWA, XWAA, XWE, XWEE, XWI, XYA, XYAA, XYE, XYEE, XYI, XYO, XYU, YA,
YAA, YE, YEE, YI, YO, YOA, YU, ZA, ZAA, ZE, ZEE, ZHA, ZHAA, ZHE, ZHEE, ZHI, ZHO, ZHU, ZHWA, ZI,
ZO, ZOA, ZU, ZWA, ZZA, ZZAA, ZZE, ZZEE, ZZI, ZZO, ZZU;
ETHIOPIC SYLLABLE GLOTTAL: A, AA, E, EE, I, O, OA, U, WA;
ETHIOPIC SYLLABLE GURAGE: BWEE, BWI, FWEE, FWI, GWE, GWEE, GWI, HHWA, KWE, KWEE, KWI, MWEE, MWI,
PWEE, PWI, QWE, QWEE, QWI;
ETHIOPIC SYLLABLE PHARYNGEAL: A, AA, E, EE, I, O, U;
ETHIOPIC SYLLABLE SEBATBEIT: BWA, FWA, MWA, PWA;
ETHIOPIC TONAL MARK: CHIRET, DERET, DERET-HIDET, DIFAT, HIDET, KENAT, KURT, RIKRIK, SHORT RIKRIK,
YIZET;
EULER: CONSTANT;
EURO: SIGN;
EURO-CURRENCY: SIGN;
EUROPEAN: CASTLE, POST OFFICE;
EVERGREEN: TREE;
EXCLAMATION: MARK, QUESTION MARK;
EXPRESSIONLESS: FACE;
EXTENDED ARABIC-INDIC DIGIT: EIGHT, FIVE, FOUR, NINE, ONE, SEVEN, SIX, THREE, TWO, ZERO;
EXTRATERRESTRIAL: ALIEN;
EXTREMELY HEAVY: FIVE SPOKED ASTERISK, GREEK CROSS, SALTIRE, SIX SPOKED ASTERISK, WHITE CIRCLE,
WHITE SQUARE;
FACE: HOLDING BACK TEARS, MASSAGE, PALM, SAVOURING DELICIOUS FOOD, SCREAMING IN FEAR, THROWING A
KISS, WITH COLD SWEAT, WITH COWBOY HAT, WITH DIAGONAL MOUTH, WITH FINGER COVERING CLOSED LIPS,
WITH HEAD-BANDAGE, WITH LOOK OF TRIUMPH, WITH MEDICAL MASK, WITH MONOCLE, WITH NO GOOD GESTURE,
WITH OK GESTURE, WITH ONE EYEBROW RAISED, WITH OPEN EYES AND HAND OVER MOUTH, WITH OPEN MOUTH,
WITH OPEN MOUTH AND COLD SWEAT, WITH OPEN MOUTH VOMITING, WITH PARTY HORN AND PARTY HAT, WITH
PEEKING EYE, WITH PLEADING EYES, WITH ROLLING EYES, WITH STUCK-OUT TONGUE, WITH STUCK-OUT TONGUE
AND TIGHTLY-CLOSED EYES, WITH STUCK-OUT TONGUE AND WINKING EYE, WITH TEARS OF JOY, WITH
THERMOMETER, WITH UNEVEN EYES AND WAVY MOUTH, WITHOUT MOUTH;
FACSIMILE: SIGN;
FALLEN: LEAF;
FALLING DIAGONAL: CROSSING NORTH EAST ARROW, CROSSING RISING DIAGONAL, IN WHITE CIRCLE IN BLACK
SQUARE;
FARSI: SYMBOL;
FATHER: CHRISTMAS;
FAX: ICON, MACHINE;
FEARFUL: FACE;
FEMALE: SIGN;
FEMININE: ORDINAL INDICATOR;
FERRIS: WHEEL;
FIELD: HOCKEY STICK AND BALL;
FIGURE: DASH, SPACE;
FILE: CABINET, FOLDER, SEPARATOR;
FILM: FRAMES, PROJECTOR;
FINITE: PART INTEGRAL;
FIRE: ENGINE, EXTINGUISHER;
FIREWORK: SPARKLER;
FIRST: PLACE MEDAL, QUARTER MOON, QUARTER MOON SYMBOL, QUARTER MOON WITH FACE, STRONG ISOLATE;
FISH: CAKE WITH SWIRL DESIGN;
FISHING: POLE AND FISH;
FISTED: HAND SIGN;
FIVE DOT: MARK, PUNCTUATION;
FLAG: IN HOLE;
FLAT: SHOE;
FLEXED: BICEPS;
FLOPPY: DISK;
FLORAL: HEART;
FLOWER: PLAYING CARDS, PUNCTUATION MARK;
FLUSHED: FACE;
FLYING: DISC, ENVELOPE, SAUCER;
FOR: ALL;
FORK AND: KNIFE, KNIFE WITH PLATE;
FORKED: PARAGRAPHOS;
FORM: FEED;
FORTUNE: COOKIE;
FOUR: BALLOON-SPOKED ASTERISK, CLUB-SPOKED ASTERISK, CORNER ARROWS CIRCLING ANTICLOCKWISE, DOT
MARK, DOT PUNCTUATION, LEAF CLOVER, POINTED BLACK STAR, TEARDROP-SPOKED ASTERISK;
FOUR-PER-EM: SPACE;
FOURTH: ROOT;
FOX: FACE;
FRACTION: NUMERATOR ONE, SLASH;
FRAME WITH: AN X, PICTURE, TILES;
FREEZING: FACE;
FRENCH: FRANC SIGN, FRIES;
FRIED: SHRIMP;
FROG: FACE;
FRONT-FACING: BABY CHICK;
FRONT-TILTED: SHADOWED WHITE RIGHTWARDS ARROW;
FROWNING: FACE WITH OPEN MOUTH;
FUEL: PUMP;
FULL: BLOCK, MOON SYMBOL, MOON WITH FACE, OUTER JOIN, STOP;
FULLWIDTH: AMPERSAND, APOSTROPHE, ASTERISK, BROKEN BAR, CENT SIGN, CIRCUMFLEX ACCENT, COLON,
COMMA, COMMERCIAL AT, DIGIT EIGHT, DIGIT FIVE, DIGIT FOUR, DIGIT NINE, DIGIT ONE, DIGIT SEVEN,
DIGIT SIX, DIGIT THREE, DIGIT TWO, DIGIT ZERO, DOLLAR SIGN, EQUALS SIGN, EXCLAMATION MARK, FULL
STOP, GRAVE ACCENT, GREATER-THAN SIGN, HYPHEN-MINUS, LATIN CAPITAL LETTER A, LATIN CAPITAL LETTER
B, LATIN CAPITAL LETTER C, LATIN CAPITAL LETTER D, LATIN CAPITAL LETTER E, LATIN CAPITAL LETTER F,
LATIN CAPITAL LETTER G, LATIN CAPITAL LETTER H, LATIN CAPITAL LETTER I, LATIN CAPITAL LETTER J,
LATIN CAPITAL LETTER K, LATIN CAPITAL LETTER L, LATIN CAPITAL LETTER M, LATIN CAPITAL LETTER N,
LATIN CAPITAL LETTER O, LATIN CAPITAL LETTER P, LATIN CAPITAL LETTER Q, LATIN CAPITAL LETTER R,
LATIN CAPITAL LETTER S, LATIN CAPITAL LETTER T, LATIN CAPITAL LETTER U, LATIN CAPITAL LETTER V,
LATIN CAPITAL LETTER W, LATIN CAPITAL LETTER X, LATIN CAPITAL LETTER Y, LATIN CAPITAL LETTER Z,
LATIN SMALL LETTER A, LATIN SMALL LETTER B, LATIN SMALL LETTER C, LATIN SMALL LETTER D, LATIN
SMALL LETTER E, LATIN SMALL LETTER F, LATIN SMALL LETTER G, LATIN SMALL LETTER H, LATIN SMALL
LETTER I, LATIN SMALL LETTER J, LATIN SMALL LETTER K, LATIN SMALL LETTER L, LATIN SMALL LETTER M,
LATIN SMALL LETTER N, LATIN SMALL LETTER O, LATIN SMALL LETTER P, LATIN SMALL LETTER Q, LATIN
SMALL LETTER R, LATIN SMALL LETTER S, LATIN SMALL LETTER T, LATIN SMALL LETTER U, LATIN SMALL
LETTER V, LATIN SMALL LETTER W, LATIN SMALL LETTER X, LATIN SMALL LETTER Y, LATIN SMALL LETTER Z,
LEFT CURLY BRACKET, LEFT PARENTHESIS, LEFT SQUARE BRACKET, LEFT WHITE PARENTHESIS, LESS-THAN SIGN,
LOW LINE, MACRON, NOT SIGN, NUMBER SIGN, PERCENT SIGN, PLUS SIGN, POUND SIGN, QUESTION MARK,
QUOTATION MARK, REVERSE SOLIDUS, RIGHT CURLY BRACKET, RIGHT PARENTHESIS, RIGHT SQUARE BRACKET,
RIGHT WHITE PARENTHESIS, SEMICOLON, SOLIDUS, TILDE, VERTICAL LINE, WON SIGN, YEN SIGN;
FUNCTION: APPLICATION;
FUNERAL: URN;
GAME: DIE;
GEAR: WITH HANDLES, WITHOUT HUB;
GEM: STONE;
GEOMETRIC: PROPORTION;
GEOMETRICALLY: EQUAL TO, EQUIVALENT TO;
GEORGIAN CAPITAL LETTER: AEN, AN, BAN, CAN, CHAR, CHIN, CIL, DON, EN, GAN, GHAN, HAE, HAR, HE,
HIE, HOE, IN, JHAN, JIL, KAN, KHAR, LAS, MAN, NAR, ON, PAR, PHAR, QAR, RAE, SAN, SHIN, TAN, TAR,
UN, VIN, WE, XAN, YN, ZEN, ZHAR;
GEORGIAN LETTER: AEN, AIN, AN, BAN, CAN, CHAR, CHIN, CIL, DON, ELIFI, EN, FI, GAN, GHAN, HAE, HAR,
HARD SIGN, HE, HIE, HOE, IN, JHAN, JIL, KAN, KHAR, LABIAL SIGN, LAS, MAN, NAR, ON, PAR, PHAR, QAR,
RAE, SAN, SHIN, TAN, TAR, TURNED GAN, UN, VIN, WE, XAN, YN, ZEN, ZHAR;
GEORGIAN MTAVRULI CAPITAL LETTER: AEN, AIN, AN, BAN, CAN, CHAR, CHIN, CIL, DON, ELIFI, EN, FI,
GAN, GHAN, HAE, HAR, HARD SIGN, HE, HIE, HOE, IN, JHAN, JIL, KAN, KHAR, LABIAL SIGN, LAS, MAN,
NAR, ON, PAR, PHAR, QAR, RAE, SAN, SHIN, TAN, TAR, TURNED GAN, UN, VIN, WE, XAN, YN, ZEN, ZHAR;
GEORGIAN PARAGRAPH: SEPARATOR;
GEORGIAN SMALL LETTER: AEN, AN, BAN, CAN, CHAR, CHIN, CIL, DON, EN, GAN, GHAN, HAE, HAR, HE, HIE,
HOE, IN, JHAN, JIL, KAN, KHAR, LAS, MAN, NAR, ON, PAR, PHAR, QAR, RAE, SAN, SHIN, TAN, TAR, UN,
VIN, WE, XAN, YN, ZEN, ZHAR;
GERMAN: PENNY SIGN;
GETA: MARK;
GIMEL: SYMBOL;
GIRAFFE: FACE;
GIRLS: SYMBOL;
GLAGOLITIC CAPITAL LETTER: AZU, BIG YUS, BUKY, CAUDATE CHRIVI, CHRIVI, DJERVI, DOBRO, DZELO, FITA,
FRITU, GLAGOLI, HERU, I, INITIAL IZHE, IOTATED BIG YUS, IOTATED SMALL YUS, IZHE, IZHITSA, KAKO,
LATINATE MYSLITE, LJUDIJE, MYSLITE, NASHI, ONU, OTU, PE, POKOJI, RITSI, SHA, SHTA, SHTAPIC, SLOVO,
SMALL YUS, SMALL YUS WITH TAIL, SPIDERY HA, TROKUTASTI A, TSI, TVRIDO, UKU, VEDE, YATI, YERI,
YERU, YESTU, YO, YU, ZEMLJA, ZHIVETE;
GLAGOLITIC SMALL LETTER: AZU, BIG YUS, BUKY, CAUDATE CHRIVI, CHRIVI, DJERVI, DOBRO, DZELO, FITA,
FRITU, GLAGOLI, HERU, I, INITIAL IZHE, IOTATED BIG YUS, IOTATED SMALL YUS, IZHE, IZHITSA, KAKO,
LATINATE MYSLITE, LJUDIJE, MYSLITE, NASHI, ONU, OTU, PE, POKOJI, RITSI, SHA, SHTA, SHTAPIC, SLOVO,
SMALL YUS, SMALL YUS WITH TAIL, SPIDERY HA, TROKUTASTI A, TSI, TVRIDO, UKU, VEDE, YATI, YERI,
YERU, YESTU, YO, YU, ZEMLJA, ZHIVETE;
GLASS: OF MILK;
GLEICH: STARK;
GLOBE: WITH MERIDIANS;
GLOWING: STAR;
GOAL: NET;
GOTHIC LETTER: AHSA, AIHVUS, BAIRKAN, DAGS, EIS, FAIHU, GIBA, HAGL, HWAIR, IGGWS, IUJA, JER,
KUSMA, LAGUS, MANNA, NAUTHS, NINE HUNDRED, NINETY, OTHAL, PAIRTHRA, QAIRTHRA, RAIDA, SAUIL, TEIWS,
THIUTH, URUS, WINJA;
GRADUATION: CAP;
GRANTHA: OM;
GRANTHA AU: LENGTH MARK;
GRANTHA LETTER: A, AA, AI, AU, BA, BHA, CA, CHA, DA, DDA, DDHA, DHA, EE, GA, GHA, HA, I, II, JA,
JHA, KA, KHA, LA, LLA, MA, NA, NGA, NNA, NYA, OO, PA, PHA, RA, SA, SHA, SSA, TA, THA, TTA, TTHA,
U, UU, VA, VEDIC ANUSVARA, VEDIC DOUBLE ANUSVARA, VOCALIC L, VOCALIC LL, VOCALIC R, VOCALIC RR,
YA;
GRANTHA SIGN: ANUSVARA, AVAGRAHA, CANDRABINDU, COMBINING ANUSVARA ABOVE, NUKTA, PLUTA, VIRAMA,
VISARGA;
GRANTHA VOWEL SIGN: AA, AI, AU, EE, I, II, OO, U, UU, VOCALIC L, VOCALIC LL, VOCALIC R, VOCALIC
RR;
GRAVE: ACCENT;
GREATER-THAN: ABOVE DOUBLE-LINE EQUAL ABOVE LESS-THAN, ABOVE LESS-THAN ABOVE DOUBLE-LINE EQUAL,
ABOVE RIGHTWARDS ARROW, ABOVE SIMILAR ABOVE LESS-THAN, ABOVE SIMILAR OR EQUAL, ABOVE SLANTED EQUAL
ABOVE LESS-THAN ABOVE SLANTED EQUAL, AND NOT APPROXIMATE, AND SINGLE-LINE NOT EQUAL TO, BESIDE
LESS-THAN, BUT NOT EQUAL TO, BUT NOT EQUIVALENT TO, CLOSED BY CURVE, CLOSED BY CURVE ABOVE SLANTED
EQUAL, EQUAL TO OR LESS-THAN, OR APPROXIMATE, OR EQUAL TO, OR EQUIVALENT TO, OR LESS-THAN, OR
SLANTED EQUAL TO, OR SLANTED EQUAL TO WITH DOT ABOVE, OR SLANTED EQUAL TO WITH DOT ABOVE LEFT, OR
SLANTED EQUAL TO WITH DOT INSIDE, OVER EQUAL TO, OVERLAPPING LESS-THAN, SIGN, WITH CIRCLE INSIDE,
WITH DOT, WITH QUESTION MARK ABOVE;
GREEK: DASIA, KORONIS, OXIA, PERISPOMENI, PROSGEGRAMMENI, PSILI, TONOS, VARIA, YPOGEGRAMMENI;
GREEK ACROPHONIC: ATTIC FIFTY, ATTIC FIFTY STATERS, ATTIC FIFTY TALENTS, ATTIC FIFTY THOUSAND,
ATTIC FIFTY THOUSAND STATERS, ATTIC FIVE, ATTIC FIVE HUNDRED, ATTIC FIVE HUNDRED STATERS, ATTIC
FIVE HUNDRED TALENTS, ATTIC FIVE STATERS, ATTIC FIVE TALENTS, ATTIC FIVE THOUSAND, ATTIC FIVE
THOUSAND TALENTS, ATTIC ONE DRACHMA, ATTIC ONE HALF, ATTIC ONE HUNDRED STATERS, ATTIC ONE HUNDRED
TALENTS, ATTIC ONE QUARTER, ATTIC ONE THOUSAND STATERS, ATTIC ONE THOUSAND TALENTS, ATTIC TEN
MNAS, ATTIC TEN STATERS, ATTIC TEN TALENTS, ATTIC TEN THOUSAND STATERS, CARYSTIAN FIVE HUNDRED,
CYRENAIC TWO DRACHMAS, DELPHIC FIVE MNAS, EPIDAUREAN FIVE HUNDRED, EPIDAUREAN TWO, EPIDAUREAN TWO
DRACHMAS, HERAEUM ONE PLETHRON, HERMIONIAN FIFTY, HERMIONIAN ONE, HERMIONIAN TEN, MESSENIAN TEN,
NAXIAN FIVE HUNDRED, STRATIAN FIFTY MNAS, THESPIAN FIFTY, THESPIAN FIVE HUNDRED, THESPIAN FIVE
THOUSAND, THESPIAN ONE, THESPIAN ONE HUNDRED, THESPIAN ONE THOUSAND, THESPIAN TEN, THESPIAN
THIRTY, THESPIAN THREE HUNDRED, THESPIAN TWO, TROEZENIAN FIFTY, TROEZENIAN FIFTY ALTERNATE FORM,
TROEZENIAN FIVE, TROEZENIAN FIVE HUNDRED, TROEZENIAN TEN, TROEZENIAN TEN ALTERNATE FORM;
GREEK ANO: TELEIA;
GREEK AROURA: SIGN;
GREEK ARTABE: SIGN;
GREEK BETA: SYMBOL;
GREEK CAPITAL DOTTED: LUNATE SIGMA SYMBOL;
GREEK CAPITAL KAI: SYMBOL;
GREEK CAPITAL LETTER: ALPHA, BETA, CHI, DELTA, EPSILON, ETA, GAMMA, HETA, IOTA, KAPPA, LAMDA, MU,
NU, OMEGA, OMICRON, PHI, PI, PSI, RHO, SAN, SHO, SIGMA, TAU, THETA, UPSILON, XI, YOT, ZETA;
GREEK CAPITAL LETTER ALPHA WITH: DASIA, DASIA AND OXIA, DASIA AND OXIA AND PROSGEGRAMMENI, DASIA
AND PERISPOMENI, DASIA AND PERISPOMENI AND PROSGEGRAMMENI, DASIA AND PROSGEGRAMMENI, DASIA AND
VARIA, DASIA AND VARIA AND PROSGEGRAMMENI, MACRON, OXIA, PROSGEGRAMMENI, PSILI, PSILI AND OXIA,
PSILI AND OXIA AND PROSGEGRAMMENI, PSILI AND PERISPOMENI, PSILI AND PERISPOMENI AND
PROSGEGRAMMENI, PSILI AND PROSGEGRAMMENI, PSILI AND VARIA, PSILI AND VARIA AND PROSGEGRAMMENI,
TONOS, VARIA, VRACHY;
GREEK CAPITAL LETTER ARCHAIC: SAMPI;
GREEK CAPITAL LETTER EPSILON WITH: DASIA, DASIA AND OXIA, DASIA AND VARIA, OXIA, PSILI, PSILI AND
OXIA, PSILI AND VARIA, TONOS, VARIA;
GREEK CAPITAL LETTER ETA WITH: DASIA, OXIA, PROSGEGRAMMENI, PSILI, TONOS, VARIA;
GREEK CAPITAL LETTER ETA WITH DASIA AND: OXIA, OXIA AND PROSGEGRAMMENI, PERISPOMENI, PERISPOMENI
AND PROSGEGRAMMENI, PROSGEGRAMMENI, VARIA, VARIA AND PROSGEGRAMMENI;
GREEK CAPITAL LETTER ETA WITH PSILI AND: OXIA, OXIA AND PROSGEGRAMMENI, PERISPOMENI, PERISPOMENI
AND PROSGEGRAMMENI, PROSGEGRAMMENI, VARIA, VARIA AND PROSGEGRAMMENI;
GREEK CAPITAL LETTER IOTA WITH: DASIA, DASIA AND OXIA, DASIA AND PERISPOMENI, DASIA AND VARIA,
DIALYTIKA, MACRON, OXIA, PSILI, PSILI AND OXIA, PSILI AND PERISPOMENI, PSILI AND VARIA, TONOS,
VARIA, VRACHY;
GREEK CAPITAL LETTER OMEGA WITH: DASIA, DASIA AND OXIA, DASIA AND OXIA AND PROSGEGRAMMENI, DASIA
AND PERISPOMENI, DASIA AND PERISPOMENI AND PROSGEGRAMMENI, DASIA AND PROSGEGRAMMENI, DASIA AND
VARIA, DASIA AND VARIA AND PROSGEGRAMMENI, OXIA, PROSGEGRAMMENI, PSILI, PSILI AND OXIA, PSILI AND
OXIA AND PROSGEGRAMMENI, PSILI AND PERISPOMENI, PSILI AND PERISPOMENI AND PROSGEGRAMMENI, PSILI
AND PROSGEGRAMMENI, PSILI AND VARIA, PSILI AND VARIA AND PROSGEGRAMMENI, TONOS, VARIA;
GREEK CAPITAL LETTER OMICRON WITH: DASIA, DASIA AND OXIA, DASIA AND VARIA, OXIA, PSILI, PSILI AND
OXIA, PSILI AND VARIA, TONOS, VARIA;
GREEK CAPITAL LETTER PAMPHYLIAN: DIGAMMA;
GREEK CAPITAL LETTER RHO: WITH DASIA;
GREEK CAPITAL LETTER UPSILON WITH: DASIA, DASIA AND OXIA, DASIA AND PERISPOMENI, DASIA AND VARIA,
DIALYTIKA, MACRON, OXIA, TONOS, VARIA, VRACHY;
GREEK CAPITAL LUNATE: SIGMA SYMBOL;
GREEK CAPITAL REVERSED: DOTTED LUNATE SIGMA SYMBOL, LUNATE SIGMA SYMBOL;
GREEK CAPITAL THETA: SYMBOL;
GREEK DASIA AND: OXIA, PERISPOMENI, VARIA;
GREEK DIALYTIKA: AND OXIA, AND PERISPOMENI, AND VARIA, TONOS;
GREEK DRACHMA: SIGN;
GREEK FIVE: OBOLS SIGN;
GREEK FOUR: OBOLS SIGN;
GREEK GRAMMA: SIGN;
GREEK INDICTION: SIGN;
GREEK INSTRUMENTAL NOTATION: SYMBOL-1, SYMBOL-11, SYMBOL-12, SYMBOL-13, SYMBOL-14, SYMBOL-17,
SYMBOL-18, SYMBOL-19, SYMBOL-2, SYMBOL-23, SYMBOL-24, SYMBOL-25, SYMBOL-26, SYMBOL-27, SYMBOL-29,
SYMBOL-30, SYMBOL-32, SYMBOL-36, SYMBOL-37, SYMBOL-38, SYMBOL-39, SYMBOL-4, SYMBOL-40, SYMBOL-42,
SYMBOL-43, SYMBOL-45, SYMBOL-47, SYMBOL-48, SYMBOL-49, SYMBOL-5, SYMBOL-50, SYMBOL-51, SYMBOL-52,
SYMBOL-53, SYMBOL-54, SYMBOL-7, SYMBOL-8;
GREEK KAI: SYMBOL;
GREEK KAPPA: SYMBOL;
GREEK KYATHOS: BASE SIGN;
GREEK LETTER: ARCHAIC KOPPA, DIGAMMA, KOPPA, SAMPI, SMALL CAPITAL GAMMA, SMALL CAPITAL LAMDA,
SMALL CAPITAL OMEGA, SMALL CAPITAL PI, SMALL CAPITAL PSI, SMALL CAPITAL RHO, STIGMA, YOT;
GREEK LITRA: SIGN;
GREEK LOWER: NUMERAL SIGN;
GREEK LUNATE: EPSILON SYMBOL, SIGMA SYMBOL;
GREEK METRETES: SIGN;
GREEK MUSICAL: LEIMMA;
GREEK NUMERAL: SIGN;
GREEK OBOL: SIGN;
GREEK ONE: HALF SIGN, HALF SIGN ALTERNATE FORM, QUARTER SIGN;
GREEK OUNKIA: SIGN;
GREEK PHI: SYMBOL;
GREEK PI: SYMBOL;
GREEK PSILI AND: OXIA, PERISPOMENI, VARIA;
GREEK QUESTION: MARK;
GREEK REVERSED: LUNATE EPSILON SYMBOL;
GREEK RHO: SYMBOL, WITH STROKE SYMBOL;
GREEK SINUSOID: SIGN;
GREEK SMALL DOTTED: LUNATE SIGMA SYMBOL;
GREEK SMALL LETTER: ALPHA, BETA, CHI, DELTA, DIGAMMA, EPSILON, ETA, GAMMA, HETA, IOTA, KAPPA,
KOPPA, LAMDA, MU, NU, OMEGA, OMICRON, PHI, PI, PSI, RHO, SAMPI, SAN, SHO, SIGMA, STIGMA, TAU,
THETA, UPSILON, XI, ZETA;
GREEK SMALL LETTER ALPHA WITH: DASIA, DASIA AND OXIA, DASIA AND OXIA AND YPOGEGRAMMENI, DASIA AND
PERISPOMENI, DASIA AND PERISPOMENI AND YPOGEGRAMMENI, DASIA AND VARIA, DASIA AND VARIA AND
YPOGEGRAMMENI, DASIA AND YPOGEGRAMMENI, MACRON, OXIA, OXIA AND YPOGEGRAMMENI, PERISPOMENI,
PERISPOMENI AND YPOGEGRAMMENI, PSILI, PSILI AND OXIA, PSILI AND OXIA AND YPOGEGRAMMENI, PSILI AND
PERISPOMENI, PSILI AND PERISPOMENI AND YPOGEGRAMMENI, PSILI AND VARIA, PSILI AND VARIA AND
YPOGEGRAMMENI, PSILI AND YPOGEGRAMMENI, TONOS, VARIA, VARIA AND YPOGEGRAMMENI, VRACHY,
YPOGEGRAMMENI;
GREEK SMALL LETTER ARCHAIC: KOPPA, SAMPI;
GREEK SMALL LETTER EPSILON WITH: DASIA, DASIA AND OXIA, DASIA AND VARIA, OXIA, PSILI, PSILI AND
OXIA, PSILI AND VARIA, TONOS, VARIA;
GREEK SMALL LETTER ETA WITH: DASIA, DASIA AND OXIA, DASIA AND OXIA AND YPOGEGRAMMENI, DASIA AND
PERISPOMENI, DASIA AND PERISPOMENI AND YPOGEGRAMMENI, DASIA AND VARIA, DASIA AND VARIA AND
YPOGEGRAMMENI, DASIA AND YPOGEGRAMMENI, OXIA, OXIA AND YPOGEGRAMMENI, PERISPOMENI, PERISPOMENI AND
YPOGEGRAMMENI, PSILI, PSILI AND OXIA, PSILI AND OXIA AND YPOGEGRAMMENI, PSILI AND PERISPOMENI,
PSILI AND PERISPOMENI AND YPOGEGRAMMENI, PSILI AND VARIA, PSILI AND VARIA AND YPOGEGRAMMENI, PSILI
AND YPOGEGRAMMENI, TONOS, VARIA, VARIA AND YPOGEGRAMMENI, YPOGEGRAMMENI;
GREEK SMALL LETTER FINAL: SIGMA;
GREEK SMALL LETTER IOTA WITH: DASIA, DASIA AND OXIA, DASIA AND PERISPOMENI, DASIA AND VARIA,
DIALYTIKA, DIALYTIKA AND OXIA, DIALYTIKA AND PERISPOMENI, DIALYTIKA AND TONOS, DIALYTIKA AND
VARIA, MACRON, OXIA, PERISPOMENI, PSILI, PSILI AND OXIA, PSILI AND PERISPOMENI, PSILI AND VARIA,
TONOS, VARIA, VRACHY;
GREEK SMALL LETTER OMEGA WITH: DASIA, DASIA AND OXIA, DASIA AND OXIA AND YPOGEGRAMMENI, DASIA AND
PERISPOMENI, DASIA AND PERISPOMENI AND YPOGEGRAMMENI, DASIA AND VARIA, DASIA AND VARIA AND
YPOGEGRAMMENI, DASIA AND YPOGEGRAMMENI, OXIA, OXIA AND YPOGEGRAMMENI, PERISPOMENI, PERISPOMENI AND
YPOGEGRAMMENI, PSILI, PSILI AND OXIA, PSILI AND OXIA AND YPOGEGRAMMENI, PSILI AND PERISPOMENI,
PSILI AND PERISPOMENI AND YPOGEGRAMMENI, PSILI AND VARIA, PSILI AND VARIA AND YPOGEGRAMMENI, PSILI
AND YPOGEGRAMMENI, TONOS, VARIA, VARIA AND YPOGEGRAMMENI, YPOGEGRAMMENI;
GREEK SMALL LETTER OMICRON WITH: DASIA, DASIA AND OXIA, DASIA AND VARIA, OXIA, PSILI, PSILI AND
OXIA, PSILI AND VARIA, TONOS, VARIA;
GREEK SMALL LETTER PAMPHYLIAN: DIGAMMA;
GREEK SMALL LETTER RHO WITH: DASIA, PSILI;
GREEK SMALL LETTER UPSILON WITH: DASIA, DASIA AND OXIA, DASIA AND PERISPOMENI, DASIA AND VARIA,
DIALYTIKA, DIALYTIKA AND OXIA, DIALYTIKA AND PERISPOMENI, DIALYTIKA AND TONOS, DIALYTIKA AND
VARIA, MACRON, OXIA, PERISPOMENI, PSILI, PSILI AND OXIA, PSILI AND PERISPOMENI, PSILI AND VARIA,
TONOS, VARIA, VRACHY;
GREEK SMALL REVERSED: DOTTED LUNATE SIGMA SYMBOL, LUNATE SIGMA SYMBOL;
GREEK SUBSCRIPT SMALL LETTER: BETA, CHI, GAMMA, PHI, RHO;
GREEK SYMBOL: TAU RHO;
GREEK TALENT: SIGN;
GREEK THETA: SYMBOL;
GREEK THREE: OBOLS SIGN, QUARTERS SIGN;
GREEK TRYBLION: BASE SIGN;
GREEK TWO: OBOLS SIGN, THIRDS SIGN;
GREEK UPSILON WITH: ACUTE AND HOOK SYMBOL, DIAERESIS AND HOOK SYMBOL, HOOK SYMBOL;
GREEK VOCAL NOTATION: SYMBOL-1, SYMBOL-10, SYMBOL-11, SYMBOL-12, SYMBOL-13, SYMBOL-14, SYMBOL-15,
SYMBOL-16, SYMBOL-17, SYMBOL-18, SYMBOL-19, SYMBOL-2, SYMBOL-20, SYMBOL-21, SYMBOL-22, SYMBOL-23,
SYMBOL-24, SYMBOL-3, SYMBOL-4, SYMBOL-5, SYMBOL-50, SYMBOL-51, SYMBOL-52, SYMBOL-53, SYMBOL-54,
SYMBOL-6, SYMBOL-7, SYMBOL-8, SYMBOL-9;
GREEK XESTES: SIGN;
GREEK YEAR: SIGN;
GREEK ZERO: SIGN;
GREEN: APPLE, BOOK, HEART, SALAD;
GRIMACING: FACE;
GRINNING: CAT FACE WITH SMILING EYES, FACE, FACE WITH ONE LARGE AND ONE SMALL EYE, FACE WITH
SMILING EYES, FACE WITH STAR EYES;
GROUP: MARK, SEPARATOR;
GROWING: HEART;
GUARANI: SIGN;
GUIDE: DOG;
GUJARATI: OM;
GUJARATI ABBREVIATION: SIGN;
GUJARATI DIGIT: EIGHT, FIVE, FOUR, NINE, ONE, SEVEN, SIX, THREE, TWO, ZERO;
GUJARATI LETTER: A, AA, AI, AU, BA, BHA, CA, CHA, DA, DDA, DDHA, DHA, E, GA, GHA, HA, I, II, JA,
JHA, KA, KHA, LA, LLA, MA, NA, NGA, NNA, NYA, O, PA, PHA, RA, SA, SHA, SSA, TA, THA, TTA, TTHA, U,
UU, VA, VOCALIC L, VOCALIC LL, VOCALIC R, VOCALIC RR, YA, ZHA;
GUJARATI RUPEE: SIGN;
GUJARATI SIGN: ANUSVARA, AVAGRAHA, CANDRABINDU, CIRCLE NUKTA ABOVE, MADDAH, NUKTA, SHADDA, SUKUN,
THREE-DOT NUKTA ABOVE, TWO-CIRCLE NUKTA ABOVE, VIRAMA, VISARGA;
GUJARATI VOWEL CANDRA: E, O;
GUJARATI VOWEL SIGN: AA, AI, AU, CANDRA E, CANDRA O, E, I, II, O, U, UU, VOCALIC L, VOCALIC LL,
VOCALIC R, VOCALIC RR;
GUNJALA GONDI: OM, VIRAMA;
GUNJALA GONDI DIGIT: EIGHT, FIVE, FOUR, NINE, ONE, SEVEN, SIX, THREE, TWO, ZERO;
GUNJALA GONDI LETTER: A, AA, AI, AU, BA, BHA, CA, CHA, DA, DDA, DDHA, DHA, EE, GA, GHA, HA, I, II,
JA, JHA, KA, KHA, LA, LLA, MA, NA, NGA, OO, PA, PHA, RA, SA, TA, THA, TTA, TTHA, U, UU, VA, YA;
GUNJALA GONDI SIGN: ANUSVARA, VISARGA;
GUNJALA GONDI VOWEL SIGN: AA, AI, AU, EE, I, II, OO, U, UU;
GURMUKHI: ADDAK, IRI, TIPPI, URA;
GURMUKHI ABBREVIATION: SIGN;
GURMUKHI DIGIT: EIGHT, FIVE, FOUR, NINE, ONE, SEVEN, SIX, THREE, TWO, ZERO;
GURMUKHI EK: ONKAR;
GURMUKHI LETTER: A, AA, AI, AU, BA, BHA, CA, CHA, DA, DDA, DDHA, DHA, EE, FA, GA, GHA, GHHA, HA,
I, II, JA, JHA, KA, KHA, KHHA, LA, LLA, MA, NA, NGA, NNA, NYA, OO, PA, PHA, RA, RRA, SA, SHA, TA,
THA, TTA, TTHA, U, UU, VA, YA, ZA;
GURMUKHI SIGN: ADAK BINDI, BINDI, NUKTA, UDAAT, VIRAMA, VISARGA, YAKASH;
GURMUKHI VOWEL SIGN: AA, AI, AU, EE, I, II, OO, U, UU;
HAIR: SPACE;
HALFWIDTH BLACK: SQUARE;
HALFWIDTH DOWNWARDS: ARROW;
HALFWIDTH FORMS: LIGHT VERTICAL;
HALFWIDTH HANGUL: FILLER;
HALFWIDTH HANGUL LETTER: A, AE, CHIEUCH, CIEUC, E, EO, EU, HIEUH, I, IEUNG, KHIEUKH, KIYEOK,
KIYEOK-SIOS, MIEUM, NIEUN, NIEUN-CIEUC, NIEUN-HIEUH, O, OE, PHIEUPH, PIEUP, PIEUP-SIOS, RIEUL,
RIEUL-HIEUH, RIEUL-KIYEOK, RIEUL-MIEUM, RIEUL-PHIEUPH, RIEUL-PIEUP, RIEUL-SIOS, RIEUL-THIEUTH,
SIOS, SSANGCIEUC, SSANGKIYEOK, SSANGPIEUP, SSANGSIOS, SSANGTIKEUT, THIEUTH, TIKEUT, U, WA, WAE,
WE, WEO, WI, YA, YAE, YE, YEO, YI, YO, YU;
HALFWIDTH IDEOGRAPHIC: COMMA, FULL STOP;
HALFWIDTH KATAKANA LETTER: A, E, HA, HE, HI, HO, HU, I, KA, KE, KI, KO, KU, MA, ME, MI, MO, MU, N,
NA, NE, NI, NO, NU, O, RA, RE, RI, RO, RU, SA, SE, SI, SMALL A, SMALL E, SMALL I, SMALL O, SMALL
TU, SMALL U, SMALL YA, SMALL YO, SMALL YU, SO, SU, TA, TE, TI, TO, TU, U, WA, WO, YA, YO, YU;
HALFWIDTH KATAKANA MIDDLE: DOT;
HALFWIDTH KATAKANA SEMI-VOICED: SOUND MARK;
HALFWIDTH KATAKANA VOICED: SOUND MARK;
HALFWIDTH KATAKANA-HIRAGANA: PROLONGED SOUND MARK;
HALFWIDTH LEFT: CORNER BRACKET;
HALFWIDTH LEFTWARDS: ARROW;
HALFWIDTH RIGHT: CORNER BRACKET;
HALFWIDTH RIGHTWARDS: ARROW;
HALFWIDTH UPWARDS: ARROW;
HALFWIDTH WHITE: CIRCLE;
HAMMER AND: PICK, SICKLE, WRENCH;
HAMSTER: FACE;
HAND WITH INDEX: AND MIDDLE FINGERS CROSSED, FINGER AND THUMB CROSSED;
HANGUL: FILLER;
HANGUL CHOSEONG: CEONGCHIEUMCHIEUCH, CEONGCHIEUMCIEUC, CEONGCHIEUMSIOS, CEONGCHIEUMSSANGCIEUC,
CEONGCHIEUMSSANGSIOS, CHIEUCH, CHIEUCH-HIEUH, CHIEUCH-KHIEUKH, CHITUEUMCHIEUCH, CHITUEUMCIEUC,
CHITUEUMSIOS, CHITUEUMSSANGCIEUC, CHITUEUMSSANGSIOS, CIEUC, CIEUC-IEUNG, FILLER, HIEUH,
HIEUH-SIOS, IEUNG, IEUNG-CHIEUCH, IEUNG-CIEUC, IEUNG-HIEUH, IEUNG-KIYEOK, IEUNG-MIEUM,
IEUNG-PANSIOS, IEUNG-PHIEUPH, IEUNG-PIEUP, IEUNG-RIEUL, IEUNG-SIOS, IEUNG-THIEUTH, IEUNG-TIKEUT,
KAPYEOUNMIEUM, KAPYEOUNPHIEUPH, KAPYEOUNPIEUP, KAPYEOUNRIEUL, KAPYEOUNSSANGPIEUP, KHIEUKH, KIYEOK,
KIYEOK-TIKEUT, MIEUM, MIEUM-KIYEOK, MIEUM-PIEUP, MIEUM-SIOS, MIEUM-TIKEUT, NIEUN, NIEUN-CIEUC,
NIEUN-HIEUH, NIEUN-KIYEOK, NIEUN-PIEUP, NIEUN-SIOS, NIEUN-TIKEUT, PANSIOS, PHIEUPH, PHIEUPH-HIEUH,
PHIEUPH-PIEUP, PIEUP, PIEUP-CHIEUCH, PIEUP-CIEUC, PIEUP-HIEUH, PIEUP-KHIEUKH, PIEUP-KIYEOK,
PIEUP-NIEUN, PIEUP-PHIEUPH, PIEUP-SIOS, PIEUP-SIOS-CIEUC, PIEUP-SIOS-KIYEOK, PIEUP-SIOS-PIEUP,
PIEUP-SIOS-THIEUTH, PIEUP-SIOS-TIKEUT, PIEUP-SSANGSIOS, PIEUP-THIEUTH, PIEUP-TIKEUT, RIEUL,
RIEUL-CIEUC, RIEUL-HIEUH, RIEUL-KAPYEOUNPIEUP, RIEUL-KHIEUKH, RIEUL-KIYEOK, RIEUL-MIEUM,
RIEUL-NIEUN, RIEUL-PIEUP, RIEUL-SIOS, RIEUL-SSANGKIYEOK, RIEUL-SSANGPIEUP, RIEUL-SSANGTIKEUT,
RIEUL-TIKEUT, SIOS, SIOS-CHIEUCH, SIOS-CIEUC, SIOS-HIEUH, SIOS-IEUNG, SIOS-KHIEUKH, SIOS-KIYEOK,
SIOS-MIEUM, SIOS-NIEUN, SIOS-PHIEUPH, SIOS-PIEUP, SIOS-PIEUP-KIYEOK, SIOS-RIEUL, SIOS-SSANGSIOS,
SIOS-THIEUTH, SIOS-TIKEUT, SSANGCIEUC, SSANGCIEUC-HIEUH, SSANGHIEUH, SSANGIEUNG, SSANGKIYEOK,
SSANGNIEUN, SSANGPIEUP, SSANGRIEUL, SSANGSIOS, SSANGSIOS-PIEUP, SSANGTHIEUTH, SSANGTIKEUT,
SSANGYEORINHIEUH, THIEUTH, TIKEUT, TIKEUT-CIEUC, TIKEUT-KIYEOK, TIKEUT-MIEUM, TIKEUT-PIEUP,
TIKEUT-RIEUL, TIKEUT-SIOS, YEORINHIEUH, YESIEUNG;
HANGUL DOUBLE: DOT TONE MARK;
HANGUL JONGSEONG: CHIEUCH, CIEUC, CIEUC-PIEUP, CIEUC-SSANGPIEUP, HIEUH, HIEUH-MIEUM, HIEUH-NIEUN,
HIEUH-PIEUP, HIEUH-RIEUL, IEUNG, IEUNG-KHIEUKH, IEUNG-KIYEOK, IEUNG-SSANGKIYEOK, KAPYEOUNMIEUM,
KAPYEOUNPHIEUPH, KAPYEOUNPIEUP, KAPYEOUNRIEUL, KHIEUKH, KIYEOK, KIYEOK-CHIEUCH, KIYEOK-HIEUH,
KIYEOK-KHIEUKH, KIYEOK-NIEUN, KIYEOK-PIEUP, KIYEOK-RIEUL, KIYEOK-SIOS, KIYEOK-SIOS-KIYEOK, MIEUM,
MIEUM-CHIEUCH, MIEUM-CIEUC, MIEUM-HIEUH, MIEUM-KIYEOK, MIEUM-NIEUN, MIEUM-PANSIOS, MIEUM-PIEUP,
MIEUM-PIEUP-SIOS, MIEUM-RIEUL, MIEUM-SIOS, MIEUM-SSANGNIEUN, MIEUM-SSANGSIOS, NIEUN,
NIEUN-CHIEUCH, NIEUN-CIEUC, NIEUN-HIEUH, NIEUN-KIYEOK, NIEUN-PANSIOS, NIEUN-RIEUL, NIEUN-SIOS,
NIEUN-THIEUTH, NIEUN-TIKEUT, PANSIOS, PANSIOS-KAPYEOUNPIEUP, PANSIOS-PIEUP, PHIEUPH,
PHIEUPH-PIEUP, PHIEUPH-SIOS, PHIEUPH-THIEUTH, PIEUP, PIEUP-CHIEUCH, PIEUP-CIEUC, PIEUP-HIEUH,
PIEUP-MIEUM, PIEUP-PHIEUPH, PIEUP-RIEUL, PIEUP-RIEUL-PHIEUPH, PIEUP-SIOS, PIEUP-SIOS-TIKEUT,
PIEUP-TIKEUT, RIEUL, RIEUL-HIEUH, RIEUL-KAPYEOUNPIEUP, RIEUL-KHIEUKH, RIEUL-KIYEOK,
RIEUL-KIYEOK-HIEUH, RIEUL-KIYEOK-SIOS, RIEUL-MIEUM, RIEUL-MIEUM-HIEUH, RIEUL-MIEUM-KIYEOK,
RIEUL-MIEUM-SIOS, RIEUL-NIEUN, RIEUL-PANSIOS, RIEUL-PHIEUPH, RIEUL-PIEUP, RIEUL-PIEUP-HIEUH,
RIEUL-PIEUP-PHIEUPH, RIEUL-PIEUP-SIOS, RIEUL-PIEUP-TIKEUT, RIEUL-SIOS, RIEUL-SSANGKIYEOK,
RIEUL-SSANGSIOS, RIEUL-THIEUTH, RIEUL-TIKEUT, RIEUL-TIKEUT-HIEUH, RIEUL-YEORINHIEUH,
RIEUL-YEORINHIEUH-HIEUH, RIEUL-YESIEUNG, SIOS, SIOS-CHIEUCH, SIOS-CIEUC, SIOS-HIEUH,
SIOS-KAPYEOUNPIEUP, SIOS-KIYEOK, SIOS-MIEUM, SIOS-PANSIOS, SIOS-PIEUP, SIOS-RIEUL, SIOS-THIEUTH,
SIOS-TIKEUT, SSANGCIEUC, SSANGIEUNG, SSANGKIYEOK, SSANGMIEUM, SSANGNIEUN, SSANGPIEUP, SSANGRIEUL,
SSANGRIEUL-KHIEUKH, SSANGSIOS, SSANGSIOS-KIYEOK, SSANGSIOS-TIKEUT, SSANGTIKEUT, SSANGTIKEUT-PIEUP,
SSANGYESIEUNG, THIEUTH, TIKEUT, TIKEUT-CHIEUCH, TIKEUT-CIEUC, TIKEUT-KIYEOK, TIKEUT-PIEUP,
TIKEUT-RIEUL, TIKEUT-SIOS, TIKEUT-SIOS-KIYEOK, TIKEUT-THIEUTH, YEORINHIEUH, YESIEUNG,
YESIEUNG-HIEUH, YESIEUNG-KHIEUKH, YESIEUNG-KIYEOK, YESIEUNG-MIEUM, YESIEUNG-PANSIOS,
YESIEUNG-SIOS, YESIEUNG-SSANGKIYEOK;
HANGUL JUNGSEONG: A, A-EU, A-O, A-U, AE, ARAEA, ARAEA-A, ARAEA-E, ARAEA-EO, ARAEA-I, ARAEA-U, E,
EO, EO-EU, EO-O, EO-U, EU, EU-A, EU-E, EU-EO, EU-EU, EU-O, EU-U, FILLER, I, I-A, I-ARAEA, I-EU,
I-I, I-O, I-O-I, I-U, I-YA, I-YA-O, I-YAE, I-YE, I-YEO, I-YO, I-YU, O, O-E, O-EO, O-O, O-O-I, O-U,
O-YA, O-YAE, O-YE, O-YEO, OE, SSANGARAEA, U, U-A, U-AE, U-EO-EU, U-I-I, U-U, U-YE, U-YEO, WA, WAE,
WE, WEO, WI, YA, YA-O, YA-U, YA-YO, YAE, YE, YEO, YEO-O, YEO-U, YEO-YA, YI, YI-U, YO, YO-A, YO-AE,
YO-EO, YO-I, YO-O, YO-YA, YO-YAE, YO-YEO, YU, YU-A, YU-AE, YU-E, YU-EO, YU-I, YU-O, YU-U, YU-YE,
YU-YEO;
HANGUL LETTER: A, AE, ARAEA, ARAEAE, CHIEUCH, CIEUC, E, EO, EU, HIEUH, I, IEUNG, KAPYEOUNMIEUM,
KAPYEOUNPHIEUPH, KAPYEOUNPIEUP, KAPYEOUNSSANGPIEUP, KHIEUKH, KIYEOK, KIYEOK-SIOS, MIEUM,
MIEUM-PANSIOS, MIEUM-PIEUP, MIEUM-SIOS, NIEUN, NIEUN-CIEUC, NIEUN-HIEUH, NIEUN-PANSIOS,
NIEUN-SIOS, NIEUN-TIKEUT, O, OE, PANSIOS, PHIEUPH, PIEUP, PIEUP-CIEUC, PIEUP-KIYEOK, PIEUP-SIOS,
PIEUP-SIOS-KIYEOK, PIEUP-SIOS-TIKEUT, PIEUP-THIEUTH, PIEUP-TIKEUT, RIEUL, RIEUL-HIEUH,
RIEUL-KIYEOK, RIEUL-KIYEOK-SIOS, RIEUL-MIEUM, RIEUL-PANSIOS, RIEUL-PHIEUPH, RIEUL-PIEUP,
RIEUL-PIEUP-SIOS, RIEUL-SIOS, RIEUL-THIEUTH, RIEUL-TIKEUT, RIEUL-YEORINHIEUH, SIOS, SIOS-CIEUC,
SIOS-KIYEOK, SIOS-NIEUN, SIOS-PIEUP, SIOS-TIKEUT, SSANGCIEUC, SSANGHIEUH, SSANGIEUNG, SSANGKIYEOK,
SSANGNIEUN, SSANGPIEUP, SSANGSIOS, SSANGTIKEUT, THIEUTH, TIKEUT, U, WA, WAE, WE, WEO, WI, YA, YAE,
YE, YEO, YEORINHIEUH, YESIEUNG, YESIEUNG-PANSIOS, YESIEUNG-SIOS, YI, YO, YO-I, YO-YA, YO-YAE, YU,
YU-I, YU-YE, YU-YEO;
HANGUL SINGLE: DOT TONE MARK;
HANGZHOU NUMERAL: EIGHT, FIVE, FOUR, NINE, ONE, SEVEN, SIX, TEN, THIRTY, THREE, TWENTY, TWO;
HANIFI ROHINGYA DIGIT: EIGHT, FIVE, FOUR, NINE, ONE, SEVEN, SIX, THREE, TWO, ZERO;
HANIFI ROHINGYA LETTER: A, BA, CA, DA, DDA, FA, GA, HA, JA, KA, KHA, KINNA WA, KINNA YA, LA, MA,
NA, NGA, NYA, PA, RA, RRA, SA, SHA, TA, TTA, VA, WA, YA, ZA;
HANIFI ROHINGYA MARK: NA KHONNA, SAKIN;
HANIFI ROHINGYA SIGN: HARBAHAY, TAHALA, TANA, TASSI;
HANIFI ROHINGYA VOWEL: A, E, I, O, U;
HANUNOO LETTER: A, BA, DA, GA, HA, I, KA, LA, MA, NA, NGA, PA, RA, SA, TA, U, WA, YA;
HANUNOO SIGN: PAMUDPOD;
HANUNOO VOWEL SIGN: I, U;
HAPPY: PERSON RAISING ONE HAND;
HARD: DISK;
HATCHING: CHICK;
HATRAN LETTER: ALEPH, AYN, BETH, DALETH-RESH, GIMEL, HE, HETH, KAPH, LAMEDH, MEM, NUN, PE, QOPH,
SADHE, SAMEKH, SHIN, TAW, TETH, WAW, YODH, ZAYN;
HATRAN NUMBER: FIVE, ONE, ONE HUNDRED, TEN, TWENTY;
HEADSTONE: GRAVEYARD SYMBOL;
HEAR-NO-EVIL: MONKEY;
HEART: DECORATION, HANDS, WITH ARROW, WITH RIBBON, WITH TIP ON THE LEFT;
HEAVY: AMPERSAND ORNAMENT, ARROW SHAFT WIDTH ONE, ARROW SHAFT WIDTH ONE HALF, ARROW SHAFT WIDTH
ONE THIRD, ARROW SHAFT WIDTH TWO THIRDS, ASTERISK, BALLOT X, BLACK CURVED DOWNWARDS AND RIGHTWARDS
ARROW, BLACK CURVED UPWARDS AND RIGHTWARDS ARROW, BLACK HEART, BLACK-FEATHERED NORTH EAST ARROW,
BLACK-FEATHERED RIGHTWARDS ARROW, BLACK-FEATHERED SOUTH EAST ARROW, CHECK MARK, CHEVRON SNOWFLAKE,
CIRCLE, CIRCLE WITH CIRCLE INSIDE, CIRCLE WITH STROKE AND TWO DOTS ABOVE, CIRCLED SALTIRE,
CONCAVE-POINTED BLACK RIGHTWARDS ARROW, DASHED TRIANGLE-HEADED RIGHTWARDS ARROW, DIVISION SIGN,
DOLLAR SIGN, DOUBLE COMMA QUOTATION MARK ORNAMENT, DOUBLE TURNED COMMA QUOTATION MARK ORNAMENT,
DOWNWARDS ARROW WITH EQUILATERAL ARROWHEAD, DOWNWARDS ARROW WITH LARGE EQUILATERAL ARROWHEAD,
EIGHT POINTED BLACK STAR, EIGHT POINTED PINWHEEL STAR, EIGHT POINTED RECTILINEAR BLACK STAR, EIGHT
SPOKED ASTERISK, EIGHT TEARDROP-SPOKED PROPELLER ASTERISK, EQUALS SIGN, EXCLAMATION MARK ORNAMENT,
EXCLAMATION MARK SYMBOL, FIVE POINTED BLACK STAR, FIVE SPOKED ASTERISK, FOUR BALLOON-SPOKED
ASTERISK, GREEK CROSS, HEART EXCLAMATION MARK ORNAMENT, HORIZONTAL FILL, INTERROBANG ORNAMENT,
LARGE CIRCLE, LATIN CROSS, LEFT-POINTING ANGLE BRACKET ORNAMENT, LEFT-POINTING ANGLE QUOTATION
MARK ORNAMENT, LEFTWARDS ARROW WITH EQUILATERAL ARROWHEAD, LEFTWARDS ARROW WITH LARGE EQUILATERAL
ARROWHEAD, LIGATURE OPEN ET ORNAMENT, LOW DOUBLE COMMA QUOTATION MARK ORNAMENT, LOW SINGLE COMMA
QUOTATION MARK ORNAMENT, LOWER RIGHT-SHADOWED WHITE RIGHTWARDS ARROW, MINUS SIGN, MULTIPLICATION
X, NORTH EAST ARROW, NORTH EAST POINTING BUD, NORTH EAST POINTING VINE LEAF, NORTH WEST POINTING
BUD, NORTH WEST POINTING VINE LEAF, OPEN CENTRE CROSS, OUTLINED BLACK STAR, OVAL WITH OVAL INSIDE,
PLUS SIGN, RIGHT-POINTING ANGLE BRACKET ORNAMENT, RIGHT-POINTING ANGLE QUOTATION MARK ORNAMENT,
RIGHTWARDS ARROW, RIGHTWARDS ARROW WITH EQUILATERAL ARROWHEAD, RIGHTWARDS ARROW WITH LARGE
EQUILATERAL ARROWHEAD, ROUND-TIPPED RIGHTWARDS ARROW, SALTIRE, SANS-SERIF INTERROBANG ORNAMENT,
SCRIPT LIGATURE ET ORNAMENT, SINGLE COMMA QUOTATION MARK ORNAMENT, SINGLE TURNED COMMA QUOTATION
MARK ORNAMENT, SIX POINTED BLACK STAR, SIX SPOKED ASTERISK, SOUTH EAST ARROW, SOUTH EAST POINTING
BUD, SOUTH EAST POINTING VINE LEAF, SOUTH WEST POINTING BUD, SOUTH WEST POINTING VINE LEAF,
SPARKLE, TEARDROP-SHANKED RIGHTWARDS ARROW, TEARDROP-SPOKED ASTERISK, TEARDROP-SPOKED PINWHEEL
ASTERISK, TRIANGLE-HEADED RIGHTWARDS ARROW, TWELVE POINTED BLACK STAR, TWELVE POINTED PINWHEEL
STAR, UPPER RIGHT-SHADOWED WHITE RIGHTWARDS ARROW, UPWARDS ARROW WITH EQUILATERAL ARROWHEAD,
UPWARDS ARROW WITH LARGE EQUILATERAL ARROWHEAD, VERTICAL BAR, WEDGE-TAILED RIGHTWARDS ARROW, WHITE
CIRCLE, WHITE DOWN-POINTING TRIANGLE, WHITE SQUARE, WIDE-HEADED RIGHTWARDS ARROW;
HEBREW ACCENT: ATNAH HAFUKH, DARGA, DEHI, ETNAHTA, GERESH, GERESH MUQDAM, GERSHAYIM, ILUY,
MAHAPAKH, MERKHA, MERKHA KEFULA, MUNAH, OLE, PASHTA, PAZER, QADMA, QARNEY PARA, REVIA, SEGOL,
SHALSHELET, TELISHA GEDOLA, TELISHA QETANA, TEVIR, TIPEHA, YERAH BEN YOMO, YETIV, ZAQEF GADOL,
ZAQEF QATAN, ZARQA, ZINOR;
HEBREW LETTER: ALEF, ALEF WITH MAPIQ, ALEF WITH PATAH, ALEF WITH QAMATS, ALTERNATIVE AYIN,
ALTERNATIVE PLUS SIGN, AYIN, BET, BET WITH DAGESH, BET WITH RAFE, DALET, DALET WITH DAGESH, FINAL
KAF, FINAL KAF WITH DAGESH, FINAL MEM, FINAL NUN, FINAL PE, FINAL PE WITH DAGESH, FINAL TSADI,
GIMEL, GIMEL WITH DAGESH, HE, HE WITH MAPIQ, HET, KAF, KAF WITH DAGESH, KAF WITH RAFE, LAMED,
LAMED WITH DAGESH, MEM, MEM WITH DAGESH, NUN, NUN WITH DAGESH, PE, PE WITH DAGESH, PE WITH RAFE,
QOF, QOF WITH DAGESH, RESH, RESH WITH DAGESH, SAMEKH, SAMEKH WITH DAGESH, SHIN, SHIN WITH DAGESH,
SHIN WITH DAGESH AND SHIN DOT, SHIN WITH DAGESH AND SIN DOT, SHIN WITH SHIN DOT, SHIN WITH SIN
DOT, TAV, TAV WITH DAGESH, TET, TET WITH DAGESH, TSADI, TSADI WITH DAGESH, VAV, VAV WITH DAGESH,
VAV WITH HOLAM, WIDE ALEF, WIDE DALET, WIDE FINAL MEM, WIDE HE, WIDE KAF, WIDE LAMED, WIDE RESH,
WIDE TAV, YOD, YOD WITH DAGESH, YOD WITH HIRIQ, ZAYIN, ZAYIN WITH DAGESH;
HEBREW LIGATURE: ALEF LAMED, YIDDISH DOUBLE VAV, YIDDISH DOUBLE YOD, YIDDISH VAV YOD, YIDDISH YOD
YOD PATAH;
HEBREW MARK: LOWER DOT, MASORA CIRCLE, UPPER DOT;
HEBREW POINT: DAGESH OR MAPIQ, HATAF PATAH, HATAF QAMATS, HATAF SEGOL, HIRIQ, HOLAM, HOLAM HASER
FOR VAV, JUDEO-SPANISH VARIKA, METEG, PATAH, QAMATS, QAMATS QATAN, QUBUTS, RAFE, SEGOL, SHEVA,
SHIN DOT, SIN DOT, TSERE;
HEBREW PUNCTUATION: GERESH, GERSHAYIM, MAQAF, NUN HAFUKHA, PASEQ, SOF PASUQ;
HEBREW YOD: TRIANGLE;
HELLSCHREIBER: PAUSE SYMBOL;
HELM: SYMBOL;
HELMET: WITH WHITE CROSS;
HENTAIGANA LETTER: A-1, A-2, A-3, A-WO, E-1, E-2, E-3, E-4, E-5, E-6, HA-1, HA-10, HA-11, HA-2,
HA-3, HA-4, HA-5, HA-6, HA-7, HA-8, HA-9, HE-1, HE-2, HE-3, HE-4, HE-5, HE-6, HE-7, HI-1, HI-2,
HI-3, HI-4, HI-5, HI-6, HI-7, HO-1, HO-2, HO-3, HO-4, HO-5, HO-6, HO-7, HO-8, HU-1, HU-2, HU-3,
I-1, I-2, I-3, I-4, KA-1, KA-10, KA-11, KA-2, KA-3, KA-4, KA-5, KA-6, KA-7, KA-8, KA-9, KA-KE,
KE-1, KE-2, KE-3, KE-4, KE-5, KE-6, KI-1, KI-2, KI-3, KI-4, KI-5, KI-6, KI-7, KI-8, KO-1, KO-2,
KO-3, KO-KI, KU-1, KU-2, KU-3, KU-4, KU-5, KU-6, KU-7, MA-1, MA-2, MA-3, MA-4, MA-5, MA-6, MA-7,
ME-1, ME-2, ME-MA, MI-1, MI-2, MI-3, MI-4, MI-5, MI-6, MI-7, MO-1, MO-2, MO-3, MO-4, MO-5, MO-6,
MU-1, MU-2, MU-3, MU-4, N-MU-MO-1, N-MU-MO-2, NA-1, NA-2, NA-3, NA-4, NA-5, NA-6, NA-7, NA-8,
NA-9, NE-1, NE-2, NE-3, NE-4, NE-5, NE-6, NE-KO, NI-1, NI-2, NI-3, NI-4, NI-5, NI-6, NI-7, NI-TE,
NO-1, NO-2, NO-3, NO-4, NO-5, NU-1, NU-2, NU-3, O-1, O-2, O-3, RA-1, RA-2, RA-3, RA-4, RE-1, RE-2,
RE-3, RE-4, RI-1, RI-2, RI-3, RI-4, RI-5, RI-6, RI-7, RO-1, RO-2, RO-3, RO-4, RO-5, RO-6, RU-1,
RU-2, RU-3, RU-4, RU-5, RU-6, SA-1, SA-2, SA-3, SA-4, SA-5, SA-6, SA-7, SA-8, SE-1, SE-2, SE-3,
SE-4, SE-5, SI-1, SI-2, SI-3, SI-4, SI-5, SI-6, SO-1, SO-2, SO-3, SO-4, SO-5, SO-6, SO-7, SU-1,
SU-2, SU-3, SU-4, SU-5, SU-6, SU-7, SU-8, TA-1, TA-2, TA-3, TA-4, TE-1, TE-2, TE-3, TE-4, TE-5,
TE-6, TE-7, TE-8, TE-9, TI-1, TI-2, TI-3, TI-4, TI-5, TI-6, TI-7, TO-1, TO-2, TO-3, TO-4, TO-5,
TO-6, TO-RA, TU-1, TU-2, TU-3, TU-4, TU-TO, U-1, U-2, U-3, U-4, U-5, WA-1, WA-2, WA-3, WA-4, WA-5,
WE-1, WE-2, WE-3, WE-4, WI-1, WI-2, WI-3, WI-4, WI-5, WO-1, WO-2, WO-3, WO-4, WO-5, WO-6, WO-7,
YA-1, YA-2, YA-3, YA-4, YA-5, YA-YO, YO-1, YO-2, YO-3, YO-4, YO-5, YO-6, YU-1, YU-2, YU-3, YU-4;
HERMITIAN: CONJUGATE MATRIX;
HEXAGRAM FOR: ABUNDANCE, AFTER COMPLETION, APPROACH, BEFORE COMPLETION, BITING THROUGH,
BREAKTHROUGH, COMING TO MEET, CONFLICT, CONTEMPLATION, DARKENING OF THE LIGHT, DECREASE,
DELIVERANCE, DEVELOPMENT, DIFFICULTY AT THE BEGINNING, DISPERSION, DURATION, ENTHUSIASM,
FELLOWSHIP, FOLLOWING, GATHERING TOGETHER, GRACE, GREAT POSSESSION, GREAT POWER, GREAT
PREPONDERANCE, GREAT TAMING, HOLDING TOGETHER, INCREASE, INFLUENCE, INNER TRUTH, INNOCENCE,
LIMITATION, MODESTY, MOUTH CORNERS, OBSTRUCTION, OPPOSITION, OPPRESSION, PEACE, PROGRESS, PUSHING
UPWARD, RETREAT, RETURN, REVOLUTION, SMALL PREPONDERANCE, SMALL TAMING, SPLITTING APART,
STANDSTILL, THE ABYSMAL WATER, THE ARMY, THE AROUSING THUNDER, THE CAULDRON, THE CLINGING FIRE,
THE CREATIVE HEAVEN, THE FAMILY, THE GENTLE WIND, THE JOYOUS LAKE, THE KEEPING STILL MOUNTAIN, THE
MARRYING MAIDEN, THE RECEPTIVE EARTH, THE WANDERER, THE WELL, TREADING, WAITING, WORK ON THE
DECAYED, YOUTHFUL FOLLY;
HIGH: BRIGHTNESS SYMBOL, OCTET PRESET, VOLTAGE SIGN;
HIGH-HEELED: SHOE;
HIGH-SPEED: TRAIN, TRAIN WITH BULLET NOSE;
HIKING: BOOT;
HINDU: TEMPLE;
HIRAGANA DIGRAPH: YORI;
HIRAGANA ITERATION: MARK;
HIRAGANA LETTER: A, BA, BE, BI, BO, BU, DA, DE, DI, DO, DU, E, GA, GE, GI, GO, GU, HA, HE, HI, HO,
HU, I, KA, KE, KI, KO, KU, MA, ME, MI, MO, MU, N, NA, NE, NI, NO, NU, O, PA, PE, PI, PO, PU, RA,
RE, RI, RO, RU, SA, SE, SI, SO, SU, TA, TE, TI, TO, TU, U, VU, WA, WE, WI, WO, YA, YO, YU, ZA, ZE,
ZI, ZO, ZU;
HIRAGANA LETTER ARCHAIC: WU, YE;
HIRAGANA LETTER SMALL: A, E, I, KA, KE, O, TU, U, WA, WE, WI, WO, YA, YO, YU;
HIRAGANA VOICED: ITERATION MARK;
HISTORIC: SITE;
HOLLOW QUILT SQUARE: ORNAMENT, ORNAMENT IN BLACK SQUARE;
HONEY: POT;
HORIZONTAL: BAR, BLACK HEXAGON, BLACK OCTAGON, ELLIPSIS, LINE EXTENSION, MALE WITH STROKE SIGN,
ONE EIGHTH BLOCK-1358, ONE EIGHTH BLOCK-2, ONE EIGHTH BLOCK-3, ONE EIGHTH BLOCK-4, ONE EIGHTH
BLOCK-5, ONE EIGHTH BLOCK-6, ONE EIGHTH BLOCK-7, SCAN LINE-1, SCAN LINE-3, SCAN LINE-7, SCAN
LINE-9, TAB KEY, TABULATION, TABULATION SET, TABULATION WITH JUSTIFICATION, TRAFFIC LIGHT;
HORSE: FACE, RACING;
HOT: BEVERAGE, DOG, PEPPER, SPRINGS;
HOURGLASS: WITH FLOWING SAND;
HOUSE: BUILDING, BUILDINGS, WITH GARDEN;
HRYVNIA: SIGN;
HUGGING: FACE;
HUNDRED: POINTS SYMBOL;
HUSHED: FACE;
HYPHEN: BULLET, WITH DIAERESIS;
HYPHENATION: POINT;
HYSTERESIS: SYMBOL;
I: LOVE YOU HAND SIGN;
ICE: CREAM, CUBE, HOCKEY STICK AND PUCK, SKATE;
IDENTICAL: TO, TO AND SLANTED PARALLEL, WITH DOT ABOVE;
IDENTIFICATION: CARD;
IDEOGRAPHIC: COMMA, SPACE;
IDEOGRAPHIC ANNOTATION: BOTTOM MARK, EARTH MARK, FIRST MARK, FOUR MARK, FOURTH MARK, HEAVEN MARK,
LINKING MARK, MAN MARK, MIDDLE MARK, ONE MARK, REVERSE MARK, SECOND MARK, THIRD MARK, THREE MARK,
TOP MARK, TWO MARK;
IDEOGRAPHIC CLOSING: MARK;
IDEOGRAPHIC DEPARTING: TONE MARK;
IDEOGRAPHIC DESCRIPTION CHARACTER: ABOVE TO BELOW, ABOVE TO MIDDLE AND BELOW, FULL SURROUND, LEFT
TO MIDDLE AND RIGHT, LEFT TO RIGHT, OVERLAID, SURROUND FROM ABOVE, SURROUND FROM BELOW, SURROUND
FROM LEFT, SURROUND FROM LOWER LEFT, SURROUND FROM UPPER LEFT, SURROUND FROM UPPER RIGHT;
IDEOGRAPHIC ENTERING: TONE MARK;
IDEOGRAPHIC FULL: STOP;
IDEOGRAPHIC HALF: FILL SPACE;
IDEOGRAPHIC ITERATION: MARK;
IDEOGRAPHIC LEVEL: TONE MARK;
IDEOGRAPHIC NUMBER: ZERO;
IDEOGRAPHIC RISING: TONE MARK;
IDEOGRAPHIC TALLY MARK: FIVE, FOUR, ONE, THREE, TWO;
IDEOGRAPHIC TELEGRAPH LINE: FEED SEPARATOR SYMBOL;
IDEOGRAPHIC TELEGRAPH SYMBOL FOR: APRIL, AUGUST, DECEMBER, FEBRUARY, JANUARY, JULY, JUNE, MARCH,
MAY, NOVEMBER, OCTOBER, SEPTEMBER;
IDEOGRAPHIC TELEGRAPH SYMBOL FOR DAY: EIGHT, EIGHTEEN, ELEVEN, FIFTEEN, FIVE, FOUR, FOURTEEN,
NINE, NINETEEN, ONE, SEVEN, SEVENTEEN, SIX, SIXTEEN, TEN, THIRTEEN, THIRTY, THIRTY-ONE, THREE,
TWELVE, TWENTY, TWENTY-EIGHT, TWENTY-FIVE, TWENTY-FOUR, TWENTY-NINE, TWENTY-ONE, TWENTY-SEVEN,
TWENTY-SIX, TWENTY-THREE, TWENTY-TWO, TWO;
IDEOGRAPHIC TELEGRAPH SYMBOL FOR HOUR: EIGHT, EIGHTEEN, ELEVEN, FIFTEEN, FIVE, FOUR, FOURTEEN,
NINE, NINETEEN, ONE, SEVEN, SEVENTEEN, SIX, SIXTEEN, TEN, THIRTEEN, THREE, TWELVE, TWENTY,
TWENTY-FOUR, TWENTY-ONE, TWENTY-THREE, TWENTY-TWO, TWO, ZERO;
IDEOGRAPHIC VARIATION: INDICATOR;
IMAGE: OF, OF OR APPROXIMATELY EQUAL TO;
IMPERIAL ARAMAIC LETTER: ALEPH, AYIN, BETH, DALETH, GIMEL, HE, HETH, KAPH, LAMEDH, MEM, NUN, PE,
QOPH, RESH, SADHE, SAMEKH, SHIN, TAW, TETH, WAW, YODH, ZAYIN;
IMPERIAL ARAMAIC NUMBER: ONE, ONE HUNDRED, ONE THOUSAND, TEN, TEN THOUSAND, THREE, TWENTY, TWO;
IMPERIAL ARAMAIC SECTION: SIGN;
INBOX: TRAY;
INCOMING: ENVELOPE;
INCOMPLETE: INFINITY;
INCREASE: FONT SIZE SYMBOL;
INCREASES: AS;
INDEX: POINTING AT THE VIEWER;
INDIAN: RUPEE SIGN;
INDIC SIYAQ: PLACEHOLDER;
INDIC SIYAQ ALTERNATE: LAKH MARK;
INDIC SIYAQ FRACTION: ONE HALF, ONE QUARTER, THREE QUARTERS;
INDIC SIYAQ LAKH: MARK;
INDIC SIYAQ NUMBER: ALTERNATE ONE, ALTERNATE TEN THOUSAND, ALTERNATE TWO, EIGHT, EIGHT HUNDRED,
EIGHT THOUSAND, EIGHTY, EIGHTY THOUSAND, FIFTY, FIFTY THOUSAND, FIVE, FIVE HUNDRED, FIVE THOUSAND,
FORTY, FORTY THOUSAND, FOUR, FOUR HUNDRED, FOUR THOUSAND, KAROR, KARORAN, LAKH, LAKHAN, NINE, NINE
HUNDRED, NINE THOUSAND, NINETY, NINETY THOUSAND, ONE, ONE HUNDRED, ONE THOUSAND, PREFIXED EIGHT,
PREFIXED FIVE, PREFIXED FOUR, PREFIXED NINE, PREFIXED ONE, PREFIXED SEVEN, PREFIXED SIX, PREFIXED
THREE, PREFIXED TWO, SEVEN, SEVEN HUNDRED, SEVEN THOUSAND, SEVENTY, SEVENTY THOUSAND, SIX, SIX
HUNDRED, SIX THOUSAND, SIXTY, SIXTY THOUSAND, TEN, TEN THOUSAND, THIRTY, THIRTY THOUSAND, THREE,
THREE HUNDRED, THREE THOUSAND, TWENTY, TWENTY THOUSAND, TWO, TWO HUNDRED, TWO THOUSAND;
INDIC SIYAQ RUPEE: MARK;
INFINITY: NEGATED WITH VERTICAL BAR;
INFORMATION: DESK PERSON, SEPARATOR FOUR, SEPARATOR ONE, SEPARATOR THREE, SEPARATOR TWO, SOURCE;
INHIBIT: ARABIC FORM SHAPING, SYMMETRIC SWAPPING;
INPUT SYMBOL FOR: LATIN CAPITAL LETTERS, LATIN LETTERS, LATIN SMALL LETTERS, NUMBERS, SYMBOLS;
INSCRIPTIONAL PAHLAVI LETTER: ALEPH, BETH, DALETH, GIMEL, HE, HETH, KAPH, LAMEDH, MEM-QOPH, NUN,
PE, SADHE, SAMEKH, SHIN, TAW, TETH, WAW-AYIN-RESH, YODH, ZAYIN;
INSCRIPTIONAL PAHLAVI NUMBER: FOUR, ONE, ONE HUNDRED, ONE THOUSAND, TEN, THREE, TWENTY, TWO;
INSCRIPTIONAL PARTHIAN LETTER: ALEPH, AYIN, BETH, DALETH, GIMEL, HE, HETH, KAPH, LAMEDH, MEM, NUN,
PE, QOPH, RESH, SADHE, SAMEKH, SHIN, TAW, TETH, WAW, YODH, ZAYIN;
INSCRIPTIONAL PARTHIAN NUMBER: FOUR, ONE, ONE HUNDRED, ONE THOUSAND, TEN, THREE, TWENTY, TWO;
INSERTION: SYMBOL;
INTEGRAL: AROUND A POINT OPERATOR, AVERAGE WITH SLASH, EXTENSION, WITH DOUBLE STROKE, WITH
INTERSECTION, WITH LEFTWARDS ARROW WITH HOOK, WITH OVERBAR, WITH TIMES SIGN, WITH UNDERBAR, WITH
UNION;
INTERIOR: PRODUCT;
INTERLINEAR ANNOTATION: ANCHOR, SEPARATOR, TERMINATOR;
INTERLOCKED: FEMALE AND MALE SIGN;
INTERSECTION: ABOVE BAR ABOVE UNION, ABOVE UNION, BESIDE AND JOINED WITH INTERSECTION, WITH DOT,
WITH LOGICAL AND, WITH OVERBAR;
INVERSE: BULLET, CHECK MARK, CHECKER BOARD FILL, DOWNWARDS ARROW WITH TIP LEFTWARDS, MEDIUM SHADE,
WHITE CIRCLE;
INVERTED: EXCLAMATION MARK, INTERROBANG, LAZY S, LOW KAVYKA, LOW KAVYKA WITH KAVYKA ABOVE, OHM
SIGN, PENTAGRAM, QUESTION MARK, UNDERTIE;
INVISIBLE: PLUS, SEPARATOR, TIMES;
IZAKAYA: LANTERN;
JAPANESE: BANK SYMBOL, CASTLE, DOLLS, GOBLIN, INDUSTRIAL STANDARD SYMBOL, OGRE, POST OFFICE,
SYMBOL FOR BEGINNER;
JAVANESE: PANGKON, PANGRANGKEP;
JAVANESE CONSONANT SIGN: CAKRA, KERET, PENGKAL;
JAVANESE DIGIT: EIGHT, FIVE, FOUR, NINE, ONE, SEVEN, SIX, THREE, TWO, ZERO;
JAVANESE LEFT: RERENGGAN;
JAVANESE LETTER: A, AI, BA, BA MURDA, CA, CA MURDA, DA, DA MAHAPRANA, DDA, DDA MAHAPRANA, E, GA,
GA MURDA, HA, I, I KAWI, II, JA, JA MAHAPRANA, KA, KA MURDA, KA SASAK, LA, MA, NA, NA MURDA, NGA,
NGA LELET, NGA LELET RASWADI, NYA, NYA MURDA, O, PA, PA CEREK, PA MURDA, RA, RA AGUNG, SA, SA
MAHAPRANA, SA MURDA, TA, TA MURDA, TTA, TTA MAHAPRANA, U, WA, YA;
JAVANESE PADA: ADEG, ADEG ADEG, ANDAP, ISEN-ISEN, LINGSA, LUHUR, LUNGSI, MADYA, PANGKAT, PISELEH,
TIRTA TUMETES, WINDU;
JAVANESE RIGHT: RERENGGAN;
JAVANESE SIGN: CECAK, CECAK TELU, LAYAR, PANYANGGA, WIGNYAN;
JAVANESE TURNED: PADA PISELEH;
JAVANESE VOWEL SIGN: DIRGA MURE, PEPET, SUKU, SUKU MENDUT, TALING, TARUNG, TOLONG, WULU, WULU
MELIK;
JIGSAW: PUZZLE PIECE;
KAITHI: DANDA;
KAITHI ABBREVIATION: SIGN;
KAITHI DOUBLE: DANDA, SECTION MARK;
KAITHI ENUMERATION: SIGN;
KAITHI LETTER: A, AA, AI, AU, BA, BHA, CA, CHA, DA, DDA, DDDHA, DDHA, DHA, E, GA, GHA, HA, I, II,
JA, JHA, KA, KHA, LA, MA, NA, NGA, NNA, NYA, O, PA, PHA, RA, RHA, SA, SHA, SSA, TA, THA, TTA,
TTHA, U, UU, VA, YA;
KAITHI NUMBER: SIGN, SIGN ABOVE;
KAITHI SECTION: MARK;
KAITHI SIGN: ANUSVARA, CANDRABINDU, NUKTA, VIRAMA, VISARGA;
KAITHI VOWEL SIGN: AA, AI, AU, E, I, II, O, U, UU, VOCALIC R;
KANGXI RADICAL: AGAIN, AND, ARRIVE, ARROW, AXE, BADGER, BAMBOO, BEAN, BIG, BIRD, BITTER, BLACK,
BLOOD, BLUE, BOAT, BODY, BOLT OF CLOTH, BONE, BOW, BRANCH, BRISTLE, BRUSH, CART, CAULDRON, CAVE,
CHILD, CITY, CLAN, CLAW, CLIFF, CLOTHES, COLOR, COMPARE, CORPSE, COVER, COW, DEATH, DEER, DIPPER,
DISH, DISTINGUISH, DIVINATION, DO NOT, DOG, DOOR, DOT, DOTTED CLIFF, DOTTED TENT, DOUBLE X, DOWN
BOX, DRAGON, DRUM, DRY, EAR, EARTH, EAT, EIGHT, EMBROIDERY, ENCLOSURE, ENTER, EVEN, EVENING, EYE,
FACE, FANG, FATHER, FEATHER, FIELD, FIGHT, FIRE, FISH, FLUTE, FLY, FOOT, FRAGRANT, FROG, FUR,
GATE, GHOST, GO, GO SLOWLY, GOLD, GRAIN, GRASS, HAIR, HALBERD, HALF TREE TRUNK, HAND, HEAD, HEART,
HEMP, HIDING ENCLOSURE, HOOK, HORN, HORSE, ICE, INCH, INSECT, JADE, JAR, KNIFE, LACK, LAME, LEAF,
LEATHER, LEEK, LEGS, LID, LIFE, LINE, LONG, LONG STRIDE, MAN, MEAT, MELON, MILLET, MINISTER, MOON,
MORNING, MORTAR, MOUND, MOUNTAIN, MOUTH, NET, NOSE, NOT, OLD, ONE, ONESELF, OPEN BOX, OPPOSE, PIG,
PLOW, POWER, PRIVATE, PROFOUND, RAIN, RAP, RAT, RED, RICE, RIGHT OPEN BOX, RIVER, ROOF, RUN,
SACRIFICIAL WINE, SALT, SAY, SCHOLAR, SCRIPT, SEAL, SECOND, SEE, SELF, SHEEP, SHELL, SHOOT, SHORT
TAILED BIRD, SHORT THREAD, SICKNESS, SILK, SKIN, SLASH, SLAVE, SLICE, SMALL, SNOUT, SOUND, SPEAR,
SPEECH, SPIRIT, SPOON, SPROUT, SQUARE, STAND, STEAM, STEP, STONE, STOP, STOPPING, SUN, SWEET,
TABLE, TALL, TANNED LEATHER, TEN, TIGER, TILE, TONGUE, TOOTH, TRACK, TREE, TRIPOD, TURBAN, TURTLE,
TWO, TWO HANDS, USE, VALLEY, VILLAGE, WALK, WALK ENCLOSURE, WATER, WEAPON, WEST, WHEAT, WHITE,
WIND, WINE, WOMAN, WORK, WRAP, WRONG, YELLOW;
KANNADA AI: LENGTH MARK;
KANNADA DIGIT: EIGHT, FIVE, FOUR, NINE, ONE, SEVEN, SIX, THREE, TWO, ZERO;
KANNADA LENGTH: MARK;
KANNADA LETTER: A, AA, AI, AU, BA, BHA, CA, CHA, DA, DDA, DDHA, DHA, E, EE, FA, GA, GHA, HA, I,
II, JA, JHA, KA, KHA, LA, LLA, LLLA, MA, NA, NAKAARA POLLU, NGA, NNA, NYA, O, OO, PA, PHA, RA,
RRA, SA, SHA, SSA, TA, THA, TTA, TTHA, U, UU, VA, VOCALIC L, VOCALIC LL, VOCALIC R, VOCALIC RR,
YA;
KANNADA SIGN: ANUSVARA, AVAGRAHA, CANDRABINDU, JIHVAMULIYA, NUKTA, SIDDHAM, SPACING CANDRABINDU,
UPADHMANIYA, VIRAMA, VISARGA;
KANNADA VOWEL SIGN: AA, AI, AU, E, EE, I, II, O, OO, U, UU, VOCALIC L, VOCALIC LL, VOCALIC R,
VOCALIC RR;
KATAKANA DIGRAPH: KOTO;
KATAKANA ITERATION: MARK;
KATAKANA LETTER: A, BA, BE, BI, BO, BU, DA, DE, DI, DO, DU, E, GA, GE, GI, GO, GU, HA, HE, HI, HO,
HU, I, KA, KE, KI, KO, KU, MA, ME, MI, MO, MU, N, NA, NE, NI, NO, NU, O, PA, PE, PI, PO, PU, RA,
RE, RI, RO, RU, SA, SE, SI, SO, SU, TA, TE, TI, TO, TU, U, VA, VE, VI, VO, VU, WA, WE, WI, WO, YA,
YO, YU, ZA, ZE, ZI, ZO, ZU;
KATAKANA LETTER ARCHAIC: E, WU, YE, YI;
KATAKANA LETTER MINNAN: TONE-2, TONE-3, TONE-4, TONE-5, TONE-7, TONE-8;
KATAKANA LETTER MINNAN NASALIZED: TONE-1, TONE-2, TONE-3, TONE-4, TONE-5, TONE-7, TONE-8;
KATAKANA LETTER SMALL: A, E, HA, HE, HI, HO, HU, I, KA, KE, KU, MU, N, NU, O, RA, RE, RI, RO, RU,
SI, SU, TO, TU, U, WA, WE, WI, WO, YA, YO, YU;
KATAKANA MIDDLE: DOT;
KATAKANA VOICED: ITERATION MARK;
KATAKANA-HIRAGANA: DOUBLE HYPHEN, PROLONGED SOUND MARK, SEMI-VOICED SOUND MARK, VOICED SOUND MARK;
KAYAH LI DIGIT: EIGHT, FIVE, FOUR, NINE, ONE, SEVEN, SIX, THREE, TWO, ZERO;
KAYAH LI LETTER: A, BA, CA, DA, GA, HA, HTA, I, KA, KHA, LA, MA, NA, NGA, NYA, OE, OO, PA, PHA,
RA, SA, SHA, TA, THA, VA, WA, YA, ZA;
KAYAH LI SIGN: CWI, SHYA;
KAYAH LI TONE: CALYA, CALYA PLOPHU, PLOPHU;
KAYAH LI VOWEL: E, EE, O, U, UE;
KELVIN: SIGN;
KEYBOARD: AND MOUSE;
KEYCAP: TEN;
KHAROSHTHI: VIRAMA;
KHAROSHTHI DIGIT: FOUR, ONE, THREE, TWO;
KHAROSHTHI FRACTION: ONE HALF;
KHAROSHTHI LETTER: A, BA, BHA, CA, CHA, DA, DDA, DDHA, DHA, GA, GHA, HA, JA, KA, KHA, KKA, LA, MA,
NA, NNA, NYA, PA, PHA, RA, SA, SHA, SSA, TA, THA, TTA, TTHA, TTTA, TTTHA, VA, VHA, YA, ZA;
KHAROSHTHI NUMBER: ONE HUNDRED, ONE THOUSAND, TEN, TWENTY;
KHAROSHTHI PUNCTUATION: CIRCLE, CRESCENT BAR, DANDA, DOT, DOUBLE DANDA, LINES, LOTUS, MANGALAM,
SMALL CIRCLE;
KHAROSHTHI SIGN: ANUSVARA, BAR ABOVE, CAUDA, DOT BELOW, DOUBLE RING BELOW, VISARGA;
KHAROSHTHI VOWEL: LENGTH MARK, SIGN E, SIGN I, SIGN O, SIGN U, SIGN VOCALIC R;
KHITAN: SMALL SCRIPT FILLER;
KHMER CURRENCY: SYMBOL RIEL;
KHMER DIGIT: EIGHT, FIVE, FOUR, NINE, ONE, SEVEN, SIX, THREE, TWO, ZERO;
KHMER INDEPENDENT VOWEL: LY, LYY, QAA, QAI, QAQ, QAU, QE, QI, QII, QOO TYPE ONE, QOO TYPE TWO, QU,
QUK, QUU, QUUV, RY, RYY;
KHMER LETTER: BA, CA, CHA, CHO, CO, DA, DO, HA, KA, KHA, KHO, KO, LA, LO, MO, NGO, NNO, NO, NYO,
PHA, PHO, PO, QA, RO, SA, SHA, SSO, TA, THA, THO, TO, TTHA, TTHO, VO, YO;
KHMER SIGN: AHSDA, ATTHACAN, AVAKRAHASANYA, BANTOC, BARIYOOSAN, BATHAMASAT, BEYYAL, CAMNUC PII
KUUH, COENG, KAKABAT, KHAN, KOOMUUT, LEK TOO, MUUSIKATOAN, NIKAHIT, PHNAEK MUAN, REAHMUK, ROBAT,
SAMYOK SANNYA, TOANDAKHIAT, TRIISAP, VIRIAM, YUUKALEAPINTU;
KHMER SYMBOL: BEI KOET, BEI ROC, BUON KOET, BUON ROC, DAP KOET, DAP ROC, DAP-BEI KOET, DAP-BEI
ROC, DAP-BUON KOET, DAP-BUON ROC, DAP-MUOY KOET, DAP-MUOY ROC, DAP-PII KOET, DAP-PII ROC, DAP-PRAM
KOET, DAP-PRAM ROC, LEK ATTAK BEI, LEK ATTAK BUON, LEK ATTAK MUOY, LEK ATTAK PII, LEK ATTAK PRAM,
LEK ATTAK PRAM-BEI, LEK ATTAK PRAM-BUON, LEK ATTAK PRAM-MUOY, LEK ATTAK PRAM-PII, LEK ATTAK SON,
MUOY KOET, MUOY ROC, PATHAMASAT, PII KOET, PII ROC, PRAM KOET, PRAM ROC, PRAM-BEI KOET, PRAM-BEI
ROC, PRAM-BUON KOET, PRAM-BUON ROC, PRAM-MUOY KOET, PRAM-MUOY ROC, PRAM-PII KOET, PRAM-PII ROC,
TUTEYASAT;
KHMER VOWEL INHERENT: AA, AQ;
KHMER VOWEL SIGN: AA, AE, AI, AU, E, I, IE, II, OE, OO, U, UA, UU, Y, YA, YY;
KHOJKI: DANDA;
KHOJKI ABBREVIATION: SIGN;
KHOJKI DOUBLE: DANDA, SECTION MARK;
KHOJKI LETTER: A, AA, AI, AU, BA, BBA, BHA, CA, CHA, DA, DDA, DDDA, DDHA, DHA, E, GA, GGA, GHA,
HA, I, JA, JJA, KA, KHA, LA, LLA, MA, NA, NGA, NNA, NYA, O, PA, PHA, RA, SA, TA, THA, TTA, TTHA,
U, VA, YA;
KHOJKI SECTION: MARK;
KHOJKI SIGN: ANUSVARA, NUKTA, SHADDA, SUKUN, VIRAMA;
KHOJKI VOWEL SIGN: AA, AI, AU, E, I, II, O, U;
KHOJKI WORD: SEPARATOR;
KHUDAWADI DIGIT: EIGHT, FIVE, FOUR, NINE, ONE, SEVEN, SIX, THREE, TWO, ZERO;
KHUDAWADI LETTER: A, AA, AI, AU, BA, BBA, BHA, CA, CHA, DA, DDA, DDDA, DDHA, DHA, E, GA, GGA, GHA,
HA, I, II, JA, JHA, JJA, KA, KHA, LA, MA, NA, NGA, NNA, NYA, O, PA, PHA, RA, RRA, SA, SHA, TA,
THA, TTA, TTHA, U, UU, VA, YA;
KHUDAWADI SIGN: ANUSVARA, NUKTA, VIRAMA;
KHUDAWADI VOWEL SIGN: AA, AI, AU, E, I, II, O, U, UU;
KIP: SIGN;
KISS: MARK;
KISSING: CAT FACE WITH CLOSED EYES, FACE, FACE WITH CLOSED EYES, FACE WITH SMILING EYES;
KNEELING: PERSON;
KOREAN: STANDARD SYMBOL;
"

end LogMarkup
