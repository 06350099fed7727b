/-!
# Character names from L to N

Each group of names has a front, in front of a colon, that all its names share, and
their endings behind it.
-/

namespace LogMarkup

/-- The character names whose fronts begin with letters from L to N. -/
def namesLToN : String := "
L: B BAR SYMBOL;
LAB: COAT;
LACROSSE: STICK AND BALL;
LADY: BEETLE;
LANGUAGE: TAG;
LAO: ELLIPSIS, NIGGAHITA;
LAO CANCELLATION: MARK;
LAO DIGIT: EIGHT, FIVE, FOUR, NINE, ONE, SEVEN, SIX, THREE, TWO, ZERO;
LAO HO: MO, NO;
LAO KO: LA;
LAO LETTER: BO, CO, DO, FO FAY, FO FON, FO SUNG, FO TAM, HO SUNG, HO TAM, KHMU GO, KHMU NYO, KHO
SUNG, KHO TAM, KO, LO, LO LING, LO LOOT, MO, NGO, NO, NYO, O, PALI BHA, PALI CHA, PALI DDA, PALI
DDHA, PALI DHA, PALI GHA, PALI JHA, PALI LLA, PALI NNA, PALI NYA, PALI TTA, PALI TTHA, PHO SUNG,
PHO TAM, PO, RO, SANSKRIT SHA, SANSKRIT SSA, SO SUNG, SO TAM, THO SUNG, THO TAM, TO, WO, YO;
LAO SEMIVOWEL SIGN: LO, NYO;
LAO SIGN: PALI VIRAMA;
LAO TONE MAI: CATAWA, EK, THO, TI;
LAO VOWEL SIGN: A, AA, AI, AM, AY, E, EI, I, II, MAI KAN, MAI KON, O, U, UU, Y, YY;
LARGE: BLUE CIRCLE, BLUE DIAMOND, BLUE SQUARE, BROWN CIRCLE, BROWN SQUARE, CIRCLE, DOWN TACK,
GREEN CIRCLE, GREEN SQUARE, LEFT TRIANGLE OPERATOR, ONE DOT OVER TWO DOTS PUNCTUATION, ONE RING
OVER TWO RINGS PUNCTUATION, ORANGE CIRCLE, ORANGE DIAMOND, ORANGE SQUARE, PURPLE CIRCLE, PURPLE
SQUARE, RED CIRCLE, RED SQUARE, TRIPLE VERTICAL BAR OPERATOR, TWO DOTS OVER ONE DOT PUNCTUATION,
TWO RINGS OVER ONE RING PUNCTUATION, UP TACK, YELLOW CIRCLE, YELLOW SQUARE;
LARGER: THAN, THAN OR EQUAL TO;
LARI: SIGN;
LAST QUARTER: MOON, MOON SYMBOL, MOON WITH FACE;
LATIN: CROSS;
LATIN CAPITAL LETTER: A, A WITH ACUTE, A WITH BREVE, A WITH BREVE AND ACUTE, A WITH BREVE AND DOT
BELOW, A WITH BREVE AND GRAVE, A WITH BREVE AND HOOK ABOVE, A WITH BREVE AND TILDE, A WITH CARON,
A WITH CIRCUMFLEX, A WITH CIRCUMFLEX AND ACUTE, A WITH CIRCUMFLEX AND DOT BELOW, A WITH CIRCUMFLEX
AND GRAVE, A WITH CIRCUMFLEX AND HOOK ABOVE, A WITH CIRCUMFLEX AND TILDE, A WITH DIAERESIS, A WITH
DIAERESIS AND MACRON, A WITH DOT ABOVE, A WITH DOT ABOVE AND MACRON, A WITH DOT BELOW, A WITH
DOUBLE GRAVE, A WITH GRAVE, A WITH HOOK ABOVE, A WITH INVERTED BREVE, A WITH MACRON, A WITH
OGONEK, A WITH RING ABOVE, A WITH RING ABOVE AND ACUTE, A WITH RING BELOW, A WITH STROKE, A WITH
TILDE, AA, AE, AE WITH ACUTE, AE WITH MACRON, AFRICAN D, ALPHA, ANGLICANA W, AO, AU, AV, AV WITH
HORIZONTAL BAR, AY, B, B WITH DOT ABOVE, B WITH DOT BELOW, B WITH FLOURISH, B WITH HOOK, B WITH
LINE BELOW, B WITH STROKE, B WITH TOPBAR, BETA, BROKEN L, C, C WITH ACUTE, C WITH BAR, C WITH
CARON, C WITH CEDILLA, C WITH CEDILLA AND ACUTE, C WITH CIRCUMFLEX, C WITH DOT ABOVE, C WITH HOOK,
C WITH PALATAL HOOK, C WITH STROKE, CHI, CLOSED INSULAR G, CON, CUATRILLO, CUATRILLO WITH COMMA,
D, D WITH CARON, D WITH CEDILLA, D WITH CIRCUMFLEX BELOW, D WITH DOT ABOVE, D WITH DOT BELOW, D
WITH HOOK, D WITH LINE BELOW, D WITH SHORT STROKE OVERLAY, D WITH SMALL LETTER Z, D WITH SMALL
LETTER Z WITH CARON, D WITH STROKE, D WITH TOPBAR, DZ, DZ WITH CARON, E, E WITH ACUTE, E WITH
BREVE, E WITH CARON, E WITH CEDILLA, E WITH CEDILLA AND BREVE, E WITH CIRCUMFLEX, E WITH
CIRCUMFLEX AND ACUTE, E WITH CIRCUMFLEX AND DOT BELOW, E WITH CIRCUMFLEX AND GRAVE, E WITH
CIRCUMFLEX AND HOOK ABOVE, E WITH CIRCUMFLEX AND TILDE, E WITH CIRCUMFLEX BELOW, E WITH DIAERESIS,
E WITH DOT ABOVE, E WITH DOT BELOW, E WITH DOUBLE GRAVE, E WITH GRAVE, E WITH HOOK ABOVE, E WITH
INVERTED BREVE, E WITH MACRON, E WITH MACRON AND ACUTE, E WITH MACRON AND GRAVE, E WITH OGONEK, E
WITH STROKE, E WITH TILDE, E WITH TILDE BELOW, EGYPTOLOGICAL AIN, EGYPTOLOGICAL ALEF, ENG, ESH,
ET, ETH, EZH, EZH REVERSED, EZH WITH CARON, F, F WITH DOT ABOVE, F WITH HOOK, F WITH STROKE, G, G
WITH ACUTE, G WITH BREVE, G WITH CARON, G WITH CEDILLA, G WITH CIRCUMFLEX, G WITH DOT ABOVE, G
WITH HOOK, G WITH MACRON, G WITH OBLIQUE STROKE, G WITH STROKE, GAMMA, GHA, GLOTTAL A, GLOTTAL I,
GLOTTAL STOP, GLOTTAL U, H, H WITH BREVE BELOW, H WITH CARON, H WITH CEDILLA, H WITH CIRCUMFLEX, H
WITH DESCENDER, H WITH DIAERESIS, H WITH DOT ABOVE, H WITH DOT BELOW, H WITH HOOK, H WITH STROKE,
HALF H, HENG, HWAIR, I, I WITH ACUTE, I WITH BREVE, I WITH CARON, I WITH CIRCUMFLEX, I WITH
DIAERESIS, I WITH DIAERESIS AND ACUTE, I WITH DOT ABOVE, I WITH DOT BELOW, I WITH DOUBLE GRAVE, I
WITH GRAVE, I WITH HOOK ABOVE, I WITH INVERTED BREVE, I WITH MACRON, I WITH OGONEK, I WITH STROKE,
I WITH TILDE, I WITH TILDE BELOW, INSULAR D, INSULAR F, INSULAR G, INSULAR R, INSULAR S, INSULAR
T, IOTA, IS, J, J WITH CIRCUMFLEX, J WITH CROSSED-TAIL, J WITH STROKE, K, K WITH ACUTE, K WITH
CARON, K WITH CEDILLA, K WITH DESCENDER, K WITH DIAGONAL STROKE, K WITH DOT BELOW, K WITH HOOK, K
WITH LINE BELOW, K WITH OBLIQUE STROKE, K WITH STROKE, K WITH STROKE AND DIAGONAL STROKE, L, L
WITH ACUTE, L WITH BAR, L WITH BELT, L WITH CARON, L WITH CEDILLA, L WITH CIRCUMFLEX BELOW, L WITH
DOT BELOW, L WITH DOT BELOW AND MACRON, L WITH DOUBLE BAR, L WITH HIGH STROKE, L WITH LINE BELOW,
L WITH MIDDLE DOT, L WITH MIDDLE TILDE, L WITH SMALL LETTER J, L WITH STROKE, LJ, M, M WITH ACUTE,
M WITH DOT ABOVE, M WITH DOT BELOW, M WITH HOOK, MIDDLE SCOTS S, MIDDLE-WELSH LL, MIDDLE-WELSH V,
N, N WITH ACUTE, N WITH CARON, N WITH CEDILLA, N WITH CIRCUMFLEX BELOW, N WITH DESCENDER, N WITH
DOT ABOVE, N WITH DOT BELOW, N WITH GRAVE, N WITH LEFT HOOK, N WITH LINE BELOW, N WITH LONG RIGHT
LEG, N WITH OBLIQUE STROKE, N WITH SMALL LETTER J, N WITH TILDE, NJ, O, O WITH ACUTE, O WITH
BREVE, O WITH CARON, O WITH CIRCUMFLEX, O WITH CIRCUMFLEX AND ACUTE, O WITH CIRCUMFLEX AND DOT
BELOW, O WITH CIRCUMFLEX AND GRAVE, O WITH CIRCUMFLEX AND HOOK ABOVE, O WITH CIRCUMFLEX AND TILDE,
O WITH DIAERESIS, O WITH DIAERESIS AND MACRON, O WITH DOT ABOVE, O WITH DOT ABOVE AND MACRON, O
WITH DOT BELOW, O WITH DOUBLE ACUTE, O WITH DOUBLE GRAVE, O WITH GRAVE, O WITH HOOK ABOVE, O WITH
HORN, O WITH HORN AND ACUTE, O WITH HORN AND DOT BELOW, O WITH HORN AND GRAVE, O WITH HORN AND
HOOK ABOVE, O WITH HORN AND TILDE, O WITH INVERTED BREVE, O WITH LONG STROKE OVERLAY, O WITH LOOP,
O WITH MACRON, O WITH MACRON AND ACUTE, O WITH MACRON AND GRAVE, O WITH MIDDLE TILDE, O WITH
OGONEK, O WITH OGONEK AND MACRON, O WITH STROKE, O WITH STROKE AND ACUTE, O WITH TILDE, O WITH
TILDE AND ACUTE, O WITH TILDE AND DIAERESIS, O WITH TILDE AND MACRON, OI, OLD POLISH O, OMEGA, OO,
OPEN E, OPEN O, OU, P, P WITH ACUTE, P WITH DOT ABOVE, P WITH FLOURISH, P WITH HOOK, P WITH
SQUIRREL TAIL, P WITH STROKE, P WITH STROKE THROUGH DESCENDER, Q, Q WITH DIAGONAL STROKE, Q WITH
STROKE THROUGH DESCENDER, R, R ROTUNDA, R WITH ACUTE, R WITH CARON, R WITH CEDILLA, R WITH DOT
ABOVE, R WITH DOT BELOW, R WITH DOT BELOW AND MACRON, R WITH DOUBLE GRAVE, R WITH INVERTED BREVE,
R WITH LINE BELOW, R WITH OBLIQUE STROKE, R WITH STROKE, R WITH TAIL, REVERSED C WITH DOT,
REVERSED E, REVERSED HALF H, REVERSED OPEN E, RUM ROTUNDA, S, S WITH ACUTE, S WITH ACUTE AND DOT
ABOVE, S WITH CARON, S WITH CARON AND DOT ABOVE, S WITH CEDILLA, S WITH CIRCUMFLEX, S WITH COMMA
BELOW, S WITH DOT ABOVE, S WITH DOT BELOW, S WITH DOT BELOW AND DOT ABOVE, S WITH HOOK, S WITH
OBLIQUE STROKE, S WITH SHORT STROKE OVERLAY, S WITH SWASH TAIL, SALTILLO, SCHWA, SCRIPT G, SHARP
S, SIGMOID S, SMALL CAPITAL I, SMALL Q WITH HOOK TAIL, T, T WITH CARON, T WITH CEDILLA, T WITH
CIRCUMFLEX BELOW, T WITH COMMA BELOW, T WITH DIAGONAL STROKE, T WITH DOT ABOVE, T WITH DOT BELOW,
T WITH HOOK, T WITH LINE BELOW, T WITH RETROFLEX HOOK, T WITH STROKE, THORN, THORN WITH STROKE,
THORN WITH STROKE THROUGH DESCENDER, TONE FIVE, TONE SIX, TONE TWO, TRESILLO, TURNED A, TURNED
ALPHA, TURNED H, TURNED INSULAR G, TURNED K, TURNED L, TURNED M, TURNED T, TURNED V, TZ, U, U BAR,
U WITH ACUTE, U WITH BREVE, U WITH CARON, U WITH CIRCUMFLEX, U WITH CIRCUMFLEX BELOW, U WITH
DIAERESIS, U WITH DIAERESIS AND ACUTE, U WITH DIAERESIS AND CARON, U WITH DIAERESIS AND GRAVE, U
WITH DIAERESIS AND MACRON, U WITH DIAERESIS BELOW, U WITH DOT BELOW, U WITH DOUBLE ACUTE, U WITH
DOUBLE GRAVE, U WITH GRAVE, U WITH HOOK ABOVE, U WITH HORN, U WITH HORN AND ACUTE, U WITH HORN AND
DOT BELOW, U WITH HORN AND GRAVE, U WITH HORN AND HOOK ABOVE, U WITH HORN AND TILDE, U WITH
INVERTED BREVE, U WITH MACRON, U WITH MACRON AND DIAERESIS, U WITH OGONEK, U WITH RING ABOVE, U
WITH STROKE, U WITH TILDE, U WITH TILDE AND ACUTE, U WITH TILDE BELOW, UPSILON, V, V WITH DIAGONAL
STROKE, V WITH DOT BELOW, V WITH HOOK, V WITH TILDE, VEND, VISIGOTHIC Z, VOLAPUK AE, VOLAPUK OE,
VOLAPUK UE, VY, W, W WITH ACUTE, W WITH CIRCUMFLEX, W WITH DIAERESIS, W WITH DOT ABOVE, W WITH DOT
BELOW, W WITH GRAVE, W WITH HOOK, WYNN, X, X WITH DIAERESIS, X WITH DOT ABOVE, Y, Y WITH ACUTE, Y
WITH CIRCUMFLEX, Y WITH DIAERESIS, Y WITH DOT ABOVE, Y WITH DOT BELOW, Y WITH GRAVE, Y WITH HOOK,
Y WITH HOOK ABOVE, Y WITH LOOP, Y WITH MACRON, Y WITH STROKE, Y WITH TILDE, YOGH, Z, Z WITH ACUTE,
Z WITH CARON, Z WITH CIRCUMFLEX, Z WITH DESCENDER, Z WITH DOT ABOVE, Z WITH DOT BELOW, Z WITH
HOOK, Z WITH LINE BELOW, Z WITH PALATAL HOOK, Z WITH STROKE, Z WITH SWASH TAIL;
LATIN CAPITAL LIGATURE: IJ, OE;
LATIN EPIGRAPHIC LETTER: ARCHAIC M, I LONGA, INVERTED M, REVERSED F, REVERSED P, SIDEWAYS I;
LATIN LETTER: AIN, WYNN, YR;
LATIN LETTER ALVEOLAR: CLICK;
LATIN LETTER BIDENTAL: PERCUSSIVE;
LATIN LETTER BILABIAL: CLICK, PERCUSSIVE;
LATIN LETTER DENTAL: CLICK;
LATIN LETTER GLOTTAL: STOP, STOP WITH STROKE;
LATIN LETTER INVERTED GLOTTAL: STOP, STOP WITH CURL, STOP WITH STROKE;
LATIN LETTER LATERAL: CLICK;
LATIN LETTER PHARYNGEAL: VOICED FRICATIVE;
LATIN LETTER RETROFLEX: CLICK, CLICK WITH RETROFLEX HOOK;
LATIN LETTER REVERSED: ESH LOOP, GLOTTAL STOP WITH STROKE;
LATIN LETTER SINOLOGICAL: DOT;
LATIN LETTER SMALL CAPITAL: A, AE, B, BARRED B, C, D, E, ETH, EZH, F, G, G WITH HOOK, H, I,
INVERTED R, J, K, L, L WITH BELT, L WITH STROKE, M, N, O, OE, OPEN O, OU, P, Q, R, R WITH RIGHT
LEG, REVERSED N, REVERSED R, RUM, S, T, TURNED E, TURNED G, TURNED K, TURNED M, TURNED R, U, V, W,
Y, Z;
LATIN LETTER STRETCHED: C, C WITH CURL;
LATIN LETTER TWO: WITH STROKE;
LATIN LETTER VOICED: LARYNGEAL SPIRANT;
LATIN SMALL CAPITAL LETTER: I WITH STROKE, U WITH STROKE;
LATIN SMALL LETTER: A, A REVERSED-SCHWA, A WITH ACUTE, A WITH BREVE, A WITH BREVE AND ACUTE, A
WITH BREVE AND DOT BELOW, A WITH BREVE AND GRAVE, A WITH BREVE AND HOOK ABOVE, A WITH BREVE AND
TILDE, A WITH CARON, A WITH CIRCUMFLEX, A WITH CIRCUMFLEX AND ACUTE, A WITH CIRCUMFLEX AND DOT
BELOW, A WITH CIRCUMFLEX AND GRAVE, A WITH CIRCUMFLEX AND HOOK ABOVE, A WITH CIRCUMFLEX AND TILDE,
A WITH DIAERESIS, A WITH DIAERESIS AND MACRON, A WITH DOT ABOVE, A WITH DOT ABOVE AND MACRON, A
WITH DOT BELOW, A WITH DOUBLE GRAVE, A WITH GRAVE, A WITH HOOK ABOVE, A WITH INVERTED BREVE, A
WITH MACRON, A WITH OGONEK, A WITH RETROFLEX HOOK, A WITH RIGHT HALF RING, A WITH RING ABOVE, A
WITH RING ABOVE AND ACUTE, A WITH RING BELOW, A WITH STROKE, A WITH TILDE, AA, AE, AE WITH ACUTE,
AE WITH MACRON, ALPHA, ALPHA WITH RETROFLEX HOOK, ANGLICANA W, AO, AU, AV, AV WITH HORIZONTAL BAR,
AY, B, B WITH DOT ABOVE, B WITH DOT BELOW, B WITH FLOURISH, B WITH HOOK, B WITH LINE BELOW, B WITH
MIDDLE TILDE, B WITH PALATAL HOOK, B WITH STROKE, B WITH TOPBAR, BARRED ALPHA, BARRED E, BARRED O,
BASELINE ESH, BETA, BLACKLETTER E, BLACKLETTER O, BLACKLETTER O WITH STROKE, BOTTOM HALF O, BROKEN
L, C, C WITH ACUTE, C WITH BAR, C WITH CARON, C WITH CEDILLA, C WITH CEDILLA AND ACUTE, C WITH
CIRCUMFLEX, C WITH CURL, C WITH DOT ABOVE, C WITH HOOK, C WITH PALATAL HOOK, C WITH RETROFLEX
HOOK, C WITH STROKE, CHI, CHI WITH LOW LEFT SERIF, CHI WITH LOW RIGHT RING, CLOSED INSULAR G,
CLOSED OMEGA, CLOSED OPEN E, CLOSED REVERSED OPEN E, CON, CUATRILLO, CUATRILLO WITH COMMA, D, D
WITH CARON, D WITH CEDILLA, D WITH CIRCUMFLEX BELOW, D WITH CURL, D WITH DOT ABOVE, D WITH DOT
BELOW, D WITH HOOK, D WITH HOOK AND TAIL, D WITH LINE BELOW, D WITH MIDDLE TILDE, D WITH PALATAL
HOOK, D WITH SHORT STROKE OVERLAY, D WITH STROKE, D WITH TAIL, D WITH TOPBAR, DB DIGRAPH, DELTA,
DEZH DIGRAPH, DEZH DIGRAPH WITH PALATAL HOOK, DEZH DIGRAPH WITH RETROFLEX HOOK, DOTLESS I, DOTLESS
J, DOTLESS J WITH STROKE, DOTLESS J WITH STROKE AND HOOK, DOUBLE R, DOUBLE R WITH CROSSED-TAIL,
DOUBLE THORN, DOUBLE WYNN, DUM, DZ, DZ DIGRAPH, DZ DIGRAPH WITH CURL, DZ DIGRAPH WITH RETROFLEX
HOOK, DZ WITH CARON, E, E WITH ACUTE, E WITH BREVE, E WITH CARON, E WITH CEDILLA, E WITH CEDILLA
AND BREVE, E WITH CIRCUMFLEX, E WITH CIRCUMFLEX AND ACUTE, E WITH CIRCUMFLEX AND DOT BELOW, E WITH
CIRCUMFLEX AND GRAVE, E WITH CIRCUMFLEX AND HOOK ABOVE, E WITH CIRCUMFLEX AND TILDE, E WITH
CIRCUMFLEX BELOW, E WITH DIAERESIS, E WITH DOT ABOVE, E WITH DOT BELOW, E WITH DOUBLE GRAVE, E
WITH FLOURISH, E WITH GRAVE, E WITH HOOK ABOVE, E WITH INVERTED BREVE, E WITH MACRON, E WITH
MACRON AND ACUTE, E WITH MACRON AND GRAVE, E WITH NOTCH, E WITH OGONEK, E WITH RETROFLEX HOOK, E
WITH STROKE, E WITH TILDE, E WITH TILDE BELOW, EGYPTOLOGICAL AIN, EGYPTOLOGICAL ALEF, ENG, ENG
WITH CROSSED-TAIL, ENG WITH PALATAL HOOK, ESH, ESH WITH CURL, ESH WITH DOUBLE BAR, ESH WITH DOUBLE
BAR AND CURL, ESH WITH PALATAL HOOK, ESH WITH RETROFLEX HOOK, ET, ETH, EZH, EZH REVERSED, EZH WITH
CARON, EZH WITH CURL, EZH WITH PALATAL HOOK, EZH WITH RETROFLEX HOOK, EZH WITH TAIL, F, F WITH DOT
ABOVE, F WITH HOOK, F WITH MIDDLE TILDE, F WITH PALATAL HOOK, F WITH STROKE, FENG DIGRAPH, FENG
DIGRAPH WITH TRILL, G, G WITH ACUTE, G WITH BREVE, G WITH CARON, G WITH CEDILLA, G WITH
CIRCUMFLEX, G WITH DOT ABOVE, G WITH HOOK, G WITH MACRON, G WITH OBLIQUE STROKE, G WITH PALATAL
HOOK, G WITH STROKE, GAMMA, GHA, GLOTTAL A, GLOTTAL I, GLOTTAL STOP, GLOTTAL U, H, H WITH BREVE
BELOW, H WITH CARON, H WITH CEDILLA, H WITH CIRCUMFLEX, H WITH DESCENDER, H WITH DIAERESIS, H WITH
DOT ABOVE, H WITH DOT BELOW, H WITH HOOK, H WITH LINE BELOW, H WITH PALATAL HOOK, H WITH STROKE,
HALF H, HENG, HENG WITH HOOK, HV, I, I WITH ACUTE, I WITH BREVE, I WITH CARON, I WITH CIRCUMFLEX,
I WITH DIAERESIS, I WITH DIAERESIS AND ACUTE, I WITH DOT BELOW, I WITH DOUBLE GRAVE, I WITH GRAVE,
I WITH HOOK ABOVE, I WITH INVERTED BREVE, I WITH MACRON, I WITH OGONEK, I WITH RETROFLEX HOOK, I
WITH STROKE, I WITH STROKE AND RETROFLEX HOOK, I WITH TILDE, I WITH TILDE BELOW, INSULAR D,
INSULAR F, INSULAR G, INSULAR R, INSULAR S, INSULAR T, INVERTED ALPHA, INVERTED OE, IOTA, IOTA
WITH STROKE, IOTIFIED E, IS, J, J WITH CARON, J WITH CIRCUMFLEX, J WITH CROSSED-TAIL, J WITH
STROKE, K, K WITH ACUTE, K WITH CARON, K WITH CEDILLA, K WITH DESCENDER, K WITH DIAGONAL STROKE, K
WITH DOT BELOW, K WITH HOOK, K WITH LINE BELOW, K WITH OBLIQUE STROKE, K WITH PALATAL HOOK, K WITH
STROKE, K WITH STROKE AND DIAGONAL STROKE, KRA, L, L WITH ACUTE, L WITH BAR, L WITH BELT, L WITH
BELT AND PALATAL HOOK, L WITH CARON, L WITH CEDILLA, L WITH CIRCUMFLEX BELOW, L WITH CURL, L WITH
DOT BELOW, L WITH DOT BELOW AND MACRON, L WITH DOUBLE BAR, L WITH DOUBLE MIDDLE TILDE, L WITH
FISHHOOK, L WITH HIGH STROKE, L WITH INVERTED LAZY S, L WITH LINE BELOW, L WITH MIDDLE DOT, L WITH
MIDDLE RING, L WITH MIDDLE TILDE, L WITH PALATAL HOOK, L WITH RETROFLEX HOOK, L WITH RETROFLEX
HOOK AND BELT, L WITH STROKE, LAMBDA WITH STROKE, LENIS F, LEZH, LEZH WITH RETROFLEX HOOK, LJ,
LONG S, LONG S WITH DIAGONAL STROKE, LONG S WITH DOT ABOVE, LONG S WITH HIGH STROKE, LS DIGRAPH,
LUM, LZ DIGRAPH, M, M WITH ACUTE, M WITH CROSSED-TAIL, M WITH DOT ABOVE, M WITH DOT BELOW, M WITH
HOOK, M WITH MIDDLE TILDE, M WITH PALATAL HOOK, MIDDLE SCOTS S, MIDDLE-WELSH LL, MIDDLE-WELSH V,
MUM, N, N PRECEDED BY APOSTROPHE, N WITH ACUTE, N WITH CARON, N WITH CEDILLA, N WITH CIRCUMFLEX
BELOW, N WITH CROSSED-TAIL, N WITH CURL, N WITH DESCENDER, N WITH DOT ABOVE, N WITH DOT BELOW, N
WITH GRAVE, N WITH LEFT HOOK, N WITH LINE BELOW, N WITH LONG RIGHT LEG, N WITH MIDDLE TILDE, N
WITH OBLIQUE STROKE, N WITH PALATAL HOOK, N WITH RETROFLEX HOOK, N WITH TILDE, NJ, NUM, O, O WITH
ACUTE, O WITH BREVE, O WITH CARON, O WITH CIRCUMFLEX, O WITH CIRCUMFLEX AND ACUTE, O WITH
CIRCUMFLEX AND DOT BELOW, O WITH CIRCUMFLEX AND GRAVE, O WITH CIRCUMFLEX AND HOOK ABOVE, O WITH
CIRCUMFLEX AND TILDE, O WITH DIAERESIS, O WITH DIAERESIS AND MACRON, O WITH DOT ABOVE, O WITH DOT
ABOVE AND MACRON, O WITH DOT BELOW, O WITH DOUBLE ACUTE, O WITH DOUBLE GRAVE, O WITH GRAVE, O WITH
HOOK ABOVE, O WITH HORN, O WITH HORN AND ACUTE, O WITH HORN AND DOT BELOW, O WITH HORN AND GRAVE,
O WITH HORN AND HOOK ABOVE, O WITH HORN AND TILDE, O WITH INVERTED BREVE, O WITH LONG STROKE
OVERLAY, O WITH LOOP, O WITH LOW RING INSIDE, O WITH MACRON, O WITH MACRON AND ACUTE, O WITH
MACRON AND GRAVE, O WITH OGONEK, O WITH OGONEK AND MACRON, O WITH RETROFLEX HOOK, O WITH STROKE, O
WITH STROKE AND ACUTE, O WITH TILDE, O WITH TILDE AND ACUTE, O WITH TILDE AND DIAERESIS, O WITH
TILDE AND MACRON, OI, OLD POLISH O, OMEGA, OO, OPEN E, OPEN E WITH RETROFLEX HOOK, OPEN O, OPEN O
WITH RETROFLEX HOOK, OPEN O WITH STROKE, OPEN OE, OU, P, P WITH ACUTE, P WITH DOT ABOVE, P WITH
FLOURISH, P WITH HOOK, P WITH MIDDLE TILDE, P WITH PALATAL HOOK, P WITH SQUIRREL TAIL, P WITH
STROKE, P WITH STROKE THROUGH DESCENDER, PHI, Q, Q WITH DIAGONAL STROKE, Q WITH HOOK, Q WITH HOOK
TAIL, Q WITH STROKE THROUGH DESCENDER, QP DIGRAPH, R, R ROTUNDA, R WITH ACUTE, R WITH CARON, R
WITH CEDILLA, R WITH CROSSED-TAIL, R WITH DOT ABOVE, R WITH DOT BELOW, R WITH DOT BELOW AND
MACRON, R WITH DOUBLE GRAVE, R WITH FISHHOOK, R WITH FISHHOOK AND MIDDLE TILDE, R WITH FISHHOOK
AND PALATAL HOOK, R WITH INVERTED BREVE, R WITH LINE BELOW, R WITH LONG LEG, R WITH MIDDLE TILDE,
R WITH OBLIQUE STROKE, R WITH PALATAL HOOK, R WITH STROKE, R WITH TAIL, R WITHOUT HANDLE, RAMS
HORN, REVERSED C, REVERSED C WITH DOT, REVERSED E, REVERSED ENG, REVERSED HALF H, REVERSED K,
REVERSED OPEN E, REVERSED OPEN E WITH HOOK, REVERSED OPEN E WITH RETROFLEX HOOK, REVERSED R WITH
FISHHOOK, REVERSED SCRIPT G, RUM, RUM ROTUNDA, S, S WITH ACUTE, S WITH ACUTE AND DOT ABOVE, S WITH
CARON, S WITH CARON AND DOT ABOVE, S WITH CEDILLA, S WITH CIRCUMFLEX, S WITH COMMA BELOW, S WITH
CURL, S WITH DOT ABOVE, S WITH DOT BELOW, S WITH DOT BELOW AND DOT ABOVE, S WITH HOOK, S WITH
MIDDLE TILDE, S WITH OBLIQUE STROKE, S WITH PALATAL HOOK, S WITH SHORT STROKE OVERLAY, S WITH
SWASH TAIL, SAKHA YAT, SALTILLO, SCHWA, SCHWA WITH HOOK, SCHWA WITH RETROFLEX HOOK, SCRIPT G,
SCRIPT G WITH CROSSED-TAIL, SCRIPT R, SCRIPT R WITH RING, SHARP S, SIDEWAYS DIAERESIZED U,
SIDEWAYS O, SIDEWAYS O WITH STROKE, SIDEWAYS OPEN O, SIDEWAYS TURNED M, SIDEWAYS U, SIGMOID S,
SQUAT REVERSED ESH, STIRRUP R, T, T WITH CARON, T WITH CEDILLA, T WITH CIRCUMFLEX BELOW, T WITH
COMMA BELOW, T WITH CURL, T WITH DIAERESIS, T WITH DIAGONAL STROKE, T WITH DOT ABOVE, T WITH DOT
BELOW, T WITH HOOK, T WITH HOOK AND RETROFLEX HOOK, T WITH LINE BELOW, T WITH MIDDLE TILDE, T WITH
PALATAL HOOK, T WITH RETROFLEX HOOK, T WITH STROKE, TAILLESS PHI, TC DIGRAPH WITH CURL, TESH
DIGRAPH, TESH DIGRAPH WITH PALATAL HOOK, TESH DIGRAPH WITH RETROFLEX HOOK, TH WITH STRIKETHROUGH,
THORN, THORN WITH STROKE, THORN WITH STROKE THROUGH DESCENDER, TONE FIVE, TONE SIX, TONE TWO, TOP
HALF O, TRESILLO, TS DIGRAPH, TS DIGRAPH WITH RETROFLEX HOOK, TUM, TURNED A, TURNED AE, TURNED
ALPHA, TURNED DELTA, TURNED E, TURNED G, TURNED H, TURNED H WITH FISHHOOK, TURNED H WITH FISHHOOK
AND TAIL, TURNED I, TURNED INSULAR G, TURNED K, TURNED L, TURNED M, TURNED M WITH LONG LEG, TURNED
O OPEN-O, TURNED O OPEN-O WITH STROKE, TURNED OE, TURNED OE WITH HORIZONTAL STROKE, TURNED OE WITH
STROKE, TURNED OPEN E, TURNED R, TURNED R WITH HOOK, TURNED R WITH LONG LEG, TURNED R WITH LONG
LEG AND RETROFLEX HOOK, TURNED R WITH MIDDLE TILDE, TURNED R WITH PALATAL HOOK, TURNED R WITH
TAIL, TURNED T, TURNED T WITH CURL, TURNED UI, TURNED V, TURNED W, TURNED Y, TURNED Y WITH BELT,
TZ, U, U BAR, U BAR WITH SHORT RIGHT LEG, U WITH ACUTE, U WITH BREVE, U WITH CARON, U WITH
CIRCUMFLEX, U WITH CIRCUMFLEX BELOW, U WITH DIAERESIS, U WITH DIAERESIS AND ACUTE, U WITH
DIAERESIS AND CARON, U WITH DIAERESIS AND GRAVE, U WITH DIAERESIS AND MACRON, U WITH DIAERESIS
BELOW, U WITH DOT BELOW, U WITH DOUBLE ACUTE, U WITH DOUBLE GRAVE, U WITH GRAVE, U WITH HOOK
ABOVE, U WITH HORN, U WITH HORN AND ACUTE, U WITH HORN AND DOT BELOW, U WITH HORN AND GRAVE, U
WITH HORN AND HOOK ABOVE, U WITH HORN AND TILDE, U WITH INVERTED BREVE, U WITH LEFT HOOK, U WITH
MACRON, U WITH MACRON AND DIAERESIS, U WITH OGONEK, U WITH RETROFLEX HOOK, U WITH RING ABOVE, U
WITH SHORT RIGHT LEG, U WITH STROKE, U WITH TILDE, U WITH TILDE AND ACUTE, U WITH TILDE BELOW, UE,
UI, UM, UO, UPSILON, UPSILON WITH STROKE, V, V WITH CURL, V WITH DIAGONAL STROKE, V WITH DOT
BELOW, V WITH HOOK, V WITH PALATAL HOOK, V WITH RIGHT HOOK, V WITH TILDE, VEND, VISIGOTHIC Z,
VOLAPUK AE, VOLAPUK OE, VOLAPUK UE, VY, W, W WITH ACUTE, W WITH CIRCUMFLEX, W WITH DIAERESIS, W
WITH DOT ABOVE, W WITH DOT BELOW, W WITH GRAVE, W WITH HOOK, W WITH RING ABOVE, X, X WITH
DIAERESIS, X WITH DOT ABOVE, X WITH LONG LEFT LEG, X WITH LONG LEFT LEG AND LOW RIGHT RING, X WITH
LONG LEFT LEG WITH SERIF, X WITH LOW RIGHT RING, X WITH PALATAL HOOK, Y, Y WITH ACUTE, Y WITH
CIRCUMFLEX, Y WITH DIAERESIS, Y WITH DOT ABOVE, Y WITH DOT BELOW, Y WITH GRAVE, Y WITH HOOK, Y
WITH HOOK ABOVE, Y WITH LOOP, Y WITH MACRON, Y WITH RING ABOVE, Y WITH SHORT RIGHT LEG, Y WITH
STROKE, Y WITH TILDE, YOGH, Z, Z WITH ACUTE, Z WITH CARON, Z WITH CIRCUMFLEX, Z WITH CURL, Z WITH
DESCENDER, Z WITH DOT ABOVE, Z WITH DOT BELOW, Z WITH HOOK, Z WITH LINE BELOW, Z WITH MIDDLE
TILDE, Z WITH PALATAL HOOK, Z WITH RETROFLEX HOOK, Z WITH STROKE, Z WITH SWASH TAIL;
LATIN SMALL LIGATURE: FF, FFI, FFL, FI, FL, IJ, LONG S T, OE, ST;
LATIN SUBSCRIPT SMALL LETTER: A, E, H, I, J, K, L, M, N, O, P, R, S, SCHWA, T, U, V, X;
LEAF: FLUTTERING IN WIND;
LEAFY: GREEN;
LEFT: AND LOWER AND RIGHT TRIANGULAR THREE QUARTERS BLOCK, AND LOWER ONE EIGHTH BLOCK, AND RIGHT
DOUBLE TURNSTILE, AND RIGHT TACK, AND RIGHT TRIANGULAR HALF BLOCK, AND UPPER AND RIGHT TRIANGULAR
THREE QUARTERS BLOCK, AND UPPER ONE EIGHTH BLOCK, ANGER BUBBLE, ANGLE BRACKET, ANGLE BRACKET WITH
DOT, ARC LESS-THAN BRACKET, ARROW WITH CIRCLED PLUS, ARROW WITH SMALL CIRCLE, BARB DOWN RIGHT BARB
DOWN HARPOON, BARB DOWN RIGHT BARB UP HARPOON, BARB UP RIGHT BARB DOWN HARPOON, BARB UP RIGHT BARB
UP HARPOON, BLACK LENTICULAR BRACKET, BLACK TORTOISE SHELL BRACKET, CEILING, CLOSED ENTRY, CORNER
BRACKET, CURLY BRACKET, CURLY BRACKET LOWER HOOK, CURLY BRACKET MIDDLE PIECE, CURLY BRACKET UPPER
HOOK, DOTTED SUBSTITUTION BRACKET, DOUBLE ANGLE BRACKET, DOUBLE PARENTHESIS, DOUBLE QUOTATION
MARK, DOUBLE WIGGLY FENCE, FISH TAIL, FIVE EIGHTHS BLOCK, FLOOR, HALF BLACK CIRCLE, HALF BLACK
STAR, HALF BLOCK, HALF CIRCLE, HALF CIRCLE WITH DOT, HALF CIRCLE WITH FOUR DOTS, HALF CIRCLE WITH
THREE DOTS, HALF CIRCLE WITH TWO DOTS, HALF FOLDER, HALF INVERSE MEDIUM SHADE AND RIGHT HALF
BLOCK, HALF MEDIUM SHADE, HALF RUNNING MAN, HAND TELEPHONE RECEIVER, LOW PARAPHRASE BRACKET,
LUGGAGE, MULTIMAP, NORMAL FACTOR SEMIDIRECT PRODUCT, ONE EIGHTH BLOCK, ONE QUARTER BLOCK, OUTER
JOIN, PARENTHESIS, PARENTHESIS EXTENSION, PARENTHESIS LOWER HOOK, PARENTHESIS UPPER HOOK, RAISED
OMISSION BRACKET, RIGHT ARROW, RIGHT ARROW THROUGH SMALL CIRCLE, RIGHT ARROW WITH DOUBLE VERTICAL
STROKE, RIGHT ARROW WITH STROKE, RIGHT ARROW WITH VERTICAL STROKE, RIGHT BLACK ARROW, RIGHT DOUBLE
ARROW, RIGHT DOUBLE ARROW WITH STROKE, RIGHT DOUBLE ARROW WITH VERTICAL STROKE, RIGHT OPEN-HEADED
ARROW, RIGHT SANS-SERIF ARROW, RIGHT TRIANGLE-HEADED ARROW, RIGHT WAVE ARROW, RIGHT WHITE ARROW,
S-SHAPED BAG DELIMITER, SEMIDIRECT PRODUCT, SEVEN EIGHTHS BLOCK, SIDEWAYS U BRACKET, SINGLE
QUOTATION MARK, SPEECH BUBBLE, SQUARE BRACKET, SQUARE BRACKET EXTENSION, SQUARE BRACKET LOWER
CORNER, SQUARE BRACKET UPPER CORNER, SQUARE BRACKET WITH DOUBLE STROKE, SQUARE BRACKET WITH QUILL,
SQUARE BRACKET WITH STROKE, SQUARE BRACKET WITH TICK IN BOTTOM CORNER, SQUARE BRACKET WITH TICK IN
TOP CORNER, SQUARE BRACKET WITH UNDERBAR, SUBSTITUTION BRACKET, TACK, THIRD WHITE RIGHT POINTING
INDEX, THOUGHT BUBBLE, THREE EIGHTHS BLOCK, THREE QUARTERS BLOCK, TORTOISE SHELL BRACKET,
TRANSPOSITION BRACKET, TRIANGLE BESIDE VERTICAL BAR, TRIANGULAR ONE QUARTER BLOCK, VERTICAL BAR
WITH QUILL, VERTICAL BOX LINE, WHITE CORNER BRACKET, WHITE CURLY BRACKET, WHITE LENTICULAR
BRACKET, WHITE PARENTHESIS, WHITE SQUARE BRACKET, WHITE TORTOISE SHELL BRACKET, WIGGLY FENCE,
WRITING HAND;
LEFT-FACING: ARMENIAN ETERNITY SIGN, FIST, SVASTI SIGN, SVASTI SIGN WITH DOTS;
LEFT-HANDED: INTERLACED PENTAGRAM;
LEFT-POINTING: ANGLE BRACKET, CURVED ANGLE BRACKET, DOUBLE ANGLE QUOTATION MARK, MAGNIFYING GLASS;
LEFT-SHADED: WHITE RIGHTWARDS ARROW;
LEFT-SIDE: ARC ANTICLOCKWISE ARROW;
LEFT-TO-RIGHT: EMBEDDING, ISOLATE, MARK, OVERRIDE;
LEFTWARDS: ARROW, ARROW ABOVE ALMOST EQUAL TO, ARROW ABOVE REVERSE ALMOST EQUAL TO, ARROW ABOVE
REVERSE TILDE OPERATOR, ARROW ABOVE SHORT RIGHTWARDS ARROW, ARROW ABOVE TILDE OPERATOR, ARROW AND
UPPER AND LOWER ONE EIGHTH BLOCK, ARROW FROM BAR, ARROW FROM BAR TO BLACK DIAMOND, ARROW OVER
RIGHTWARDS ARROW, ARROW THROUGH LESS-THAN, ARROW THROUGH SUBSET, ARROW THROUGH X, ARROW TO BAR,
ARROW TO BAR OVER RIGHTWARDS ARROW TO BAR, ARROW TO BLACK DIAMOND, ARROW WITH DOTTED STEM, ARROW
WITH DOUBLE VERTICAL STROKE, ARROW WITH EQUILATERAL ARROWHEAD, ARROW WITH HOOK, ARROW WITH LARGE
TRIANGLE ARROWHEAD, ARROW WITH LOOP, ARROW WITH MEDIUM TRIANGLE ARROWHEAD, ARROW WITH NOTCHED
TAIL, ARROW WITH PLUS BELOW, ARROW WITH SMALL EQUILATERAL ARROWHEAD, ARROW WITH SMALL TRIANGLE
ARROWHEAD, ARROW WITH STROKE, ARROW WITH TAIL, ARROW WITH TAIL WITH DOUBLE VERTICAL STROKE, ARROW
WITH TAIL WITH VERTICAL STROKE, ARROW WITH TIP DOWNWARDS, ARROW WITH TIP UPWARDS, ARROW WITH
VERTICAL STROKE, ARROW-TAIL, BACK-TILTED SHADOWED WHITE ARROW, BLACK ARROW, BLACK CIRCLED WHITE
ARROW, BOTTOM-SHADED WHITE ARROW, COMPRESSED ARROW, DASHED ARROW, DOUBLE ARROW, DOUBLE ARROW FROM
BAR, DOUBLE ARROW WITH STROKE, DOUBLE ARROW WITH VERTICAL STROKE, DOUBLE ARROW-TAIL, DOUBLE DASH
ARROW, FINGER-POST ARROW, FRONT-TILTED SHADOWED WHITE ARROW, HAND, HARPOON OVER RIGHTWARDS
HARPOON, HARPOON WITH BARB DOWN ABOVE RIGHTWARDS HARPOON WITH BARB DOWN, HARPOON WITH BARB DOWN
BELOW LONG DASH, HARPOON WITH BARB DOWN FROM BAR, HARPOON WITH BARB DOWN TO BAR, HARPOON WITH BARB
DOWNWARDS, HARPOON WITH BARB UP ABOVE LEFTWARDS HARPOON WITH BARB DOWN, HARPOON WITH BARB UP ABOVE
LONG DASH, HARPOON WITH BARB UP ABOVE RIGHTWARDS HARPOON WITH BARB UP, HARPOON WITH BARB UP FROM
BAR, HARPOON WITH BARB UP TO BAR, HARPOON WITH BARB UPWARDS, HEAVY ARROW, HEAVY COMPRESSED ARROW,
LEFT-SHADED WHITE ARROW, OPEN-HEADED ARROW, PAIRED ARROWS, QUADRUPLE ARROW, RIGHT-SHADED WHITE
ARROW, ROCKET, SANS-SERIF ARROW, SQUARED ARROW, SQUIGGLE ARROW, TOP SHADED WHITE ARROW, TRIANGLE
ARROWHEAD, TRIANGLE-HEADED ARROW, TRIANGLE-HEADED ARROW OVER RIGHTWARDS TRIANGLE-HEADED ARROW,
TRIANGLE-HEADED ARROW TO BAR, TRIANGLE-HEADED ARROW WITH BOLD SHAFT, TRIANGLE-HEADED ARROW WITH
DOUBLE HORIZONTAL STROKE, TRIANGLE-HEADED ARROW WITH DOUBLE VERTICAL STROKE, TRIANGLE-HEADED ARROW
WITH HEAVY SHAFT, TRIANGLE-HEADED ARROW WITH LONG TIP DOWNWARDS, TRIANGLE-HEADED ARROW WITH LONG
TIP UPWARDS, TRIANGLE-HEADED ARROW WITH MEDIUM SHAFT, TRIANGLE-HEADED ARROW WITH NARROW SHAFT,
TRIANGLE-HEADED ARROW WITH VERY HEAVY SHAFT, TRIANGLE-HEADED DASHED ARROW, TRIANGLE-HEADED PAIRED
ARROWS, TRIPLE ARROW, TRIPLE DASH ARROW, TWO HEADED ARROW, TWO-HEADED ARROW FROM BAR, TWO-HEADED
ARROW WITH DOUBLE VERTICAL STROKE, TWO-HEADED ARROW WITH TAIL, TWO-HEADED ARROW WITH TAIL WITH
DOUBLE VERTICAL STROKE, TWO-HEADED ARROW WITH TAIL WITH VERTICAL STROKE, TWO-HEADED ARROW WITH
TRIANGLE ARROWHEADS, TWO-HEADED ARROW WITH VERTICAL STROKE, TWO-HEADED TRIPLE DASH ARROW, WAVE
ARROW, WHITE ARROW, WHITE ARROW WITHIN TRIANGLE ARROWHEAD;
LEPCHA CONSONANT SIGN: K, KANG, L, M, N, NYIN-DO, P, R, T;
LEPCHA DIGIT: EIGHT, FIVE, FOUR, NINE, ONE, SEVEN, SIX, THREE, TWO, ZERO;
LEPCHA LETTER: A, BA, BLA, CA, CHA, DA, DDA, DZA, FA, FLA, GA, GLA, HA, HLA, JA, KA, KHA, KLA, LA,
MA, MLA, NA, NGA, NYA, PA, PHA, PLA, RA, SA, SHA, TA, THA, TSA, TSHA, TTA, TTHA, VA, WA, YA;
LEPCHA PUNCTUATION: CER-WA, NYET THYOOM TA-ROL, TA-ROL, TSHOOK, TSHOOK CER-WA;
LEPCHA SIGN: NUKTA, RAN;
LEPCHA SUBJOINED LETTER: RA, YA;
LEPCHA VOWEL SIGN: AA, E, I, O, OO, U, UU;
LESS-THAN: ABOVE DOUBLE-LINE EQUAL ABOVE GREATER-THAN, ABOVE GREATER-THAN ABOVE DOUBLE-LINE EQUAL,
ABOVE LEFTWARDS ARROW, ABOVE SIMILAR ABOVE GREATER-THAN, ABOVE SIMILAR OR EQUAL, ABOVE SLANTED
EQUAL ABOVE GREATER-THAN ABOVE SLANTED EQUAL, AND NOT APPROXIMATE, AND SINGLE-LINE NOT EQUAL TO,
BUT NOT EQUAL TO, BUT NOT EQUIVALENT TO, CLOSED BY CURVE, CLOSED BY CURVE ABOVE SLANTED EQUAL,
EQUAL TO OR GREATER-THAN, OR APPROXIMATE, OR EQUAL TO, OR EQUIVALENT TO, OR GREATER-THAN, OR
SLANTED EQUAL TO, OR SLANTED EQUAL TO WITH DOT ABOVE, OR SLANTED EQUAL TO WITH DOT ABOVE RIGHT, OR
SLANTED EQUAL TO WITH DOT INSIDE, OVER EQUAL TO, SIGN, WITH CIRCLE INSIDE, WITH DOT, WITH QUESTION
MARK ABOVE;
LEVEL: SLIDER;
LIGATURE: OPEN ET ORNAMENT;
LIGHT: CHECK MARK, EIGHT SPOKED ASTERISK, FIVE POINTED BLACK STAR, FIVE SPOKED ASTERISK, FOUR
POINTED BLACK CUSP, FOUR POINTED BLACK STAR, GREEK CROSS, LEFT TORTOISE SHELL BRACKET ORNAMENT,
RAIL, RIGHT TORTOISE SHELL BRACKET ORNAMENT, SALTIRE, SHADE, SIX SPOKED ASTERISK, THREE POINTED
BLACK STAR, TWELVE POINTED BLACK STAR, VERTICAL BAR, WHITE SQUARE;
LIGHTNING: MOOD, MOOD BUBBLE;
LIMBU DIGIT: EIGHT, FIVE, FOUR, NINE, ONE, SEVEN, SIX, THREE, TWO, ZERO;
LIMBU EXCLAMATION: MARK;
LIMBU LETTER: BA, BHA, CA, CHA, DA, DHA, GA, GHA, GYAN, HA, JA, JHA, KA, KHA, LA, MA, NA, NGA, PA,
PHA, RA, SA, SHA, SSA, TA, THA, TRA, WA, YA, YAN;
LIMBU QUESTION: MARK;
LIMBU SIGN: KEMPHRENG, LOO, MUKPHRENG, SA-I;
LIMBU SMALL LETTER: ANUSVARA, KA, LA, MA, NA, NGA, PA, RA, TA;
LIMBU SUBJOINED LETTER: RA, WA, YA;
LIMBU VOWEL SIGN: A, AI, AU, E, EE, I, O, OO, U;
LIMBU VOWEL-CARRIER: LETTER;
LIMITED: LIABILITY SIGN;
LINE: FEED, INTEGRATION NOT INCLUDING THE POLE, INTEGRATION WITH RECTANGULAR PATH AROUND POLE,
INTEGRATION WITH SEMICIRCULAR PATH AROUND POLE, SEPARATOR, TABULATION, TABULATION SET;
LINEAR A SIGN: A028B, A100-102, A120B, A131C, A301, A302, A303, A304, A305, A306, A307, A308,
A309A, A309B, A309C, A310, A311, A312, A313A, A313B, A313C, A314, A315, A316, A317, A318, A319,
A320, A321, A322, A323, A324, A325, A326, A327, A328, A329, A330, A331, A332, A333, A334, A335,
A336, A337, A338, A339, A340, A341, A342, A343, A344, A345, A346, A347, A348, A349, A350, A351,
A352, A353, A354, A355, A356, A357, A358, A359, A360, A361, A362, A363, A364, A365, A366, A367,
A368, A369, A370, A371, A400-VAS, A401-VAS, A402-VAS, A403-VAS, A404-VAS, A405-VAS, A406-VAS,
A407-VAS, A408-VAS, A409-VAS, A410-VAS, A411-VAS, A412-VAS, A413-VAS, A414-VAS, A415-VAS,
A416-VAS, A417-VAS, A418-VAS, A501, A502, A503, A504, A505, A506, A508, A509, A510, A511, A512,
A513, A515, A516, A520, A521, A523, A524, A525, A526, A527, A528, A529, A530, A531, A532, A534,
A535, A536, A537, A538, A539, A540, A541, A542, A545, A547, A548, A549, A550, A551, A552, A553,
A554, A555, A556, A557, A559, A563, A564, A565, A566, A568, A569, A570, A571, A572, A573, A574,
A575, A576, A577, A578, A579, A580, A581, A582, A583, A584, A585, A586, A587, A588, A589, A591,
A592, A594, A595, A596, A598, A600, A601, A602, A603, A604, A606, A608, A609, A610, A611, A612,
A613, A614, A615, A616, A617, A618, A619, A620, A621, A622, A623, A624, A626, A627, A628, A629,
A634, A637, A638, A640, A642, A643, A644, A645, A646, A648, A649, A651, A652, A653, A654, A655,
A656, A657, A658, A659, A660, A661, A662, A663, A664, A701 A, A702 B, A703 D, A704 E, A705 F, A706
H, A707 J, A708 K, A709 L, A709-2 L2, A709-3 L3, A709-4 L4, A709-6 L6, A710 W, A711 X, A712 Y,
A713 OMEGA, A714 ABB, A715 BB, A717 DD, A726 EYYY, A732 JE, A800, A801, A802, A803, A804, A805,
A806, A807, AB001, AB002, AB003, AB004, AB005, AB006, AB007, AB008, AB009, AB010, AB011, AB013,
AB016, AB017, AB020, AB021, AB021F, AB021M, AB022, AB022F, AB022M, AB023, AB023M, AB024, AB026,
AB027, AB028, AB029, AB030, AB031, AB034, AB037, AB038, AB039, AB040, AB041, AB044, AB045, AB046,
AB047, AB048, AB049, AB050, AB051, AB053, AB054, AB055, AB056, AB057, AB058, AB059, AB060, AB061,
AB065, AB066, AB067, AB069, AB070, AB073, AB074, AB076, AB077, AB078, AB079, AB080, AB081, AB082,
AB085, AB086, AB087, AB118, AB120, AB122, AB123, AB131A, AB131B, AB164, AB171, AB180, AB188,
AB191;
LINEAR B IDEOGRAM: B100 MAN, B102 WOMAN, B104 DEER, B105 EQUID, B105F MARE, B105M STALLION, B106F
EWE, B106M RAM, B107F SHE-GOAT, B107M HE-GOAT, B108F SOW, B108M BOAR, B109F COW, B109M BULL, B120
WHEAT, B121 BARLEY, B122 OLIVE, B123 SPICE, B125 CYPERUS, B130 OIL, B131 WINE, B132, B140 BRONZE,
B141 GOLD, B142, B145 WOOL, B146, B150, B151 HORN, B152, B153, B154, B157, B158, B159 CLOTH, B160,
B161, B162 GARMENT, B163 ARMOUR, B164, B165, B166, B167, B168, B169, B170, B171, B172, B173 MONTH,
B174, B176 TREE, B177, B178, B179, B180, B181, B182, B183, B184, B185, B189, B190, B191 HELMET,
B220 FOOTSTOOL, B225 BATHTUB, B230 SPEAR, B231 ARROW, B232, B233 SWORD, B234, B236, B240 WHEELED
CHARIOT, B241 CHARIOT, B242 CHARIOT FRAME, B243 WHEEL, B245, B246, B248, B249, B251, B252, B253,
B254 DART, B255, B256, B257, B258, B259, VESSEL B155, VESSEL B200, VESSEL B201, VESSEL B202,
VESSEL B203, VESSEL B204, VESSEL B205, VESSEL B206, VESSEL B207, VESSEL B208, VESSEL B209, VESSEL
B210, VESSEL B211, VESSEL B212, VESSEL B213, VESSEL B214, VESSEL B215, VESSEL B216, VESSEL B217,
VESSEL B218, VESSEL B219, VESSEL B221, VESSEL B222, VESSEL B226, VESSEL B227, VESSEL B228, VESSEL
B229, VESSEL B250, VESSEL B305;
LINEAR B MONOGRAM: B127 KAPO, B128 KANAKO, B133 AREPA, B135 MERI, B156 TURO2, B247 DIPTE;
LINEAR B SYLLABLE: B001 DA, B002 RO, B003 PA, B004 TE, B005 TO, B006 NA, B007 DI, B008 A, B009 SE,
B010 U, B011 PO, B012 SO, B013 ME, B014 DO, B015 MO, B016 QA, B017 ZA, B020 ZO, B021 QI, B023 MU,
B024 NE, B025 A2, B026 RU, B027 RE, B028 I, B029 PU2, B030 NI, B031 SA, B032 QO, B033 RA3, B036
JO, B037 TI, B038 E, B039 PI, B040 WI, B041 SI, B042 WO, B043 A3, B044 KE, B045 DE, B046 JE, B048
NWA, B050 PU, B051 DU, B052 NO, B053 RI, B054 WA, B055 NU, B057 JA, B058 SU, B059 TA, B060 RA,
B061 O, B062 PTE, B065 JU, B066 TA2, B067 KI, B068 RO2, B069 TU, B070 KO, B071 DWE, B072 PE, B073
MI, B074 ZE, B075 WE, B076 RA2, B077 KA, B078 QE, B080 MA, B081 KU, B085 AU, B087 TWE, B090 DWO,
B091 TWO;
LINEAR B SYMBOL: B018, B019, B022, B034, B047, B049, B056, B063, B064, B079, B082, B083, B086,
B089;
LINK: SYMBOL;
LINKED: PAPERCLIPS;
LION: FACE;
LIRA: SIGN;
LISU LETTER: A, AE, BA, CA, CHA, DA, DZA, E, EU, FA, GA, GHA, HA, HHA, I, JA, KA, KHA, LA, MA, NA,
NGA, O, OE, PA, PHA, SA, SHA, TA, THA, TONE MYA BO, TONE MYA CYA, TONE MYA JEU, TONE MYA NA, TONE
MYA TI, TONE NA PO, TSA, TSHA, U, UE, UH, WA, XA, YA, YHA, ZA, ZHA;
LISU PUNCTUATION: COMMA, FULL STOP;
LIVRE: TOURNOIS SIGN;
LOCK: WITH INK PEN;
LOCKING-SHIFT: ONE, ZERO;
LOGICAL: AND, AND WITH DOT ABOVE, AND WITH DOUBLE OVERBAR, AND WITH DOUBLE UNDERBAR, AND WITH
HORIZONTAL DASH, AND WITH MIDDLE STEM, AND WITH UNDERBAR, OR, OR OVERLAPPING LOGICAL AND, OR WITH
DOT ABOVE, OR WITH DOUBLE OVERBAR, OR WITH DOUBLE UNDERBAR, OR WITH HORIZONTAL DASH, OR WITH
MIDDLE STEM;
LONG: DASH FROM LEFT MEMBER OF DOUBLE VERTICAL, DIVISION, DRUM, LEFT RIGHT ARROW, LEFT RIGHT
DOUBLE ARROW, LEFT TACK, LEFTWARDS ARROW, LEFTWARDS ARROW FROM BAR, LEFTWARDS DOUBLE ARROW,
LEFTWARDS DOUBLE ARROW FROM BAR, LEFTWARDS SQUIGGLE ARROW, RIGHT TACK, RIGHTWARDS ARROW,
RIGHTWARDS ARROW FROM BAR, RIGHTWARDS DOUBLE ARROW, RIGHTWARDS DOUBLE ARROW FROM BAR, RIGHTWARDS
SQUIGGLE ARROW;
LOTION: BOTTLE;
LOUDLY: CRYING FACE;
LOVE: HOTEL, LETTER;
LOW: ASTERISK, BATTERY, BRIGHTNESS SYMBOL, DOUBLE PRIME QUOTATION MARK, KAVYKA, KAVYKA WITH DOT,
LINE;
LOWER: BLADE SCISSORS, FIVE EIGHTHS BLOCK, HALF BLOCK, HALF CIRCLE, HALF INVERSE WHITE CIRCLE,
HALF MEDIUM SHADE, LEFT BALLPOINT PEN, LEFT BLOCK DIAGONAL LOWER MIDDLE LEFT TO LOWER CENTRE, LEFT
BLOCK DIAGONAL LOWER MIDDLE LEFT TO LOWER RIGHT, LEFT BLOCK DIAGONAL UPPER CENTRE TO LOWER MIDDLE
RIGHT, LEFT BLOCK DIAGONAL UPPER CENTRE TO LOWER RIGHT, LEFT BLOCK DIAGONAL UPPER CENTRE TO UPPER
MIDDLE RIGHT, LEFT BLOCK DIAGONAL UPPER LEFT TO LOWER CENTRE, LEFT BLOCK DIAGONAL UPPER LEFT TO
LOWER MIDDLE RIGHT, LEFT BLOCK DIAGONAL UPPER LEFT TO UPPER MIDDLE RIGHT, LEFT BLOCK DIAGONAL
UPPER MIDDLE LEFT TO LOWER CENTRE, LEFT BLOCK DIAGONAL UPPER MIDDLE LEFT TO LOWER MIDDLE RIGHT,
LEFT BLOCK DIAGONAL UPPER MIDDLE LEFT TO LOWER RIGHT, LEFT CRAYON, LEFT FOUNTAIN PEN, LEFT
PAINTBRUSH, LEFT PENCIL, LEFT QUADRANT CIRCULAR ARC, LEFT SEMICIRCULAR ANTICLOCKWISE ARROW, LEFT
TRIANGLE, LEFT TRIANGULAR MEDIUM SHADE, ONE EIGHTH BLOCK, ONE QUARTER BLOCK, RIGHT BLOCK DIAGONAL
LOWER CENTRE TO LOWER MIDDLE RIGHT, RIGHT BLOCK DIAGONAL LOWER CENTRE TO UPPER MIDDLE RIGHT, RIGHT
BLOCK DIAGONAL LOWER CENTRE TO UPPER RIGHT, RIGHT BLOCK DIAGONAL LOWER LEFT TO LOWER MIDDLE RIGHT,
RIGHT BLOCK DIAGONAL LOWER LEFT TO UPPER CENTRE, RIGHT BLOCK DIAGONAL LOWER LEFT TO UPPER MIDDLE
RIGHT, RIGHT BLOCK DIAGONAL LOWER MIDDLE LEFT TO UPPER CENTRE, RIGHT BLOCK DIAGONAL LOWER MIDDLE
LEFT TO UPPER MIDDLE RIGHT, RIGHT BLOCK DIAGONAL LOWER MIDDLE LEFT TO UPPER RIGHT, RIGHT BLOCK
DIAGONAL UPPER MIDDLE LEFT TO UPPER CENTRE, RIGHT BLOCK DIAGONAL UPPER MIDDLE LEFT TO UPPER RIGHT,
RIGHT CORNER WITH DOT, RIGHT DROP-SHADOWED WHITE SQUARE, RIGHT PENCIL, RIGHT QUADRANT CIRCULAR
ARC, RIGHT SEMICIRCULAR CLOCKWISE ARROW, RIGHT SHADOWED WHITE CIRCLE, RIGHT SHADOWED WHITE SQUARE,
RIGHT TRIANGLE, RIGHT TRIANGULAR MEDIUM SHADE, SEVEN EIGHTHS BLOCK, THREE EIGHTHS BLOCK, THREE
QUARTERS BLOCK, TRIANGULAR ONE QUARTER BLOCK;
LOZENGE: DIVIDED BY HORIZONTAL RULE;
LYCIAN LETTER: A, AN, B, BH, D, E, EN, G, H, I, J, K, KK, L, M, MM, N, NN, P, Q, R, S, T, TH, TT,
U, W, X, Z;
LYDIAN LETTER: A, AN, B, C, D, E, EN, F, G, I, K, L, LY, M, N, NN, O, Q, R, S, SS, T, TT, U, V, Y;
LYDIAN TRIANGULAR: MARK;
LYING: FACE;
MAGIC: WAND;
MAHAJANI ABBREVIATION: SIGN;
MAHAJANI LETTER: A, BA, BHA, CA, CHA, DA, DDA, DDHA, DHA, E, GA, GHA, HA, I, JA, JHA, KA, KHA, LA,
MA, NA, NNA, NYA, O, PA, PHA, RA, RRA, SA, TA, THA, TTA, TTHA, U, VA;
MAHAJANI LIGATURE: SHRI;
MAHAJANI SECTION: MARK;
MAHAJANI SIGN: NUKTA;
MAHJONG TILE: AUTUMN, BACK, BAMBOO, CHRYSANTHEMUM, EAST WIND, EIGHT OF BAMBOOS, EIGHT OF
CHARACTERS, EIGHT OF CIRCLES, FIVE OF BAMBOOS, FIVE OF CHARACTERS, FIVE OF CIRCLES, FOUR OF
BAMBOOS, FOUR OF CHARACTERS, FOUR OF CIRCLES, GREEN DRAGON, JOKER, NINE OF BAMBOOS, NINE OF
CHARACTERS, NINE OF CIRCLES, NORTH WIND, ONE OF BAMBOOS, ONE OF CHARACTERS, ONE OF CIRCLES,
ORCHID, PLUM, RED DRAGON, SEVEN OF BAMBOOS, SEVEN OF CHARACTERS, SEVEN OF CIRCLES, SIX OF BAMBOOS,
SIX OF CHARACTERS, SIX OF CIRCLES, SOUTH WIND, SPRING, SUMMER, THREE OF BAMBOOS, THREE OF
CHARACTERS, THREE OF CIRCLES, TWO OF BAMBOOS, TWO OF CHARACTERS, TWO OF CIRCLES, WEST WIND, WHITE
DRAGON, WINTER;
MAKASAR: ANGKA, PASSIMBANG;
MAKASAR END: OF SECTION;
MAKASAR LETTER: A, BA, CA, DA, GA, JA, KA, LA, MA, NA, NGA, NYA, PA, RA, SA, TA, VA, YA;
MAKASAR VOWEL SIGN: E, I, O, U;
MALAYALAM AU: LENGTH MARK;
MALAYALAM DATE: MARK;
MALAYALAM DIGIT: EIGHT, FIVE, FOUR, NINE, ONE, SEVEN, SIX, THREE, TWO, ZERO;
MALAYALAM FRACTION ONE: EIGHTH, FIFTH, FORTIETH, HALF, ONE-HUNDRED-AND-SIXTIETH, QUARTER,
SIXTEENTH, TENTH, TWENTIETH;
MALAYALAM FRACTION THREE: EIGHTIETHS, QUARTERS, SIXTEENTHS, TWENTIETHS;
MALAYALAM LETTER: A, AA, AI, ARCHAIC II, AU, BA, BHA, CA, CHA, CHILLU K, CHILLU L, CHILLU LL,
CHILLU LLL, CHILLU M, CHILLU N, CHILLU NN, CHILLU RR, CHILLU Y, DA, DDA, DDHA, DHA, DOT REPH, E,
EE, GA, GHA, HA, I, II, JA, JHA, KA, KHA, LA, LLA, LLLA, MA, NA, NGA, NNA, NNNA, NYA, O, OO, PA,
PHA, RA, RRA, SA, SHA, SSA, TA, THA, TTA, TTHA, TTTA, U, UU, VA, VEDIC ANUSVARA, VOCALIC L,
VOCALIC LL, VOCALIC R, VOCALIC RR, YA;
MALAYALAM NUMBER: ONE HUNDRED, ONE THOUSAND, TEN;
MALAYALAM SIGN: ANUSVARA, AVAGRAHA, CANDRABINDU, CIRCULAR VIRAMA, COMBINING ANUSVARA ABOVE, PARA,
VERTICAL BAR VIRAMA, VIRAMA, VISARGA;
MALAYALAM VOWEL SIGN: AA, AI, AU, E, EE, I, II, O, OO, U, UU, VOCALIC L, VOCALIC LL, VOCALIC R,
VOCALIC RR;
MALE: AND FEMALE SIGN, SIGN, WITH STROKE AND MALE AND FEMALE SIGN, WITH STROKE SIGN;
MALTESE: CROSS;
MAN: AND WOMAN HOLDING HANDS, DANCING, IN BUSINESS SUIT LEVITATING, IN TUXEDO, WITH GUA PI MAO,
WITH TURBAN;
MANAT: SIGN;
MANDAIC: PUNCTUATION;
MANDAIC AFFRICATION: MARK;
MANDAIC GEMINATION: MARK;
MANDAIC LETTER: AB, AD, AG, AH, AIN, AK, AKSA, AL, AM, AN, AP, AQ, AR, AS, ASH, ASZ, AT, ATT, AZ,
DUSHENNA, HALQA, IN, IT, KAD, USHENNA;
MANDAIC VOCALIZATION: MARK;
MANICHAEAN ABBREVIATION MARK: ABOVE, BELOW;
MANICHAEAN LETTER: AAYIN, ALEPH, AYIN, BETH, BHETH, DALETH, DHAMEDH, FE, GHIMEL, GIMEL, HE, HETH,
JAYIN, JHAYIN, KAPH, KHAPH, LAMEDH, MEM, NUN, PE, QHOPH, QOPH, RESH, SADHE, SAMEKH, SHIN, SSHIN,
TAW, TETH, THAMEDH, WAW, XAPH, XOPH, YODH, ZAYIN, ZHAYIN;
MANICHAEAN NUMBER: FIVE, ONE, ONE HUNDRED, TEN, TWENTY;
MANICHAEAN PUNCTUATION: DOT, DOT WITHIN DOT, DOUBLE DOT WITHIN DOT, FLEURON, LINE FILLER, STAR,
TWO DOTS;
MANICHAEAN SIGN: UD;
MANS: SHOE;
MANTELPIECE: CLOCK;
MANUAL: WHEELCHAIR;
MAP: SYMBOL FOR LIGHTHOUSE;
MAPLE: LEAF;
MARCHEN HEAD: MARK;
MARCHEN LETTER: -A, A, BA, CA, CHA, DA, DZA, GA, HA, JA, KA, KHA, LA, MA, NA, NGA, NYA, PA, PHA,
RA, SA, SHA, TA, THA, TSA, TSHA, WA, YA, ZA, ZHA;
MARCHEN MARK: SHAD;
MARCHEN SIGN: ANUSVARA, CANDRABINDU;
MARCHEN SUBJOINED LETTER: A, BA, CA, CHA, DA, DZA, GA, HA, JA, KA, KHA, LA, MA, NA, NGA, NYA, PA,
PHA, RA, SA, SHA, TA, THA, TSA, TSHA, WA, YA, ZA, ZHA;
MARCHEN VOWEL SIGN: AA, E, I, O, U;
MARRIAGE: SYMBOL;
MARTIAL: ARTS UNIFORM;
MASARAM GONDI: RA-KARA, REPHA, VIRAMA;
MASARAM GONDI DIGIT: EIGHT, FIVE, FOUR, NINE, ONE, SEVEN, SIX, THREE, TWO, ZERO;
MASARAM GONDI LETTER: A, AA, AI, AU, BA, BHA, CA, CHA, DA, DDA, DDHA, DHA, E, GA, GHA, HA, I, II,
JA, JHA, JNYA, KA, KHA, KSSA, LA, LLA, MA, NA, NGA, NNA, NYA, O, PA, PHA, RA, SA, SHA, SSA, TA,
THA, TRA, TTA, TTHA, U, UU, VA, YA;
MASARAM GONDI SIGN: ANUSVARA, CANDRA, HALANTA, NUKTA, VISARGA;
MASARAM GONDI VOWEL SIGN: AA, AI, AU, E, I, II, O, U, UU, VOCALIC R;
MASCULINE: ORDINAL INDICATOR;
MASK: WORK SYMBOL;
MASU: MARK;
MATE: DRINK;
MATHEMATICAL BOLD: NABLA;
MATHEMATICAL BOLD CAPITAL: A, ALPHA, B, BETA, C, CHI, D, DELTA, DIGAMMA, E, EPSILON, ETA, F, G,
GAMMA, H, I, IOTA, J, K, KAPPA, L, LAMDA, M, MU, N, NU, O, OMEGA, OMICRON, P, PHI, PI, PSI, Q, R,
RHO, S, SIGMA, T, TAU, THETA, THETA SYMBOL, U, UPSILON, V, W, X, XI, Y, Z, ZETA;
MATHEMATICAL BOLD DIGIT: EIGHT, FIVE, FOUR, NINE, ONE, SEVEN, SIX, THREE, TWO, ZERO;
MATHEMATICAL BOLD EPSILON: SYMBOL;
MATHEMATICAL BOLD FRAKTUR CAPITAL: A, B, C, D, E, F, G, H, I, J, K, L, M, N, O, P, Q, R, S, T, U,
V, W, X, Y, Z;
MATHEMATICAL BOLD FRAKTUR SMALL: A, B, C, D, E, F, G, H, I, J, K, L, M, N, O, P, Q, R, S, T, U, V,
W, X, Y, Z;
MATHEMATICAL BOLD ITALIC: NABLA;
MATHEMATICAL BOLD ITALIC CAPITAL: A, ALPHA, B, BETA, C, CHI, D, DELTA, E, EPSILON, ETA, F, G,
GAMMA, H, I, IOTA, J, K, KAPPA, L, LAMDA, M, MU, N, NU, O, OMEGA, OMICRON, P, PHI, PI, PSI, Q, R,
RHO, S, SIGMA, T, TAU, THETA, THETA SYMBOL, U, UPSILON, V, W, X, XI, Y, Z, ZETA;
MATHEMATICAL BOLD ITALIC EPSILON: SYMBOL;
MATHEMATICAL BOLD ITALIC KAPPA: SYMBOL;
MATHEMATICAL BOLD ITALIC PARTIAL: DIFFERENTIAL;
MATHEMATICAL BOLD ITALIC PHI: SYMBOL;
MATHEMATICAL BOLD ITALIC PI: SYMBOL;
MATHEMATICAL BOLD ITALIC RHO: SYMBOL;
MATHEMATICAL BOLD ITALIC SMALL: A, ALPHA, B, BETA, C, CHI, D, DELTA, E, EPSILON, ETA, F, FINAL
SIGMA, G, GAMMA, H, I, IOTA, J, K, KAPPA, L, LAMDA, M, MU, N, NU, O, OMEGA, OMICRON, P, PHI, PI,
PSI, Q, R, RHO, S, SIGMA, T, TAU, THETA, U, UPSILON, V, W, X, XI, Y, Z, ZETA;
MATHEMATICAL BOLD ITALIC THETA: SYMBOL;
MATHEMATICAL BOLD KAPPA: SYMBOL;
MATHEMATICAL BOLD PARTIAL: DIFFERENTIAL;
MATHEMATICAL BOLD PHI: SYMBOL;
MATHEMATICAL BOLD PI: SYMBOL;
MATHEMATICAL BOLD RHO: SYMBOL;
MATHEMATICAL BOLD SCRIPT CAPITAL: A, B, C, D, E, F, G, H, I, J, K, L, M, N, O, P, Q, R, S, T, U,
V, W, X, Y, Z;
MATHEMATICAL BOLD SCRIPT SMALL: A, B, C, D, E, F, G, H, I, J, K, L, M, N, O, P, Q, R, S, T, U, V,
W, X, Y, Z;
MATHEMATICAL BOLD SMALL: A, ALPHA, B, BETA, C, CHI, D, DELTA, DIGAMMA, E, EPSILON, ETA, F, FINAL
SIGMA, G, GAMMA, H, I, IOTA, J, K, KAPPA, L, LAMDA, M, MU, N, NU, O, OMEGA, OMICRON, P, PHI, PI,
PSI, Q, R, RHO, S, SIGMA, T, TAU, THETA, U, UPSILON, V, W, X, XI, Y, Z, ZETA;
MATHEMATICAL BOLD THETA: SYMBOL;
MATHEMATICAL DOUBLE-STRUCK CAPITAL: A, B, D, E, F, G, I, J, K, L, M, O, S, T, U, V, W, X, Y;
MATHEMATICAL DOUBLE-STRUCK DIGIT: EIGHT, FIVE, FOUR, NINE, ONE, SEVEN, SIX, THREE, TWO, ZERO;
MATHEMATICAL DOUBLE-STRUCK SMALL: A, B, C, D, E, F, G, H, I, J, K, L, M, N, O, P, Q, R, S, T, U,
V, W, X, Y, Z;
MATHEMATICAL FALLING: DIAGONAL;
MATHEMATICAL FRAKTUR CAPITAL: A, B, D, E, F, G, J, K, L, M, N, O, P, Q, S, T, U, V, W, X, Y;
MATHEMATICAL FRAKTUR SMALL: A, B, C, D, E, F, G, H, I, J, K, L, M, N, O, P, Q, R, S, T, U, V, W,
X, Y, Z;
MATHEMATICAL ITALIC: NABLA;
MATHEMATICAL ITALIC CAPITAL: A, ALPHA, B, BETA, C, CHI, D, DELTA, E, EPSILON, ETA, F, G, GAMMA, H,
I, IOTA, J, K, KAPPA, L, LAMDA, M, MU, N, NU, O, OMEGA, OMICRON, P, PHI, PI, PSI, Q, R, RHO, S,
SIGMA, T, TAU, THETA, THETA SYMBOL, U, UPSILON, V, W, X, XI, Y, Z, ZETA;
MATHEMATICAL ITALIC EPSILON: SYMBOL;
MATHEMATICAL ITALIC KAPPA: SYMBOL;
MATHEMATICAL ITALIC PARTIAL: DIFFERENTIAL;
MATHEMATICAL ITALIC PHI: SYMBOL;
MATHEMATICAL ITALIC PI: SYMBOL;
MATHEMATICAL ITALIC RHO: SYMBOL;
MATHEMATICAL ITALIC SMALL: A, ALPHA, B, BETA, C, CHI, D, DELTA, DOTLESS I, DOTLESS J, E, EPSILON,
ETA, F, FINAL SIGMA, G, GAMMA, I, IOTA, J, K, KAPPA, L, LAMDA, M, MU, N, NU, O, OMEGA, OMICRON, P,
PHI, PI, PSI, Q, R, RHO, S, SIGMA, T, TAU, THETA, U, UPSILON, V, W, X, XI, Y, Z, ZETA;
MATHEMATICAL ITALIC THETA: SYMBOL;
MATHEMATICAL LEFT: ANGLE BRACKET, DOUBLE ANGLE BRACKET, FLATTENED PARENTHESIS, WHITE SQUARE
BRACKET, WHITE TORTOISE SHELL BRACKET;
MATHEMATICAL MONOSPACE CAPITAL: A, B, C, D, E, F, G, H, I, J, K, L, M, N, O, P, Q, R, S, T, U, V,
W, X, Y, Z;
MATHEMATICAL MONOSPACE DIGIT: EIGHT, FIVE, FOUR, NINE, ONE, SEVEN, SIX, THREE, TWO, ZERO;
MATHEMATICAL MONOSPACE SMALL: A, B, C, D, E, F, G, H, I, J, K, L, M, N, O, P, Q, R, S, T, U, V, W,
X, Y, Z;
MATHEMATICAL RIGHT: ANGLE BRACKET, DOUBLE ANGLE BRACKET, FLATTENED PARENTHESIS, WHITE SQUARE
BRACKET, WHITE TORTOISE SHELL BRACKET;
MATHEMATICAL RISING: DIAGONAL;
MATHEMATICAL SANS-SERIF BOLD: NABLA;
MATHEMATICAL SANS-SERIF BOLD CAPITAL: A, ALPHA, B, BETA, C, CHI, D, DELTA, E, EPSILON, ETA, F, G,
GAMMA, H, I, IOTA, J, K, KAPPA, L, LAMDA, M, MU, N, NU, O, OMEGA, OMICRON, P, PHI, PI, PSI, Q, R,
RHO, S, SIGMA, T, TAU, THETA, THETA SYMBOL, U, UPSILON, V, W, X, XI, Y, Z, ZETA;
MATHEMATICAL SANS-SERIF BOLD DIGIT: EIGHT, FIVE, FOUR, NINE, ONE, SEVEN, SIX, THREE, TWO, ZERO;
MATHEMATICAL SANS-SERIF BOLD EPSILON: SYMBOL;
MATHEMATICAL SANS-SERIF BOLD ITALIC: NABLA;
MATHEMATICAL SANS-SERIF BOLD ITALIC CAPITAL: A, ALPHA, B, BETA, C, CHI, D, DELTA, E, EPSILON, ETA,
F, G, GAMMA, H, I, IOTA, J, K, KAPPA, L, LAMDA, M, MU, N, NU, O, OMEGA, OMICRON, P, PHI, PI, PSI,
Q, R, RHO, S, SIGMA, T, TAU, THETA, THETA SYMBOL, U, UPSILON, V, W, X, XI, Y, Z, ZETA;
MATHEMATICAL SANS-SERIF BOLD ITALIC EPSILON: SYMBOL;
MATHEMATICAL SANS-SERIF BOLD ITALIC KAPPA: SYMBOL;
MATHEMATICAL SANS-SERIF BOLD ITALIC PARTIAL: DIFFERENTIAL;
MATHEMATICAL SANS-SERIF BOLD ITALIC PHI: SYMBOL;
MATHEMATICAL SANS-SERIF BOLD ITALIC PI: SYMBOL;
MATHEMATICAL SANS-SERIF BOLD ITALIC RHO: SYMBOL;
MATHEMATICAL SANS-SERIF BOLD ITALIC SMALL: A, ALPHA, B, BETA, C, CHI, D, DELTA, E, EPSILON, ETA,
F, FINAL SIGMA, G, GAMMA, H, I, IOTA, J, K, KAPPA, L, LAMDA, M, MU, N, NU, O, OMEGA, OMICRON, P,
PHI, PI, PSI, Q, R, RHO, S, SIGMA, T, TAU, THETA, U, UPSILON, V, W, X, XI, Y, Z, ZETA;
MATHEMATICAL SANS-SERIF BOLD ITALIC THETA: SYMBOL;
MATHEMATICAL SANS-SERIF BOLD KAPPA: SYMBOL;
MATHEMATICAL SANS-SERIF BOLD PARTIAL: DIFFERENTIAL;
MATHEMATICAL SANS-SERIF BOLD PHI: SYMBOL;
MATHEMATICAL SANS-SERIF BOLD PI: SYMBOL;
MATHEMATICAL SANS-SERIF BOLD RHO: SYMBOL;
MATHEMATICAL SANS-SERIF BOLD SMALL: A, ALPHA, B, BETA, C, CHI, D, DELTA, E, EPSILON, ETA, F, FINAL
SIGMA, G, GAMMA, H, I, IOTA, J, K, KAPPA, L, LAMDA, M, MU, N, NU, O, OMEGA, OMICRON, P, PHI, PI,
PSI, Q, R, RHO, S, SIGMA, T, TAU, THETA, U, UPSILON, V, W, X, XI, Y, Z, ZETA;
MATHEMATICAL SANS-SERIF BOLD THETA: SYMBOL;
MATHEMATICAL SANS-SERIF CAPITAL: A, B, C, D, E, F, G, H, I, J, K, L, M, N, O, P, Q, R, S, T, U, V,
W, X, Y, Z;
MATHEMATICAL SANS-SERIF DIGIT: EIGHT, FIVE, FOUR, NINE, ONE, SEVEN, SIX, THREE, TWO, ZERO;
MATHEMATICAL SANS-SERIF ITALIC CAPITAL: A, B, C, D, E, F, G, H, I, J, K, L, M, N, O, P, Q, R, S,
T, U, V, W, X, Y, Z;
MATHEMATICAL SANS-SERIF ITALIC SMALL: A, B, C, D, E, F, G, H, I, J, K, L, M, N, O, P, Q, R, S, T,
U, V, W, X, Y, Z;
MATHEMATICAL SANS-SERIF SMALL: A, B, C, D, E, F, G, H, I, J, K, L, M, N, O, P, Q, R, S, T, U, V,
W, X, Y, Z;
MATHEMATICAL SCRIPT CAPITAL: A, C, D, G, J, K, N, O, P, Q, S, T, U, V, W, X, Y, Z;
MATHEMATICAL SCRIPT SMALL: A, B, C, D, F, H, I, J, K, L, M, N, P, Q, R, S, T, U, V, W, X, Y, Z;
MAYAN NUMERAL: EIGHT, EIGHTEEN, ELEVEN, FIFTEEN, FIVE, FOUR, FOURTEEN, NINE, NINETEEN, ONE, SEVEN,
SEVENTEEN, SIX, SIXTEEN, TEN, THIRTEEN, THREE, TWELVE, TWO, ZERO;
MEASURED: ANGLE, BY;
MEASURED ANGLE OPENING: LEFT;
MEASURED ANGLE WITH OPEN ARM ENDING IN ARROW POINTING: DOWN AND LEFT, DOWN AND RIGHT, LEFT AND
DOWN, LEFT AND UP, RIGHT AND DOWN, RIGHT AND UP, UP AND LEFT, UP AND RIGHT;
MEASURED RIGHT: ANGLE WITH DOT;
MEAT: ON BONE;
MECHANICAL: ARM, LEG;
MEDEFAIDRIN: COMMA;
MEDEFAIDRIN CAPITAL LETTER: A, AI, ATIU, B, C, D, E, F, G, H, HP, I, J, K, KP, L, M, N, NG, NY, O,
OE, P, Q, R, S, T, U, V, W, X, Y, YU, Z;
MEDEFAIDRIN DIGIT: EIGHT, FIVE, FOUR, NINE, ONE, ONE ALTERNATE FORM, SEVEN, SIX, THREE, THREE
ALTERNATE FORM, TWO, TWO ALTERNATE FORM, ZERO;
MEDEFAIDRIN EXCLAMATION: OH;
MEDEFAIDRIN FULL: STOP;
MEDEFAIDRIN NUMBER: EIGHTEEN, ELEVEN, FIFTEEN, FOURTEEN, NINETEEN, SEVENTEEN, SIXTEEN, TEN,
THIRTEEN, TWELVE;
MEDEFAIDRIN SMALL LETTER: A, AI, ATIU, B, C, D, E, F, G, H, HP, I, J, K, KP, L, M, N, NG, NY, O,
OE, P, Q, R, S, T, U, V, W, X, Y, YU, Z;
MEDEFAIDRIN SYMBOL: AIVA;
MEDIEVAL: COMMA, EXCLAMATION MARK, QUESTION MARK;
MEDIUM: BLACK CIRCLE, BOLD WHITE CIRCLE, EIGHT POINTED BLACK STAR, EIGHT SPOKED ASTERISK, FIVE
SPOKED ASTERISK, FLATTENED LEFT PARENTHESIS ORNAMENT, FLATTENED RIGHT PARENTHESIS ORNAMENT, FOUR
POINTED BLACK STAR, FOUR POINTED PINWHEEL STAR, GREEK CROSS, LEFT CURLY BRACKET ORNAMENT, LEFT
PARENTHESIS ORNAMENT, LEFT-POINTING ANGLE BRACKET ORNAMENT, MATHEMATICAL SPACE, RIGHT CURLY
BRACKET ORNAMENT, RIGHT PARENTHESIS ORNAMENT, RIGHT-POINTING ANGLE BRACKET ORNAMENT, SALTIRE,
SHADE, SIX POINTED BLACK STAR, SIX SPOKED ASTERISK, SMALL WHITE CIRCLE, THREE POINTED BLACK STAR,
THREE POINTED PINWHEEL STAR, VERTICAL BAR, WHITE CIRCLE, WHITE SQUARE;
MEETEI MAYEK: ANJI, CHEIKHAN, CHEIKHEI, VIRAMA;
MEETEI MAYEK AHANG: KHUDAM;
MEETEI MAYEK APUN: IYEK;
MEETEI MAYEK DIGIT: EIGHT, FIVE, FOUR, NINE, ONE, SEVEN, SIX, THREE, TWO, ZERO;
MEETEI MAYEK LETTER: ATIYA, BA, BHAM, CHA, CHIL, DDA, DDHA, DHOU, DIL, E, GHOU, GOK, HUK, I, I
LONSUM, JHAM, JIL, KHOU, KOK, KOK LONSUM, LAI, LAI LONSUM, MIT, MIT LONSUM, NA, NA LONSUM, NGOU,
NGOU LONSUM, NNA, NYA, O, PA, PA LONSUM, PHAM, RAI, SAM, SHA, SSA, THOU, TIL, TIL LONSUM, TTA,
TTHA, UN, WAI, YANG;
MEETEI MAYEK LUM: IYEK;
MEETEI MAYEK SYLLABLE: REPETITION MARK;
MEETEI MAYEK VOWEL SIGN: AAI, AAU, ANAP, AU, CHEINAP, II, INAP, NUNG, ONAP, SOUNAP, UNAP, UU,
VISARGA, YENAP;
MEETEI MAYEK WORD: REPETITION MARK;
MELTING: FACE;
MENDE KIKAKUI COMBINING NUMBER: HUNDRED THOUSANDS, HUNDREDS, MILLIONS, TEENS, TEN THOUSANDS, TENS,
THOUSANDS;
MENDE KIKAKUI DIGIT: EIGHT, FIVE, FOUR, NINE, ONE, SEVEN, SIX, THREE, TWO;
MENDE KIKAKUI SYLLABLE: M001 KI, M002 KA, M003 KU, M004 WI, M005 WA, M006 WU, M007 MIN, M008 MAN,
M009 MUN, M010 BI, M011 BA, M012 BU, M013 I, M014 A, M015 U, M016 DI, M017 DA, M018 DU, M019 SI,
M020 SA, M021 SU, M022 TI, M023 TA, M024 TU, M025 LI, M026 LA, M027 LU, M028 JI, M029 JA, M030 JU,
M031 YI, M032 YA, M033 YU, M034 FI, M035 FA, M036 FU, M037 NIN, M038 NAN, M039 NUN, M040 HEE, M041
HA, M042 HOO, M043 NGGA, M044 KPEE, M045 WO, M046 HUAN, M047 MBEE, M048 KO, M049 WVA, M050 PU,
M051 PE, M052 HEN, M053 HIN, M054 LOO, M055 TE, M056 GBA, M057 NGON, M058 NYAN, M059 MEN, M060
NYON, M061 WVI, M062 MBA, M063 JO, M064 NDO, M065 KEE, M066 PO, M067 NDOO, M068 PI, M069 TO, M070
GBO, M071 GBOO, M072 MBE, M073 LE, M074 KPU, M075 FE, M076 KOO, M077 VO, M078 FEE, M079 SO, M080
YE, M081 PEE, M082 NGGU, M083 HEEI, M084 LEE, M085 VE, M086 LONG NGGE, M087 HUN, M088 FO, M089
DEE, M090 NGGI, M091 TEE, M092 KPA, M093 GBEE, M094 MON, M095 KE, M096 HE, M097 BE, M098 NYEN,
M099 PA, M100 E, M101 FAN, M102 POO, M103 BOO, M104 TOO, M105 LONG MBOO, M106 LONG NGGOO, M107
GBE, M108 KPE, M109 YEE, M110 LONG LE, M111 GA, M112 KPOO, M113 JE, M114 WOO, M115 NGGEE, M116 SE,
M117 NEN, M118 WE, M119 NDE, M120 NGGO, M121 YO, M122 MBU, M123 NDI, M124 GBI, M125 NDU, M126 WEE,
M127 NGGUA, M128 HOOU, M129 NDA, M130 HAN, M131 IN, M132 KPI, M133 FOO, M134 NJOO, M135 IN, M136
SOO, M137 EI, M138 BO, M139 WVE, M140 HO, M141 YOO, M142 LONG MBO, M143 WEI, M144 VOO, M145 MBI,
M146 NGGE, M147 O, M148 GBU, M149 NJEE, M150 BEE, M151 VU, M152 NJA, M153 LO, M154 MUAN, M155 GI,
M156 NGGOO, M157 JEE, M158 KPO, M159 NGGAA, M160 JOO, M161 LONG MBE, M162 SEE, M163 EE, M164 NYIN,
M165 OO, M166 GUEI, M167 GUAN, M168 GU, M169 NON, M170 NYUN, M171 RA, M172 MBOO, M173 VEE, M174
MBO, M175 LONG JO, M176 HI, M177 NGUAN, M178 EN, M179 KUA, M180 DOO, M181 DO, M182 VI, M183 LONG
NGGO, M184 NGEN, M185 VA, M186 HU, M187 MBUU, M188 MBEE, M189 MUEN, M190 GEE, M191 NDEE, M192 NJU,
M193 HON, M194 WUI, M195 AN, M196 SIA, M197 FUA;
MENORAH: WITH NINE BRANCHES;
MENS: SYMBOL;
MEROITIC CURSIVE FRACTION: EIGHT TWELFTHS, ELEVEN TWELFTHS, FIVE TWELFTHS, FOUR TWELFTHS, NINE
TWELFTHS, ONE HALF, ONE TWELFTH, SEVEN TWELFTHS, SIX TWELFTHS, TEN TWELFTHS, THREE TWELFTHS, TWO
TWELFTHS;
MEROITIC CURSIVE LETTER: A, ARCHAIC SA, BA, DA, E, HHA, I, KA, KHA, LA, MA, NA, NE, O, PA, QA, RA,
SA, SE, TA, TE, TO, WA, YA;
MEROITIC CURSIVE LOGOGRAM: IMN, RMT;
MEROITIC CURSIVE NUMBER: EIGHT, EIGHT HUNDRED, EIGHT HUNDRED THOUSAND, EIGHT THOUSAND, EIGHTY
THOUSAND, FIFTY, FIFTY THOUSAND, FIVE, FIVE HUNDRED, FIVE HUNDRED THOUSAND, FIVE THOUSAND, FORTY,
FORTY THOUSAND, FOUR, FOUR HUNDRED, FOUR HUNDRED THOUSAND, FOUR THOUSAND, NINE, NINE HUNDRED, NINE
HUNDRED THOUSAND, NINE THOUSAND, NINETY THOUSAND, ONE, ONE HUNDRED, ONE HUNDRED THOUSAND, ONE
THOUSAND, SEVEN, SEVEN HUNDRED, SEVEN HUNDRED THOUSAND, SEVEN THOUSAND, SEVENTY, SEVENTY THOUSAND,
SIX, SIX HUNDRED, SIX HUNDRED THOUSAND, SIX THOUSAND, SIXTY, SIXTY THOUSAND, TEN, TEN THOUSAND,
THIRTY, THIRTY THOUSAND, THREE, THREE HUNDRED, THREE HUNDRED THOUSAND, THREE THOUSAND, TWENTY,
TWENTY THOUSAND, TWO, TWO HUNDRED, TWO HUNDRED THOUSAND, TWO THOUSAND;
MEROITIC HIEROGLYPHIC LETTER: A, BA, BA-2, DA, E, HHA, I, KA, KHA, LA, MA, NA, NA-2, NE, NE-2, O,
PA, QA, RA, RA-2, SA, SA-2, SE, TA, TA-2, TE, TE-2, TO, WA, YA;
MEROITIC HIEROGLYPHIC SYMBOL: VIDJ, VIDJ-2;
MESSAGE: WAITING;
METRICAL: BREVE, LONG OVER SHORT, LONG OVER TWO SHORTS, PENTASEME, SHORT OVER LONG, TETRASEME,
TRISEME, TWO SHORTS JOINED, TWO SHORTS OVER LONG;
MIAO LETTER: AH, ARCHAIC MA, ARCHAIC NA, ARCHAIC NGA, ARCHAIC ZZA, BA, BRI, DA, DDA, DLHA, DLHYA,
DZA, DZHA, DZYI, DZZA, FA, GA, GHA, GHHA, HA, HHA, KA, LA, LHA, LHYA, LYA, MA, MHA, NA,
NASALIZATION, NGA, NGHA, NHA, NNA, NNHA, NYA, NYHA, PA, PLA, QA, QGA, REFORMED TONE-1, REFORMED
TONE-2, REFORMED TONE-4, REFORMED TONE-5, REFORMED TONE-6, REFORMED TONE-8, REFORMED TSHA, RTE,
SA, SHA, SSA, SYI, TA, TE, TLHA, TLHYA, TONE-2, TONE-3, TONE-4, TONE-5, TONE-6, TONE-7, TONE-8,
TSA, TSE, TSHA, TSSA, TTA, VA, VFA, WA, XA, YI DZHA, YI KA, YI NNA, YI PA, YI TA, YI TSA, YI TSHA,
YI TTA, ZA, ZHA, ZSA, ZSHA, ZZA, ZZSA, ZZSYA, ZZYA;
MIAO SIGN: ASPIRATION, CONSONANT MODIFIER BAR, REFORMED ASPIRATION, REFORMED VOICING;
MIAO TONE: ABOVE, BELOW, RIGHT, TOP RIGHT;
MIAO VOWEL SIGN: A, AA, AE, AEE, AHH, AI, AN, ANG, AU, E, EA, EI, EN, ENG, ER, ERR, I, IA, IAN,
IANG, IE, IG, II, ING, IO, IONG, IU, N, NG, O, OER, OEY, OG, OO, OU, ROUNDED ER, ROUNDED ERR, U,
UA, UAN, UANG, UEI, UI, UNG, UOG, UU, VW, W, WO, Y, YI, YUI;
MICR: DASH SYMBOL, ON US SYMBOL;
MICRO: SIGN;
MIDDLE: DOT, THIRD WHITE RIGHT POINTING INDEX;
MIDLINE: HORIZONTAL ELLIPSIS;
MILITARY: HELMET, MEDAL;
MILKY: WAY;
MILL: SIGN;
MINUS: SIGN, SIGN IN TRIANGLE, SIGN WITH COMMA ABOVE, SIGN WITH DOT BELOW, SIGN WITH FALLING DOTS,
SIGN WITH RISING DOTS, TILDE;
MINUS-OR-PLUS: SIGN;
MIRROR: BALL;
MOBILE: PHONE, PHONE OFF, PHONE WITH RIGHTWARDS ARROW AT LEFT;
MODERN: PENTATHLON;
MODI: DANDA;
MODI ABBREVIATION: SIGN;
MODI DIGIT: EIGHT, FIVE, FOUR, NINE, ONE, SEVEN, SIX, THREE, TWO, ZERO;
MODI DOUBLE: DANDA;
MODI LETTER: A, AA, AI, AU, BA, BHA, CA, CHA, DA, DDA, DDHA, DHA, E, GA, GHA, HA, I, II, JA, JHA,
KA, KHA, LA, LLA, MA, NA, NGA, NNA, NYA, O, PA, PHA, RA, SA, SHA, SSA, TA, THA, TTA, TTHA, U, UU,
VA, VOCALIC L, VOCALIC LL, VOCALIC R, VOCALIC RR, YA;
MODI SIGN: ANUSVARA, ARDHACANDRA, HUVA, VIRAMA, VISARGA;
MODI VOWEL SIGN: AA, AI, AU, E, I, II, O, U, UU, VOCALIC L, VOCALIC LL, VOCALIC R, VOCALIC RR;
MODIFIER BREVE: WITH INVERTED BREVE;
MODIFIER LETTER: ACUTE ACCENT, ALVEOLAR CLICK, APOSTROPHE, BEGIN HIGH TONE, BEGIN LOW TONE,
BILABIAL CLICK, CAPITAL A, CAPITAL AE, CAPITAL B, CAPITAL BARRED B, CAPITAL C, CAPITAL D, CAPITAL
E, CAPITAL F, CAPITAL G, CAPITAL H, CAPITAL H WITH STROKE, CAPITAL I, CAPITAL J, CAPITAL K,
CAPITAL L, CAPITAL M, CAPITAL N, CAPITAL O, CAPITAL OU, CAPITAL P, CAPITAL Q, CAPITAL R, CAPITAL
REVERSED E, CAPITAL REVERSED N, CAPITAL T, CAPITAL U, CAPITAL V, CAPITAL W, CENTRED LEFT HALF
RING, CENTRED RIGHT HALF RING, CHINESE TONE YANG PING, CHINESE TONE YANG QU, CHINESE TONE YANG RU,
CHINESE TONE YANG SHANG, CHINESE TONE YIN PING, CHINESE TONE YIN QU, CHINESE TONE YIN RU, CHINESE
TONE YIN SHANG, CIRCUMFLEX ACCENT, COLON, CROSS ACCENT, CYRILLIC EN, CYRILLIC HARD SIGN, CYRILLIC
SOFT SIGN, DENTAL CLICK, DOT HORIZONTAL BAR, DOT SLASH, DOT VERTICAL BAR, DOUBLE APOSTROPHE,
DOUBLE PRIME, DOWN ARROWHEAD, DOWN TACK, END HIGH TONE, END LOW TONE, EXTRA-HIGH DOTTED LEFT-STEM
TONE BAR, EXTRA-HIGH DOTTED TONE BAR, EXTRA-HIGH LEFT-STEM TONE BAR, EXTRA-HIGH TONE BAR,
EXTRA-LOW DOTTED LEFT-STEM TONE BAR, EXTRA-LOW DOTTED TONE BAR, EXTRA-LOW LEFT-STEM TONE BAR,
EXTRA-LOW TONE BAR, GEORGIAN NAR, GLOTTAL STOP, GLOTTAL STOP WITH STROKE, GRAVE ACCENT, HALF
TRIANGULAR COLON, HIGH DOTTED LEFT-STEM TONE BAR, HIGH DOTTED TONE BAR, HIGH LEFT-STEM TONE BAR,
HIGH TONE BAR, LATERAL CLICK, LEFT ARROWHEAD, LEFT HALF RING, LEFT TACK, LOW ACUTE ACCENT, LOW
CIRCUMFLEX ACCENT, LOW DOTTED LEFT-STEM TONE BAR, LOW DOTTED TONE BAR, LOW DOWN ARROWHEAD, LOW
GRAVE ACCENT, LOW INVERTED EXCLAMATION MARK, LOW LEFT ARROW, LOW LEFT ARROWHEAD, LOW LEFT-STEM
TONE BAR, LOW MACRON, LOW RIGHT ARROWHEAD, LOW RING, LOW TILDE, LOW TONE BAR, LOW UP ARROWHEAD,
LOW VERTICAL LINE, LOWER RIGHT CORNER ANGLE, MACRON, MID DOTTED LEFT-STEM TONE BAR, MID DOTTED
TONE BAR, MID LEFT-STEM TONE BAR, MID TONE BAR, MIDDLE DOUBLE ACUTE ACCENT, MIDDLE DOUBLE GRAVE
ACCENT, MIDDLE GRAVE ACCENT, MINUS SIGN, OPEN SHELF, PLUS SIGN, PRIME, RAISED COLON, RAISED DOWN
ARROW, RAISED EXCLAMATION MARK, RAISED INVERTED EXCLAMATION MARK, RAISED UP ARROW, RETROFLEX CLICK
WITH RETROFLEX HOOK, REVERSED COMMA, REVERSED GLOTTAL STOP, REVERSED GLOTTAL STOP WITH STROKE,
RHOTIC HOOK, RIGHT ARROWHEAD, RIGHT HALF RING, RIGHT TACK, SHELF, SHORT EQUALS SIGN, SMALL A,
SMALL AE, SMALL AIN, SMALL ALPHA, SMALL B, SMALL B WITH HOOK, SMALL BARRED O, SMALL BETA, SMALL
BOTTOM HALF O, SMALL C, SMALL C WITH CURL, SMALL CAPITAL AA, SMALL CAPITAL B, SMALL CAPITAL G,
SMALL CAPITAL G WITH HOOK, SMALL CAPITAL H, SMALL CAPITAL I, SMALL CAPITAL I WITH STROKE, SMALL
CAPITAL INVERTED R, SMALL CAPITAL L, SMALL CAPITAL L WITH BELT, SMALL CAPITAL N, SMALL CAPITAL OE,
SMALL CAPITAL R, SMALL CAPITAL U, SMALL CAPITAL Y, SMALL CHI, SMALL CLOSED OMEGA, SMALL CLOSED
REVERSED OPEN E, SMALL D, SMALL D WITH HOOK, SMALL D WITH HOOK AND TAIL, SMALL D WITH TAIL, SMALL
DELTA, SMALL DEZH DIGRAPH, SMALL DOTLESS J WITH STROKE, SMALL DOTLESS J WITH STROKE AND HOOK,
SMALL DZ DIGRAPH, SMALL DZ DIGRAPH WITH CURL, SMALL DZ DIGRAPH WITH RETROFLEX HOOK, SMALL E, SMALL
ENG, SMALL ESH, SMALL ETH, SMALL EZH, SMALL F, SMALL FENG DIGRAPH, SMALL G, SMALL G WITH HOOK,
SMALL GAMMA, SMALL GREEK GAMMA, SMALL GREEK PHI, SMALL H, SMALL H WITH HOOK, SMALL H WITH STROKE,
SMALL HENG, SMALL HENG WITH HOOK, SMALL I WITH STROKE, SMALL IOTA, SMALL J, SMALL J WITH
CROSSED-TAIL, SMALL K, SMALL L, SMALL L WITH BELT, SMALL L WITH INVERTED LAZY S, SMALL L WITH
MIDDLE TILDE, SMALL L WITH PALATAL HOOK, SMALL L WITH RETROFLEX HOOK, SMALL L WITH RETROFLEX HOOK
AND BELT, SMALL LEZH, SMALL LEZH WITH RETROFLEX HOOK, SMALL LIGATURE OE, SMALL LS DIGRAPH, SMALL
LZ DIGRAPH, SMALL M, SMALL M WITH HOOK, SMALL N WITH LEFT HOOK, SMALL N WITH RETROFLEX HOOK, SMALL
O, SMALL O WITH STROKE, SMALL OPEN E, SMALL OPEN O, SMALL P, SMALL PHI, SMALL Q, SMALL R, SMALL R
WITH FISHHOOK, SMALL R WITH TAIL, SMALL RAMS HORN, SMALL REVERSED E, SMALL REVERSED GLOTTAL STOP,
SMALL REVERSED OPEN E, SMALL S, SMALL S WITH CURL, SMALL S WITH HOOK, SMALL SCHWA, SMALL SCRIPT G,
SMALL SIDEWAYS U, SMALL T, SMALL T WITH PALATAL HOOK, SMALL T WITH RETROFLEX HOOK, SMALL TC
DIGRAPH WITH CURL, SMALL TESH DIGRAPH, SMALL THETA, SMALL TOP HALF O, SMALL TS DIGRAPH, SMALL TS
DIGRAPH WITH RETROFLEX HOOK, SMALL TURNED A, SMALL TURNED AE, SMALL TURNED ALPHA, SMALL TURNED H,
SMALL TURNED I, SMALL TURNED M, SMALL TURNED M WITH LONG LEG, SMALL TURNED OPEN E, SMALL TURNED R,
SMALL TURNED R WITH HOOK, SMALL TURNED R WITH LONG LEG, SMALL TURNED R WITH LONG LEG AND RETROFLEX
HOOK, SMALL TURNED V, SMALL TURNED W, SMALL TURNED Y, SMALL TURNED Y WITH BELT, SMALL U, SMALL U
BAR, SMALL U WITH LEFT HOOK, SMALL UPSILON, SMALL V, SMALL V WITH HOOK, SMALL V WITH RIGHT HOOK,
SMALL W, SMALL X, SMALL Y, SMALL Z, SMALL Z WITH CURL, SMALL Z WITH RETROFLEX HOOK, STRESS AND
HIGH TONE, STRESS AND LOW TONE, SUPERSCRIPT HALF TRIANGULAR COLON, SUPERSCRIPT TRIANGULAR COLON,
TRIANGULAR COLON, TURNED COMMA, UNASPIRATED, UP ARROWHEAD, UP TACK, US, VERTICAL LINE, VOICING,
YANG DEPARTING TONE MARK, YIN DEPARTING TONE MARK;
MODULO: TWO SUM;
MONEY: BAG, WITH WINGS;
MONEY-MOUTH: FACE;
MONGOLIAN: BIRGA, COLON, COMMA, ELLIPSIS, NIRUGU;
MONGOLIAN BIRGA WITH: DOUBLE ORNAMENT, ORNAMENT;
MONGOLIAN DIGIT: EIGHT, FIVE, FOUR, NINE, ONE, SEVEN, SIX, THREE, TWO, ZERO;
MONGOLIAN DOUBLE: BIRGA WITH ORNAMENT;
MONGOLIAN FOUR: DOTS;
MONGOLIAN FREE VARIATION SELECTOR: FOUR, ONE, THREE, TWO;
MONGOLIAN FULL: STOP;
MONGOLIAN INVERTED: BIRGA, BIRGA WITH DOUBLE ORNAMENT;
MONGOLIAN LETTER: A, ANG, BA, CHA, CHI, DA, E, EE, FA, GA, HAA, I, JA, KA, KHA, LA, LHA, MA, NA,
O, OE, PA, QA, RA, SA, SHA, TA, TSA, U, UE, WA, YA, ZA, ZHI, ZRA;
MONGOLIAN LETTER ALI GALI: A, AH, ANUSVARA ONE, BALUDA, CA, DA, DAGALGA, DAMARU, DDA, HALF U, HALF
YA, I, INVERTED UBADAMA, KA, NGA, NNA, PA, PHA, SSA, TA, THREE BALUDA, TTA, TTHA, UBADAMA, VISARGA
ONE, ZA, ZHA;
MONGOLIAN LETTER CHA: WITH TWO DOTS;
MONGOLIAN LETTER MANCHU: FA, I, KA, RA, ZHA;
MONGOLIAN LETTER MANCHU ALI GALI: BHA, CA, CYA, DDHA, DHA, GHA, JHA, LHA, NGA, SSA, TA, TTA, ZA,
ZHA;
MONGOLIAN LETTER SIBE: ANG, CHA, DA, E, FA, GA, GAA, HA, HAA, I, IY, JA, KA, PA, RAA, SHA, TA,
TSA, U, UE, ZA, ZHA;
MONGOLIAN LETTER TODO: ALI GALI TA, ALI GALI ZHA, ANG, BA, CHA, DA, DZA, E, GA, GAA, HAA, I, JA,
JIA, KA, LONG VOWEL SIGN, MA, NIA, O, OE, PA, QA, TA, TSA, U, UE, WA, YA;
MONGOLIAN MANCHU: COMMA, FULL STOP;
MONGOLIAN ROTATED: BIRGA, BIRGA WITH DOUBLE ORNAMENT, BIRGA WITH ORNAMENT;
MONGOLIAN SIBE: SYLLABLE BOUNDARY MARKER;
MONGOLIAN SWIRL: BIRGA, BIRGA WITH DOUBLE ORNAMENT, BIRGA WITH ORNAMENT;
MONGOLIAN TODO: SOFT HYPHEN;
MONGOLIAN TRIPLE: BIRGA WITH ORNAMENT;
MONGOLIAN TURNED: SWIRL BIRGA WITH DOUBLE ORNAMENT;
MONGOLIAN VOWEL: SEPARATOR;
MONKEY: FACE;
MONOGRAM FOR: EARTH, YANG, YIN;
MONOSTABLE: SYMBOL;
MOOD: BUBBLE;
MOON: CAKE, VIEWING CEREMONY;
MOTHER: CHRISTMAS;
MOTOR: BOAT, SCOOTER;
MOTORIZED: WHEELCHAIR;
MOUNT: FUJI;
MOUNTAIN: BICYCLIST, CABLEWAY, RAILWAY;
MOUSE: FACE, TRAP;
MOVIE: CAMERA;
MRO: DANDA;
MRO DIGIT: EIGHT, FIVE, FOUR, NINE, ONE, SEVEN, SIX, THREE, TWO, ZERO;
MRO DOUBLE: DANDA;
MRO LETTER: A, BA, CHU, DA, DAI, E, EA, HAI, HAO, KEAAE, KHAI, KO, LA, LAN, MAEM, MIM, NGI, NIN,
O, OL, OO, PA, PHI, RI, RO, SHI, TA, TEK, THEA, WA, YO;
MUCH: GREATER-THAN, LESS-THAN;
MULTANI LETTER: A, BA, BHA, CA, CHA, DA, DDA, DDDA, DDHA, DHA, E, GA, GHA, HA, I, JA, JJA, KA,
KHA, LA, MA, NA, NNA, NYA, PA, PHA, RA, RHA, RRA, SA, TA, THA, TTA, TTHA, U, VA, YA;
MULTANI SECTION: MARK;
MULTIPLE: MUSICAL NOTES;
MULTIPLICATION: SIGN, SIGN IN DOUBLE CIRCLE, SIGN IN LEFT HALF CIRCLE, SIGN IN RIGHT HALF CIRCLE,
SIGN IN TRIANGLE, SIGN WITH DOT ABOVE, SIGN WITH UNDERBAR, X;
MULTISET: MULTIPLICATION, UNION;
MUSIC: FLAT SIGN, NATURAL SIGN, SHARP SIGN;
MUSICAL: KEYBOARD, NOTE, SCORE;
MUSICAL KEYBOARD: WITH JACKS;
MUSICAL SYMBOL: ARPEGGIATO DOWN, ARPEGGIATO UP, BEGIN BEAM, BEGIN PHRASE, BEGIN SLUR, BEGIN TIE,
BRACE, BRACKET, BREATH MARK, BREVE, BREVIS, BREVIS REST, C CLEF, CAESURA, CIRCLE X NOTEHEAD,
CLIMACUS, CLIVIS, CLUSTER NOTEHEAD BLACK, CLUSTER NOTEHEAD WHITE, CODA, COMBINING ACCENT,
COMBINING ACCENT-STACCATO, COMBINING AUGMENTATION DOT, COMBINING BEND, COMBINING DOIT, COMBINING
DOUBLE TONGUE, COMBINING DOWN BOW, COMBINING FLAG-1, COMBINING FLAG-2, COMBINING FLAG-3, COMBINING
FLAG-4, COMBINING FLAG-5, COMBINING FLIP, COMBINING HARMONIC, COMBINING LOURE, COMBINING MARCATO,
COMBINING MARCATO-STACCATO, COMBINING RIP, COMBINING SMEAR, COMBINING SNAP PIZZICATO, COMBINING
SPRECHGESANG STEM, COMBINING STACCATISSIMO, COMBINING STACCATO, COMBINING STEM, COMBINING TENUTO,
COMBINING TREMOLO-1, COMBINING TREMOLO-2, COMBINING TREMOLO-3, COMBINING TRIPLE TONGUE, COMBINING
UP BOW, COMMON TIME, CRESCENDO, CROIX, CUT TIME, DA CAPO, DAL SEGNO, DAMP, DAMP ALL, DASHED
BARLINE, DECRESCENDO, DEGREE SLASH, DOUBLE BARLINE, DOUBLE FLAT, DOUBLE SHARP, DRUM CLEF-1, DRUM
CLEF-2, EIGHTH NOTE, EIGHTH REST, END BEAM, END OF STIMME, END PHRASE, END SLUR, END TIE, F CLEF,
F CLEF OTTAVA ALTA, F CLEF OTTAVA BASSA, FERMATA, FERMATA BELOW, FINAL BARLINE, FINGERED
TREMOLO-1, FINGERED TREMOLO-2, FINGERED TREMOLO-3, FIVE-LINE STAFF, FLAT DOWN, FLAT UP, FORTE,
FOUR-LINE STAFF, FOUR-STRING FRETBOARD, FUSA BLACK, FUSA WHITE, G CLEF, G CLEF OTTAVA ALTA, G CLEF
OTTAVA BASSA, GLISSANDO DOWN, GLISSANDO UP, GRACE NOTE NO SLASH, GRACE NOTE SLASH, GREGORIAN C
CLEF, GREGORIAN F CLEF, HALF NOTE, HALF PEDAL MARK, HALF REST, HAUPTSTIMME, INVERTED TURN, KIEVAN
C CLEF, KIEVAN EIGHTH NOTE STEM DOWN, KIEVAN EIGHTH NOTE STEM UP, KIEVAN END OF PIECE, KIEVAN
FINAL NOTE, KIEVAN FLAT SIGN, KIEVAN HALF NOTE, KIEVAN QUARTER NOTE STEM DOWN, KIEVAN QUARTER NOTE
STEM UP, KIEVAN RECITATIVE MARK, KIEVAN WHOLE NOTE, KORON, LEFT REPEAT SIGN, LONGA, LONGA
IMPERFECTA REST, LONGA PERFECTA REST, MAXIMA, MEZZO, MINIMA, MINIMA BLACK, MINIMA REST, MOON
NOTEHEAD BLACK, MOON NOTEHEAD WHITE, MULTI REST, MULTIPLE MEASURE REST, NATURAL DOWN, NATURAL UP,
NEBENSTIMME, NOTEHEAD BLACK, NULL NOTEHEAD, ONE HUNDRED TWENTY-EIGHTH NOTE, ONE HUNDRED
TWENTY-EIGHTH REST, ONE-LINE STAFF, ORNAMENT STROKE-1, ORNAMENT STROKE-10, ORNAMENT STROKE-11,
ORNAMENT STROKE-2, ORNAMENT STROKE-3, ORNAMENT STROKE-4, ORNAMENT STROKE-5, ORNAMENT STROKE-6,
ORNAMENT STROKE-7, ORNAMENT STROKE-8, ORNAMENT STROKE-9, OTTAVA ALTA, OTTAVA BASSA, PARENTHESIS
NOTEHEAD, PEDAL MARK, PEDAL UP MARK, PES SUBPUNCTIS, PIANO, PLUS NOTEHEAD, PODATUS, PORRECTUS,
PORRECTUS FLEXUS, QUARTER NOTE, QUARTER REST, QUARTER TONE FLAT, QUARTER TONE SHARP, QUINDICESIMA
ALTA, QUINDICESIMA BASSA, REPEAT DOTS, REPEATED FIGURE-1, REPEATED FIGURE-2, REPEATED FIGURE-3,
REVERSE FINAL BARLINE, RIGHT REPEAT SIGN, RINFORZANDO, SCANDICUS, SCANDICUS FLEXUS, SEGNO,
SEMIBREVIS BLACK, SEMIBREVIS REST, SEMIBREVIS WHITE, SEMIMINIMA BLACK, SEMIMINIMA REST, SEMIMINIMA
WHITE, SHARP DOWN, SHARP UP, SHORT BARLINE, SINGLE BARLINE, SIX-LINE STAFF, SIX-STRING FRETBOARD,
SIXTEENTH NOTE, SIXTEENTH REST, SIXTY-FOURTH NOTE, SIXTY-FOURTH REST, SORI, SQUARE B, SQUARE
NOTEHEAD BLACK, SQUARE NOTEHEAD WHITE, SUBITO, TEMPUS IMPERFECTUM CUM PROLATIONE IMPERFECTA,
TEMPUS IMPERFECTUM CUM PROLATIONE IMPERFECTA DIMINUTION-1, TEMPUS IMPERFECTUM CUM PROLATIONE
IMPERFECTA DIMINUTION-2, TEMPUS IMPERFECTUM CUM PROLATIONE IMPERFECTA DIMINUTION-3, TEMPUS
IMPERFECTUM CUM PROLATIONE PERFECTA, TEMPUS PERFECTUM CUM PROLATIONE IMPERFECTA, TEMPUS PERFECTUM
CUM PROLATIONE PERFECTA, TEMPUS PERFECTUM CUM PROLATIONE PERFECTA DIMINUTION-1, THIRTY-SECOND
NOTE, THIRTY-SECOND REST, THREE-LINE STAFF, TORCULUS, TORCULUS RESUPINUS, TR, TRIANGLE NOTEHEAD
DOWN BLACK, TRIANGLE NOTEHEAD DOWN WHITE, TRIANGLE NOTEHEAD LEFT BLACK, TRIANGLE NOTEHEAD LEFT
WHITE, TRIANGLE NOTEHEAD RIGHT BLACK, TRIANGLE NOTEHEAD RIGHT WHITE, TRIANGLE NOTEHEAD UP BLACK,
TRIANGLE NOTEHEAD UP RIGHT BLACK, TRIANGLE NOTEHEAD UP RIGHT WHITE, TRIANGLE NOTEHEAD UP WHITE,
TRIANGLE-ROUND NOTEHEAD DOWN BLACK, TRIANGLE-ROUND NOTEHEAD DOWN WHITE, TURN, TURN SLASH, TURN UP,
TWO-LINE STAFF, VIRGA, VOID NOTEHEAD, WHOLE NOTE, WHOLE REST, WITH FINGERNAILS, X NOTEHEAD, Z;
MYANMAR CONSONANT SIGN: MEDIAL HA, MEDIAL RA, MEDIAL WA, MEDIAL YA, MON MEDIAL LA, MON MEDIAL MA,
MON MEDIAL NA, SHAN MEDIAL WA;
MYANMAR DIGIT: EIGHT, FIVE, FOUR, NINE, ONE, SEVEN, SIX, THREE, TWO, ZERO;
MYANMAR LETTER: A, AITON RA, AU, BA, BHA, CA, CHA, DA, DDA, DDHA, DHA, E, EASTERN PWO KAREN GHWA,
EASTERN PWO KAREN NNA, EASTERN PWO KAREN YWA, GA, GHA, GREAT SA, HA, I, II, JA, JHA, KA, KHA,
KHAMTI CA, KHAMTI CHA, KHAMTI DDA, KHAMTI DDHA, KHAMTI DHA, KHAMTI FA, KHAMTI GA, KHAMTI HA,
KHAMTI HHA, KHAMTI JA, KHAMTI JHA, KHAMTI LLA, KHAMTI NA, KHAMTI NYA, KHAMTI RA, KHAMTI SA, KHAMTI
TTA, KHAMTI TTHA, KHAMTI XA, KHAMTI ZA, LA, LLA, MA, MON BBA, MON BBE, MON E, MON JHA, MON NGA,
NA, NGA, NNA, NNYA, NYA, O, PA, PHA, RA, RUMAI PALAUNG FA, SA, SGAW KAREN SHA, SHA, SHAN A, SHAN
BA, SHAN BHA, SHAN CA, SHAN CHA, SHAN DA, SHAN FA, SHAN GA, SHAN GHA, SHAN HA, SHAN JHA, SHAN KA,
SHAN KHA, SHAN NA, SHAN NNA, SHAN NYA, SHAN PHA, SHAN THA, SHAN ZA, SHWE PALAUNG CHA, SHWE PALAUNG
SHA, SSA, TA, TAI LAING BA, TAI LAING BHA, TAI LAING DA, TAI LAING DDA, TAI LAING DDHA, TAI LAING
DHA, TAI LAING FA, TAI LAING GA, TAI LAING GHA, TAI LAING JA, TAI LAING JHA, TAI LAING LLA, TAI
LAING NNA, TAI LAING NYA, THA, TTA, TTHA, U, UU, VOCALIC L, VOCALIC LL, VOCALIC R, VOCALIC RR, WA,
WESTERN PWO KAREN PWA, WESTERN PWO KAREN THA, YA;
MYANMAR LOGOGRAM KHAMTI: HM, OAY, QN;
MYANMAR MODIFIER LETTER: KHAMTI REDUPLICATION, SHAN REDUPLICATION;
MYANMAR SHAN DIGIT: EIGHT, FIVE, FOUR, NINE, ONE, SEVEN, SIX, THREE, TWO, ZERO;
MYANMAR SIGN: ANUSVARA, ASAT, DOT BELOW, KHAMTI TONE-1, KHAMTI TONE-3, LITTLE SECTION, PAO KAREN
TONE, RUMAI PALAUNG TONE-5, SECTION, SHAN COUNCIL EMPHATIC TONE, SHAN COUNCIL TONE-2, SHAN COUNCIL
TONE-3, SHAN SAW, SHAN TONE-2, SHAN TONE-3, SHAN TONE-5, SHAN TONE-6, TAI LAING TONE-2, TAI LAING
TONE-5, VIRAMA, VISARGA, WESTERN PWO KAREN TONE-1, WESTERN PWO KAREN TONE-2, WESTERN PWO KAREN
TONE-3, WESTERN PWO KAREN TONE-4, WESTERN PWO KAREN TONE-5;
MYANMAR SYMBOL: AFOREMENTIONED, AITON EXCLAMATION, AITON ONE, AITON TWO, COMPLETED, GENITIVE,
LOCATIVE, SHAN EXCLAMATION, SHAN ONE;
MYANMAR TAI LAING DIGIT: EIGHT, FIVE, FOUR, NINE, ONE, SEVEN, SIX, THREE, TWO, ZERO;
MYANMAR TONE MARK SGAW KAREN: HATHI, KE PHO;
MYANMAR VOWEL SIGN: AA, AI, AITON A, AITON AI, E, E ABOVE, GEBA KAREN I, I, II, KAYAH EE, KAYAH
OE, KAYAH U, MON II, MON O, SGAW KAREN EU, SHAN AA, SHAN E, SHAN E ABOVE, SHAN FINAL Y, TALL AA,
U, UU, VOCALIC L, VOCALIC LL, VOCALIC R, VOCALIC RR, WESTERN PWO KAREN EU, WESTERN PWO KAREN UE;
N-ARY: CIRCLED DOT OPERATOR, CIRCLED PLUS OPERATOR, CIRCLED TIMES OPERATOR, COPRODUCT,
INTERSECTION, LOGICAL AND, LOGICAL OR, PRODUCT, SQUARE INTERSECTION OPERATOR, SQUARE UNION
OPERATOR, SUMMATION, TIMES OPERATOR, UNION, UNION OPERATOR WITH DOT, UNION OPERATOR WITH PLUS,
WHITE VERTICAL BAR;
NABATAEAN CRUCIFORM: NUMBER FOUR;
NABATAEAN LETTER: ALEPH, AYIN, BETH, DALETH, GIMEL, HE, HETH, KAPH, LAMEDH, MEM, NUN, PE, QOPH,
RESH, SADHE, SAMEKH, SHIN, TAW, TETH, WAW, YODH, ZAYIN;
NABATAEAN LETTER FINAL: ALEPH, BETH, HE, KAPH, LAMEDH, MEM, NUN, SHIN, YODH;
NABATAEAN NUMBER: FIVE, FOUR, ONE, ONE HUNDRED, TEN, THREE, TWENTY, TWO;
NAIL: POLISH;
NAIRA: SIGN;
NAME: BADGE;
NANDINAGARI: HEADSTROKE;
NANDINAGARI LETTER: A, AA, AI, AU, BA, BHA, CA, CHA, DA, DDA, DDHA, DHA, E, GA, GHA, HA, I, II,
JA, JHA, KA, KHA, LA, LLA, MA, NA, NGA, NNA, NYA, O, PA, PHA, RA, RRA, SA, SHA, SSA, TA, THA, TTA,
TTHA, U, UU, VA, VOCALIC R, VOCALIC RR, YA;
NANDINAGARI SIGN: ANUSVARA, AVAGRAHA, SIDDHAM, VIRAMA, VISARGA;
NANDINAGARI VOWEL SIGN: AA, AI, AU, E, I, II, O, PRISHTHAMATRA E, U, UU, VOCALIC R, VOCALIC RR;
NARROW: NO-BREAK SPACE;
NATIONAL: DIGIT SHAPES, PARK;
NAUSEATED: FACE;
NAZAR: AMULET;
NEGATED: DOUBLE VERTICAL BAR DOUBLE RIGHT TURNSTILE;
NEGATIVE: ACKNOWLEDGE;
NEGATIVE CIRCLED: SQUARE, TRIANGLE;
NEGATIVE CIRCLED DIGIT: ZERO;
NEGATIVE CIRCLED LATIN CAPITAL LETTER: A, B, C, D, E, F, G, H, I, J, K, L, M, N, O, P, Q, R, S, T,
U, V, W, X, Y, Z;
NEGATIVE CIRCLED NUMBER: EIGHTEEN, ELEVEN, FIFTEEN, FOURTEEN, NINETEEN, SEVENTEEN, SIXTEEN,
THIRTEEN, TWELVE, TWENTY;
NEGATIVE DIAGONAL: CROSS, DIAMOND, MIDDLE RIGHT TO LOWER CENTRE;
NEGATIVE SQUARED: AB, IC, PA, SA, WC;
NEGATIVE SQUARED CROSS: MARK;
NEGATIVE SQUARED LATIN CAPITAL LETTER: A, B, C, D, E, F, G, H, I, J, K, L, M, N, O, P, Q, R, S, T,
U, V, W, X, Y, Z;
NEGATIVE SQUARED QUESTION: MARK;
NEITHER: A SUBSET OF NOR EQUAL TO, A SUPERSET OF NOR EQUAL TO, APPROXIMATELY NOR ACTUALLY EQUAL
TO, GREATER-THAN NOR EQUAL TO, GREATER-THAN NOR EQUIVALENT TO, GREATER-THAN NOR LESS-THAN,
LESS-THAN NOR EQUAL TO, LESS-THAN NOR EQUIVALENT TO, LESS-THAN NOR GREATER-THAN;
NEPTUNE: FORM TWO;
NERD: FACE;
NEST: WITH EGGS;
NESTING: DOLLS;
NEUTRAL: FACE;
NEUTRAL CHESS: BISHOP, BISHOP ROTATED NINETY DEGREES, BISHOP ROTATED TWO HUNDRED SEVENTY DEGREES,
EQUIHOPPER, EQUIHOPPER ROTATED NINETY DEGREES, KING, KING ROTATED NINETY DEGREES, KING ROTATED TWO
HUNDRED SEVENTY DEGREES, KNIGHT, KNIGHT ROTATED FORTY-FIVE DEGREES, KNIGHT ROTATED NINETY DEGREES,
KNIGHT ROTATED ONE HUNDRED THIRTY-FIVE DEGREES, KNIGHT ROTATED THREE HUNDRED FIFTEEN DEGREES,
KNIGHT ROTATED TWO HUNDRED SEVENTY DEGREES, KNIGHT ROTATED TWO HUNDRED TWENTY-FIVE DEGREES, PAWN,
PAWN ROTATED NINETY DEGREES, PAWN ROTATED TWO HUNDRED SEVENTY DEGREES, QUEEN, QUEEN ROTATED NINETY
DEGREES, QUEEN ROTATED TWO HUNDRED SEVENTY DEGREES, ROOK, ROOK ROTATED NINETY DEGREES, ROOK
ROTATED TWO HUNDRED SEVENTY DEGREES, TURNED BISHOP, TURNED KING, TURNED KNIGHT, TURNED PAWN,
TURNED QUEEN, TURNED ROOK;
NEW: LINE;
NEW MOON: SYMBOL, WITH FACE;
NEW SHEQEL: SIGN;
NEW TAI LUE DIGIT: EIGHT, FIVE, FOUR, NINE, ONE, SEVEN, SIX, THREE, TWO, ZERO;
NEW TAI LUE LETTER FINAL: B, D, K, M, N, NG, V;
NEW TAI LUE LETTER HIGH: BA, DA, FA, HA, KA, KVA, LA, MA, NA, NGA, PA, PHA, QA, SA, SUA, TA, THA,
TSA, VA, XA, XVA, YA;
NEW TAI LUE LETTER LOW: BA, DA, FA, HA, KA, KVA, LA, MA, NA, NGA, PA, PHA, QA, SA, SUA, TA, THA,
TSA, VA, XA, XVA, YA;
NEW TAI LUE SIGN: LAE, LAEV;
NEW TAI LUE THAM: DIGIT ONE;
NEW TAI LUE TONE: MARK-1, MARK-2;
NEW TAI LUE VOWEL SIGN: AA, AAY, AE, AY, E, II, IY, O, OA, OAY, OY, U, UE, UEY, UU, UY, VOWEL
SHORTENER;
NEWA: COMMA, DANDA, OM, SIDDHI;
NEWA ABBREVIATION: SIGN;
NEWA DIGIT: EIGHT, FIVE, FOUR, NINE, ONE, SEVEN, SIX, THREE, TWO, ZERO;
NEWA DOUBLE: COMMA, DANDA;
NEWA GAP: FILLER;
NEWA INSERTION: SIGN;
NEWA LETTER: A, AA, AI, AU, BA, BHA, CA, CHA, DA, DDA, DDHA, DHA, E, GA, GHA, HA, I, II, JA, JHA,
KA, KHA, LA, LHA, MA, MHA, NA, NGA, NGHA, NHA, NNA, NYA, NYHA, O, PA, PHA, RA, RHA, SA, SHA, SSA,
TA, THA, TTA, TTHA, U, UU, VEDIC ANUSVARA, VOCALIC L, VOCALIC LL, VOCALIC R, VOCALIC RR, WA, YA;
NEWA PLACEHOLDER: MARK;
NEWA SANDHI: MARK;
NEWA SIGN: ANUSVARA, AVAGRAHA, CANDRABINDU, FINAL ANUSVARA, JIHVAMULIYA, NUKTA, UPADHMANIYA,
VIRAMA, VISARGA;
NEWA VOWEL SIGN: AA, AI, AU, E, I, II, O, U, UU, VOCALIC L, VOCALIC LL, VOCALIC R, VOCALIC RR;
NEWLINE: LEFT, RIGHT;
NEXT: LINE, PAGE;
NIGHT: WITH STARS;
NKO: COMMA, DANTAYALAN, LAJANYALAN;
NKO COMBINING: DOUBLE DOT ABOVE, LONG DESCENDING TONE, LONG HIGH TONE, LONG LOW TONE, LONG RISING
TONE, NASALIZATION MARK, SHORT HIGH TONE, SHORT LOW TONE, SHORT RISING TONE;
NKO DIGIT: EIGHT, FIVE, FOUR, NINE, ONE, SEVEN, SIX, THREE, TWO, ZERO;
NKO DOROME: SIGN;
NKO EXCLAMATION: MARK;
NKO HIGH: TONE APOSTROPHE;
NKO LETTER: A, BA, CHA, DA, DAGBASINNA, E, EE, FA, GBA, HA, I, JA, JONA CHA, JONA JA, JONA RA, KA,
LA, MA, N, NA, NA WOLOSO, NYA, NYA WOLOSO, O, OO, PA, RA, RRA, SA, TA, U, WA, YA;
NKO LOW: TONE APOSTROPHE;
NKO SYMBOL: GBAKURUNEN, OO DENNEN;
NKO TAMAN: SIGN;
NO: BICYCLES, BREAK HERE, ENTRY, ENTRY SIGN, MOBILE PHONES, ONE UNDER EIGHTEEN SYMBOL,
PEDESTRIANS, PIRACY, SMOKING SYMBOL;
NO-BREAK: SPACE;
NOMINAL: DIGIT SHAPES;
NOMISMA: SIGN;
NON-BREAKING: HYPHEN;
NON-POTABLE: WATER SYMBOL;
NORDIC: MARK SIGN;
NORMAL SUBGROUP: OF, OF OR EQUAL TO;
NORTH EAST: AND SOUTH WEST ARROW, ARROW, ARROW AND SOUTH EAST ARROW, ARROW CROSSING NORTH WEST
ARROW, ARROW CROSSING SOUTH EAST ARROW, ARROW WITH HOOK, BLACK ARROW, DOUBLE ARROW, POINTING BUD,
POINTING LEAF, POINTING VINE LEAF, SANS-SERIF ARROW, TRIANGLE-HEADED ARROW, TRIANGLE-HEADED ARROW
TO BAR, WHITE ARROW;
NORTH INDIC: FRACTION ONE EIGHTH, FRACTION ONE HALF, FRACTION ONE QUARTER, FRACTION ONE SIXTEENTH,
FRACTION THREE QUARTERS, FRACTION THREE SIXTEENTHS, PLACEHOLDER MARK, QUANTITY MARK, QUARTER MARK,
RUPEE MARK;
NORTH WEST: AND SOUTH EAST ARROW, ARROW, ARROW AND NORTH EAST ARROW, ARROW CROSSING NORTH EAST
ARROW, ARROW TO CORNER, ARROW TO LONG BAR, ARROW WITH HOOK, BLACK ARROW, DOUBLE ARROW, POINTING
BUD, POINTING LEAF, POINTING VINE LEAF, SANS-SERIF ARROW, TRIANGLE-HEADED ARROW, TRIANGLE-HEADED
ARROW TO BAR, WHITE ARROW;
NORTHEAST-POINTING: AIRPLANE;
NOT: A SUBSET OF, A SUPERSET OF, ALMOST EQUAL TO, AN ELEMENT OF, ASYMPTOTICALLY EQUAL TO, CHECK
MARK, EQUAL TO, EQUIVALENT TO, GREATER-THAN, IDENTICAL TO, LESS-THAN, NORMAL SUBGROUP OF, NORMAL
SUBGROUP OF OR EQUAL TO, PARALLEL TO, SIGN, SQUARE IMAGE OF OR EQUAL TO, SQUARE ORIGINAL OF OR
EQUAL TO, TILDE, TRUE;
NOTCHED: LEFT SEMICIRCLE WITH THREE DOTS, LOWER RIGHT-SHADOWED WHITE RIGHTWARDS ARROW, RIGHT
SEMICIRCLE WITH THREE DOTS, UPPER RIGHT-SHADOWED WHITE RIGHTWARDS ARROW;
NOTE: PAD, PAGE;
NOTEBOOK: WITH DECORATIVE COVER;
NUMBER: EIGHTEEN FULL STOP, ELEVEN FULL STOP, FIFTEEN FULL STOP, FOURTEEN FULL STOP, NINETEEN FULL
STOP, SEVENTEEN FULL STOP, SIGN, SIXTEEN FULL STOP, TEN FULL STOP, THIRTEEN FULL STOP, TWELVE FULL
STOP, TWENTY FULL STOP;
NUMERO: SIGN;
NUSHU: ITERATION MARK;
NUT: AND BOLT;
NYIAKENG PUACHUE HMONG: TONE-B, TONE-D, TONE-G, TONE-J, TONE-M, TONE-S, TONE-V;
NYIAKENG PUACHUE HMONG CIRCLED: CA;
NYIAKENG PUACHUE HMONG DIGIT: EIGHT, FIVE, FOUR, NINE, ONE, SEVEN, SIX, THREE, TWO, ZERO;
NYIAKENG PUACHUE HMONG LETTER: A, AA, CA, DA, DLA, E, EE, FA, GA, HA, HAH, I, KA, LA, MA, MLA, NA,
NCA, NKA, NPA, NPLA, NQA, NRA, NTA, NTSA, NTXA, NYA, O, OO, PA, PLA, QA, RA, RRA, SA, TA, TSA,
TXA, U, VA, W, XA, XYA, YA, ZA;
NYIAKENG PUACHUE HMONG LOGOGRAM: NYAJ;
NYIAKENG PUACHUE HMONG SIGN: FOR ANIMAL, FOR INVERTEBRATE, FOR LOCATION, FOR PERSON, FOR THING, XW
XW;
NYIAKENG PUACHUE HMONG SYLLABLE: LENGTHENER;
"

end LogMarkup
