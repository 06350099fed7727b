/-!
# Character names from A to C

Each group of names has a front, in front of a colon, that all its names share, and
their endings behind it.  Single words have no front.
-/

namespace LogMarkup

/-- The character names whose fronts begin with letters from A to C. -/
def namesAToC : String := "
: ABACUS, ACCORDION, ACK, ACKNOWLEDGE, ADMETOS, ADULT, AIRPLANE, AKTIESELSKAB, ALEMBIC, ALERT,
ALM, AMBULANCE, AMPERSAND, AMPHORA, ANCHOR, ANGLE, ANKH, ANT, APC, APOLLON, APOSTROPHE, AQUARIUS,
ARC, ARIES, ASSERTION, ASTERISK, ASTERISM, ASTRAEA, AUBERGINE, AUTOMOBILE, AVOCADO, AXE, BABY,
BACKSPACE, BACON, BADGER, BAGEL, BALLOON, BANANA, BANJO, BANK, BASEBALL, BASKET, BAT, BATH,
BATHTUB, BATTERY, BEANS, BEAVER, BECAUSE, BED, BEETLE, BEL, BELL, BETWEEN, BICYCLE, BICYCLIST,
BIKINI, BILLIARDS, BIRD, BISON, BLOSSOM, BLOWFISH, BLUEBERRIES, BOAR, BOM, BOMB, BONE, BOOK,
BOOKMARK, BOOKS, BOOMERANG, BOUQUET, BOWLING, BOWTIE, BOY, BPH, BRAIN, BREAD, BREAST-FEEDING,
BREVE, BRICK, BRIEFCASE, BRIEFS, BROCCOLI, BROOM, BS, BUBBLES, BUCKET, BUG, BULLET, BULLHORN,
BULLSEYE, BURRITO, BUS, BUTTER, BUTTERFLY, CACTUS, CADUCEUS, CALENDAR, CAMERA, CAMPING, CAN,
CANCEL, CANCER, CANDLE, CANDY, CANOE, CAPITULUM, CAPRICORN, CARET, CARON, CARROT, CASTLE, CAT,
CCH, CEDILLA, CERES, CGJ, CHAINS, CHAIR, CHERRIES, CHESTNUT, CHICKEN, CHILD, CHIPMUNK, CHIRON,
CHOPSTICKS, CHURCH, CINEMA, CITYSCAPE, CLIPBOARD, CLOUD, COAT, COCKROACH, COCONUT, COFFIN, COIN,
COLON, COMET, COMMA, COMPASS, COMPLEMENT, COMPRESSION, CONJUNCTION, COOKIE, COOKING, CORAL,
COUNTERBORE, COUNTERSINK, COW, CR, CRAB, CRICKET, CROCODILE, CROISSANT, CROWN, CRUTCH, CSI,
CUCUMBER, CUPCAKE, CUPIDO, CUSTARD, CUSTOMS, CYCLONE, CYLINDRICITY, DAGGER, DANCER, DANGO, DC1,
DC2, DC3, DC4, DCS, DEER, DEL, DELETE, DESERT, DIAERESIS, DIVIDES, DLE, DOCUMENT, DODO, DOG,
DOLPHIN, DOOR, DOUGHNUT, DRAGON, DRESS, DROPLET, DUCK, DUMPLING, DVD, EAGLE, EAR, EARTH, EGG,
ELEPHANT, ELEVATOR, ELF, ENQ, ENQUIRY, ENVELOPE, EOL, EOM, EOT, EPA, ESA, ESC, ESCAPE, ESTIMATES,
ETB, ETX, EXCESS, EYE, EYEGLASSES, EYES, FACTORY, FAIRY, FALAFEL, FAMILY, FEATHER, FENCER, FERRY,
FF, FIRE, FIRECRACKER, FIREWORKS, FISH, FISHEYE, FLAMINGO, FLATBREAD, FLATNESS, FLEUR-DE-LIS,
FLOWER, FLY, FOG, FOGGY, FOLDER, FONDUE, FOOT, FOOTPRINTS, FORCES, FORKING, FOUNTAIN, FROWN, FS,
FSI, FUSE, FVS1, FVS2, FVS3, FVS4, GARLIC, GEAR, GEMINI, GENIE, GHOST, GIRL, GLOVES, GOAT,
GOGGLES, GOLFER, GORILLA, GRAPES, GS, GUARDSMAN, GUITAR, HADES, HAIRCUT, HAMBURGER, HAMMER, HAMSA,
HANDBAG, HANDBALL, HANDSHAKE, HEADPHONE, HEADSTONE, HEDGEHOG, HELICOPTER, HERB, HIBISCUS,
HIPPOPOTAMUS, HOCHO, HOLE, HOMOTHETIC, HONEYBEE, HOOK, HOP, HORSE, HOSPITAL, HOTEL, HOURGLASS,
HOUSE, HT, HTJ, HTS, HUT, HYGIEA, HYPHEN, HYPHEN-MINUS, HYPODIASTOLE, IMP, INCREMENT, IND, INDEX,
INFINITY, INTEGRAL, INTERCALATE, INTERROBANG, INTERSECTION, JACK-O-LANTERN, JAR, JEANS, JOIN,
JOYSTICK, JUGGLING, JUNO, JUPITER, KAABA, KANGAROO, KEY, KEYBOARD, KIMONO, KISS, KITE, KIWIFRUIT,
KNOT, KOALA, KRONOS, LABEL, LADDER, LEDGER, LEG, LEMON, LEO, LEOPARD, LF, LIBRA, LIGHTNING, LIPS,
LIPSTICK, LIZARD, LLAMA, LOBSTER, LOCK, LOLLIPOP, LOTUS, LOZENGE, LRE, LRI, LRM, LRO, LUGGAGE,
LUNGS, MACRON, MAGE, MAGNET, MAMMOTH, MAN, MANGO, MAXIMIZE, MELON, MEMO, MERCURY, MERPERSON,
METRO, MICROBE, MICROPHONE, MICROSCOPE, MINIBUS, MINIDISC, MINIMIZE, MINY, MIRROR, MMSP, MODELS,
MONKEY, MONORAIL, MOSQUE, MOSQUITO, MOTORWAY, MOUNTAIN, MOUSE, MOUTH, MOYAI, MULTIMAP, MULTISET,
MUSHROOM, MVS, MW, NABLA, NAK, NAND, NBH, NBSP, NECKTIE, NEL, NEPTUNE, NESSUS, NEUTER, NEWSPAPER,
NINJA, NL, NNBSP, NONFORKING, NOR, NOSE, NOTE, NOTEBOOK, NUL, OCTOPUS, ODEN, OGONEK, OLIVE, ONION,
OPHIUCHUS, OPPOSITION, ORANGUTAN, OSC, OTTER, OVERLAP, OVERLINE, OWL, OX, OYSTER, PACKAGE, PAD,
PAGE, PAGER, PAGES, PAGODA, PALLAS, PANCAKES, PAPERCLIP, PARACHUTE, PARAGRAPHOS, PARROT, PDF, PDI,
PEACH, PEACOCK, PEANUTS, PEAR, PEDESTRIAN, PENCIL, PENGUIN, PENTAGRAM, PERPENDICULAR, PERSPECTIVE,
PHOLUS, PICK, PIE, PIG, PILL, PINATA, PINEAPPLE, PISCES, PISTOL, PITCHFORK, PLACARD, PLD, PLU,
PLUNGER, PLUTO, PM, POODLE, POPCORN, POSEIDON, POSTBOX, POTATO, POUCH, PRECEDES, PRETZEL, PRIME,
PRINCE, PRINCESS, PRINTER, PROJECTIVE, PROPORTION, PROSERPINA, PU1, PU2, PURSE, PUSHPIN, QUINCUNX,
RABBIT, RACCOON, RADIO, RAIN, RAINBOW, RAM, RAT, RATIO, RAZOR, RECEIPT, RESPONSE, RESTROOM,
RHINOCEROS, RI, RIBBON, RIFLE, RING, RLE, RLI, RLM, RLO, ROCK, ROCKET, ROOSTER, ROSE, ROSETTE,
ROWBOAT, RS, RULE-DELAYED, RUNNER, SAGITTARIUS, SAILBOAT, SALTIRE, SANDWICH, SARI, SATELLITE,
SATURN, SAUROPOD, SAXOPHONE, SCALES, SCARF, SCHOOL, SCI, SCOOTER, SCORPION, SCORPIUS, SCREEN,
SCREWDRIVER, SCROLL, SCRUPLE, SEAL, SEAT, SECTOR, SEDNA, SEEDLING, SEGMENT, SELFIE, SEMICOLON,
SEMISEXTILE, SESQUIQUADRATE, SEXTILE, SGC, SHAMROCK, SHARK, SHEEP, SHIELD, SHIP, SHORTCAKE,
SHORTS, SHOWER, SHRIMP, SHRUG, SHY, SI, SINGLE-SHIFT-2, SINGLE-SHIFT-3, SKATEBOARD, SKIER, SKULL,
SKUNK, SLED, SLOPE, SLOTH, SMILE, SNAIL, SNAKE, SNOWBOARDER, SNOWFLAKE, SNOWMAN, SO, SOCKS,
SOFTBALL, SOH, SOLIDUS, SOS, SP, SPA, SPACE, SPAGHETTI, SPARKLE, SPARKLES, SPEAKER, SPEEDBOAT,
SPIDER, SPONGE, SPOON, SQUID, SS2, SS3, SSA, ST, STADIUM, STATION, STETHOSCOPE, STOPWATCH,
STRAIGHTNESS, STRAWBERRY, STS, STUPA, STX, SUB, SUBSTITUTE, SUCCEEDS, SUN, SUNFLOWER, SUNRISE,
SUPERHERO, SUPERVILLAIN, SURFER, SUSHI, SWAN, SWIMMER, SYMMETRY, SYN, SYNAGOGUE, SYRINGE, T-REX,
T-SHIRT, TAB, TACO, TAMALE, TANGERINE, TAURUS, TAXI, TEAPOT, TELESCOPE, TELEVISION, TENT,
THEREFORE, THERMODYNAMIC, THERMOMETER, THUNDERSTORM, TICKET, TIGER, TILDE, TINY, TOILET, TOMATO,
TONGUE, TOOLBOX, TOOTH, TOOTHBRUSH, TRACKBALL, TRACTOR, TRAIN, TRAM, TRANSPLUTO, TRICOLON, TROLL,
TROLLEYBUS, TROPHY, TRUE, TRUMPET, TULIP, TURKEY, TURTLE, UMBRELLA, UNDERTIE, UNION, URANUS, US,
VAMPIRE, VERSICLE, VESTA, VIDEOCASSETTE, VIOLIN, VIRGO, VOLCANO, VOLLEYBALL, VS1, VS10, VS100,
VS101, VS102, VS103, VS104, VS105, VS106, VS107, VS108, VS109, VS11, VS110, VS111, VS112, VS113,
VS114, VS115, VS116, VS117, VS118, VS119, VS12, VS120, VS121, VS122, VS123, VS124, VS125, VS126,
VS127, VS128, VS129, VS13, VS130, VS131, VS132, VS133, VS134, VS135, VS136, VS137, VS138, VS139,
VS14, VS140, VS141, VS142, VS143, VS144, VS145, VS146, VS147, VS148, VS149, VS15, VS150, VS151,
VS152, VS153, VS154, VS155, VS156, VS157, VS158, VS159, VS16, VS160, VS161, VS162, VS163, VS164,
VS165, VS166, VS167, VS168, VS169, VS17, VS170, VS171, VS172, VS173, VS174, VS175, VS176, VS177,
VS178, VS179, VS18, VS180, VS181, VS182, VS183, VS184, VS185, VS186, VS187, VS188, VS189, VS19,
VS190, VS191, VS192, VS193, VS194, VS195, VS196, VS197, VS198, VS199, VS2, VS20, VS200, VS201,
VS202, VS203, VS204, VS205, VS206, VS207, VS208, VS209, VS21, VS210, VS211, VS212, VS213, VS214,
VS215, VS216, VS217, VS218, VS219, VS22, VS220, VS221, VS222, VS223, VS224, VS225, VS226, VS227,
VS228, VS229, VS23, VS230, VS231, VS232, VS233, VS234, VS235, VS236, VS237, VS238, VS239, VS24,
VS240, VS241, VS242, VS243, VS244, VS245, VS246, VS247, VS248, VS249, VS25, VS250, VS251, VS252,
VS253, VS254, VS255, VS256, VS26, VS27, VS28, VS29, VS3, VS30, VS31, VS32, VS33, VS34, VS35, VS36,
VS37, VS38, VS39, VS4, VS40, VS41, VS42, VS43, VS44, VS45, VS46, VS47, VS48, VS49, VS5, VS50,
VS51, VS52, VS53, VS54, VS55, VS56, VS57, VS58, VS59, VS6, VS60, VS61, VS62, VS63, VS64, VS65,
VS66, VS67, VS68, VS69, VS7, VS70, VS71, VS72, VS73, VS74, VS75, VS76, VS77, VS78, VS79, VS8,
VS80, VS81, VS82, VS83, VS84, VS85, VS86, VS87, VS88, VS89, VS9, VS90, VS91, VS92, VS93, VS94,
VS95, VS96, VS97, VS98, VS99, VT, VTS, VULCANUS, WAFFLE, WASTEBASKET, WATCH, WATERMELON, WEDDING,
WHALE, WHEEL, WINDOW, WJ, WOMAN, WOOD, WORM, WRENCH, WRESTLERS, X-RAY, XOR, YO-YO, ZEUS, ZOMBIE,
ZWJ, ZWNBSP, ZWNJ, ZWSP;
AC: CURRENT;
ACCOUNT: OF;
ACTIVATE: ARABIC FORM SHAPING, SYMMETRIC SWAPPING;
ACUTE: ACCENT, ANGLE;
ADDRESSED: TO THE SUBJECT;
ADHESIVE: BANDAGE;
ADI: SHAKTI;
ADLAM: HAMZA, NUKTA;
ADLAM ALIF: LENGTHENER;
ADLAM CAPITAL LETTER: ALIF, BA, BHE, CHI, DAALI, DHA, E, FA, GA, GBE, HA, I, JIIM, KAF, KHA, KPO,
LAAM, MIIM, NHA, NUN, NYA, O, PE, QAAF, RA, SHA, SINNYIIYHE, TU, U, VA, WAW, YA, YHE, ZAL;
ADLAM CONSONANT: MODIFIER;
ADLAM DIGIT: EIGHT, FIVE, FOUR, NINE, ONE, SEVEN, SIX, THREE, TWO, ZERO;
ADLAM GEMINATE: CONSONANT MODIFIER;
ADLAM GEMINATION: MARK;
ADLAM INITIAL: EXCLAMATION MARK, QUESTION MARK;
ADLAM NASALIZATION: MARK;
ADLAM SMALL LETTER: ALIF, BA, BHE, CHI, DAALI, DHA, E, FA, GA, GBE, HA, I, JIIM, KAF, KHA, KPO,
LAAM, MIIM, NHA, NUN, NYA, O, PE, QAAF, RA, SHA, SINNYIIYHE, TU, U, VA, WAW, YA, YHE, ZAL;
ADLAM VOWEL: LENGTHENER;
ADMISSION: TICKETS;
AEGEAN CHECK: MARK;
AEGEAN DRY: MEASURE FIRST SUBUNIT;
AEGEAN LIQUID: MEASURE FIRST SUBUNIT;
AEGEAN MEASURE: SECOND SUBUNIT, THIRD SUBUNIT;
AEGEAN NUMBER: EIGHT, EIGHT HUNDRED, EIGHT THOUSAND, EIGHTY, EIGHTY THOUSAND, FIFTY, FIFTY
THOUSAND, FIVE, FIVE HUNDRED, FIVE THOUSAND, FORTY, FORTY THOUSAND, FOUR, FOUR HUNDRED, FOUR
THOUSAND, NINE, NINE HUNDRED, NINE THOUSAND, NINETY, NINETY THOUSAND, ONE, ONE HUNDRED, ONE
THOUSAND, SEVEN, SEVEN HUNDRED, SEVEN THOUSAND, SEVENTY, SEVENTY THOUSAND, SIX, SIX HUNDRED, SIX
THOUSAND, SIXTY, SIXTY THOUSAND, TEN, TEN THOUSAND, THIRTY, THIRTY THOUSAND, THREE, THREE HUNDRED,
THREE THOUSAND, TWENTY, TWENTY THOUSAND, TWO, TWO HUNDRED, TWO THOUSAND;
AEGEAN WEIGHT: BASE UNIT, FIRST SUBUNIT, FOURTH SUBUNIT, SECOND SUBUNIT, THIRD SUBUNIT;
AEGEAN WORD SEPARATOR: DOT, LINE;
AERIAL: TRAMWAY;
AFGHANI: SIGN;
AHOM CONSONANT SIGN MEDIAL: LA, LIGATING RA, RA;
AHOM DIGIT: EIGHT, FIVE, FOUR, NINE, ONE, SEVEN, SIX, THREE, TWO, ZERO;
AHOM LETTER: A, ALTERNATE BA, ALTERNATE GA, ALTERNATE TA, BA, BHA, CA, CHA, DA, DDA, DDHA, DHA,
GA, GHA, HA, JA, JHA, KA, KHA, LA, LLA, MA, NA, NGA, NNA, NYA, PA, PHA, RA, SA, TA, THA, TTA,
TTHA;
AHOM NUMBER: TEN, TWENTY;
AHOM SIGN: KILLER, RULAI, SECTION, SMALL SECTION;
AHOM SYMBOL: VI;
AHOM VOWEL SIGN: A, AA, AI, AM, AW, E, I, II, O, U, UU;
AIRPLANE: ARRIVING, DEPARTURE;
ALARM: CLOCK;
ALCHEMICAL SYMBOL FOR: AIR, ALEMBIC, ALKALI, ALKALI-2, ALUM, AMALGAM, ANTIMONY ORE, AQUA REGIA,
AQUA REGIA-2, AQUA VITAE, AQUA VITAE-2, AQUAFORTIS, ARSENIC, ASHES, AURIPIGMENT, BATH OF MARY,
BATH OF VAPOURS, BISMUTH ORE, BLACK SULFUR, BORAX, BORAX-2, BORAX-3, BRICK, CADUCEUS, CALX, CAPUT
MORTUUM, CINNABAR, COPPER ANTIMONIATE, COPPER ORE, CROCUS OF COPPER, CROCUS OF COPPER-2, CROCUS OF
IRON, CRUCIBLE, CRUCIBLE-2, CRUCIBLE-3, CRUCIBLE-4, CRUCIBLE-5, DAY-NIGHT, DISSOLVE, DISSOLVE-2,
DISTILL, EARTH, FIRE, GOLD, GUM, HALF DRAM, HALF OUNCE, HORSE DUNG, HOUR, IRON ORE, IRON ORE-2,
IRON-COPPER ORE, LEAD ORE, LODESTONE, MARCASITE, MERCURY SUBLIMATE, MERCURY SUBLIMATE-2, MERCURY
SUBLIMATE-3, MONTH, NIGHT, NITRE, OIL, PHILOSOPHERS SULFUR, POT ASHES, POWDER, POWDERED BRICK,
PRECIPITATE, PURIFY, PUTREFACTION, QUICK LIME, QUINTESSENCE, REALGAR, REALGAR-2, REGULUS, REGULUS
OF ANTIMONY, REGULUS OF ANTIMONY-2, REGULUS OF IRON, REGULUS-2, REGULUS-3, REGULUS-4, RETORT, ROCK
SALT, ROCK SALT-2, SAL-AMMONIAC, SALT, SALT OF ANTIMONY, SALT OF COPPER ANTIMONIATE, SCEPTER OF
JOVE, SILVER, SOAP, SPIRIT, STARRED TRIDENT, STRATUM SUPER STRATUM, STRATUM SUPER STRATUM-2,
SUBLIMATE OF ANTIMONY, SUBLIMATE OF COPPER, SUBLIMATE OF SALT OF ANTIMONY, SUBLIMATE OF SALT OF
COPPER, SUBLIMATION, SULFUR, TARTAR, TARTAR-2, TIN ORE, TINCTURE, TRIDENT, TUTTY, URINE,
VERDIGRIS, VINEGAR, VINEGAR OF ANTIMONY, VINEGAR-2, VINEGAR-3, VITRIOL, VITRIOL-2, WATER, WAX;
ALEF: SYMBOL;
ALIEN: MONSTER;
ALL: AROUND-PROFILE, EQUAL TO;
ALMOST EQUAL: OR EQUAL TO, TO, TO WITH CIRCUMFLEX ACCENT;
ALTERNATE: ONE-WAY LEFT WAY TRAFFIC;
ALTERNATIVE: KEY SYMBOL;
AMALGAMATION: OR COPRODUCT;
AMERICAN: FOOTBALL;
ANATOLIAN HIEROGLYPH: A001, A002, A003, A004, A005, A006, A007, A008, A009, A010, A010A, A011,
A012, A013, A014, A015, A016, A017, A018, A019, A020, A021, A022, A023, A024, A025, A026, A026A,
A027, A028, A029, A030, A031, A032, A033, A034, A035, A036, A037, A038, A039, A039A, A040, A041,
A041A, A042, A043, A044, A045, A045A, A046, A046A, A046B, A047, A048, A049, A050, A051, A052,
A053, A054, A055, A056, A057, A058, A059, A060, A061, A062, A063, A064, A065, A066, A066A, A066B,
A066C, A067, A068, A069, A070, A071, A072, A073, A074, A075, A076, A077, A078, A079, A080, A081,
A082, A083, A084, A085, A086, A087, A088, A089, A090, A091, A092, A093, A094, A095, A096, A097,
A097A, A098, A098A, A099, A100, A100A, A101, A101A, A102, A102A, A103, A104, A104A, A104B, A104C,
A105, A105A, A105B, A106, A107, A107A, A107B, A107C, A108, A109, A110, A110A, A110B, A111, A112,
A113, A114, A115, A115A, A116, A117, A118, A119, A120, A121, A122, A123, A124, A125, A125A, A126,
A127, A128, A129, A130, A131, A132, A133, A134, A135, A135A, A136, A137, A138, A139, A140, A141,
A142, A143, A144, A145, A146, A147, A148, A149, A150, A151, A152, A153, A154, A155, A156, A157,
A158, A159, A160, A161, A162, A163, A164, A165, A166, A167, A168, A169, A170, A171, A172, A173,
A174, A175, A176, A177, A178, A179, A180, A181, A182, A183, A184, A185, A186, A187, A188, A189,
A190, A191, A192, A193, A194, A195, A196, A197, A198, A199, A200, A201, A202, A202A, A202B, A203,
A204, A205, A206, A207, A207A, A208, A209, A209A, A210, A211, A212, A213, A214, A215, A215A, A216,
A216A, A217, A218, A219, A220, A221, A222, A223, A224, A225, A226, A227, A227A, A228, A229, A230,
A231, A232, A233, A234, A235, A236, A237, A238, A239, A240, A241, A242, A243, A244, A245, A246,
A247, A248, A249, A250, A251, A252, A253, A254, A255, A256, A257, A258, A259, A260, A261, A262,
A263, A264, A265, A266, A267, A267A, A268, A269, A270, A271, A272, A273, A274, A275, A276, A277,
A278, A279, A280, A281, A282, A283, A284, A285, A286, A287, A288, A289, A289A, A290, A291, A292,
A293, A294, A294A, A295, A296, A297, A298, A299, A299A, A300, A301, A302, A303, A304, A305, A306,
A307, A308, A309, A309A, A310, A311, A312, A313, A314, A315, A316, A317, A318, A319, A320, A321,
A322, A323, A324, A325, A326, A327, A328, A329, A329A, A330, A331, A332A, A332B, A332C, A333,
A334, A335, A336, A336A, A336B, A336C, A337, A338, A339, A340, A341, A342, A343, A344, A345, A346,
A347, A348, A349, A350, A351, A352, A353, A354, A355, A356, A357, A358, A359, A359A, A360, A361,
A362, A363, A364, A364A, A365, A366, A367, A368, A368A, A369, A370, A371, A371A, A372, A373, A374,
A375, A376, A377, A378, A379, A380, A381, A381A, A382, A383 RA OR RI, A383A, A384, A385, A386,
A386A, A387, A388, A389, A390, A391, A392, A393 EIGHT, A394, A395, A396, A397, A398, A399, A400,
A401, A402, A403, A404, A405, A406, A407, A408, A409, A410 BEGIN LOGOGRAM MARK, A410A END LOGOGRAM
MARK, A411, A412, A413, A414, A415, A416, A417, A418, A419, A420, A421, A422, A423, A424, A425,
A426, A427, A428, A429, A430, A431, A432, A433, A434, A435, A436, A437, A438, A439, A440, A441,
A442, A443, A444, A445, A446, A447, A448, A449, A450, A450A, A451, A452, A453, A454, A455, A456,
A457, A457A, A458, A459, A460, A461, A462, A463, A464, A465, A466, A467, A468, A469, A470, A471,
A472, A473, A474, A475, A476, A477, A478, A479, A480, A481, A482, A483, A484, A485, A486, A487,
A488, A489, A490, A491, A492, A493, A494, A495, A496, A497, A501, A502, A503, A504, A505, A506,
A507, A508, A509, A510, A511, A512, A513, A514, A515, A516, A517, A518, A519, A520, A521, A522,
A523, A524, A525, A526, A527, A528, A529, A530;
ANATOMICAL: HEART;
AND: WITH DOT;
ANGER: SYMBOL;
ANGLE WITH: S INSIDE, UNDERBAR;
ANGRY: FACE;
ANGSTROM: SIGN;
ANGUISHED: FACE;
ANTENNA: WITH BARS;
ANTICLOCKWISE: CLOSED CIRCLE ARROW, CONTOUR INTEGRAL, DOWNWARDS AND UPWARDS OPEN CIRCLE ARROWS,
GAPPED CIRCLE ARROW, INTEGRATION, OPEN CIRCLE ARROW, TOP SEMICIRCLE ARROW, TRIANGLE-HEADED BOTTOM
U-SHAPED ARROW, TRIANGLE-HEADED LEFT U-SHAPED ARROW, TRIANGLE-HEADED OPEN CIRCLE ARROW,
TRIANGLE-HEADED RIGHT U-SHAPED ARROW, TRIANGLE-HEADED TOP U-SHAPED ARROW;
APL FUNCTIONAL SYMBOL: ALPHA, ALPHA UNDERBAR, BACKSLASH BAR, CIRCLE BACKSLASH, CIRCLE DIAERESIS,
CIRCLE JOT, CIRCLE STAR, CIRCLE STILE, CIRCLE UNDERBAR, COMMA BAR, DEL DIAERESIS, DEL STILE, DEL
TILDE, DELTA STILE, DELTA UNDERBAR, DIAMOND UNDERBAR, DOWN CARET TILDE, DOWN SHOE STILE, DOWN TACK
JOT, DOWN TACK UNDERBAR, DOWNWARDS VANE, EPSILON UNDERBAR, GREATER-THAN DIAERESIS, I-BEAM, IOTA,
IOTA UNDERBAR, JOT DIAERESIS, JOT UNDERBAR, LEFT SHOE STILE, LEFTWARDS VANE, OMEGA, OMEGA
UNDERBAR, QUAD, QUAD BACKSLASH, QUAD CIRCLE, QUAD COLON, QUAD DEL, QUAD DELTA, QUAD DIAMOND, QUAD
DIVIDE, QUAD DOWN CARET, QUAD DOWNWARDS ARROW, QUAD EQUAL, QUAD GREATER-THAN, QUAD JOT, QUAD
LEFTWARDS ARROW, QUAD LESS-THAN, QUAD NOT EQUAL, QUAD QUESTION, QUAD RIGHTWARDS ARROW, QUAD SLASH,
QUAD UP CARET, QUAD UPWARDS ARROW, QUOTE QUAD, QUOTE UNDERBAR, RHO, RIGHTWARDS VANE, SEMICOLON
UNDERBAR, SLASH BAR, SQUISH QUAD, STAR DIAERESIS, STILE TILDE, TILDE DIAERESIS, UP CARET TILDE, UP
SHOE JOT, UP TACK DIAERESIS, UP TACK JOT, UP TACK OVERBAR, UPWARDS VANE, ZILDE;
APPLICATION: PROGRAM COMMAND;
APPROACHES: THE LIMIT;
APPROXIMATELY: BUT NOT ACTUALLY EQUAL TO, EQUAL OR EQUAL TO, EQUAL TO, EQUAL TO OR THE IMAGE OF;
ARABIC: COMMA, DAMMA, DAMMATAN, FATHA, FATHATAN, KASRA, KASRATAN, RAY, SEMICOLON, SHADDA, SUKUN,
TATWEEL, ZWARAKAY;
ARABIC BASELINE: ROUND DOT;
ARABIC CURLY: DAMMA, DAMMATAN, FATHA, FATHATAN, KASRA, KASRATAN;
ARABIC DAMMA: ISOLATED FORM, MEDIAL FORM, WITH DOT;
ARABIC DAMMATAN: ISOLATED FORM;
ARABIC DATE: SEPARATOR;
ARABIC DECIMAL: SEPARATOR;
ARABIC DISPUTED: END OF AYAH;
ARABIC DOUBLE RIGHT ARROWHEAD: ABOVE, ABOVE WITH DOT;
ARABIC DOUBLED: MADDA;
ARABIC EMPTY CENTRE: HIGH STOP, LOW STOP;
ARABIC END OF: AYAH, TEXT MARK;
ARABIC FATHA: ISOLATED FORM, MEDIAL FORM, WITH DOT ABOVE, WITH RING, WITH TWO DOTS;
ARABIC FATHATAN: ISOLATED FORM;
ARABIC FIVE: POINTED STAR;
ARABIC FOOTNOTE: MARKER;
ARABIC FULL: STOP;
ARABIC HALF: MADDA OVER MADDA;
ARABIC HAMZA: ABOVE, BELOW;
ARABIC INVERTED: DAMMA;
ARABIC KASRA: ISOLATED FORM, MEDIAL FORM, WITH DOT BELOW;
ARABIC KASRATAN: ISOLATED FORM;
ARABIC LARGE: CIRCLE BELOW, ROUND DOT ABOVE, ROUND DOT BELOW, ROUND DOT INSIDE CIRCLE BELOW;
ARABIC LEFT ARROWHEAD: ABOVE, BELOW;
ARABIC LETTER: AE, AFRICAN FEH, AFRICAN NOON, AFRICAN QAF, AFRICAN QAF WITH THREE DOTS ABOVE, AIN,
AIN FINAL FORM, AIN INITIAL FORM, AIN ISOLATED FORM, AIN MEDIAL FORM, AIN WITH THREE DOTS ABOVE,
AIN WITH THREE DOTS BELOW, AIN WITH THREE DOTS POINTING DOWNWARDS ABOVE, AIN WITH TWO DOTS ABOVE,
AIN WITH TWO DOTS VERTICALLY ABOVE, ALEF, ALEF FINAL FORM, ALEF ISOLATED FORM, ALEF MAKSURA, ALEF
MAKSURA FINAL FORM, ALEF MAKSURA ISOLATED FORM, ALEF WASLA, ALEF WASLA FINAL FORM, ALEF WASLA
ISOLATED FORM, ALEF WITH ATTACHED BOTTOM RIGHT KASRA, ALEF WITH ATTACHED BOTTOM RIGHT KASRA AND
DOT ABOVE, ALEF WITH ATTACHED BOTTOM RIGHT KASRA AND LEFT RING, ALEF WITH ATTACHED FATHA, ALEF
WITH ATTACHED KASRA, ALEF WITH ATTACHED LEFT HAMZA, ALEF WITH ATTACHED LEFT ROUND DOT, ALEF WITH
ATTACHED RIGHT HAMZA, ALEF WITH ATTACHED RIGHT ROUND DOT, ALEF WITH ATTACHED ROUND DOT ABOVE, ALEF
WITH ATTACHED ROUND DOT BELOW, ALEF WITH ATTACHED TOP RIGHT FATHA, ALEF WITH ATTACHED TOP RIGHT
FATHA AND DOT ABOVE, ALEF WITH ATTACHED TOP RIGHT FATHA AND LEFT RING, ALEF WITH DOT ABOVE, ALEF
WITH EXTENDED ARABIC-INDIC DIGIT THREE ABOVE, ALEF WITH EXTENDED ARABIC-INDIC DIGIT TWO ABOVE,
ALEF WITH HAMZA ABOVE, ALEF WITH HAMZA ABOVE FINAL FORM, ALEF WITH HAMZA ABOVE ISOLATED FORM, ALEF
WITH HAMZA BELOW, ALEF WITH HAMZA BELOW FINAL FORM, ALEF WITH HAMZA BELOW ISOLATED FORM, ALEF WITH
LEFT MIDDLE STROKE, ALEF WITH MADDA ABOVE, ALEF WITH MADDA ABOVE FINAL FORM, ALEF WITH MADDA ABOVE
ISOLATED FORM, ALEF WITH RIGHT MIDDLE STROKE, ALEF WITH RIGHT MIDDLE STROKE AND DOT ABOVE, ALEF
WITH RIGHT MIDDLE STROKE AND LEFT RING, ALEF WITH WAVY HAMZA ABOVE, ALEF WITH WAVY HAMZA BELOW,
BEEH, BEEH FINAL FORM, BEEH INITIAL FORM, BEEH ISOLATED FORM, BEEH MEDIAL FORM, BEH, BEH FINAL
FORM, BEH INITIAL FORM, BEH ISOLATED FORM, BEH MEDIAL FORM, BEH WITH DOT BELOW AND THREE DOTS
ABOVE, BEH WITH HAMZA ABOVE, BEH WITH INVERTED SMALL V BELOW, BEH WITH SMALL MEEM ABOVE, BEH WITH
SMALL V, BEH WITH SMALL V BELOW, BEH WITH THREE DOTS HORIZONTALLY BELOW, BEH WITH THREE DOTS
POINTING UPWARDS BELOW, BEH WITH THREE DOTS POINTING UPWARDS BELOW AND TWO DOTS ABOVE, BEH WITH
TWO DOTS BELOW AND DOT ABOVE, BEHEH, BEHEH FINAL FORM, BEHEH INITIAL FORM, BEHEH ISOLATED FORM,
BEHEH MEDIAL FORM, DAD, DAD FINAL FORM, DAD INITIAL FORM, DAD ISOLATED FORM, DAD MEDIAL FORM, DAD
WITH DOT BELOW, DAHAL, DAHAL FINAL FORM, DAHAL ISOLATED FORM, DAL, DAL FINAL FORM, DAL ISOLATED
FORM, DAL WITH DOT BELOW, DAL WITH DOT BELOW AND SMALL TAH, DAL WITH FOUR DOTS ABOVE, DAL WITH
INVERTED SMALL V BELOW, DAL WITH INVERTED V, DAL WITH RING, DAL WITH THREE DOTS ABOVE DOWNWARDS,
DAL WITH THREE DOTS BELOW, DAL WITH TWO DOTS VERTICALLY BELOW AND SMALL TAH, DDAHAL, DDAHAL FINAL
FORM, DDAHAL ISOLATED FORM, DDAL, DDAL FINAL FORM, DDAL ISOLATED FORM, DOTLESS BEH, DOTLESS FEH,
DOTLESS QAF, DUL, DUL FINAL FORM, DUL ISOLATED FORM, DYEH, DYEH FINAL FORM, DYEH INITIAL FORM,
DYEH ISOLATED FORM, DYEH MEDIAL FORM, E, E FINAL FORM, E INITIAL FORM, E ISOLATED FORM, E MEDIAL
FORM, FARSI YEH, FARSI YEH FINAL FORM, FARSI YEH INITIAL FORM, FARSI YEH ISOLATED FORM, FARSI YEH
MEDIAL FORM, FARSI YEH WITH EXTENDED ARABIC-INDIC DIGIT FOUR BELOW, FARSI YEH WITH EXTENDED
ARABIC-INDIC DIGIT THREE ABOVE, FARSI YEH WITH EXTENDED ARABIC-INDIC DIGIT TWO ABOVE, FARSI YEH
WITH INVERTED V, FARSI YEH WITH THREE DOTS ABOVE, FARSI YEH WITH TWO DOTS ABOVE, FEH, FEH FINAL
FORM, FEH INITIAL FORM, FEH ISOLATED FORM, FEH MEDIAL FORM, FEH WITH DOT BELOW, FEH WITH DOT BELOW
AND THREE DOTS ABOVE, FEH WITH DOT MOVED BELOW, FEH WITH THREE DOTS BELOW, FEH WITH THREE DOTS
POINTING UPWARDS BELOW, FEH WITH TWO DOTS BELOW, GAF, GAF FINAL FORM, GAF INITIAL FORM, GAF
ISOLATED FORM, GAF MEDIAL FORM, GAF WITH INVERTED STROKE, GAF WITH RING, GAF WITH THREE DOTS
ABOVE, GAF WITH TWO DOTS BELOW, GHAIN, GHAIN FINAL FORM, GHAIN INITIAL FORM, GHAIN ISOLATED FORM,
GHAIN MEDIAL FORM, GHAIN WITH DOT BELOW, GHAIN WITH THREE DOTS ABOVE, GRAF, GUEH, GUEH FINAL FORM,
GUEH INITIAL FORM, GUEH ISOLATED FORM, GUEH MEDIAL FORM, HAH, HAH FINAL FORM, HAH INITIAL FORM,
HAH ISOLATED FORM, HAH MEDIAL FORM, HAH WITH EXTENDED ARABIC-INDIC DIGIT FOUR BELOW, HAH WITH
HAMZA ABOVE, HAH WITH INVERTED SMALL V BELOW, HAH WITH SMALL ARABIC LETTER TAH ABOVE, HAH WITH
SMALL ARABIC LETTER TAH AND TWO DOTS, HAH WITH SMALL ARABIC LETTER TAH BELOW, HAH WITH THREE DOTS
ABOVE, HAH WITH THREE DOTS POINTING UPWARDS BELOW, HAH WITH TWO DOTS ABOVE, HAH WITH TWO DOTS
VERTICAL ABOVE, HAMZA, HAMZA ISOLATED FORM, HEH, HEH DOACHASHMEE, HEH DOACHASHMEE FINAL FORM, HEH
DOACHASHMEE INITIAL FORM, HEH DOACHASHMEE ISOLATED FORM, HEH DOACHASHMEE MEDIAL FORM, HEH FINAL
FORM, HEH GOAL, HEH GOAL FINAL FORM, HEH GOAL INITIAL FORM, HEH GOAL ISOLATED FORM, HEH GOAL
MEDIAL FORM, HEH GOAL WITH HAMZA ABOVE, HEH INITIAL FORM, HEH ISOLATED FORM, HEH MEDIAL FORM, HEH
WITH INVERTED V, HEH WITH YEH ABOVE, HEH WITH YEH ABOVE FINAL FORM, HEH WITH YEH ABOVE ISOLATED
FORM, HIGH HAMZA, HIGH HAMZA ALEF, HIGH HAMZA WAW, HIGH HAMZA YEH, JEEM, JEEM FINAL FORM, JEEM
INITIAL FORM, JEEM ISOLATED FORM, JEEM MEDIAL FORM, JEEM WITH THREE DOTS ABOVE, JEEM WITH THREE
DOTS BELOW, JEEM WITH TWO DOTS ABOVE, JEH, JEH FINAL FORM, JEH ISOLATED FORM, KAF, KAF FINAL FORM,
KAF INITIAL FORM, KAF ISOLATED FORM, KAF MEDIAL FORM, KAF WITH DOT ABOVE, KAF WITH DOT BELOW, KAF
WITH RING, KAF WITH THREE DOTS BELOW, KAF WITH TWO DOTS ABOVE, KASHMIRI YEH, KEHEH, KEHEH FINAL
FORM, KEHEH INITIAL FORM, KEHEH ISOLATED FORM, KEHEH MEDIAL FORM, KEHEH WITH DOT ABOVE, KEHEH WITH
SMALL V, KEHEH WITH THREE DOTS ABOVE, KEHEH WITH THREE DOTS BELOW, KEHEH WITH THREE DOTS POINTING
UPWARDS BELOW, KEHEH WITH TWO DOTS ABOVE, KEHEH WITH TWO DOTS VERTICALLY BELOW, KHAH, KHAH FINAL
FORM, KHAH INITIAL FORM, KHAH ISOLATED FORM, KHAH MEDIAL FORM, KIRGHIZ OE, KIRGHIZ OE FINAL FORM,
KIRGHIZ OE ISOLATED FORM, KIRGHIZ YU, KIRGHIZ YU FINAL FORM, KIRGHIZ YU ISOLATED FORM, LAM, LAM
FINAL FORM, LAM INITIAL FORM, LAM ISOLATED FORM, LAM MEDIAL FORM, LAM WITH BAR, LAM WITH DOT
ABOVE, LAM WITH DOUBLE BAR, LAM WITH SMALL ARABIC LETTER TAH ABOVE, LAM WITH SMALL V, LAM WITH
THREE DOTS ABOVE, LAM WITH THREE DOTS BELOW, LOW ALEF, MARK, MEEM, MEEM FINAL FORM, MEEM INITIAL
FORM, MEEM ISOLATED FORM, MEEM MEDIAL FORM, MEEM WITH DOT ABOVE, MEEM WITH DOT BELOW, MEEM WITH
THREE DOTS ABOVE, NG, NG FINAL FORM, NG INITIAL FORM, NG ISOLATED FORM, NG MEDIAL FORM, NGOEH,
NGOEH FINAL FORM, NGOEH INITIAL FORM, NGOEH ISOLATED FORM, NGOEH MEDIAL FORM, NOON, NOON FINAL
FORM, NOON GHUNNA, NOON GHUNNA FINAL FORM, NOON GHUNNA ISOLATED FORM, NOON INITIAL FORM, NOON
ISOLATED FORM, NOON MEDIAL FORM, NOON WITH DOT BELOW, NOON WITH INVERTED SMALL V, NOON WITH RING,
NOON WITH SMALL TAH, NOON WITH SMALL V, NOON WITH THREE DOTS ABOVE, NOON WITH TWO DOTS BELOW,
NYEH, NYEH FINAL FORM, NYEH INITIAL FORM, NYEH ISOLATED FORM, NYEH MEDIAL FORM, OE, OE FINAL FORM,
OE ISOLATED FORM, PEH, PEH FINAL FORM, PEH INITIAL FORM, PEH ISOLATED FORM, PEH MEDIAL FORM, PEH
WITH SMALL MEEM ABOVE, PEH WITH SMALL V, PEHEH, PEHEH FINAL FORM, PEHEH INITIAL FORM, PEHEH
ISOLATED FORM, PEHEH MEDIAL FORM, QAF, QAF FINAL FORM, QAF INITIAL FORM, QAF ISOLATED FORM, QAF
MEDIAL FORM, QAF WITH DOT ABOVE, QAF WITH DOT BELOW, QAF WITH DOT BELOW AND NO DOTS ABOVE, QAF
WITH THREE DOTS ABOVE, REH, REH FINAL FORM, REH ISOLATED FORM, REH WITH DOT BELOW, REH WITH DOT
BELOW AND DOT ABOVE, REH WITH FOUR DOTS ABOVE, REH WITH HAMZA ABOVE, REH WITH INVERTED V, REH WITH
LOOP, REH WITH RING, REH WITH SMALL ARABIC LETTER TAH AND TWO DOTS, REH WITH SMALL NOON ABOVE, REH
WITH SMALL V, REH WITH SMALL V BELOW, REH WITH STROKE, REH WITH TWO DOTS ABOVE, REH WITH TWO DOTS
VERTICALLY ABOVE, RNOON, RNOON FINAL FORM, RNOON INITIAL FORM, RNOON ISOLATED FORM, RNOON MEDIAL
FORM, ROHINGYA YEH, RREH, RREH FINAL FORM, RREH ISOLATED FORM, SAD, SAD FINAL FORM, SAD INITIAL
FORM, SAD ISOLATED FORM, SAD MEDIAL FORM, SAD WITH THREE DOTS ABOVE, SAD WITH THREE DOTS BELOW,
SAD WITH TWO DOTS BELOW, SEEN, SEEN FINAL FORM, SEEN INITIAL FORM, SEEN ISOLATED FORM, SEEN MEDIAL
FORM, SEEN WITH DOT BELOW AND DOT ABOVE, SEEN WITH EXTENDED ARABIC-INDIC DIGIT FOUR ABOVE, SEEN
WITH FOUR DOTS ABOVE, SEEN WITH INVERTED V, SEEN WITH SMALL ARABIC LETTER TAH AND TWO DOTS, SEEN
WITH THREE DOTS BELOW, SEEN WITH THREE DOTS BELOW AND THREE DOTS ABOVE, SEEN WITH TWO DOTS
VERTICALLY ABOVE, SHEEN, SHEEN FINAL FORM, SHEEN INITIAL FORM, SHEEN ISOLATED FORM, SHEEN MEDIAL
FORM, SHEEN WITH DOT BELOW, STRAIGHT WAW, SUPERSCRIPT ALEF, SWASH KAF, TAH, TAH FINAL FORM, TAH
INITIAL FORM, TAH ISOLATED FORM, TAH MEDIAL FORM, TAH WITH DOT BELOW, TAH WITH THREE DOTS ABOVE,
TAH WITH THREE DOTS BELOW, TAH WITH TWO DOTS ABOVE, TCHEH, TCHEH FINAL FORM, TCHEH INITIAL FORM,
TCHEH ISOLATED FORM, TCHEH MEDIAL FORM, TCHEH WITH DOT ABOVE, TCHEH WITH SMALL V, TCHEHEH, TCHEHEH
FINAL FORM, TCHEHEH INITIAL FORM, TCHEHEH ISOLATED FORM, TCHEHEH MEDIAL FORM, TEH, TEH FINAL FORM,
TEH INITIAL FORM, TEH ISOLATED FORM, TEH MARBUTA, TEH MARBUTA FINAL FORM, TEH MARBUTA GOAL, TEH
MARBUTA ISOLATED FORM, TEH MEDIAL FORM, TEH WITH RING, TEH WITH SMALL TEH ABOVE, TEH WITH SMALL V,
TEH WITH THREE DOTS ABOVE DOWNWARDS, TEHEH, TEHEH FINAL FORM, TEHEH INITIAL FORM, TEHEH ISOLATED
FORM, TEHEH MEDIAL FORM, THAL, THAL FINAL FORM, THAL ISOLATED FORM, THEH, THEH FINAL FORM, THEH
INITIAL FORM, THEH ISOLATED FORM, THEH MEDIAL FORM, THIN YEH, TTEH, TTEH FINAL FORM, TTEH INITIAL
FORM, TTEH ISOLATED FORM, TTEH MEDIAL FORM, TTEH WITH SMALL V, TTEHEH, TTEHEH FINAL FORM, TTEHEH
INITIAL FORM, TTEHEH ISOLATED FORM, TTEHEH MEDIAL FORM, U, U FINAL FORM, U ISOLATED FORM, U WITH
HAMZA ABOVE, U WITH HAMZA ABOVE ISOLATED FORM, UIGHUR KAZAKH KIRGHIZ ALEF MAKSURA INITIAL FORM,
UIGHUR KAZAKH KIRGHIZ ALEF MAKSURA MEDIAL FORM, VE, VE FINAL FORM, VE ISOLATED FORM, VEH, VEH
FINAL FORM, VEH INITIAL FORM, VEH ISOLATED FORM, VEH MEDIAL FORM, WAW, WAW FINAL FORM, WAW
ISOLATED FORM, WAW WITH DOT ABOVE, WAW WITH DOT WITHIN, WAW WITH EXTENDED ARABIC-INDIC DIGIT THREE
ABOVE, WAW WITH EXTENDED ARABIC-INDIC DIGIT TWO ABOVE, WAW WITH HAMZA ABOVE, WAW WITH HAMZA ABOVE
FINAL FORM, WAW WITH HAMZA ABOVE ISOLATED FORM, WAW WITH RING, WAW WITH TWO DOTS ABOVE, YEH, YEH
BARREE, YEH BARREE FINAL FORM, YEH BARREE ISOLATED FORM, YEH BARREE WITH EXTENDED ARABIC-INDIC
DIGIT THREE ABOVE, YEH BARREE WITH EXTENDED ARABIC-INDIC DIGIT TWO ABOVE, YEH BARREE WITH HAMZA
ABOVE, YEH BARREE WITH HAMZA ABOVE FINAL FORM, YEH BARREE WITH HAMZA ABOVE ISOLATED FORM, YEH
FINAL FORM, YEH INITIAL FORM, YEH ISOLATED FORM, YEH MEDIAL FORM, YEH WITH HAMZA ABOVE, YEH WITH
HAMZA ABOVE FINAL FORM, YEH WITH HAMZA ABOVE INITIAL FORM, YEH WITH HAMZA ABOVE ISOLATED FORM, YEH
WITH HAMZA ABOVE MEDIAL FORM, YEH WITH SMALL V, YEH WITH TAIL, YEH WITH THREE DOTS BELOW, YEH WITH
TWO DOTS BELOW AND DOT ABOVE, YEH WITH TWO DOTS BELOW AND HAMZA ABOVE, YEH WITH TWO DOTS BELOW AND
SMALL NOON ABOVE, YU, YU FINAL FORM, YU ISOLATED FORM, ZAH, ZAH FINAL FORM, ZAH INITIAL FORM, ZAH
ISOLATED FORM, ZAH MEDIAL FORM, ZAIN, ZAIN FINAL FORM, ZAIN ISOLATED FORM, ZAIN WITH INVERTED V
ABOVE;
ARABIC LIGATURE: JALLAJALALOUHOU;
ARABIC LIGATURE AIN WITH: ALEF MAKSURA FINAL FORM, ALEF MAKSURA ISOLATED FORM, JEEM INITIAL FORM,
JEEM ISOLATED FORM, JEEM WITH MEEM FINAL FORM, JEEM WITH MEEM INITIAL FORM, MEEM INITIAL FORM,
MEEM ISOLATED FORM, MEEM WITH ALEF MAKSURA FINAL FORM, MEEM WITH MEEM FINAL FORM, MEEM WITH MEEM
INITIAL FORM, MEEM WITH YEH FINAL FORM, YEH FINAL FORM, YEH ISOLATED FORM;
ARABIC LIGATURE AKBAR: ISOLATED FORM;
ARABIC LIGATURE ALAYHAA: AS-SALAAM;
ARABIC LIGATURE ALAYHE: ISOLATED FORM;
ARABIC LIGATURE ALAYHI: AS-SALAAM, AS-SALAATU WAS-SALAAM;
ARABIC LIGATURE ALAYHIM: AS-SALAAM;
ARABIC LIGATURE ALAYHIMAA: AS-SALAAM;
ARABIC LIGATURE ALEF: MAKSURA WITH SUPERSCRIPT ALEF FINAL FORM, MAKSURA WITH SUPERSCRIPT ALEF
ISOLATED FORM, WITH FATHATAN FINAL FORM, WITH FATHATAN ISOLATED FORM;
ARABIC LIGATURE ALLAH: ISOLATED FORM;
ARABIC LIGATURE AZZA: WA JALL;
ARABIC LIGATURE BEH WITH: ALEF MAKSURA FINAL FORM, ALEF MAKSURA ISOLATED FORM, HAH INITIAL FORM,
HAH ISOLATED FORM, HAH WITH YEH FINAL FORM, HEH INITIAL FORM, HEH MEDIAL FORM, JEEM INITIAL FORM,
JEEM ISOLATED FORM, KHAH INITIAL FORM, KHAH ISOLATED FORM, KHAH WITH YEH FINAL FORM, MEEM FINAL
FORM, MEEM INITIAL FORM, MEEM ISOLATED FORM, MEEM MEDIAL FORM, NOON FINAL FORM, REH FINAL FORM,
YEH FINAL FORM, YEH ISOLATED FORM, ZAIN FINAL FORM;
ARABIC LIGATURE BISMILLAH: AR-RAHMAN AR-RAHEEM;
ARABIC LIGATURE DAD WITH: ALEF MAKSURA FINAL FORM, ALEF MAKSURA ISOLATED FORM, HAH INITIAL FORM,
HAH ISOLATED FORM, HAH WITH ALEF MAKSURA FINAL FORM, HAH WITH YEH FINAL FORM, JEEM INITIAL FORM,
JEEM ISOLATED FORM, KHAH INITIAL FORM, KHAH ISOLATED FORM, KHAH WITH MEEM FINAL FORM, KHAH WITH
MEEM INITIAL FORM, MEEM INITIAL FORM, MEEM ISOLATED FORM, REH FINAL FORM, REH ISOLATED FORM, YEH
FINAL FORM, YEH ISOLATED FORM;
ARABIC LIGATURE FEH WITH: ALEF MAKSURA FINAL FORM, ALEF MAKSURA ISOLATED FORM, HAH INITIAL FORM,
HAH ISOLATED FORM, JEEM INITIAL FORM, JEEM ISOLATED FORM, KHAH INITIAL FORM, KHAH ISOLATED FORM,
KHAH WITH MEEM FINAL FORM, KHAH WITH MEEM INITIAL FORM, MEEM INITIAL FORM, MEEM ISOLATED FORM,
MEEM WITH YEH FINAL FORM, YEH FINAL FORM, YEH ISOLATED FORM;
ARABIC LIGATURE GHAIN WITH: ALEF MAKSURA FINAL FORM, ALEF MAKSURA ISOLATED FORM, JEEM INITIAL
FORM, JEEM ISOLATED FORM, MEEM INITIAL FORM, MEEM ISOLATED FORM, MEEM WITH ALEF MAKSURA FINAL
FORM, MEEM WITH MEEM FINAL FORM, MEEM WITH YEH FINAL FORM, YEH FINAL FORM, YEH ISOLATED FORM;
ARABIC LIGATURE HAH WITH: ALEF MAKSURA FINAL FORM, ALEF MAKSURA ISOLATED FORM, JEEM INITIAL FORM,
JEEM ISOLATED FORM, JEEM WITH YEH FINAL FORM, MEEM INITIAL FORM, MEEM ISOLATED FORM, MEEM WITH
ALEF MAKSURA FINAL FORM, MEEM WITH YEH FINAL FORM, YEH FINAL FORM, YEH ISOLATED FORM;
ARABIC LIGATURE HEH WITH: ALEF MAKSURA ISOLATED FORM, JEEM INITIAL FORM, JEEM ISOLATED FORM, MEEM
INITIAL FORM, MEEM ISOLATED FORM, MEEM WITH JEEM INITIAL FORM, MEEM WITH MEEM INITIAL FORM,
SUPERSCRIPT ALEF INITIAL FORM, YEH ISOLATED FORM;
ARABIC LIGATURE JEEM WITH: ALEF MAKSURA FINAL FORM, ALEF MAKSURA ISOLATED FORM, HAH INITIAL FORM,
HAH ISOLATED FORM, HAH WITH ALEF MAKSURA FINAL FORM, HAH WITH YEH FINAL FORM, MEEM INITIAL FORM,
MEEM ISOLATED FORM, MEEM WITH ALEF MAKSURA FINAL FORM, MEEM WITH HAH FINAL FORM, MEEM WITH HAH
INITIAL FORM, MEEM WITH YEH FINAL FORM, YEH FINAL FORM, YEH ISOLATED FORM;
ARABIC LIGATURE KAF WITH: ALEF FINAL FORM, ALEF ISOLATED FORM, ALEF MAKSURA FINAL FORM, ALEF
MAKSURA ISOLATED FORM, HAH INITIAL FORM, HAH ISOLATED FORM, JEEM INITIAL FORM, JEEM ISOLATED FORM,
KHAH INITIAL FORM, KHAH ISOLATED FORM, LAM FINAL FORM, LAM INITIAL FORM, LAM ISOLATED FORM, LAM
MEDIAL FORM, MEEM FINAL FORM, MEEM INITIAL FORM, MEEM ISOLATED FORM, MEEM MEDIAL FORM, MEEM WITH
MEEM FINAL FORM, MEEM WITH MEEM INITIAL FORM, MEEM WITH YEH FINAL FORM, YEH FINAL FORM, YEH
ISOLATED FORM;
ARABIC LIGATURE KHAH WITH: ALEF MAKSURA FINAL FORM, ALEF MAKSURA ISOLATED FORM, HAH ISOLATED FORM,
JEEM INITIAL FORM, JEEM ISOLATED FORM, MEEM INITIAL FORM, MEEM ISOLATED FORM, YEH FINAL FORM, YEH
ISOLATED FORM;
ARABIC LIGATURE LAM WITH: ALEF FINAL FORM, ALEF ISOLATED FORM, ALEF MAKSURA FINAL FORM, ALEF
MAKSURA ISOLATED FORM, ALEF WITH HAMZA ABOVE FINAL FORM, ALEF WITH HAMZA ABOVE ISOLATED FORM, ALEF
WITH HAMZA BELOW FINAL FORM, ALEF WITH HAMZA BELOW ISOLATED FORM, ALEF WITH MADDA ABOVE FINAL
FORM, ALEF WITH MADDA ABOVE ISOLATED FORM, HAH INITIAL FORM, HAH ISOLATED FORM, HAH WITH ALEF
MAKSURA FINAL FORM, HAH WITH MEEM FINAL FORM, HAH WITH MEEM INITIAL FORM, HAH WITH YEH FINAL FORM,
HEH INITIAL FORM, JEEM INITIAL FORM, JEEM ISOLATED FORM, JEEM WITH JEEM FINAL FORM, JEEM WITH JEEM
INITIAL FORM, JEEM WITH MEEM FINAL FORM, JEEM WITH MEEM INITIAL FORM, JEEM WITH YEH FINAL FORM,
KHAH INITIAL FORM, KHAH ISOLATED FORM, KHAH WITH MEEM FINAL FORM, KHAH WITH MEEM INITIAL FORM,
MEEM FINAL FORM, MEEM INITIAL FORM, MEEM ISOLATED FORM, MEEM MEDIAL FORM, MEEM WITH HAH FINAL
FORM, MEEM WITH HAH INITIAL FORM, MEEM WITH YEH FINAL FORM, YEH FINAL FORM, YEH ISOLATED FORM;
ARABIC LIGATURE MEEM WITH: ALEF FINAL FORM, ALEF MAKSURA ISOLATED FORM, HAH INITIAL FORM, HAH
ISOLATED FORM, HAH WITH JEEM INITIAL FORM, HAH WITH MEEM INITIAL FORM, HAH WITH YEH FINAL FORM,
JEEM INITIAL FORM, JEEM ISOLATED FORM, JEEM WITH HAH INITIAL FORM, JEEM WITH KHAH INITIAL FORM,
JEEM WITH MEEM INITIAL FORM, JEEM WITH YEH FINAL FORM, KHAH INITIAL FORM, KHAH ISOLATED FORM, KHAH
WITH JEEM INITIAL FORM, KHAH WITH MEEM INITIAL FORM, KHAH WITH YEH FINAL FORM, MEEM FINAL FORM,
MEEM INITIAL FORM, MEEM ISOLATED FORM, MEEM WITH YEH FINAL FORM, YEH ISOLATED FORM;
ARABIC LIGATURE MOHAMMAD: ISOLATED FORM;
ARABIC LIGATURE NOON WITH: ALEF MAKSURA FINAL FORM, ALEF MAKSURA ISOLATED FORM, HAH INITIAL FORM,
HAH ISOLATED FORM, HAH WITH ALEF MAKSURA FINAL FORM, HAH WITH MEEM INITIAL FORM, HAH WITH YEH
FINAL FORM, HEH INITIAL FORM, HEH MEDIAL FORM, JEEM INITIAL FORM, JEEM ISOLATED FORM, JEEM WITH
ALEF MAKSURA FINAL FORM, JEEM WITH HAH FINAL FORM, JEEM WITH HAH INITIAL FORM, JEEM WITH MEEM
FINAL FORM, JEEM WITH MEEM INITIAL FORM, JEEM WITH YEH FINAL FORM, KHAH INITIAL FORM, KHAH
ISOLATED FORM, MEEM FINAL FORM, MEEM INITIAL FORM, MEEM ISOLATED FORM, MEEM MEDIAL FORM, MEEM WITH
ALEF MAKSURA FINAL FORM, MEEM WITH YEH FINAL FORM, NOON FINAL FORM, REH FINAL FORM, YEH FINAL
FORM, YEH ISOLATED FORM, ZAIN FINAL FORM;
ARABIC LIGATURE QAF WITH: ALEF MAKSURA FINAL FORM, ALEF MAKSURA ISOLATED FORM, HAH INITIAL FORM,
HAH ISOLATED FORM, MEEM INITIAL FORM, MEEM ISOLATED FORM, MEEM WITH HAH FINAL FORM, MEEM WITH HAH
INITIAL FORM, MEEM WITH MEEM FINAL FORM, MEEM WITH YEH FINAL FORM, YEH FINAL FORM, YEH ISOLATED
FORM;
ARABIC LIGATURE QALA: USED AS KORANIC STOP SIGN ISOLATED FORM;
ARABIC LIGATURE QUDDISA: SIRRAH;
ARABIC LIGATURE RADI ALLAAHU: ANH, ANHAA, ANHUM, ANHUMAA, ANHUNNA;
ARABIC LIGATURE RAHIMAHU: ALLAAH;
ARABIC LIGATURE RAHIMAHUM: ALLAAH;
ARABIC LIGATURE RASOUL: ISOLATED FORM;
ARABIC LIGATURE REH: WITH SUPERSCRIPT ALEF ISOLATED FORM;
ARABIC LIGATURE SAD WITH: ALEF MAKSURA FINAL FORM, ALEF MAKSURA ISOLATED FORM, HAH INITIAL FORM,
HAH ISOLATED FORM, HAH WITH HAH FINAL FORM, HAH WITH HAH INITIAL FORM, HAH WITH YEH FINAL FORM,
KHAH INITIAL FORM, MEEM INITIAL FORM, MEEM ISOLATED FORM, MEEM WITH MEEM FINAL FORM, MEEM WITH
MEEM INITIAL FORM, REH FINAL FORM, REH ISOLATED FORM, YEH FINAL FORM, YEH ISOLATED FORM;
ARABIC LIGATURE SALAAMUHU: ALAYNAA;
ARABIC LIGATURE SALAM: ISOLATED FORM;
ARABIC LIGATURE SALLA: ISOLATED FORM, USED AS KORANIC STOP SIGN ISOLATED FORM;
ARABIC LIGATURE SALLALLAAHU: ALAYHI WA-AALIH;
ARABIC LIGATURE SALLALLAHOU: ALAYHE WASALLAM;
ARABIC LIGATURE SALLALLAHU: ALAYHI WAAALIHEE WA-SALLAM;
ARABIC LIGATURE SEEN WITH: ALEF MAKSURA FINAL FORM, ALEF MAKSURA ISOLATED FORM, HAH INITIAL FORM,
HAH ISOLATED FORM, HAH MEDIAL FORM, HAH WITH JEEM INITIAL FORM, HEH INITIAL FORM, HEH MEDIAL FORM,
JEEM INITIAL FORM, JEEM ISOLATED FORM, JEEM MEDIAL FORM, JEEM WITH ALEF MAKSURA FINAL FORM, JEEM
WITH HAH INITIAL FORM, KHAH INITIAL FORM, KHAH ISOLATED FORM, KHAH MEDIAL FORM, KHAH WITH ALEF
MAKSURA FINAL FORM, KHAH WITH YEH FINAL FORM, MEEM INITIAL FORM, MEEM ISOLATED FORM, MEEM MEDIAL
FORM, MEEM WITH HAH FINAL FORM, MEEM WITH HAH INITIAL FORM, MEEM WITH JEEM INITIAL FORM, MEEM WITH
MEEM FINAL FORM, MEEM WITH MEEM INITIAL FORM, REH FINAL FORM, REH ISOLATED FORM, YEH FINAL FORM,
YEH ISOLATED FORM;
ARABIC LIGATURE SHADDA WITH: DAMMA ISOLATED FORM, DAMMA MEDIAL FORM, DAMMATAN ISOLATED FORM, FATHA
ISOLATED FORM, FATHA MEDIAL FORM, KASRA ISOLATED FORM, KASRA MEDIAL FORM, KASRATAN ISOLATED FORM,
SUPERSCRIPT ALEF ISOLATED FORM;
ARABIC LIGATURE SHEEN WITH: ALEF MAKSURA FINAL FORM, ALEF MAKSURA ISOLATED FORM, HAH FINAL FORM,
HAH INITIAL FORM, HAH ISOLATED FORM, HAH MEDIAL FORM, HAH WITH MEEM FINAL FORM, HAH WITH MEEM
INITIAL FORM, HAH WITH YEH FINAL FORM, HEH INITIAL FORM, HEH MEDIAL FORM, JEEM FINAL FORM, JEEM
INITIAL FORM, JEEM ISOLATED FORM, JEEM MEDIAL FORM, JEEM WITH YEH FINAL FORM, KHAH FINAL FORM,
KHAH INITIAL FORM, KHAH ISOLATED FORM, KHAH MEDIAL FORM, MEEM FINAL FORM, MEEM INITIAL FORM, MEEM
ISOLATED FORM, MEEM MEDIAL FORM, MEEM WITH KHAH FINAL FORM, MEEM WITH KHAH INITIAL FORM, MEEM WITH
MEEM FINAL FORM, MEEM WITH MEEM INITIAL FORM, REH FINAL FORM, REH ISOLATED FORM, YEH FINAL FORM,
YEH ISOLATED FORM;
ARABIC LIGATURE SUBHAANAHU: WA TAAALAA;
ARABIC LIGATURE TABAARAKA: WA-TAAALAA;
ARABIC LIGATURE TAH WITH: ALEF MAKSURA FINAL FORM, ALEF MAKSURA ISOLATED FORM, HAH INITIAL FORM,
HAH ISOLATED FORM, MEEM INITIAL FORM, MEEM ISOLATED FORM, MEEM MEDIAL FORM, MEEM WITH HAH FINAL
FORM, MEEM WITH HAH INITIAL FORM, MEEM WITH MEEM INITIAL FORM, MEEM WITH YEH FINAL FORM, YEH FINAL
FORM, YEH ISOLATED FORM;
ARABIC LIGATURE TEH WITH: ALEF MAKSURA FINAL FORM, ALEF MAKSURA ISOLATED FORM, HAH INITIAL FORM,
HAH ISOLATED FORM, HAH WITH JEEM FINAL FORM, HAH WITH JEEM INITIAL FORM, HAH WITH MEEM INITIAL
FORM, HEH INITIAL FORM, HEH MEDIAL FORM, JEEM INITIAL FORM, JEEM ISOLATED FORM, JEEM WITH ALEF
MAKSURA FINAL FORM, JEEM WITH MEEM INITIAL FORM, JEEM WITH YEH FINAL FORM, KHAH INITIAL FORM, KHAH
ISOLATED FORM, KHAH WITH ALEF MAKSURA FINAL FORM, KHAH WITH MEEM INITIAL FORM, KHAH WITH YEH FINAL
FORM, MEEM FINAL FORM, MEEM INITIAL FORM, MEEM ISOLATED FORM, MEEM MEDIAL FORM, MEEM WITH ALEF
MAKSURA FINAL FORM, MEEM WITH HAH INITIAL FORM, MEEM WITH JEEM INITIAL FORM, MEEM WITH KHAH
INITIAL FORM, MEEM WITH YEH FINAL FORM, NOON FINAL FORM, REH FINAL FORM, YEH FINAL FORM, YEH
ISOLATED FORM, ZAIN FINAL FORM;
ARABIC LIGATURE THAL: WITH SUPERSCRIPT ALEF ISOLATED FORM;
ARABIC LIGATURE THEH WITH: ALEF MAKSURA FINAL FORM, ALEF MAKSURA ISOLATED FORM, HEH MEDIAL FORM,
JEEM ISOLATED FORM, MEEM FINAL FORM, MEEM INITIAL FORM, MEEM ISOLATED FORM, MEEM MEDIAL FORM, NOON
FINAL FORM, REH FINAL FORM, YEH FINAL FORM, YEH ISOLATED FORM, ZAIN FINAL FORM;
ARABIC LIGATURE UIGHUR KIRGHIZ YEH WITH HAMZA ABOVE WITH ALEF MAKSURA: FINAL FORM, INITIAL FORM,
ISOLATED FORM;
ARABIC LIGATURE WASALLAM: ISOLATED FORM;
ARABIC LIGATURE YEH WITH ALEF MAKSURA: FINAL FORM, ISOLATED FORM;
ARABIC LIGATURE YEH WITH HAH: INITIAL FORM, ISOLATED FORM, WITH YEH FINAL FORM;
ARABIC LIGATURE YEH WITH HAMZA ABOVE WITH: AE FINAL FORM, AE ISOLATED FORM, ALEF FINAL FORM, ALEF
ISOLATED FORM, ALEF MAKSURA FINAL FORM, ALEF MAKSURA ISOLATED FORM, E FINAL FORM, E INITIAL FORM,
E ISOLATED FORM, HAH INITIAL FORM, HAH ISOLATED FORM, HEH INITIAL FORM, HEH MEDIAL FORM, JEEM
INITIAL FORM, JEEM ISOLATED FORM, KHAH INITIAL FORM, MEEM FINAL FORM, MEEM INITIAL FORM, MEEM
ISOLATED FORM, MEEM MEDIAL FORM, NOON FINAL FORM, OE FINAL FORM, OE ISOLATED FORM, REH FINAL FORM,
U FINAL FORM, U ISOLATED FORM, WAW FINAL FORM, WAW ISOLATED FORM, YEH FINAL FORM, YEH ISOLATED
FORM, YU FINAL FORM, YU ISOLATED FORM, ZAIN FINAL FORM;
ARABIC LIGATURE YEH WITH HEH: INITIAL FORM, MEDIAL FORM;
ARABIC LIGATURE YEH WITH JEEM: INITIAL FORM, ISOLATED FORM, WITH YEH FINAL FORM;
ARABIC LIGATURE YEH WITH KHAH: INITIAL FORM, ISOLATED FORM;
ARABIC LIGATURE YEH WITH MEEM: FINAL FORM, INITIAL FORM, ISOLATED FORM, MEDIAL FORM, WITH MEEM
FINAL FORM, WITH MEEM INITIAL FORM, WITH YEH FINAL FORM;
ARABIC LIGATURE YEH WITH NOON: FINAL FORM;
ARABIC LIGATURE YEH WITH REH: FINAL FORM;
ARABIC LIGATURE YEH WITH YEH: FINAL FORM, ISOLATED FORM;
ARABIC LIGATURE YEH WITH ZAIN: FINAL FORM;
ARABIC LIGATURE ZAH WITH MEEM: INITIAL FORM, ISOLATED FORM, MEDIAL FORM;
ARABIC MADDA: WAAJIB;
ARABIC MADDAH: ABOVE;
ARABIC MARK: NOON GHUNNA, SIDEWAYS NOON GHUNNA;
ARABIC MATHEMATICAL: AIN, ALEF, BEH, DAD, DAL, FEH, GHAIN, HAH, JEEM, KAF, KHAH, LAM, MEEM, NOON,
QAF, REH, SAD, SEEN, SHEEN, TAH, TEH, THAL, THEH, WAW, YEH, ZAH, ZAIN;
ARABIC MATHEMATICAL DOTLESS: BEH, FEH, NOON, QAF;
ARABIC MATHEMATICAL DOUBLE-STRUCK: AIN, BEH, DAD, DAL, FEH, GHAIN, HAH, JEEM, KHAH, LAM, MEEM,
NOON, QAF, REH, SAD, SEEN, SHEEN, TAH, TEH, THAL, THEH, WAW, YEH, ZAH, ZAIN;
ARABIC MATHEMATICAL INITIAL: AIN, BEH, DAD, FEH, GHAIN, HAH, HEH, JEEM, KAF, KHAH, LAM, MEEM,
NOON, QAF, SAD, SEEN, SHEEN, TEH, THEH, YEH;
ARABIC MATHEMATICAL LOOPED: AIN, ALEF, BEH, DAD, DAL, FEH, GHAIN, HAH, HEH, JEEM, KHAH, LAM, MEEM,
NOON, QAF, REH, SAD, SEEN, SHEEN, TAH, TEH, THAL, THEH, WAW, YEH, ZAH, ZAIN;
ARABIC MATHEMATICAL OPERATOR: HAH WITH DAL, MEEM WITH HAH WITH TATWEEL;
ARABIC MATHEMATICAL STRETCHED: AIN, BEH, DAD, DOTLESS BEH, DOTLESS FEH, FEH, GHAIN, HAH, HEH,
JEEM, KAF, KHAH, MEEM, NOON, QAF, SAD, SEEN, SHEEN, TAH, TEH, THEH, YEH, ZAH;
ARABIC MATHEMATICAL TAILED: AIN, DAD, DOTLESS NOON, DOTLESS QAF, GHAIN, HAH, JEEM, KHAH, LAM,
NOON, QAF, SAD, SEEN, SHEEN, YEH;
ARABIC NUMBER: MARK ABOVE, SIGN;
ARABIC OPEN: DAMMATAN, FATHATAN, KASRATAN;
ARABIC PERCENT: SIGN;
ARABIC PIASTRE: MARK ABOVE;
ARABIC PLACE: OF SAJDAH;
ARABIC POETIC: VERSE SIGN;
ARABIC POUND: MARK ABOVE;
ARABIC QUESTION: MARK;
ARABIC RAISED: ROUND DOT;
ARABIC REVERSED: DAMMA;
ARABIC RIGHT ARROWHEAD: ABOVE, ABOVE WITH DOT, BELOW;
ARABIC ROUNDED: HIGH STOP WITH FILLED CENTRE;
ARABIC SHADDA: ISOLATED FORM, MEDIAL FORM;
ARABIC SIGN: ALAYHE ASSALLAM, MISRA, RADI ALLAHOU ANHU, RAHMATULLAH ALAYHE, SAFHA, SALLALLAHOU
ALAYHE WASSALLAM, SAMVAT, SANAH, SINDHI AMPERSAND, SINDHI POSTPOSITION MEN, TAKHALLUS;
ARABIC SMALL: DAMMA, FATHA, KASRA, WAW, YEH;
ARABIC SMALL FARSI: YEH;
ARABIC SMALL HIGH: AIN, DOTLESS HEAD OF KHAH, FARSI YEH, FOOTNOTE MARKER, JEEM, LAM ALEF, LIGATURE
ALEF WITH LAM WITH YEH, LIGATURE QAF WITH LAM WITH ALEF MAKSURA, LIGATURE SAD WITH LAM WITH ALEF
MAKSURA, MADDA, MEEM INITIAL FORM, MEEM ISOLATED FORM, NOON, NOON WITH KASRA, QAF, ROUNDED ZERO,
SAD, SEEN, SIGN SAFHA, TAH, THREE DOTS, UPRIGHT RECTANGULAR ZERO, WAW, WORD AL-JUZ, WORD AN-NISF,
WORD AR-RUB, WORD AS-SAJDA, WORD ATH-THALATHA, WORD QIF, WORD SAH, WORD SAKTA, WORD WAQFA, YEH,
YEH BARREE WITH TWO DOTS BELOW, ZAH, ZAIN;
ARABIC SMALL LOW: MEEM, NOON WITH KASRA, SEEN, WAW, WORD IMAALA, WORD ISHMAAM, WORD TASHEEL;
ARABIC START: OF RUB EL HIZB;
ARABIC SUBSCRIPT: ALEF;
ARABIC SUKUN: BELOW, ISOLATED FORM, MEDIAL FORM;
ARABIC SUPERSCRIPT: ALEF MOKHASSAS;
ARABIC SYMBOL: DOT ABOVE, DOT BELOW, DOUBLE VERTICAL BAR BELOW, FOUR DOTS ABOVE, FOUR DOTS BELOW,
RING, SMALL TAH ABOVE, SMALL TAH BELOW, THREE DOTS ABOVE, THREE DOTS BELOW, THREE DOTS POINTING
DOWNWARDS ABOVE, THREE DOTS POINTING DOWNWARDS BELOW, TWO DOTS ABOVE, TWO DOTS BELOW, TWO DOTS
VERTICALLY ABOVE, TWO DOTS VERTICALLY BELOW, WASLA ABOVE;
ARABIC TAIL: FRAGMENT;
ARABIC TATWEEL WITH: FATHATAN ABOVE, OVERSTRUCK HAMZA, OVERSTRUCK WAW, TWO DOTS BELOW;
ARABIC THOUSANDS: SEPARATOR;
ARABIC TONE: LOOP ABOVE, LOOP BELOW, ONE DOT ABOVE, ONE DOT BELOW, TWO DOTS ABOVE, TWO DOTS BELOW;
ARABIC TRIPLE: DOT PUNCTUATION MARK;
ARABIC TURNED: DAMMA BELOW;
ARABIC VERTICAL: TAIL;
ARABIC VOWEL SIGN: DOT BELOW, INVERTED SMALL V ABOVE, SMALL V ABOVE;
ARABIC WAVY: HAMZA BELOW;
ARABIC-INDIC: CUBE ROOT, DIGIT EIGHT, DIGIT FIVE, DIGIT FOUR, DIGIT NINE, DIGIT ONE, DIGIT SEVEN,
DIGIT SIX, DIGIT THREE, DIGIT TWO, DIGIT ZERO, FOURTH ROOT, PER MILLE SIGN, PER TEN THOUSAND SIGN;
ARMENIAN: APOSTROPHE, COMMA, HYPHEN;
ARMENIAN ABBREVIATION: MARK;
ARMENIAN CAPITAL LETTER: AYB, BEN, CA, CHA, CHEH, CO, DA, ECH, EH, ET, FEH, GHAD, GIM, HO, INI,
JA, JHEH, KEH, KEN, LIWN, MEN, NOW, OH, PEH, PIWR, RA, REH, SEH, SHA, TIWN, TO, VEW, VO, XEH, YI,
YIWN, ZA, ZHE;
ARMENIAN DRAM: SIGN;
ARMENIAN EMPHASIS: MARK;
ARMENIAN EXCLAMATION: MARK;
ARMENIAN FULL: STOP;
ARMENIAN MODIFIER: LETTER LEFT HALF RING;
ARMENIAN QUESTION: MARK;
ARMENIAN SMALL LETTER: AYB, BEN, CA, CHA, CHEH, CO, DA, ECH, EH, ET, FEH, GHAD, GIM, HO, INI, JA,
JHEH, KEH, KEN, LIWN, MEN, NOW, OH, PEH, PIWR, RA, REH, SEH, SHA, TIWN, TO, TURNED AYB, VEW, VO,
XEH, YI, YI WITH STROKE, YIWN, ZA, ZHE;
ARMENIAN SMALL LIGATURE: ECH YIWN, MEN ECH, MEN INI, MEN NOW, MEN XEH, VEW NOW;
ARROW POINTING: DOWNWARDS THEN CURVING LEFTWARDS, DOWNWARDS THEN CURVING RIGHTWARDS, RIGHTWARDS
THEN CURVING DOWNWARDS, RIGHTWARDS THEN CURVING SOUTH WEST, RIGHTWARDS THEN CURVING UPWARDS,
UPWARDS THEN NORTH WEST;
ARROWHEAD-SHAPED: POINTER;
ARTICULATED: LORRY;
ARTIST: PALETTE;
ASCENDING: NODE;
ASCIA: SYMBOL;
ASTERISK: OPERATOR;
ASTONISHED: FACE;
ASTRONOMICAL: SYMBOL FOR URANUS;
ASYMPTOTICALLY: EQUAL TO;
ATHLETIC: SHOE;
ATOM: SYMBOL;
AUSTRAL: SIGN;
AUTO: RICKSHAW;
AUTOMATED: TELLER MACHINE;
AVESTAN ABBREVIATION: MARK;
AVESTAN LETTER: A, AA, AAN, AAO, AE, AEE, AN, AO, BE, BHE, CE, DE, DHE, E, EE, FE, GE, GGE, GHE,
HE, HME, I, II, JE, KE, LE, ME, NE, NGE, NGVE, NGYE, NNE, NYE, O, OO, PE, RE, SE, SHE, SHYE, SSHE,
TE, THE, TTE, U, UU, VE, XE, XVE, XYE, YE, YYE, ZE, ZHE;
BABY: ANGEL, BOTTLE, CHICK, SYMBOL;
BACK: OF ENVELOPE, WITH LEFTWARDS ARROW ABOVE;
BACK-TILTED: SHADOWED WHITE RIGHTWARDS ARROW;
BACKSLANTED SOUTH ARROW WITH: HOOKED TAIL, HORIZONTAL TAIL;
BACTRIAN: CAMEL;
BADMINTON: RACQUET AND SHUTTLECOCK;
BAGGAGE: CLAIM;
BAGUETTE: BREAD;
BALINESE: PAMADA, PAMENENG, PANTI, WINDU;
BALINESE ADEG: ADEG;
BALINESE CARIK: PAMUNGKAH, PAREREN, SIKI;
BALINESE DIGIT: EIGHT, FIVE, FOUR, NINE, ONE, SEVEN, SIX, THREE, TWO, ZERO;
BALINESE LETTER: AIKARA, AKARA, AKARA TEDUNG, ARCHAIC JNYA, ASYURA SASAK, BA, BA KEMBANG, CA, CA
LACA, DA, DA MADU, DA MURDA ALPAPRANA, DA MURDA MAHAPRANA, EF SASAK, EKARA, GA, GA GORA, HA,
IKARA, IKARA TEDUNG, JA, JA JERA, KA, KA MAHAPRANA, KAF SASAK, KHOT SASAK, LA, LA LENGA, LA LENGA
TEDUNG, MA, NA, NA RAMBAT, NGA, NYA, OKARA, OKARA TEDUNG, PA, PA KAPAL, RA, RA REPA, RA REPA
TEDUNG, SA, SA SAGA, SA SAPA, TA, TA LATIK, TA MURDA MAHAPRANA, TA TAWA, TZIR SASAK, UKARA, UKARA
TEDUNG, VE SASAK, WA, YA, ZAL SASAK;
BALINESE MUSICAL SYMBOL: COMBINING BENDE, COMBINING ENDEP, COMBINING GONG, COMBINING JEGOGAN,
COMBINING KEMPLI, COMBINING KEMPLI WITH JEGOGAN, COMBINING KEMPUL, COMBINING KEMPUL WITH JEGOGAN,
COMBINING TEGEH, DAENG, DAING, DANG, DANG GEDE, DANG SURANG, DENG, DEUNG, DING, DONG, DUNG,
LEFT-HAND CLOSED PLAK, LEFT-HAND CLOSED PLUK, LEFT-HAND OPEN PANG, LEFT-HAND OPEN PING, LEFT-HAND
OPEN PUNG, RIGHT-HAND CLOSED TAK, RIGHT-HAND CLOSED TUK, RIGHT-HAND OPEN DAG, RIGHT-HAND OPEN DUG;
BALINESE PAMADA: LANTANG;
BALINESE PANTI: LANTANG;
BALINESE SIGN: BISAH, CECEK, REREKAN, SURANG, ULU CANDRA, ULU RICEM;
BALINESE VOWEL SIGN: LA LENGA, LA LENGA TEDUNG, PEPET, PEPET TEDUNG, RA REPA, RA REPA TEDUNG,
SUKU, SUKU ILUT, TALING, TALING REPA, TALING REPA TEDUNG, TALING TEDUNG, TEDUNG, ULU, ULU SARI;
BALL: OF YARN;
BALLET: SHOES;
BALLOON-SPOKED: ASTERISK;
BALLOT: BOLD SCRIPT X, BOX, BOX WITH BALLOT, BOX WITH BOLD CHECK, BOX WITH BOLD SCRIPT X, BOX WITH
CHECK, BOX WITH LIGHT X, BOX WITH SCRIPT X, BOX WITH X, SCRIPT X, X;
BAMUM: COLON, COMMA, NJAEMLI, SEMICOLON;
BAMUM COMBINING MARK: KOQNDON, TUKWENTIS;
BAMUM FULL: STOP;
BAMUM LETTER: A, EE, FAAMAE, FEE, FOM, FU, I, KA, KEN, KET, KEUX, KI, KO, KOGHOM, KOVUU, KPA, KU,
KYEE, LA, LEEEE, LI, LOQ, LU, M, MA, MBAA, MBEN, MEEEE, MEN, MI, MO, MU, NA, NDAA, NGA, NGGA,
NGKWAEN, NI, NJAEM, NJEE, NJUAE, NSHA, NTEE, NTUU, NU, NUAE, NYI, O, PA, PEE, PEUX, PI, PUAE, PUE,
RAE, REE, REN, REUX, RIEE, RII, RU, SAMBA, SEUX, SHEUX, SHII, SHO, SHU, SI, SUU, TAA, TAE, TEN,
TET, TI, U, WA, WUE, YA, YOQ, YUQ;
BAMUM LETTER PHASE-A: FIRI, GBIEE FON, GHEUAEGHEUAE, GHEUAERAE, KAFA, KAQ, KET, KEUKEUTNDA, KPOQ,
KUOQ, LAPAQ, LET KUT, LOMMAE, LU, LUAEP, MAEKEUP, MAEM, MAEMBGBIEE, MAEMKPEN, MAEMVEUX, MAENYI,
MAESI, MANSUAE, MAP PIEET, MBANYI, MBAQ, MEUNJOMNDEUQ, MGBASA, MON NGGEUAET, MOOMEUT, MOOMPUQ,
MVEUAENGAM, NAA MFON, NAQ, NDA LEERAEWA, NDAANGGEUAET, NEN, NGANGU, NGGEN, NGKUE MFON, NGKUENZEUM,
NIKA, NJAM, NKAARAE, NKINDI, NSHA, NSHIEE, NTAP, NTAP MFAA, NTAP NTAA, NTOQPEN, NYET, NYI, NYIT
MONGKEUAEQ, NZA MFON, NZUN MEUT, PA LEERAEWA, PAAM, PAARAE, PAMSHAE, PASHAE, PET, PON MFON
PIPAEMBA, PON MFON PIPAEMGBIEE, PON PA NJI PIPAEMBA, PON PA NJI PIPAEMGBIEE, PUP, ROM, SEUNYAM,
SHINDA PA NJI, SHIRAE, SHOQ NSHUT YUM, SHUENSHUET, SHUM, SISA, SONJAM, SOQ, SOT, SUU, TEUAEN,
TEUTEUWEN, TITA MFON, TU MAEMBA, TUAEP, U YUQ NAE, UNKNOWN, VEE;
BAMUM LETTER PHASE-B: FEE, FEUX, GHEUGHEN, GHEUGHEUAEM, KAM, KEUAEM, KEUPUQ, KEUYEUX, KIEEM, KIQ,
LAANAE, LAM NSHUT NYAM, LET, LOM NTEUM, MA, MA NJEUAENA, MA NJUQA, MBA MAELEE, MBAARAE, MBEURI,
MBIT MBAAKET, MBUOQ, MEUQ, MEUT NGGEET, MFIYAQ, MFON TEUAEQ, MONTIEEN, NDU NJAA, NGGAAM, NGGEU
MBU, NGGUOQ, NGGUOQ LARGE, NGKINDI MVOP, NGOM, NSEN, NSHUET, NTIEE SHEUOQ, NYAEMAE, NYI NTEUM,
PARUM, PEESHI, PIT, PUNGAAM, SAKEUAE, SET TU, SHET NJAQ, SHEUAEQTU, SIEE, SUE, TAAM, TU MAEMGBIEE,
TU NSIEE, VEUM, WUAET, YAFU LEERAEWA, YEURAE;
BAMUM LETTER PHASE-C: BUNG, FUE, GBAYI, GHAP, GHARAE, KAA, KEN FATIGUE, KEN LAW, KET, KEUKAQ,
KEUM, KEUSEUX, KEUSHEUAEP, KPARAQ, KUOP NKAARAE, KUT, LAM, LAP, LIQ, LU, MA KEUAERI, MA NSIEE,
MAEMBA, MAESI, MBAA CABBAGE-TREE, MBAA PICKET, MBANYI, MBEEKEET, MBERAE, MBEUM, MBEUX, MBI,
MBIRIEEN, MBIT, MBUAEM, MBUE, MGBASAQ, MIEE, MUAE, NANSANAQ, NAQ, NDAM, NDAP, NDEUAEREE, NDEUT,
NDIDA, NDOMBU, NGAQ, NGGEN, NGGU, NGGUAEN NYAM, NGGUEET, NGGUM, NGGUON, NGKAQ, NGKUE MAEMBA, NGOM,
NJAEM, NJAM, NJEEEE, NJEUX, NJUEQ, NSA, NSEUAEN, NSHAQ, NSOM, NSUN, NSUOT NGOM, NTAA, NTEN,
NTEUNGBA, NTU MBIT, NYIR MKPARAQ MEUN, NZA, NZEUM, PEN, PIN, PIRIEEN, RU, SETFON, SEUX, SHIQ,
SHUEQ, SUAET, TAASHAE, TET, TEUTEUX, TITA YUE, TITUAEP, VEUAEPEN, VEUX, WANGKUOQ, WUP, YAA, YEUQ,
YU MUOMAE, YUM, YUWOQ;
BAMUM LETTER PHASE-D: FAA, FEUFEUAET, GHAA, GHEUAE, KET, KEUAETMEUN, KEUM, KEUOT MBUAE, KEUP, KU,
KUN, KUOM, KUQ, KWAET, KYEE, LEEEE, LET, LEUAEP, LEUM, LIEE, LOQ, LUM, M, MAENJET, MALEERI, MBAA,
MBAA SEVEN, MBUO, MEEEE, MEUN, MEUT, MFEUAE, MFEUT, MFIEE, MFO, MFON, MGBEUN, MGBIEE, MGBOFUM,
MONI, MU, MVOP, NDAM, NDEE, NDEUX, NDON, NGGAAM, NGGAAMAE, NGGAP, NGGEUX, NGGUOM, NGGWAEN, NGKAP,
NGKEUAEQ, NGKEURI, NGKIEE, NGKUN, NGKYEE, NI, NJAP, NJEUAEM, NJEUT, NJI, NJIEE, NJUEQ, NSHEE,
NSHUT, NSIEEP, NSIEET, NSUM, NTEE, NTEUM, NTUU, NU, NYAM, NYET, NYI, NYUE, PAP, PEE, PEUTAE, PIP,
PUQ, PUUT, RAEM, REN MUCH, REN OLD, RII, SAP, SAQ, SEUAEQ, SHEE, SHEUAE, SHEUX, SHII, SHOQ, SHU,
SOT, SUAE, SUE, SUU, TAE, TEEEE, TEUAEN, TEUN, TEUT, TI, TOQ, TU, TUOT, WAP, WUAEN, YAEMMAE, YEN,
YUOM, YUOP, YUWOQ;
BAMUM LETTER PHASE-E: A, FA, FAQ, FEE, FOM, FU CALL, FU I, FU REMEDY, FUE, FUET, GBET, GBEUX,
GHAAMAE, GHET, GHEUAE, GHEUN, GHEUX, GHOM, I, KET, KEUAE, KEUX, KI, KO, KPEUX, KUET, KUOP, KUT,
LAAM, LAP, LAQ, LEUAEM, LOM, LOON, LOOT, LOQ, LU, MA, MAE, MAEM, MAP, MAQ, MBEE, MBEUM, MEN,
MFEUQ, MGBA, MGBEN, MI, MIEE, MON, MUAE, MVI, NA, NAE, NDAA MY HOUSE, NDAA SOFTNESS, NDAP, NDIAQ,
NDIQ, NDUN, NGA, NGEUREUT, NGGEEEE, NGGEUAE, NGGEUAET, NGGUAESHAE NYAM, NGGUP, NGGURAE, NGKA,
NGKAAMI, NGKEUAEM, NGKEUX, NGKUM, NGKUP, NGOP, NGOQ, NGUAE, NGUAET, NJAEMLI, NJEE, NJEE EPOCH,
NJEUX, NKOM, NSHIEE, NSHUE, NSHUOP, NTAP, NTUM, NYI BETWEEN, NYI CLEAVER, NZAQ, NZUQ, O, PA
PEOPLE, PA PLURAL, PAA, PAAM, PEEM, PEUT, PEUX, PI, PIEEQ, PIET, PO, POON, PU, PUAE, PUAQ, PUE,
PUM, RAE, RAQ, REUX, RIMGBA, SAA, SEE, SET, SHEUAEQ, SHIQ, SHO, SHOQ, SOM, SUAEN, TAA, TAAQ, TAEN
NTEUM, TAM, TAQ, TEN, TEU, TEUAEQ, TOO, TOON, TOQ, TUAE, TUM, TUMAE, VEE, VEUAE, VOM, WEUX, WUE,
WUO, YAP, YEUAE, YEUAET, YEUM, YEUX, YIEE, YIT, YOQ COVER, YOQ SWIMMING, YUAEN, YUEQ, YUN, YUQ;
BAMUM LETTER PHASE-F: EE, FOM, KA, KEN, KET, KO, KPA, KU, KYEE, LA, LI, LOQ, M, MA, MBAA, MBEN,
MEEEE, MO, NDAA, NGGA, NGKWAEN, NI, NJAEM, NJUAE, NSHA, NTEE, NU, NUAE, NYI, PEE, PEUX, PUAE, REE,
REN, REUX, RIEE, RII, RU, SAMBA, SEUX, SHII, SHO, SHU, SI, SUU, TAA, TAE, TET, U, VUEQ, WA, WUE,
YA, YOQ;
BAMUM QUESTION: MARK;
BANKNOTE WITH: DOLLAR SIGN, EURO SIGN, POUND SIGN, YEN SIGN;
BAR: CHART, OF SOAP;
BARBER: POLE;
BASKETBALL: AND HOOP;
BASSA VAH COMBINING: HIGH TONE, HIGH-LOW TONE, LOW TONE, LOW-MID TONE, MID TONE;
BASSA VAH FULL: STOP;
BASSA VAH LETTER: A, BA, CE, DHII, DO, E, EE, ENNI, FA, GAH, GBU, HWAH, I, JO, KA, KPAH, MBE, O,
OO, PA, SE, TO, U, UWU, VU, WA, WADDA, YEIN, YIE, ZO;
BATAK: PANGOLAT, PANONGONAN;
BATAK CONSONANT SIGN: H, NG;
BATAK LETTER: A, BA, CA, DA, GA, HA, I, JA, KARO BA, LA, MA, MANDAILING HA, MANDAILING NA,
MANDAILING SA, MBA, NA, NDA, NGA, NORTHERN TA, NYA, PA, PAKPAK WA, RA, SA, SIMALUNGUN A,
SIMALUNGUN GA, SIMALUNGUN HA, SIMALUNGUN LA, SIMALUNGUN MA, SIMALUNGUN PA, SIMALUNGUN RA,
SIMALUNGUN SA, SIMALUNGUN WA, SIMALUNGUN YA, SOUTHERN TA, U, WA, YA;
BATAK SIGN: TOMPI;
BATAK SYMBOL BINDU: JUDUL, NA METEK, PANGOLAT, PINARBORAS;
BATAK VOWEL SIGN: E, EE, I, KARO I, KARO O, O, PAKPAK E, U, U FOR SIMALUNGUN SA;
BEACH: WITH UMBRELLA;
BEAMED: ASCENDING MUSICAL NOTES, DESCENDING MUSICAL NOTES, EIGHTH NOTES, SIXTEENTH NOTES;
BEAR: FACE;
BEARDED: PERSON;
BEATING: HEART;
BEER: MUG;
BELL: PEPPER, SYMBOL, WITH CANCELLATION STROKE;
BELLHOP: BELL;
BENGALI: ANJI, ISSHAR;
BENGALI ABBREVIATION: SIGN;
BENGALI AU: LENGTH MARK;
BENGALI CURRENCY: DENOMINATOR SIXTEEN, NUMERATOR FOUR, NUMERATOR ONE, NUMERATOR ONE LESS THAN THE
DENOMINATOR, NUMERATOR THREE, NUMERATOR TWO;
BENGALI DIGIT: EIGHT, FIVE, FOUR, NINE, ONE, SEVEN, SIX, THREE, TWO, ZERO;
BENGALI GANDA: MARK;
BENGALI LETTER: A, AA, AI, AU, BA, BHA, CA, CHA, DA, DDA, DDHA, DHA, E, GA, GHA, HA, I, II, JA,
JHA, KA, KHA, KHANDA TA, LA, MA, NA, NGA, NNA, NYA, O, PA, PHA, RA, RA WITH LOWER DIAGONAL, RA
WITH MIDDLE DIAGONAL, RHA, RRA, SA, SHA, SSA, TA, THA, TTA, TTHA, U, UU, VEDIC ANUSVARA, VOCALIC
L, VOCALIC LL, VOCALIC R, VOCALIC RR, YA, YYA;
BENGALI RUPEE: MARK, SIGN;
BENGALI SANDHI: MARK;
BENGALI SIGN: ANUSVARA, AVAGRAHA, CANDRABINDU, NUKTA, VIRAMA, VISARGA;
BENGALI VOWEL SIGN: AA, AI, AU, E, I, II, O, U, UU, VOCALIC L, VOCALIC LL, VOCALIC R, VOCALIC RR;
BENT: ARROW POINTING DOWNWARDS THEN NORTH EAST;
BENTO: BOX;
BENZENE: RING, RING WITH CIRCLE;
BET: SYMBOL;
BEVERAGE: BOX;
BHAIKSUKI: DANDA;
BHAIKSUKI DIGIT: EIGHT, FIVE, FOUR, NINE, ONE, SEVEN, SIX, THREE, TWO, ZERO;
BHAIKSUKI DOUBLE: DANDA;
BHAIKSUKI GAP: FILLER-1, FILLER-2;
BHAIKSUKI HUNDREDS: UNIT MARK;
BHAIKSUKI LETTER: A, AA, AI, AU, BA, BHA, CA, CHA, DA, DDA, DDHA, DHA, E, GA, GHA, HA, I, II, JA,
JHA, KA, KHA, LA, MA, NA, NGA, NNA, NYA, O, PA, PHA, RA, SA, SHA, SSA, TA, THA, TTA, TTHA, U, UU,
VA, VOCALIC L, VOCALIC R, VOCALIC RR, YA;
BHAIKSUKI NUMBER: EIGHT, EIGHTY, FIFTY, FIVE, FORTY, FOUR, NINE, NINETY, ONE, SEVEN, SEVENTY, SIX,
SIXTY, TEN, THIRTY, THREE, TWENTY, TWO;
BHAIKSUKI SIGN: ANUSVARA, AVAGRAHA, CANDRABINDU, VIRAMA, VISARGA;
BHAIKSUKI VOWEL SIGN: AA, AI, AU, E, I, II, O, U, UU, VOCALIC L, VOCALIC R, VOCALIC RR;
BHAIKSUKI WORD: SEPARATOR;
BIG: REVERSE SOLIDUS, SOLIDUS;
BILLED: CAP;
BIOHAZARD: SIGN;
BIRTHDAY: CAKE;
BITCOIN: SIGN;
BITING: LIP;
BLACK: BOWTIE, CENTRE WHITE STAR, CHESS BISHOP, CHESS BISHOP ROTATED NINETY DEGREES, CHESS BISHOP
ROTATED TWO HUNDRED SEVENTY DEGREES, CHESS EQUIHOPPER, CHESS EQUIHOPPER ROTATED NINETY DEGREES,
CHESS KING, CHESS KING ROTATED NINETY DEGREES, CHESS KING ROTATED TWO HUNDRED SEVENTY DEGREES,
CHESS KNIGHT, CHESS KNIGHT ROTATED FORTY-FIVE DEGREES, CHESS KNIGHT ROTATED NINETY DEGREES, CHESS
KNIGHT ROTATED ONE HUNDRED THIRTY-FIVE DEGREES, CHESS KNIGHT ROTATED THREE HUNDRED FIFTEEN
DEGREES, CHESS KNIGHT ROTATED TWO HUNDRED SEVENTY DEGREES, CHESS KNIGHT ROTATED TWO HUNDRED
TWENTY-FIVE DEGREES, CHESS KNIGHT-BISHOP, CHESS KNIGHT-QUEEN, CHESS KNIGHT-ROOK, CHESS PAWN, CHESS
PAWN ROTATED NINETY DEGREES, CHESS PAWN ROTATED TWO HUNDRED SEVENTY DEGREES, CHESS QUEEN, CHESS
QUEEN ROTATED NINETY DEGREES, CHESS QUEEN ROTATED TWO HUNDRED SEVENTY DEGREES, CHESS ROOK, CHESS
ROOK ROTATED NINETY DEGREES, CHESS ROOK ROTATED TWO HUNDRED SEVENTY DEGREES, CHESS TURNED BISHOP,
CHESS TURNED KING, CHESS TURNED KNIGHT, CHESS TURNED PAWN, CHESS TURNED QUEEN, CHESS TURNED ROOK,
CIRCLE, CIRCLE FOR RECORD, CIRCLE WITH DOWN ARROW, CIRCLE WITH TWO WHITE DOTS, CIRCLE WITH WHITE
DOT RIGHT, CLUB SUIT, CROSS ON SHIELD, CURVED DOWNWARDS AND LEFTWARDS ARROW, CURVED DOWNWARDS AND
RIGHTWARDS ARROW, CURVED LEFTWARDS AND DOWNWARDS ARROW, CURVED LEFTWARDS AND UPWARDS ARROW, CURVED
RIGHTWARDS AND DOWNWARDS ARROW, CURVED RIGHTWARDS AND UPWARDS ARROW, CURVED UPWARDS AND LEFTWARDS
ARROW, CURVED UPWARDS AND RIGHTWARDS ARROW, DIAMOND, DIAMOND CENTRED, DIAMOND MINUS WHITE X,
DIAMOND ON CROSS, DIAMOND SUIT, DIAMOND WITH DOWN ARROW, DOWN POINTING BACKHAND INDEX,
DOWN-POINTING DOUBLE TRIANGLE, DOWN-POINTING ISOSCELES RIGHT TRIANGLE, DOWN-POINTING SMALL
TRIANGLE, DOWN-POINTING TRIANGLE, DOWNWARDS EQUILATERAL ARROWHEAD, DRAUGHTS KING, DRAUGHTS MAN,
DROPLET, FLAG, FLORETTE, FOLDER, FOUR POINTED STAR, HARD SHELL FLOPPY DISK, HEART, HEART SUIT,
HEXAGON, HORIZONTAL ELLIPSE, HOURGLASS, LARGE CIRCLE, LARGE SQUARE, LEFT LANE MERGE, LEFT POINTING
BACKHAND INDEX, LEFT POINTING INDEX, LEFT-POINTING DOUBLE TRIANGLE, LEFT-POINTING DOUBLE TRIANGLE
WITH VERTICAL BAR, LEFT-POINTING ISOSCELES RIGHT TRIANGLE, LEFT-POINTING POINTER, LEFT-POINTING
SMALL TRIANGLE, LEFT-POINTING TRIANGLE, LEFTWARDS BULLET, LEFTWARDS EQUILATERAL ARROWHEAD, LOWER
LEFT TRIANGLE, LOWER RIGHT TRIANGLE, LOZENGE, MEDIUM DIAMOND, MEDIUM DOWN-POINTING TRIANGLE,
MEDIUM DOWN-POINTING TRIANGLE CENTRED, MEDIUM LEFT-POINTING TRIANGLE, MEDIUM LEFT-POINTING
TRIANGLE CENTRED, MEDIUM LOZENGE, MEDIUM RIGHT-POINTING TRIANGLE, MEDIUM RIGHT-POINTING TRIANGLE
CENTRED, MEDIUM SMALL DIAMOND, MEDIUM SMALL LOZENGE, MEDIUM SMALL SQUARE, MEDIUM SQUARE, MEDIUM
UP-POINTING TRIANGLE, MEDIUM UP-POINTING TRIANGLE CENTRED, MOON LILITH, NIB, OCTAGON,
PARALLELOGRAM, PENNANT, PENTAGON, PUSHPIN, QUESTION MARK ORNAMENT, RECTANGLE, RIGHT POINTING
BACKHAND INDEX, RIGHT POINTING INDEX, RIGHT-POINTING DOUBLE TRIANGLE, RIGHT-POINTING DOUBLE
TRIANGLE WITH VERTICAL BAR, RIGHT-POINTING ISOSCELES RIGHT TRIANGLE, RIGHT-POINTING PENTAGON,
RIGHT-POINTING POINTER, RIGHT-POINTING SMALL TRIANGLE, RIGHT-POINTING TRIANGLE, RIGHT-POINTING
TRIANGLE WITH DOUBLE VERTICAL BAR, RIGHTWARDS ARROW, RIGHTWARDS ARROWHEAD, RIGHTWARDS BULLET,
RIGHTWARDS EQUILATERAL ARROWHEAD, ROSETTE, SAFETY SCISSORS, SCISSORS, SHOGI PIECE, SKULL AND
CROSSBONES, SLIGHTLY SMALL CIRCLE, SLIGHTLY SMALL SQUARE, SMALL DIAMOND, SMALL LOZENGE, SMALL
SQUARE, SMALL STAR, SMILING FACE, SNOWMAN, SPADE SUIT, SQUARE, SQUARE BUTTON, SQUARE CENTRED,
SQUARE FOR STOP, STAR, SUN WITH RAYS, TELEPHONE, TINY DIAMOND, TINY LOZENGE, TINY SQUARE,
TOUCHTONE TELEPHONE, TRUCK, TWO-WAY LEFT WAY TRAFFIC, UNIVERSAL RECYCLING SYMBOL, UP POINTING
BACKHAND INDEX, UP-POINTING DOUBLE TRIANGLE, UP-POINTING ISOSCELES RIGHT TRIANGLE, UP-POINTING
SMALL TRIANGLE, UP-POINTING TRIANGLE, UPPER LEFT TRIANGLE, UPPER RIGHT TRIANGLE, UPWARDS
EQUILATERAL ARROWHEAD, VERTICAL ELLIPSE, VERTICAL RECTANGLE, VERY SMALL DIAMOND, VERY SMALL
LOZENGE, VERY SMALL SQUARE;
BLACK-FEATHERED: NORTH EAST ARROW, RIGHTWARDS ARROW, SOUTH EAST ARROW;
BLACK-LETTER CAPITAL: C, H, I, R, Z;
BLANK: SYMBOL;
BLOCK: SEXTANT-1, SEXTANT-12, SEXTANT-123, SEXTANT-1234, SEXTANT-12345, SEXTANT-12346,
SEXTANT-1235, SEXTANT-12356, SEXTANT-1236, SEXTANT-124, SEXTANT-1245, SEXTANT-12456, SEXTANT-1246,
SEXTANT-125, SEXTANT-1256, SEXTANT-126, SEXTANT-13, SEXTANT-134, SEXTANT-1345, SEXTANT-13456,
SEXTANT-1346, SEXTANT-1356, SEXTANT-136, SEXTANT-14, SEXTANT-145, SEXTANT-1456, SEXTANT-146,
SEXTANT-15, SEXTANT-156, SEXTANT-16, SEXTANT-2, SEXTANT-23, SEXTANT-234, SEXTANT-2345,
SEXTANT-23456, SEXTANT-2346, SEXTANT-235, SEXTANT-2356, SEXTANT-236, SEXTANT-24, SEXTANT-245,
SEXTANT-2456, SEXTANT-25, SEXTANT-256, SEXTANT-26, SEXTANT-3, SEXTANT-34, SEXTANT-345,
SEXTANT-3456, SEXTANT-346, SEXTANT-35, SEXTANT-356, SEXTANT-36, SEXTANT-4, SEXTANT-45,
SEXTANT-456, SEXTANT-46, SEXTANT-5, SEXTANT-56, SEXTANT-6;
BLUE: BOOK, HEART;
BOLD: EIGHT SPOKED ASTERISK, FIVE SPOKED ASTERISK, GREEK CROSS, SALTIRE, SIX SPOKED ASTERISK,
WHITE CIRCLE, WHITE SQUARE;
BOOKMARK: TABS;
BOPOMOFO FINAL LETTER: G, H, K, P, T;
BOPOMOFO LETTER: A, AH, AI, AINN, AM, AN, ANG, ANN, AU, AUNN, B, BU, C, CH, D, E, EE, EH, EI, EN,
ENG, ENN, ER, F, G, GH, GN, GU, GW, H, I, IH, IM, INN, INNN, IR, IU, J, JI, K, KW, L, LH, M, N,
NG, NGG, NN, O, O WITH DOT ABOVE, OE, OM, ONG, ONN, OO, OU, P, Q, R, S, SH, T, U, UNN, V, X, Z,
ZH, ZI, ZY;
BOTTLE: WITH POPPING CORK;
BOTTOM: ARC ANTICLOCKWISE ARROW, CURLY BRACKET, HALF BLACK CIRCLE, HALF INTEGRAL, HALF LEFT
PARENTHESIS, HALF RIGHT PARENTHESIS, LEFT CORNER, LEFT CROP, LEFT HALF BRACKET, PARENTHESIS, RIGHT
CORNER, RIGHT CROP, RIGHT HALF BRACKET, SQUARE BRACKET, SQUARE BRACKET OVER TOP SQUARE BRACKET,
TORTOISE SHELL BRACKET;
BOUQUET: OF FLOWERS;
BOW: AND ARROW;
BOWL: OF HYGIEIA, WITH SPOON;
BOWTIE WITH: LEFT HALF BLACK, RIGHT HALF BLACK;
BOX DRAWINGS DOUBLE: DOWN AND HORIZONTAL, DOWN AND LEFT, DOWN AND RIGHT, HORIZONTAL, UP AND
HORIZONTAL, UP AND LEFT, UP AND RIGHT, VERTICAL, VERTICAL AND HORIZONTAL, VERTICAL AND LEFT,
VERTICAL AND RIGHT;
BOX DRAWINGS DOWN DOUBLE AND: HORIZONTAL SINGLE, LEFT SINGLE, RIGHT SINGLE;
BOX DRAWINGS DOWN HEAVY AND: HORIZONTAL LIGHT, LEFT LIGHT, LEFT UP LIGHT, RIGHT LIGHT, RIGHT UP
LIGHT, UP HORIZONTAL LIGHT;
BOX DRAWINGS DOWN LIGHT AND: HORIZONTAL HEAVY, LEFT HEAVY, LEFT UP HEAVY, RIGHT HEAVY, RIGHT UP
HEAVY, UP HORIZONTAL HEAVY;
BOX DRAWINGS DOWN SINGLE AND: HORIZONTAL DOUBLE, LEFT DOUBLE, RIGHT DOUBLE;
BOX DRAWINGS HEAVY: DOUBLE DASH HORIZONTAL, DOUBLE DASH VERTICAL, DOWN, DOWN AND HORIZONTAL, DOWN
AND LEFT, DOWN AND RIGHT, HORIZONTAL, LEFT, LEFT AND LIGHT RIGHT, QUADRUPLE DASH HORIZONTAL,
QUADRUPLE DASH VERTICAL, RIGHT, TRIPLE DASH HORIZONTAL, TRIPLE DASH VERTICAL, UP, UP AND
HORIZONTAL, UP AND LEFT, UP AND LIGHT DOWN, UP AND RIGHT, VERTICAL, VERTICAL AND HORIZONTAL,
VERTICAL AND LEFT, VERTICAL AND RIGHT;
BOX DRAWINGS LEFT: DOWN HEAVY AND RIGHT UP LIGHT, HEAVY AND RIGHT DOWN LIGHT, HEAVY AND RIGHT UP
LIGHT, HEAVY AND RIGHT VERTICAL LIGHT, LIGHT AND RIGHT DOWN HEAVY, LIGHT AND RIGHT UP HEAVY, LIGHT
AND RIGHT VERTICAL HEAVY, UP HEAVY AND RIGHT DOWN LIGHT;
BOX DRAWINGS LIGHT: ARC DOWN AND LEFT, ARC DOWN AND RIGHT, ARC UP AND LEFT, ARC UP AND RIGHT,
DIAGONAL CROSS, DIAGONAL DIAMOND, DIAGONAL MIDDLE LEFT TO LOWER CENTRE, DIAGONAL MIDDLE LEFT TO
LOWER CENTRE TO MIDDLE RIGHT, DIAGONAL MIDDLE LEFT TO UPPER CENTRE TO MIDDLE RIGHT, DIAGONAL
MIDDLE LEFT TO UPPER CENTRE TO MIDDLE RIGHT TO LOWER CENTRE, DIAGONAL MIDDLE RIGHT TO LOWER
CENTRE, DIAGONAL MIDDLE RIGHT TO UPPER CENTRE TO MIDDLE LEFT TO LOWER CENTRE, DIAGONAL UPPER
CENTRE TO MIDDLE LEFT, DIAGONAL UPPER CENTRE TO MIDDLE LEFT AND MIDDLE RIGHT TO LOWER CENTRE,
DIAGONAL UPPER CENTRE TO MIDDLE LEFT TO LOWER CENTRE, DIAGONAL UPPER CENTRE TO MIDDLE LEFT TO
LOWER CENTRE TO MIDDLE RIGHT, DIAGONAL UPPER CENTRE TO MIDDLE RIGHT, DIAGONAL UPPER CENTRE TO
MIDDLE RIGHT AND MIDDLE LEFT TO LOWER CENTRE, DIAGONAL UPPER CENTRE TO MIDDLE RIGHT TO LOWER
CENTRE, DIAGONAL UPPER CENTRE TO MIDDLE RIGHT TO LOWER CENTRE TO MIDDLE LEFT, DIAGONAL UPPER LEFT
TO LOWER RIGHT, DIAGONAL UPPER RIGHT TO LOWER LEFT, DOUBLE DASH HORIZONTAL, DOUBLE DASH VERTICAL,
DOWN, DOWN AND HORIZONTAL, DOWN AND LEFT, DOWN AND RIGHT, HORIZONTAL, HORIZONTAL WITH VERTICAL
STROKE, LEFT, LEFT AND HEAVY RIGHT, QUADRUPLE DASH HORIZONTAL, QUADRUPLE DASH VERTICAL, RIGHT,
TRIPLE DASH HORIZONTAL, TRIPLE DASH VERTICAL, UP, UP AND HEAVY DOWN, UP AND HORIZONTAL, UP AND
LEFT, UP AND RIGHT, VERTICAL, VERTICAL AND HORIZONTAL, VERTICAL AND LEFT, VERTICAL AND RIGHT;
BOX DRAWINGS RIGHT: DOWN HEAVY AND LEFT UP LIGHT, HEAVY AND LEFT DOWN LIGHT, HEAVY AND LEFT UP
LIGHT, HEAVY AND LEFT VERTICAL LIGHT, LIGHT AND LEFT DOWN HEAVY, LIGHT AND LEFT UP HEAVY, LIGHT
AND LEFT VERTICAL HEAVY, UP HEAVY AND LEFT DOWN LIGHT;
BOX DRAWINGS UP DOUBLE AND: HORIZONTAL SINGLE, LEFT SINGLE, RIGHT SINGLE;
BOX DRAWINGS UP HEAVY AND: DOWN HORIZONTAL LIGHT, HORIZONTAL LIGHT, LEFT DOWN LIGHT, LEFT LIGHT,
RIGHT DOWN LIGHT, RIGHT LIGHT;
BOX DRAWINGS UP LIGHT AND: DOWN HORIZONTAL HEAVY, HORIZONTAL HEAVY, LEFT DOWN HEAVY, LEFT HEAVY,
RIGHT DOWN HEAVY, RIGHT HEAVY;
BOX DRAWINGS UP SINGLE AND: HORIZONTAL DOUBLE, LEFT DOUBLE, RIGHT DOUBLE;
BOX DRAWINGS VERTICAL: DOUBLE AND HORIZONTAL SINGLE, DOUBLE AND LEFT SINGLE, DOUBLE AND RIGHT
SINGLE, HEAVY AND HORIZONTAL LIGHT, HEAVY AND LEFT LIGHT, HEAVY AND RIGHT LIGHT, LIGHT AND
HORIZONTAL HEAVY, LIGHT AND LEFT HEAVY, LIGHT AND RIGHT HEAVY, SINGLE AND HORIZONTAL DOUBLE,
SINGLE AND LEFT DOUBLE, SINGLE AND RIGHT DOUBLE;
BOXING: GLOVE;
BOYS: SYMBOL;
BRAHMI: DANDA, VIRAMA;
BRAHMI DIGIT: EIGHT, FIVE, FOUR, NINE, ONE, SEVEN, SIX, THREE, TWO, ZERO;
BRAHMI DOUBLE: DANDA;
BRAHMI LETTER: A, AA, AI, AU, BA, BHA, CA, CHA, DA, DDA, DDHA, DHA, E, GA, GHA, HA, I, II, JA,
JHA, KA, KHA, LA, LLA, MA, NA, NGA, NNA, NYA, O, OLD TAMIL LLA, OLD TAMIL LLLA, OLD TAMIL NNNA,
OLD TAMIL RRA, OLD TAMIL SHORT E, OLD TAMIL SHORT O, PA, PHA, RA, SA, SHA, SSA, TA, THA, TTA,
TTHA, U, UU, VA, VOCALIC L, VOCALIC LL, VOCALIC R, VOCALIC RR, YA;
BRAHMI NUMBER: EIGHT, EIGHTY, FIFTY, FIVE, FORTY, FOUR, JOINER, NINE, NINETY, ONE, ONE HUNDRED,
ONE THOUSAND, SEVEN, SEVENTY, SIX, SIXTY, TEN, THIRTY, THREE, TWENTY, TWO;
BRAHMI PUNCTUATION: CRESCENT BAR, DOT, DOUBLE DOT, LINE, LOTUS;
BRAHMI SIGN: ANUSVARA, CANDRABINDU, JIHVAMULIYA, OLD TAMIL VIRAMA, UPADHMANIYA, VISARGA;
BRAHMI VOWEL SIGN: AA, AI, AU, BHATTIPROLU AA, E, I, II, O, OLD TAMIL SHORT E, OLD TAMIL SHORT O,
U, UU, VOCALIC L, VOCALIC LL, VOCALIC R, VOCALIC RR;
BRAILLE PATTERN: BLANK, DOTS-1, DOTS-12, DOTS-123, DOTS-1234, DOTS-12345, DOTS-123456,
DOTS-1234567, DOTS-12345678, DOTS-1234568, DOTS-123457, DOTS-1234578, DOTS-123458, DOTS-12346,
DOTS-123467, DOTS-1234678, DOTS-123468, DOTS-12347, DOTS-123478, DOTS-12348, DOTS-1235,
DOTS-12356, DOTS-123567, DOTS-1235678, DOTS-123568, DOTS-12357, DOTS-123578, DOTS-12358,
DOTS-1236, DOTS-12367, DOTS-123678, DOTS-12368, DOTS-1237, DOTS-12378, DOTS-1238, DOTS-124,
DOTS-1245, DOTS-12456, DOTS-124567, DOTS-1245678, DOTS-124568, DOTS-12457, DOTS-124578,
DOTS-12458, DOTS-1246, DOTS-12467, DOTS-124678, DOTS-12468, DOTS-1247, DOTS-12478, DOTS-1248,
DOTS-125, DOTS-1256, DOTS-12567, DOTS-125678, DOTS-12568, DOTS-1257, DOTS-12578, DOTS-1258,
DOTS-126, DOTS-1267, DOTS-12678, DOTS-1268, DOTS-127, DOTS-1278, DOTS-128, DOTS-13, DOTS-134,
DOTS-1345, DOTS-13456, DOTS-134567, DOTS-1345678, DOTS-134568, DOTS-13457, DOTS-134578,
DOTS-13458, DOTS-1346, DOTS-13467, DOTS-134678, DOTS-13468, DOTS-1347, DOTS-13478, DOTS-1348,
DOTS-135, DOTS-1356, DOTS-13567, DOTS-135678, DOTS-13568, DOTS-1357, DOTS-13578, DOTS-1358,
DOTS-136, DOTS-1367, DOTS-13678, DOTS-1368, DOTS-137, DOTS-1378, DOTS-138, DOTS-14, DOTS-145,
DOTS-1456, DOTS-14567, DOTS-145678, DOTS-14568, DOTS-1457, DOTS-14578, DOTS-1458, DOTS-146,
DOTS-1467, DOTS-14678, DOTS-1468, DOTS-147, DOTS-1478, DOTS-148, DOTS-15, DOTS-156, DOTS-1567,
DOTS-15678, DOTS-1568, DOTS-157, DOTS-1578, DOTS-158, DOTS-16, DOTS-167, DOTS-1678, DOTS-168,
DOTS-17, DOTS-178, DOTS-18, DOTS-2, DOTS-23, DOTS-234, DOTS-2345, DOTS-23456, DOTS-234567,
DOTS-2345678, DOTS-234568, DOTS-23457, DOTS-234578, DOTS-23458, DOTS-2346, DOTS-23467,
DOTS-234678, DOTS-23468, DOTS-2347, DOTS-23478, DOTS-2348, DOTS-235, DOTS-2356, DOTS-23567,
DOTS-235678, DOTS-23568, DOTS-2357, DOTS-23578, DOTS-2358, DOTS-236, DOTS-2367, DOTS-23678,
DOTS-2368, DOTS-237, DOTS-2378, DOTS-238, DOTS-24, DOTS-245, DOTS-2456, DOTS-24567, DOTS-245678,
DOTS-24568, DOTS-2457, DOTS-24578, DOTS-2458, DOTS-246, DOTS-2467, DOTS-24678, DOTS-2468,
DOTS-247, DOTS-2478, DOTS-248, DOTS-25, DOTS-256, DOTS-2567, DOTS-25678, DOTS-2568, DOTS-257,
DOTS-2578, DOTS-258, DOTS-26, DOTS-267, DOTS-2678, DOTS-268, DOTS-27, DOTS-278, DOTS-28, DOTS-3,
DOTS-34, DOTS-345, DOTS-3456, DOTS-34567, DOTS-345678, DOTS-34568, DOTS-3457, DOTS-34578,
DOTS-3458, DOTS-346, DOTS-3467, DOTS-34678, DOTS-3468, DOTS-347, DOTS-3478, DOTS-348, DOTS-35,
DOTS-356, DOTS-3567, DOTS-35678, DOTS-3568, DOTS-357, DOTS-3578, DOTS-358, DOTS-36, DOTS-367,
DOTS-3678, DOTS-368, DOTS-37, DOTS-378, DOTS-38, DOTS-4, DOTS-45, DOTS-456, DOTS-4567, DOTS-45678,
DOTS-4568, DOTS-457, DOTS-4578, DOTS-458, DOTS-46, DOTS-467, DOTS-4678, DOTS-468, DOTS-47,
DOTS-478, DOTS-48, DOTS-5, DOTS-56, DOTS-567, DOTS-5678, DOTS-568, DOTS-57, DOTS-578, DOTS-58,
DOTS-6, DOTS-67, DOTS-678, DOTS-68, DOTS-7, DOTS-78, DOTS-8;
BREAK: PERMITTED HERE;
BRIDE: WITH VEIL;
BRIDGE: AT NIGHT;
BROKEN: BAR, CIRCLE WITH NORTHWEST ARROW, HEART;
BROWN: HEART;
BUBBLE: TEA;
BUGINESE: PALLAWA;
BUGINESE END: OF SECTION;
BUGINESE LETTER: A, BA, CA, DA, GA, HA, JA, KA, LA, MA, MPA, NA, NGA, NGKA, NRA, NYA, NYCA, PA,
RA, SA, TA, VA, YA;
BUGINESE VOWEL SIGN: AE, E, I, O, U;
BUHID LETTER: A, BA, DA, GA, HA, I, KA, LA, MA, NA, NGA, PA, RA, SA, TA, U, WA, YA;
BUHID VOWEL SIGN: I, U;
BUILDING: CONSTRUCTION;
BULLET: OPERATOR;
BULLHORN: WITH SOUND WAVES;
BUS: STOP;
BUST: IN SILHOUETTE;
BUSTS: IN SILHOUETTE;
BYTE: ORDER MARK;
BYZANTINE MUSICAL SYMBOL: AGOGI ARGI, AGOGI ARGOTERI, AGOGI GORGI, AGOGI GORGOTERI, AGOGI MESI,
AGOGI METRIA, AGOGI POLI ARGI, AGOGI POLI GORGI, ANATRICHISMA, ANTIKENOKYLISMA, ANTIKENOMA, APESO
EKFONITIKON, APESO EXO NEO, APLI, APODERMA ARCHAION, APODERMA NEO, APOSTROFOI SYNDESMOS NEO,
APOSTROFOI TELOUS ICHIMATOS, APOSTROFOS, APOSTROFOS DIPLI, APOSTROFOS NEO, APOTHEMA, ARGON,
ARGOSYNTHETON, ARKTIKO DI, ARKTIKO GA, ARKTIKO KE, ARKTIKO NI, ARKTIKO PA, ARKTIKO VOU, ARKTIKO
ZO, CHAMILI, CHAMILON, CHOREVMA ARCHAION, CHOREVMA NEO, CHROA KLITON, CHROA SPATHI, CHROA ZYGOS,
DASEIA, DIARGON, DIASTOLI APLI MEGALI, DIASTOLI APLI MIKRI, DIASTOLI DIPLI, DIASTOLI THESEOS,
DIESIS APLI DYO DODEKATA, DIESIS DIGRAMMOS EX DODEKATA, DIESIS MONOGRAMMOS TESSERA DODEKATA,
DIESIS TETARTIMORION, DIESIS TRIGRAMMOS OKTO DODEKATA, DIESIS TRITIMORION, DIFTOGGOS OU, DIGORGON,
DIGORGON PARESTIGMENON ARISTERA ANO, DIGORGON PARESTIGMENON ARISTERA KATO, DIGORGON PARESTIGMENON
DEXIA, DIGRAMMA GG, DIPLI, DIPLI ARCHAION, DYO, EKSTREPTON, ELAFRON, ENARXIS KAI FTHORA VOU,
ENDOFONON, EPEGERMA, ETERON ARGOSYNTHETON, ETERON PARAKALESMA, EXO EKFONITIKON, FANEROSIS
DIFONIAS, FANEROSIS MONOFONIAS, FANEROSIS TETRAFONIAS, FHTORA SKLIRON CHROMA VASIS, FTHORA
ARCHAION, FTHORA ARCHAION DEYTEROU ICHOU, FTHORA DIATONIKI DI, FTHORA DIATONIKI KE, FTHORA
DIATONIKI NANA, FTHORA DIATONIKI NI ANO, FTHORA DIATONIKI NI KATO, FTHORA DIATONIKI PA, FTHORA
DIATONIKI ZO, FTHORA ENARMONIOS ANTIFONIA, FTHORA I YFESIS TETARTIMORION, FTHORA MALAKON CHROMA
DIFONIAS, FTHORA MALAKON CHROMA MONOFONIAS, FTHORA NAOS ICHOS, FTHORA NENANO, FTHORA SKLIRON
CHROMA SYNAFI, FTHORA SKLIRON CHROMA VASIS, FTHORA SKLIRON DIATONON DI, GENIKI DIESIS, GENIKI
YFESIS, GORGON ARCHAION, GORGON NEO ANO, GORGON NEO KATO, GORGON PARESTIGMENON ARISTERA, GORGON
PARESTIGMENON DEXIA, GORGOSYNTHETON, GORTHMIKON N APLOUN, GORTHMIKON N DIPLOUN, GRONTHISMATA,
ICHADIN, IMIDIARGON, IMIFONON, IMIFTHORA, IMIFTHORON, ISAKIA TELOUS ICHIMATOS, ISON ARCHAION, ISON
NEO, KATAVA TROMIKON, KATAVASMA, KATHISTI, KENTIMA ARCHAION, KENTIMA NEO ANO, KENTIMA NEO KATO,
KENTIMA NEO MESO, KENTIMATA, KENTIMATA ARCHAION, KENTIMATA NEO ANO, KENTIMATA NEO KATO, KENTIMATA
NEO MESO, KLASMA, KLASMA ANO, KLASMA KATO, KONTEVMA, KONTEVMA ALLO, KORONIS, KOUFISMA, KRATIMA
ALLO, KRATIMA ARCHAION, KRATIMA NEO, KRATIMATA, KRATIMOKOUFISMA, KRATIMOYPORROON, KREMASTI,
KYLISMA, LEIMMA DYO CHRONON, LEIMMA ENOS CHRONOU, LEIMMA IMISEOS CHRONOU, LEIMMA TESSARON CHRONON,
LEIMMA TRION CHRONON, LEMOI, LYGISMA, MARTYRIA ALLI DEYTEROS ICHOS, MARTYRIA ALLI PROTOS ICHOS,
MARTYRIA DEYTEROS ICHOS, MARTYRIA LEGETOS ICHOS, MARTYRIA PLAGIOS ICHOS, MARTYRIA PLAGIOS TETARTOS
ICHOS, MARTYRIA PROTOS ICHOS, MARTYRIA PROTOVARYS ICHOS, MARTYRIA TETARTOS ICHOS, MARTYRIA
TETARTOS LEGETOS ICHOS, MARTYRIA TRIFONIAS, MARTYRIA TRITOS ICHOS, MARTYRIA VARYS ICHOS, MIKRON
ISON, NANA, OLIGON ARCHAION, OLIGON NEO, OMALON, OXEIA DIPLI, OXEIA EKFONITIKON, OXEIA NEO, OXEIAI
ARCHAION, OYRANISMA ARCHAION, OYRANISMA NEO, PARAKALESMA ARCHAION, PARAKALESMA NEO, PARAKLITIKI,
PARAKLITIKI ARCHAION, PARAKLITIKI NEO, PARICHON, PELASTON, PELASTON NEO, PERISPOMENI, PETASMA,
PETASTI, PETASTOKOUFISMA, PIASMA ARCHAION, PIASMA NEO, PSIFISTOLYGISMA, PSIFISTON, PSIFISTON NEO,
PSIFISTOPARAKALESMA, PSIFISTOSYNAGMA, PSILI, PSILON, RAPISMA, REVMA, SAXIMATA, SEISMA, SEISMA NEO,
SIMANSIS ARSEOS, SIMANSIS ARSEOS DISIMOU, SIMANSIS ARSEOS TETRASIMOU, SIMANSIS ARSEOS TRISIMOU,
SIMANSIS THESEOS, SIMANSIS THESEOS DISIMOU, SIMANSIS THESEOS TETRASIMOU, SIMANSIS THESEOS
TRISIMOU, STAVROS, STAVROS APODEXIA, STIGMA, STRAGGISMATA, SYNAGMA ARCHAION, SYNAGMA META STAVROU,
SYNAGMA NEO, SYNEVMA, SYRMA, SYRMATIKI, TELEIA, TESSERA, TETRAPLI, THEMA, THEMA APLOUN,
THEMATISMOS ESO, THEMATISMOS EXO, THES KAI APOTHES, THITA, TINAGMA, TRIA, TRIGORGON, TRIPLI,
TROMIKOLYGISMA, TROMIKON ALLO, TROMIKON ARCHAION, TROMIKON NEO, TROMIKOPARAKALESMA,
TROMIKOPSIFISTON, TROMIKOSYNAGMA, VAREIA DIPLI, VAREIA EKFONITIKON, VAREIA NEO, VAREIAI ARCHAION,
VATHY, XIRON KLASMA, YFEN ANO, YFEN KATO, YFESIS APLI DYO DODEKATA, YFESIS DIGRAMMOS EX DODEKATA,
YFESIS MONOGRAMMOS TESSERA DODEKATA, YFESIS TRIGRAMMOS OKTO DODEKATA, YFESIS TRITIMORION,
YPOKRISIS, YPOKRISIS DIPLI, YPORROI, YPSILI;
CADA: UNA;
CALL: ME HAND;
CAMERA: WITH FLASH;
CANADIAN SYLLABICS: A, AA, AAI, AAY, AI, AN, AY, C, CA, CAA, CAAI, CE, CI, CII, CO, COO, CWA,
CWAA, CWE, CWI, CWII, CWO, CWOO, E, EN, F, FA, FAA, FAAI, FE, FI, FII, FO, FOO, FWAA, HK, HYPHEN,
I, II, IN, K, KA, KAA, KAAI, KAY, KE, KI, KII, KO, KOO, KW, KWA, KWAA, KWAY, KWE, KWI, KWII, KWO,
KWOO, L, LA, LAA, LAAI, LAY, LE, LH, LHA, LHAA, LHI, LHII, LHO, LHOO, LI, LII, LO, LOO, LWA, LWAA,
LWE, LWI, LWII, LWO, LWOO, M, MA, MAA, MAAI, MAY, ME, MH, MI, MII, MO, MOO, MWA, MWAA, MWE, MWI,
MWII, MWO, MWOO, N, NA, NAA, NAAI, NAY, NE, NG, NGA, NGAA, NGAAI, NGAI, NGI, NGII, NGO, NGOO, NH,
NI, NII, NNG, NNGA, NNGAA, NNGI, NNGII, NNGO, NNGOO, NO, NOO, NOY, NWA, NWAA, NWE, NWI, NWII, NWO,
NWOO, O, ON, OO, OY, P, PA, PAA, PAAI, PAY, PE, PI, PII, PO, POO, POY, PWA, PWAA, PWE, PWI, PWII,
PWO, PWOO, PWOY, Q, QA, QAA, QAAI, QAI, QI, QII, QO, QOO, R, RA, RAA, RAAI, RAY, RE, RI, RII, RO,
ROO, RWA, RWAA, RWEE, RWI, RWII, RWO, RWOO, S, SA, SAA, SAAI, SAY, SE, SH, SHA, SHAA, SHAY, SHE,
SHI, SHII, SHO, SHOO, SHOY, SHWA, SHWAA, SHWE, SHWI, SHWII, SHWO, SHWOO, SHWOY, SI, SII, SO, SOO,
SOY, SPA, SPE, SPI, SPO, SW, SWA, SWAA, SWE, SWI, SWII, SWO, SWOO, T, TA, TAA, TAAI, TAY, TE, TH,
THA, THAA, THE, THI, THII, THO, THOO, THWA, THWAA, THWE, TI, TII, TLHA, TLHE, TLHI, TLHO, TLHOO,
TLHWE, TO, TOO, TTA, TTE, TTH, TTHA, TTHAA, TTHE, TTHI, TTHO, TTHOO, TTHWE, TTI, TTO, TWA, TWAA,
TWE, TWI, TWII, TWO, TWOO, TYA, TYE, TYI, TYO, WA, WAA, WAY, WE, WI, WII, WO, WOO, Y, YA, YAA,
YAAI, YAY, YE, YI, YII, YO, YOO, YOY, YWA, YWAA, YWE, YWI, YWII, YWO, YWOO;
CANADIAN SYLLABICS AIVILIK: B;
CANADIAN SYLLABICS ATHAPASCAN: M, S;
CANADIAN SYLLABICS BEAVER DENE: L, R;
CANADIAN SYLLABICS BIBLE-CREE: Y;
CANADIAN SYLLABICS BLACKFOOT: A, E, I, KA, KE, KI, KO, NA, NE, NI, NO, O, S, W, WA, WE, WI, WO;
CANADIAN SYLLABICS CARRIER: CHA, CHE, CHEE, CHI, CHO, CHU, DEE, DENE GEE, DENTAL S, DI, DLA, DLE,
DLEE, DLI, DLO, DLU, DZA, DZE, DZEE, DZI, DZO, DZU, EE, GA, GAA, GE, GEE, GHA, GHE, GHEE, GHI,
GHO, GHU, GI, GO, GU, GWA, GWU, H, HEE, HI, HWA, HWE, HWEE, HWI, HWO, HWU, I, INITIAL Z, JA, JE,
JEE, JI, JJA, JJE, JJEE, JJI, JJO, JJU, JO, JU, JWA, KHA, KHE, KHEE, KHI, KHO, KHU, KK, KKA, KKE,
KKEE, KKI, KKO, KKU, LA, LE, LEE, LHA, LHE, LHEE, LHI, LHO, LHU, LI, LO, LU, MA, ME, MEE, MI, MO,
MU, NA, NE, NEE, NG, NI, NO, NU, P, PA, PE, PEE, PI, PO, PU, RA, RE, REE, RI, RO, RU, SA, SE, SEE,
SH, SHA, SHE, SHEE, SHI, SHO, SHU, SI, SO, SU, THA, THE, THEE, THI, THO, THU, TLA, TLE, TLEE,
TLHA, TLHE, TLHEE, TLHI, TLHO, TLHU, TLI, TLO, TLU, TSA, TSE, TSEE, TSI, TSO, TSU, TTA, TTE, TTEE,
TTI, TTO, TTSA, TTSE, TTSEE, TTSI, TTSO, TTSU, TTU, WA, WE, WEE, WI, WO, WU, YA, YE, YEE, YI, YO,
YU, Z, ZA, ZE, ZEE, ZI, ZO, ZU;
CANADIAN SYLLABICS CHI: SIGN;
CANADIAN SYLLABICS EASTERN: W;
CANADIAN SYLLABICS FINAL: ACUTE, BOTTOM HALF RING, DOUBLE ACUTE, DOUBLE SHORT VERTICAL STROKES,
DOWN TACK, GRAVE, MIDDLE DOT, PLUS, RAISED DOT, RIGHT HALF RING, RING, SHORT HORIZONTAL STROKE,
SMALL RING, TOP HALF RING;
CANADIAN SYLLABICS FULL: STOP;
CANADIAN SYLLABICS GLOTTAL: STOP;
CANADIAN SYLLABICS MEDIAL: L, R;
CANADIAN SYLLABICS MOOSE-CREE: SK;
CANADIAN SYLLABICS N-CREE: THE, THI, THII;
CANADIAN SYLLABICS NASKAPI: CWAA, KWAA, MWAA, NWAA, S-W, SCWA, SKW, SKWA, SPWA, STWA, SWAA, TWAA,
WAA, WOO, YWAA;
CANADIAN SYLLABICS NATTILIK: HA, HAA, HI, HII, HO, HOO, SHRA, SHRAA, SHRI, SHRII, SHRO, SHROO;
CANADIAN SYLLABICS NUNAVIK: H, HA, HAA, HE, HI, HII, HO, HOO;
CANADIAN SYLLABICS NUNAVUT: H;
CANADIAN SYLLABICS OJIBWAY: C, K, M, N, NWI, NWII, NWO, NWOO, P, S, SH, T;
CANADIAN SYLLABICS R-CREE: RE, RWE;
CANADIAN SYLLABICS SAYISI: HA, HE, HI, HO, HOO, JI, JU, JUU, M, SHA, SHE, SHI, SHO, SHOO, SHWE,
TH, YI;
CANADIAN SYLLABICS SOUTH-SLAVEY: KAH, KEH, KIH, KOH;
CANADIAN SYLLABICS TH-CREE: TH, THA, THAA, THE, THI, THII, THO, THOO;
CANADIAN SYLLABICS WEST-CREE: CWA, CWAA, CWE, CWI, CWII, CWO, CWOO, FWAA, KWA, KWAA, KWE, KWI,
KWII, KWO, KWOO, L, LA, LAA, LE, LO, LOO, LWA, LWAA, LWE, LWI, LWII, LWO, LWOO, M, MWA, MWAA, MWE,
MWI, MWII, MWO, MWOO, NWA, NWAA, NWE, P, PWA, PWAA, PWE, PWI, PWII, PWO, PWOO, R, RA, RE, RI, RO,
RWAA, SHWA, SHWAA, SHWE, SHWI, SHWII, SHWO, SHWOO, SWA, SWAA, SWE, SWI, SWII, SWO, SWOO, THWAA,
TWA, TWAA, TWE, TWI, TWII, TWO, TWOO, WA, WAA, WE, WI, WII, WO, WOO, Y, YWA, YWAA, YWE, YWI, YWII,
YWO, YWOO;
CANADIAN SYLLABICS WESTERN: W;
CANADIAN SYLLABICS WOODS-CREE: FINAL TH, TH, THA, THE, THI, THO, THWA, THWAA, THWEE, THWI, THWII,
THWO, THWOO;
CANADIAN SYLLABICS Y-CREE: COO, KOO, LOO, MOO, NOO, OO, POO, PWAA, SOO, TOO, W, YOO;
CANCEL: CHARACTER, TAG;
CANCELLATION: X;
CANNED: FOOD;
CAR: SLIDING;
CARD: FILE BOX, INDEX, INDEX DIVIDERS;
CARE: OF;
CARET: INSERTION POINT;
CARIAN LETTER: A, A2, B, C-18, C-39, D, D2, E, E2, G, G2, I, II, K, K2, L, LD, LD2, M, MB, MB2,
MB3, MB4, N, ND, NG, NN, O, P, P2, Q, R, RR, S, SH, SH2, SS, ST, ST2, T, TT, TT2, U, UU, UUU,
UUU2, UUU3, UUUU, X;
CAROUSEL: HORSE;
CARP: STREAMER;
CARPENTRY: SAW;
CARRIAGE: RETURN;
CAT: FACE, FACE WITH TEARS OF JOY, FACE WITH WRY SMILE;
CAUCASIAN ALBANIAN CITATION: MARK;
CAUCASIAN ALBANIAN LETTER: ALT, AOR, BET, CAR, CAYN, CHA, CHAT, CHI, CHOY, CYAW, CYAY, DAT, DYAN,
DZAY, DZYAY, EB, EYN, FAM, GHEYS, GIM, HEYT, INYA, IRB, IWN, JAYN, JHOX, KAR, KIW, LAN, LYIT, MAQ,
NOWC, ON, PEN, PIWR, QAR, QAY, RAT, SEYK, SHA, SHAK, SHOY, TAS, TIWR, TYAY, VEYZ, XEYN, YAYD,
YOWD, ZARL, ZHA, ZHIL;
CAUTION: SIGN;
CEDI: SIGN;
CELTIC: CROSS;
CENT: SIGN;
CENTRE: LINE SYMBOL;
CENTRELINE: LOW LINE, OVERLINE;
CHAKMA: DANDA, MAAYYAA, VIRAMA;
CHAKMA AU: MARK;
CHAKMA DIGIT: EIGHT, FIVE, FOUR, NINE, ONE, SEVEN, SIX, THREE, TWO, ZERO;
CHAKMA DOUBLE: DANDA;
CHAKMA LETTER: AA, BAA, BHAA, CAA, CHAA, DAA, DDAA, DDHAA, DHAA, E, GAA, GHAA, HAA, I, JAA, JHAA,
KAA, KHAA, LAA, LHAA, MAA, NAA, NGAA, NNAA, NYAA, PAA, PHAA, RAA, SAA, TAA, THAA, TTAA, TTHAA, U,
VAA, WAA, YAA, YYAA;
CHAKMA O: MARK;
CHAKMA QUESTION: MARK;
CHAKMA SECTION: MARK;
CHAKMA SIGN: ANUSVARA, CANDRABINDU, VISARGA;
CHAKMA VOWEL SIGN: A, AA, AI, AU, E, EI, I, II, O, OI, U, UU;
CHAM CONSONANT SIGN: FINAL H, FINAL M, FINAL NG, LA, RA, WA, YA;
CHAM DIGIT: EIGHT, FIVE, FOUR, NINE, ONE, SEVEN, SIX, THREE, TWO, ZERO;
CHAM LETTER: A, AI, BA, BBA, BHA, CHA, CHHA, DA, DDA, DHA, E, GA, GHA, HA, I, JA, JHA, KA, KHA,
LA, MA, MUE, NA, NGA, NGUE, NHA, NHJA, NHUE, NUE, O, PA, PHA, PPA, RA, SA, SSA, TA, THA, U, VA,
YA;
CHAM LETTER FINAL: CH, G, K, L, N, NG, P, R, SS, T, Y;
CHAM PUNCTUATION: DANDA, DOUBLE DANDA, SPIRAL, TRIPLE DANDA;
CHAM VOWEL SIGN: AA, AI, AU, EI, I, II, O, OE, U, UE;
CHARACTER: TABULATION, TABULATION SET, TABULATION WITH JUSTIFICATION, TIE;
CHART WITH: DOWNWARDS TREND, UPWARDS TREND, UPWARDS TREND AND YEN SIGN;
CHECK: MARK;
CHECKER: BOARD, BOARD FILL;
CHEERING: MEGAPHONE;
CHEESE: WEDGE;
CHEQUERED: FLAG;
CHEROKEE LETTER: A, DA, DE, DI, DLA, DO, DU, DV, E, GA, GE, GI, GO, GU, GV, HA, HE, HI, HNA, HO,
HU, HV, I, KA, LA, LE, LI, LO, LU, LV, MA, ME, MI, MO, MU, MV, NA, NAH, NE, NI, NO, NU, NV, O,
QUA, QUE, QUI, QUO, QUU, QUV, S, SA, SE, SI, SO, SU, SV, TA, TE, TI, TLA, TLE, TLI, TLO, TLU, TLV,
TSA, TSE, TSI, TSO, TSU, TSV, U, V, WA, WE, WI, WO, WU, WV, YA, YE, YI, YO, YU, YV;
CHEROKEE SMALL LETTER: A, DA, DE, DI, DLA, DO, DU, DV, E, GA, GE, GI, GO, GU, GV, HA, HE, HI, HNA,
HO, HU, HV, I, KA, LA, LE, LI, LO, LU, LV, MA, ME, MI, MO, MU, MV, NA, NAH, NE, NI, NO, NU, NV, O,
QUA, QUE, QUI, QUO, QUU, QUV, S, SA, SE, SI, SO, SU, SV, TA, TE, TI, TLA, TLE, TLI, TLO, TLU, TLV,
TSA, TSE, TSI, TSO, TSU, TSV, U, V, WA, WE, WI, WO, WU, WV, YA, YE, YI, YO, YU, YV;
CHERRY: BLOSSOM;
CHI: RHO;
CHILDREN: CROSSING;
CHOCOLATE: BAR;
CHORASMIAN LETTER: ALEPH, AYIN, BETH, CURLED WAW, DALETH, GIMEL, HE, HETH, KAPH, LAMEDH, MEM, NUN,
PE, RESH, SAMEKH, SHIN, SMALL ALEPH, TAW, WAW, YODH, ZAYIN;
CHORASMIAN NUMBER: FOUR, ONE, ONE HUNDRED, TEN, THREE, TWENTY, TWO;
CHRISTMAS: TREE;
CIRCLE DIVIDED: BY HORIZONTAL BAR AND TOP HALF DIVIDED BY VERTICAL BAR;
CIRCLE WITH: ALL BUT UPPER LEFT QUADRANT BLACK, HORIZONTAL BAR, LEFT HALF BLACK, LOWER HALF BLACK,
RIGHT HALF BLACK, SMALL CIRCLE TO THE RIGHT, SUPERIMPOSED X, TWO HORIZONTAL STROKES TO THE RIGHT,
UPPER HALF BLACK, UPPER RIGHT QUADRANT BLACK, VERTICAL FILL;
CIRCLED: BULLET, CC, CD, DASH, EQUALS, GREATER-THAN, LESS-THAN, MINUS, PARALLEL, PERPENDICULAR,
PLUS, SQUARE, TIMES, TRIANGLE, WZ, X;
CIRCLED ANTICLOCKWISE: ARROW;
CIRCLED ANTICLOCKWISE-ROTATED: DIVISION SIGN;
CIRCLED ASTERISK: OPERATOR;
CIRCLED BOLD: X;
CIRCLED C: WITH OVERLAID BACKSLASH;
CIRCLED CROSS: FORMEE, FORMEE WITH FOUR DOTS, FORMEE WITH TWO DOTS, POMMEE;
CIRCLED CROSSING: LANES;
CIRCLED DIGIT: EIGHT, FIVE, FOUR, NINE, ONE, SEVEN, SIX, THREE, TWO, ZERO;
CIRCLED DIVISION: SIGN, SLASH;
CIRCLED DOLLAR: SIGN WITH OVERLAID BACKSLASH;
CIRCLED DOT: OPERATOR;
CIRCLED HANGUL: CHIEUCH, CHIEUCH A, CIEUC, CIEUC A, HIEUH, HIEUH A, IEUNG, IEUNG A, IEUNG U,
KHIEUKH, KHIEUKH A, KIYEOK, KIYEOK A, MIEUM, MIEUM A, NIEUN, NIEUN A, PHIEUPH, PHIEUPH A, PIEUP,
PIEUP A, RIEUL, RIEUL A, SIOS, SIOS A, THIEUTH, THIEUTH A, TIKEUT, TIKEUT A;
CIRCLED HEAVY: WHITE RIGHTWARDS ARROW;
CIRCLED HORIZONTAL: BAR WITH NOTCH;
CIRCLED HUMAN: FIGURE;
CIRCLED IDEOGRAPH: ACCEPT, ADVANTAGE, ALLIANCE, ATTENTION, CENTRE, CONGRATULATION, COPY, CORRECT,
EARTH, EIGHT, ENTERPRISE, EXCELLENT, FEMALE, FINANCIAL, FIRE, FIVE, FOUR, HAVE, HIGH, ITEM,
KINDERGARTEN, KOTO, LABOR, LEFT, LOW, MALE, MEDICINE, METAL, MOON, NAME, NIGHT, NINE, ONE, PRINT,
QUESTION, RELIGION, RESOURCE, REST, RIGHT, SCHOOL, SECRET, SEVEN, SIX, SOCIETY, SPECIAL, STOCK,
STUDY, SUITABLE, SUN, SUPERVISE, TEN, THREE, TWO, WATER, WOOD;
CIRCLED INFORMATION: SOURCE;
CIRCLED ITALIC LATIN CAPITAL LETTER: C, R;
CIRCLED KATAKANA: A, E, HA, HE, HI, HO, HU, I, KA, KE, KI, KO, KU, MA, ME, MI, MO, MU, NA, NE, NI,
NO, NU, O, RA, RE, RI, RO, RU, SA, SE, SI, SO, SU, TA, TE, TI, TO, TU, U, WA, WE, WI, WO, YA, YO,
YU;
CIRCLED KOREAN CHARACTER: CHAMKO, JUEUI;
CIRCLED LATIN CAPITAL LETTER: A, B, C, D, E, F, G, H, I, J, K, L, M, N, O, P, Q, R, S, T, U, V, W,
X, Y, Z;
CIRCLED LATIN SMALL LETTER: A, B, C, D, E, F, G, H, I, J, K, L, M, N, O, P, Q, R, S, T, U, V, W,
X, Y, Z;
CIRCLED MULTIPLICATION: SIGN WITH CIRCUMFLEX ACCENT;
CIRCLED NUMBER: EIGHTEEN, EIGHTY ON BLACK SQUARE, ELEVEN, FIFTEEN, FIFTY, FIFTY ON BLACK SQUARE,
FORTY, FORTY EIGHT, FORTY FIVE, FORTY FOUR, FORTY NINE, FORTY ON BLACK SQUARE, FORTY ONE, FORTY
SEVEN, FORTY SIX, FORTY THREE, FORTY TWO, FOURTEEN, NINETEEN, SEVENTEEN, SEVENTY ON BLACK SQUARE,
SIXTEEN, SIXTY ON BLACK SQUARE, TEN, TEN ON BLACK SQUARE, THIRTEEN, THIRTY, THIRTY EIGHT, THIRTY
FIVE, THIRTY FOUR, THIRTY NINE, THIRTY ON BLACK SQUARE, THIRTY ONE, THIRTY SEVEN, THIRTY SIX,
THIRTY THREE, THIRTY TWO, TWELVE, TWENTY, TWENTY EIGHT, TWENTY FIVE, TWENTY FOUR, TWENTY NINE,
TWENTY ON BLACK SQUARE, TWENTY ONE, TWENTY SEVEN, TWENTY SIX, TWENTY THREE, TWENTY TWO;
CIRCLED OPEN: CENTRE EIGHT POINTED STAR;
CIRCLED POSTAL: MARK;
CIRCLED REVERSE: SOLIDUS;
CIRCLED RING: OPERATOR;
CIRCLED TRIANGLE: DOWN;
CIRCLED VERTICAL: BAR;
CIRCLED WHITE: BULLET, STAR;
CIRCLED ZERO: WITH SLASH;
CIRCULATION: FUNCTION;
CIRCUMFLEX: ACCENT;
CIRCUS: TENT;
CITYSCAPE: AT DUSK;
CJK RADICAL: BAMBOO, BLUE, BOLT OF CLOTH, BONE, BOX, BRUSH ONE, BRUSH TWO, C-SIMPLIFIED BIRD,
C-SIMPLIFIED CART, C-SIMPLIFIED DRAGON, C-SIMPLIFIED EAT, C-SIMPLIFIED EVEN, C-SIMPLIFIED FISH,
C-SIMPLIFIED FLY, C-SIMPLIFIED FROG, C-SIMPLIFIED GATE, C-SIMPLIFIED GOLD, C-SIMPLIFIED HORSE,
C-SIMPLIFIED LEAF, C-SIMPLIFIED LONG, C-SIMPLIFIED SALT, C-SIMPLIFIED SEE, C-SIMPLIFIED SHELL,
C-SIMPLIFIED SILK, C-SIMPLIFIED SPEECH, C-SIMPLIFIED TANNED LEATHER, C-SIMPLIFIED TOOTH,
C-SIMPLIFIED TURTLE, C-SIMPLIFIED WIND, CHOKE, CITY, CIVILIAN, CLIFF, CLOTHES, COW, DEATH,
DIVINATION, DOG, EAT ONE, EAT THREE, EAT TWO, EWE, EYE, FIRE, FOOT, GHOST, GRASS ONE, GRASS THREE,
GRASS TWO, HAND, HEAD, HEART ONE, HEART TWO, HORN, J-SIMPLIFIED DRAGON, J-SIMPLIFIED EVEN,
J-SIMPLIFIED TOOTH, J-SIMPLIFIED TURTLE, JADE, KNIFE ONE, KNIFE TWO, LAME FOUR, LAME ONE, LAME
THREE, LAME TWO, LONG ONE, LONG TWO, MEAT, MESH, MOON, MORTAR, MOTHER, MOUND ONE, MOUND TWO, NET
FOUR, NET ONE, NET THREE, NET TWO, OLD, PAW ONE, PAW TWO, PERSON, RAIN, RAM, RAP, REPEAT, SEAL,
SECOND ONE, SECOND THREE, SECOND TWO, SHEEP, SILK, SIMPLIFIED HALF TREE TRUNK, SIMPLIFIED HORN,
SIMPLIFIED WALK, SIMPLIFIED WHEAT, SIMPLIFIED YELLOW, SMALL ONE, SMALL TWO, SNAKE, SNOUT ONE,
SNOUT TWO, SPIRIT ONE, SPIRIT TWO, SUN, TABLE, THREAD, TIGER, TURTLE, WALK ONE, WALK TWO, WATER
ONE, WATER TWO, WEST ONE, WEST TWO;
CJK STROKE: BXG, D, H, HG, HP, HPWG, HXWG, HZ, HZG, HZT, HZW, HZWG, HZZ, HZZP, HZZZ, HZZZG, N, P,
PD, PG, PZ, Q, S, SG, SP, ST, SW, SWG, SWZ, SZ, SZWG, SZZ, T, TN, WG, XG;
CLAMSHELL: MOBILE PHONE;
CLAPPER: BOARD;
CLAPPING: HANDS SIGN;
CLASSICAL: BUILDING;
CLEAR: SCREEN SYMBOL;
CLINKING: BEER MUGS, GLASSES;
CLOCK FACE: EIGHT OCLOCK, EIGHT-THIRTY, ELEVEN OCLOCK, ELEVEN-THIRTY, FIVE OCLOCK, FIVE-THIRTY,
FOUR OCLOCK, FOUR-THIRTY, NINE OCLOCK, NINE-THIRTY, ONE OCLOCK, ONE-THIRTY, SEVEN OCLOCK,
SEVEN-THIRTY, SIX OCLOCK, SIX-THIRTY, TEN OCLOCK, TEN-THIRTY, THREE OCLOCK, THREE-THIRTY, TWELVE
OCLOCK, TWELVE-THIRTY, TWO OCLOCK, TWO-THIRTY;
CLOCKWISE: CLOSED CIRCLE ARROW, CONTOUR INTEGRAL, DOWNWARDS AND UPWARDS OPEN CIRCLE ARROWS, GAPPED
CIRCLE ARROW, INTEGRAL, OPEN CIRCLE ARROW, RIGHT AND LEFT SEMICIRCLE ARROWS, RIGHTWARDS AND
LEFTWARDS OPEN CIRCLE ARROWS, RIGHTWARDS AND LEFTWARDS OPEN CIRCLE ARROWS WITH CIRCLED ONE
OVERLAY, TOP SEMICIRCLE ARROW, TRIANGLE-HEADED OPEN CIRCLE ARROW;
CLOSE: UP;
CLOSED: BOOK, INTERSECTION WITH SERIFS, LOCK WITH KEY, MAILBOX WITH LOWERED FLAG, MAILBOX WITH
RAISED FLAG, SUBSET, SUBSET OR EQUAL TO, SUPERSET, SUPERSET OR EQUAL TO, UMBRELLA, UNION WITH
SERIFS, UNION WITH SERIFS AND SMASH PRODUCT;
CLOUD WITH: LIGHTNING, RAIN, SNOW, TORNADO;
CLOWN: FACE;
COCKTAIL: GLASS;
COLLISION: SYMBOL;
COLON: EQUALS, SIGN;
COMBINING: ACUTE-GRAVE-ACUTE, ACUTE-MACRON, BREVE, BREVE-MACRON, CANDRABINDU, CARON, CEDILLA,
DIAERESIS, DIAERESIS-RING, FERMATA, GRAVE-ACUTE-GRAVE, GRAVE-MACRON, HORN, INFINITY, MACRON,
MACRON-ACUTE, MACRON-BREVE, MACRON-GRAVE, OGONEK, OVERLINE, TILDE;
COMBINING ACUTE: ACCENT, ACCENT BELOW, TONE MARK;
COMBINING ALMOST EQUAL TO: ABOVE, BELOW;
COMBINING ANNUITY: SYMBOL;
COMBINING ANTICLOCKWISE: ARROW ABOVE, RING OVERLAY;
COMBINING ASTERISK: ABOVE, BELOW;
COMBINING BINDU: BELOW;
COMBINING BREVE: BELOW;
COMBINING BRIDGE: ABOVE, BELOW;
COMBINING CARON: BELOW;
COMBINING CIRCUMFLEX: ACCENT, ACCENT BELOW;
COMBINING CLOCKWISE: ARROW ABOVE, RING OVERLAY;
COMBINING COMMA: ABOVE, ABOVE RIGHT, BELOW;
COMBINING CONJOINING: MACRON, MACRON BELOW;
COMBINING CYRILLIC: DASIA PNEUMATA, HUNDRED MILLIONS SIGN, HUNDRED THOUSANDS SIGN, KAVYKA, LETTER
A, LETTER BE, LETTER BIG YUS, LETTER CHE, LETTER DE, LETTER DJERV, LETTER EF, LETTER EL, LETTER
EM, LETTER EN, LETTER ER, LETTER ES, LETTER ES-TE, LETTER FITA, LETTER GHE, LETTER HA, LETTER HARD
SIGN, LETTER I, LETTER IE, LETTER IOTIFIED A, LETTER IOTIFIED BIG YUS, LETTER IOTIFIED E, LETTER
KA, LETTER LITTLE YUS, LETTER MONOGRAPH UK, LETTER O, LETTER OMEGA, LETTER PE, LETTER SHA, LETTER
SHCHA, LETTER SOFT SIGN, LETTER TE, LETTER TSE, LETTER U, LETTER UKRAINIAN IE, LETTER VE, LETTER
YAT, LETTER YERU, LETTER YI, LETTER YU, LETTER ZE, LETTER ZHE, MILLIONS SIGN, PALATALIZATION,
PAYEROK, POKRYTIE, PSILI PNEUMATA, TEN MILLIONS SIGN, THOUSAND MILLIONS SIGN, TITLO, TITLO LEFT
HALF, TITLO RIGHT HALF, VZMET;
COMBINING DELETION: MARK;
COMBINING DEVANAGARI: DIGIT EIGHT, DIGIT FIVE, DIGIT FOUR, DIGIT NINE, DIGIT ONE, DIGIT SEVEN,
DIGIT SIX, DIGIT THREE, DIGIT TWO, DIGIT ZERO, LETTER A, LETTER KA, LETTER NA, LETTER PA, LETTER
RA, LETTER U, LETTER VI, SIGN AVAGRAHA;
COMBINING DIAERESIS: BELOW;
COMBINING DOT: ABOVE, ABOVE LEFT, ABOVE RIGHT, BELOW, BELOW LEFT;
COMBINING DOTTED: ACUTE ACCENT, GRAVE ACCENT;
COMBINING DOUBLE: ACUTE ACCENT, BREVE, BREVE BELOW, CIRCUMFLEX ABOVE, GRAVE ACCENT, INVERTED
BREVE, INVERTED BREVE BELOW, LOW LINE, MACRON, MACRON BELOW, OPEN MARK BELOW, OVERLINE,
PARENTHESES ABOVE, PLUS SIGN ABOVE, PLUS SIGN BELOW, RIGHTWARDS ARROW BELOW, RING BELOW, TILDE,
TILDE LEFT HALF, TILDE RIGHT HALF, VERTICAL LINE ABOVE, VERTICAL LINE BELOW, VERTICAL STROKE
OVERLAY;
COMBINING DOUBLED: CIRCUMFLEX ACCENT;
COMBINING DOWN: TACK BELOW;
COMBINING DOWNWARDS: ARROW;
COMBINING ENCLOSING: CIRCLE, CIRCLE BACKSLASH, DIAMOND, KEYCAP, SCREEN, SQUARE, UPWARD POINTING
TRIANGLE;
COMBINING EQUALS: SIGN BELOW;
COMBINING FOUR: DOTS ABOVE;
COMBINING GLAGOLITIC LETTER: AZU, BIG YUS, BUKY, CHRIVI, DJERVI, DOBRO, FITA, FRITU, GLAGOLI,
HERU, I, INITIAL IZHE, IOTATED BIG YUS, IOTATED SMALL YUS, IZHE, KAKO, LJUDIJE, MYSLITE, NASHI,
ONU, POKOJI, RITSI, SHA, SHTA, SLOVO, SMALL YUS, TSI, TVRIDO, UKU, VEDE, YATI, YERI, YERU, YESTU,
YO, YU, ZEMLJA, ZHIVETE;
COMBINING GRANTHA DIGIT: FIVE, FOUR, ONE, SIX, THREE, TWO, ZERO;
COMBINING GRANTHA LETTER: A, KA, NA, PA, VI;
COMBINING GRAPHEME: JOINER;
COMBINING GRAVE: ACCENT, ACCENT BELOW, TONE MARK;
COMBINING GREEK: DIALYTIKA TONOS, KORONIS, MUSICAL PENTASEME, MUSICAL TETRASEME, MUSICAL TRISEME,
PERISPOMENI, YPOGEGRAMMENI;
COMBINING HOMOTHETIC: ABOVE;
COMBINING HOOK: ABOVE;
COMBINING INVERTED: BREVE, BREVE BELOW, BRIDGE BELOW, DOUBLE ARCH ABOVE, DOUBLE ARCH BELOW;
COMBINING IS: BELOW;
COMBINING KATAKANA-HIRAGANA: SEMI-VOICED SOUND MARK, VOICED SOUND MARK;
COMBINING KAVYKA ABOVE: LEFT, RIGHT;
COMBINING LATIN LETTER SMALL CAPITAL: G, L, M, N, R;
COMBINING LATIN SMALL LETTER: A, A WITH DIAERESIS, AE, ALPHA, AO, AV, B, BETA, C, C CEDILLA, D, E,
ESH, ETH, F, FLATTENED OPEN A ABOVE, G, H, I, INSULAR D, INSULAR G, INSULAR R, INSULAR T, K, L, L
WITH DOUBLE MIDDLE TILDE, LONG S, M, N, O, O WITH DIAERESIS, O WITH LIGHT CENTRALIZATION STROKE,
P, R, R BELOW, R ROTUNDA, S, SCHWA, T, TURNED W BELOW, U, U WITH DIAERESIS, U WITH LIGHT
CENTRALIZATION STROKE, V, W, W BELOW, X, Z;
COMBINING LEFT: ANGLE ABOVE, ANGLE BELOW, ARROW ABOVE, ARROW BELOW, ARROWHEAD ABOVE, ARROWHEAD
BELOW, HALF RING ABOVE, HALF RING BELOW, HARPOON ABOVE, PARENTHESIS ABOVE LEFT, PARENTHESIS BELOW
LEFT, RIGHT ARROW ABOVE, RIGHT ARROW BELOW, TACK BELOW;
COMBINING LEFTWARDS: ARROW OVERLAY, HARPOON WITH BARB DOWNWARDS;
COMBINING LIGATURE: LEFT HALF, LEFT HALF BELOW, RIGHT HALF, RIGHT HALF BELOW;
COMBINING LIGHT: CENTRALIZATION STROKE BELOW;
COMBINING LONG: DOUBLE SOLIDUS OVERLAY, SOLIDUS OVERLAY, STROKE OVERLAY, VERTICAL LINE OVERLAY;
COMBINING LOW: LINE;
COMBINING MACRON: BELOW, LEFT HALF, LEFT HALF BELOW, RIGHT HALF, RIGHT HALF BELOW;
COMBINING MINUS: SIGN BELOW;
COMBINING NOT: TILDE ABOVE;
COMBINING NUMBER: SIGN ABOVE;
COMBINING OGONEK: ABOVE;
COMBINING OLD PERMIC LETTER: AN, DOI, NENOE, SII, ZATA;
COMBINING OPEN: MARK BELOW;
COMBINING PALATALIZED: HOOK BELOW;
COMBINING PARENTHESES: ABOVE, BELOW, OVERLAY;
COMBINING PLUS SIGN: ABOVE, BELOW;
COMBINING RETROFLEX: HOOK BELOW;
COMBINING REVERSE: SOLIDUS OVERLAY;
COMBINING REVERSED: COMMA ABOVE;
COMBINING RIGHT: ARROW ABOVE, ARROW BELOW, ARROWHEAD ABOVE, ARROWHEAD AND DOWN ARROWHEAD BELOW,
ARROWHEAD AND UP ARROWHEAD BELOW, ARROWHEAD BELOW, HALF RING ABOVE, HALF RING BELOW, HARPOON
ABOVE, PARENTHESIS ABOVE RIGHT, PARENTHESIS BELOW RIGHT, TACK BELOW;
COMBINING RIGHTWARDS: HARPOON WITH BARB DOWNWARDS;
COMBINING RING: ABOVE, BELOW, OVERLAY;
COMBINING SEAGULL: BELOW;
COMBINING SHORT: SOLIDUS OVERLAY, STROKE OVERLAY, VERTICAL LINE OVERLAY;
COMBINING SNAKE: BELOW;
COMBINING SQUARE: BELOW, BRACKETS ABOVE;
COMBINING STRONG: CENTRALIZATION STROKE BELOW;
COMBINING SUSPENSION: MARK;
COMBINING THREE: DOTS ABOVE;
COMBINING TILDE: BELOW, LEFT HALF BELOW, OVERLAY, RIGHT HALF BELOW;
COMBINING TRIPLE: ACUTE ACCENT, DOT, UNDERDOT;
COMBINING TURNED: COMMA ABOVE;
COMBINING UP TACK: ABOVE, BELOW;
COMBINING UPWARDS: ARROW BELOW;
COMBINING UR: ABOVE;
COMBINING US: ABOVE;
COMBINING VERTICAL: LINE ABOVE, LINE BELOW, TILDE;
COMBINING WIDE: BRIDGE ABOVE, INVERTED BRIDGE BELOW;
COMBINING WIGGLY: LINE BELOW;
COMBINING X: ABOVE, BELOW;
COMBINING X-X: BELOW;
COMBINING ZIGZAG: ABOVE, BELOW;
COMMERCIAL: AT, MINUS SIGN;
COMPOSITION: SYMBOL;
CONFETTI: BALL;
CONFOUNDED: FACE;
CONFUSED: FACE;
CONGRUENT: WITH DOT ABOVE;
CONICAL: TAPER;
CONSTRUCTION: SIGN, WORKER;
CONTAINS: AS MEMBER, AS NORMAL SUBGROUP, AS NORMAL SUBGROUP OR EQUAL TO, WITH LONG HORIZONTAL
STROKE, WITH OVERBAR, WITH VERTICAL BAR AT END OF HORIZONTAL STROKE;
CONTINUOUS: UNDERLINE SYMBOL;
CONTOUR: INTEGRAL;
CONTROL: KNOBS, SEQUENCE INTRODUCER;
CONVENIENCE: STORE;
COOKED: RICE;
COPTIC CAPITAL LETTER: AKHMIMIC KHEI, ALFA, BOHAIRIC KHEI, CROSSED SHEI, CRYPTOGRAMMIC EIE,
CRYPTOGRAMMIC GANGIA, CRYPTOGRAMMIC NI, CRYPTOGRAMMIC SHEI, DALDA, DEI, DIALECT-P ALEF, DIALECT-P
HORI, DIALECT-P KAPA, DIALECT-P NI, EIE, FEI, FI, GAMMA, GANGIA, HATE, HORI, IAUDA, KAPA, KHEI,
KHI, KSI, L-SHAPED HA, LAULA, MI, NI, O, OLD COPTIC AIN, OLD COPTIC DJA, OLD COPTIC ESH, OLD
COPTIC GANGIA, OLD COPTIC HA, OLD COPTIC HAT, OLD COPTIC HEI, OLD COPTIC HORI, OLD COPTIC OOU, OLD
COPTIC SHEI, OLD COPTIC SHIMA, OLD NUBIAN NGI, OLD NUBIAN NYI, OLD NUBIAN SHIMA, OLD NUBIAN WAU,
OOU, PI, PSI, RO, SAMPI, SHEI, SHIMA, SIMA, SOU, TAU, THETHE, UA, VIDA, ZATA;
COPTIC COMBINING: NI ABOVE, SPIRITUS ASPER, SPIRITUS LENIS;
COPTIC EPACT DIGIT: EIGHT, FIVE, FOUR, NINE, ONE, SEVEN, SIX, THREE, TWO;
COPTIC EPACT NUMBER: EIGHT HUNDRED, EIGHTY, FIFTY, FIVE HUNDRED, FORTY, FOUR HUNDRED, NINE
HUNDRED, NINETY, ONE HUNDRED, SEVEN HUNDRED, SEVENTY, SIX HUNDRED, SIXTY, TEN, THIRTY, THREE
HUNDRED, TWENTY, TWO HUNDRED;
COPTIC EPACT THOUSANDS: MARK;
COPTIC FRACTION: ONE HALF;
COPTIC FULL: STOP;
COPTIC MORPHOLOGICAL: DIVIDER;
COPTIC OLD NUBIAN: DIRECT QUESTION MARK, FULL STOP, INDIRECT QUESTION MARK, VERSE DIVIDER;
COPTIC SMALL LETTER: AKHMIMIC KHEI, ALFA, BOHAIRIC KHEI, CROSSED SHEI, CRYPTOGRAMMIC EIE,
CRYPTOGRAMMIC GANGIA, CRYPTOGRAMMIC NI, CRYPTOGRAMMIC SHEI, DALDA, DEI, DIALECT-P ALEF, DIALECT-P
HORI, DIALECT-P KAPA, DIALECT-P NI, EIE, FEI, FI, GAMMA, GANGIA, HATE, HORI, IAUDA, KAPA, KHEI,
KHI, KSI, L-SHAPED HA, LAULA, MI, NI, O, OLD COPTIC AIN, OLD COPTIC DJA, OLD COPTIC ESH, OLD
COPTIC GANGIA, OLD COPTIC HA, OLD COPTIC HAT, OLD COPTIC HEI, OLD COPTIC HORI, OLD COPTIC OOU, OLD
COPTIC SHEI, OLD COPTIC SHIMA, OLD NUBIAN NGI, OLD NUBIAN NYI, OLD NUBIAN SHIMA, OLD NUBIAN WAU,
OOU, PI, PSI, RO, SAMPI, SHEI, SHIMA, SIMA, SOU, TAU, THETHE, UA, VIDA, ZATA;
COPTIC SYMBOL: KAI, KHI RO, MI RO, PI RO, SHIMA SIMA, STAUROS, TAU RO;
COPYLEFT: SYMBOL;
COPYRIGHT: SIGN;
CORNISH: VERSE DIVIDER;
CORRESPONDS: TO;
COUCH: AND LAMP;
COUNTING ROD TENS DIGIT: EIGHT, FIVE, FOUR, NINE, ONE, SEVEN, SIX, THREE, TWO;
COUNTING ROD UNIT DIGIT: EIGHT, FIVE, FOUR, NINE, ONE, SEVEN, SIX, THREE, TWO;
COUPLE: WITH HEART;
COW: FACE;
CREDIT: CARD;
CRESCENT: MOON;
CRICKET: BAT AND BALL;
CROSS: MARK, OF JERUSALEM, OF LORRAINE, PATTY WITH LEFT CROSSBAR, PATTY WITH RIGHT CROSSBAR,
POMMEE, POMMEE WITH HALF-CIRCLE BELOW;
CROSSED: FLAGS, NEGATIVE SQUARED LATIN CAPITAL LETTER P, SWORDS;
CROSSING: LANES;
CRUZEIRO: SIGN;
CRYING: CAT FACE, FACE;
CRYSTAL: BALL;
CUBE: ROOT;
CUNEIFORM NUMERIC SIGN: EIGHT ASH, EIGHT DISH, EIGHT GESH2, EIGHT SHAR2, EIGHT U, EIGHT U VARIANT
FORM, EIGHT VARIANT FORM USSU, EIGHT VARIANT FORM USSU3, ELAMITE FIFTY, ELAMITE FORTY, ELAMITE ONE
THIRD, ELAMITE TWO THIRDS, FIVE ASH, FIVE ASH TENU, FIVE BAN2, FIVE BAN2 VARIANT FORM, FIVE BURU,
FIVE DISH, FIVE GESH2, FIVE GESHU, FIVE SHAR2, FIVE SHARU, FIVE SIXTHS DISH, FIVE U, FIVE U
VARIANT FORM, FOUR ASH, FOUR ASH TENU, FOUR BAN2, FOUR BAN2 VARIANT FORM, FOUR BURU, FOUR DISH,
FOUR GESH2, FOUR GESHU, FOUR SHAR2, FOUR SHARU, FOUR U, FOUR U VARIANT FORM, FOUR VARIANT FORM
LIMMU, FOUR VARIANT FORM LIMMU A, FOUR VARIANT FORM LIMMU B, FOUR VARIANT FORM LIMMU4, NIGIDAESH,
NIGIDAMIN, NINE ASH, NINE DISH, NINE GESH2, NINE SHAR2, NINE U, NINE U VARIANT FORM, NINE VARIANT
FORM ILIMMU, NINE VARIANT FORM ILIMMU A, NINE VARIANT FORM ILIMMU3, NINE VARIANT FORM ILIMMU4, OLD
ASSYRIAN ONE QUARTER, OLD ASSYRIAN ONE SIXTH, ONE BAN2, ONE BURU, ONE EIGHTH ASH, ONE ESHE3, ONE
GESH2, ONE GESHU, ONE HALF GUR, ONE QUARTER ASH, ONE QUARTER GUR, ONE SHARU, ONE THIRD DISH, ONE
THIRD VARIANT FORM A, SEVEN ASH, SEVEN DISH, SEVEN GESH2, SEVEN SHAR2, SEVEN U, SEVEN U VARIANT
FORM, SEVEN VARIANT FORM IMIN A, SEVEN VARIANT FORM IMIN B, SEVEN VARIANT FORM IMIN3, SHAR2 TIMES
GAL PLUS DISH, SHAR2 TIMES GAL PLUS MIN, SIX ASH, SIX ASH TENU, SIX DISH, SIX GESH2, SIX SHAR2,
SIX U, SIX U VARIANT FORM, SIX VARIANT FORM ASH9, THREE ASH, THREE ASH TENU, THREE BAN2, THREE
BURU, THREE BURU VARIANT FORM, THREE DISH, THREE GESH2, THREE GESHU, THREE SHAR2, THREE SHAR2
VARIANT FORM, THREE SHARU, THREE SHARU VARIANT FORM, THREE VARIANT FORM ESH16, THREE VARIANT FORM
ESH21, TWO ASH, TWO ASH TENU, TWO BAN2, TWO BURU, TWO ESHE3, TWO GESH2, TWO GESHU, TWO SHAR2, TWO
SHARU, TWO THIRDS DISH, TWO THIRDS VARIANT FORM A;
CUNEIFORM PUNCTUATION SIGN: DIAGONAL COLON, DIAGONAL QUADCOLON, DIAGONAL TRICOLON, OLD ASSYRIAN
WORD DIVIDER, VERTICAL COLON;
CUNEIFORM SIGN: A, A TIMES A, A TIMES BAD, A TIMES GAN2 TENU, A TIMES HA, A TIMES IGI, A TIMES
LAGAR GUNU, A TIMES MUSH, A TIMES SAG, A2, AB, AB GUNU, AB TIMES ASH2, AB TIMES DUN3 GUNU, AB
TIMES GAL, AB TIMES GAN2 TENU, AB TIMES HA, AB TIMES IGI GUNU, AB TIMES IMIN, AB TIMES LAGAB, AB
TIMES NUN, AB TIMES NUN TENU, AB TIMES SHESH, AB TIMES SHU2, AB TIMES U PLUS U PLUS U, AB2, AB2
TIMES A, AB2 TIMES BALAG, AB2 TIMES GAN2 TENU, AB2 TIMES ME PLUS EN, AB2 TIMES SHA3, AB2 TIMES
TAK4, AD, AD TIMES ESH2, AK, AK TIMES ERIN2, AK TIMES SHITA PLUS GISH, AL, AL TIMES AL, AL TIMES
DIM2, AL TIMES GISH, AL TIMES HA, AL TIMES KAD3, AL TIMES KI, AL TIMES SHE, AL TIMES USH, ALAN,
ALEPH, AMAR, AMAR TIMES KUG, AMAR TIMES SHE, AN, AN OVER AN, AN PLUS NAGA OPPOSING AN PLUS NAGA,
AN PLUS NAGA SQUARED, AN THREE TIMES, ANSHE, APIN, ARAD, ARAD TIMES KUR, ARKAB, ASAL2, ASH, ASH
KABA TENU, ASH OVER ASH OVER ASH, ASH OVER ASH OVER ASH CROSSING ASH OVER ASH OVER ASH, ASH OVER
ASH TUG2 OVER TUG2 TUG2 OVER TUG2 PAP, ASH ZIDA TENU, ASH2, ASHGAB, BA, BAD, BAD TIMES DISH TENU,
BAG3, BAHAR2, BAHAR2 TIMES AB2, BAHAR2 TIMES NI, BAHAR2 TIMES ZA, BAL, BAL OVER BAL, BALAG, BAR,
BARA2, BI, BI TIMES A, BI TIMES GAR, BI TIMES IGI GUNU, BU, BU CROSSING BU, BU OVER BU AB, BU OVER
BU TIMES NA2, BU OVER BU UN, BULUG, BULUG OVER BULUG, BUR, BUR2, DA, DA TIMES TAK4, DAG, DAG
KISIM5 TIMES A PLUS MASH, DAG KISIM5 TIMES AMAR, DAG KISIM5 TIMES BALAG, DAG KISIM5 TIMES BI, DAG
KISIM5 TIMES GA, DAG KISIM5 TIMES GA PLUS MASH, DAG KISIM5 TIMES GI, DAG KISIM5 TIMES GIR2, DAG
KISIM5 TIMES GUD, DAG KISIM5 TIMES HA, DAG KISIM5 TIMES IR, DAG KISIM5 TIMES IR PLUS LU, DAG
KISIM5 TIMES KAK, DAG KISIM5 TIMES LA, DAG KISIM5 TIMES LU, DAG KISIM5 TIMES LU PLUS MASH2, DAG
KISIM5 TIMES LUM, DAG KISIM5 TIMES NE, DAG KISIM5 TIMES PAP PLUS PAP, DAG KISIM5 TIMES SI, DAG
KISIM5 TIMES TAK4, DAG KISIM5 TIMES U2 PLUS GIR2, DAG KISIM5 TIMES U2 PLUS MASH, DAG KISIM5 TIMES
USH, DAG TIMES KUR, DAG3, DAM, DAR, DARA3, DARA4, DI, DIB, DIM, DIM TIMES IGI, DIM TIMES SHE, DIM
TIMES U U U, DIM2, DIM2 TIMES UD, DIN, DIN KASKAL U GUNU DISH, DISH, DISH PLUS SHU, DU, DU GUNU,
DU OVER DU, DU SHESHIG, DUB, DUB TIMES ESH2, DUB TIMES SHE, DUB2, DUG, DUG TIMES ANSHE, DUG TIMES
ASH, DUG TIMES ASH AT LEFT, DUG TIMES DIN, DUG TIMES DUN, DUG TIMES ERIN2, DUG TIMES GA, DUG TIMES
GI, DUG TIMES GIR2 GUNU, DUG TIMES GISH, DUG TIMES HA, DUG TIMES HI, DUG TIMES IGI GUNU, DUG TIMES
KASKAL, DUG TIMES KUR, DUG TIMES KUSHU2, DUG TIMES KUSHU2 PLUS KASKAL, DUG TIMES LAK-020, DUG
TIMES LAM, DUG TIMES LAM TIMES KUR, DUG TIMES LUH PLUS GISH, DUG TIMES MASH, DUG TIMES MES, DUG
TIMES MI, DUG TIMES NI, DUG TIMES PI, DUG TIMES SHE, DUG TIMES SI GUNU, DUGUD, DUH, DUN, DUN3,
DUN3 GUNU, DUN3 GUNU GUNU, DUN4, DUR2, E, E OVER E NUN OVER NUN, E TIMES PAP, E2, E2 TIMES A PLUS
HA PLUS DA, E2 TIMES GAR, E2 TIMES KUR, E2 TIMES MI, E2 TIMES PAP, E2 TIMES SAL, E2 TIMES SHE, E2
TIMES U, EDIN, EGIR, EL, EN, EN CROSSING EN, EN OPPOSING EN, EN SQUARED, EN TIMES GAN2, EN TIMES
GAN2 TENU, EN TIMES ME, EREN, ERIN2, ERIN2 X, ESH2, ESH2 CROSSING ESH2, EZEN, EZEN SHESHIG TIMES
ASH, EZEN SHESHIG TIMES HI, EZEN SHESHIG TIMES IGI GUNU, EZEN SHESHIG TIMES LA, EZEN SHESHIG TIMES
LAL, EZEN SHESHIG TIMES ME, EZEN SHESHIG TIMES MES, EZEN SHESHIG TIMES SU, EZEN TIMES A, EZEN
TIMES A PLUS LAL, EZEN TIMES A PLUS LAL TIMES LAL, EZEN TIMES AN, EZEN TIMES BAD, EZEN TIMES DUN3
GUNU, EZEN TIMES DUN3 GUNU GUNU, EZEN TIMES GUD, EZEN TIMES HA, EZEN TIMES HA GUNU, EZEN TIMES IGI
GUNU, EZEN TIMES KASKAL, EZEN TIMES KASKAL SQUARED, EZEN TIMES KU3, EZEN TIMES LA, EZEN TIMES LAL
TIMES LAL, EZEN TIMES LI, EZEN TIMES LU, EZEN TIMES SHE, EZEN TIMES SU, EZEN TIMES U2, EZEN TIMES
UD, GA, GA GUNU, GA2, GA2 OVER GA2, GA2 TIMES A PLUS DA PLUS HA, GA2 TIMES A PLUS HA, GA2 TIMES A
PLUS IGI, GA2 TIMES AB2 TENU PLUS TAB, GA2 TIMES AN, GA2 TIMES AN PLUS KAK PLUS A, GA2 TIMES ASH,
GA2 TIMES ASH2, GA2 TIMES ASH2 PLUS GAL, GA2 TIMES BAD, GA2 TIMES BAHAR2, GA2 TIMES BAR PLUS RA,
GA2 TIMES BUR, GA2 TIMES BUR PLUS RA, GA2 TIMES DA, GA2 TIMES DI, GA2 TIMES DIM GUNU, GA2 TIMES
DIM TIMES SHE, GA2 TIMES DUB, GA2 TIMES DUG TIMES IGI GUNU, GA2 TIMES DUG TIMES KASKAL, GA2 TIMES
EL, GA2 TIMES EL PLUS LA, GA2 TIMES EN, GA2 TIMES EN TIMES GAN2 TENU, GA2 TIMES EREN, GA2 TIMES
GA, GA2 TIMES GAN2 TENU, GA2 TIMES GAR, GA2 TIMES GAR PLUS DI, GA2 TIMES GAR PLUS NE, GA2 TIMES
GI, GA2 TIMES GI4, GA2 TIMES GI4 PLUS A, GA2 TIMES GIR2 PLUS SU, GA2 TIMES HA PLUS A, GA2 TIMES HA
PLUS LU PLUS ESH2, GA2 TIMES HAL, GA2 TIMES HAL PLUS LA, GA2 TIMES HI PLUS LI, GA2 TIMES HUB2, GA2
TIMES IGI GUNU, GA2 TIMES ISH PLUS HU PLUS ASH, GA2 TIMES KAK, GA2 TIMES KASKAL, GA2 TIMES KID,
GA2 TIMES KID PLUS LAL, GA2 TIMES KU3 PLUS AN, GA2 TIMES KUSHU2 PLUS KASKAL, GA2 TIMES LA, GA2
TIMES LAM, GA2 TIMES LAM TIMES KUR, GA2 TIMES LUH, GA2 TIMES ME PLUS EN, GA2 TIMES MI, GA2 TIMES
MUSH, GA2 TIMES NE, GA2 TIMES NE PLUS E2, GA2 TIMES NE PLUS GI, GA2 TIMES NUN, GA2 TIMES NUN OVER
NUN, GA2 TIMES PA, GA2 TIMES SAL, GA2 TIMES SAR, GA2 TIMES SHE, GA2 TIMES SHE PLUS TUR, GA2 TIMES
SHID, GA2 TIMES SHIM, GA2 TIMES SUM, GA2 TIMES TAK4, GA2 TIMES U, GA2 TIMES UD, GA2 TIMES UD PLUS
DU, GA2 TIMES ZIZ2, GABA, GABA CROSSING GABA, GABA ROTATED NINETY DEGREES, GAD, GAD OVER GAD GAR
OVER GAR, GAL, GAL GAD OVER GAD GAR OVER GAR, GALAM, GAM, GAN, GAN2, GAN2 CROSSING GAN2, GAN2 OVER
GAN2, GAN2 TENU, GAR, GAR3, GASHAN, GE22, GESHTIN, GESHTIN TIMES KUR, GESHTIN TIMES U, GI, GI
CROSSING GI, GI TIMES E, GI TIMES U, GI4, GI4 CROSSING GI4, GI4 OVER GI4, GIDIM, GIG, GIR2, GIR2
GUNU, GIR3, GIR3 TIMES A PLUS IGI, GIR3 TIMES GAN2 TENU, GIR3 TIMES IGI, GIR3 TIMES LU PLUS IGI,
GIR3 TIMES PA, GISAL, GISH, GISH CROSSING GISH, GISH TENU, GISH TIMES BAD, GISH TIMES GISH
CROSSING GISH, GISH TIMES TAK4, GU, GU CROSSING GU, GU2, GU2 GUNU, GU2 TIMES IGI GUNU, GU2 TIMES
KAK, GU2 TIMES KAK TIMES IGI GUNU, GU2 TIMES NUN, GU2 TIMES SAL PLUS TUG2, GUD, GUD OVER GUD
LUGAL, GUD PLUS GISH TIMES TAK4, GUD TIMES A PLUS KUR, GUD TIMES KUR, GUL, GUM, GUM TIMES SHE,
GUR, GUR7, GURUN, GURUSH, HA, HA GUNU, HA TENU, HA TENU GUNU, HAL, HI, HI TIMES ASH, HI TIMES ASH
OVER HI TIMES ASH, HI TIMES ASH2, HI TIMES BAD, HI TIMES DISH, HI TIMES GAD, HI TIMES KIN, HI
TIMES NUN, HI TIMES SHE, HI TIMES U, HU, HUB2, HUB2 TIMES AN, HUB2 TIMES HAL, HUB2 TIMES KASKAL,
HUB2 TIMES LISH, HUB2 TIMES UD, HUL2, HUSH, I, I A, IB, IDIM, IDIM OVER IDIM BUR, IDIM OVER IDIM
SQUARED, IG, IGI, IGI DIB, IGI GUNU, IGI OVER IGI SHIR OVER SHIR UD OVER UD, IGI RI, IL, IL TIMES
GAN2 TENU, IL2, IM, IM CROSSING IM, IM OPPOSING IM, IM SQUARED, IM TIMES TAK4, IMIN, IN, IR, ISH,
KA, KA TIMES A, KA TIMES AD, KA TIMES AD PLUS KU3, KA TIMES ANSHE, KA TIMES ASH2, KA TIMES ASH3,
KA TIMES BAD, KA TIMES BALAG, KA TIMES BAR, KA TIMES BI, KA TIMES BU, KA TIMES ERIN2, KA TIMES
ESH2, KA TIMES GA, KA TIMES GAL, KA TIMES GAN2 TENU, KA TIMES GAR, KA TIMES GAR PLUS SHA3 PLUS A,
KA TIMES GI, KA TIMES GIR2, KA TIMES GISH, KA TIMES GISH CROSSING GISH, KA TIMES GISH PLUS SAR, KA
TIMES GU, KA TIMES GUD, KA TIMES GUR7, KA TIMES HI TIMES ASH2, KA TIMES IGI, KA TIMES IM, KA TIMES
KA, KA TIMES KAK, KA TIMES KI, KA TIMES KID, KA TIMES LI, KA TIMES LU, KA TIMES LUM, KA TIMES ME,
KA TIMES ME PLUS DU, KA TIMES ME PLUS GI, KA TIMES ME PLUS TE, KA TIMES MI, KA TIMES MI PLUS
NUNUZ, KA TIMES NE, KA TIMES NUN, KA TIMES PA, KA TIMES PI, KA TIMES RU, KA TIMES SA, KA TIMES
SAR, KA TIMES SHA, KA TIMES SHE, KA TIMES SHID, KA TIMES SHU, KA TIMES SHUL, KA TIMES SIG, KA
TIMES SUHUR, KA TIMES TAR, KA TIMES TU, KA TIMES U, KA TIMES U U U, KA TIMES U2, KA TIMES UD, KA
TIMES UMUM TIMES PA, KA TIMES UR, KA TIMES UR2, KA TIMES USH, KA TIMES ZI, KA2, KA2 CROSSING KA2,
KAB, KAD2, KAD3, KAD4, KAD5, KAD5 OVER KAD5, KAK, KAK TIMES IGI GUNU, KAL, KAL CROSSING KAL, KAL
TIMES BAD, KAM2, KAM4, KAP ELAMITE, KASKAL, KASKAL LAGAB TIMES U OVER LAGAB TIMES U, KASKAL OVER
KASKAL LAGAB TIMES U OVER LAGAB TIMES U, KESH2, KI, KI TIMES BAD, KI TIMES U, KI TIMES UD, KID,
KIN, KISAL, KISH, KISIM5, KISIM5 OVER KISIM5, KU, KU OVER HI TIMES ASH2 KU OVER HI TIMES ASH2,
KU3, KU4, KU4 VARIANT FORM, KU7, KUL, KUL GUNU, KUN, KUR, KUR OPPOSING KUR, KUSHU2, KWU318, LA,
LAGAB, LAGAB SQUARED, LAGAB TIMES A, LAGAB TIMES A PLUS DA PLUS HA, LAGAB TIMES A PLUS GAR, LAGAB
TIMES A PLUS LAL, LAGAB TIMES AL, LAGAB TIMES AN, LAGAB TIMES ASH ZIDA TENU, LAGAB TIMES BAD,
LAGAB TIMES BI, LAGAB TIMES DAR, LAGAB TIMES EN, LAGAB TIMES GA, LAGAB TIMES GAR, LAGAB TIMES GI,
LAGAB TIMES GUD, LAGAB TIMES GUD PLUS GUD, LAGAB TIMES HA, LAGAB TIMES HAL, LAGAB TIMES HI TIMES
NUN, LAGAB TIMES IGI GUNU, LAGAB TIMES IM, LAGAB TIMES IM PLUS HA, LAGAB TIMES IM PLUS LU, LAGAB
TIMES KI, LAGAB TIMES KIN, LAGAB TIMES KU3, LAGAB TIMES KUL, LAGAB TIMES KUL PLUS HI PLUS A, LAGAB
TIMES LAGAB, LAGAB TIMES LISH, LAGAB TIMES LU, LAGAB TIMES LUL, LAGAB TIMES ME, LAGAB TIMES ME
PLUS EN, LAGAB TIMES MUSH, LAGAB TIMES NE, LAGAB TIMES SHE PLUS SUM, LAGAB TIMES SHITA PLUS GISH
PLUS ERIN2, LAGAB TIMES SHITA PLUS GISH TENU, LAGAB TIMES SHU2, LAGAB TIMES SHU2 PLUS SHU2, LAGAB
TIMES SUM, LAGAB TIMES TAG, LAGAB TIMES TAK4, LAGAB TIMES TE PLUS A PLUS SU PLUS NA, LAGAB TIMES
U, LAGAB TIMES U PLUS A, LAGAB TIMES U PLUS U PLUS U, LAGAB TIMES U2 PLUS ASH, LAGAB TIMES UD,
LAGAB TIMES USH, LAGAB TIMES ZU OVER ZU, LAGAR, LAGAR GUNU, LAGAR GUNU OVER LAGAR GUNU SHE, LAGAR
TIMES SHE, LAGAR TIMES SHE PLUS SUM, LAHSHU, LAK-003, LAK-021, LAK-025, LAK-030, LAK-050, LAK-051,
LAK-062, LAK-079 OVER LAK-079 GUNU, LAK-080, LAK-081 OVER LAK-081, LAK-092, LAK-130, LAK-142,
LAK-210, LAK-219, LAK-220, LAK-225, LAK-228, LAK-238, LAK-265, LAK-266, LAK-343, LAK-347, LAK-348,
LAK-383, LAK-384, LAK-390, LAK-441, LAK-449, LAK-449 TIMES GU, LAK-449 TIMES IGI, LAK-449 TIMES
PAP PLUS LU3, LAK-449 TIMES PAP PLUS PAP PLUS LU3, LAK-449 TIMES U2 PLUS BA, LAK-450, LAK-457,
LAK-470, LAK-483, LAK-490, LAK-492, LAK-493, LAK-495, LAK-550, LAK-608, LAK-617, LAK-617 TIMES
ASH, LAK-617 TIMES BAD, LAK-617 TIMES DUN3 GUNU GUNU, LAK-617 TIMES KU3, LAK-617 TIMES LA, LAK-617
TIMES TAR, LAK-617 TIMES TE, LAK-617 TIMES U2, LAK-617 TIMES UD, LAK-617 TIMES URUDA, LAK-636,
LAK-648, LAK-648 TIMES DUB, LAK-648 TIMES GA, LAK-648 TIMES IGI, LAK-648 TIMES IGI GUNU, LAK-648
TIMES NI, LAK-648 TIMES PAP PLUS PAP PLUS LU3, LAK-648 TIMES SHESH PLUS KI, LAK-648 TIMES UD,
LAK-648 TIMES URUDA, LAK-724, LAK-749, LAL, LAL TIMES LAL, LAM, LAM TIMES KUR, LAM TIMES KUR PLUS
RU, LI, LIL, LIMMU2, LISH, LU, LU TIMES BAD, LU2, LU2 CROSSING LU2, LU2 GUNU TIMES ASH, LU2
OPPOSING LU2, LU2 SHESHIG, LU2 SHESHIG TIMES BAD, LU2 SQUARED, LU2 TENU, LU2 TIMES AL, LU2 TIMES
BAD, LU2 TIMES DISH, LU2 TIMES ESH2, LU2 TIMES ESH2 PLUS LAL, LU2 TIMES ESH2 TENU, LU2 TIMES GAN2
TENU, LU2 TIMES HAL, LU2 TIMES HI TIMES BAD, LU2 TIMES IM, LU2 TIMES KAD2, LU2 TIMES KAD3, LU2
TIMES KAD3 PLUS ASH, LU2 TIMES KI, LU2 TIMES LA PLUS ASH, LU2 TIMES LAGAB, LU2 TIMES ME PLUS EN,
LU2 TIMES NE, LU2 TIMES NU, LU2 TIMES PAP, LU2 TIMES PAP PLUS PAP PLUS LU3, LU2 TIMES SHU, LU2
TIMES SI PLUS ASH, LU2 TIMES SIK2 PLUS BU, LU2 TIMES TAK4, LU2 TIMES TUG2, LU3, LUGAL, LUGAL
OPPOSING LUGAL, LUGAL OVER LUGAL, LUGAL SHESHIG, LUH, LUL, LUM, LUM OVER LUM, LUM OVER LUM GAR
OVER GAR, MA, MA GUNU, MA TIMES TAK4, MA2, MAH, MAR, MASH, MASH2, ME, MES, MESH, MI, MI PLUS ZA7,
MIN, MU, MU OVER MU, MUG, MUG GUNU, MUNSUB, MURGU2, MUSH, MUSH CROSSING MUSH, MUSH OVER MUSH, MUSH
OVER MUSH TIMES A PLUS NA, MUSH OVER MUSH TIMES GA, MUSH OVER MUSH TIMES KAK, MUSH TIMES A, MUSH
TIMES KUR, MUSH TIMES ZA, MUSH3, MUSH3 GUNU, MUSH3 TIMES A, MUSH3 TIMES A PLUS DI, MUSH3 TIMES DI,
MUSH3 TIMES ZA, NA, NA2, NA4, NAGA, NAGA INVERTED, NAGA OPPOSING NAGA, NAGA TIMES SHU TENU, NAGAR,
NAM, NAM NUTILLU, NAM2, NE, NE SHESHIG, NE TIMES A, NE TIMES UD, NI, NI TIMES E, NI2, NIM, NIM
TIMES GAN2 TENU, NIM TIMES GAR PLUS GAN2 TENU, NIN, NIN9, NINDA2, NINDA2 TIMES AN, NINDA2 TIMES
ASH, NINDA2 TIMES ASH PLUS ASH, NINDA2 TIMES BAL, NINDA2 TIMES DIM GUNU, NINDA2 TIMES GI, NINDA2
TIMES GISH, NINDA2 TIMES GUD, NINDA2 TIMES GUL, NINDA2 TIMES HI, NINDA2 TIMES KESH2, NINDA2 TIMES
LAK-050, NINDA2 TIMES MASH, NINDA2 TIMES ME PLUS GAN2 TENU, NINDA2 TIMES NE, NINDA2 TIMES NUN,
NINDA2 TIMES PAP PLUS PAP, NINDA2 TIMES SHE, NINDA2 TIMES SHE PLUS A AN, NINDA2 TIMES SHE PLUS
ASH, NINDA2 TIMES SHE PLUS ASH PLUS ASH, NINDA2 TIMES U, NINDA2 TIMES U PLUS U, NINDA2 TIMES U2
PLUS ASH, NINDA2 TIMES URUDA, NINDA2 TIMES USH, NISAG, NU, NU11, NU11 OVER NU11 BUR OVER BUR, NU11
ROTATED NINETY DEGREES, NU11 TENU, NUN, NUN CROSSING NUN, NUN CROSSING NUN LAGAR OVER LAGAR, NUN
LAGAR TIMES GAR, NUN LAGAR TIMES MASH, NUN LAGAR TIMES SAL, NUN LAGAR TIMES SAL OVER NUN LAGAR
TIMES SAL, NUN LAGAR TIMES USH, NUN OVER NUN, NUN TENU, NUNUZ, NUNUZ AB2 TIMES ASHGAB, NUNUZ AB2
TIMES BI, NUNUZ AB2 TIMES DUG, NUNUZ AB2 TIMES GUD, NUNUZ AB2 TIMES IGI GUNU, NUNUZ AB2 TIMES
KAD3, NUNUZ AB2 TIMES LA, NUNUZ AB2 TIMES NE, NUNUZ AB2 TIMES SILA3, NUNUZ AB2 TIMES U2, NUNUZ
KISIM5 TIMES BI, NUNUZ KISIM5 TIMES BI U, PA, PAD, PAN, PAP, PESH2, PESH2 ASTERISK, PI, PI
CROSSING PI, PI TIMES A, PI TIMES AB, PI TIMES BI, PI TIMES BU, PI TIMES E, PI TIMES I, PI TIMES
IB, PI TIMES U, PI TIMES U2, PIR2, PIRIG, PIRIG OPPOSING PIRIG, PIRIG TIMES KAL, PIRIG TIMES UD,
PIRIG TIMES ZA, RA, RAB, RI, RU, SA, SAG, SAG GUNU, SAG GUNU TIMES HA, SAG NUTILLU, SAG OVER SAG,
SAG TIMES A, SAG TIMES DU, SAG TIMES DUB, SAG TIMES EN, SAG TIMES HA, SAG TIMES IGI GUNU, SAG
TIMES KAK, SAG TIMES KUR, SAG TIMES LUM, SAG TIMES MI, SAG TIMES NUN, SAG TIMES SAL, SAG TIMES SHE
AT LEFT, SAG TIMES SHID, SAG TIMES TAB, SAG TIMES TAK4, SAG TIMES U2, SAG TIMES UB, SAG TIMES UM,
SAG TIMES UR, SAG TIMES USH, SAL, SAL LAGAB TIMES ASH2, SANGA2, SAR, SHA, SHA3, SHA3 TIMES A, SHA3
TIMES BAD, SHA3 TIMES GISH, SHA3 TIMES NE, SHA3 TIMES SHU2, SHA3 TIMES TUR, SHA3 TIMES U, SHA3
TIMES U PLUS A, SHA6, SHA6 TENU, SHAB6, SHAR2, SHE, SHE HU, SHE OVER SHE, SHE OVER SHE GAD OVER
GAD GAR OVER GAR, SHE OVER SHE TAB OVER TAB GAR OVER GAR, SHE PLUS HUB2, SHE PLUS NAM2, SHE PLUS
SAR, SHEG9, SHEN, SHESH, SHESH2, SHESHLAM, SHID, SHID TIMES A, SHID TIMES IM, SHIM, SHIM TIMES A,
SHIM TIMES BAL, SHIM TIMES BULUG, SHIM TIMES DIN, SHIM TIMES GAR, SHIM TIMES IGI, SHIM TIMES IGI
GUNU, SHIM TIMES KUSHU2, SHIM TIMES LUL, SHIM TIMES MUG, SHIM TIMES SAL, SHINIG, SHIR, SHIR OVER
SHIR BUR OVER BUR, SHIR TENU, SHITA, SHU, SHU OVER INVERTED SHU, SHU2, SHU2 PLUS DUG TIMES NI,
SHU2 PLUS E2 TIMES AN, SHUBUR, SI, SI GUNU, SI TIMES TAK4, SIG, SIG4, SIG4 OVER SIG4 SHU2, SIK2,
SILA3, SU, SU OVER SU, SUD, SUD2, SUHUR, SUM, SUMASH, SUR, SUR9, TA, TA ASTERISK, TA GUNU, TA
TIMES HI, TA TIMES MI, TAB, TAB OVER TAB NI OVER NI DISH OVER DISH, TAB SQUARED, TAG, TAG TIMES
BI, TAG TIMES GUD, TAG TIMES SHE, TAG TIMES SHU, TAG TIMES TUG2, TAG TIMES UD, TAK4, TAK4 PLUS
SAG, TAR, TE, TE GUNU, TI, TI TENU, TI2, TIL, TIR, TIR OVER TIR, TIR OVER TIR GAD OVER GAD GAR
OVER GAR, TIR TIMES TAK4, TU, TUG2, TUK, TUM, TUM TIMES GAN2 TENU, TUM TIMES THREE DISH, TUR, TUR
OVER TUR ZA OVER ZA, U, U GUD, U OVER U PA OVER PA GAR OVER GAR, U OVER U SUR OVER SUR, U OVER U U
REVERSED OVER U REVERSED, U U, U U U, U2, UB, UD, UD GUNU, UD KUSHU2, UD SHESHIG, UD SHESHIG TIMES
BAD, UD TIMES BAD, UD TIMES MI, UD TIMES U PLUS U PLUS U, UD TIMES U PLUS U PLUS U GUNU, UDUG, UM,
UM TIMES LAGAB, UM TIMES ME, UM TIMES ME PLUS DA, UM TIMES SHA3, UM TIMES U, UMBIN, UMUM, UMUM
TIMES KASKAL, UMUM TIMES PA, UN, UN GUNU, UR, UR CROSSING UR, UR SHESHIG, UR2, UR2 INVERTED, UR2
TIMES A PLUS HA, UR2 TIMES A PLUS NA, UR2 TIMES AL, UR2 TIMES HA, UR2 TIMES NUN, UR2 TIMES U2, UR2
TIMES U2 PLUS ASH, UR2 TIMES U2 PLUS BI, UR2 TIMES UD, UR4, URI, URI3, URU, URU TIMES A, URU TIMES
ASHGAB, URU TIMES BAR, URU TIMES DARA3, URU TIMES DUN, URU TIMES GA, URU TIMES GAL, URU TIMES GAN2
TENU, URU TIMES GAR, URU TIMES GU, URU TIMES HA, URU TIMES IGI, URU TIMES IM, URU TIMES ISH, URU
TIMES KI, URU TIMES LAK-668, URU TIMES LU3, URU TIMES LUM, URU TIMES MIN, URU TIMES PA, URU TIMES
SHE, URU TIMES SIG4, URU TIMES TU, URU TIMES U PLUS GUD, URU TIMES UD, URU TIMES URUDA, URUDA,
URUDA TIMES U, USH, USH TIMES A, USH TIMES KU, USH TIMES KUR, USH TIMES TAK4, USH2, USHUMX, USHX,
UTUKI, UZ3, UZ3 TIMES KASKAL, UZU, ZA, ZA SQUARED TIMES KUR, ZA TENU, ZA7, ZAG, ZAMX, ZE2, ZI, ZI
OVER ZI, ZI3, ZIB, ZIB KABA TENU, ZIG, ZIZ2, ZU, ZU OVER ZU PLUS SAR, ZU5, ZU5 TIMES A, ZU5 TIMES
THREE DISH TENU, ZUBUR, ZUM;
CUP: ON BLACK SQUARE, WITH STRAW;
CURLING: STONE;
CURLY: BRACKET EXTENSION, LOGICAL AND, LOGICAL OR, LOOP;
CURRENCY: EXCHANGE, SIGN;
CURRY: AND RICE;
CURVED: STEM PARAGRAPH SIGN ORNAMENT;
CUT: OF MEAT;
CYPRIOT SYLLABLE: A, E, I, JA, JO, KA, KE, KI, KO, KU, LA, LE, LI, LO, LU, MA, ME, MI, MO, MU, NA,
NE, NI, NO, NU, O, PA, PE, PI, PO, PU, RA, RE, RI, RO, RU, SA, SE, SI, SO, SU, TA, TE, TI, TO, TU,
U, WA, WE, WI, WO, XA, XE, ZA, ZO;
CYPRO-MINOAN SIGN: CM001, CM002, CM004, CM005, CM006, CM007, CM008, CM009, CM010, CM011, CM012,
CM012B, CM013, CM015, CM017, CM019, CM021, CM023, CM024, CM025, CM026, CM027, CM028, CM029, CM030,
CM033, CM034, CM035, CM036, CM037, CM038, CM039, CM040, CM041, CM044, CM046, CM047, CM049, CM050,
CM051, CM052, CM053, CM054, CM055, CM056, CM058, CM059, CM060, CM061, CM062, CM063, CM064, CM066,
CM067, CM068, CM069, CM070, CM071, CM072, CM073, CM074, CM075, CM075B, CM076, CM078, CM079, CM080,
CM081, CM082, CM083, CM084, CM085, CM086, CM087, CM088, CM089, CM090, CM091, CM092, CM094, CM095,
CM096, CM097, CM098, CM099, CM100, CM101, CM102, CM103, CM104, CM105, CM107, CM108, CM109, CM110,
CM112, CM114, CM301, CM302;
CYRILLIC: KAVYKA, PAYEROK;
CYRILLIC CAPITAL LETTER: A, A WITH BREVE, A WITH DIAERESIS, ABKHASIAN CHE, ABKHASIAN CHE WITH
DESCENDER, ABKHASIAN DZE, ABKHASIAN HA, ALEUT KA, BARRED O, BARRED O WITH DIAERESIS, BASHKIR KA,
BE, BIG YUS, BINOCULAR O, BLENDED YUS, BROAD OMEGA, BYELORUSSIAN-UKRAINIAN I, CCHE, CHE, CHE WITH
DESCENDER, CHE WITH DIAERESIS, CHE WITH VERTICAL STROKE, CLOSED LITTLE YUS, CROSSED O, DCHE, DE,
DJE, DJERV, DOUBLE MONOCULAR O, DOUBLE O, DWE, DZE, DZELO, DZHE, DZWE, DZZE, DZZHE, E, E WITH
DIAERESIS, EF, EL, EL WITH DESCENDER, EL WITH HOOK, EL WITH MIDDLE HOOK, EL WITH TAIL, EM, EM WITH
TAIL, EN, EN WITH DESCENDER, EN WITH HOOK, EN WITH LEFT HOOK, EN WITH MIDDLE HOOK, EN WITH TAIL,
ER, ER WITH TICK, ES, ES WITH DESCENDER, FITA, GHE, GHE WITH DESCENDER, GHE WITH MIDDLE HOOK, GHE
WITH STROKE, GHE WITH STROKE AND HOOK, GHE WITH UPTURN, GJE, HA, HA WITH DESCENDER, HA WITH HOOK,
HA WITH STROKE, HARD SIGN, HWE, I, I WITH DIAERESIS, I WITH GRAVE, I WITH MACRON, IE, IE WITH
BREVE, IE WITH GRAVE, IO, IOTA, IOTIFIED A, IOTIFIED BIG YUS, IOTIFIED CLOSED LITTLE YUS, IOTIFIED
E, IOTIFIED LITTLE YUS, IOTIFIED YAT, IZHITSA, IZHITSA WITH DOUBLE GRAVE ACCENT, JE, KA, KA WITH
DESCENDER, KA WITH HOOK, KA WITH STROKE, KA WITH VERTICAL STROKE, KHAKASSIAN CHE, KJE, KOMI DE,
KOMI DJE, KOMI DZJE, KOMI LJE, KOMI NJE, KOMI SJE, KOMI TJE, KOMI ZJE, KOPPA, KSI, LHA, LITTLE
YUS, LJE, MONOCULAR O, MONOGRAPH UK, NEUTRAL YER, NJE, O, O WITH DIAERESIS, OMEGA, OMEGA WITH
TITLO, OT, PE, PE WITH DESCENDER, PE WITH MIDDLE HOOK, PSI, QA, REVERSED DZE, REVERSED TSE,
REVERSED YU, REVERSED ZE, RHA, ROUND OMEGA, SCHWA, SCHWA WITH DIAERESIS, SEMISOFT SIGN, SHA,
SHCHA, SHHA, SHHA WITH DESCENDER, SHORT I, SHORT I WITH TAIL, SHORT U, SHWE, SOFT DE, SOFT EL,
SOFT EM, SOFT SIGN, STRAIGHT U, STRAIGHT U WITH STROKE, TCHE, TE, TE WITH DESCENDER, TE WITH
MIDDLE HOOK, TSE, TSHE, TSSE, TSWE, TWE, U, U WITH DIAERESIS, U WITH DOUBLE ACUTE, U WITH MACRON,
UK, UKRAINIAN IE, VE, WE, YA, YAE, YAT, YERU, YERU WITH BACK YER, YERU WITH DIAERESIS, YI, YN, YU,
ZE, ZE WITH DESCENDER, ZE WITH DIAERESIS, ZEMLYA, ZHE, ZHE WITH BREVE, ZHE WITH DESCENDER, ZHE
WITH DIAERESIS, ZHWE;
CYRILLIC CAPITAL LIGATURE: A IE, EN GHE, TE TSE;
CYRILLIC LETTER: MULTIOCULAR O, PALOCHKA, SMALL CAPITAL EL;
CYRILLIC SMALL LETTER: A, A WITH BREVE, A WITH DIAERESIS, ABKHASIAN CHE, ABKHASIAN CHE WITH
DESCENDER, ABKHASIAN DZE, ABKHASIAN HA, ALEUT KA, BARRED O, BARRED O WITH DIAERESIS, BASHKIR KA,
BE, BIG YUS, BINOCULAR O, BLENDED YUS, BROAD OMEGA, BYELORUSSIAN-UKRAINIAN I, CCHE, CHE, CHE WITH
DESCENDER, CHE WITH DIAERESIS, CHE WITH VERTICAL STROKE, CLOSED LITTLE YUS, CROSSED O, DCHE, DE,
DJE, DJERV, DOUBLE MONOCULAR O, DOUBLE O, DWE, DZE, DZELO, DZHE, DZWE, DZZE, DZZHE, E, E WITH
DIAERESIS, EF, EL, EL WITH DESCENDER, EL WITH HOOK, EL WITH MIDDLE HOOK, EL WITH TAIL, EM, EM WITH
TAIL, EN, EN WITH DESCENDER, EN WITH HOOK, EN WITH LEFT HOOK, EN WITH MIDDLE HOOK, EN WITH TAIL,
ER, ER WITH TICK, ES, ES WITH DESCENDER, FITA, GHE, GHE WITH DESCENDER, GHE WITH MIDDLE HOOK, GHE
WITH STROKE, GHE WITH STROKE AND HOOK, GHE WITH UPTURN, GJE, HA, HA WITH DESCENDER, HA WITH HOOK,
HA WITH STROKE, HARD SIGN, HWE, I, I WITH DIAERESIS, I WITH GRAVE, I WITH MACRON, IE, IE WITH
BREVE, IE WITH GRAVE, IO, IOTA, IOTIFIED A, IOTIFIED BIG YUS, IOTIFIED CLOSED LITTLE YUS, IOTIFIED
E, IOTIFIED LITTLE YUS, IOTIFIED YAT, IZHITSA, IZHITSA WITH DOUBLE GRAVE ACCENT, JE, KA, KA WITH
DESCENDER, KA WITH HOOK, KA WITH STROKE, KA WITH VERTICAL STROKE, KHAKASSIAN CHE, KJE, KOMI DE,
KOMI DJE, KOMI DZJE, KOMI LJE, KOMI NJE, KOMI SJE, KOMI TJE, KOMI ZJE, KOPPA, KSI, LHA, LITTLE
YUS, LJE, LONG-LEGGED DE, MONOCULAR O, MONOGRAPH UK, NARROW O, NEUTRAL YER, NJE, O, O WITH
DIAERESIS, OMEGA, OMEGA WITH TITLO, OT, PALOCHKA, PE, PE WITH DESCENDER, PE WITH MIDDLE HOOK, PSI,
QA, REVERSED DZE, REVERSED TSE, REVERSED YU, REVERSED ZE, RHA, ROUND OMEGA, ROUNDED VE, SCHWA,
SCHWA WITH DIAERESIS, SEMISOFT SIGN, SHA, SHCHA, SHHA, SHHA WITH DESCENDER, SHORT I, SHORT I WITH
TAIL, SHORT U, SHWE, SOFT DE, SOFT EL, SOFT EM, SOFT SIGN, STRAIGHT U, STRAIGHT U WITH STROKE,
TALL HARD SIGN, TALL TE, TALL YAT, TCHE, TE, TE WITH DESCENDER, TE WITH MIDDLE HOOK, THREE-LEGGED
TE, TSE, TSHE, TSSE, TSWE, TWE, U, U WITH DIAERESIS, U WITH DOUBLE ACUTE, U WITH MACRON, UK,
UKRAINIAN IE, UNBLENDED UK, VE, WE, WIDE ES, YA, YAE, YAT, YERU, YERU WITH BACK YER, YERU WITH
DIAERESIS, YI, YN, YU, ZE, ZE WITH DESCENDER, ZE WITH DIAERESIS, ZEMLYA, ZHE, ZHE WITH BREVE, ZHE
WITH DESCENDER, ZHE WITH DIAERESIS, ZHWE;
CYRILLIC SMALL LIGATURE: A IE, EN GHE, TE TSE;
CYRILLIC THOUSANDS: SIGN;
"

end LogMarkup
