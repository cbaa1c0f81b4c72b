/-!
# Shorthands in names of characters

Words that are frequent in names are written as two small letters in the tables.
-/

namespace CallLint.Text.Names

/-- The words by their two letters: one row for each first letter, with one word for each second letter. -/
def shorthands : List String := [
  "ARABIC;ABOVE;ACUTE;DA;ACCENT;AA;ALTERNATING;HA;ASTERISK;AU;ANTICLOCKWISE;ALEF;MA;AND;ARROWHEAD;PA;ASH;ARROW;SA;LATIN
  ANUSVARA;ABBREVIATION;AIN;SADHE;SAD;ALMOST",
  "BAR;BARB;BA;BOLD;BELOW;BETA;BENGALI;BHA;BISHOP;BETH;BACKSLASH;BLACK;BEH;BENT;BLOCK;TONE-2;TONE-5;BRACKET;SUBSCRIPT;BOTTOM
  BULLET;BREVE;BETWEEN;BOX;BLACK-LETTER;BESIDE",
  "CAPITAL;CA;CIRCLED;CEDILLA;CENTRE;CANDRA;CHARACTER;CHA;CIRCLE;CONJOINED;CLOCKWISE;CLOSED;COMMA;CANDRABINDU;COMBINING
  C-SIMPLIFIED;CARRIER;CIRCUMFLEX;CROSSING;CONSONANT;CURLY;CURVE;CROSSED-TAIL;CHI;CYRILLIC;CROSSED",
  "DIAERESIS;DDA;DESCENDER;DDHA;DOTTED;DASH;DIAGONAL;DHA;DIGIT;DISH;DAGESH;DOTLESS;DIAMOND;DOWN;DOUBLE;DOWN-POINTING;DALETH
  DIGRAPH;DASIA;DOT;DOUBLE-STRUCK;DIVISION;DOWNWARDS;DAD;DIALYTIKA;BAD",
  "EAST;EN;CHESS;DELTA;SEEN;END;EIGHTH;HEART;EIGHT;EE;EARTH;TELEPHONE;SEMICOLON;TENU;TORTOISE;EPSILON;EQUAL;STRETCHED;SECTION
  ETHIOPIC;EQUALS;ELEVEN;ETA;EXCLAMATION;EIGHTY;TEH",
  "FACE;FA;FIFTEEN;DIFFERENTIAL;IOTIFIED;FIFTY;LEFT-TO-RIGHT;FEH;FINAL;FATHA;PALATAL;FULL;FROM;FINGERS;FORM;ELLIPSIS;THIRD
  FRACTION;CHE;FORTY;FOUR;FIVE;FORWARD;THIRDS;TAI;FILLER",
  "GRAVE;GA;GHAIN;HINGED;GREEK;GIMEL;GAR;GHA;EIGHTHS;GUJARATI;GAN2;GLOTTAL;GURMUKHI;GRANTHA;GEORGIAN;GONDI;GISH;GREATER-THAN
  SIGMA;EIGHTEEN;GUNU;GLAGOLITIC;SHESHIG;RTAGS;GROMOPOVODNAYA;OGONEK",
  "HALF;HORN;HAND-CIRCLE;HAND-HINGE;HEAVY;HEH;HAND-ANGLE;HAH;HIGH;HE;HOOK;SINHALA;HAMZA;HAND-FIST;HORIZONTAL;ALEPH;SHELL
  HARPOON;SHIN;THA;HUNDRED;HEAD;HETH;TSHA;HYPHEN;SIDDHAM",
  "AI;IN;COPTIC;INDEX;IDEOGRAPHIC;INSIDE;INTEGRAL;HITTING;II;ITALIC;IGI;LINE;TAMIL;INITIAL;IOTA;PI;INDICATOR;ARCHAIC;ISOLATED
  INTERSECTION;SIMALUNGUN;INVERTED;INDEPENDENT;SIXTY;NINETY;POINT",
  "JA;ITERATION;TONE-3;SPREAD;JEEM;RESH;RIGHT-TO-LEFT;JHA;JIHVAMULIYA;ESH;TAU;COMMERCIAL;DAMMA;GEMINATION;TSHEG;JAPANESE
  LENTICULAR;LAGAB;MASARAM;TIBETAN;CEILING;ELEMENT;FALLING;LEG;BARRED;RIGHT-FACING",
  "KA;KHA;KAPH;KANNADA;KASRA;KAF;CHECK;KHAH;KING;HAND-HOOK;KATAKANA-HIRAGANA;KLYUCHEVAYA;PIEUP-SIOS-TIKEUT;KNIGHT
  TEARDROP-SPOKED;KAPPA;KUR;KHAROSHTHI;KASKAL;KATAKANA;KHIEUKH;FISHHOOK;THEH;FATHATAN;KRYZHEM;ATTACHED",
  "LARGE;LA;LOGICAL;SLANTED;LETTER;LEFT;LIGATURE;ALPHA;LIGHT;LAMEDH;LLA;LITTLE;LAM;LONG;LOWER;LEFT-POINTING;SLASH;ALTERNATE
  LESS-THAN;LEFTWARDS;TELUGU;LAMDA;LOW;LENGTH;SVETLAYA;LARGEST",
  "MARK;MU;MACRON;MEDIUM;MEEM;MOUNTAIN;GAMMA;MAHAAPRAANA;MIDDLE;MAN;MAKSURA;MEDIAL;MOVEMENT-WALLPLANE;MINUS;MODIFIER;MULTIPLE
  MOON;MAHAPRANA;SMILING;MATHEMATICAL;MULTIPLICATION;MOVEMENT-FLOORPLANE;MEM;MURDA;MALAYALAM;NORMAL",
  "NA;NOT;NUN;DANDA;NEUTRAL;NNA;NGA;HAND;NINE;NO;NUKTA;ANGLE;NOTE;NOON;NORTH;NEO;NINETEEN;CARON;SANS-SERIF;TONE;NUMBER
  NEGATIVE;NOTATION;NUMERAL;NYA;LINEAR",
  "ROTATED;OR;COLON;DOTS;OPEN;OF;THROUGH;NOTEHEAD;OMICRON;OE;ORKHON;OLD;OMEGA;ONE;OO;OPERATOR;CONTAINING;ORNAMENT;APOSTROPHE
  TO;MOUTH;OVER;OVERBAR;OXIA;OVERLAY;SOUND",
  "PARENTHESIS;PE;SPACE;PHI;PERISPOMENI;OPPOSING;PROSGEGRAMMENI;PHA;POINTED;PRODUCT;NASKAPI;PLUS;AMPERSAND;PERSON;POINTING
  ALPAPRAANA;LOOP;PRECEDES;PSILI;TOP;PUNCTUATION;POVYSHE;PINWHEEL;APPROXIMATELY;NEPOSTOYANNAYA;PARENTHESIZED",
  "QUARTER;QUAD;MONOGRAM;QUADRUPLE;QUEEN;QAF;THESPIAN;CRESCENT;EQUIVALENT;J-SIMPLIFIED;HIRAGANA;TIKEUT;PAP;CANCELLATION
  QUOTATION;BALL;ROOK;QUARTERS;CONTAINS;OUTLINED;QUESTION;ROUND;MADDA;PARAGRAPH;HORSE;IEUNG",
  "RA;ARABIC-INDIC;CROSS;RAISED;REVERSED;FOR;RIGHTWARDS;RIGHT-POINTING;RIGHT;RHO;RR;ROTATION-FLOORPLANE;RISING;RING;ARCHAION
  REH;ROUNDED;CORNER;STAR;RETROFLEX;TRIANGULAR;REVERSE;ROTATION-WALLPLANE;RRA;ORIYA;PARALLEL",
  "SHA;SUBSET;SCRIPT;SOLIDUS;SEVEN;SSA;STRAIGHT;SHORT;SIGN;SHE;SAMEKH;SYLLABLE;SMALL;SINGLE;SOUTH;SEPARATOR;SQUARE;SUPERSET
  SUPERSCRIPT;STROKE;SQUARED;SEVENTY;SHEEN;SIX;SYMBOL;SIDE",
  "TRIANGLE-HEADED;TA;TAIL;TTA;TEN;THETA;THE;THREE;TIMES;TSA;TACK;TILDE;THUMB;TWENTY;THOUSAND;TRIPLE;TAH;TRIANGLE;STOP;TTHA
  TURNED;TAILED;TWO;THIRTEEN;THIRTY;TAK4",
  "UP;SUBJOINED;SUCCEEDS;TEDUNG;UPPER;FOURTEEN;SUBGROUP;HANGUL;UNION;CHIEUCH;THIEUTH;INSULAR;MUSICAL;UNDERBAR;UP-POINTING
  UPWARDS;PHIEUPH;CURL;UPSILON;THOUSANDS;UU;CURVED;HAND-CUP;DOUBLE-LINE;UPADHMANIYA;HAND-CURLICUE",
  "VARIA;VA;VOCALIC;VOICED;VERTICAL;OVERLINE;AVAGRAHA;VITHKUQI;VIRAMA;INVERSE;VARIATION;ENVELOPE;MOVEMENT;SEVENTEEN;VOWEL
  CIEUC;CARET;VARIANT;VISARGA;VERTICALLY;KAREN;HMONG;KENTIMATA;HAND-OVAL;VERY;SUBLIMATE",
  "WA;WRIST;SHADOWED;SIDEWAYS;WEST-CREE;HEBREW;HALFWIDTH;WHITE;WITH;ARROWS;SOFT;TWELVE;LEFT-FACING;WRINKLED;WORD;PAWN;SHAN
  WATER;WEST;TWO-HEADED;BACK;WAVE;WAW;FIRE;NIEUN-CIEUC;NIEUN-HIEUH",
  "SSANGTIKEUT;RIEUL-MIEUM;RIEUL-PIEUP;RIEUL-HIEUH;EXTENSION;DOLLAR;OBLIQUE;SECOND;SIXTEENTH;DIVIDER;GUNJALA;IOTATED;TUAREG
  CORNERS;TONE-4;FRAKTUR;PARTIAL;EXTREMELY;SIXTEEN;EXTENDED;FINGER;NOTCHED;SIMILAR;SCHWA;BEGIN;ARMENIAN",
  "YA;YANG;Y-CREE;AYIN;YEH;INFINITY;EYEGAZE-WALLPLANE;HYPHEN-MINUS;SAYISI;KAPYEOUNPHIEUPH;KIYEOK;RIEUL-KIYEOK;SSANGKIYEOK
  YENISEI;YODH;YPOGEGRAMMENI;CYPRIOT;CRYPTOGRAMMIC;EYES;TRESVETLAYA;YU;CURRENCY;DAMMATAN;KASRATAN;IDEOGRAM;WOMAN",
  "ZA;FIRST;BIRGA;DIVES;ZERO;AKURU;ZIGZAG;ZHA;ZAIN;NIEUN;RIEUL;LOZENGE;MIEUM;PIEUP;ZAPYATOY;ZAPYATAYA;HIEUH;DUPLOYAN;NIZKO
  ZETA;UMBRELLA;KEYBOARD;ONCOMING;MEASURED;ZAYIN;ORIGINAL"]

end CallLint.Text.Names
