/-!
# Names of characters from U+1F000 to U+10FFFF

Those of game pieces, pictographs, and selectors.
-/

namespace CallLint.Text.Names

/-- The names of runs of characters, each with the number of its first one. -/
def pictographs : List (Nat × String) := [
  (0x1F000, "MAHJONG TILEeaWIND;2so/1;2ws/1;2no/1;2RED DRAGON;2GREEN/1;2wh/1;2onofCHARACTERS;2tw/2;2th/2;2fu/2;2fv/2;2sx/2
  2se/2;2ei/2;2ni/2;2onofBAMBOOS;2tw/2;2th/2;2fu/2;2fv/2;2sx/2;2se/2;2ei/2;2ni/2;2onofCIRCLES;2tw/2;2th/2;2fu/2;2fv/2;2sx/2
  2se/2;2ei/2;2ni/2;2PLUM;2ORCHID;2BAMBOO;2CHRYSANTHEMUM;2SPRING;2SUMMER;2AUTUMN;2WINTER;2JOKER;2wu"),
  (0x1F030, "DOMINO TILEhowu;2HORIZONTAL-00-00;+6;2HORIZONTAL-01-00;+6;2HORIZONTAL-02-00;+6;2HORIZONTAL-03-00;+6
  2HORIZONTAL-04-00;+6;2HORIZONTAL-05-00;+6;2HORIZONTAL-06-00;+6;2vewu;2VERTICAL-00-00;+6;2VERTICAL-01-00;+6;2VERTICAL-02-00
  +6;2VERTICAL-03-00;+6;2VERTICAL-04-00;+6;2VERTICAL-05-00;+6;2VERTICAL-06-00;+6"),
  (0x1F0A0, "PLAYING CARDwu;2ACEofSPADES;2tw/2;2th/2;2fu/2;2fv/2;2sx/2;2se/2;2ei/2;2ni/2;2te/2;2JACK/2;2kn/2;2qe/2;2ki/2"),
  (0x1F0B1, "PLAYING CARD ACEofHEARTS;2tw/2;2th/2;2fu/2;2fv/2;2sx/2;2se/2;2ei/2;2ni/2;2te/2;2JACK/2;2kn/2;2qe/2;2ki/2
  2RED JOKER"),
  (0x1F0C1, "PLAYING CARD ACEofDIAMONDS;2tw/2;2th/2;2fu/2;2fv/2;2sx/2;2se/2;2ei/2;2ni/2;2te/2;2JACK/2;2kn/2;2qe/2;2ki/2
  2blJOKER"),
  (0x1F0D1, "PLAYING CARD ACEofCLUBS;2tw/2;2th/2;2fu/2;2fv/2;2sx/2;2se/2;2ei/2;2ni/2;2te/2;2JACK/2;2kn/2;2qe/2;2ki/2;2whJOKER
  2FOOL;2TRUMP-1;+8;2TRUMP-10;+11"),
  (0x1F100, "dizeflts;2cm;1oncm;1twcm;1thcm;1fucm;1fvcm;1sxcm;1secm;1eicm;1nicm;DINGBATccnsdize;1nv/4;cczewilq;1akar
  1xfsiwiOVERLAIDbk;pzatcaleA;4B;4C;4D;4E;4F;4G;4H;4I;4J;4K;4L;4M;4N;4O;4P;4Q;4R;4S;4T;4U;4V;4W;4X;4Y;4Z;eohqBRACKETEDatcaleS
  ccijatcaleC;5R;1CD;1WZ;COPYLEFTsy;suatcaleA;4B;4C;4D;4E;4F;4G;4H;4I;4J;4K;4L;4M;4N;4O;4P;4Q;4R;4S;4T;4U;4V;4W;4X;4Y;4Z;1HV
  1MV;1SD;1SS;1PPV;1WC;nvccatcaleA;5B;5C;5D;5E;5F;5G;5H;5I;5J;5K;5L;5M;5N;5O;5P;5Q;5R;5S;5T;5U;5V;5W;5X;5Y;5Z;rdMCsi;1MDsi
  1MRsi;ccCC;1CwiOVERLAIDbk;1HUMAN FIGURE;nvsuatcaleA;5B;5C;5D;5E;5F;5G;5H;5I;5J;5K;5L;5M;5N;5O;5P;5Q;5R;5S;5T;5U;5V;5W;5X;5Y
  5Z;cznvsuatcaleP;nvsuIC;2ap;2as;2AB;2WC;sqDJ;suCL;1COOL;1FREE;1ID;1NEW;1NG;1OK;1SOS;1uawiexma;1VS;1thD;1xhSCREEN;1twK;1fuK
  1eiK;1fvizon;1se/2;1TWENTY-TWOiztw;1ixP;1onhutnP;1atsmleD;1HC;1HDR;1HI-RES;1LOSSLESS;1SHV;1UHD;1VOD;MASK WORKsy"),
  (0x1F1E6, "REGIONALiqsyleA;4B;4C;4D;4E;4F;4G;4H;4I;4J;4K;4L;4M;4N;4O;4P;4Q;4R;4S;4T;4U;4V;4W;4X;4Y;4Z;sqqkHOKA;suktKOKO;2as"),
  (0x1F210, "suCJK UNIFIED IDEOGRAPH-624B;3IDEOGRAPH-5B57;3IDEOGRAPH-53CC;1ktDE;1CJK UNIFIED IDEOGRAPH-4E8C;3IDEOGRAPH-591A
  3IDEOGRAPH-89E3;3IDEOGRAPH-5929;3IDEOGRAPH-4EA4;3IDEOGRAPH-6620;3IDEOGRAPH-7121;3IDEOGRAPH-6599;3IDEOGRAPH-524D
  3IDEOGRAPH-5F8C;3IDEOGRAPH-518D;3IDEOGRAPH-65B0;3IDEOGRAPH-521D;3IDEOGRAPH-7D42;3IDEOGRAPH-751F;3IDEOGRAPH-8CA9
  3IDEOGRAPH-58F0;3IDEOGRAPH-5439;3IDEOGRAPH-6F14;3IDEOGRAPH-6295;3IDEOGRAPH-6355;3IDEOGRAPH-4E00;3IDEOGRAPH-4E09
  3IDEOGRAPH-904A;3IDEOGRAPH-5DE6;3IDEOGRAPH-4E2D;3IDEOGRAPH-53F3;3IDEOGRAPH-6307;3IDEOGRAPH-8D70;3IDEOGRAPH-6253
  3IDEOGRAPH-7981;3IDEOGRAPH-7A7A;3IDEOGRAPH-5408;3IDEOGRAPH-6E80;3IDEOGRAPH-6709;3IDEOGRAPH-6708;3IDEOGRAPH-7533
  3IDEOGRAPH-5272;3IDEOGRAPH-55B6;3IDEOGRAPH-914D"),
  (0x1F240, "eohqBRACKETED CJK UNIFIED IDEOGRAPH-672C;5IDEOGRAPH-4E09;5IDEOGRAPH-4E8C;5IDEOGRAPH-5B89;5IDEOGRAPH-70B9
  5IDEOGRAPH-6253;5IDEOGRAPH-76D7;5IDEOGRAPH-52DD;5IDEOGRAPH-6557"),
  (0x1F250, "ccIDEOGRAPH ADVANTAGE;2ACCEPT"),
  (0x1F260, "rqsyrfFU;3LU;3SHOU;3XI;3SHUANGXI;3CAI"),
  (0x1F300, "CYCLONE;FOGGY;clzu;NIGHTwiSTARS;SUNRISEovMOUNTAINS;SUNRISE;CITYSCAPE AT DUSK;SUNSETovBUILDINGS;RAINBOW
  BRIDGE AT NIGHT;wrwv;VOLCANO;MILKY WAY;ekGLOBE EUROPE-AFRICA;2AMERICAS;2ASIA-AUSTRALIA;GLOBEwiMERIDIANS;NEWmqsy;WAXINGqh/2
  zbqa/2;WAXING GIBBOUS/2;fl/2;WANING GIBBOUS/2;LASTqa/2;WANINGqh/2;qhmq;NEWmqwifa;zbqa/3;LAST/4;fl/3;SUN/2;GLOWINGrs
  SHOOTINGrs;THERMOMETER;blDROPLET;whSUN;2wismCLOUD;2BEHIND/1;4wiRAIN;CLOUD/2;2SNOW;2LIGHTNING;2TORNADO;FOG;WIND BLOWINGfa
  HOT DOG;TACO;BURRITO;CHESTNUT;SEEDLING;EVERGREEN TREE;DECIDUOUS/1;PALM/1;CACTUS;HOT PEPPER;TULIP;CHERRY BLOSSOM;ROSE
  HIBISCUS;SUNFLOWER;BLOSSOM;EARofMAIZE;2RICE;HERB;fuLEAF CLOVER;MAPLE LEAF;FALLEN/1;LEAF FLUTTERINGibWIND;MUSHROOM;TOMATO
  AUBERGINE;GRAPES;MELON;WATERMELON;TANGERINE;LEMON;BANANA;PINEAPPLE;RED APPLE;GREEN/1;PEAR;PEACH;CHERRIES;STRAWBERRY
  HAMBURGER;SLICEofPIZZA;MEAT ON BONE;POULTRYjx;RICE CRACKER;1qp;COOKED RICE;CURRYan/1;STEAMING BOWL;SPAGHETTI;BREAD
  FRENCH FRIES;ROASTED SWEET POTATO;DANGO;ODEN;SUSHI;FRIED SHRIMP;FISH CAKEwiSWIRL DESIGN;wkICE CREAM;SHAVED ICE;ICE CREAM
  DOUGHNUT;COOKIE;CHOCOLATEba;CANDY;LOLLIPOP;CUSTARD;HONEY POT;SHORTCAKE;BENTObx;POTofFOOD;COOKING;FORKanKNIFE
  TEACUP WITHOUT HANDLE;SAKE BOTTLEanCUP;WINE GLASS;COCKTAIL/1;TROPICAL DRINK;BEER MUG;CLINKING BEER MUGS;BABY BOTTLE
  FORKanKNIFEwiPLATE;BOTTLEwiPOPPING CORK;POPCORN;RIBBON;WRAPPED PRESENT;BIRTHDAY CAKE;JACK-O-LANTERN;CHRISTMAS TREE
  FATHER CHRISTMAS;FIREWORKS;FIREWORK SPARKLER;BALLOON;PARTY POPPER;CONFETTIqp;TANABATA TREE;czFLAGS;PINE DECORATION;jpDOLLS
  CARP STREAMER;WIND CHIME;mqVIEWING CEREMONY;SCHOOL SATCHEL;GRADUATION CAP;ehwiTIP ONtglf;BOUQUETofFLOWERS;MILITARY MEDAL
  REMINDER RIBBON;umzvwiJACKS;STUDIO MICROPHONE;LEVEL SLIDER;CONTROL KNOBS;BEAMED ASCENDINGumNOTES;1DESCENDING/2;FILM FRAMES
  ADMISSION TICKETS;CAROUSELqy;FERRIS WHEEL;ROLLER COASTER;FISHING POLEanFISH;MICROPHONE;MOVIE CAMERA;CINEMA;HEADPHONE
  ARTIST PALETTE;ptHAT;CIRCUS TENT;TICKET;CLAPPER BOARD;PERFORMING ARTS;VIDEO GAME;DIRECT HIT;SLOT MACHINE;BILLIARDS;GAME DIE
  BOWLING;FLOWER PLAYING CARDS;umnm;mpumNOTES;SAXOPHONE;GUITAR;umzv;TRUMPET;VIOLIN;umSCORE;RUNNING SHIRTwiSASH
  TENNIS RACQUETanqp;SKIanSKI BOOT;BASKETBALLanHOOP;CHEQUERED FLAG;SNOWBOARDER;RUNNER;SURFER;SPORTS MEDAL;TROPHY;qyRACING
  AMERICAN FOOTBALL;RUGBY/1;SWIMMER;WEIGHT LIFTER;GOLFER;RACING MOTORCYCLE;1CAR;CRICKET BATanqp;VOLLEYBALL
  FIELD HOCKEY STICKanqp;ICE HOCKEY STICKanPUCK;TABLE TENNIS PADDLEanqp;SNOW CAPPEDmf;CAMPING;BEACHwizu;BUILDING CONSTRUCTION
  HOUSE BUILDINGS;CITYSCAPE;DERELICT HOUSE BUILDING;CLASSICAL/1;DESERT;1ISLAND;NATIONAL PARK;STADIUM;HOUSE BUILDING;1wiGARDEN
  OFFICE BUILDING;jpPOST OFFICE;EUROPEAN/2;HOSPITAL;BANK;AUTOMATED TELLER MACHINE;HOTEL;LOVE/1;CONVENIENCE STORE;SCHOOL
  DEPARTMENT STORE;FACTORY;IZAKAYA LANTERN;jpCASTLE;EUROPEAN/1;whPENNANT;bl/1;WAVINGwhFLAG;1bl/1;ROSETTE;bl/1;LABEL
  BADMINTON RACQUETanSHUTTLECOCK;BOWanar;AMPHORA;EMOJImoFITZPATRICK TYPE-1-2;3TYPE-3;+3;RAT;MOUSE;OX;wrBUFFALO;COW;TIGER
  LEOPARD;RABBIT;CAT;DRAGON;CROCODILE;WHALE;SNAIL;SNAKE;qy;RAM;GOAT;SHEEP;MONKEY;ROOSTER;CHICKEN;DOG;PIG;BOAR;ELEPHANT
  OCTOPUS;SPIRALhq;BUG;ANT;HONEYBEE;LADY BEETLE;FISH;TROPICAL/1;BLOWFISH;TURTLE;HATCHING CHICK;BABY/1;FRONT-FACING/2;BIRD
  PENGUIN;KOALA;POODLE;DROMEDARY CAMEL;BACTRIAN/1;DOLPHIN;MOUSEfa;COWfa;TIGERfa;RABBITfa;CATfa;DRAGONfa;SPOUTING WHALE;qyfa
  MONKEYfa;DOGfa;PIGfa;FROGfa;HAMSTERfa;WOLFfa;BEARfa;PANDAfa;PIG NOSE;PAW PRINTS;CHIPMUNK;ys;EYE;EAR;NOSE;ou;TONGUE
  whuapoBACKHANDid;1dn/3;1lf/3;1ri/3;FISTEDnhsi;WAVING/2;OK/2;THUMBSuasi;1dnsi;CLAPPING HANDSsi;oe/2;CROWN;WOMANS HAT
  EYEGLASSES;NECKTIE;T-SHIRT;JEANS;DRESS;KIMONO;BIKINI;WOMANS CLOTHES;PURSE;HANDBAG;POUCH;MANS SHOE;ATHLETIC/1;HIGH-HEELED/1
  WOMANS SANDAL;1BOOTS;FOOTPRINTS;BUSTibSILHOUETTE;BUSTS/2;BOY;GIRL;mj;yz;FAMILY;mjanyzHOLDING HANDS;twMEN/2;1WOMEN/2
  POLICE OFFICER;yzwiBUNNY EARS;BRIDEwiVEIL;pnwiBLOND HAIR;mjwiGUAipMAO;2TURBAN;OLDERmj;1yz;BABY;CONSTRUCTION WORKER;PRINCESS
  jpOGRE;1GOBLIN;GHOST;BABY ANGEL;EXTRATERRESTRIAL ALIEN;ALIEN MONSTER;IMP;SKULL;INFORMATION DESKpn;GUARDSMAN;DANCER;LIPSTICK
  NAIL POLISH;faMASSAGE;HAIRCUT;BARBER POLE;SYRINGE;PILL;KISSma;LOVEle;rn;GEM STONE;KISS;BOUQUET;COUPLEwieh;WEDDING;BEATINGeh
  BROKENeh;twHEARTS;SPARKLINGeh;GROWINGeh;ehwiar;BLUEeh;GREENeh;YELLOWeh;PURPLEeh;ehwiRIBBON;REVOLVING HEARTS;ehDECORATION
  dmSHAPEwiAdtif;ELECTRICliBULB;ANGERsy;BOMB;SLEEPINGsy;COLLISIONsy;SPLASHING SWEATsy;DROPLET;dfsy;PILEofPOO;FLEXED BICEPS
  DIZZYsy;SPEECH BALLOON;THOUGHT/1;whFLOWER;huPOINTSsy;MONEY BAG;yvEXCHANGE;hexfsi;CREDIT CARD;BANKNOTEwiYENsi;2xfsi;2EUROsi
  2POUNDsi;MONEYwiWINGS;CHARTwiupTRENDanYENsi;SEAT;PERSONAL COMPUTER;BRIEFCASE;MINIDISC;FLOPPY DISK;OPTICAL DISC;DVD
  FILE FOLDER;oe/2;PAGEwiur;1FACINGua;CALENDAR;TEAR-OFF/1;CARDid;CHARTwiupTREND;2dw/1;baCHART;CLIPBOARD;PUSHPIN;qv/1
  PAPERCLIP;sgRULER;ru/1;BOOKMARK TABS;LEDGER;NOTEBOOK;1wiDECORATIVE COVER;clBOOK;oe/1;GREEN/1;BLUE/1;ORANGE/1;BOOKS
  NAME BADGE;SCROLL;MEMO;elRECEIVER;PAGER;FAX MACHINE;SATELLITE ANTENNA;PUBLIC ADDRESS LOUDSPEAKER;CHEERING MEGAPHONE
  OUTBOX TRAY;INBOX/1;PACKAGE;E-MAILsy;INCOMINGvl;vlwidwarab;clMAILBOXwiLOWERED FLAG;3rd/1;oe/4;3LOWERED/1;POSTBOX;POSTALhb
  NEWSPAPER;MOBILE PHONE;2wirgarATlf;VIBRATION MODE;MOBILE PHONE OFF;njMOBILE PHONES;ANTENNAwiBARS;CAMERA;1wiFLASH
  VIDEO CAMERA;TELEVISION;RADIO;VIDEOCASSETTE;FILM PROJECTOR;PORTABLE STEREO;PRAYER BEADS;TWISTEDrgwj;ckrganltoeciwj
  7wicconoy;1dwanupoeciwj;ak/6;lwBRIGHTNESSsy;hi/2;SPEAKERwiqnst;SPEAKER;1wionozwv;2thozWAVES;BATTERY;ELECTRIC PLUG
  lpMAGNIFYING GLASS;rh/2;LOCKwiINK PEN;clLOCKwiKEY;KEY;LOCK;oe/1;BELL;1wiqnst;BOOKMARK;LINKsy;RADIO BUTTON;wuwiltarab;ef/4
  ONwiexmawilfri/2;SOONwirg/2;ptwiup/2;njonUNDERgtsy;KEYCAPte;INPUTsyrfatcaLETTERS;4sm/1;3NUMBERS;3SYMBOLS;3atLETTERS;wx
  ELECTRIC TORCH;WRENCH;HAMMER;NUTanBOLT;HOCHO;PISTOL;MICROSCOPE;TELESCOPE;CRYSTALqp;sxpirswimidt;jpsyrfBEGINNER
  TRIDENT EMBLEM;blsqBUTTON;wh/2;laREDci;1BLUEci;1ORANGEdm;1BLUEdm;smORANGEdm;1BLUEdm;uoREDtr;dp/2;uosm/2;dp/3;loriwcwhci
  ue/4;ccrcPOMMEE;rcPOMMEEwiHALF-CIRCLEbe;1POMMEE;xvlfSEMICIRCLEwithod;1ri/4;syrfMARKS CHAPTER;whatrc;he/2;CELTICrc;OMsy
  DOVEofPEACE;KAABA;MOSQUE;SYNAGOGUE;MENORAHwiniBRANCHES;BOWLofHYGIEIA;CLOCKfaonOCLOCK;2tw/1;2th/1;2fu/1;2fv/1;2sx/1;2se/1
  2ei/1;2ni/1;2te/1;2ev/1;2wl/1;2ONE-THIRTY;2TWO-THIRTY;2THREE-THIRTY;2FOUR-THIRTY;2FIVE-THIRTY;2SIX-THIRTY;2SEVEN-THIRTY
  2EIGHT-THIRTY;2NINE-THIRTY;2TEN-THIRTY;2ELEVEN-THIRTY;2TWELVE-THIRTY;riSPEAKER;2wionozwv;3thozWAVES;BULLHORN;1wiozWAVES
  RINGING BELL;BOOK;CANDLE;MANTELPIECE CLOCK;blSKULLanCROSSBONES;njPIRACY;HOLE;mjibBUSINESS SUIT LEVITATING;SLEUTHobSPY
  DARK SUNGLASSES;SPIDER;1WEB;JOYSTICK;mjDANCING;lfnhelRECEIVER;elRECEIVERwiPAGE;rinhelRECEIVER;whTOUCHTONEel;bl/2
  elONptofMODEM;CLAMSHELL MOBILE PHONE;wuofvl;STAMPEDvl;vlwiLIGHTNING;FLYINGvl;PENovSTAMPEDvl;LINKED PAPERCLIPS;blPUSHPIN
  lolfPENCIL;2BALLPOINT PEN;2FOUNTAIN/1;2PAINTBRUSH;2CRAYON;lfWRITINGnh;tuOKnhsi;rdnhwifnSPLAYED;re/5;1THUMBSuasi;2dnsi
  1VICTORYnh;1nhwimixuxt;rdnhwiPARTbwmianrnfn;whdnpolfnhid;wdwhlfpoid;2ri/2;1bllf/2;2ri/2;bllfpoBACKHANDid;1ri/3;wdwhuapoid
  2dn/2;1blua/2;2dn/2;bluapoBACKHANDid;1dn/3;1eh;DESKTOP COMPUTER;zvanMOUSE;thNETWORKED COMPUTERS;PRINTER;POCKET CALCULATOR
  blHARDhqFLOPPY DISK;wh/4;wk/3;TAPE CARTRIDGE;WIREDzv;onBUTTON MOUSE;tw/2;th/2;TRACKBALL;olPERSONAL COMPUTER;HARD DISK
  SCREEN;PRINTER ICON;FAX/1;OPTICAL DISC/1;DOCUMENTwiTEXT;3anPICTURE;2PICTURE;FRAME/2;2TILES;2AN X;blFOLDER;FOLDER;oe/1
  CARDidDIVIDERS;1FILEbx;FILE CABINET;EMPTYnm;2PAGE;2PAD;nm;1PAGE;1PAD;EMPTY DOCUMENT;1PAGE;1PAGES;DOCUMENT;PAGE;PAGES
  WASTEBASKET;SPIRALnmPAD;1CALENDAR/1;DESKTOP WINDOW;MINIMIZE;MAXIMIZE;OVERLAP;ckrianlfSEMICIRCLEwj;qnX;INCREASE FONT SIZEsy
  DECREASE/3;COMPRESSION;olKEY;ROLLED-UP NEWSPAPER;PAGEwiccTEXT;STOCK CHART;DAGGER KNIFE;LIPS;SPEAKINGhvibSILHOUETTE;thRAYSab
  2be;2lf;2ri;lfSPEECH BUBBLE;ri/2;twSPEECH BUBBLES;th/2;lfTHOUGHT BUBBLE;ri/2;lfANGER/1;ri/2;MOOD/1;LIGHTNING/2;1MOOD
  BALLOTbxwiBALLOT;1scX;1bxwi/2;1bd/2;1bxwi/3;likgma;BALLOTbxwibdkg;WORLD MAP;MOUNT FUJI;TOKYO TOWER;STATUEofLIBERTY
  SILHOUETTEofJAPAN;MOYAI;GRINNINGfa;2wimsys;fawiTEARSofJOY;msfawioeou;5anmsys;6COLD SWEAT;6TIGHTLY-CLOSEDys;3HALO;3HORNS
  WINKINGfa;msfawimsys;faSAVOURING DELICIOUS FOOD;RELIEVEDfa;msfawiHEART-SHAPEDys;3SUNGLASSES;SMIRKINGfa;nefa
  EXPRESSIONLESSfa;UNAMUSEDfa;fawiCOLD SWEAT;PENSIVEfa;CONFUSEDfa;CONFOUNDEDfa;KISSINGfa;faTHROWING A KISS;KISSINGfawimsys
  3clys;fawiSTUCK-OUT TONGUE;4anWINKING EYE;5TIGHTLY-CLOSEDys;DISAPPOINTEDfa;WORRIEDfa;ANGRYfa;POUTINGfa;CRYINGfa
  PERSEVERINGfa;fawiLOOKofTRIUMPH;DISAPPOINTED BUT RELIEVEDfa;FROWNINGfawioeou;ANGUISHEDfa;FEARFULfa;WEARYfa;SLEEPYfa;TIREDfa
  GRIMACINGfa;LOUDLY CRYINGfa;fawioeou;HUSHEDfa;fawioeouanCOLD SWEAT;1SCREAMINGibFEAR;ASTONISHEDfa;FLUSHEDfa;SLEEPINGfa
  DIZZYfa;faWITHOUTou;1wiMEDICAL MASK;GRINNING CATfawimsys;CATfawiTEARSofJOY;msCATfawioeou;4HEART-SHAPEDys;CATfawiWRY SMILE
  KISSING CATfawiclys;POUTING CATfa;CRYING/2;WEARY/2;SLIGHTLY FROWNINGfa;1msfa;UPSIDE-DOWNfa;fawiROLLINGys;2njGOOD GESTURE
  2OK/1;pnBOWING DEEPLY;SEE-NO-EVIL MONKEY;HEAR-NO-EVIL/1;SPEAK-NO-EVIL/1;HAPPYpnRAISINGonnh
  pnRAISING BOTH HANDSibCELEBRATION;1FROWNING;1wiPOUTINGfa;2FOLDED HANDS;nowspoLEAF;so/3;noea/2;so/3;tunows/2;1so/3;1noea/2
  1so/3;nowspoVINE/1;so/4;noea/3;so/4;henows/3;1so/4;1noea/3;1so/4;nowspoBUD;so/3;noea/2;so/3;henows/2;1so/3;1noea/2;1so/3
  HOLLOW QUILTsqor;4ibblsq;SOLID QUILTsqor;4ibblsq;ltROCKET;up/1;rg/1;dw/1;sclgETor;he/4;lgoe/2;he/4;1pmor;SWASH/2
  nshedotucmqomaor;3cm/3;2lw/5;heINTERROBANGor;ns/2;he/3;vyhesd;2rvsd;CHECKER BOARD;rv/2;ROCKET;HELICOPTER;STEAM LOCOMOTIVE
  RAILWAY CAR;HIGH-SPEED TRAIN;2wibuNOSE;TRAIN;METRO;liRAIL;STATION;TRAM;1CAR;BUS;zw/1;TROLLEYBUS;BUSts;MINIBUS;AMBULANCE
  wxENGINE;POLICE CAR;zw/2;TAXI;zw/1;AUTOMOBILE;zw/1;RECREATIONAL VEHICLE;DELIVERY TRUCK;ARTICULATED LORRY;TRACTOR;MONORAIL
  mfRAILWAY;SUSPENSION/1;mfCABLEWAY;AERIAL TRAMWAY;SHIP;ROWBOAT;SPEEDBOAT;hoTRAFFICli;ve/2;CONSTRUCTIONsi
  POLICE CARS REVOLVINGli;ruFLAG ON POST;DOOR;njENTRYsi;SMOKINGsy;nj/2;PUT LITTERibITS PLACEsy;DOnbLITTERsy;POTABLEwrsy
  NON-POTABLE/2;BICYCLE;njBICYCLES;BICYCLIST;mf/1;PEDESTRIAN;njPEDESTRIANS;CHILDRENcs;MENSsy;WOMENSsy;RESTROOM;BABYsy;TOILET
  wrCLOSET;SHOWER;BATH;BATHTUB;PASSPORT CONTROL;CUSTOMS;BAGGAGE CLAIM;lfLUGGAGE;trwirqxn;PROHIBITEDsi;ccINFORMATION SOURCE
  BOYSsy;GIRLSsy;COUCHanLAMP;SLEEPING ACCOMMODATION;SHOPPING BAGS;BELLHOP BELL;BED;PLACEofWORSHIP;OCTAGONALsi
  SHOPPING TROLLEY;STUPA;PAGODA;HINDU TEMPLE;HUT;ELEVATOR"),
  (0x1F6DD, "PLAYGROUND SLIDE;WHEEL;rnBUOY;HAMMERanWRENCH;SHIELD;OIL DRUM;MOTORWAY;RAILWAY TRACK;MOTOR BOAT
  uoMILITARY AIRPLANE;1AIRPLANE;1sm/1;sm/1;NORTHEAST-POINTING/1;AIRPLANE DEPARTURE;1ARRIVING"),
  (0x1F6F0, "SATELLITE;zwwxENGINE;DIESEL LOCOMOTIVE;PASSENGER SHIP;SCOOTER;MOTOR/1;CANOE;SLED;FLYING SAUCER;SKATEBOARD
  AUTO RICKSHAW;PICKUP TRUCK;ROLLER SKATE"),
  (0x1F700, "ALCHEMICALsyrfQUINTESSENCE;3AIR;3wx;3ek;3wr;3AQUAFORTIS;3AQUA REGIA;4REGIA-2;4VITAE;4VITAE-2;3VINEGAR;3VINEGAR-2
  +1;3SULFUR;3PHILOSOPHERS/1;3bl/1;3MERCURYvz;4SUBLIMATE-2;+1;3CINNABAR;3SALT;3NITRE;3VITRIOL;3VITRIOL-2;3ROCK SALT;4SALT-2
  3GOLD;3SILVER;3IRON ORE;4ORE-2;3CROCUSofIRON;3REGULUS/2;3COPPER ORE;3IRON-COPPER/1;3vzofCOPPER;3CROCUS/2;5COPPER-2
  3COPPER ANTIMONIATE;3SALTof/2;3vzofSALTofCOPPER;3VERDIGRIS;3TIN ORE;3LEAD/1;3ANTIMONY/1;3vzofANTIMONY;3SALT/2;3vzof/3
  3VINEGAR/2;3REGULUS/2;5ANTIMONY-2;3REGULUS;3REGULUS-2;+2;3ALKALI;3ALKALI-2;3MARCASITE;3SAL-AMMONIAC;3ARSENIC;3REALGAR
  3REALGAR-2;3AURIPIGMENT;3BISMUTH ORE;3TARTAR;3TARTAR-2;3QUICK LIME;3BORAX;3BORAX-2;+1;3ALUM;3OIL;3SPIRIT;3TINCTURE;3GUM
  3WAX;3POWDER;3CALX;3TUTTY;3CAPUT MORTUUM;3SCEPTERofJOVE;3CADUCEUS;3TRIDENT;3STARRED/1;3LODESTONE;3SOAP;3URINE;3qyDUNG
  3ASHES;3POT/1;3BRICK;3POWDERED/1;3AMALGAM;3STRATUM SUPER STRATUM;5STRATUM-2;3SUBLIMATION;3PRECIPITATE;3DISTILL;3DISSOLVE
  3DISSOLVE-2;3PURIFY;3PUTREFACTION;3CRUCIBLE;3CRUCIBLE-2;+3;3ALEMBIC;3BATHofMARY;5VAPOURS;3RETORT;3HOUR;3NIGHT;3DAY-NIGHT
  3MONTH;3haDRAM;4OUNCE"),
  (0x1F780, "bllpISOSCELESritr;1uo/3;1rh/3;1dp/3;1SLIGHTLYsmci;mdbdwhci;bd/2;he/2;vy/3;xr/3;whcioqblsmci;qvTARGET;blTINYsq
  1SLIGHTLYsmsq;liwhsq;md/2;bd/2;he/2;vy/3;xr/3;whsqoqblvysmsq;4mdsq;sqTARGET;blTINYdm;1vysmdm;1md/2;whdmoqblvy/2;4mddm
  dmTARGET;blTINYzl;1vysmzl;1md/2;whzloqbl/2;THINgerc;li/2;md/2;bd/2;vy/3;1he/2;xr/3;THIN SALTIRE;li/1;md/1;bd/1;he/1;vy/2
  xr/2;lifvSPOKEDai;md/3;bd/3;he/3;vy/4;xr/4;lisx/2;md/3;bd/3;he/3;vy/4;xr/4;liei/2;md/3;bd/3;he/3;vy/4;lithpiblrs;md/4;th/3
  mdthpipwrs;lifupiblrs;md/4;fu/3;mdfupipwrs;rvli/4;lifvpiblrs;he/4;mdsx/3;he/4;sxpipwrs;mdeipiblrs;he/4;vy/5;heeipipwrs
  liwlpiblrs;he/4;3pwrs;cctr;nv/2;ccsq;nv/2"),
  (0x1F7E0, "laORANGEci;1YELLOWci;1GREENci;1PURPLEci;1BROWNci;1REDsq;1BLUEsq;1ORANGEsq;1YELLOWsq;1GREENsq;1PURPLEsq;1BROWNsq"),
  (0x1F7F0, "heeusi"),
  (0x1F800, "ltarwismtrao;up/5;rg/5;dw/5;ltarwimd/2;up/5;rg/5;dw/5;ltarwila/2;up/5;rg/5;dw/5"),
  (0x1F810, "ltarwismEQUILATERALao;up/5;rg/5;dw/5;ltarwi/2;up/4;rg/4;dw/4;helt/4;1up/4;1rg/4;1dw/4;1ltarwila/2;1up/5;1rg/5
  1dw/5;lttaarwiNARROW SHAFT;up/5;rg/5;dw/5;lttaarwimd/1;up/5;rg/5;dw/5;lttaarwibd/1;up/5;rg/5;dw/5;lttaarwihe/1;up/5;rg/5
  dw/5;lttaarwivy/2;up/6;rg/6;dw/6;ltFINGER-POSTar;up/2;rg/2;dw/2;ltsuar;up/2;rg/2;dw/2;ltCOMPRESSEDar;up/2;rg/2;dw/2;lthe/2
  up/3;rg/3;dw/3;lthear;up/2;rg/2;dw/2"),
  (0x1F850, "ltnsar;up/2;rg/2;dw/2;nows/2;1ea/2;so/3;1ws/2;lfri/2;uadn/2"),
  (0x1F860, "WIDE-HEADEDltlibbar;1up/3;1rg/3;1dw/3;1nows/3;2ea/3;1so/4;2ws/3;1lt/2;1up/2;1rg/2;1dw/2;1nows/2;2ea/2;1so/3;2ws/2
  1ltmd/2;1up/3;1rg/3;1dw/3;1nows/3;2ea/3;1so/4;2ws/3;1lthe/2;1up/3;1rg/3;1dw/3;1nows/3;2ea/3;1so/4;2ws/3;1ltvy/3;1up/4;1rg/4
  1dw/4;1nows/4;2ea/4;1so/5;2ws/4"),
  (0x1F890, "lttrao;up/2;rg/2;dw/2;ltwharWITHIN/2;up/5;rg/5;dw/5;ltarwixvtc;up/4;rg/4;dw/4;hearSHAFT WIDTHon;4twfx;4onha;5fq
  ltBOTTOM-SHADEDwhar;rgbtSHADED/2;ltpt/3;rg/4;ltLEFT-SHADED/2;rgRIGHT-SHADED/2;lt/3;rgLEFT-SHADED/2;ltBACK-TILTEDwc/2;rg/4
  ltFRONT-TILTED/3;rg/4;wharSHAFT WIDTHon;4twfx"),
  (0x1F8B0, "arpoupTHENnows;2rgTHEN CURVINGsows"),
  (0x1F900, "ccrcFORMEEwifuod;4twod;2FORMEE;lfhaciwifuod;4thod;4twod;4dt;2ci;DOWNWARD FACINGhk;2xvhk;2hkwidt;2xv/3;PINCHEDfn
  wheh;BROWNeh;PINCHINGnh;ZIPPER-MOUTHfa;MONEY-MOUTHfa;fawiTHERMOMETER;NERDfa;THINKINGfa;fawiHEAD-BANDAGE;ROBOTfa;HUGGINGfa
  sioftgHORNS;CALL MEnh;rdwuofnh;wmFIST;jz/1;HANDSHAKE;nhwiidanmifncz;I LOVE YOUnhsi;fawiCOWBOY HAT;CLOWNfa;NAUSEATEDfa
  ROLLING ONtgFLOOR LAUGHING;DROOLINGfa;LYINGfa;faPALM;SNEEZINGfa;fawionEYEBROWrd;GRINNINGfawirsys;3onlaanonsmEYE
  fawixuCOVERINGclLIPS;SERIOUSfawiSYMBOLS COVERINGou;msfawimsysannh/2;fawioeouVOMITING;SHOCKEDfawiEXPLODINGhv;PREGNANTyz
  BREAST-FEEDING;PALMSuaTOGETHER;SELFIE;PRINCE;mjibTUXEDO;MOTHER CHRISTMAS;SHRUG;pnDOING CARTWHEEL;JUGGLING;FENCER
  MODERN PENTATHLON;WRESTLERS;wrPOLO;HANDBALL;DIVING MASK;WILTED FLOWER;DRUMwiDRUMSTICKS;CLINKING GLASSES;TUMBLER GLASS;SPOON
  GOAL NET;RIFLE;zbPLACE MEDAL;xh/2;fq/2;BOXING GLOVE;MARTIAL ARTS UNIFORM;CURLING STONE;LACROSSE STICKanqp;SOFTBALL
  FLYING DISC;CROISSANT;AVOCADO;CUCUMBER;BACON;POTATO;CARROT;BAGUETTE BREAD;GREEN SALAD;SHALLOW PANofFOOD;STUFFED FLATBREAD
  EGG;GLASSofMILK;PEANUTS;KIWIFRUIT;PANCAKES;DUMPLING;FORTUNE COOKIE;TAKEOUTbx;CHOPSTICKS;BOWLwiSPOON;CUPwiSTRAW;COCONUT
  BROCCOLI;PIE;PRETZEL;CUTofMEAT;SANDWICH;CANNED FOOD;LEAFY GREEN;MANGO;mqCAKE;BAGEL;msfawimsysanthHEARTS;YAWNINGfa;msfawiTEAR
  fawiPARTYhbanPARTY HAT;2UNEVENysanWAVYou;OVERHEATEDfa;FREEZINGfa;NINJA;DISGUISEDfa;faHOLDINGwuTEARS;1wiPLEADINGys;SARI
  LAB COAT;GOGGLES;HIKING BOOT;FLAT SHOE;CRAB;LIONfa;SCORPION;TURKEY;UNICORNfa;EAGLE;DUCK;BAT;SHARK;OWL;FOXfa;BUTTERFLY;DEER
  GORILLA;LIZARD;RHINOCEROS;SHRIMP;SQUID;GIRAFFEfa;ZEBRAfa;HEDGEHOG;SAUROPOD;T-REX;CRICKET;KANGAROO;LLAMA;PEACOCK;HIPPOPOTAMUS
  PARROT;RACCOON;LOBSTER;MOSQUITO;MICROBE;BADGER;SWAN;MAMMOTH;DODO;SLOTH;OTTER;ORANGUTAN;SKUNK;FLAMINGO;OYSTER;BEAVER;BISON
  SEAL;GUIDE DOG;PROBING CANE;EMOJI COMPONENT RED HAIR;2cu/1;2BALD;2whHAIR;BONE;jx;FOOT;TOOTH;SUPERHERO;SUPERVILLAIN
  SAFETY VEST;EARwiHEARING AID;MOTORIZED WHEELCHAIR;MANUAL/1;MECHANICAL ARM;1jx;CHEESE WEDGE;CUPCAKE;SALT SHAKER;BEVERAGEbx
  GARLIC;ONION;FALAFEL;WAFFLE;BUTTER;MATE DRINK;ICE CUBE;BUBBLE TEA;TROLL;STANDINGpn;KNEELINGpn;DEAFpn;fawiMONOCLE;ADULT;CHILD
  OLDER ADULT;BEARDEDpn;pnwiHEADSCARF;1ibSTEAMY ROOM;1CLIMBING;1ibLOTUS POSITION;MAGE;FAIRY;VAMPIRE;MERPERSON;ELF;GENIE;ZOMBIE
  BRAIN;ORANGEeh;BILLED CAP;SCARF;GLOVES;COAT;SOCKS;RED GIFTvl;FIRECRACKER;JIGSAW PUZZLE PIECE;TEST TUBE;PETRIdj;DNAdoHELIX
  COMPASS;ABACUS;wxEXTINGUISHER;TOOLBOX;BRICK;MAGNET;LUGGAGE;LOTION BOTTLE;SPOOLofTHREAD;qpofYARN;SAFETY PIN;TEDDY BEAR;BROOM
  BASKET;ROLLofPAPER;baofSOAP;SPONGE;RECEIPT;NAZAR AMULET;neecki;2qe;2qq;2bi;2kn;2wp;whecknoaFORTY-FIVE DEGREES;bl/5;ne/5
  wheckioaiy/1;2qe/3;2qq/3;2bi/3;2kn/3;2wp/3;blecki/3;2qe/3;2qq/3;2bi/3;2kn/3;2wp/3;neecki/3;2qe/3;2qq/3;2bi/3;2kn/3;2wp/3
  whecknoaonhuTHIRTY-FIVE/1;bl/7;ne/7;whectuki;3qe;3qq;3bi;3kn;3wp;blectuki;3qe;3qq;3bi;3kn;3wp;neectuki;3qe;3qq;3bi;3kn;3wp
  whecknoatwhuTWENTY-FIVE DEGREES;bl/7;ne/7;wheckioatwhusv/1;2qe/5;2qq/5;2bi/5;2kn/5;2wp/5;blecki/5;2qe/5;2qq/5;2bi/5;2kn/5
  2wp/5;neecki/5;2qe/5;2qq/5;2bi/5;2kn/5;2wp/5;whecknoathhufc/1;bl/7;ne/7;whecEQUIHOPPER;bl/2;ne/2;whecEQUIHOPPERoaiyDEGREES
  bl/5;ne/5;whecKNIGHT-QUEEN;2KNIGHT-ROOK;2KNIGHT-BISHOP;blecKNIGHT-QUEEN;2KNIGHT-ROOK;2KNIGHT-BISHOP"),
  (0x1FA60, "XIANGQI RED GENERAL;2MANDARIN;2ELEPHANT;2qy;2CHARIOT;2CANNON;2SOLDIER;1blGENERAL;2MANDARIN;2ELEPHANT;2qy;2CHARIOT
  2CANNON;2SOLDIER"),
  (0x1FA70, "BALLET SHOES;ONE-PIECE SWIMSUIT;BRIEFS;SHORTS;THONG SANDAL"),
  (0x1FA78, "DROPofBLOOD;ADHESIVE BANDAGE;STETHOSCOPE;X-RAY;CRUTCH"),
  (0x1FA80, "YO-YO;KITE;PARACHUTE;BOOMERANG;MAGIC WAND;PINATA;NESTING DOLLS"),
  (0x1FA90, "RINGED PLANET;CHAIR;RAZOR;AXE;DIYA LAMP;BANJO;MILITARY HELMET;ACCORDION;lnDRUM;COIN;CARPENTRY SAW;SCREWDRIVER
  LADDER;hk;MIRROR;WINDOW;PLUNGER;SEWING NEEDLE;KNOT;BUCKET;MOUSE TRAP;TOOTHBRUSH;HEADSTONE;PLACARD;ROCK;MIRRORqp
  IDENTIFICATION CARD;lwBATTERY;HAMSA"),
  (0x1FAB0, "FLY;WORM;BEETLE;COCKROACH;POTTED PLANT;WOOD;FEATHER;LOTUS;CORAL;EMPTY NEST;NESTwiEGGS"),
  (0x1FAC0, "ANATOMICALeh;LUNGS;PEOPLE HUGGING;PREGNANTmj;1pn;pnwiCROWN"),
  (0x1FAD0, "BLUEBERRIES;BELL PEPPER;OLIVE;FLATBREAD;TAMALE;FONDUE;TEAPOT;POURING LIQUID;BEANS;JAR"),
  (0x1FAE0, "MELTINGfa;SALUTINGfa;fawioeysannhovou;2PEEKING EYE;2dgou;deilfa;BITING LIP;BUBBLES"),
  (0x1FAF0, "nhwiidxuantmcz;rgnh;ltnh;PALMdnnh;1uanh;idpoATtgVIEWER;ehHANDS"),
  (0x1FB00, "boSEXTANT-1;1SEXTANT-2;1SEXTANT-12;1SEXTANT-3;1SEXTANT-13;1SEXTANT-23;1SEXTANT-123;1SEXTANT-4;1SEXTANT-14
  1SEXTANT-24;1SEXTANT-124;1SEXTANT-34;1SEXTANT-134;1SEXTANT-234;1SEXTANT-1234;1SEXTANT-5;1SEXTANT-15;1SEXTANT-25
  1SEXTANT-125;1SEXTANT-35;1SEXTANT-235;1SEXTANT-1235;1SEXTANT-45;1SEXTANT-145;1SEXTANT-245;1SEXTANT-1245;1SEXTANT-345
  1SEXTANT-1345;1SEXTANT-2345;1SEXTANT-12345;1SEXTANT-6;1SEXTANT-16;1SEXTANT-26;1SEXTANT-126;1SEXTANT-36;1SEXTANT-136
  1SEXTANT-236;1SEXTANT-1236;1SEXTANT-46;1SEXTANT-146;1SEXTANT-1246;1SEXTANT-346;1SEXTANT-1346;1SEXTANT-2346;1SEXTANT-12346
  1SEXTANT-56;1SEXTANT-156;1SEXTANT-256;1SEXTANT-1256;1SEXTANT-356;1SEXTANT-1356;1SEXTANT-2356;1SEXTANT-12356;1SEXTANT-456
  1SEXTANT-1456;1SEXTANT-2456;1SEXTANT-12456;1SEXTANT-3456;1SEXTANT-13456;1SEXTANT-23456;lolfbodglomilfotloce;9ri
  4uemilfotloce;9ri;5lfotloce;1ribodguemilfotuece;9ri;4lomilfotuece;9ri;5lfotuece;5milfotuemiri;5ceotlo/2;5lf/4;5ceotue/2
  5lf/4;5ceotueri;1lfbodgueceotuemiri;5lf/4;5ceotlo/2;5lf/4;5ceotlori;5milfotlomiri;ueribodglomilfotloce;9ri;4uemilfotloce
  9ri;5lfotloce;1lfbodguemilfotuece;9ri;4lomilfotuece;9ri;5lfotuece;5milfotuemiri;5ceotlo/2;5lf/4;5ceotue/2;5lf/4;5ceotueri
  1ribodgueceotuemiri;5lf/4;5ceotlo/2;5lf/4;5ceotlori;5milfotlomiri;1anrianloruthqrbo;lfanloanri/4;ueanlfanlo/4;lfanueanri/4
  1ruonqabo;ue/4;ri/4;lo/4;veonegBLOCK-2;3BLOCK-3;+4;hoonegBLOCK-2;3BLOCK-3;+4;lfanloonegbo;2ue/3;ri/5;2lo/3;ue/5
  hoonegBLOCK-1358;ueonqabo;1thgibo;1fv/2;1thqrbo;1segibo;rionqabo;1thgibo;1fv/2;1thqrbo;1segibo;lfhamdSHADE;ri/3;ue/3;lo/3
  vj/2;uehaboanloha/3;2vjmdSHADEanlohabo"),
  (0x1FB94, "lfhavjmdSHADEanrihabo;CHECKER BOARD FILL;vj/3;heho/1;uelfotlori/1;1riotlolf/1;1anloruhabo;lfanri/3;uelfrumdSHADE
  1ri/3;lo/4;1lf/3;bxDRAWINGSlidgueceotmilf;8ri;4milfotloce;5ri/3;4ueceotmilf/3;8ri/3;4milfotloceotmiri;7ue/4
  4ueceotmilfanmiriotloce;8rianmilf/3;9otloceotmilf;8lfotloceotmiri;4milfotueceotmiriotloce;5riotueceotmilf/3;4dm;3howivest
  ARROWHEAD-SHAPED POINTER;vjkgma;lfhaRUNNINGmj;ri/3;vjdwarwiTIPlt;ltaranueanloonegbo;rg/8;dwaranri/3;up/6;lfhaFOLDER;ri/2
  VOIDEDgerc;rioesudt;nvdgrc;2miriotloce;2dm;whheSALTIREwirqxn;lffqwhripoid;mi/5;ri/5;nvsuquma;STICK FIGURE;2wiARMSrd
  2LEANINGlf;3ri;2wiDRESS;whuoCHEVRON"),
  (0x1FBF0, "SEGMENTEDdize;2on;2tw;2th;2fu;2fv;2sx;2se;2ei;2ni"),
  (0xE0001, "LANGUAGE TAG"),
  (0xE0020, "TAGpc;1exma;1qoma;1nusi;1xfsi;1PERCENTsi;1pm;1os;1lfpa;1ripa;1ai;1plsi;1cm;1yh;1flts;1sd;1dize;2on;2tw;2th;2fu
  2fv;2sx;2se;2ei;2ni;1oc;1em;1lssi;1eusi;1grsi;1quma;1jlAT;1atcaleA;4B;4C;4D;4E;4F;4G;4H;4I;4J;4K;4L;4M;4N;4O;4P;4Q;4R;4S;4T
  4U;4V;4W;4X;4Y;4Z;1lfsqbr;1rvsd;1risqbr;1crae;1lwil;1gaae;1atsmleA;4B;4C;4D;4E;4F;4G;4H;4I;4J;4K;4L;4M;4N;4O;4P;4Q;4R;4S;4T
  4U;4V;4W;4X;4Y;4Z;1lfcubr;1veil;1ricubr;1tl;CANCEL TAG"),
  (0xE0100, "vkSELECTOR-17;1SELECTOR-18;+81;1SELECTOR-100;+156")]

end CallLint.Text.Names
