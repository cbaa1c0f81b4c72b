/-!
# Names of characters from U+2C00 to U+ABFF

Those of further alphabets, radicals, and the scripts of East Asia.
-/

namespace CallLint.Text.Names

/-- The names of runs of characters, each with the number of its first one. -/
def asian : List (Nat × String) := [
  (0x2C00, "gvcaleAZU;3BUKY;3VEDE;3GLAGOLI;3DOBRO;3YESTU;3ZHIVETE;3DZELO;3ZEMLJA;3IZHE;3in/1;3I;3DJERVI;3KAKO;3LJUDIJE
  3MYSLITE;3NASHI;3ONU;3POKOJI;3RITSI;3SLOVO;3TVRIDO;3UKU;3FRITU;3HERU;3OTU;3pb;3SHTA;3TSI;3CHRIVI;3sa;3YERU;3YERI;3YATI
  3SPIDERYah;3yu;3smYUS;5witc;3YO;3xlsmYUS;3BIG/1;3xl/2;3FITA;3IZHITSA;3SHTAPIC;3TROKUTASTI A;3LATINATE MYSLITE
  3CAUDATE CHRIVI;1smleAZU;3BUKY;3VEDE;3GLAGOLI;3DOBRO;3YESTU;3ZHIVETE;3DZELO;3ZEMLJA;3IZHE;3in/1;3I;3DJERVI;3KAKO;3LJUDIJE
  3MYSLITE;3NASHI;3ONU;3POKOJI;3RITSI;3SLOVO;3TVRIDO;3UKU;3FRITU;3HERU;3OTU;3pb;3SHTA;3TSI;3CHRIVI;3sa;3YERU;3YERI;3YATI
  3SPIDERYah;3yu;3smYUS;5witc;3YO;3xlsmYUS;3BIG/1;3xl/2;3FITA;3IZHITSA;3SHTAPIC;3TROKUTASTI A;3LATINATE MYSLITE
  3CAUDATE CHRIVI;atcaleLwidoba;1sm/5;1caleLwimitl;3Pwist;3Rwitc;1smleAwist;3Twidgst;1caleHwidc;1sm/4;1caleK/2;1sm/4;1caleZ/2
  1sm/4;1calelh;3Mwihk;3tuA;4lh;1smleVwirihk;1caleWwihk;1sm/4;3Vwiur;1calehaH;1sm/3;3TAILLESSpd;3EwiNOTCH;3tuRwitc;3Owilwrnif
  1lesmcatuE;1bssmleJ;molecaV;atcaleSwiSWASHtc;3Z/3;iccaleALFA;1sm/2;1caleVIDA;1sm/2;1calemg;1sm/2;1caleDALDA;1sm/2;1caleEIE
  1sm/2;1caleSOU;1sm/2;1caleZATA;1sm/2;1caleHATE;1sm/2;1caleTHETHE;1sm/2;1caleIAUDA;1sm/2;1caleKAPA;1sm/2;1caleLAULA;1sm/2
  1caleMI;1sm/2;1caleNI;1sm/2;1caleKSI;1sm/2;1caleO;1sm/2;1caleip;1sm/2;1caleRO;1sm/2;1caleSIMA;1sm/2;1calejk;1sm/2;1caleUA
  1sm/2;1caleFI;1sm/2;1caleKHI;1sm/2;1calePSI;1sm/2;1caleOOU;1sm/2;1caleDIALECT-Pal;1sm/3;1caleolicaw;1sm/4;1caleyrEIE;1sm/3
  1caleDIALECT-P KAPA;1sm/3;1caleDIALECT-P NI;1sm/3;1caleyrNI;1sm/3;1caleolicOOU;1sm/4;1caleSAMPI;1sm/2;1caleczSHEI;1sm/3
  1caleolic/1;1sm/4;1caleolicjj;1sm/4;1caleAKHMIMIC KHEI;1sm/3;1caleDIALECT-P HORI;1sm/3;1caleolic/1;1sm/4;1caleolicah;1sm/4
  1caleL-SHAPEDah;1sm/3;1caleolicHEI;1sm/4;1caleolicHAT;1sm/4;1caleolicGANGIA;1sm/4;1caleolicDJA;1sm/4;1caleolicSHIMA;1sm/4
  1caleolNUBIAN/1;1sm/4;1caleolNUBIAN NGI;1sm/4;1caleolNUBIAN NYI;1sm/4;1caleolNUBIAN WAU;1sm/4;1syKAI;2MI RO;2ipRO;2STAUROS
  2jkRO;2KHI/1;2SHIMA SIMA;1caleyrSHEI;1sm/3;1caleyrGANGIA;1sm/3;1coNIab;2SPIRITUS ASPER;3LENIS;1caleBOHAIRIC KHEI;1sm/3"),
  (0x2CF9, "icolNUBIANflts;3DIRECTquma;3INDIRECT/2;3VERSExj;1fronha;1flts;1MORPHOLOGICALxj;gosmleAN;3BAN;3GAN;3DON;3eb;3VIN
  3ZEN;3TAN;3ib;3KAN;3LAS;3mj;3NAR;3ON;3PAR;3ZHAR;3RAE;3SAN;3TAR;3UN;3PHAR;3KHAR;3GHAN;3QAR;3hs;3CHIN;3CAN;3JIL;3CIL;3CHAR
  3XAN;3JHAN;3HAE;3hj;3HIE;3WE;3HAR;3HOE"),
  (0x2D27, "gosmleYN"),
  (0x2D2D, "gosmleAEN"),
  (0x2D30, "TIFINAGHleya;2YAB;2YABH;2YAG;2YAGHH;2BERBER ACADEMY YAJ;2YAJ;2YAD;2YADH;2YADD;2YADDH;2YEY;2YAF;2YAK;2xm/1;2YAKHH
  2YAH;2BERBER ACADEMY/1;2xm/1;2YAHH;2YAA;2YAKH;2xm/1;2YAQ;2xm/1;2YI;2YAZH;2AHAGGAR/1;2xm/1;2YAL;2YAM;2YAN;2xmYAGN;3yb;2YAP
  2yu;2YAR;2YARR;2YAGH;2xm/1;2AYER/1;2YAS;2YASS;2YASH;2YAT;2YATH;2YACH;2YATT;2YAV;2YAW;2YAY;2YAZ;2TAWELLEMET/1;2YAZZ;2YE;2YO"),
  (0x2D6F, "TIFINAGHmoleLABIALIZATIONma;1spma"),
  (0x2D7F, "TIFINAGHctJOINER;etslLOA;2MOA;2ROA;2SOA;2SHOA;2BOA;2TOA;2COA;2NOA;2NYOA;2glOA;2ZOA;2DOA;2DDOA;2JOA;2THOA;2CHOA
  2PHOA;2POA;2GGWA;2GGWI;2GGWEE;2GGWE"),
  (0x2DA0, "etslsf;2SSU;2SSI;2SSAA;2SSEE;2SSE;2SSO"),
  (0x2DA8, "etslCCA;2CCU;2CCI;2CCAA;2CCEE;2CCE;2CCO"),
  (0x2DB0, "etslZZA;2ZZU;2ZZI;2ZZAA;2ZZEE;2ZZE;2ZZO"),
  (0x2DB8, "etslCCHA;2CCHU;2CCHI;2CCHAA;2CCHEE;2CCHE;2CCHO"),
  (0x2DC0, "etslQYA;2QYU;2QYI;2QYAA;2QYEE;2QYE;2QYO"),
  (0x2DC8, "etslKYA;2KYU;2KYI;2KYAA;2KYEE;2KYE;2KYO"),
  (0x2DD0, "etslXYA;2XYU;2XYI;2XYAA;2XYEE;2XYE;2XYO"),
  (0x2DD8, "etslGYA;2GYU;2GYI;2GYAA;2GYEE;2GYE;2GYO"),
  (0x2DE0, "cocyleBE;3VE;3GHE;3DE;3ZHE;3ZE;3ka;3EL;3EM;3eb;3O;3pb;3ER;3ES;3TE;3ah;3TSE;3fs;3sa;3SHCHA;3FITA;3ES-TE;3A;3IE
  3DJERV;3MONOGRAPH UK;3YAT;3yu;3feA;3llYUS;3BIG/1;3fe/2;rinlSUBSTITUTION MARKER;2de/2;lfSUBSTITUTIONbr;ri/2;lfde/2;ri/3
  rdINTERPOLATION MARKER;1de/2;deTRANSPOSITION/1;lfTRANSPOSITIONbr;ri/2;rdsq;lfrdOMISSIONbr;ri/3;EDITORIAL CORONIS;PARAGRAPHOS
  FORKED/1;re/2;HYPODIASTOLE;deOBELOS;dwANCORA;up/1;derhnl;doxghy;ivINTERROBANG;PALM BRANCH;hywida;tlwirnab;lflwPARAPHRASEbr
  ri/3;tlwidtab;3be;lfvebawiQUILL;ri/4;ptlfhabr;1ri/2;btlf/2;1ri/2;lfwdUbr;ri/3;lfdopa;ri/2;twodovondtpu;ondtovtwodpu;sufudtpu
  fvdtma;requma;vetl;rniz;wospmidt;tucm;rddt;1cm;tuem;DAGGERwilfGUARD;2ri/1;tuDAGGER;pthaessi;TWO-EMdf;THREE-EMdf
  STENOGRAPHICflts;vesxod;WIGGLYveil;CAPITULUM;dohy;recm;doLOW-REVERSED-9qoma;dfwilfUPTURN;doSUSPENSIONma;ivlwKAVYKA
  3wiKAVYKAab;lwKAVYKA;2widt;doSTACKEDcm;desd;tpDAGGER;MEDIEVALcm;PARAGRAPHUSma;PUNCTUS ELEVATUSma;CORNISH VERSExj
  rcPATTYwiriCROSSBAR;3lf/1;TIRONIANsicaET;MEDIEVALexma;1quma;lfsqbrwist;ri/4;lfsqbrwidost;ri/5;pthalfpa;2ripa;bthalfpa;2ripa
  xghy"),
  (0x2E80, "CJK RADICAL REPEAT;2CLIFF;2xhon;3tw;3th;2pn;2bx;2TABLE;2KNIFEon;3tw;2DIVINATION;2SEAL;2smon;3tw;2LAMEon;3tw;3th
  3fu;2SNAKE;2THREAD;2SNOUTon;3tw;2ehon;3tw;2nh;2RAP"),
  (0x2E9B, "CJK RADICAL CHOKE;2SUN;2mq;2DEATH;2MOTHER;2CIVILIAN;2wron;3tw;2wx;2PAWon;3tw;2SIMPLIFIEDhaTREE TRUNK;2COW;2DOG
  2JADE;2BOLTofCLOTH;2EYE;2SPIRITon;3tw;2BAMBOO;2SILK;2cp/1;2NETon;3tw;3th;3fu;2MESH;2SHEEP;2RAM;2EWE;2ol;2BRUSHon;3tw;2MEAT
  2MORTAR;2GRASSon;3tw;3th;2TIGER;2CLOTHES;2wson;3tw;2cpSEE;2SIMPLIFIEDhb;2hb;2cpSPEECH;3hq;2FOOT;2cpCART;2SIMPLIFIED WALK
  2WALKon;3tw;2CITY;2cpGOLD;2lnon;3tw;2cpln;3GATE;2MOUNDon;3tw;2RAIN;2BLUE;2cpTANNED LEATHER;3LEAF;3WIND;3FLY;2EATon;3tw;3th
  2cpEAT;2hv;2cpqy;2BONE;2GHOST;2cpFISH;3BIRD;3SALT;2SIMPLIFIED WHEAT;3YELLOW;2cpFROG;2qjEVEN;2cp/1;2qjTOOTH;2cp/1;2qjDRAGON
  2cp/1;2TURTLE;2qj/1;2cp/1"),
  (0x2F00, "KANGXI RADICALon;2il;2dt;2lq;2xh;2hk;2tw;2LID;2mj;2LEGS;2ENTER;2ei;2dnbx;2COVER;2ICE;2TABLE;2oebx;2KNIFE;2POWER
  2WRAP;2SPOON;2rioebx;2HIDING ENCLOSURE;2te;2DIVINATION;2SEAL;2CLIFF;2PRIVATE;2AGAIN;2ou;2ENCLOSURE;2ek;2SCHOLAR;2GO;3SLOWLY
  2EVENING;2BIG;2yz;2CHILD;2ROOF;2INCH;2sm;2LAME;2CORPSE;2SPROUT;2mf;2RIVER;2WORK;2ONESELF;2TURBAN;2DRY;2shTHREAD;2deCLIFF
  2lnSTRIDE;2twHANDS;2SHOOT;2BOW;2SNOUT;2BRISTLE;2STEP;2eh;2HALBERD;2DOOR;2nh;2BRANCH;2RAP;2sc;2DIPPER;2AXE;2sq;2nb;2SUN;2SAY
  2mq;2TREE;2LACK;2ts;2DEATH;2WEAPON;2DOnb;2COMPARE;2FUR;2CLAN;2STEAM;2wr;2wx;2CLAW;2FATHER;2doX;2haTREE TRUNK;2SLICE;2FANG
  2COW;2DOG;2PROFOUND;2JADE;2MELON;2TILE;2SWEET;2LIFE;2USE;2FIELD;2BOLTofCLOTH;2SICKNESS;2deTENT;2wh;2SKIN;2dj;2EYE;2SPEAR;2ar
  2STONE;2SPIRIT;2TRACK;2GRAIN;2CAVE;2STAND;2BAMBOO;2RICE;2SILK;2JAR;2NET;2SHEEP;2FEATHER;2ol;2an;2PLOW;2EAR;2BRUSH;2MEAT
  2MINISTER;2SELF;2ARRIVE;2MORTAR;2TONGUE;2OPPOSE;2BOAT;2STOPPING;2COLOR;2GRASS;2TIGER;2INSECT;2BLOOD;2WALK ENCLOSURE;2CLOTHES
  2ws;2SEE;2hb;2SPEECH;2VALLEY;2BEAN;2PIG;2BADGER;2hq;2RED;2RUN;2FOOT;2BODY;2CART;2BITTER;2MORNING;2WALK;2CITY;2WINE
  2DISTINGUISH;2VILLAGE;2GOLD;2ln;2GATE;2MOUND;2SLAVE;2shtvBIRD;2RAIN;2BLUE;2WRONG;2fa;2LEATHER;2TANNED/1;2LEEK;2oz;2LEAF
  2WIND;2FLY;2EAT;2hv;2FRAGRANT;2qy;2BONE;2TALL;2HAIR;2FIGHT;2SACRIFICIAL WINE;2CAULDRON;2GHOST;2FISH;2BIRD;2SALT;2DEER;2WHEAT
  2HEMP;2YELLOW;2MILLET;2bl;2EMBROIDERY;2FROG;2TRIPOD;2DRUM;2RAT;2NOSE;2EVEN;2TOOTH;2DRAGON;2TURTLE;2FLUTE"),
  (0x2FF0, "ieDESCRIPTIONcglfotri;3abotbe;3lfotmianri;3abotmianbe;3flSURROUND;3SURROUNDfmab;5be;5lf;5uelf;6ri;5lolf;3OVERLAID"),
  (0x3000, "iepc;1cm;1flts;DITTOma;jpINDUSTRIAL STANDARDsy;iejbma;1CLOSINGma;1nuze;lfnlbr;ri/2;lfdo/2;ri/3;lfrrbr;ri/2;lfwh/2
  ri/3;lfbljqbr;ri/3;POSTALma;GETAma;lfeohqbr;ri/3;lfwhjqbr;ri/3;lfwheohqbr;ri/4;lfwhsqbr;ri/3;wvdf;redoPRIMEqoma;do/3;lw/4
  POSTALmafa;HANGZHOUnxon;2tw;2th;2fu;2fv;2sx;2se;2ei;2ni;ieLEVELntma;1rm/2;1DEPARTING/2;1ENTERING/2;uhsndt/2;1do/3;WAVYdf
  veKANA REPEATma;3wivdozma;3maueha;3wivdoz/3;3maloha;ccPOSTALma;ieTELEGRAPHilFEEDspsy;HANGZHOUnxte;2tn;2ty;veiejbma;MASUma
  PART ALTERNATIONma;ievkiq;1haFILLpc"),
  (0x3041, "qklesmA;2A;2smI;2I;2smU;2U;2smE;2E;2smO;2O;2ka;2gb;2KI;2GI;2KU;2GU;2KE;2GE;2KO;2GO;2as;2za;2SI;2ZI;2SU;2ZU;2SE;2ZE
  2SO;2ZO;2tb;2ad;2TI;2DI;2smTU;2TU;2DU;2TE;2DE;2ot;2DO;2na;2NI;2NU;2NE;2nj;2ah;2bc;2ap;2HI;2BI;2ip;2HU;2BU;2PU;2hj;2BE;2pb
  2HO;2BO;2PO;2am;2MI;2mb;2ME;2MO;2smya;2ya;2smyu;2yu;2smYO;2YO;2ra;2RI;2RU;2RE;2RO;2smwa;2wa;2WI;2WE;2WO;2N;2VU;2smka;3KE"),
  (0x3099, "cokkvdozma;2SEMI-VOICED/2;kkvd/2;1SEMI-VOICED/2;qkjbma;1vd/2;1drYORI;kkdohy;ktlesmA;2A;2smI;2I;2smU;2U;2smE;2E
  2smO;2O;2ka;2gb;2KI;2GI;2KU;2GU;2KE;2GE;2KO;2GO;2as;2za;2SI;2ZI;2SU;2ZU;2SE;2ZE;2SO;2ZO;2tb;2ad;2TI;2DI;2smTU;2TU;2DU;2TE
  2DE;2ot;2DO;2na;2NI;2NU;2NE;2nj;2ah;2bc;2ap;2HI;2BI;2ip;2HU;2BU;2PU;2hj;2BE;2pb;2HO;2BO;2PO;2am;2MI;2mb;2ME;2MO;2smya;2ya
  2smyu;2yu;2smYO;2YO;2ra;2RI;2RU;2RE;2RO;2smwa;2wa;2WI;2WE;2WO;2N;2VU;2smka;3KE;2vb;2VI;2VE;2VO;1midt;kkPROLONGEDozma;ktjbma
  1vd/2;1drKOTO"),
  (0x3105, "BOPOMOFOleB;2P;2M;2F;2D;2T;2N;2L;2G;2K;2H;2J;2Q;2X;2ZH;2CH;2SH;2R;2Z;2C;2S;2A;2O;2E;2EH;2ia;2EI;2aj;2OU;2AN;2eb
  2ANG;2ENG;2ER;2I;2U;2IU;2V;2NG;2GN;2IH;2Owidtab;2NN"),
  (0x3131, "uhleyk;2ym;2KIYEOK-SIOS;2zj;2wy;2wz;2ql;2xa;2zk;2yl;2xb;2xc;2RIEUL-SIOS;2RIEUL-THIEUTH;2RIEUL-PHIEUPH;2xd;2zm;2zn
  2SSANGPIEUP;2PIEUP-SIOS;2SIOS;2SSANGSIOS;2qz;2vp;2SSANGCIEUC;2uj;2ku;2uk;2uq;2zq;2A;2AE;2ya;2YAE;2EO;2E;2YEO;2YE;2O;2wa;2WAE
  2oj;2YO;2U;2WEO;2WE;2WI;2yu;2EU;2YI;2I;1fz;1leSSANGNIEUN;2NIEUN-TIKEUT;2NIEUN-SIOS;2NIEUN-PANSIOS;2RIEUL-KIYEOK-SIOS
  2RIEUL-TIKEUT;2RIEUL-PIEUP-SIOS;2RIEUL-PANSIOS;2RIEUL-YEORINHIEUH;2MIEUM-PIEUP;2MIEUM-SIOS;2MIEUM-PANSIOS;2KAPYEOUNMIEUM
  2PIEUP-KIYEOK;2PIEUP-TIKEUT;2PIEUP-SIOS-KIYEOK;2km;2PIEUP-CIEUC;2PIEUP-THIEUTH;2KAPYEOUNPIEUP;2KAPYEOUNSSANGPIEUP
  2SIOS-KIYEOK;2SIOS-NIEUN;2SIOS-TIKEUT;2SIOS-PIEUP;2SIOS-CIEUC;2PANSIOS;2SSANGIEUNG;2YESIEUNG;2YESIEUNG-SIOS
  2YESIEUNG-PANSIOS;2yj;2SSANGHIEUH;2YEORINHIEUH;2YO-YA;2YO-YAE;2YO-I;2YU-YEO;2YU-YE;2YU-I;2ARAEA;2ARAEAE"),
  (0x3190, "ieANNOTATION LINKINGma;2rvma;2onma;2twma;2thma;2fuma;2ptma;2mima;2btma;2zbma;2xhma;2fqma;2FOURTHma;2HEAVENma;2ekma
  2mjma;BOPOMOFOleBU;2ZI;2JI;2GU;2ej;2ENN;2oo;2ONN;2IR;2ANN;2INN;2UNN;2IM;2NGG;2AINN;2AUNN;2AM;2OM;2ONG;2INNN;1fileP;3T;3K;3H
  1leGH;2LH;2ZY;1fileG;1leGW;2KW;2oj;2AH;CJKstT;2WG;2XG;2BXG;2SW;2HZZ;2HZG;2HP;2HZWG;2SZWG;2HZT;2HZZP;2HPWG;2HZW;2HZZZ;2N;2H
  2S;2P;2SP;2D;2HZ;2HG;2SZ;2SWZ;2ST;2SG;2PD;2PZ;2TN;2SZZ;2SWG;2HXWG;2HZZZG;2PG;2Q"),
  (0x31F0, "ktlesmKU;3SI;3SU;3ot;3NU;3ah;3HI;3HU;3hj;3HO;3mb;3ra;3RI;3RU;3RE;3RO;pzuhyk;2zj;2ql;2zk;2zm;2zn;2SIOS;2qz;2vp;2uj
  2ku;2uk;2uq;2zq;2ykA;2zjA;2qlA;2zkA;2zmA;2znA;2SIOS A;2qzA;2vpA;2ujA;2kuA;2ukA;2uqA;2zqA;2vpU;1KOREANcgOJEON;3O HU"),
  (0x3220, "pzIDEOGRAPHon;2tw;2th;2fu;2fv;2sx;2se;2ei;2ni;2te;2mq;2wx;2wr;2WOOD;2METAL;2ek;2SUN;2STOCK;2HAVE;2SOCIETY;2NAME
  2SPECIAL;2FINANCIAL;2CONGRATULATION;2LABOR;2REPRESENT;2CALL;2STUDY;2SUPERVISE;2ENTERPRISE;2RESOURCE;2ALLIANCE;2FESTIVAL
  2REST;2SELF;2REACH;ccIDEOGRAPHqu;2KINDERGARTEN;2SCHOOL;2KOTO;1nuteONblsq;2tn/3;2ty/3;2ft/3;2ff/3;2ix/3;2sv/3;2ey/3
  PARTNERSHIPsi;ccnutnon;3tw;3th;3fu;3fv;3sx;3se;3ei;3ni;2ty;3on;3tw;3th;3fu;3fv;1uhyk;2zj;2ql;2zk;2zm;2zn;2SIOS;2qz;2vp;2uj
  2ku;2uk;2uq;2zq;2ykA;2zjA;2qlA;2zkA;2zmA;2znA;2SIOS A;2qzA;2vpA;2ujA;2kuA;2ukA;2uqA;2zqA;1KOREANcgCHAMKO;3JUEUI;1uhqzU
  KOREAN STANDARDsy;ccIDEOGRAPHon;2tw;2th;2fu;2fv;2sx;2se;2ei;2ni;2te;2mq;2wx;2wr;2WOOD;2METAL;2ek;2SUN;2STOCK;2HAVE;2SOCIETY
  2NAME;2SPECIAL;2FINANCIAL;2CONGRATULATION;2LABOR;2SECRET;2MALE;2FEMALE;2SUITABLE;2EXCELLENT;2PRINT;2ATTENTION;2ITEM;2REST
  2COPY;2CORRECT;2hi;2ce;2lw;2lf;2ri;2MEDICINE;2RELIGION;2STUDY;2SUPERVISE;2ENTERPRISE;2RESOURCE;2ALLIANCE;2NIGHT;1nutysx;3se
  3ei;3ni;2ft;3on;3tw;3th;3fu;3fv;3sx;3se;3ei;3ni;2ff;ieTELEGRAPHsyrfJANUARY;4FEBRUARY;4MARCH;4APRIL;4MAY;4JUNE;4JULY;4AUGUST
  4SEPTEMBER;4OCTOBER;4NOVEMBER;4DECEMBER;sqHG;1ERG;1EV;LIMITED LIABILITYsi;ccktA;2I;2U;2E;2O;2ka;2KI;2KU;2KE;2KO;2as;2SI;2SU
  2SE;2SO;2tb;2TI;2TU;2TE;2ot;2na;2NI;2NU;2NE;2nj;2ah;2HI;2HU;2hj;2HO;2am;2MI;2mb;2ME;2MO;2ya;2yu;2YO;2ra;2RI;2RU;2RE;2RO;2wa
  2WI;2WE;2WO;sqERA NAME REIWA;1APAATO;1ARUHUA;1ANPEA;1AARU;1ININGU;1INTI;1UON;1ESUKUUDO;1EEKAA;1ONSU;1OOMU;1KAIRI;1KARATTO
  1KARORII;1GARON;1GANMA;1GIGA;1GINII;1KYURII;1GIRUDAA;1KIRO;1KIROGURAMU;1KIROMEETORU;1KIROWATTO;1GURAMU;1GURAMUTON;1KURUZEIRO
  1KUROONE;1KEESU;1KORUNA;1KOOPO;1SAIKURU;1SANTIIMU;1SIRINGU;1SENTI;1SENTO;1DAASU;1DESI;1DORU;1TON;1NANO;1NOTTO;1HAITU
  1PAASENTO;1PAATU;1BAARERU;1PIASUTORU;1PIKURU;1PIKO;1BIRU;1HUARADDO;1HUIITO;1BUSSYERU;1HURAN;1HEKUTAARU;1PESO;1PENIHI;1HERUTU
  1PENSU;1PEEZI;1BEETA;1POINTO;1BORUTO;1HON;1PONDO;1HOORU;1HOON;1MAIKURO;1MAIRU;1MAHHA;1MARUKU;1MANSYON;1MIKURON;1MIRI
  1MIRIBAARU;1MEGA;1MEGATON;1MEETORU;1YAADO;1YAARU;1YUAN;1RITTORU;1RIRA;1RUPII;1RUUBURU;1REMU;1RENTOGEN;1WATTO
  ieTELEGRAPHsyrfHOURze;5on;5tw;5th;5fu;5fv;5sx;5se;5ei;5ni;5te;5ev;5wl;5tx;5uf;5fc;5xs;5vn;5gt;5nq;5tn;5TWENTY-ONE
  5TWENTY-TWO;5TWENTY-THREE;5TWENTY-FOUR;sqHPA;1ad;1aj;1ba;1OV;1PC;1DM;2su;2CUBED;1IU;1ERA NAME HEISEI;3SYOUWA;3TAISYOU;3MEIZI
  1CORPORATION;1apAMPS;1na;1mbA;1am;1ka;1KB;1MB;1GB;1CAL;1KCAL;1PF;1NF;1mbF;2G;1MG;1KG;1HZ;1KHZ;1MHZ;1GHZ;1THZ;1mbL;1ML;1DL
  1KL;1FM;1NM;1mbM;1MM;1CM;1KM;1MMsu;1CMsu;1Msu;1KMsu;1MM CUBED;1CM/1;1M/1;1KM/1;1MovS;4su;1ap;1KPA;1MPA;1GPA;1RAD;2ovS;4su
  1PS;1NS;1mbS;1MS;1PV;1NV;1mbV;1MV;1KV;1MV MEGA;1PW;1NW;1mbW;1MW;1KW;1MW MEGA;1K OHM;1M/1;1AM;1BQ;1CC;1CD;1CovKG;1CO;1DB;1GY
  1ah;1HP;1ib;1KK;1KMca;1KT;1LM;1LN;1LOG;1LX;1MBsm;1MIL;1MOL;1PH;1PM;1PPM;1PR;1SR;1SV;1WB;1VovM;1A/2;ieTELEGRAPHsyrfDAYon;5tw
  5th;5fu;5fv;5sx;5se;5ei;5ni;5te;5ev;5wl;5tx;5uf;5fc;5xs;5vn;5gt;5nq;5tn;5TWENTY-ONE;5TWENTY-TWO;5TWENTY-THREE;5TWENTY-FOUR
  5TWENTY-FIVE;5TWENTY-SIX;5TWENTY-SEVEN;5TWENTY-EIGHT;5TWENTY-NINE;5ty;5THIRTY-ONE;sqGAL"),
  (0x4DC0, "HEXAGRAMrftgCREATIVE HEAVEN;3RECEPTIVEek;2DIFFICULTY ATtgBEGINNING;2YOUTHFUL FOLLY;2WAITING;2CONFLICT;2tgARMY
  2HOLDING TOGETHER;2smTAMING;2TREADING;2PEACE;2STANDSTILL;2FELLOWSHIP;2GREAT POSSESSION;2MODESTY;2ENTHUSIASM;2FOLLOWING
  2WORK ONtgDECAYED;2APPROACH;2CONTEMPLATION;2BITINGog;2GRACE;2SPLITTING APART;2RETURN;2INNOCENCE;2GREAT TAMING;2ouxn
  2GREAT PREPONDERANCE;2tgABYSMALwr;3CLINGINGwx;2INFLUENCE;2DURATION;2RETREAT;2GREAT POWER;2PROGRESS;2DARKENINGoftgli
  2tgFAMILY;2OPPOSITION;2OBSTRUCTION;2DELIVERANCE;2DECREASE;2INCREASE;2BREAKTHROUGH;2COMINGotMEET;2GATHERING TOGETHER
  2PUSHING UPWARD;2OPPRESSION;2tgWELL;2REVOLUTION;2tgCAULDRON;3AROUSING THUNDER;3KEEPING STILLmf;2DEVELOPMENT
  2tgMARRYING MAIDEN;2ABUNDANCE;2tgWANDERER;3GENTLE WIND;3JOYOUS LAKE;2DISPERSION;2LIMITATION;2INNER TRUTH;2smPREPONDERANCE
  2AFTER COMPLETION;2BEFORE/1"),
  (0xA000, "YIslIT;2IX;2I;2IP;2IET;2IEX;2IE;2IEP;2AT;2AX;2A;2AP;2UOX;2UO;2UOP;2OT;2OX;2O;2OP;2EX;2E;2WU;2BIT;2BIX;2BI;2BIP
  2BIET;2BIEX;2BIE;2BIEP;2BAT;2BAX;2bc;2BAP;2BUOX;2BUO;2BUOP;2BOT;2bx;2BO;2BOP;2BEX;2BE;2BEP;2BUT;2BUX;2BU;2BUP;2BURX;2BUR
  2BYT;2BYX;2BY;2BYP;2BYRX;2BYR;2PIT;2PIX;2ip;2PIP;2PIEX;2PIE;2PIEP;2PAT;2PAX;2ap;2qm;2PUOX;2PUO;2PUOP;2POT;2POX;2PO;2POP;2PUT
  2PUX;2PU;2PUP;2PURX;2PUR;2PYT;2PYX;2PY;2PYP;2PYRX;2PYR;2BBIT;2BBIX;2BBI;2BBIP;2BBIET;2BBIEX;2BBIE;2BBIEP;2BBAT;2BBAX;2BBA
  2BBAP;2BBUOX;2BBUO;2BBUOP;2BBOT;2BBOX;2BBO;2BBOP;2BBEX;2BBE;2BBEP;2BBUT;2BBUX;2BBU;2BBUP;2BBURX;2BBUR;2BBYT;2BBYX;2BBY;2BBYP
  2NBIT;2NBIX;2NBI;2NBIP;2NBIEX;2NBIE;2NBIEP;2NBAT;2NBAX;2NBA;2NBAP;2NBOT;2NBOX;2NBO;2NBOP;2NBUT;2NBUX;2NBU;2NBUP;2NBURX;2NBUR
  2NBYT;2NBYX;2NBY;2NBYP;2NBYRX;2NBYR;2HMIT;2HMIX;2HMI;2HMIP;2HMIEX;2HMIE;2HMIEP;2HMAT;2HMAX;2HMA;2HMAP;2HMUOX;2HMUO;2HMUOP
  2HMOT;2HMOX;2HMO;2HMOP;2HMUT;2HMUX;2HMU;2HMUP;2HMURX;2HMUR;2HMYX;2HMY;2HMYP;2HMYRX;2HMYR;2MIT;2MIX;2MI;2MIP;2MIEX;2MIE;2MIEP
  2MAT;2MAX;2am;2MAP;2MUOT;2MUOX;2MUO;2MUOP;2MOT;2MOX;2MO;2MOP;2MEX;2ME;2MUT;2MUX;2mb;2MUP;2MURX;2MUR;2MYT;2MYX;2MY;2MYP;2FIT
  2FIX;2FI;2FIP;2FAT;2FAX;2fb;2FAP;2FOX;2FO;2FOP;2FUT;2FUX;2FU;2FUP;2FURX;2FUR;2FYT;2FYX;2FY;2FYP;2VIT;2VIX;2VI;2VIP;2VIET
  2VIEX;2VIE;2VIEP;2VAT;2VAX;2vb;2VAP;2VOT;2VOX;2VO;2VOP;2VEX;2VEP;2VUT;2VUX;2VU;2VUP;2VURX;2VUR;2VYT;2VYX;2VY;2VYP;2VYRX;2VYR
  2DIT;2DIX;2DI;2DIP;2DIEX;2DIE;2DIEP;2DAT;2DAX;2ad;2DAP;2DUOX;2DUO;2dt;2DOX;2DO;2DOP;2DEX;2DE;2DEP;2DUT;2DUX;2DU;2DUP;2DURX
  2DUR;2TIT;2TIX;2TI;2TIP;2TIEX;2TIE;2TIEP;2TAT;2TAX;2tb;2TAP;2TUOT;2TUOX;2TUO;2TUOP;2TOT;2TOX;2ot;2pt;2TEX;2TE;2TEP;2TUT;2TUX
  2TU;2TUP;2TURX;2TUR;2DDIT;2DDIX;2DDI;2DDIP;2DDIEX;2DDIE;2DDIEP;2DDAT;2DDAX;2db;2DDAP;2DDUOX;2DDUO;2DDUOP;2DDOT;2DDOX;2DDO
  2DDOP;2DDEX;2DDE;2DDEP;2DDUT;2DDUX;2DDU;2DDUP;2DDURX;2DDUR;2NDIT;2NDIX;2NDI;2NDIP;2NDIEX;2NDIE;2NDAT;2NDAX;2NDA;2NDAP;2NDOT
  2NDOX;2NDO;2NDOP;2NDEX;2NDE;2NDEP;2NDUT;2NDUX;2NDU;2NDUP;2NDURX;2NDUR;2HNIT;2HNIX;2HNI;2HNIP;2HNIET;2HNIEX;2HNIE;2HNIEP
  2HNAT;2HNAX;2HNA;2HNAP;2HNUOX;2HNUO;2HNOT;2HNOX;2HNOP;2HNEX;2HNE;2HNEP;2HNUT;2NIT;2NIX;2NI;2NIP;2NIEX;2NIE;2NIEP;2NAX;2na
  2NAP;2NUOX;2NUO;2NUOP;2nb;2NOX;2nj;2NOP;2NEX;2NE;2NEP;2NUT;2NUX;2NU;2NUP;2NURX;2NUR;2HLIT;2HLIX;2HLI;2HLIP;2HLIEX;2HLIE
  2HLIEP;2HLAT;2HLAX;2HLA;2HLAP;2HLUOX;2HLUO;2HLUOP;2HLOX;2HLO;2HLOP;2HLEX;2HLE;2HLEP;2HLUT;2HLUX;2HLU;2HLUP;2HLURX;2HLUR
  2HLYT;2HLYX;2HLY;2HLYP;2HLYRX;2HLYR;2LIT;2LIX;2LI;2LIP;2LIET;2LIEX;2LIE;2LIEP;2LAT;2LAX;2lb;2LAP;2LUOT;2LUOX;2LUO;2LUOP;2LOT
  2LOX;2LO;2LOP;2LEX;2LE;2LEP;2LUT;2LUX;2LU;2LUP;2LURX;2LUR;2LYT;2LYX;2LY;2LYP;2LYRX;2LYR;2GIT;2GIX;2GI;2GIP;2GIET;2GIEX;2GIE
  2GIEP;2GAT;2GAX;2gb;2GAP;2GUOT;2GUOX;2GUO;2GUOP;2GOT;2GOX;2GO;2GOP;2GET;2GEX;2GE;2GEP;2GUT;2GUX;2GU;2GUP;2GURX;2GUR;2KIT
  2KIX;2KI;2KIP;2KIEX;2KIE;2KIEP;2KAT;2KAX;2ka;2KAP;2KUOX;2KUO;2KUOP;2KOT;2KOX;2KO;2KOP;2KET;2KEX;2KE;2KEP;2KUT;2KUX;2KU;2KUP
  2KURX;2kq;2GGIT;2GGIX;2GGI;2GGIEX;2GGIE;2GGIEP;2GGAT;2GGAX;2GGA;2GGAP;2GGUOT;2GGUOX;2GGUO;2GGUOP;2GGOT;2GGOX;2GGO;2GGOP
  2GGET;2GGEX;2GGE;2GGEP;2GGUT;2GGUX;2GGU;2GGUP;2GGURX;2GGUR;2MGIEX;2MGIE;2MGAT;2MGAX;2MGA;2MGAP;2MGUOX;2MGUO;2MGUOP;2MGOT
  2MGOX;2MGO;2MGOP;2MGEX;2MGE;2MGEP;2MGUT;2MGUX;2MGU;2MGUP;2MGURX;2MGUR;2HXIT;2HXIX;2HXI;2HXIP;2HXIET;2HXIEX;2HXIE;2HXIEP
  2HXAT;2HXAX;2HXA;2HXAP;2HXUOT;2HXUOX;2HXUO;2HXUOP;2HXOT;2HXOX;2HXO;2HXOP;2HXEX;2HXE;2HXEP;2NGIEX;2NGIE;2NGIEP;2NGAT;2NGAX
  2ng;2NGAP;2NGUOT;2NGUOX;2NGUO;2NGOT;2NGOX;2NGO;2NGOP;2NGEX;2NGE;2NGEP;2HIT;2HIEX;2HIE;2HAT;2HAX;2ah;2HAP;2HUOT;2HUOX;2HUO
  2HUOP;2HOT;2HOX;2HO;2HOP;2HEX;2hj;2HEP;2WAT;2WAX;2wa;2WAP;2WUOX;2WUO;2WUOP;2WOX;2WO;2WOP;2WEX;2WE;2WEP;2ZIT;2ZIX;2ZI;2ZIP
  2ZIEX;2ZIE;2ZIEP;2ZAT;2ZAX;2za;2ZAP;2ZUOX;2ZUO;2ZUOP;2ZOT;2ZOX;2ZO;2ZOP;2ZEX;2ZE;2ZEP;2ZUT;2ZUX;2ZU;2ZUP;2ZURX;2ZUR;2ZYT
  2ZYX;2ZY;2ZYP;2ZYRX;2ZYR;2CIT;2CIX;2CI;2CIP;2CIET;2CIEX;2CIE;2CIEP;2CAT;2CAX;2cb;2CAP;2CUOX;2CUO;2CUOP;2COT;2COX;2CO;2COP
  2CEX;2CE;2CEP;2CUT;2CUX;2CU;2CUP;2CURX;2CUR;2CYT;2CYX;2CY;2CYP;2CYRX;2CYR;2ZZIT;2ZZIX;2ZZI;2ZZIP;2ZZIET;2ZZIEX;2ZZIE;2ZZIEP
  2ZZAT;2ZZAX;2ZZA;2ZZAP;2ZZOX;2ZZO;2ZZOP;2ZZEX;2ZZE;2ZZEP;2ZZUX;2ZZU;2ZZUP;2ZZURX;2ZZUR;2ZZYT;2ZZYX;2ZZY;2ZZYP;2ZZYRX;2ZZYR
  2NZIT;2NZIX;2NZI;2NZIP;2NZIEX;2NZIE;2NZIEP;2NZAT;2NZAX;2NZA;2NZAP;2NZUOX;2NZUO;2NZOX;2NZOP;2NZEX;2NZE;2NZUX;2NZU;2NZUP
  2NZURX;2NZUR;2NZYT;2NZYX;2NZY;2NZYP;2NZYRX;2NZYR;2SIT;2sx;2SI;2SIP;2SIEX;2SIE;2SIEP;2SAT;2SAX;2as;2SAP;2SUOX;2SUO;2SUOP;2SOT
  2SOX;2SO;2SOP;2SEX;2SE;2SEP;2SUT;2SUX;2SU;2SUP;2SURX;2SUR;2SYT;2SYX;2SY;2SYP;2SYRX;2SYR;2SSIT;2SSIX;2SSI;2SSIP;2SSIEX;2SSIE
  2SSIEP;2SSAT;2SSAX;2sf;2SSAP;2SSOT;2SSOX;2SSO;2SSOP;2SSEX;2SSE;2SSEP;2SSUT;2SSUX;2SSU;2SSUP;2SSYT;2SSYX;2SSY;2SSYP;2SSYRX
  2SSYR;2ZHAT;2ZHAX;2zh;2ZHAP;2ZHUOX;2ZHUO;2ZHUOP;2ZHOT;2ZHOX;2ZHO;2ZHOP;2ZHET;2ZHEX;2ZHE;2ZHEP;2ZHUT;2ZHUX;2ZHU;2ZHUP;2ZHURX
  2ZHUR;2ZHYT;2ZHYX;2ZHY;2ZHYP;2ZHYRX;2ZHYR;2CHAT;2CHAX;2ch;2CHAP;2CHUOT;2CHUOX;2CHUO;2CHUOP;2CHOT;2CHOX;2CHO;2CHOP;2CHET
  2CHEX;2fs;2CHEP;2CHUX;2CHU;2CHUP;2CHURX;2CHUR;2CHYT;2CHYX;2CHY;2CHYP;2CHYRX;2CHYR;2RRAX;2rx;2RRUOX;2RRUO;2RROT;2RROX;2RRO
  2RROP;2RRET;2RREX;2RRE;2RREP;2RRUT;2RRUX;2RRU;2RRUP;2RRURX;2RRUR;2RRYT;2RRYX;2RRY;2RRYP;2RRYRX;2RRYR;2NRAT;2NRAX;2NRA;2NRAP
  2NROX;2NRO;2NROP;2NRET;2NREX;2NRE;2NREP;2NRUT;2NRUX;2NRU;2NRUP;2NRURX;2NRUR;2NRYT;2NRYX;2NRY;2NRYP;2NRYRX;2NRYR;2SHAT;2SHAX
  2sa;2SHAP;2SHUOX;2SHUO;2SHUOP;2SHOT;2SHOX;2SHO;2SHOP;2SHET;2SHEX;2sj;2SHEP;2SHUT;2SHUX;2SHU;2SHUP;2SHURX;2SHUR;2SHYT;2SHYX
  2SHY;2SHYP;2SHYRX;2SHYR;2RAT;2RAX;2ra;2RAP;2RUOX;2RUO;2RUOP;2ROT;2ROX;2RO;2ROP;2REX;2RE;2REP;2RUT;2RUX;2RU;2RUP;2RURX;2RUR
  2RYT;2RYX;2RY;2RYP;2RYRX;2RYR;2JIT;2JIX;2JI;2JIP;2JIET;2JIEX;2JIE;2JIEP;2JUOT;2JUOX;2JUO;2JUOP;2JOT;2JOX;2JO;2JOP;2JUT;2JUX
  2JU;2JUP;2JURX;2JUR;2JYT;2JYX;2JY;2JYP;2JYRX;2JYR;2QIT;2QIX;2QI;2QIP;2QIET;2QIEX;2QIE;2QIEP;2QUOT;2QUOX;2QUO;2QUOP;2QOT;2QOX
  2QO;2QOP;2QUT;2QUX;2QU;2QUP;2QURX;2QUR;2QYT;2QYX;2QY;2QYP;2QYRX;2QYR;2JJIT;2JJIX;2JJI;2JJIP;2JJIET;2JJIEX;2JJIE;2JJIEP
  2JJUOX;2JJUO;2JJUOP;2JJOT;2JJOX;2JJO;2JJOP;2JJUT;2JJUX;2JJU;2JJUP;2JJURX;2JJUR;2JJYT;2JJYX;2JJY;2JJYP;2NJIT;2NJIX;2NJI;2NJIP
  2NJIET;2NJIEX;2NJIE;2NJIEP;2NJUOX;2NJUO;2NJOT;2NJOX;2NJO;2NJOP;2NJUX;2NJU;2NJUP;2NJURX;2NJUR;2NJYT;2NJYX;2NJY;2NJYP;2NJYRX
  2NJYR;2NYIT;2NYIX;2NYI;2NYIP;2NYIET;2NYIEX;2NYIE;2NYIEP;2NYUOX;2NYUO;2NYUOP;2NYOT;2NYOX;2NYO;2NYOP;2NYUT;2NYUX;2NYU;2NYUP
  2XIT;2XIX;2XI;2XIP;2XIET;2XIEX;2XIE;2XIEP;2XUOX;2XUO;2XOT;2XOX;2XO;2XOP;2XYT;2XYX;2XY;2XYP;2XYRX;2XYR;2YIT;2YIX;2YI;2YIP
  2YIET;2YIEX;2YIE;2YIEP;2YUOT;2YUOX;2YUO;2YUOP;2YOT;2YOX;2YO;2YOP;2YUT;2YUX;2yu;2YUP;2YURX;2YUR;2YYT;2YYX;2YY;2YYP;2YYRX;2YYR"),
  (0xA490, "YI RADICAL QOT;2LI;2KIT;2NYIP;2CYP;2SSI;2GGOP;2GEP;2MI;2HXIT;2LYR;2BBUT;2MOP;2YO;2PUT;2HXUO;2TAT;2gb;2ZUP;2CYT
  2DDUR;2BUR;2GGUO;2NYOP;2TU;2OP;2JJUT;2ZOT;2PYT;2HMO;2YIT;2VUR;2SHY;2VEP;2za;2JO;2NZUP;2JJY;2GOT;2JJIE;2WO;2DU;2SHUR;2LIE;2CY
  2CUOP;2CIP;2HXOP;2SHAT;2ZUR;2SHOP;2fs;2ZZIET;2NBIE;2KE"),
  (0xA4D0, "LISUlebc;2ap;2ph;2ad;2tb;2ht;2gb;2ka;2kb;2ja;2cb;2ch;2DZA;2tj;2hx;2am;2na;2lb;2as;2zh;2za;2ng;2ah;2XA;2HHA;2fb;2wa
  2sa;2ya;2gh;2A;2AE;2E;2EU;2I;2O;2U;2UE;2UH;2oj;2ntMYA TI;3naPO;3MYA CYA;4BO;4na;4JEU;1pucm;2flts;VAIslej;2EEN;2HEE;2WEE
  2WEEN;2PEE;2BHEE;2BEE;2MBEE;2KPEE;2MGBEE;2GBEE;2FEE;2VEE;2TEE;2THEE;2DHEE;2DHHEE;2LEE;2REE;2DEE;2NDEE;2SEE;2SHEE;2ZEE;2ZHEE
  2CEE;2JEE;2NJEE;2YEE;2KEE;2NGGEE;2GEE;2MEE;2NEE;2NYEE;2I;2ib;2HI;2HIN;2WI;2WIN;2ip;2BHI;2BI;2MBI;2KPI;2MGBI;2GBI;2FI;2VI;2TI
  2THI;2DHI;2DHHI;2LI;2RI;2DI;2NDI;2SI;2SHI;2ZI;2ZHI;2CI;2JI;2NJI;2YI;2KI;2NGGI;2GI;2MI;2NI;2NYI;2A;2AN;2NGAN;2ah;2HAN;2wa
  2WAN;2ap;2bh;2bc;2MBA;2KPA;2KPAN;2MGBA;2GBA;2fb;2vb;2tb;2ht;2dh;2DHHA;2lb;2ra;2ad;2NDA;2as;2sa;2za;2zh;2cb;2ja;2NJA;2ya;2ka
  2KAN;2NGGA;2gb;2am;2na;2ny;2oo;2OON;2HOO;2WOO;2WOON;2POO;2BHOO;2BOO;2MBOO;2KPOO;2MGBOO;2GBOO;2FOO;2VOO;2TOO;2THOO;2DHOO
  2DHHOO;2LOO;2ROO;2DOO;2NDOO;2SOO;2SHOO;2ZOO;2ZHOO;2COO;2JOO;2NJOO;2YOO;2KOO;2NGGOO;2GOO;2MOO;2NOO;2NYOO;2U;2UN;2HU;2HUN;2WU
  2WUN;2PU;2BHU;2BU;2MBU;2KPU;2MGBU;2GBU;2FU;2VU;2TU;2THU;2DHU;2DHHU;2LU;2RU;2DU;2NDU;2SU;2SHU;2ZU;2ZHU;2CU;2JU;2NJU;2yu;2KU
  2NGGU;2GU;2mb;2NU;2NYU;2O;2ON;2NGON;2HO;2HON;2WO;2WON;2PO;2BHO;2BO;2MBO;2KPO;2MGBO;2GBO;2GBON;2FO;2VO;2ot;2THO;2DHO;2DHHO
  2LO;2RO;2DO;2NDO;2SO;2SHO;2ZO;2ZHO;2CO;2JO;2NJO;2YO;2KO;2NGGO;2GO;2MO;2nj;2NYO;2E;2eb;2NGEN;2hj;2HEN;2WE;2WEN;2pb;2BHE;2BE
  2MBE;2KPE;2KPEN;2MGBE;2GBE;2GBEN;2FE;2VE;2TE;2tg;2DHE;2DHHE;2LE;2RE;2DE;2NDE;2SE;2sj;2ZE;2ZHE;2CE;2JE;2NJE;2YE;2KE;2NGGE
  2NGGEN;2GE;2GEN;2ME;2NE;2NYE;2NG;2LENGTHENER;1cm;1flts;1quma;1slNDOLEfb;3ka;3SOO;1syFEENG;2KEENG;2TING;2NII;2BANG;2FAA;2TAA
  2DANG;2DOONG;2KUNG;2TONG;2DO-O;2JONG;1dize;2on;2tw;2th;2fu;2fv;2sx;2se;2ei;2ni;1slNDOLEam;3DO"),
  (0xA640, "cycaleZEMLYA;1sm/2;1caleDZELO;1sm/2;1calereDZE;1sm/3;1caleio;1sm/2;1caleDJERV;1sm/2;1caleMONOGRAPH UK;1sm/3
  1caleBROADom;1sm/3;1caleneYER;1sm/3;1caleYERUwiwu/1;1sm/5;1calefeYAT;1sm/3;1calereyu;1sm/3;1calefeA;1sm/3;1caleclllYUS;1sm/4
  1caleBLENDED/1;1sm/3;1calefeclll/1;1sm/5;1caleYN;1sm/2;1calereTSE;1sm/3;1calewkDE;1sm/3;1calewkEL;1sm/3;1calewkEM;1sm/3
  1caleMONOCULAR O;1sm/3;1caleBINOCULAR O;1sm/3;1caledoMONOCULAR O;1sm/4;1leMULTIOCULAR O;cocyVZMET;2teMILLIONSsi;2hu/2;2to/2
  SLAVONICai;cocyleUKRAINIAN IE;3I;3YI;3U;3HARDsi;3YERU;3wksi;3om;2KAVYKA;2PAYEROK;cyKAVYKA;1PAYEROK;1caleDWE;1sm/2;1caleDZWE
  1sm/2;1caleZHWE;1sm/2;1caleCCHE;1sm/2;1caleDZZE;1sm/2;1caleTEwimihk;1sm/5;1caleTWE;1sm/2;1caleTSWE;1sm/2;1caleTSSE;1sm/2
  1caleTCHE;1sm/2;1caleHWE;1sm/2;1caleSHWE;1sm/2;1caledoO;1sm/3;1caleczO;1sm/3;molecyHARDsi;3wksi;cocyleEF;3feE;BAMUMleA;2ka
  2U;2KU;2ej;2REE;2TAE;2O;2NYI;2I;2lb;2ap;2RII;2RIEE;2LEEEE;2MEEEE;2TAA;2NDAA;2NJAEM;2M;2SUU;2mb;2SHII;2SI;2SHEUX;2SEUX;2KYEE
  2KET;2NUAE;2NU;2NJUAE;2YOQ;2SHU;2YUQ;2ya;2NSHA;2KEUX;2PEUX;2NJEE;2NTEE;2PUE;2WUE;2PEE;2FEE;2RU;2LU;2MI;2NI;2REUX;2RAE;2KEN
  2NGKWAEN;2NGGA;2ng;2SHO;2PUAE;2FU;2FOM;2wa;2na;2LI;2ip;2LOQ;2KO;2MBEN;2REN;2MEN;2am;2TI;2KI;2MO;2MBAA;2TET;2KPA;2te;2NTUU
  2SAMBA;2FAAMAE;2KOVUU;2KOGHOM;1comaKOQNDON;3TUKWENTIS;1NJAEMLI;1flts;1oc;1cm;1em;1quma"),
  (0xA700, "moleCHINESEntYIN PING;4yb/1;4YIN SHANG;4yb/1;4YIN QU;4ybQU;4YIN RU;4ybRU;2EXTRA-HIGHdentba;2hi/3;2MID/3;2lw/3
  2EXTRA-LOW/3;2EXTRA-HIGHdeLEFT-STEM/2;2hi/4;2MID/4;2lw/4;2EXTRA-LOW/4;2EXTRA-HIGH/3;2hi/3;2MID/3;2lw/3;2EXTRA-LOW/3;2dtveba
  3lq;3hoba;2lorirrnl;2rduaar;3dnar;3exma;3iv/2;2lw/3;2STRESSanhint;4lwnt;atcaleEGYPTOLOGICALal;1sm/3;1caleEGYPTOLOGICALaw
  1sm/3;1caleHENG;1sm/2;1caleTZ;1sm/2;1caleTRESILLO;1sm/2;1caleCUATRILLO;1sm/2;1caleCUATRILLOwicm;1sm/4;1lesmcaF;4S;1caleaf
  1sm/2;1caleAO;1sm/2;1caleaj;1sm/2;1caleAV;1sm/2;1caleAVwihoba;1sm/5;1caleAY;1sm/2;1calereCwidt;1sm/5;1caleKwist;1sm/4
  1caleKwidgst;1sm/5;1caleKwistan/2;1sm/7;1caleBROKEN L;1sm/3;1caleLwihist;1sm/5;1caleOwilnstoy;1sm/6;1caleOwipq;1sm/4;1caleoo
  1sm/2;1calePwistogdc;1sm/6;1calePwiFLOURISH;1sm/4;1calePwiSQUIRRELtc;1sm/5;1caleQwistogdc;1sm/6;1caleQwidgst;1sm/5
  1caleR ROTUNDA;1sm/3;1caleRUM/1;1sm/3;1caleVwidgst;1sm/5;1caleVY;1sm/2;1caleVISIGOTHIC Z;1sm/3;1caleTHORNwist;1sm/4
  1caleTHORNwistogdc;1sm/6;1caleVEND;1sm/2;1caleET;1sm/2;1caleIS;1sm/2;1caleCON;1sm/2;moleUS;atsmleDUM;3LUM;3MUM;3NUM;3RUM
  1lesmca/1;1smleTUM;3UM;1caleulD;1sm/3;1caleulF;1sm/3;1caleulG;3tu/2;1sm/4;1caletuL;1sm/3;1caleulR;1sm/3;1caleulS;1sm/3
  1caleulT;1sm/3;molelwcrae;2oc;2sheusi;atcaleSALTILLO;1sm/2;1caletuH;1smleLwirthkanBELT;1leSINOLOGICALdt;1caleNwidc;1sm/4
  1caleCwiba;1sm/4;5fkhk;3H/3;1caleBwiFLOURISH;1sm/4;1caleFwist;1sm/4;1caleVOLAPUK AE;1sm/3;1caleVOLAPUKoj;1sm/3
  1caleVOLAPUK UE;1sm/3;1caleGwixgst;1sm/5;1caleK/3;1sm/5;1caleN/3;1sm/5;1caleR/3;1sm/5;1caleS/3;1sm/5;1caleHwihk;3reoeE;3scG
  3LwiBELT;3smcaI;1lesmcaQ;1caletuK;4T;3Jwicw;3cx;3bf;1sm/2;1caleom;1sm/2;1caleUwist;1sm/4;1caleglA;1sm/3;1caleglI;1sm/3
  1caleglU;1sm/3;1caleolPOLISH O;1sm/4;1caleANGLICANA W;1sm/3;1caleCwifkhk;3Swihk;3Zwifkhk;3Dwishstoy;1sm/6;1caleS/4;1sm/6"),
  (0xA7D0, "atcaleclulG;1sm/4"),
  (0xA7D3, "atsmledoTHORN"),
  (0xA7D5, "atsmledoWYNN;1calemiSCOTS S;1sm/4;1caleSIGMOID S;1sm/3"),
  (0xA7F2, "molecaC;3F;3Q;atcalerehaH;1sm/4;1EPIGRAPHIClewdI;molecaHwist;2smlgoj;atlesmcatuM;1EPIGRAPHIClereF;4P;3ivM
  3I LONGA;3irM;SYLOTI NAGRIleA;3I;2siDVISVARA;2leU;3E;3O;2siHASANTA;2leKO;3KHO;3GO;3GHO;2siau;2leCO;3CHO;3JO;3JHO;3TTO;3TTHO
  3DDO;3DDHO;3ot;3THO;3DO;3DHO;3nj;3PO;3PHO;3BO;3BHO;3MO;3RO;3LO;3RRO;3SO;3HO;2vosiA;4I;4U;4E;4oo;2POETRY MARK-1;3MARK-2;+2
  2silrHASANTA"),
  (0xA830, "noINDICfronqa;4ha;3thqr;3onxi;4eg;3thSIXTEENTHS;2qama;2PLACEHOLDERma;2RUPEEma;2QUANTITYma"),
  (0xA840, "PHAGS-PAleka;2kb;2gb;2ng;2cb;2ch;2ja;2ny;2tb;2ht;2ad;2na;2ap;2ph;2bc;2am;2tj;2hx;2DZA;2wa;2zh;2za;2smA;2ya;2ra;2lb
  2sa;2as;2ah;2A;2I;2U;2E;2O;2QA;2XA;2fb;2GGA;2ej;1ublewa;3ya;1letd;2tt;2db;2nf;2lrya;2VOICELESSsa;2vdah;2ASPIRATEDfb;1ublera
  1SUPERFIXED/2;1lecn;1snhvma;1do/2;1maSHAD;2do/1"),
  (0xA880, "SAURASHTRAsiau;2vs;1leA;2af;2I;2ii;2U;2uu;2vcR;3rk;3L;3LL;2E;2ej;2ia;2O;2oo;2aj;2ka;2kb;2gb;2gh;2ng;2cb;2ch;2ja
  2jh;2ny;2td;2tt;2db;2dd;2nf;2tb;2ht;2ad;2dh;2na;2ap;2ph;2bc;2bh;2am;2ya;2ra;2lb;2vb;2sa;2sf;2as;2ah;2lk;1ctsiHAARU;1vosiaf
  3I;3ii;3U;3uu;3vcR;4rk;4L;4LL;3E;3ej;3ia;3O;3oo;3aj;1sivi;2cn"),
  (0xA8CE, "SAURASHTRAnd;1dond;1dize;2on;2tw;2th;2fu;2fv;2sx;2se;2ei;2ni"),
  (0xA8E0, "coDEVANAGARIdize;3on;3tw;3th;3fu;3fv;3sx;3se;3ei;3ni;2leA;3U;3ka;3na;3ap;3ra;3VI;2sivg;DEVANAGARIsiSPACINGcn;2cnvi
  2do/2;2cntw;3th;3vg;2PUSHPIKA;1GAPfz;1vq;1HEADSTROKE;1sihz;1JAIN OM;1leAY;1vosiAY;KAYAH LIdize;3on;3tw;3th;3fu;3fv;3sx;3se
  3ei;3ni;2leka;3kb;3gb;3ng;3as;3sa;3za;3ny;3tb;3HTA;3na;3ap;3ph;3am;3ad;3bc;3ra;3ya;3lb;3wa;3ht;3ah;3vb;3cb;3A;3oj;3I;3oo
  2voUE;3E;3U;3ej;3O;2ntPLOPHU;3CALYA;4PLOPHU;2siCWI;3SHYA;REJANGleka;2gb;2ng;2tb;2ad;2na;2ap;2bc;2am;2cb;2ja;2ny;2as;2ra;2lb
  2ya;2wa;2ah;2MBA;2NGGA;2NDA;2NYJA;2A;1vosiI;3U;3E;3ia;3O;3aj;3EU;3EA;1ctsiNG;3N;3R;3H;1vi"),
  (0xA95F, "REJANGesma;uhCHOSEONG TIKEUT-MIEUM;2TIKEUT-PIEUP;2TIKEUT-SIOS;2TIKEUT-CIEUC;2yl;2RIEUL-SSANGKIYEOK;2RIEUL-TIKEUT
  2RIEUL-SSANGTIKEUT;2xb;2xc;2RIEUL-SSANGPIEUP;2RIEUL-KAPYEOUNPIEUP;2RIEUL-SIOS;2RIEUL-CIEUC;2RIEUL-KHIEUKH;2MIEUM-KIYEOK
  2MIEUM-TIKEUT;2MIEUM-SIOS;2PIEUP-SIOS-THIEUTH;2PIEUP-KHIEUKH;2PIEUP-HIEUH;2SSANGSIOS-PIEUP;2IEUNG-RIEUL;2IEUNG-HIEUH
  2SSANGCIEUC-HIEUH;2SSANGTHIEUTH;2PHIEUPH-HIEUH;2HIEUH-SIOS;2SSANGYEORINHIEUH"),
  (0xA980, "JAVANESEsiPANYANGGA;2CECAK;2LAYAR;2WIGNYAN;1leA;2I KAWI;2I;2ii;2U;2apCEREK;2ngLELET;4RASWADI;2E;2ia;2O;2ka;3SASAK
  3mx;2gb;3mx;2ng;2cb;3mx;2ja;2nymx;2jamr;2ny;2td;3mr;2db;3mr;2namx;2tb;3mx;2ad;3mr;2na;2ap;3mx;2bc;3mx;2am;2ya;2ra;3AGUNG;2lb
  2wa;2asmx;3mr;2as;2ah;1siCECAK TELU;1vosiTARUNG;3TOLONG;3WULU;4MELIK;3SUKU;4MENDUT;3TALING;3DIRGA MURE;3PEPET;1ctsiKERET
  3PENGKAL;3CAKRA;1PANGKON;1lfRERENGGAN;1ri/1;1PADA ANDAP;2MADYA;2LUHUR;2WINDU;2PANGKAT;2LINGSA;2LUNGSI;2ADEG;3ADEG;2PISELEH
  1tu/2"),
  (0xA9CF, "JAVANESE PANGRANGKEP;1dize;2on;2tw;2th;2fu;2fv;2sx;2se;2ei;2ni"),
  (0xA9DE, "JAVANESE PADA TIRTA TUMETES;2ISEN-ISEN;MYANMARlewqgh;3ch;3jh;3nf;3bh;1siwqSAW;1molewqREDUPLICATION;1lefyLAINGny
  4fb;4gb;4gh;4ja;4jh;4db;4dd;4nf;1fyLAINGdize;4on;4tw;4th;4fu;4fv;4sx;4se;4ei;4ni;1lefyLAINGlk;4ad;4dh;4bc;4bh"),
  (0xAA00, "CHAMleA;2I;2U;2E;2ia;2O;2ka;2kb;2gb;2gh;2NGUE;2ng;2ch;2CHHA;2ja;2jh;2NHUE;2NHA;2NHJA;2tb;2ht;2ad;2dh;2NUE;2na;2db
  2ap;2PPA;2ph;2bc;2bh;2MUE;2am;2BBA;2ya;2ra;2lb;2vb;2sf;2as;2ah;1vosiaf;3I;3ii;3EI;3U;3oj;3O;3ia;3aj;3UE;1ctsiya;3ra;3lb;3wa"),
  (0xAA40, "CHAMlefiK;3G;3NG;1ctsi/2;1lefiCH;3T;3N;3P;3Y;3R;3L;3SS;1ctsifiM;4H"),
  (0xAA50, "CHAMdize;2on;2tw;2th;2fu;2fv;2sx;2se;2ei;2ni"),
  (0xAA5C, "CHAMpuSPIRAL;2nd;2dond;2tpnd;MYANMARleKHAMTIgb;3cb;3ch;3ja;3jh;3ny;3td;3tt;3db;3dd;3dh;3na;3as;3ah;3HHA;3fb
  1moleKHAMTI REDUPLICATION;1leKHAMTI XA;3za;3ra;1LOGOGRAM KHAMTI OAY;3QN;3HM;1syAITONex;3on;3tw;1leAITONra;1siPAOvunt
  2fyLAINGbp;4bq;1leSHWE PALAUNGch;4sa;fyVIETlelwKO;3hiKO;3lwKHO;3hi/1;3lwKHHO;3hi/1;3lwGO;3hiGO;3lwNGO;3hi/1;3lwCO;3hiCO
  3lwCHO;3hi/1;3lwSO;3hiSO;3lwNYO;3hi/1;3lwDO;3hiDO;3lwot;3hiot;3lwTHO;3hi/1;3lwnj;3hinj;3lwBO;3hiBO;3lwPO;3hiPO;3lwPHO;3hi/1
  3lwFO;3hiFO;3lwMO;3hiMO;3lwYO;3hiYO;3lwRO;3hiRO;3lwLO;3hiLO;3lwVO;3hiVO;3lwHO;3hiHO;3lwO;3hiO;2MAI KANG;2voaf;3I;3UE;3U;3E
  3O;2MAI KHIT;2voIA;3UEA;3UA;3AUE;3AY;3AN;3AM;2ntMAI EK;4NUENG;4THO;4SONG"),
  (0xAADB, "fyVIETsyKON;3NUENG;3SAM;3HO HOI;3KOI KOI;MEETEI MAYEKleE;3O;3ch;3ny;3td;3tt;3db;3dd;3nf;3sa;3sf;2vosiii;4uu;4AAI
  4aj;4AAU;2CHEIKHAN;2AHANG KHUDAM;2ANJI;2slREPETITIONma;2wo/2;2vosivs;2vi"),
  (0xAB01, "etslTTHU;2TTHI;2TTHAA;2TTHEE;2TTHE;2TTHO"),
  (0xAB09, "etslDDHU;2DDHI;2DDHAA;2DDHEE;2DDHE;2DDHO"),
  (0xAB11, "etslDZU;2DZI;2DZAA;2DZEE;2DZE;2DZO"),
  (0xAB20, "etslCCHHA;2CCHHU;2CCHHI;2CCHHAA;2CCHHEE;2CCHHE;2CCHHO"),
  (0xAB28, "etslBBA;2BBU;2BBI;2BBAA;2BBEE;2BBE;2BBO"),
  (0xAB30, "atsmlejylh;3A REVERSED-SCHWA;3BLACKLETTER E;3jyE;3EwiFLOURISH;3LENIS F;3scGwicw;3LwiivLAZY S;5domitl;5mirn;3Mwicw
  3N/2;3ENG/2;3BLACKLETTER O;5wist;3oe/3;3ivoj;3tuojwist;6host;4O OPEN-O;6wist;3STIRRUP R;1lesmcaRwirijx;1smleR WITHOUT HANDLE
  3doR;3Rwicw;3do/3;3scR;5wirn;3BASELINEjj;3Uwishrijx;4ba/4;3UI;3tuUI;3Uwilfhk;3cx;4wilwrirn;6lfSERIF;3Xwilwrirn;5lnlfjx
  8anlwrirn;8wiSERIF;3Ywishrijx;mobvwiivbv;1lesmHENG;3LwiivLAZY S;5mitl;3Uwilfhk;atsmleSAKHA YAT;3feE;3oeoj;3UO;3ivlh
  gelesmcaom;atsmleDZdrwirthk;3TS/4;3tuRwimitl;molesmtuW;2lftk;2ritk"),
  (0xAB70, "CHEROKEEsmleA;3E;3I;3O;3U;3V;3gb;3ka;3GE;3GI;3GO;3GU;3GV;3ah;3hj;3HI;3HO;3HU;3HV;3lb;3LE;3LI;3LO;3LU;3LV;3am;3ME
  3MI;3MO;3mb;3na;3HNA;3NAH;3NE;3NI;3nj;3NU;3NV;3QUA;3QUE;3QUI;3QUO;3QUU;3QUV;3as;3S;3SE;3SI;3SO;3SU;3SV;3ad;3tb;3DE;3TE;3DI
  3TI;3DO;3DU;3DV;3DLA;3TLA;3TLE;3TLI;3TLO;3TLU;3TLV;3tj;3TSE;3TSI;3TSO;3TSU;3TSV;3wa;3WE;3WI;3WO;3WU;3WV;3ya
  MEETEI MAYEKleKOK;3SAM;3LAI;3MIT;3ap;3na;3CHIL;3TIL;3KHOU;3NGOU;3THOU;3WAI;3yb;3HUK;3UN;3I;3PHAM;3ATIYA;3GOK;3JHAM;3RAI;3bc
  3JIL;3DIL;3GHOU;3DHOU;3BHAM;3KOK LONSUM;3LAI/1;3MIT/1;3ap/1;3na/1;3TIL/1;3NGOU/1;3I/1;2vosiONAP;4INAP;4ANAP;4YENAP;4SOUNAP
  4UNAP;4CHEINAP;4NUNG;2CHEIKHEI;2LUM IYEK;2APUN/1"),
  (0xABF0, "MEETEI MAYEKdize;3on;3tw;3th;3fu;3fv;3sx;3se;3ei;3ni")]

end CallLint.Text.Names
