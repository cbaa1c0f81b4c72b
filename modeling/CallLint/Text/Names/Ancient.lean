/-!
# Names of characters from U+10000 to U+11FFF

Those of ancient and historic scripts.
-/

namespace CallLint.Text.Names

/-- The names of runs of characters, each with the number of its first one. -/
def ancient : List (Nat × String) := [
  (0x10000, "nzBslB008 A;3B038 E;3B028 I;3B061 O;3B010 U;3B001ad;3B045 DE;3B007 DI;3B014 DO;3B051 DU;3B057ja;3B046 JE"),
  (0x1000D, "nzBslB036 JO;3B065 JU;3B077ka;3B044 KE;3B067 KI;3B070 KO;3B081 KU;3B080am;3B013 ME;3B073 MI;3B015 MO;3B023mb
  3B006na;3B024 NE;3B030 NI;3B052nj;3B055 NU;3B003ap;3B072pb;3B039ip;3B011 PO;3B050 PU;3B016 QA;3B078 QE;3B021 QI;3B032 QO"),
  (0x10028, "nzBslB060ra;3B027 RE;3B053 RI;3B002 RO;3B026 RU;3B031as;3B009 SE;3B041 SI;3B012 SO;3B058 SU;3B059tb;3B004 TE
  3B037 TI;3B005ot;3B069 TU;3B054wa;3B075 WE;3B040 WI;3B042 WO"),
  (0x1003C, "nzBslB017za;3B074 ZE"),
  (0x1003F, "nzBslB020 ZO;3B025 A2;3B043 A3;3B085aj;3B071 DWE;3B090 DWO;3B048 NWA;3B029 PU2;3B062 PTE;3B076 RA2;3B033 RA3
  3B068 RO2;3B066 TA2;3B087 TWE;3B091tw"),
  (0x10050, "nzBsyB018;3B019;3B022;3B034;3B047;3B049;3B056;3B063;+1;3B079;3B082;+1;3B086;3B089"),
  (0x10080, "nzByyB100mj;3B102yz;3B104 DEER;3B105 EQUID;3B105F MARE;3B105M STALLION;3B106F EWE;3B106M RAM;3B107F SHE-GOAT
  3B107M HE-GOAT;3B108F SOW;3B108M BOAR;3B109F COW;3B109M BULL;3B120 WHEAT;3B121 BARLEY;3B122 OLIVE;3B123 SPICE;3B125 CYPERUS
  2qcB127 KAPO;3B128 KANAKO;2yyB130 OIL;3B131 WINE;3B132;2qcB133 AREPA;3B135 MERI;2yyB140 BRONZE;3B141 GOLD;3B142;3B145 WOOL
  3B146;3B150;3B151hb;3B152;+2;2qcB156 TURO2;2yyB157;3B158;3B159 CLOTH;3B160;+1;3B162 GARMENT;3B163 ARMOUR;3B164;+8
  3B173 MONTH;3B174;3B176 TREE;3B177;+8;3B189;+1;3B191 HELMET;3B220 FOOTSTOOL;3B225 BATHTUB;3B230 SPEAR;3B231ar;3B232
  3B233 SWORD;3B234;3B236;3B240 WHEELED CHARIOT;3B241/1;3B242 CHARIOT FRAME;3B243 WHEEL;3B245;+1;2qcB247 DIPTE;2yyB248;3B249
  3B251;+2;3B254 DART;3B255;+4;3VESSEL B155;4B200;+19;4B221;+1;4B226;+3;4B250;4B305"),
  (0x10100, "AEGEANwospil;3dt;1kgma"),
  (0x10107, "AEGEANnuon;2tw;2th;2fu;2fv;2sx;2se;2ei;2ni;2te;2tn;2ty;2ft;2ff;2ix;2sv;2ey;2iy;2onhu;2twhu;2thhu;2fuhu;2fvhu
  2sxhu;2sehu;2eihu;2nihu;2onto;2twto;2thto;2futo;2fvto;2sxto;2seto;2eito;2nito;2teto;2tnto;2tyto;2ftto;2ffto;2ixto;2svto
  2eyto;2iyto"),
  (0x10137, "AEGEAN WEIGHT BASE UNIT;2zbSUBUNIT;2xh/1;2fq/1;2FOURTH/1;1DRY MEASUREzb/1;1LIQUID/3;1MEASURExh/1;2fq/1
  geACROPHONIC ATTIConqa;4ha;4DRACHMA;3fv;3ff;3fvhu;4to;3ffto;3fvTALENTS;3te/1;3ff/1;3onhu/1;3fv/2;3onto/1;3fv/2;4STATERS
  3te/1;3ff/1;3onhu/1;3fv/2;3onto/1;3te/2;3ff/2;3teMNAS;2HERAEUMonPLETHRON;2qgon;2HERMIONIANon;2EPIDAUREANtw;2qgtw
  2CYRENAICtwDRACHMAS;2EPIDAUREAN/2;2TROEZENIANfv;3te;4lrfo;2HERMIONIANte;2MESSENIANte;2qgte;3ty;2TROEZENIANff;4lrfo
  2HERMIONIANff;2qgff;3onhu;3thhu;2EPIDAUREANfvhu;2TROEZENIAN/2;2qg/2;2CARYSTIAN/2;2NAXIAN/2;2qgonto;3fvto;2DELPHICfvMNAS
  2STRATIANff/1;1onhasi;4lrfo;1twfxsi;1thqrsi;1YEARsi;1TALENTsi;1DRACHMAsi;1OBOLsi;1twOBOLSsi;1th/2;1fu/2;1fv/2;1METRETESsi
  1KYATHOS BASEsi;1LITRAsi;1OUNKIAsi;1XESTESsi;1ARTABEsi;1AROURAsi;1GRAMMAsi;1TRYBLION BASEsi;1zesi;1onqasi;1SINUSOIDsi
  1INDICTIONsi;NOMISMAsi"),
  (0x10190, "ROMAN SEXTANSsi;1UNCIAsi;1SEMUNCIAsi;1SEXTULAsi;1DIMIDIA/2;1SILIQUAsi;1DENARIUSsi;1QUINARIUSsi;1SESTERTIUSsi
  1DUPONDIUSsi;1ASsi;1CENTURIALsi;ASCIAsy"),
  (0x101A0, "gesyjkrj"),
  (0x101D0, "PHAISTOS DISCsiPEDESTRIAN;3PLUMEDhv;3TATTOOEDhv;3CAPTIVE;3CHILD;3yz;3HELMET;3GAUNTLET;3TIARA;3ar;3BOW;3SHIELD
  3CLUB;3MANACLES;3MATTOCK;3SAW;3LID;3BOOMERANG;3CARPENTRY PLANE;3DOLIUM;3COMB;3SLING;3COLUMN;3BEEHIVE;3SHIP;3hb;3HIDE
  3BULLSjx;3CAT;3RAM;3EAGLE;3DOVE;3TUNNY;3BEE;3PLANE TREE;3VINE;3PAPYRUS;3ROSETTE;3LILY;3OXwu;3FLUTE;3GRATER;3STRAINER;3smAXE
  3WAVY BAND;3coxgst"),
  (0x10280, "LYCIANleA;2E;2B;2BH;2G;2D;2I;2W;2Z;2TH;2J;2K;2Q;2L;2M;2N;2MM;2NN;2U;2P;2KK;2R;2S;2T;2TT;2AN;2eb;2H;2X"),
  (0x102A0, "CARIANleA;2P2;2D;2L;2UUU;2R;2LD;2A2;2Q;2B;2M;2O;2D2;2T;2SH;2SH2;2S;2C-18;2U;2NN;2X;2N;2TT2;2P;2SS;2I;2E;2UUUU;2K
  2K2;2ND;2uu;2G;2G2;2ST;2ST2;2NG;2ii;2C-39;2TT;2UUU2;2rk;2MB;2MB2;+2;2LD2;2E2;2UUU3"),
  (0x102E0, "icEPACTutma;2dion;3tw;3th;3fu;3fv;3sx;3se;3ei;3ni;2nute;3tn;3ty;3ft;3ff;3ix;3sv;3ey;3iy;3onhu;3twhu;3thhu;3fuhu
  3fvhu;3sxhu;3sehu;3eihu;3nihu"),
  (0x10300, "olijleA;3BE;3KE;3DE;3E;3VE;3ZE;3hj;3tg;3I;3ka;3EL;3EM;3eb;3jj;3O;3pb;3sj;3KU;3ER;3ES;3TE;3U;3EKS;3PHE;3KHE;3EF
  3ERS;3fs;3ii;3uu;3ESS;2nxon;3fv;3te;3ff"),
  (0x1032D, "olijleYE;3NORTHERN TSE;3SOUTHERN/1;GOTHICleAHSA;2BAIRKAN;2GIBA;2DAGS;2AIHVUS;2QAIRTHRA;2IUJA;2HAGL;2THIUTH;2EIS
  2KUSMA;2LAGUS;2MANNA;2NAUTHS;2JER;2URUS;2PAIRTHRA;2iy;2RAIDA;2SAUIL;2TEIWS;2WINJA;2FAIHU;2IGGWS;2HWAIR;2OTHAL;2nihu"),
  (0x10350, "olPERMICleAN;3BUR;3GAI;3DOI;3E;3ZHOI;3DZHOI;3ZATA;3DZITA;3I;3KOKE;3LEI;3MENOE;3NENOE;3VOOI;3PEEI;3REI;3SII;3fy;3U
  3CHERY;3SHOOI;3SHCHOOI;3YRY;3YERU;3O;3oo;3EF;3ah;3TSIU;3VER;3YER;3YERI;3YAT;3IE;3yu;3ya;3IA;coolPERMICleAN;4DOI;4ZATA;4NENOE
  4SII"),
  (0x10380, "UGARITICleALPA;2bf;2GAMLA;2kb;2ed;2HO;2WO;2zt;2HOTA;2TET;2YOD;2kf;2hs;2lv;2mw;2DHAL;2nc;2ZU;2SAMKA;2aw;2PU;2SADE
  2QOPA;2RASHA;2THANNA;2gc;2ot;2I;2U;2SSU"),
  (0x1039F, "UGARITICwoxj;olPERSIANsiA;3I;3U;3ka;3KU;3gb;3GU;3XA;3cb;3ja;3JI;3tb;3TU;3ad;3DI;3DU;3ht;3ap;3bc;3fb;3na;3NU;3am
  3MI;3mb;3ya;3vb;3VI;3ra;3RU;3lb;3as;3za;3sa;3sf;3ah"),
  (0x103C8, "olPERSIANsiAURAMAZDAA;3AURAMAZDAA-2;3AURAMAZDAAHA;3XSHAAYATHIYA;3DAHYAAUSH;3DAHYAAUSH-2;3BAGA;3BUUMISH;2woxj
  2nuon;3tw;3te;3tn;3hu"),
  (0x10400, "DESERETcalelnI;4E;4A;4AH;4O;4oo;3shI;4E;4A;4AH;4O;4oo;3AY;3OW;3WU;3YEE;3H;3PEE;3BEE;3TEE;3DEE;3CHEE;3JEE;3KAY
  3GAY;3EF;3VEE;3ETH;3THEE;3ES;3ZEE;3jj;3ZHEE;3ER;3EL;3EM;3eb;3ENG;3OI;3EW;1smlelnI;4E;4A;4AH;4O;4oo;3shI;4E;4A;4AH;4O;4oo;3AY
  3OW;3WU;3YEE;3H;3PEE;3BEE;3TEE;3DEE;3CHEE;3JEE;3KAY;3GAY;3EF;3VEE;3ETH;3THEE;3ES;3ZEE;3jj;3ZHEE;3ER;3EL;3EM;3eb;3ENG;3OI;3EW
  SHAVIANlePEEP;2TOT;2KICK;2FEE;2THIGH;2SO;2SURE;2CHURCH;2YEA;2HUNG;2BIB;2DEAD;2GAG;2VOW;2THEY;2ZOO;2MEASURE;2JUDGE;2WOE
  2HA-HA;2LOLL;2MIME;2IF;2EGG;2aq;2ADO;2ON;2WOOL;2OUT;2AH;2ROAR;2nc;2EAT;2AGE;2ICE;2ua;2OAK;2OOZE;2OIL;2AWE;2ARE;2ob;2AIR;2ERR
  2ARRAY;2EAR;2IAN;2YEW;OSMANYAleal;2bc;2tb;2ja;2XA;2kb;2DEEL;2ra;2as;2SHIIN;2dh;2CAYN;2gb;2fb;2QAAF;2KAAF;2LAAN;2MIIN;2NUUN
  2ww;2ah;2ya;2A;2E;2I;2O;2U;2af;2ej;2oo"),
  (0x104A0, "OSMANYAdize;2on;2tw;2th;2fu;2fv;2sx;2se;2ei;2ni"),
  (0x104B0, "OSAGEcaleA;3ia;3aw;3AH;3BRA;3ch;3EHCHA;3E;3EIN;3ah;3HYA;3I;3ka;3EHKA;3KYA;3lb;3am;3na;3O;3OIN;3ap;3EHPA;3as;3sa
  3tb;3EHTA;3tj;3EHTSA;3hx;3dh;3U;3wa;3kb;3gh;3za;3zh"),
  (0x104D8, "OSAGEsmleA;3ia;3aw;3AH;3BRA;3ch;3EHCHA;3E;3EIN;3ah;3HYA;3I;3ka;3EHKA;3KYA;3lb;3am;3na;3O;3OIN;3ap;3EHPA;3as;3sa
  3tb;3EHTA;3tj;3EHTSA;3hx;3dh;3U;3wa;3kb;3gh;3za;3zh"),
  (0x10500, "ELBASANleA;2BE;2CE;2fs;2DE;2NDE;2DHE;2EI;2E;2FE;2GE;2GJE;2hj;2I;2JE;2KE;2LE;2LLE;2ME;2NE;2na;2NJE;2O;2pb;2QE;2RE
  2RRE;2SE;2sj;2TE;2tg;2U;2VE;2XE;2Y;2ZE;2ZHE;2GHE;2GHAMMA;2KHE"),
  (0x10530, "CAUCASIAN ALBANIANleALT;3BET;3GIM;3DAT;3EB;3ZARL;3EYN;3ZHIL;3TAS;3ch;3YOWD;3zh;3IRB;3sa;3LAN;3INYA;3XEYN;3DYAN
  3CAR;3JHOX;3KAR;3LYIT;3HEYT;3QAY;3AOR;3CHOY;3cx;3CYAY;3MAQ;3QAR;3NOWC;3DZYAY;3SHAK;3JAYN;3ON;3TYAY;3FAM;3DZAY;3CHAT;3PEN
  3GHEYS;3RAT;3SEYK;3VEYZ;3TIWR;3SHOY;3IWN;3CYAW;3CAYN;3YAYD;3PIWR;3KIW"),
  (0x1056F, "CAUCASIAN ALBANIAN CITATIONma;vhcaleA;3BBE;3BE;3CE;3fs;3DE;3DHE;3EI;3E;3FE;3gb"),
  (0x1057C, "vhcaleah;3HHA;3I;3IJE;3JE;3ka;3lb;3lk;3ME;3NE;3NJE;3O;3pb;3QA;3RE"),
  (0x1058C, "vhcaleSE;3sj;3TE;3tg;3U;3VE;3XE"),
  (0x10594, "vhcaleY;3ZE"),
  (0x10597, "vhsmleA;3BBE;3BE;3CE;3fs;3DE;3DHE;3EI;3E;3FE;3gb"),
  (0x105A3, "vhsmleah;3HHA;3I;3IJE;3JE;3ka;3lb;3lk;3ME;3NE;3NJE;3O;3pb;3QA;3RE"),
  (0x105B3, "vhsmleSE;3sj;3TE;3tg;3U;3VE;3XE"),
  (0x105BB, "vhsmleY;3ZE"),
  (0x10600, "nzAsiAB001;3AB002;+9;3AB013;3AB016;+1;3AB020;+1;3AB021F;3AB021M;3AB022;3AB022F;3AB022M;3AB023;3AB023M;3AB024
  3AB026;+2;3A028B;3AB029;+2;3AB034;3AB037;+4;3AB044;+7;3AB053;+8;3AB065;+2;3AB069;+1;3AB073;+1;3AB076;+6;3AB085;+2;3A100-102
  3AB118;3AB120;3A120B;3AB122;+1;3AB131A;3AB131B;3A131C;3AB164;3AB171;3AB180;3AB188;3AB191;3A301;+7;3A309A;3A309B;3A309C
  3A310;+2;3A313A;3A313B;3A313C;3A314;+57;3A400-VAS;3A401-VAS;3A402-VAS;3A403-VAS;3A404-VAS;3A405-VAS;3A406-VAS;3A407-VAS
  3A408-VAS;3A409-VAS;3A410-VAS;3A411-VAS;3A412-VAS;3A413-VAS;3A414-VAS;3A415-VAS;3A416-VAS;3A417-VAS;3A418-VAS;3A501;+5
  3A508;+5;3A515;+1;3A520;+1;3A523;+9;3A534;+8;3A545;3A547;+10;3A559;3A563;+3;3A568;+21;3A591;+1;3A594;+2;3A598;3A600;+4
  3A606;3A608;+16;3A626;+3;3A634;3A637;+1;3A640;3A642;+4;3A648;+1;3A651;+13"),
  (0x10740, "nzAsiA701 A;3A702 B;3A703 D;3A704 E;3A705 F;3A706 H;3A707 J;3A708 K;3A709 L;3A709-2 L2;3A709-3 L3;3A709-4 L4
  3A709-6 L6;3A710 W;3A711 X;3A712 Y;3A713om;3A714 ABB;3A715 BB;3A717 DD;3A726 EYYY;3A732 JE"),
  (0x10760, "nzAsiA800;3A801;+6"),
  (0x10780, "molesmcaaf;2ssruoc;3ha/2;2smAE;3caB;3Bwihk"),
  (0x10787, "molesmDZdr;5wirthk;6ur;3DEZHdr;3Dwitc;5hk;6antc;3reE;3clreoeE;3FENGdr;3RAMShb;3caG;3Gwihk;3ca/3;3Hwist;3caH
  3HENGwihk;3dlJwistanhk;3LSdr;3LZdr;3LwiBELT;3ca/3;3Lwirthkan/1;3LEZH;4wirthk;3tuY;5wiBELT;3Owist;3caoj;3clom;3Q;3tuRwilnjx
  8anrthk;3Rwitc;5kv;3caR;3TCdrwiur;3TSdr;5wirthk;3TESHdr;3Twirthk;3Vwirihk"),
  (0x107B2, "molesmcaY;2gltswist;2re/4;2BILABIAL CLICK;2DENTAL/1;2LATERAL/1;2ALVEOLAR/1;2rtCLICKwirthk;2smSwiur"),
  (0x10800, "yqslA;2E;2I;2O;2U;2ja"),
  (0x10808, "yqslJO"),
  (0x1080A, "yqslka;2KE;2KI;2KO;2KU;2lb;2LE;2LI;2LO;2LU;2am;2ME;2MI;2MO;2mb;2na;2NE;2NI;2nj;2NU;2ap;2pb;2ip;2PO;2PU;2ra;2RE
  2RI;2RO;2RU;2as;2SE;2SI;2SO;2SU;2tb;2TE;2TI;2ot;2TU;2wa;2WE;2WI;2WO"),
  (0x10837, "yqslXA;2XE"),
  (0x1083C, "yqslza"),
  (0x1083F, "yqslZO;IMPERIAL ARAMAIClehp;3bj;3gf;3dq;3hj;3ww;3zy;3hw;3TETH;3yo;3kc;3lj;3mw;3nc;3sk;3yd;3pb;3ax;3QOPH;3jf;3hs
  3TAW"),
  (0x10857, "IMPERIAL ARAMAICessi;2nuon;3tw;3th;3te;3tn;3onhu;4to;3teto;PALMYRENElehp;2bj;2gf;2dq;2hj;2ww;2zy;2hw;2TETH;2yo
  2kc;2lj;2mw;2finc;2nc;2sk;2yd;2pb;2ax;2QOPH;2jf;2hs;2TAW;1lpFLEURON;1rh/1;1nuon;2tw;2th;2fu;2fv;2te;2tn;NABATAEANlefihp;2hp
  2fibj;2bj;2gf;2dq;2fihj;2hj;2ww;2zy;2hw;2TETH;2fiyo;2yo;2fikc;2kc;2filj;2lj;2fimw;2mw;2finc;2nc;2sk;2yd;2pb;2ax;2QOPH;2jf
  2fihs;2hs;2TAW"),
  (0x108A7, "NABATAEANnuon;2tw;2th;2fu;1CRUCIFORM/2;1nufv;2te;2tn;2onhu"),
  (0x108E0, "HATRANlehp;2bj;2gf;2DALETH-RESH;2hj;2ww;2ZAYN;2hw;2TETH;2yo;2kc;2lj;2mw;2nc;2sk;2AYN;2pb;2ax;2QOPH"),
  (0x108F4, "HATRANlehs;2TAW"),
  (0x108FB, "HATRANnuon;2fv;2te;2tn;2onhu;PHOENICIANleALF;2BET;2GAML;2DELT;2hj;2WAU;2ZAI;2HET;2TET;2YOD;2kf;2LAMD;2mw;2nc
  2SEMK;2aw;2pb;2SADE;2QOF;2ROSH;2hs;2jk;1nuon;2te;2tn;2onhu;2tw;2th"),
  (0x1091F, "PHOENICIANwosp;LYDIANleA;2B;2G;2D;2E;2V;2I;2Y;2K;2L;2M;2N;2O;2R;2SS;2T;2U;2F;2Q;2S;2TT;2AN;2eb;2LY;2NN;2C"),
  (0x1093F, "LYDIANruma"),
  (0x10980, "MEROITIC HIEROGLYPHICleA;3E;3I;3O;3ya;3wa;3bc;3BA-2;3ap;3am;3na;3NA-2;3NE;3NE-2;3ra;3RA-2;3lb;3kb;3HHA;3as;3SA-2
  3SE;3ka;3QA;3tb;3TA-2;3TE;3TE-2;3ot;3ad;2syVIDJ;3VIDJ-2;1CURSIVEleA;3E;3I;3O;3ya;3wa;3bc;3ap;3am;3na;3NE;3ra;3lb;3kb;3HHA
  3as;3iras;3SE;3ka;3QA;3tb;3TE;3ot;3ad"),
  (0x109BC, "MEROITIC CURSIVEfrevTWELFTHS;3onha;2LOGOGRAM RMT;3IMN;2nuon;3tw;3th;3fu;3fv;3sx;3se;3ei;3ni;3te;3tn;3ty;3ft;3ff
  3ix;3sv"),
  (0x109D2, "MEROITIC CURSIVEnuonhu;3twhu;3thhu;3fuhu;3fvhu;3sxhu;3sehu;3eihu;3nihu;3onto;3twto;3thto;3futo;3fvto;3sxto;3seto
  3eito;3nito;3teto;3tnto;3tyto;3ftto;3ffto;3ixto;3svto;3eyto;3iyto;3onhuto;3tw/2;3th/2;3fu/2;3fv/2;3sx/2;3se/2;3ei/2;3ni/2
  2fronTWELFTH;3twTWELFTHS;3th/1;3fu/1;3fv/1;3sx/1;3se/1;3ei/1;3ni/1;3te/1;krleA;1vosiI;3U;3vcR"),
  (0x10A05, "krvosiE;3O"),
  (0x10A0C, "krvolxma;1sidornbe;2au;2vs;1leka;2kb;2gb;2gh"),
  (0x10A15, "krlecb;2ch;2ja"),
  (0x10A19, "krleny;2td;2tt;2db;2dd;2nf;2tb;2ht;2ad;2dh;2na;2ap;2ph;2bc;2bh;2am;2ya;2ra;2lb;2vb;2sa;2sf;2as;2za;2ah;2KKA
  2TTTHA;2TTTA;2VHA"),
  (0x10A38, "krsibaab;2CAUDA;2dtbe"),
  (0x10A3F, "krvi;1dion;2tw;2th;2fu;1nute;2tn;2onhu;3to;1fronha"),
  (0x10A50, "krpudt;2smci;2ci;2qhba;2MANGALAM;2LOTUS;2nd;2dond;2LINES"),
  (0x10A60, "olsoARABIANlehj;4lj;4hw;4mw;4QOPH;4ww;4hs;4jf;4bj;4TAW;4SAT;4kc;4nc;4KHETH;4ax;4sk;4FE;4al;4AYN;4DHADHE;4gf;4dq
  4GHAYN;4TETH;4ZAYN;4DHALETH;4yo;4THAW;4THETH;3nuon;4ff;3NUMERICiq;1noARABIANlehf;4lm;4hh;4me;4qf;4ww;4ES-2;4rp;4bm;4ez;4ES-1
  4kf;4nn;4kh;4ay;4ES-3;4fh;4al;4aw;4dx;4GEEM;4DAL;4gc;4tq;4zi;4THAL;4ye;4kw;4ZAH;3nuon;4te;4tn"),
  (0x10AC0, "MANICHAEANlehp;2bj;2BHETH;2gf;2GHIMEL;2dq;2hj;2ww;1siUD;1lezy;2ZHAYIN;2JAYIN;2JHAYIN;2hw;2TETH;2yo;2kc;2XAPH
  2KHAPH;2lj;2DHAMEDH;2THAMEDH;2mw;2nc;2sk;2yd;2AAYIN;2pb;2FE;2ax;2QOPH;2XOPH;2QHOPH;2jf;2hs;2SSHIN;2TAW;1avmaab;3be"),
  (0x10AEB, "MANICHAEANnuon;2fv;2te;2tn;2onhu;1purs;2FLEURON;2dodtWITHINdt;2dt/2;2dt;2twod;2ilfz"),
  (0x10B00, "AVESTANleA;2af;2AO;2AAO;2AN;2AAN;2AE;2AEE;2E;2ej;2O;2oo;2I;2ii;2U;2uu;2KE;2XE;2XYE;2XVE;2GE;2GGE;2GHE;2CE;2JE;2TE
  2tg;2DE;2DHE;2TTE;2pb;2FE;2BE;2BHE;2NGE;2NGYE;2NGVE;2NE;2NYE;2NNE;2ME;2HME;2YYE;2YE;2VE;2RE;2LE;2SE;2ZE;2sj;2ZHE;2SHYE;2SSHE
  2hj"),
  (0x10B39, "AVESTANavma;TINYtwodovondtpu;sm/6;la/6;1ondtovtwodpu;1twRINGSovonrnpu;1onrnovtwRINGSpu;INSCRIPTIONAL PARTHIANlehp
  3bj;3gf;3dq;3hj;3ww;3zy;3hw;3TETH;3yo;3kc;3lj;3mw;3nc;3sk;3yd;3pb;3ax;3QOPH;3jf;3hs;3TAW"),
  (0x10B58, "INSCRIPTIONAL PARTHIANnuon;3tw;3th;3fu;3te;3tn;3onhu;4to;1PAHLAVIlehp;3bj;3gf;3dq;3hj;3WAW-AYIN-RESH;3zy;3hw
  3TETH;3yo;3kc;3lj;3MEM-QOPH;3nc;3sk;3pb;3ax;3hs;3TAW"),
  (0x10B78, "INSCRIPTIONAL PAHLAVInuon;3tw;3th;3fu;3te;3tn;3onhu;4to;PSALTER PAHLAVIlehp;3bj;3gf;3dq;3hj;3WAW-AYIN-RESH;3zy
  3hw;3yo;3kc;3lj;3MEM-QOPH;3nc;3sk;3pb;3ax;3hs;3TAW"),
  (0x10B99, "PSALTER PAHLAVIesma;2tu/2;2fuodwirc;5dt"),
  (0x10BA9, "PSALTER PAHLAVInuon;3tw;3th;3fu;3te;3tn;3onhu"),
  (0x10C00, "olTURKICleokA;3ynA;4AE;3okI;3ynI;4E;3okO;4oj;3ynoj;3okAB;3ynAB;3okAEB;3yn/1;3okAG;3ynAG;3okAEG;3yn/1;3okAD;3ynAD
  3okAED;4EZ;3ynEZ;3okAY;3ynAY;3okAEY;3yn/1;3okAEK;3yn/1;3okOEK;3yn/1;3okAL;3ynAL;3okAEL;4ELT;4EM;4AN;4AEN;3yn/1;3okENT;3yn/1
  3okENC;3yn/1;3okENY;3yn/1;4ANG;3okENG;3ynAENG;3okEP;4OP;4IC;4EC;3ynEC;3okAQ;3ynAQ;3okIQ;3ynIQ;3okOQ;3ynOQ;3okAR;3ynAR;3okAER
  4AS;4AES;4aq;3ynaq;3okjj;3ynjj;3okAT;3ynAT;3okAET;3yn/1;3okOT;4BASH"),
  (0x10C80, "olHUNGARIANcaleA;4af;4EB;4AMB;4EC;4ENC;4ECS;4ED;4an;4E;4CLOSE E;4ej;4EF;4EG;4EGY;4EH;4I;4ii;4EJ;4EK;4AK;4UNK;4EL
  4ELY;4EM;4eb;4ENY;4O;4oo;4NIKOLSBURGoj;4RUDIMENTAoj;4OEE;4EP;4EMP;4ER;4shER;4ES;4ESZ;4ET;4ENT;4ETY;4ECH;4U;4uu
  4NIKOLSBURG UE;4RUDIMENTA/1;4EV;4EZ;4EZS;4ENT-SHAPEDsi;4US"),
  (0x10CC0, "olHUNGARIANsmleA;4af;4EB;4AMB;4EC;4ENC;4ECS;4ED;4an;4E;4CLOSE E;4ej;4EF;4EG;4EGY;4EH;4I;4ii;4EJ;4EK;4AK;4UNK;4EL
  4ELY;4EM;4eb;4ENY;4O;4oo;4NIKOLSBURGoj;4RUDIMENTAoj;4OEE;4EP;4EMP;4ER;4shER;4ES;4ESZ;4ET;4ENT;4ETY;4ECH;4U;4uu
  4NIKOLSBURG UE;4RUDIMENTA/1;4EV;4EZ;4EZS;4ENT-SHAPEDsi;4US"),
  (0x10CFA, "olHUNGARIANnuon;3fv;3te;3ff;3onhu;4to;HANIFI ROHINGYAleA;3bc;3ap;3tb;3td;3ja;3cb;3ah;3kb;3fb;3ad;3db;3ra;3rx;3za
  3as;3sa;3ka;3gb;3lb;3am;3na;3wa;3KINNAwa;3ya;3KINNAya;3ng;3ny;3vb;2voA;3I;3U;3E;3O;2maSAKIN;3naKHONNA;2siHARBAHAY;3TAHALA
  3TANA;3TASSI"),
  (0x10D30, "HANIFI ROHINGYAdize;3on;3tw;3th;3fu;3fv;3sx;3se;3ei;3ni"),
  (0x10E60, "RUMIdion;2tw;2th;2fu;2fv;2sx;2se;2ei;2ni;1nute;2tn;2ty;2ft;2ff;2ix;2sv;2ey;2iy;2onhu;2twhu;2thhu;2fuhu;2fvhu
  2sxhu;2sehu;2eihu;2nihu;1fronha;3qa;3fq;2twfx"),
  (0x10E80, "YEZIDIleELIF;2BE;2pb;2PHE;2tg;2SE;2CIM;2CHIM;2CHHIM;2HHA;2XA;2DAL;2ZAL;2ra;2RHA;2za;2ja;2SIN;2hs;2ay;2dx;2tb;2ZE
  2EYN;2XHEYN;2fb;2vb;3lrfo;2qf;2kf;2KHAF;2GAF;2lm;2MIM;2nc;2UM;2ww;2OW;2EW;2HAY;2YOT;2ET"),
  (0x10EAB, "YEZIDIcohmma;2qwma;1HYPHENATIONma"),
  (0x10EB0, "YEZIDIlelmwidtab;2YOTwicrab"),
  (0x10F00, "olSOGDIANlehp;3fihp;3bj;3fibj;3gf;3hj;3fihj;3ww;3zy;3hw;3yo;3kc;3lj;3mw;3nc;3finc;5wivetc;3sk;3yd;3lryd;3pb;3ax
  3fiax;5wivetc;3RESH-AYIN-DALETH;3hs;3TAW;3fi/1;5wivetc;2nuon;3tw;3th;3fu;3fv;3te;3tn;3ty;3onhu;2fronha;2lgAYIN-DALETH"),
  (0x10F30, "SOGDIANlehp;2bj;2gf;2hj;2ww;2zy;2hw;2yo;2kc;2lj;2mw;2nc;2sk;2yd;2pb;2ax;2RESH-AYIN;2hs;2TAW;2FETH;2LESH;1iwhs
  1codtbe;2twodbe;2dtab;2twodab;2cvab;3be;2hkab;3be;2ln/2;2jfbe;2stbe;1nuon;2te;2tn;2onhu;1putwveBARS;5wiod;2ciwidt
  2twCIRCLESwiod;2haciwidt"),
  (0x10F70, "olUYGHURlehp;3bj;3GIMEL-HETH;3ww;3zy;3fihw;3yo;3kc;3lj;3mw;3nc;3sk;3pb;3ax;3jf;3hs;3TAW;3LESH;2codtab;4be;3twodab
  5be;2puba;3twBARS;4od;3fuod"),
  (0x10FB0, "CHORASMIANlehp;2smhp;2bj;2gf;2dq;2hj;2ww;2CURLEDww;2zy;2hw;2yo;2kc;2lj;2mw;2nc;2sk;2yd;2pb;2jf;2hs;2TAW;1nuon;2tw
  2th;2fu;2te;2tn;2onhu"),
  (0x10FE0, "ELYMAIClehp;2bj;2gf;2dq;2hj;2ww;2zy;2hw;2TETH;2yo;2kc;2lj;2mw;2nc;2sk;2yd;2pb;2ax;2QOPH;2jf;2hs;2TAW
  1lgZAYIN-YODH"),
  (0x11000, "BRAHMIsicn;2au;2vs;2ji;2uy;1leA;2af;2I;2ii;2U;2uu;2vcR;3rk;3L;3LL;2E;2ia;2O;2aj;2ka;2kb;2gb;2gh;2ng;2cb;2ch;2ja
  2jh;2ny;2td;2tt;2db;2dd;2nf;2tb;2ht;2ad;2dh;2na;2ap;2ph;2bc;2bh;2am;2ya;2ra;2lb;2vb;2sa;2sf;2as;2ah;2lk;2olimLLLA;4rx;4NNNA
  1vosiaf;3BHATTIPROLUaf;3I;3ii;3U;3uu;3vcR;4rk;4L;4LL;3E;3ia;3O;3aj;1vi;1nd;1dond;1pudt;2dodt;2il;2qhba;2LOTUS"),
  (0x11052, "BRAHMInuon;2tw;2th;2fu;2fv;2sx;2se;2ei;2ni;2te;2tn;2ty;2ft;2ff;2ix;2sv;2ey;2iy;2onhu;3to;1dize;2on;2tw;2th;2fu
  2fv;2sx;2se;2ei;2ni;1siolimvi;1leolimshE;5O;1vosiolimshE;6O;1leolimlk"),
  (0x1107F, "BRAHMInuJOINER;KAITHIsicn;2au;2vs;1leA;2af;2I;2ii;2U;2uu;2E;2ia;2O;2aj;2ka;2kb;2gb;2gh;2ng;2cb;2ch;2ja;2jh;2ny
  2td;2tt;2db;2DDDHA;2dd;2RHA;2nf;2tb;2ht;2ad;2dh;2na;2ap;2ph;2bc;2bh;2am;2ya;2ra;2lb;2vb;2sa;2sf;2as;2ah;1vosiaf;3I;3ii;3U
  3uu;3E;3ia;3O;3aj;1sivi;2nk;1avsi;1ENUMERATIONsi;1nusi;1esma;1do/2;1nd;1dond;1vosivcR"),
  (0x110CD, "KAITHInusiab"),
  (0x110D0, "SORA SOMPENGleSAH;3tq;3BAH;3CAH;3DAH;3GAH;3MAH;3NGAH;3LAH;3NAH;3VAH;3PAH;3YAH;3RAH;3hh;3KAH;3JAH;3NYAH;3AH;3EEH
  3IH;3UH;3OH;3EH;3MAE"),
  (0x110F0, "SORA SOMPENGdize;3on;3tw;3th;3fu;3fv;3sx;3se;3ei;3ni"),
  (0x11100, "CHAKMAsicn;2au;2vs;1leaf;2I;2U;2E;2KAA;2KHAA;2GAA;2GHAA;2NGAA;2CAA;2CHAA;2JAA;2JHAA;2NYAA;2TTAA;2TTHAA;2DDAA
  2DDHAA;2NNAA;2TAA;2THAA;2DAA;2DHAA;2NAA;2PAA;2PHAA;2BAA;2BHAA;2MAA;2YYAA;2YAA;2RAA;2LAA;2WAA;2SAA;2HAA;1vosiA;3I;3ii;3U;3uu
  3E;3ia;3O;3aj;3OI;1Oma;1ajma;1vi;1MAAYYAA"),
  (0x11136, "CHAKMAdize;2on;2tw;2th;2fu;2fv;2sx;2se;2ei;2ni;1esma;1nd;1dond;1quma;1leLHAA;1vosiaf;3EI;1leVAA"),
  (0x11150, "MAHAJANIleA;2I;2U;2E;2O;2ka;2kb;2gb;2gh;2cb;2ch;2ja;2jh;2ny;2td;2tt;2db;2dd;2nf;2tb;2ht;2ad;2dh;2na;2ap;2ph;2bc
  2bh;2am;2ra;2lb;2vb;2as;2ah;2rx;1sink;1avsi;1esma;1lgSHRI"),
  (0x11180, "SHARADAsicn;2au;2vs;1leA;2af;2I;2ii;2U;2uu;2vcR;3rk;3L;3LL;2E;2ia;2O;2aj;2ka;2kb;2gb;2gh;2ng;2cb;2ch;2ja;2jh;2ny
  2td;2tt;2db;2dd;2nf;2tb;2ht;2ad;2dh;2na;2ap;2ph;2bc;2bh;2am;2ya;2ra;2lb;2lk;2vb;2sa;2sf;2as;2ah;1vosiaf;3I;3ii;3U;3uu;3vcR
  4rk;4L;4LL;3E;3ia;3O;3aj;1sivi;2vg;2ji;2uy;1OM;1nd;1dond;1avsi;1sp;1SANDHIma;1sink;1vomoma;1EXTRAshvoma;1SUTRAma
  1vosiPRISHTHAMATRA E;1siivcn;1dize;2on;2tw;2th;2fu;2fv;2sx;2se;2ei;2ni;1EKAM;1sihz;1HEADSTROKE;1CONTINUATIONsi;1esMARK-1
  2MARK-2"),
  (0x111E1, "hlirdion;3tw;3th;3fu;3fv;3sx;3se;3ei;3ni;2nute;3tn;3ty;3ft;3ff;3ix;3sv;3ey;3iy;3onhu;4to"),
  (0x11200, "KHOJKIleA;2af;2I;2U;2E;2ia;2O;2aj;2ka;2kb;2gb;2GGA;2gh;2ng;2cb;2ch;2ja;2JJA"),
  (0x11213, "KHOJKIleny;2td;2tt;2db;2dd;2nf;2tb;2ht;2ad;2DDDA;2dh;2na;2ap;2ph;2bc;2BBA;2bh;2am;2ya;2ra;2lb;2vb;2as;2ah;2lk
  1vosiaf;3I;3ii;3U;3E;3ia;3O;3aj;1siau;2vi;2nk;2SHADDA;1nd;1dond;1wosp;1esma;1do/2;1avsi;1siSUKUN"),
  (0x11280, "MULTANIleA;2I;2U;2E;2ka;2kb;2gb"),
  (0x11288, "MULTANIlegh"),
  (0x1128A, "MULTANIlecb;2ch;2ja;2JJA"),
  (0x1128F, "MULTANIleny;2td;2tt;2db;2DDDA;2dd;2nf;2tb;2ht;2ad;2dh;2na;2ap;2ph;2bc"),
  (0x1129F, "MULTANIlebh;2am;2ya;2ra;2lb;2vb;2as;2ah;2rx;2RHA;1esma"),
  (0x112B0, "KHUDAWADIleA;2af;2I;2ii;2U;2uu;2E;2ia;2O;2aj;2ka;2kb;2gb;2GGA;2gh;2ng;2cb;2ch;2ja;2JJA;2jh;2ny;2td;2tt;2db;2DDDA
  2rx;2dd;2nf;2tb;2ht;2ad;2dh;2na;2ap;2ph;2bc;2BBA;2bh;2am;2ya;2ra;2lb;2vb;2sa;2as;2ah;1siau;1vosiaf;3I;3ii;3U;3uu;3E;3ia;3O
  3aj;1sink;2vi"),
  (0x112F0, "KHUDAWADIdize;2on;2tw;2th;2fu;2fv;2sx;2se;2ei;2ni"),
  (0x11300, "gnsicoauab;2cn;2au;2vs"),
  (0x11305, "gnleA;2af;2I;2ii;2U;2uu;2vcR;3L"),
  (0x1130F, "gnleej;2ia"),
  (0x11313, "gnleoo;2aj;2ka;2kb;2gb;2gh;2ng;2cb;2ch;2ja;2jh;2ny;2td;2tt;2db;2dd;2nf;2tb;2ht;2ad;2dh;2na"),
  (0x1132A, "gnleap;2ph;2bc;2bh;2am;2ya;2ra"),
  (0x11332, "gnlelb;2lk"),
  (0x11335, "gnlevb;2sa;2sf;2as;2ah"),
  (0x1133B, "coBINDUbe;gnsink;2vg;1vosiaf;3I;3ii;3U;3uu;3vcR;4rk"),
  (0x11347, "gnvosiej;3ia"),
  (0x1134B, "gnvosioo;3aj;1sivi"),
  (0x11350, "gnOM"),
  (0x11357, "gnajlxma"),
  (0x1135D, "gnsiPLUTA;1leVEDICau;3doau;2vcrk;3LL;1vosivcL;4LL"),
  (0x11366, "cogndize;3on;3tw;3th;3fu;3fv;3sx"),
  (0x11370, "cognleA;3ka;3na;3VI;3ap"),
  (0x11400, "NEWAleA;2af;2I;2ii;2U;2uu;2vcR;3rk;3L;3LL;2E;2ia;2O;2aj;2ka;2kb;2gb;2gh;2ng;2NGHA;2cb;2ch;2ja;2jh;2ny;2NYHA;2td
  2tt;2db;2dd;2nf;2tb;2ht;2ad;2dh;2na;2NHA;2ap;2ph;2bc;2bh;2am;2MHA;2ya;2ra;2RHA;2lb;2LHA;2wa;2sa;2sf;2as;2ah;1vosiaf;3I;3ii
  3U;3uu;3vcR;4rk;4L;4LL;3E;3ia;3O;3aj;1sivi;2cn;2au;2vs;2nk;2vg;2fiau;1OM;1SIDDHI;1nd;1dond;1cm;1GAPfz;1avsi;1dize;2on;2tw
  2th;2fu;2fv;2sx;2se;2ei;2ni;1docm;1PLACEHOLDERma"),
  (0x1145D, "NEWA INSERTIONsi;1SANDHIma;1leVEDICau;1siji;2uy"),
  (0x11480, "TIRHUTA ANJI;1leA;2af;2I;2ii;2U;2uu;2vcR;3rk;3L;3LL;2E;2ia;2O;2aj;2ka;2kb;2gb;2gh;2ng;2cb;2ch;2ja;2jh;2ny;2td;2tt
  2db;2dd;2nf;2tb;2ht;2ad;2dh;2na;2ap;2ph;2bc;2bh;2am;2ya;2ra;2lb;2vb;2sa;2sf;2as;2ah;1vosiaf;3I;3ii;3U;3uu;3vcR;4rk;4L;4LL;3E
  3shE;3ia;3O;3shO;3aj;1sicn;2au;2vs;2vi;2nk;2vg;1GVANG;1avsi;1OM"),
  (0x114D0, "TIRHUTAdize;2on;2tw;2th;2fu;2fv;2sx;2se;2ei;2ni"),
  (0x11580, "hzleA;2af;2I;2ii;2U;2uu;2vcR;3rk;3L;3LL;2E;2ia;2O;2aj;2ka;2kb;2gb;2gh;2ng;2cb;2ch;2ja;2jh;2ny;2td;2tt;2db;2dd;2nf
  2tb;2ht;2ad;2dh;2na;2ap;2ph;2bc;2bh;2am;2ya;2ra;2lb;2vb;2sa;2sf;2as;2ah;1vosiaf;3I;3ii;3U;3uu;3vcR;4rk"),
  (0x115B8, "hzvosiE;3ia;3O;3aj;1sicn;2au;2vs;2vi;2nk;2hz;1nd;1dond;1spdt;2ba;1REPETITION MARK-1;2MARK-2;+1;1efofTEXTma
  1esmawiTRIDENTanU-SHAPED ORNAMENTS;6deCRESCENTS;4RAYS/3;7do/1;7tp/1;3dorn;5wiRAYS;3widoCRESCENTS;4tp/1;4qd/1;4SEPTUPLE/1
  4CIRCLESanRAYS;6twENCLOSURES;6fu/1;1leTHREE-CIRCLElrI;2TWO-CIRCLE/2;4ii;2lrU;1vosi/2;4uu"),
  (0x11600, "MODIleA;2af;2I;2ii;2U;2uu;2vcR;3rk;3L;3LL;2E;2ia;2O;2aj;2ka;2kb;2gb;2gh;2ng;2cb;2ch;2ja;2jh;2ny;2td;2tt;2db;2dd
  2nf;2tb;2ht;2ad;2dh;2na;2ap;2ph;2bc;2bh;2am;2ya;2ra;2lb;2vb;2sa;2sf;2as;2ah;2lk;1vosiaf;3I;3ii;3U;3uu;3vcR;4rk;4L;4LL;3E;3ia
  3O;3aj;1siau;2vs;2vi;2ARDHACANDRA;1nd;1dond;1avsi;1siHUVA"),
  (0x11650, "MODIdize;2on;2tw;2th;2fu;2fv;2sx;2se;2ei;2ni"),
  (0x11660, "MONGOLIANzcwior;1oazc;1dozcwior;1tp/3;1zcwidoor;1oazcwior;4door;1ivzc;3widoor;1SWIRLzc;3wior;4door;1tu/5"),
  (0x11680, "TAKRIleA;2af;2I;2ii;2U;2uu;2E;2ia;2O;2aj;2ka;2kb;2gb;2gh;2ng;2cb;2ch;2ja;2jh;2ny;2td;2tt;2db;2dd;2nf;2tb;2ht;2ad
  2dh;2na;2ap;2ph;2bc;2bh;2am;2ya;2ra;2lb;2vb;2sa;2as;2ah;2rx;1siau;2vs;1vosiaf;3I;3ii;3U;3uu;3E;3ia;3O;3aj;1sivi;2nk;1leirkb
  1avsi"),
  (0x116C0, "TAKRIdize;2on;2tw;2th;2fu;2fv;2sx;2se;2ei;2ni"),
  (0x11700, "AHOMleka;2kb;2ng;2na;2tb;2lrtb;2ap;2ph;2bc;2am;2ja;2ch;2ht;2ra;2lb;2as;2ny;2ah;2A;2ad;2dh;2gb;2lrgb;2gh;2bh;2jh
  2lrbc"),
  (0x1171D, "AHOMctsimllb;4ra;4LIGATINGra;1vosiA;3af;3I;3ii;3U;3uu;3E;3AW;3O;3ia;3AM;1siKILLER"),
  (0x11730, "AHOMdize;2on;2tw;2th;2fu;2fv;2sx;2se;2ei;2ni;1nute;2tn;1sismes;2es;2RULAI;1syVI;1lecb;2td;2tt;2db;2dd;2nf;2lk"),
  (0x11800, "DOGRAleA;2af;2I;2ii;2U;2uu;2E;2ia;2O;2aj;2ka;2kb;2gb;2gh;2ng;2cb;2ch;2ja;2jh;2ny;2td;2tt;2db;2dd;2nf;2tb;2ht;2ad
  2dh;2na;2ap;2ph;2bc;2bh;2am;2ya;2ra;2lb;2vb;2sa;2sf;2as;2ah;2rx;1vosiaf;3I;3ii;3U;3uu;3vcR;4rk;3E;3ia;3O;3aj;1siau;2vs;2vi
  2nk;1avsi"),
  (0x118A0, "WARANG CITIcaleNGAA;4A;4WI;4yu;4ya;4YO;4ii;4uu;4E;4O;4ANG;4gb;4KO;4ENY;4YUJ;4UC;4ENN;4ODD;4TTE;4NUNG;4ad;4AT;4AM
  4BU;4PU;4HIYO;4HOLO;4HORR;4HAR;4SSUU;4SII;4VIYO;2smleNGAA;4A;4WI;4yu;4ya;4YO;4ii;4uu;4E;4O;4ANG;4gb;4KO;4ENY;4YUJ;4UC;4ENN
  4ODD;4TTE;4NUNG;4ad;4AT;4AM;4BU;4PU;4HIYO;4HOLO;4HORR;4HAR;4SSUU;4SII;4VIYO;2dize;3on;3tw;3th;3fu;3fv;3sx;3se;3ei;3ni;2nute
  3tn;3ty;3ft;3ff;3ix;3sv;3ey;3iy"),
  (0x118FF, "WARANG CITI OM;zdzfleA;3af;3I;3ii;3U;3uu;3E"),
  (0x11909, "zdzfleO"),
  (0x1190C, "zdzfleka;3kb;3gb;3gh;3ng;3cb;3ch;3ja"),
  (0x11915, "zdzfleny;3td"),
  (0x11918, "zdzfledb;3dd;3nf;3tb;3ht;3ad;3dh;3na;3ap;3ph;3bc;3bh;3am;3ya;3YYA;3ra;3lb;3vb;3sa;3sf;3as;3ah;3lk;3za;2vosiaf;4I
  4ii;4U;4uu;4E"),
  (0x11937, "zdzfvosiia;4O"),
  (0x1193B, "zdzfsiau;3cn;3HALANTA;2vi;2PREFIXED NASALsi;2mlya;2inra;2mlra;2sink;2dond;2GAPfz;2efofTEXTma"),
  (0x11950, "zdzfdize;3on;3tw;3th;3fu;3fv;3sx;3se;3ei;3ni"),
  (0x119A0, "NANDINAGARIleA;2af;2I;2ii;2U;2uu;2vcR;3rk"),
  (0x119AA, "NANDINAGARIleE;2ia;2O;2aj;2ka;2kb;2gb;2gh;2ng;2cb;2ch;2ja;2jh;2ny;2td;2tt;2db;2dd;2nf;2tb;2ht;2ad;2dh;2na;2ap;2ph
  2bc;2bh;2am;2ya;2ra;2lb;2vb;2sa;2sf;2as;2ah;2lk;2rx;1vosiaf;3I;3ii;3U;3uu;3vcR;4rk"),
  (0x119DA, "NANDINAGARIvosiE;3ia;3O;3aj;1siau;2vs;2vi;2vg;2hz;1HEADSTROKE;1vosiPRISHTHAMATRA E"),
  (0x11A00, "ZANABAZARsqleA;2vosiI;4UE;4U;4E;4oj;4O;4ia;4aj;4reI;3lxma;2leka;3kb;3gb;3gh;3ng;3cb;3ch;3ja;3ny;3td;3tt;3db;3dd
  3nf;3tb;3ht;3ad;3dh;3na;3ap;3ph;3bc;3bh;3am;3tj;3hx;3DZA;3DZHA;3zh;3za;3-A;3ya;3ra;3lb;3vb;3sa;3sf;3as;3ah;3KSSA;2fictma
  2sivi;3cn;4wior;3cf/2;3au;3vs;2CLUSTER-INITIALlera;2CLUSTER-FINALleya;4ra;4lb;4vb;2inhvma;2CLOSING/2;2majo;3SHAD;3do/1;3lnjo
  2inDOUBLE-LINEDhvma;2CLOSING/3;2SUBJOINER"),
  (0x11A50, "SOYOMBOleA;1vosiI;3UE;3U;3E;3O;3oj;3ia;3aj;3vcR;4L;2lxma;1leka;2kb;2gb;2gh;2ng;2cb;2ch;2ja;2jh;2ny;2td;2tt;2db
  2dd;2nf;2tb;2ht;2ad;2dh;2na;2ap;2ph;2bc;2bh;2am;2tj;2hx;2DZA;2zh;2za;2-A;2ya;2ra;2lb;2vb;2sa;2sf;2as;2ah;2KSSA;1siji;2uy
  1CLUSTER-INITIALlera;3lb;3sa;3as;1fictsiG;4K;4NG;4D;4N;4B;4M;4R;4L;4SH;4S;4-A;1siau;2vs;1jnma;1SUBJOINER;1majo;2SHAD;2do/1
  2PLUTA;1hvmawimqanSUNantpFLAME;8FLAME;6SUN;1TERMINAL MARK-1;2MARK-2"),
  (0x11AB0, "CANADIAN SYLLABICS NATTILIK HI;3HII;3HO;3HOO;3ah;3HAA;3SHRI;3SHRII;3SHRO;3SHROO;3SHRA;3SHRAA;2SPE;2SPI;2SPO;2SPA
  PAU CIN HAUleap;4ka;4lb;4am;4ad;4za;4vb;4ng;4ah;4gb;4kb;4as;4bc;4cb;4tb;4ht;4na;4ph;4ra;4fb;4ch;4A;4E;4I;4O;4U;4UA;4IA;4fiP
  5K;5T;5M;5N;5L;5W;5NG;5Y;3rmntln;4nt;3SANDHIglts;3rmntlnfi;5fi;3SANDHIgltsfi;4ntln;4nt;5lnfi;5fi;3MID-LEVELnt;3gltsvr
  3MID-LEVELntlnfi;5fi;3LOW-FALLINGntln;4nt;3glts;3LOW-FALLINGntlnfi;5fi;3gltsfi"),
  (0x11C00, "BHAIKSUKIleA;2af;2I;2ii;2U;2uu;2vcR;3rk;3L"),
  (0x11C0A, "BHAIKSUKIleE;2ia;2O;2aj;2ka;2kb;2gb;2gh;2ng;2cb;2ch;2ja;2jh;2ny;2td;2tt;2db;2dd;2nf;2tb;2ht;2ad;2dh;2na;2ap;2ph
  2bc;2bh;2am;2ya;2ra;2lb;2vb;2sa;2sf;2as;2ah;1vosiaf;3I;3ii;3U;3uu;3vcR;4rk;4L"),
  (0x11C38, "BHAIKSUKIvosiE;3ia;3O;3aj;1sicn;2au;2vs;2vi;2vg;1nd;1dond;1wosp;1GAP FILLER-1;2FILLER-2"),
  (0x11C50, "BHAIKSUKIdize;2on;2tw;2th;2fu;2fv;2sx;2se;2ei;2ni;1nuon;2tw;2th;2fu;2fv;2sx;2se;2ei;2ni;2te;2tn;2ty;2ft;2ff;2ix
  2sv;2ey;2iy;1HUNDREDS UNITma"),
  (0x11C70, "MARCHENhvma;1maSHAD;1leka;2kb;2gb;2ng;2cb;2ch;2ja;2ny;2tb;2ht;2ad;2na;2ap;2ph;2bc;2am;2tj;2hx;2DZA;2wa;2zh;2za
  2-A;2ya;2ra;2lb;2sa;2as;2ah;2A"),
  (0x11C92, "MARCHENubleka;3kb;3gb;3ng;3cb;3ch;3ja;3ny;3tb;3ht;3ad;3na;3ap;3ph;3bc;3am;3tj;3hx;3DZA;3wa;3zh;3za"),
  (0x11CA9, "MARCHENubleya;3ra;3lb;3sa;3as;3ah;3A;1vosiaf;3I;3U;3E;3O;1siau;2cn"),
  (0x11D00, "jsgpleA;3af;3I;3ii;3U;3uu;3E"),
  (0x11D08, "jsgpleia;3O"),
  (0x11D0B, "jsgpleaj;3ka;3kb;3gb;3gh;3ng;3cb;3ch;3ja;3jh;3ny;3td;3tt;3db;3dd;3nf;3tb;3ht;3ad;3dh;3na;3ap;3ph;3bc;3bh;3am;3ya
  3ra;3lb;3vb;3sa;3sf;3as;3ah;3lk;3KSSA;3JNYA;3TRA;2vosiaf;4I;4ii;4U;4uu;4vcR"),
  (0x11D3A, "jsgpvosiE"),
  (0x11D3C, "jsgpvosiia;4O"),
  (0x11D3F, "jsgpvosiaj;2siau;3vs;3nk;3cf;3HALANTA;2vi;2REPHA;2RA-KARA"),
  (0x11D50, "jsgpdize;3on;3tw;3th;3fu;3fv;3sx;3se;3ei;3ni"),
  (0x11D60, "xkgpleA;3af;3I;3ii;3U;3uu"),
  (0x11D67, "xkgpleej;3ia"),
  (0x11D6A, "xkgpleoo;3aj;3ya;3vb;3bc;3bh;3am;3ka;3kb;3tb;3ht;3lb;3gb;3gh;3ad;3dh;3na;3cb;3ch;3td;3tt;3lk;3ja;3jh;3db;3dd;3ng
  3ap;3ph;3ah;3ra;3as;2vosiaf;4I;4ii;4U;4uu"),
  (0x11D90, "xkgpvosiej;4ia"),
  (0x11D93, "xkgpvosioo;4aj;2siau;3vs;2vi;2OM"),
  (0x11DA0, "xkgpdize;3on;3tw;3th;3fu;3fv;3sx;3se;3ei;3ni"),
  (0x11EE0, "MAKASARleka;2gb;2ng;2ap;2bc;2am;2tb;2ad;2na;2cb;2ja;2ny;2ya;2ra;2lb;2vb;2as;2A;1ANGKA;1vosiI;3U;3E;3O;1PASSIMBANG
  1efofes"),
  (0x11FB0, "LISUleYHA"),
  (0x11FC0, "imfronTHREE-HUNDRED-AND-TWENTIETH;3ONE-HUNDRED-AND-SIXTIETH;3EIGHTIETH;3SIXTY-FOURTH;3FORTIETH;3THIRTY-SECOND
  2thEIGHTIETHS;3SIXTY-FOURTHS;2onTWENTIETH;3SIXTEENTH-1;+1;3TENTH;3eg;2thTWENTIETHS;3SIXTEENTHS;2onFIFTH;3qa;3HALF-1;+1
  2thqr;2DOWNSCALING FACTOR KIIZH;1siNEL;2CEVITU;2AAZHAAKKU;2UZHAKKU;2MUUVUZHAKKU;2KURUNI;2PATHAKKU;2MUKKURUNI;2KAACU;2PANAM
  2PON;2VARAAKAN;2PAARAM;2KUZHI;2VELI;1WET CULTIVATIONsi;1DRY/2;1LANDsi;1SALT PANsi;1TRADITIONAL CREDITsi;2nusi;1CURRENTsi
  1anODDsi;1SPENTsi;1TOTALsi;1ibPOSSESSIONsi;1STARTINGfmsi;1siMUTHALIYA;2VAKAIYARAA"),
  (0x11FFF, "impuefofTEXT")]

end CallLint.Text.Names
