/-!
# Names of characters from U+14400 to U+1CFFF

Those of Anatolian hieroglyphs, Bamum, Tangut components and kana supplements.
-/

namespace CallLint.Text.Names

/-- The names of runs of characters, each with the number of its first one. -/
def hieroglyphs : List (Nat × String) := [
  (0x14400, "ANATOLIAN HIEROGLYPH A001;2A002;+8;2A010A;2A011;+15;2A026A;2A027;+12;2A039A;2A040;+1;2A041A;2A042;+3;2A045A
  2A046;2A046A;2A046B;2A047;+19;2A066A;2A066B;2A066C;2A067;+30;2A097A;2A098;2A098A;2A099;+1;2A100A;2A101;2A101A;2A102;2A102A
  2A103;+1;2A104A;2A104B;2A104C;2A105;2A105A;2A105B;2A106;+1;2A107A;2A107B;2A107C;2A108;+2;2A110A;2A110B;2A111;+4;2A115A
  2A116;+9;2A125A;2A126;+9;2A135A;2A136;+66;2A202A;2A202B;2A203;+4;2A207A;2A208;+1;2A209A;2A210;+5;2A215A;2A216;2A216A;2A217
  +10;2A227A;2A228;+39;2A267A;2A268;+21;2A289A;2A290;+4;2A294A;2A295;+4;2A299A;2A300;+9;2A309A;2A310;+19;2A329A;2A330;+1
  2A332A;2A332B;2A332C;2A333;+3;2A336A;2A336B;2A336C;2A337;+22;2A359A;2A360;+4;2A364A;2A365;+3;2A368A;2A369;+2;2A371A;2A372
  +9;2A381A;2A382;2A383raobRI;2A383A;2A384;+2;2A386A;2A387;+5;2A393ei;2A394;+15;2A410xyLOGOGRAMma;2A410Aef/2;2A411;+39;2A450A
  2A451;+6;2A457A;2A458;+39;2A501;+29"),
  (0x16800, "BAMUMlePHASE-A NGKUE MFON;3GBIEE FON;3PON MFON PIPAEMGBIEE;5PIPAEMBA;3NAA MFON;3SHUENSHUET;3TITA MFON;3NZA/1
  3SHINDAapNJI;3PONapNJI PIPAEMGBIEE;6PIPAEMBA;3MAEMBGBIEE;3TU MAEMBA;3NGANGU;3MAEMVEUX;3MANSUAE;3MVEUAENGAM;3SEUNYAM;3NTOQPEN
  3KEUKEUTNDA;3NKINDI;3SUU;3NGKUENZEUM;3LAPAQ;3LET KUT;3NTAP MFAA;3MAEKEUP;3PASHAE;3GHEUAERAE;3PAMSHAE;3MON NGGEUAET
  3NZUN MEUT;3U YUQ NAE;3GHEUAEGHEUAE;3NTAP NTAA;3SISA;3MGBASA;3MEUNJOMNDEUQ;3MOOMPUQ;3KAFA;3apLEERAEWA;3NDA/1;3PET;3MAEMKPEN
  3NIKA;3PUP;3TUAEP;3LUAEP;3SONJAM;3TEUTEUWEN;3MAENYI;3KET;3NDAANGGEUAET;3KUOQ;3MOOMEUT;3SHUM;3LOMMAE;3FIRI;3ROM;3KPOQ;3SOQ
  3MAP PIEET;3SHIRAE;3NTAP;3SHOQ NSHUT YUM;3NYIT MONGKEUAEQ;3PAARAE;3NKAARAE;3UNKNOWN;3NGGEN;3MAESI;3NJAM;3MBANYI;3NYET
  3TEUAEN;3SOT;3PAAM;3NSHIEE;3MAEM;3NYI;3KAQ;3NSHA;3VEE;3LU;3NEN;3NAQ;3MBAQ;2PHASE-B NSHUET;3TU MAEMGBIEE;3SIEE;3SET TU
  3LOM NTEUM;3MBA MAELEE;3KIEEM;3YEURAE;3MBAARAE;3KAM;3PEESHI;3YAFU LEERAEWA;3lmNSHUT NYAM;3NTIEE SHEUOQ;3NDU NJAA
  3GHEUGHEUAEM;3PIT;3TU NSIEE;3SHET NJAQ;3SHEUAEQTU;3MFON TEUAEQ;3MBIT MBAAKET;3NYI NTEUM;3KEUPUQ;3GHEUGHEN;3KEUYEUX;3LAANAE
  3PARUM;3VEUM;3NGKINDI MVOP;3NGGEU MBU;3WUAET;3SAKEUAE;3TAAM;3MEUQ;3NGGUOQ;4la;3MFIYAQ;3SUE;3MBEURI;3MONTIEEN;3NYAEMAE
  3PUNGAAM;3MEUT NGGEET;3FEUX;3MBUOQ;3FEE;3KEUAEM;3amNJEUAENA;4NJUQA;3LET;3NGGAAM;3NSEN;3am;3KIQ;3NGOM;2PHASE-C NGKUE MAEMBA
  3NZA;3YUM;3WANGKUOQ;3NGGEN;3NDEUAEREE;3NGKAQ;3GHARAE;3MBEEKEET;3GBAYI;3NYIR MKPARAQ MEUN;3NTU MBIT;3MBEUM;3PIRIEEN;3NDOMBU
  3MBAA CABBAGE-TREE;3KEUSHEUAEP;3GHAP;3KEUKAQ;3yuMUOMAE;3NZEUM;3MBUE;3NSEUAEN;3MBIT;3YEUQ;3KPARAQ;3KAA;3SEUX;3NDIDA;3TAASHAE
  3NJUEQ;3TITA YUE;3SUAET;3NGGUAEN NYAM;3VEUX;3NANSANAQ;3amKEUAERI;3NTAA;3NGGUON;3LAP;3MBIRIEEN;3MGBASAQ;3NTEUNGBA;3TEUTEUX
  3NGGUM;3FUE;3NDEUT;3NSA;3NSHAQ;3BUNG;3VEUAEPEN;3MBERAE;3RU;3NJAEM;3lm;3TITUAEP;3NSUOT NGOM;3NJEEEE;3KET;3NGGU;3MAESI;3MBUAEM
  3LU;3KUT;3NJAM;3NGOM;3WUP;3NGGUEET;3NSOM;3NTEN;3KUOP NKAARAE;3NSUN;3NDAM;3amNSIEE;3YAA;3NDAP;3SHUEQ;3SETFON;3MBI;3MAEMBA
  3MBANYI;3KEUSEUX;3MBEUX;3KEUM;3MBAA PICKET;3YUWOQ;3NJEUX;3MIEE;3MUAE;3SHIQ;3KEN LAW;4FATIGUE;3NGAQ;3NAQ;3LIQ;3PIN;3PEN;3TET
  2PHASE-D MBUO;3WAP;3NJI;3MFON;3NJIEE;3LIEE;3NJEUT;3NSHEE;3NGGAAMAE;3NYAM;3WUAEN;3NGKUN;3SHEE;3NGKAP;3KEUAETMEUN;3TEUT
  3SHEUAE;3NJAP;3SUE;3KET;3YAEMMAE;3KUOM;3SAP;3MFEUT;3NDEUX;3MALEERI;3MEUT;3SEUAEQ;3YEN;3NJEUAEM;3KEUOT MBUAE;3NGKEURI;3TU
  3GHAA;3NGKYEE;3FEUFEUAET;3NDEE;3MGBOFUM;3LEUAEP;3NDON;3MONI;3MGBEUN;3PUUT;3MGBIEE;3MFO;3LUM;3NSIEEP;3MBAA;3KWAET;3NYET
  3TEUAEN;3SOT;3YUWOQ;3KEUM;3RAEM;3TEEEE;3NGKEUAEQ;3MFEUAE;3NSIEET;3KEUP;3PIP;3PEUTAE;3NYUE;3LET;3NGGAAM;3MFIEE;3NGGWAEN;3YUOM
  3qm;3YUOP;3NDAM;3NTEUM;3SUAE;3KUN;3NGGEUX;3NGKIEE;3TUOT;3MEUN;3KUQ;3NSUM;3TEUN;3MAENJET;3NGGAP;3LEUM;3NGGUOM;3NSHUT;3NJUEQ
  3GHEUAE;3KU;3RENol;3TAE;3TOQ;3NYI;3RII;3LEEEE;3MEEEE;3M;3SUU;3mb;3SHII;3SHEUX;3KYEE;3NU;3SHU;3NTEE;3PEE;3NI;3SHOQ;3PUQ;3MVOP
  3LOQ;3REN MUCH;3TI;3NTUU;3MBAAse;3SAQ;3FAA;2PHASE-E NDAP;3TOON;3MBEUM;3LAP;3VOM;3LOON;3PAA;3SOM;3RAQ;3NSHUOP;3NDUN;3PUAE
  3TAM;3NGKA;3KPEUX;3WUO;3SEE;3NGGEUAET;3PAAM;3TOO;3KUOP;3LOM;3NSHIEE;3NGOP;3MAEM;3NGKEUX;3NGOQ;3NSHUE;3RIMGBA;3NJEUX;3PEEM
  3SAA;3NGGURAE;3MGBA;3GHEUX;3NGKEUAEM;3NJAEMLI;3MAP;3LOOT;3NGGEEEE;3NDIQ;3TAEN NTEUM;3SET;3PUM;3NDAA SOFTNESS
  3NGGUAESHAE NYAM;3YIEE;3GHEUN;3TUAE;3YEUAE;3PO;3TUMAE;3KEUAE;3SUAEN;3TEUAEQ;3VEUAE;3WEUX;3LAAM;3PU;3TAAQ;3GHAAMAE;3NGEUREUT
  3SHEUAEQ;3MGBEN;3MBEE;3NZAQ;3NKOM;3GBET;3TUM;3KUET;3YAP;3NYI CLEAVER;3YIT;3MFEUQ;3NDIAQ;3PIEEQ;3YUEQ;3LEUAEM;3FUE;3GBEUX
  3NGKUP;3KET;3MAE;3NGKAAMI;3GHET;3fb;3NTUM;3PEUT;3YEUM;3NGGEUAE;3NYIbw;3NZUQ;3POON;3MIEE;3FUET;3NAE;3MUAE;3GHEUAE;3FU I;3MVI
  3PUAQ;3NGKUM;3KUT;3PIET;3NTAP;3YEUAET;3NGGUP;3apPEOPLE;3FU CALL;3FOM;3NJEE;3A;3TOQ;3O;3I;3LAQ;3apPLURAL;3TAA;3TAQ
  3NDAA MY HOUSE;3SHIQ;3YEUX;3NGUAE;3YUAEN;3YOQ SWIMMING;4COVER;3YUQ;3YUN;3KEUX;3PEUX;3NJEE EPOCH;3PUE;3WUE;3FEE;3VEE;3LU;3MI
  3REUX;3RAE;3NGUAET;3ng;3SHO;3SHOQ;3FU REMEDY;3na;3ip;3LOQ;3KO;3MEN;3am;3MAQ;3TEU;3KI;3MON;3te;3FAQ;3GHOM;2PHASE-Fka;3U;3KU
  3ej;3REE;3TAE;3NYI;3lb;3RII;3RIEE;3MEEEE;3TAA;3NDAA;3NJAEM;3M;3SUU;3SHII;3SI;3SEUX;3KYEE;3KET;3NUAE;3NU;3NJUAE;3YOQ;3SHU;3ya
  3NSHA;3PEUX;3NTEE;3WUE;3PEE;3RU;3NI;3REUX;3KEN;3NGKWAEN;3NGGA;3SHO;3PUAE;3FOM;3wa;3LI;3LOQ;3KO;3MBEN;3REN;3am;3MO;3MBAA;3TET
  3KPA;3SAMBA;3VUEQ"),
  (0x16A40, "MROletb;2NGI;2YO;2MIM;2bc;2ad;2A;2pd;2KHAI;2HAO;2DAI;2CHU;2KEAAE;2OL;2MAEM;2NIN;2ap;2oo;2O;2RO;2SHI;2THEA;2EA;2wa
  2E;2KO;2LAN;2lb;2HAI;2RI;2TEK"),
  (0x16A60, "MROdize;2on;2tw;2th;2fu;2fv;2sx;2se;2ei;2ni"),
  (0x16A6E, "MROnd;1dond;TANGSAleOZ;2OC;2OQ;2OX;2AZ;2AC;2AQ;2AX;2VZ;2VC;2VQ;2VX;2EZ;2EC;2EQ;2EX;2IZ;2IC;2IQ;2IX;2UZ;2UC;2UQ
  2UX;2AWZ;2AWC;2AWQ;2AWX;2UIZ;2UIC;2UIQ;2UIX;2fiNG;2lnUEX;2shUEZ;3AWX;2UEC;2UEZ;2UEQ;2UEX;2UIUZ;2UIUC;2UIUQ;2UIUX;2MZ;2MC;2MQ
  2MX;2ka;2kb;2gb;2ng;2as;2ya;2wa;2ap;2ny;2ph;2bc;2am;2na;2ah;2lb;2HTA;2tb;2ad;2ra;2NHA;2sa;2cb;2tj;2gh;2HTTA;2ht;2XA;2fb;2dh
  2ch;2za"),
  (0x16AC0, "TANGSAdize;2on;2tw;2th;2fu;2fv;2sx;2se;2ei;2ni"),
  (0x16AD0, "BASSA VAHleENNI;3ka;3SE;3fb;3MBE;3YIE;3GAH;3DHII;3KPAH;3JO;3HWAH;3wa;3ZO;3GBU;3DO;3CE;3UWU;3ot;3bc;3VU;3YEIN;3ap
  3WADDA;3A;3O;3oo;3U;3ej;3E;3I"),
  (0x16AF0, "BASSA VAHcohint;3lwnt;3MIDnt;3LOW-MIDnt;3HIGH-LOWnt;2flts"),
  (0x16B00, "PAHAWHvvvoKEEB;3KEEV;3KIB;3KIV;3KAUB;3KAUV;3KUB;3KUV;3KEB;3KEV;3KAIB;3KAIV;3KOOB;3KOOV;3KAWB;3KAWV;3KUAB;3KUAV
  3KOB;3KOV;3KIAB;3KIAV;3KAB;3KAV;3KWB;3KWV;3KAAB;3KAAV;2ctVAU;3NTSAU;3LAU;3HAU;3NLAU;3RAU;3NKAU;3QHAU;3YAU;3HLAU;3MAU;3CHAU
  3NCHAU;3HNAU;3PLHAU;3NTHAU;3NAU;3aj;3XAU;3CAU;2maCIM TUB;4SO;4KES;4KHAV;4SUAM;4HOM;4TAUM;2siVOS THOM;4TSHAB CEEB;3CIM CHEEM
  3VOS THIAB;4FEEM;3XYEEM NTXIV;4rj;4TOV;4FAIB;3VOS SEEV;3MEEJ SUAB;3VOS NRUA;3IB YAM;3XAUS;3CIM TSOV ROG"),
  (0x16B50, "PAHAWHvvdize;3on;3tw;3th;3fu;3fv;3sx;3se;3ei;3ni"),
  (0x16B5B, "PAHAWHvvnuTENS;3HUNDREDS;3teut;3MILLIONS;3hu/1;3teBILLIONS;3TRILLIONS"),
  (0x16B63, "PAHAWHvvsiVOS LUB;3XYOO;3HLI;3THIRD-STAGE/1;3ZWJ THAJ;3HNUB;3NQIG;3XIAB;3NTUJ;3AV;3TXHEEJ CEEV;3MEEJ TSEEB;3jk
  3LOS;3MUS;3CIM HAIS LUS NTOG NTOG;4CUAM TSHOOJ;4TXWV;5CHWV;4PUB DAWB;4NRES TOS"),
  (0x16B7D, "PAHAWHvvCLANsiTSHEEJ;4YEEG;4LIS;4LAUJ;4XYOOJ;4KOO;4HAWJ;4MUAS;4THOJ;4TSAB;4PHAB;4KHAB;4HAM;4VAJ;4FAJ;4YAJ;4TSWB
  4KWM;4VWJ"),
  (0x16E40, "MEDEFAIDRINcaleM;3S;3V;3W;3ATIU;3Z;3KP;3P;3T;3G;3F;3I;3K;3A;3J;3E;3B;3C;3U;3yu;3L;3Q;3HP;3NY;3X;3D;3oj;3N;3R;3O
  3ia;3Y;1smleM;3S;3V;3W;3ATIU;3Z;3KP;3P;3T;3G;3F;3I;3K;3A;3J;3E;3B;3C;3U;3yu;3L;3Q;3HP;3NY;3X;3D;3oj;3N;3R;3O;3ia;3Y;1dize
  2on;2tw;2th;2fu;2fv;2sx;2se;2ei;2ni;1nute;2ev;2wl;2tx;2uf;2fc;2xs;2vn;2gt;2nq;1dionlrfo;2tw/2;2th/2;1cm;1flts;1syAIVA;1exOH"),
  (0x16F00, "MIAOleap;2bc;2YIap;2PLA;2am;2MHA;2iram;2fb;2vb;2VFA;2tb;2ad;2YItd;3tb;2td;2db;2na;2NHA;2YInf;2irna;2nf;2NNHA;2lb
  2LYA;2LHA;2LHYA;2TLHA;2DLHA;2TLHYA;2DLHYA;2ka;2gb;2YIka;2QA;2QGA;2ng;2NGHA;2irng;2ah;2XA;2gh;2GHHA;2TSSA;2DZZA;2ny;2NYHA;2hx
  2DZHA;2YIhx;3DZHA;2REFORMEDhx;2sa;2sf;2zh;2ZSHA;2tj;2DZA;2YItj;2as;2za;2ZSA;2ZZA;2ZZSA;2irZZA;2ZZYA;2ZZSYA;2wa;2AH;2HHA;2BRI
  2SYI;2DZYI;2TE;2TSE;2RTE"),
  (0x16F4F, "MIAOsictmoba;1leNASALIZATION;1siASPIRATION;2REFORMED VOICING;3ASPIRATION;1vosiA;3af;3AHH;3AN;3ANG;3O;3oo;3WO;3W
  3E;3eb;3ENG;3OEY;3I;3IA;3IAN;3IANG;3IO;3IE;3ii;3IU;3ING;3U;3UA;3UAN;3UANG;3uu;3UEI;3UNG;3Y;3YI;3AE;3AEE;3ERR;3rq/1;3ER;3rqER
  3ia;3EI;3aj;3OU;3N;3NG;3UOG;3YUI;3OG;3OER;3VW;3IG;3EA;3IONG;3UI"),
  (0x16F8F, "MIAOntri;2ptri;2ab;2be;1lebp;2jc;2xo;2bq;2TONE-6;+2;2REFORMED TONE-1;3bp;3xo;3bq;3TONE-6;3TONE-8"),
  (0x16FE0, "TANGUTjbma;NUSHU/2;olCHINESEhkma;2jbma;KHITANsmscfz"),
  (0x16FF0, "VIETNAMESElrREADINGmacb;4NHAY"),
  (0x18800, "TANGUT COMPONENT-001;1COMPONENT-002;+766"),
  (0x1AFF0, "ktleMINNANbp;3jc;3xo;3bq"),
  (0x1AFF5, "ktleMINNAN TONE-7;3TONE-8;3NASALIZED TONE-1;4bp;4jc;4xo;4bq"),
  (0x1AFFD, "ktleMINNAN NASALIZED TONE-7;4TONE-8"),
  (0x1B000, "ktleirE;qkleirYE;HENTAIGANAleA-1;2A-2;+1;2A-WO;2I-1;+3;2U-1;+4;2E-2;+4;2O-1;+2;2KA-1;+8;2KA-10;+1;2KA-KE;2KI-1
  +7;2KU-1;+6;2KE-1;+5;2KO-1;+2;2KO-KI;2SA-1;+7;2SI-1;+5;2SU-1;+7;2SE-1;+4;2SO-1;+6;2TA-1;+3;2TI-1;+6;2TU-1;+3;2TU-TO;2TE-1
  +8;2TO-1;+5;2TO-RA;2NA-1;+8;2NI-1;+6;2NI-TE;2NU-1;+2;2NE-1;+5;2NE-KO;2NO-1;+4;2HA-1;+8;2HA-10;+1;2HI-1;+6;2HU-1;+2;2HE-1;+6
  2HO-1;+7;2MA-1;+6;2MI-1;+6;2MU-1;+3;2ME-1;+1;2ME-MA;2MO-1;+5;2YA-1;+4;2YA-YO;2YU-1;+3;2YO-1;+5;2RA-1;+3;2RI-1;+6;2RU-1;+5
  2RE-1;+3;2RO-1;+5;2WA-1;+4;2WI-1;+4;2WE-1;+3;2WO-1;+6;2N-MU-MO-1;+1;qkleirWU;ktleirYI;3YE;3WU"),
  (0x1B150, "qklesmWI;3WE;3WO"),
  (0x1B164, "ktlesmWI;3WE;3WO;3N"),
  (0x1BC00, "zrleH;2X;2P;2T;2F;2K;2L;2B;2D;2V;2G;2R;2P N;2D S;2F N;2K M;2R S;2TH;2SLOAN DH;2DH;2KK;2SLOAN J;2HL;2LH;2RH;2M;2N
  2J;2S;2M N;2N M;2J M;2S J;2Mwidt;2N/2;2J/2;4odifanab;2Swidt;5be;2M S;2N S;2J S;2S S;2M N S;2N M S;2J/2;2S J S;2J Swidt;3N;4S
  2S T;4R;3P;4R;2T S;3R S;2W;2WH;2W R;2S N;3M;2K R S;2G/2;2S K;4R;2A;2SLOAN OW;2OA;2O;2AOU;2I;2E;2IE;2shI;2UI;2ej;2SLOAN EH
  2ROMANIAN I;2SLOANej;2lnI;2YE;2U;2EU;2XW;2U N;2lnU;2ROMANIAN U;2UH;2SLOAN U;2OOH;2OW;2OU;2wa;2WO;2WI;2WEI;2WOW;2NASAL U;3O
  3I;3A;2PERNIN AN;3AM;2SLOANeb;3AN;3ON;2vcM"),
  (0x1BC70, "zrAFFIXlfhoSECANT;2MID/2;2ri/2;2lwve/1;2MID/2;2hi/2;2kz/1;3fg/1;3TANGENT;3tc;3Ehk;3Ihk;3TANGENThk"),
  (0x1BC80, "zrAFFIXhiac;3TIGHTac;3ga;3lnga;3dt;3ci;3il;3wv;3ve"),
  (0x1BC90, "zrAFFIXlwac;3TIGHTac;3ga;3lnga;3dt;3ci;3il;3wv;3ve;3ar"),
  (0x1BC9C, "zrsiOwirc;1THICKleSELECTOR;1doma;1puCHINOOKflts;SHORTHAND FORMATleOVERLAP;2CONTINUING/1;2dnSTEP;2ua/1"),
  (0x1CF00, "ZNAMENNYcomaGORAZDOzsSkyONlf;3zs/4;3TSATA/2;3GORAZDOzs/2;3zs/2;3SREDNE/2;3MALOpv/2;3pv/2;3VYSOKO/2
  3MALOpvS KHOKHLOM/2;3pv/4;3VYSOKO/4;3GORAZDOzsSkyONri;3zs/4;3TSATA/2;3GORAZDOzs/2;3zs/2;3SREDNE/2;3MALOpv/2;3pv/2;3VYSOKO/2
  3MALOpvS KHOKHLOM/2;3pv/4;3VYSOKO/4;3TSATA Sky;3MALOpv/2;3STRANNO MALOpv;3pvSky;4STRANNO;3VYSOKO Sky;3MALOpvSTRANNO
  3GORAZDO VYSOKO;3ZELO;3ON;3RAVNO;3TIKHAYA;3BORZAYA;3UDARKA;3PODVERTKA;3LOMKA;3KUPNAYA;3KACHKA;3ZEVOK;3SKOBA;3RAZSEKA
  3KRYZH ONlf"),
  (0x1CF30, "ZNAMENNYcoTONAL RANGEmaMRACHNO;5SVETLO;5TRESVETLO;2maZADERZHKA;3DEMESTVENNY/1;3OTSECHKA;3PODCHASHIE;4wivest
  3CHASHKA;4POLNAYA;3OBLACHKO;3SOROCHYA NOZHKA;3TOCHKA;3DVOETOCHIE;2ATTACHINGveOMET;2mauv/1;3KRYZH;2loTONAL RANGEiq
  1PRIZNAKmoLEVEL-2;3LEVEL-3;3DIRECTION FLIP;3KRYZH;3ROG"),
  (0x1CF50, "ZNAMENNY NEUME KRYUK;3TIKHY;2PARAKLIT;2DVA V CHELNU;2KLYUCH;2ZANOZHEK;2STOPITSA;3S OCHKOM;2PEREVODKA;3py
  2STOPITSAwiSOROCHYA NOZHKA;2CHELYUSTKA;2PALKA;2zp;2GOLUBCHIK BORZY;3TIKHY;3MRACHNY;3SVETLY;3TRESVETLY;2VRAKHIYA PROSTAYA
  3MRACHNAYA;3ly;3yt;3klPROSTAYA;4MRACHNAYA;4ly;4yt;2dozp;2reCHELYUSTKA;2DERBITSA;2KHAMILO;2CHASHKA;2PODCHASHIE
  2SKAMEYTSA MRACHNAYA;3ly;3yt;3TIKHAYA;2DEMESTVENNY KLYUCH;2SKAMEYTSAklly;3KLYUCHENEPOSTOYANNAYA;3klTIKHAYA
  3DVOECHELNAYA PROSTAYA;4ly;4py;4kl;2SLOZHITIE;3Szo;3ZAKRYTOE;3Sky;2KRYZH;2ROG;2FITA;2KOBYLA;2ZMEYTSA;2STATYA;3Szo;4ky;4zoIky
  4kyIzo;3ZAKRYTAYA;4Szo;3S ROGOM;4DVUMYA ZAPYATYMI;4zoI PODCHASHIEM;2POLKULIZMY;2STATYApy;2STRELA PROSTAYA;3MRACHNOTIKHAYA
  3KRYZHEVAYA;3POLUPOVODNAYA;3POVODNAYA;3py;3KLYUCHEPOVODNAYA;3KLYUCHENEPOSTOYANNAYA;3TIKHAYA PUTNAYA;3DVOECHELNAYA
  3DVOECHELNOKRYZHEVAYA;3DVOECHELNOPOVODNAYA;3DVOECHELNAYAkl;3DVOECHELNOPOVODNAYAkl;3GROMNAYAwisnzp;3gy/3;3GROMNAYA;3gy
  4widozp;3GROMOKRYZHEVAYA;4POVODNAYA;2MECHIK;3POVODNY;3KLYUCHEVOY;3KLYUCHEPOVODNY;3KLYUCHENEPOSTOYANNY;2STRELA TRYASOGLASNAYA
  3TRYASOPOVODNAYA;3TRYASOSTRELNAYA;2OSOKA;3ly;3yt;3KRYUKOVAYAly;3klly;4py;2STRELA KRYUKOVAYA;4POVODNAYA;4GROMNAYAwisnzp;4gy/3
  4GROMNAYA;4gy;5widozp;4GROMOKRYZHEVAYA;5POVODNAYA;4TRYASKA;2KUFISMA;2OBLAKO;2DUDA;2NEMKA;2PAUK")]

end CallLint.Text.Names
