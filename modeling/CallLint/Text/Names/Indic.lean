/-!
# Names of characters from U+0900 to U+135F

Those of the scripts of South and South-East Asia and of Georgia.
-/

namespace CallLint.Text.Names

/-- The names of runs of characters, each with the number of its first one. -/
def indic : List (Nat × String) := [
  (0x900, "DEVANAGARIsiivcn;2cn;2au;2vs;1leshA;2A;2af;2I;2ii;2U;2uu;2vcR;3L;2cfE;2shE;2E;2ia;2cfO;2shO;2O;2aj;2ka;2kb;2gb;2gh
  2ng;2cb;2ch;2ja;2jh;2ny;2td;2tt;2db;2dd;2nf;2tb;2ht;2ad;2dh;2na;2NNNA;2ap;2ph;2bc;2bh;2am;2ya;2ra;2rx;2lb;2lk;2LLLA;2vb;2sa
  2sf;2as;2ah;1vosioj;3OOE;1sink;2vg;1vosiaf;3I;3ii;3U;3uu;3vcR;4rk;3cfE;3shE;3E;3ia;3cfO;3shO;3O;3aj;1sivi
  1vosiPRISHTHAMATRA E;3AW;1OM;1STRESSsiUDATTA;3ANUDATTA;1gaae;1acae;1vosicflnE;3UE;3UUE;1leQA;2KHHA;2GHHA;2za;2DDDHA;2RHA;2fb
  2YYA;2vcrk;3LL;1vosivcL;4LL;1nd;1dond;1dize;2on;2tw;2th;2fu;2fv;2sx;2se;2ei;2ni;1avsi;1sihiSPACINGdt;1lecfA;2oj;2OOE;2AW;2UE
  2UUE;2MARWARIdb;2zh;2heya;2GGA;2JJA;2glts;2DDDA;2BBA;bgANJI;1sicn;2au;2vs"),
  (0x985, "bgleA;2af;2I;2ii;2U;2uu;2vcR;3L"),
  (0x98F, "bgleE;2ia"),
  (0x993, "bgleO;2aj;2ka;2kb;2gb;2gh;2ng;2cb;2ch;2ja;2jh;2ny;2td;2tt;2db;2dd;2nf;2tb;2ht;2ad;2dh;2na"),
  (0x9AA, "bgleap;2ph;2bc;2bh;2am;2ya;2ra"),
  (0x9B2, "bglelb"),
  (0x9B6, "bglesa;2sf;2as;2ah"),
  (0x9BC, "bgsink;2vg;1vosiaf;3I;3ii;3U;3uu;3vcR;4rk"),
  (0x9C7, "bgvosiE;3ia"),
  (0x9CB, "bgvosiO;3aj;1sivi;1leKHANDAtb"),
  (0x9D7, "bgajlxma"),
  (0x9DC, "bglerx;2RHA"),
  (0x9DF, "bgleYYA;2vcrk;3LL;1vosivcL;4LL"),
  (0x9E6, "bgdize;2on;2tw;2th;2fu;2fv;2sx;2se;2ei;2ni;1lerawimidg;4lodg;1RUPEEma;2si;1yvNUMERATORon;3tw;3th;3fu
  3onLESS THANtgDENOMINATOR;2DENOMINATORxs;1ISSHAR;1GANDAma;1leVEDICau;1avsi;1SANDHIma"),
  (0xA01, "gmsiADAK BINDI;2BINDI;2vs"),
  (0xA05, "gmleA;2af;2I;2ii;2U;2uu"),
  (0xA0F, "gmleej;2ia"),
  (0xA13, "gmleoo;2aj;2ka;2kb;2gb;2gh;2ng;2cb;2ch;2ja;2jh;2ny;2td;2tt;2db;2dd;2nf;2tb;2ht;2ad;2dh;2na"),
  (0xA2A, "gmleap;2ph;2bc;2bh;2am;2ya;2ra"),
  (0xA32, "gmlelb;2lk"),
  (0xA35, "gmlevb;2sa"),
  (0xA38, "gmleas;2ah"),
  (0xA3C, "gmsink"),
  (0xA3E, "gmvosiaf;3I;3ii;3U;3uu"),
  (0xA47, "gmvosiej;3ia"),
  (0xA4B, "gmvosioo;3aj;1sivi"),
  (0xA51, "gmsiUDAAT"),
  (0xA59, "gmleKHHA;2GHHA;2za;2rx"),
  (0xA5E, "gmlefb"),
  (0xA66, "gmdize;2on;2tw;2th;2fu;2fv;2sx;2se;2ei;2ni;1TIPPI;1ADDAK;1IRI;1URA;1EK ONKAR;1siYAKASH;1avsi"),
  (0xA81, "gjsicn;2au;2vs"),
  (0xA85, "gjleA;2af;2I;2ii;2U;2uu;2vcR;3L;1vocfE"),
  (0xA8F, "gjleE;2ia;1vocfO"),
  (0xA93, "gjleO;2aj;2ka;2kb;2gb;2gh;2ng;2cb;2ch;2ja;2jh;2ny;2td;2tt;2db;2dd;2nf;2tb;2ht;2ad;2dh;2na"),
  (0xAAA, "gjleap;2ph;2bc;2bh;2am;2ya;2ra"),
  (0xAB2, "gjlelb;2lk"),
  (0xAB5, "gjlevb;2sa;2sf;2as;2ah"),
  (0xABC, "gjsink;2vg;1vosiaf;3I;3ii;3U;3uu;3vcR;4rk;3cfE"),
  (0xAC7, "gjvosiE;3ia;3cfO"),
  (0xACB, "gjvosiO;3aj;1sivi"),
  (0xAD0, "gjOM"),
  (0xAE0, "gjlevcrk;3LL;1vosivcL;4LL"),
  (0xAE6, "gjdize;2on;2tw;2th;2fu;2fv;2sx;2se;2ei;2ni;1avsi;1RUPEEsi"),
  (0xAF9, "gjlezh;1siSUKUN;2SHADDA;2MADDAH;2THREE-DOTnkab;2ci/2;2TWO-CIRCLE/2"),
  (0xB01, "rysicn;2au;2vs"),
  (0xB05, "ryleA;2af;2I;2ii;2U;2uu;2vcR;3L"),
  (0xB0F, "ryleE;2ia"),
  (0xB13, "ryleO;2aj;2ka;2kb;2gb;2gh;2ng;2cb;2ch;2ja;2jh;2ny;2td;2tt;2db;2dd;2nf;2tb;2ht;2ad;2dh;2na"),
  (0xB2A, "ryleap;2ph;2bc;2bh;2am;2ya;2ra"),
  (0xB32, "rylelb;2lk"),
  (0xB35, "rylevb;2sa;2sf;2as;2ah"),
  (0xB3C, "rysink;2vg;1vosiaf;3I;3ii;3U;3uu;3vcR;4rk"),
  (0xB47, "ryvosiE;3ia"),
  (0xB4B, "ryvosiO;3aj;1sivi"),
  (0xB55, "rysivf;1ialxma;1aj/2"),
  (0xB5C, "rylerx;2RHA"),
  (0xB5F, "ryleYYA;2vcrk;3LL;1vosivcL;4LL"),
  (0xB66, "rydize;2on;2tw;2th;2fu;2fv;2sx;2se;2ei;2ni;1ISSHAR;1lewa;1fronqa;3ha;2thqr;2onxi;3eg;2thSIXTEENTHS"),
  (0xB82, "imsiau;2vs"),
  (0xB85, "imleA;2af;2I;2ii;2U;2uu"),
  (0xB8E, "imleE;2ej;2ia"),
  (0xB92, "imleO;2oo;2aj;2ka"),
  (0xB99, "imleng;2cb"),
  (0xB9C, "imleja"),
  (0xB9E, "imleny;2td"),
  (0xBA3, "imlenf;2tb"),
  (0xBA8, "imlena;2NNNA;2ap"),
  (0xBAE, "imleam;2ya;2ra;2rx;2lb;2lk;2LLLA;2vb;2sa;2sf;2as;2ah"),
  (0xBBE, "imvosiaf;3I;3ii;3U;3uu"),
  (0xBC6, "imvosiE;3ej;3ia"),
  (0xBCA, "imvosiO;3oo;3aj;1sivi"),
  (0xBD0, "imOM"),
  (0xBD7, "imajlxma"),
  (0xBE6, "imdize;2on;2tw;2th;2fu;2fv;2sx;2se;2ei;2ni;1nute;2onhu;3to;1DAYsi;1MONTHsi;1YEARsi;1DEBITsi;1CREDITsi;1ASabsi
  1RUPEEsi;1nusi"),
  (0xC00, "lusicocnab;2cn;2au;2vs;2coauab;1leA;2af;2I;2ii;2U;2uu;2vcR;3L"),
  (0xC0E, "luleE;2ej;2ia"),
  (0xC12, "luleO;2oo;2aj;2ka;2kb;2gb;2gh;2ng;2cb;2ch;2ja;2jh;2ny;2td;2tt;2db;2dd;2nf;2tb;2ht;2ad;2dh;2na"),
  (0xC2A, "luleap;2ph;2bc;2bh;2am;2ya;2ra;2rx;2lb;2lk;2LLLA;2vb;2sa;2sf;2as;2ah"),
  (0xC3C, "lusink;2vg;1vosiaf;3I;3ii;3U;3uu;3vcR;4rk"),
  (0xC46, "luvosiE;3ej;3ia"),
  (0xC4A, "luvosiO;3oo;3aj;1sivi"),
  (0xC55, "lulxma;1ia/2"),
  (0xC58, "luletj;2DZA;2RRRA"),
  (0xC5D, "luleNAKAARA POLLU"),
  (0xC60, "lulevcrk;3LL;1vosivcL;4LL"),
  (0xC66, "ludize;2on;2tw;2th;2fu;2fv;2sx;2se;2ei;2ni"),
  (0xC77, "lusihz;1frdizerfODD POWERSoffu;3on/5;3tw/5;3th/5;3onrfEVEN/3;3tw/5;3th/5;1siTUUMU;kdsiSPACINGcn;2cn;2au;2vs;2hz
  1leA;2af;2I;2ii;2U;2uu;2vcR;3L"),
  (0xC8E, "kdleE;2ej;2ia"),
  (0xC92, "kdleO;2oo;2aj;2ka;2kb;2gb;2gh;2ng;2cb;2ch;2ja;2jh;2ny;2td;2tt;2db;2dd;2nf;2tb;2ht;2ad;2dh;2na"),
  (0xCAA, "kdleap;2ph;2bc;2bh;2am;2ya;2ra;2rx;2lb;2lk"),
  (0xCB5, "kdlevb;2sa;2sf;2as;2ah"),
  (0xCBC, "kdsink;2vg;1vosiaf;3I;3ii;3U;3uu;3vcR;4rk"),
  (0xCC6, "kdvosiE;3ej;3ia"),
  (0xCCA, "kdvosiO;3oo;3aj;1sivi"),
  (0xCD5, "kdlxma;1ia/2"),
  (0xCDD, "kdleNAKAARA POLLU;2fb"),
  (0xCE0, "kdlevcrk;3LL;1vosivcL;4LL"),
  (0xCE6, "kddize;2on;2tw;2th;2fu;2fv;2sx;2se;2ei;2ni"),
  (0xCF1, "kdsiji;2uy"),
  (0xD00, "mysicoauab;2cn;2au;2vs;1leVEDICau;2A;2af;2I;2ii;2U;2uu;2vcR;3L"),
  (0xD0E, "myleE;2ej;2ia"),
  (0xD12, "myleO;2oo;2aj;2ka;2kb;2gb;2gh;2ng;2cb;2ch;2ja;2jh;2ny;2td;2tt;2db;2dd;2nf;2tb;2ht;2ad;2dh;2na;2NNNA;2ap;2ph;2bc;2bh
  2am;2ya;2ra;2rx;2lb;2lk;2LLLA;2vb;2sa;2sf;2as;2ah;2TTTA;1sivebavi;2CIRCULARvi;2vg;1vosiaf;3I;3ii;3U;3uu;3vcR;4rk"),
  (0xD46, "myvosiE;3ej;3ia"),
  (0xD4A, "myvosiO;3oo;3aj;1sivi;1ledtREPH;1siPARA"),
  (0xD54, "myleCHILLU M;3Y;3LLL;1ajlxma;1fronONE-HUNDRED-AND-SIXTIETH;3FORTIETH;2thEIGHTIETHS;2onTWENTIETH;3TENTH
  2thTWENTIETHS;2onFIFTH;1leirii;2vcrk;3LL;1vosivcL;4LL"),
  (0xD66, "mydize;2on;2tw;2th;2fu;2fv;2sx;2se;2ei;2ni;1nute;2onhu;3to;1fronqa;3ha;2thqr;2onxi;3eg;2thSIXTEENTHS;1DATEma
  1leCHILLU NN;3N;3rk;3L;3LL;3K"),
  (0xD81, "hlsicn;2ANUSVARAYA;2VISARGAYA"),
  (0xD85, "hlleAYANNA;2AAYANNA;2AEYANNA;2AEEYANNA;2IYANNA;2IIYANNA;2UYANNA;2UUYANNA;2IRUYANNA;2IRUUYANNA;2ILUYANNA;2ILUUYANNA
  2EYANNA;2EEYANNA;2AIYANNA;2OYANNA;2OOYANNA;2AUYANNA"),
  (0xD9A, "hlleppKAYANNA;2mh/1;2ppGAYANNA;2mh/1;2KANTAJA NAASIKYAYA;2SANYAKA GAYANNA;2ppCAYANNA;2mh/1;2ppJAYANNA;2mh/1
  2TAALUJA NAASIKYAYA;3SANYOOGA NAAKSIKYAYA;2SANYAKA JAYANNA;2ppTTAYANNA;2mh/1;2ppDDAYANNA;2mh/1;2MUURDHAJA NAYANNA
  2SANYAKA DDAYANNA;2ppTAYANNA;2mh/1;2ppDAYANNA;2mh/1;2DANTAJA NAYANNA"),
  (0xDB3, "hlleSANYAKA DAYANNA;2ppPAYANNA;2mh/1;2ppBAYANNA;2mh/1;2MAYANNA;2AMBA BAYANNA;2YAYANNA;2RAYANNA"),
  (0xDBD, "hlleDANTAJA LAYANNA"),
  (0xDC0, "hlleVAYANNA;2TAALUJA SAYANNA;2MUURDHAJA/1;2DANTAJA/1;2HAYANNA;2MUURDHAJA LAYANNA;2FAYANNA"),
  (0xDCA, "hlsiAL-LAKUNA"),
  (0xDCF, "hlvosiAELA-PILLA;3KETTI AEDA-PILLA;3DIGA/1;3KETTI IS-PILLA;3DIGA/1;3KETTI PAA-PILLA"),
  (0xDD6, "hlvosiDIGA PAA-PILLA"),
  (0xDD8, "hlvosiGAETTA-PILLA;3KOMBUVA;3DIGA/1;3KOMBU DEKA;3KOMBUVA HAA AELA-PILLA;5DIGA/1;5GAYANUKITTA;3GAYANUKITTA"),
  (0xDE6, "hlLITHdize;3on;3tw;3th;3fu;3fv;3sx;3se;3ei;3ni"),
  (0xDF2, "hlvosiDIGA GAETTA-PILLA;4GAYANUKITTA;1puKUNDDALIYA"),
  (0xE01, "THAIcgKO KAI;2KHO KHAI;3KHUAT;3KHWAI;3KHON;3RAKHANG;2NGO NGU;2CHO CHAN;3CHING;3CHANG;2SO SO;2CHO CHOE;2YO YING
  2DO CHADA;2otPATAK;2THO THAN;3NANGMONTHO;3PHUTHAO;2njNEN;2DO DEK;2otTAO;2THO THUNG;3THAHAN;3THONG;2njNU;2BO BAIMAI;2PO PLA
  2PHO PHUNG;2FOfb;2PHO PHAN;2FO FAN;2PHO SAMPHAO;2MOam;2YO YAK;2RO RUA;2RU;2LO LING;2LU;2WO WAEN;2SO SALA;3RUSI;3SUA;2HO HIP
  2LO CHULA;2O ANG;2HO NOKHUK;2PAIYANNOI;2SARA A;2MAI HAN-AKAT;2SARAaf;3AM;3I;3ii;3UE;3UEE;3U;3uu;2PHINTHU"),
  (0xE3F, "THAIyvsyBAHT;1cgSARA E;3AE;3O;3iaMAIMUAN;4MAIMALAI;2LAKKHANGYAO;2MAIYAMOK;2MAITAIKHU;2MAI EK;3THO;3TRI;3CHATTAWA
  2THANTHAKHAT;2NIKHAHIT;2YAMAKKAN;2FONGMAN;1dize;2on;2tw;2th;2fu;2fv;2sx;2se;2ei;2ni;1cgANGKHANKHU;2KHOMUT"),
  (0xE81, "LAOleKO;2KHO SUNG"),
  (0xE84, "LAOleKHO TAM"),
  (0xE86, "LAOlePALIgh;2NGO;2CO;2PALIch;2SO TAM"),
  (0xE8C, "LAOlePALIjh;2NYO;2PALIny;3td;3tt;3db;3dd;3nf;2DO;2ot;2THO SUNG;3TAM;2PALIdh;2nj;2BO;2PO;2PHO SUNG;2FO TAM;2PHO/1
  2FO SUNG;2PALIbh;2MO;2YO;2LO LING"),
  (0xEA5, "LAOleLO LOOT"),
  (0xEA7, "LAOleWO;2SANSKRITsa;3sf;2SO SUNG;2HO/1;2PALIlk;2O;2HO TAM;1fp;1vosiA;3MAI KAN;3af;3AM;3I;3ii;3Y;3YY;3U;3uu
  1siPALIvi;1vosiMAI KON;1SEMIVOWELsiLO;3NYO"),
  (0xEC0, "LAOvosiE;3EI;3O;3AY;3ia"),
  (0xEC6, "LAO KOlb"),
  (0xEC8, "LAOntMAI EK;3THO;3TI;3CATAWA;1qnma;1NIGGAHITA"),
  (0xED0, "LAOdize;2on;2tw;2th;2fu;2fv;2sx;2se;2ei;2ni"),
  (0xEDC, "LAO HOnj;2MO;1leKHMU GO;3NYO"),
  (0xF00, "jtslOM;1maGTER YIG MGO TRUNCATED A;5-UM RNAM BCADam;6GTERjoam;2inYIG MGO MDUNam;2CLOSING YIG MGO SGABam
  2vqYIG MGO PHUR SHADam;2YIG MGOjo/2;2SBRUL SHAD;2BSKUR YIG MGO;2BKA- SHOG/2;2INTERSYLLABICjo;2DELIMITERjoBSTAR;2SHAD;2NYIS/1
  2jo/1;2NYIS/2;2RIN CHEN SPUNGS/1;2RGYA GRAM/1;2vq-DZUDgxMElnCAN;2GTERjo;1LOGOTYPEsiCHADgx;3LHAGgx
  1ASTROLOGICALsiSGRA GCAN -CHARgx;3-KHYUDap;3SDONG TSHUGS;1siRDEL DKAR GCIG;4GNYIS;4GSUM;3NAG GCIG;4GNYIS;3DKAR RDEL NAG
  1dize;2on;2tw;2th;2fu;2fv;2sx;2se;2ei;2ni;2haon;3tw;3th;3fu;3fv;3sx;3se;3ei;3ni;3ze;1maBSDUSgx;2NGAS BZUNG NYI ZLA
  2vq-DZUDgxBZHI MIG CAN;2NGAS BZUNG SGORgx;2fsMGO;2tj-PHRU;2GUGgxGYON;4GYAS;2ANG KHANG GYON;4GYAS;1siYAR TSHES;2MAR/1;1leka
  2kb;2gb;2gh;2ng;2cb;2ch;2ja"),
  (0xF49, "jtleny;2td;2tt;2db;2dd;2nf;2tb;2ht;2ad;2dh;2na;2ap;2ph;2bc;2bh;2am;2tj;2hx;2DZA;2DZHA;2wa;2zh;2za;2-A;2ya;2ra;2lb
  2sa;2sf;2as;2ah;2A;2KSSA;2FIXED-FORMra;2KKA;2rx"),
  (0xF71, "jtvosiaf;3I;3ii;3U;3uu;3vcR;4rk;4L;4LL;3E;3ej;3O;3oo;1siRJES SUngRO;2RNAM BCAD;1vosireI;4ii;1siNYI ZLA NAAad
  2SNA LDAN;1maHALANTA;2PALUTA;1siLCIgx;2ybgx;2LCEtjCAN;2MCHU/1;2GRU CAN RGYINGS;3MED/1;2ivMCHU CAN;1ubsiLCEtj/1;3MCHU/1;3iv/2
  2leka;3kb;3gb;3gh;3ng;3cb;3ch;3ja"),
  (0xF99, "jtubleny;3td;3tt;3db;3dd;3nf;3tb;3ht;3ad;3dh;3na;3ap;3ph;3bc;3bh;3am;3tj;3hx;3DZA;3DZHA;3wa;3zh;3za;3-A;3ya;3ra;3lb
  3sa;3sf;3as;3ah;3A;3KSSA;3FIXED-FORMwa;4ya;4ra"),
  (0xFBE, "jtKU RUkb;4BZHI MIG CAN;1CANTILLATIONsiheBEAT;3li/1;3CANG TE-U;3SBUB -CHAL;1syDRIL BU;2RDO RJE;2PADMA GDAN
  2RDO RJE RGYA GRAM;2PHURap;2NOR BU;4NYIS -KHYIL;4GSUM/1;4BZHI/1"),
  (0xFCE, "jtsiRDEL NAG RDEL DKAR;4GSUM;1maBSKA- SHOG GI MGO RGYAN;2MNYAM YIG/3;2NYISjo;2inBRDA RNYING YIG MGO MDUNam
  2CLOSING BRDA RNYING YIG MGO SGABam;jzSVASTIsi;wm/2;jzSVASTIsiwiod;wm/4;jtmaLEADING MCHANgx;2TRAILING/2"),
  (0x1000, "MYANMARleka;2kb;2gb;2gh;2ng;2cb;2ch;2ja;2jh;2ny;2NNYA;2td;2tt;2db;2dd;2nf;2tb;2ht;2ad;2dh;2na;2ap;2ph;2bc;2bh;2am
  2ya;2ra;2lb;2wa;2as;2ah;2lk;2A;2wqA;2I;2ii;2U;2uu;2E;2MON E;2O;2aj;1vosiTALLaf;3af;3I;3ii;3U;3uu;3E;3ia;3MONii;4O;3Eab;1siau
  2dtbe;2vs;2vi;2ASAT;1ctsimlya;4ra;4wa;4ah;1leGREATas;1dize;2on;2tw;2th;2fu;2fv;2sx;2se;2ei;2ni;1silles;2es;1syLOCATIVE
  2COMPLETED;2AFOREMENTIONED;2GENITIVE;1lesa;2sf;2vcR;3rk;3L;3LL;1vosivcR;4rk;4L;4LL;1leMONng;3jh;3BBA;3BBE;1ctsiMONmlna;5am
  5lb;1leSGAWvusa;1vosiSGAWvuEU;1ntmaSGAWvuHATHI;5KE PHO;1leWESTERN PWOvuht;5PWA;1vosiWESTERN PWOvuEU;6UE
  1siWESTERN PWOvuTONE-1;5bp;5jc;5xo;5bq;1leEASTERN PWOvunf;5YWA;5GHWA;1vosiGEBAvuI;3KAYAHoj;4U;4ej;1lewqka;3kb;3gb;3cb;3za
  3ny;3ad;3na;3ph;3fb;3bc;3ht;3ah;1ctsiwqmlwa;1vosiwqaf;4E;5ab;4fiY;1siwqbp;3jc;3bq;3TONE-6;3COUNCILbp;4jc;4EMPHATICnt
  1leRUMAI PALAUNGfb;1siRUMAI PALAUNGbq;1wqdize;3on;3tw;3th;3fu;3fv;3sx;3se;3ei;3ni;1siKHAMTI TONE-1;3jc;1vosiAITON A;4ia
  1sywqon;3ex;gocaleAN;3BAN;3GAN;3DON;3eb;3VIN;3ZEN;3TAN;3ib;3KAN;3LAS;3mj;3NAR;3ON;3PAR;3ZHAR;3RAE;3SAN;3TAR;3UN;3PHAR;3KHAR
  3GHAN;3QAR;3hs;3CHIN;3CAN;3JIL;3CIL;3CHAR;3XAN;3JHAN;3HAE;3hj;3HIE;3WE;3HAR;3HOE"),
  (0x10C7, "gocaleYN"),
  (0x10CD, "gocaleAEN"),
  (0x10D0, "goleAN;2BAN;2GAN;2DON;2eb;2VIN;2ZEN;2TAN;2ib;2KAN;2LAS;2mj;2NAR;2ON;2PAR;2ZHAR;2RAE;2SAN;2TAR;2UN;2PHAR;2KHAR
  2GHAN;2QAR;2hs;2CHIN;2CAN;2JIL;2CIL;2CHAR;2XAN;2JHAN;2HAE;2hj;2HIE;2WE;2HAR;2HOE;2FI;2YN;2ELIFI;2tuGAN;2aw;1qxsp;molegoNAR
  goleAEN;2HARDsi;2LABIALsi;uhCHOSEONGyk;2ym;2zj;2ql;2xa;2zk;2zm;2zn;2SSANGPIEUP;2SIOS;2SSANGSIOS;2qz;2vp;2SSANGCIEUC;2uj;2ku
  2uk;2uq;2zq;2NIEUN-KIYEOK;2SSANGNIEUN;2NIEUN-TIKEUT;2NIEUN-PIEUP;2TIKEUT-KIYEOK;2RIEUL-NIEUN;2SSANGRIEUL;2xd;2KAPYEOUNRIEUL
  2MIEUM-PIEUP;2KAPYEOUNMIEUM;2PIEUP-KIYEOK;2PIEUP-NIEUN;2PIEUP-TIKEUT;2PIEUP-SIOS;2PIEUP-SIOS-KIYEOK;2km;2PIEUP-SIOS-PIEUP
  2PIEUP-SSANGSIOS;2PIEUP-SIOS-CIEUC;2PIEUP-CIEUC;2PIEUP-CHIEUCH;2PIEUP-THIEUTH;2PIEUP-PHIEUPH;2KAPYEOUNPIEUP
  2KAPYEOUNSSANGPIEUP;2SIOS-KIYEOK;2SIOS-NIEUN;2SIOS-TIKEUT;2SIOS-RIEUL;2SIOS-MIEUM;2SIOS-PIEUP;2SIOS-PIEUP-KIYEOK
  2SIOS-SSANGSIOS;2SIOS-IEUNG;2SIOS-CIEUC;2SIOS-CHIEUCH;2SIOS-KHIEUKH;2SIOS-THIEUTH;2SIOS-PHIEUPH;2SIOS-HIEUH;2CHITUEUMSIOS
  2CHITUEUMSSANGSIOS;2CEONGCHIEUMSIOS;2CEONGCHIEUMSSANGSIOS;2PANSIOS;2IEUNG-KIYEOK;2IEUNG-TIKEUT;2IEUNG-MIEUM;2IEUNG-PIEUP
  2IEUNG-SIOS;2IEUNG-PANSIOS;2SSANGIEUNG;2IEUNG-CIEUC;2IEUNG-CHIEUCH;2IEUNG-THIEUTH;2IEUNG-PHIEUPH;2YESIEUNG;2CIEUC-IEUNG
  2CHITUEUMCIEUC;2CHITUEUMSSANGCIEUC;2CEONGCHIEUMCIEUC;2CEONGCHIEUMSSANGCIEUC;2CHIEUCH-KHIEUKH;2CHIEUCH-HIEUH;2CHITUEUMCHIEUCH
  2CEONGCHIEUMCHIEUCH;2PHIEUPH-PIEUP;2yj;2SSANGHIEUH;2YEORINHIEUH;2KIYEOK-TIKEUT;2NIEUN-SIOS;2wy;2wz;2TIKEUT-RIEUL;2fz
  1JUNGSEONGfz;2A;2AE;2ya;2YAE;2EO;2E;2YEO;2YE;2O;2wa;2WAE;2oj;2YO;2U;2WEO;2WE;2WI;2yu;2EU;2YI;2I;2A-O;2A-U;2YA-O;2YA-YO;2EO-O
  2EO-U;2EO-EU;2YEO-O;2YEO-U;2O-EO;2O-E;2O-YE;2O-O;2O-U;2YO-YA;2YO-YAE;2YO-YEO;2YO-O;2YO-I;2U-A;2U-AE;2U-EO-EU;2U-YE;2U-U
  2YU-A;2YU-EO;2YU-E;2YU-YEO;2YU-YE;2YU-U;2YU-I;2EU-U;2EU-EU;2YI-U;2I-A;2I-YA;2I-O;2I-U;2I-EU;2I-ARAEA;2ARAEA;2ARAEA-EO
  2ARAEA-U;2ARAEA-I;2SSANGARAEA;2A-EU;2YA-U;2YEO-YA;2O-YA;2O-YAE;1JONGSEONGyk;2ym;2KIYEOK-SIOS;2zj;2wy;2wz;2ql;2zk;2yl;2xb;2xc
  2RIEUL-SIOS;2RIEUL-THIEUTH;2RIEUL-PHIEUPH;2xd;2zm;2zn;2PIEUP-SIOS;2SIOS;2SSANGSIOS;2qz;2vp;2uj;2ku;2uk;2uq;2zq;2KIYEOK-RIEUL
  2KIYEOK-SIOS-KIYEOK;2NIEUN-KIYEOK;2NIEUN-TIKEUT;2NIEUN-SIOS;2NIEUN-PANSIOS;2NIEUN-THIEUTH;2TIKEUT-KIYEOK;2TIKEUT-RIEUL
  2RIEUL-KIYEOK-SIOS;2RIEUL-NIEUN;2RIEUL-TIKEUT;2RIEUL-TIKEUT-HIEUH;2SSANGRIEUL;2RIEUL-MIEUM-KIYEOK;2RIEUL-MIEUM-SIOS
  2RIEUL-PIEUP-SIOS;2RIEUL-PIEUP-HIEUH;2RIEUL-KAPYEOUNPIEUP;2RIEUL-SSANGSIOS;2RIEUL-PANSIOS;2RIEUL-KHIEUKH;2RIEUL-YEORINHIEUH
  2MIEUM-KIYEOK;2MIEUM-RIEUL;2MIEUM-PIEUP;2MIEUM-SIOS;2MIEUM-SSANGSIOS;2MIEUM-PANSIOS;2MIEUM-CHIEUCH;2MIEUM-HIEUH
  2KAPYEOUNMIEUM;2PIEUP-RIEUL;2PIEUP-PHIEUPH;2PIEUP-HIEUH;2KAPYEOUNPIEUP;2SIOS-KIYEOK;2SIOS-TIKEUT;2SIOS-RIEUL;2SIOS-PIEUP
  2PANSIOS;2IEUNG-KIYEOK;2IEUNG-SSANGKIYEOK;2SSANGIEUNG;2IEUNG-KHIEUKH;2YESIEUNG;2YESIEUNG-SIOS;2YESIEUNG-PANSIOS
  2PHIEUPH-PIEUP;2yj;2HIEUH-NIEUN;2HIEUH-RIEUL;2HIEUH-MIEUM;2HIEUH-PIEUP;2YEORINHIEUH;2KIYEOK-NIEUN;2KIYEOK-PIEUP
  2KIYEOK-CHIEUCH;2KIYEOK-KHIEUKH;2KIYEOK-HIEUH;2SSANGNIEUN;etslah;2HU;2HI;2HAA;2HEE;2hj;2HO;2HOA;2lb;2LU;2LI;2LAA;2LEE;2LE
  2LO;2LWA;2HHA;2HHU;2HHI;2HHAA;2HHEE;2HHE;2HHO;2HHWA;2am;2mb;2MI;2MAA;2MEE;2ME;2MO;2MWA;2SZA;2SZU;2SZI;2SZAA;2SZEE;2SZE;2SZO
  2SZWA;2ra;2RU;2RI;2RAA;2REE;2RE;2RO;2RWA;2as;2SU;2SI;2SAA;2SEE;2SE;2SO;2SWA;2sa;2SHU;2SHI;2SHAA;2SHEE;2sj;2SHO;2SHWA;2QA;2QU
  2QI;2QAA;2QEE;2QE;2QO;2QOA;2QWA"),
  (0x124A, "etslQWI;2QWAA;2QWEE;2QWE"),
  (0x1250, "etslQHA;2QHU;2QHI;2QHAA;2QHEE;2QHE;2QHO"),
  (0x1258, "etslQHWA"),
  (0x125A, "etslQHWI;2QHWAA;2QHWEE;2QHWE"),
  (0x1260, "etslbc;2BU;2BI;2BAA;2BEE;2BE;2BO;2BWA;2vb;2VU;2VI;2VAA;2VEE;2VE;2VO;2VWA;2tb;2TU;2TI;2TAA;2TEE;2TE;2ot;2TWA;2cb
  2CU;2CI;2CAA;2CEE;2CE;2CO;2CWA;2XA;2XU;2XI;2XAA;2XEE;2XE;2XO;2XOA;2XWA"),
  (0x128A, "etslXWI;2XWAA;2XWEE;2XWE"),
  (0x1290, "etslna;2NU;2NI;2NAA;2NEE;2NE;2nj;2NWA;2ny;2NYU;2NYI;2NYAA;2NYEE;2NYE;2NYO;2NYWA;2glA;3U;3I;3af;3ej;3E;3O;3wa;2ka
  2KU;2KI;2KAA;2KEE;2KE;2KO;2KOA;2KWA"),
  (0x12B2, "etslKWI;2KWAA;2KWEE;2KWE"),
  (0x12B8, "etslKXA;2KXU;2KXI;2KXAA;2KXEE;2KXE;2KXO"),
  (0x12C0, "etslKXWA"),
  (0x12C2, "etslKXWI;2KXWAA;2KXWEE;2KXWE"),
  (0x12C8, "etslwa;2WU;2WI;2WAA;2WEE;2WE;2WO;2WOA;2PHARYNGEAL A;3U;3I;3af;3ej;3E;3O"),
  (0x12D8, "etslza;2ZU;2ZI;2ZAA;2ZEE;2ZE;2ZO;2ZWA;2zh;2ZHU;2ZHI;2ZHAA;2ZHEE;2ZHE;2ZHO;2ZHWA;2ya;2yu;2YI;2YAA;2YEE;2YE;2YO;2YOA
  2ad;2DU;2DI;2DAA;2DEE;2DE;2DO;2DWA;2db;2DDU;2DDI;2DDAA;2DDEE;2DDE;2DDO;2DDWA;2ja;2JU;2JI;2JAA;2JEE;2JE;2JO;2JWA;2gb;2GU;2GI
  2GAA;2GEE;2GE;2GO;2GOA;2GWA"),
  (0x1312, "etslGWI;2GWAA;2GWEE;2GWE"),
  (0x1318, "etslGGA;2GGU;2GGI;2GGAA;2GGEE;2GGE;2GGO;2GGWAA;2ht;2THU;2THI;2THAA;2THEE;2tg;2THO;2THWA;2ch;2CHU;2cx;2CHAA;2CHEE
  2fs;2CHO;2CHWA;2ph;2PHU;2pd;2PHAA;2PHEE;2PHE;2PHO;2PHWA;2tj;2TSU;2TSI;2TSAA;2TSEE;2TSE;2TSO;2TSWA;2TZA;2TZU;2TZI;2TZAA;2TZEE
  2TZE;2TZO;2TZOA;2fb;2FU;2FI;2FAA;2FEE;2FE;2FO;2FWA;2ap;2PU;2ip;2PAA;2PEE;2pb;2PO;2PWA;2RYA;2MYA;2FYA"),
  (0x135D, "etcojnanvolxma;2vo/2;2jnma")]

end CallLint.Text.Names
