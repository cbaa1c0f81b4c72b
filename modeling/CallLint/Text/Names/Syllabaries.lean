/-!
# Names of characters from U+1360 to U+1FFF

Those of syllabaries, further scripts, and letters with further marks.
-/

namespace CallLint.Text.Names

/-- The names of runs of characters, each with the number of its first one. -/
def syllabaries : List (Nat × String) := [
  (0x1360, "etesma;1WORDSPACE;1flts;1cm;1em;1oc;1PREFACEoc;1quma;1qxsp;1dion;2tw;2th;2fu;2fv;2sx;2se;2ei;2ni;1nute;2tn;2ty;2ft
  2ff;2ix;2sv;2ey;2iy;2hu;2teto"),
  (0x1380, "etslSEBATBEIT MWA;2MWI;2MWEE;2MWE;2SEBATBEIT BWA;2BWI;2BWEE;2BWE;2SEBATBEIT FWA;2FWI;2FWEE;2FWE;2SEBATBEIT PWA
  2PWI;2PWEE;2PWE;1TONALmaYIZET;3DERET;3RIKRIK;3sh/1;3DIFAT;3KENAT;3CHIRET;3HIDET;3DERET-HIDET;3KURT"),
  (0x13A0, "CHEROKEEleA;2E;2I;2O;2U;2V;2gb;2ka;2GE;2GI;2GO;2GU;2GV;2ah;2hj;2HI;2HO;2HU;2HV;2lb;2LE;2LI;2LO;2LU;2LV;2am;2ME;2MI
  2MO;2mb;2na;2HNA;2NAH;2NE;2NI;2nj;2NU;2NV;2QUA;2QUE;2QUI;2QUO;2QUU;2QUV;2as;2S;2SE;2SI;2SO;2SU;2SV;2ad;2tb;2DE;2TE;2DI;2TI
  2DO;2DU;2DV;2DLA;2TLA;2TLE;2TLI;2TLO;2TLU;2TLV;2tj;2TSE;2TSI;2TSO;2TSU;2TSV;2wa;2WE;2WI;2WO;2WU;2WV;2ya;2YE;2YI;2YO;2yu;2YV
  2MV"),
  (0x13F8, "CHEROKEEsmleYE;3YI;3YO;3yu;3YV;3MV"),
  (0x1400, "CANADIAN SYLLABICShy;2E;2AAI;2I;2ii;2O;2oo;2ycoo;2cqej;3I;2A;2af;2WE;2weWE;2WI;2weWI;2WII;2we/1;2WO;2weWO;2WOO
  2we/1;2pk/1;2wa;2wewa;2WAA;2we/1;2pk/1;2ia;2ycW;2glts;2fiac;3ga;3btharn;3pt/2;3ri/2;3rn;3doac;4shveSTROKES;3midt;3shhost;3pl
  3dntk;2eb;2ib;2ON;2AN;2pb;2PAAI;2ip;2PII;2PO;2POO;2yc/1;2cqHEE;3HI;2ap;2PAA;2PWE;2we/1;2PWI;2we/1;2PWII;2we/1;2PWO;2we/1
  2PWOO;2we/1;2PWA;2we/1;2PWAA;2we/1;2yc/1;2P;2weP;2cqH;2TE;2TAAI;2TI;2TII;2ot;2TOO;2yc/1;2cqDEE;3DI;2tb;2TAA;2TWE;2we/1;2TWI
  2we/1;2TWII;2we/1;2tw;2wetw;2TWOO;2we/1;2TWA;2we/1;2TWAA;2we/1;2pk/1;2T;2TTE;2TTI;2TTO;2td;2KE;2KAAI;2KI;2KII;2KO;2KOO;2yc/1
  2ka;2KAA;2KWE;2we/1;2KWI;2we/1;2KWII;2we/1;2KWO;2we/1;2KWOO;2we/1;2KWA;2we/1;2KWAA;2we/1;2pk/1;2K;2KW;2SOUTH-SLAVEY KEH;3KIH
  3KOH;3KAH;2CE;2CAAI;2CI;2CII;2CO;2COO;2yc/1;2cb;2CAA;2CWE;2we/1;2CWI;2we/1;2CWII;2we/1;2CWO;2we/1;2CWOO;2we/1;2CWA;2we/1
  2CWAA;2we/1;2pk/1;2C;2yiTH;2ME;2MAAI;2MI;2MII;2MO;2MOO;2yc/1;2am;2MAA;2MWE;2we/1;2MWI;2we/1;2MWII;2we/1;2MWO;2we/1;2MWOO
  2we/1;2MWA;2we/1;2MWAA;2we/1;2pk/1;2M;2weM;2MH;2ATHAPASCAN M;2yiM;2NE;2NAAI;2NI;2NII;2nj;2NOO;2yc/1;2na;2NAA;2NWE;2we/1;2NWA
  2we/1;2NWAA;2we/1;2pk/1;2N;2cqNG;2NH;2LE;2LAAI;2LI;2LII;2LO;2LOO;2yc/1;2lb;2LAA;2LWE;2we/1;2LWI;2we/1;2LWII;2we/1;2LWO;2we/1
  2LWOO;2we/1;2LWA;2we/1;2LWAA;2we/1;2L;2weL;2mlL;2SE;2SAAI;2SI;2SII;2SO;2SOO;2yc/1;2as;2SAA;2SWE;2we/1;2SWI;2we/1;2SWII;2we/1
  2SWO;2we/1;2SWOO;2we/1;2SWA;2we/1;2SWAA;2we/1;2pk/1;2S;2ATHAPASCAN S;2SW;2BLACKFOOT S;2MOOSE-CREE SK;2pkSKW;3S-W;3SPWA;3STWA
  3SKWA;3SCWA;2sj;2SHI;2SHII;2SHO;2SHOO;2sa;2SHAA;2SHWE;2we/1;2SHWI;2we/1;2SHWII;2we/1;2SHWO;2we/1;2SHWOO;2we/1;2SHWA;2we/1
  2SHWAA;2we/1;2SH;2YE;2YAAI;2YI;2YII;2YO;2YOO;2yc/1;2ya;2YAA;2YWE;2we/1;2YWI;2we/1;2YWII;2we/1;2YWO;2we/1;2YWOO;2we/1;2YWA
  2we/1;2YWAA;2we/1;2pk/1;2Y;2BIBLE-CREE Y;2weY;2yiYI;2RE;2R-CREE/1;2weLE;2RAAI;2RI;2RII;2RO;2ROO;2weLO;2ra;2RAA;2welb;2RWAA
  2we/1;2R;2weR;2mlR;2FE;2FAAI;2FI;2FII;2FO;2FOO;2fb;2FAA;2FWAA;2we/1;2F;2tg;2N-CREEtg;2THI;2N-CREE/1;2THII;2N-CREE/1;2THO
  2THOO;2ht;2THAA;2THWAA;2we/1;2TH;2TTHE;2TTHI;2TTHO;2tt;2TTH;2TYE;2TYI;2TYO;2TYA;2NUNAVIKhj;3HI;3HII;3HO;3HOO;3ah;3HAA;3H
  2NUNAVUT H;2HK;2QAAI;2QI;2QII;2QO;2QOO;2QA;2QAA;2Q;2TLHE;2TLHI;2TLHO;2TLHA;2weRE;3RI;3RO;3ra;2NGAAI;2NGI;2NGII;2NGO;2NGOO
  2ng;2NGAA;2NG;2NNG;2yisj;3SHI;3SHO;3sa;2WOODS-CREEtg;3THI;3THO;3ht;3TH;2LHI;2LHII;2LHO;2LHOO;2LHA;2LHAA;2LH;2TH-CREEtg;3THI
  3THII;3THO;3THOO;3ht;3THAA;3TH;2AIVILIK B;2BLACKFOOT E;3I;3O;3A;3WE;3WI;3WO;3wa;3NE;3NI;3nj;3na;3KE;3KI;3KO;3ka;2yihj;3HI
  3HO;3ah;2cqGHU;3GHO;3GHE;3GHEE;3GHI;3gh;3RU;3RO;3RE;3REE;3RI;3ra;3WU;3WO;3WE;3WEE;3WI;3wa;3HWU;3HWO;3HWE;3HWEE;3HWI;3HWA
  3THU;3THO;3tg;3THEE;3THI;3ht;3TTU;3TTO;3TTE;3TTEE;3TTI;3td;3PU;3PO;3pb;3PEE;3ip;3ap;3P;3GU;3GO;3GE;3GEE;3GI;3gb;3KHU;3KHO
  3KHE;3KHEE;3KHI;3kb;3KKU;3KKO;3KKE;3KKEE;3KKI;3KKA;3KK;3NU;3nj;3NE;3NEE;3NI;3na;3mb;3MO;3ME;3MEE;3MI;3am;3yu;3YO;3YE;3YEE
  3YI;3ya;3JU;2yiJU;2cqJO;3JE;3JEE;3JI;2yiJI;2cqja;3JJU;3JJO;3JJE;3JJEE;3JJI;3JJA;3LU;3LO;3LE;3LEE;3LI;3lb;3DLU;3DLO;3DLE
  3DLEE;3DLI;3DLA;3LHU;3LHO;3LHE;3LHEE;3LHI;3LHA;3TLHU;3TLHO;3TLHE;3TLHEE;3TLHI;3TLHA;3TLU;3TLO;3TLE;3TLEE;3TLI;3TLA;3ZU;3ZO
  3ZE;3ZEE;3ZI;3za;3Z;3inZ;3DZU;3DZO;3DZE;3DZEE;3DZI;3DZA;3SU;3SO;3SE;3SEE;3SI;3as;3SHU;3SHO;3sj;3SHEE;3SHI;3sa;3SH;3TSU;3TSO
  3TSE;3TSEE;3TSI;3tj;3CHU;3CHO;3fs;3CHEE;3cx;3ch;3TTSU;3TTSO;3TTSE;3TTSEE;3TTSI;3TTSA;2cxsi;2flts;2QAI;2NGAI;2NNGI;2NNGII
  2NNGO;2NNGOO;2NNGA;2NNGAA;2WOODS-CREE THWEE;3THWI;3THWII;3THWO;3THWOO;3THWA;3THWAA;3fiTH;2BLACKFOOT W;OGHAMpcma;1leBEITH
  2LUIS;2FEARN;2SAIL;2NION;2UATH;2DAIR;2TINNE;2COLL;2CEIRT;2MUIN;2GORT;2NGEADAL;2STRAIF;2RUIS;2AILM;2ONN;2UR;2EADHADH;2IODHADH
  2EABHADH;2ob;2UILLEANN;2IFIN;2EAMHANCHOLL;2PEITH;1FEATHERma;1re/2"),
  (0x16A0, "RUNICleFEHU FEOH FE F;2V;2URUZ UR U;2YR;2Y;2W;2THURISAZ THURS THORN;2ETH;2ANSUZ A;2OS O;2AC A;2AESC
  2LONG-BRANCH-OSS O;2SHORT-TWIG-OSS O;2O;2oj;2ON;2RAIDO RAD REID R;2KAUNA;2CEN;2KAUN K;2G;2ENG;2GEBO GYFU G;2gg;2WUNJO WYNN W
  2HAGLAZ H;2HAEGL H;2LONG-BRANCH-HAGALL H;2SHORT-TWIG-HAGALL H;2NAUDIZ NYD NAUD N;2SHORT-TWIG-NAUD N;2DOTTED-N;2ISAZ IS ISS I
  2E;2JERAN J;2GER;2LONG-BRANCH-AR AE;2SHORT-TWIG-AR A;2IWAZ EOH;2PERTHO PEORTH P;2ALGIZ EOLHX;2SOWILO S
  2SIGEL LONG-BRANCH-SOL S;2SHORT-TWIG-SOL S;2C;2Z;2TIWAZ TIR TYR T;2SHORT-TWIG-TYR T;2D;2BERKANAN BEORC BJARKAN B
  2SHORT-TWIG-BJARKAN B;2DOTTED-P;2OPEN-P;2EHWAZ EH E;2MANNAZmjM;2LONG-BRANCH-MADR M;2SHORT-TWIG-MADR M;2LAUKAZ LAGU LOGR L
  2DOTTED-L;2INGWAZ;2ING;2DAGAZ DAEG D;2OTHALAN ETHEL O;2EAR;2IOR;2CWEORTH;2CALC;2CEALC;2STAN;2LONG-BRANCH-YR;2SHORT-TWIG-YR
  2ICELANDIC-YR;2Q;2X;1snpu;1mppu;1rcpu;1ARLAUGsy;1TVIMADURsy;1BELGTHORsy;1leK;2SH;2oo;2FRANKS CASKET OS;4IS;4EH;4AC;4AESC"),
  (0x1700, "TAGALOGleA;2I;2U;2ka;2gb;2ng;2tb;2ad;2na;2ap;2bc;2am;2ya;2ra;2lb;2wa;2as;2ah;1vosiI;3U;1sivi;2PAMUDPOD"),
  (0x171F, "TAGALOGleirra;HANUNOOleA;2I;2U;2ka;2gb;2ng;2tb;2ad;2na;2ap;2bc;2am;2ya;2ra;2lb;2wa;2as;2ah;1vosiI;3U;1siPAMUDPOD
  PHILIPPINEsnpu;1dopu"),
  (0x1740, "BUHIDleA;2I;2U;2ka;2gb;2ng;2tb;2ad;2na;2ap;2bc;2am;2ya;2ra;2lb;2wa;2as;2ah;1vosiI;3U"),
  (0x1760, "TAGBANWAleA;2I;2U;2ka;2gb;2ng;2tb;2ad;2na;2ap;2bc;2am;2ya"),
  (0x176E, "TAGBANWAlelb;2wa;2as"),
  (0x1772, "TAGBANWAvosiI;3U"),
  (0x1780, "KHMERleka;2kb;2KO;2KHO;2NGO;2cb;2ch;2CO;2CHO;2NYO;2ad;2tt;2DO;2TTHO;2NNO;2tb;2ht;2ot;2THO;2nj;2bc;2ph;2PO;2PHO;2MO
  2YO;2RO;2LO;2VO;2sa;2SSO;2as;2ah;2lb;2QA;1iwvoQAQ;3QAA;3QI;3QII;3QU;3QUK;3QUU;3QUUV;3RY;3RYY;3LY;3LYY;3QE;3QAI;3QOO TYPEon
  5tw;3QAU;1voINHERENT AQ;3af;2siaf;3I;3ii;3Y;3YY;3U;3uu;3UA;3oj;3ya;3IE;3E;3AE;3ia;3oo;3aj;1siNIKAHIT;2REAHMUK;2YUUKALEAPINTU
  2MUUSIKATOAN;2TRIISAP;2BANTOC;2ROBAT;2TOANDAKHIAT;2KAKABAT;2AHSDA;2SAMYOK SANNYA;2VIRIAM;2COENG;2BATHAMASAT;2KHAN
  2BARIYOOSAN;2CAMNUC PII KUUH;2LEK TOO;2BEYYAL;2PHNAEK MUAN;2KOOMUUT;1yvsyRIEL;1siAVAKRAHASANYA;2ATTHACAN"),
  (0x17E0, "KHMERdize;2on;2tw;2th;2fu;2fv;2sx;2se;2ei;2ni"),
  (0x17F0, "KHMERsyLEK ATTAK SON;4MUOY;4PII;4BEI;4BUON;4PRAM;4PRAM-MUOY;4PRAM-PII;4PRAM-BEI;4PRAM-BUON"),
  (0x1800, "MONGOLIANzc;1fp;1cm;1flts;1oc;1fuod;1TODOwkhy;1SIBEslBOUNDARY MARKER;1MANCHUcm;2flts;1NIRUGU;1FREEvkSELECTORon;4tw
  4th;1vosp;1FREEvkSELECTORfu;1dize;2on;2tw;2th;2fu;2fv;2sx;2se;2ei;2ni"),
  (0x1820, "MONGOLIANleA;2E;2I;2O;2U;2oj;2UE;2ej;2na;2ANG;2bc;2ap;2QA;2gb;2am;2lb;2as;2sa;2tb;2ad;2ch;2ja;2ya;2ra;2wa;2fb;2ka
  2kb;2tj;2za;2HAA;2ZRA;2LHA;2ZHI;2cx;2TODOlnvosi;3E;3I;3O;3U;3oj;3UE;3ANG;3bc;3ap;3QA;3gb;3am;3tb;3ad;3ch;3ja;3tj;3ya;3wa;3ka
  3GAA;3HAA;3JIA;3NIA;3DZA;2SIBE E;3I;3IY;3UE;3U;3ANG;3ka;3gb;3ah;3ap;3sa;3tb;3ad;3ja;3fb;3GAA;3HAA;3tj;3za;3RAA;3ch;3zh
  2MANCHU I;3ka;3ra;3fb;3zh;2chwitwod"),
  (0x1880, "MONGOLIANleALI GALIauon;4vson;4DAMARU;4UBADAMA;4iv/1;4BALUDA;4th/1;4A;4I;4ka;4ng;4cb;4td;4tt;4db;4nf;4tb;4ad;4ap
  4ph;4sf;4zh;4za;4AH;2TODO ALI GALItb;5zh;2MANCHU ALI GALIgh;5ng;5cb;5jh;5td;5dd;5tb;5dh;5sf;5CYA;5zh;5za;2ALI GALIhaU;5ya
  2MANCHU ALI GALIbh;2ALI GALI DAGALGA;2MANCHU ALI GALI LHA"),
  (0x18B0, "CANADIAN SYLLABICS OY;2AY;2AAY;2WAY;2POY;2PAY;2PWOY;2TAY;2KAY;2KWAY;2MAY;2NOY;2NAY;2LAY;2SOY;2SAY;2SHOY;2SHAY
  2SHWOY;2YOY;2YAY;2RAY;2NWI;2OJIBWAY/1;2NWII;2OJIBWAY/1;2NWO;2OJIBWAY/1;2NWOO;2OJIBWAY/1;2RWEE;2RWI;2RWII;2RWO;2RWOO;2RWA
  2OJIBWAY P;3T;3K;3C;3M;3N;3S;3SH;2EASTERN W;2WESTERN W;2fismrn;3rddt;2R-CREE RWE;2weLOO;3LAA;2THWE;2THWA;2TTHWE;2TTHOO
  2TTHAA;2TLHWE;2TLHOO;2yiSHWE;3SHOO;3HOO;2cqGWU;3DENE GEE;3GAA;3GWA;2yiJUU;2cqJWA;2BEAVER DENE L;4R;2cqDENTAL S"),
  (0x1900, "LIMBU VOWEL-CARRIERle;1leka;2kb;2gb;2gh;2ng;2cb;2ch;2ja;2jh;2YAN;2tb;2ht;2ad;2dh;2na;2ap;2ph;2bc;2bh;2am;2ya;2ra
  2lb;2wa;2sa;2sf;2as;2ah;2GYAN;2TRA"),
  (0x1920, "LIMBUvosiA;3I;3U;3ej;3ia;3oo;3aj;3E;3O;1ubleya;3ra;3wa"),
  (0x1930, "LIMBUsmleka;3ng;3au;3tb;3na;3ap;3am;3ra;3lb;1siMUKPHRENG;2KEMPHRENG;2SA-I"),
  (0x1940, "LIMBUsiLOO"),
  (0x1944, "LIMBUexma;1quma;1dize;2on;2tw;2th;2fu;2fv;2sx;2se;2ei;2ni;fyLEleka;3XA;3ng;3tj;3as;3ya;3tb;3ht;3lb;3ap;3ph;3am;3fb
  3vb;3ah;3QA;3kb;3hx;3na;3A;3I;3ej;3EH;3U;3oo;3O;3UE;3E;3AUE;3ia"),
  (0x1970, "fyLElebp;3jc;3xo;3bq;3TONE-6"),
  (0x1980, "NEWfyLUElehiQA;4lwQA;4hika;5XA;5ng;4lwka;5XA;5ng;4hitj;5as;5ya;4lwtj;5as;5ya;4hitb;5ht;5na;4lwtb;5ht;5na;4hiap;5ph
  5am;4lwap;5ph;5am;4hifb;5vb;5lb;4lwfb;5vb;5lb;4hiah;5ad;5bc;4lwah;5ad;5bc;4hiKVA;5XVA;4lwKVA;5XVA;4hiSUA;4lw/1"),
  (0x19B0, "NEWfyLUEvosivoSHORTENER;5af;5ii;5U;5uu;5E;5AE;5O;5OA;5UE;5AY;5AAY;5UY;5OY;5OAY;5UEY;5IY;3lefiV;5NG;5N;5M;5K;5D;5B
  3ntMARK-1;4MARK-2"),
  (0x19D0, "NEWfyLUEdize;4on;4tw;4th;4fu;4fv;4sx;4se;4ei;4ni;3THAMdion"),
  (0x19DE, "NEWfyLUEsiLAE;4LAEV;KHMERsyPATHAMASAT;2MUOY KOET;2PII/1;2BEI/1;2BUON/1;2PRAM/1;2PRAM-MUOY/1;2PRAM-PII/1
  2PRAM-BEI/1;2PRAM-BUON/1;2DAP/1;2DAP-MUOY/1;2DAP-PII/1;2DAP-BEI/1;2DAP-BUON/1;2DAP-PRAM/1;2TUTEYASAT;2MUOY ROC;2PII/1;2BEI/1
  2BUON/1;2PRAM/1;2PRAM-MUOY/1;2PRAM-PII/1;2PRAM-BEI/1;2PRAM-BUON/1;2DAP/1;2DAP-MUOY/1;2DAP-PII/1;2DAP-BEI/1;2DAP-BUON/1
  2DAP-PRAM/1;BUGINESEleka;2gb;2ng;2NGKA;2ap;2bc;2am;2MPA;2tb;2ad;2na;2NRA;2cb;2ja;2ny;2NYCA;2ya;2ra;2lb;2vb;2as;2A;2ah;1vosiI
  3U;3E;3O;3AE"),
  (0x1A1E, "BUGINESE PALLAWA;1efofes;fyTHAMlehika;4kb;4KXA;3lwka;4KXA;4kb;3ng;3hicb;4ch;3lwcb;4as;4ch;3ny;3RATA;3hiRATHA;3ad
  3lwRATHA;3RANA;3hitb;4ht;3lwtb;4ht;3na;3bc;3hiap;4ph;4fb;3lwap;4fb;4ph;3am;3lwya;3hiya;3ra;3RUE;3lb;3LUE;3wa;3hisa;4sf;4as
  4ah;3lk;3A;3lwah;3I;3ii;3U;3uu;3ej;3oo;3LAE;3GREATas;2ctsimlra;5lb;4lbTANG LAI;2siMAI KANG/1;2ctsifing;4lwap;4hiRATHAob/2
  4am;4bc;4as"),
  (0x1A60, "fyTHAMsiSAKOT;2vosiA;4MAI SAT;4af;4TALLaf;4I;4ii;4UE;4UUE;4U;4uu;4O;4OAbe;4OY;4E;4AE;4oo;4ia;4THAMia;4OAab
  2siMAI KANG;3TONE-1;3bp;3KHUENjc;4xo;4bq;3raHAAM;3MAI SAM;3KHUEN-LUE KARAN"),
  (0x1A7F, "fyTHAMcoyrdt;2HORAdize;4on;4tw;4th;4fu;4fv;4sx;4se;4ei;4ni"),
  (0x1A90, "fyTHAM THAMdize;4on;4tw;4th;4fu;4fv;4sx;4se;4ei;4ni"),
  (0x1AA0, "fyTHAMsiWIANG;3WIANGWAAK;3SAWAN;3KEOW;3HOY;3DOKMAI;3reoaRANA;3MAI YAMOK;3KAAN;3KAANKUU;3SATKAAN;3SATKAANKUU;3HANG
  3CAANG"),
  (0x1AB0, "coDOUBLEDcrae;1DIAERESIS-RING;1yf;1dwar;1tpdt;1X-Xbe;1WIGGLYilbe;1oemabe;1do/3;1liCENTRALIZATIONstbe;1STRONG/3
  1PARENTHESESab;1do/2;1PARENTHESESbe;2oy;1atsmleWbe;4tu/2;1lfpaablf;1ripaabri;1lfpabelf;1ripaberi;1sqBRACKETSab;1nusiab
  1ivdoARCHab;1plsiab;1do/3;4be;1tpacae;1atsmleulG;5R;5T"),
  (0x1B00, "BALINESEsiULU RICEM;3cf;2CECEK;2SURANG;2BISAH;1leAKARA;3ud;2IKARA;3ud;2UKARA;3ud;2raREPA;4ud;2lbLENGA;4ud;2EKARA
  2AIKARA;2OKARA;3ud;2ka;3mr;2gb;3GORA;2ng;2cb;3LACA;2ja;3JERA;2ny;2tbLATIK;3mxmr;2admxALPAPRANA;4mr;2naRAMBAT;2tb;3TAWA;2ad
  3MADU;2na;2ap;3KAPAL;2bc;3KEMBANG;2am;2ya;2ra;2lb;2wa;2asSAGA;3SAPA;2as;2ah;1siREREKAN;1vosiud;3ULU;4SARI;3SUKU;4ILUT
  3raREPA;5ud;3lbLENGA;5ud;3TALING;4REPA;4ud;4REPAud;3PEPET;4ud;1ADEG ADEG;1lekfSASAK;2KHOT/1;2TZIR/1;2EF/1;2VE/1;2ZAL/1
  2ASYURA/1;2irJNYA"),
  (0x1B50, "BALINESEdize;2on;2tw;2th;2fu;2fv;2sx;2se;2ei;2ni;1PANTI;1PAMADA;1WINDU;1CARIK PAMUNGKAH;2SIKI;2PAREREN;1PAMENENG
  1umsyDONG;3DENG;3DUNG;3DANG;4SURANG;3DING;3DAENG;3DEUNG;3DAING;3DANG GEDE;3coTEGEH;4ENDEP;4KEMPUL;4KEMPLI;4JEGOGAN
  4KEMPULwi/1;4KEMPLI/2;4BENDE;4GONG;3RIGHT-HANDoeDUG;5DAG;4clTUK;5TAK;3LEFT-HANDoePANG;5PUNG;4clPLAK;5PLUK;4oePING
  1PANTI LANTANG;1PAMADA/1"),
  (0x1B80, "SUNDANESEsiPANYECEK;2PANGLAYAR;2PANGWISAD;1leA;2I;2U;2AE;2O;2E;2EU;2ka;2QA;2gb;2ng;2cb;2ja;2za;2ny;2tb;2ad;2na;2ap
  2fb;2vb;2bc;2am;2ya;2ra;2lb;2wa;2as;2XA;2ah;1ctsiPAMINGKAL;3PANYAKRA;3PANYIKU;1vosiPANGHULU;3PANYUKU;3PANAELAENG;3PANOLONG
  3PAMEPET;3PANEULEUNG;1siPAMAAEH;2vi;1ctsiPASANGANam;4wa;1lekb;2SYA;1dize;2on;2tw;2th;2fu;2fv;2sx;2se;2ei;2ni;1vg;1leREU;2LEU
  2bh;2fiK;3M;BATAKleA;2iuA;2ah;2iuah;2MANDAILINGah;2bc;2KARObc;2ap;2iuap;2na;2MANDAILINGna;2wa;2iuwa;2PAKPAKwa;2gb;2iugb;2ja
  2ad;2ra;2iura;2am;2iuam;2SOUTHERNtb;2NORTHERNtb;2as;2iuas;2MANDAILINGas;2ya;2iuya;2ng;2lb;2iulb;2ny;2cb;2NDA;2MBA;2I;2U
  1siTOMPI;1vosiE;3PAKPAK E;3ej;3I;3KARO I;3O;3KARO O;3U;4rfiuas;1ctsiNG;3H;1PANGOLAT;1PANONGONAN"),
  (0x1BFC, "BATAKsyBINDUnaMETEK;3PINARBORAS;3JUDUL;3PANGOLAT;LEPCHAleka;2KLA;2kb;2gb;2GLA;2ng;2cb;2ch;2ja;2ny;2tb;2ht;2ad;2na
  2ap;2PLA;2ph;2fb;2FLA;2bc;2BLA;2am;2MLA;2tj;2hx;2DZA;2ya;2ra;2lb;2ah;2HLA;2vb;2as;2sa;2wa;2A;1ubleya;3ra;1vosiaf;3I;3O;3oo
  3U;3uu;3E;1ctsiK;3M;3L;3N;3P;3R;3T;3NYIN-DO;3KANG;1siRAN;2nk"),
  (0x1C3B, "LEPCHApuTA-ROL;2NYET THYOOM/1;2CER-WA;2TSHOOK/1;2TSHOOK;1dize;2on;2tw;2th;2fu;2fv;2sx;2se;2ei;2ni"),
  (0x1C4D, "LEPCHAletd;2tt;2db;OL CHIKIdize;3on;3tw;3th;3fu;3fv;3sx;3se;3ei;3ni;2lelb;3AT;3AG;3ANG;3AL;3LAA;3AAK;3AAJ;3AAM
  3AAW;3LI;3IS;3IH;3INY;3IR;3LU;3UC;3UD;3UNN;3UY;3LE;3EP;3EDD;3eb;3ERR;3LO;3OTT;3OB;3OV;3OH;2mbTTUDDAG;2GAAHLAA TTUDDAAG
  2MU-GAAHLAA/1;2RELAA;2PHAARKAA;2AHAD;2puMUCAAD;3do/1;cysmlerqVE;3LONG-LEGGED DE;3NARROW O;3WIDE ES;3TALL TE;3THREE-LEGGED/1
  3TALL HARDsi;4YAT;3UNBLENDED UK"),
  (0x1C90, "goMTAVRULIcaleAN;4BAN;4GAN;4DON;4eb;4VIN;4ZEN;4TAN;4ib;4KAN;4LAS;4mj;4NAR;4ON;4PAR;4ZHAR;4RAE;4SAN;4TAR;4UN;4PHAR
  4KHAR;4GHAN;4QAR;4hs;4CHIN;4CAN;4JIL;4CIL;4CHAR;4XAN;4JHAN;4HAE;4hj;4HIE;4WE;4HAR;4HOE;4FI;4YN;4ELIFI;4tuGAN;4aw"),
  (0x1CBD, "goMTAVRULIcaleAEN;4HARDsi;4LABIALsi;SUNDANESEpuBINDU SURYA;3PANGLONG;3PURNAMA;3CAKRA;3LEU SATANGA;3ka/1;3ad/1
  3bc/1"),
  (0x1CD0, "VEDICntKARSHANA;2SHARA;2PRENKHA;1siNIHSHVASA;2YAJURVEDIC MIDLINE SVARITA;1ntYAJURVEDIC AGGRAVATEDiw/1;3iw/1
  3KATHAKA/2;2cfbe;2YAJURVEDIC KATHAKAiwSVARITA SCHROEDER;2doSVARITA;2tp/1;2KATHAKA ANUDATTA;2dtbe;2twodbe;2th/2
  2RIGVEDIC KASHMIRIiwSVARITA;2ATHARVAVEDIC/2;1sivs/1;3UDATTA;2re/2;2vsANUDATTA;2re/2;2vsUDATTAwitc;3ANUDATTA/2
  2auANTARGOMUKHA;3BAHIRGOMUKHA;3VAMAGOMUKHA;4witc;2TIRYAK;2HEXIFORMlnau;2lnau;2RTHANG/2;2auUBHAYATO MUKHA;2ARDHAVISARGA;2oa/1
  1ntcfab;1siji;2uy;2ATIKRAMA;1ntrnab;2do/2;1sidoauANTARGOMUKHA"),
  (0x1D00, "atlesmcaA;4AE;1smletuAE;1lesmcajyB;4C;4D;4ETH;4E;1smletuoeE;4I;1lesmcaJ;4K;4Lwist;4M;4reN;4O;4oeO;1smlewdO;4oeO
  4Owist;3tuoj;1lesmcaOU;1smlepthaO;3bt/2;1lesmcaP;4reR;4tuR;4T;4U;1smlewdU;4DIAERESIZED U;4tuM;1lesmcaV;4W;4Z;4EZH
  2vdLARYNGEAL SPIRANT;2aw;gelesmcamg;4lv;4ip;4rj;4PSI;cylesmcaEL;molecaA;3AE;3B;3jyB;3D;3E;3reE;3G;3H;3I;3J;3K;3L;3M;3N;3reN
  3O;3OU;3P;3R;3T;3U;3W;2smA;3tuA;3lh;3tuAE;3B;3D;3E;3xx;3oeE;3tu/2;3G;3tuI;3K;3M;3ENG;3O;3oeO;3pthaO;3bt/2;3P;3T;3U;3wdU;3tuM
  3V;3aw;3bf;3gemg;3ed;3gepd;3cx;atbssmleI;4R;4U;4V;gebssmlebf;4mg;4rj;4pd;4cx;atsmleUE;3Bwimitl;3D/3;3F/3;3M/3;3N/3;3P/3;3R/3
  5kvan/2;3Swi/2;3T/3;3Z/3;3tuG;molecyeb;atsmleulG;3THwiSTRIKETHROUGH;2caleIwist;2leio/2;3P/2;2caleU/2;2leus/2;3Bwifkhk;3D/3
  3F/3;3G/3;3K/3;3L/3;3M/3;3N/3;3P/3;3R/3;3S/3;3jj/3;3V/3;3X/3;3Z/3;3Awirthk;3lh/3;3Dwihkantc;3Ewirthk;3oe/4;3re/5;3xx/3;3I/3
  3oeO/3;3jj/3;3U/3;3EZH/3;molesmtulh;3C;4wiur;3ETH;3reoeE;3F;3dlJwist;3scG;3tuH;3Iwist;3io;3caI;5wist;3Jwicw;3Lwirthk;5fkhk
  3caL;3Mwihk;3tuMwilnjx;3Nwilfhk;5rthk;3caN;3jyO;3pd;3Swihk;3jj;3Twifkhk;3Uba;3us;3caU;3Vwihk;3tuV;3Z;4wirthk;5ur;3EZH;3tf
  codegaae;2acae;1SNAKEbe;1SUSPENSIONma;1MACRON-ACUTE;1GRAVE-MACRON;1MACRON-GRAVE;1ACUTE-MACRON;1GRAVE-ACUTE-GRAVE
  1ACUTE-GRAVE-ACUTE;1atsmleRbe;1BREVE-MACRON;1MACRON-BREVE;1docrab;1gzab;1zgbe;1ISbe;1URab;1USab;1atsmleFLATTENEDoeAab;4AE
  4AO;4AV;4Ccd;4ulD;4ETH;4G;2lesmcaG;2smleK;4L;2lesmcaL;5M;2smleN;2lesmcaN;5R;2smleR ROTUNDA;4S;4lnS;4Z;4lh;4B;4bf;4xx;4F
  4Lwidomitl;4OwiliCENTRALIZATIONst;4P;4jj;4UwiliCENTRALIZATIONst;4W;4Awida;4O/2;4U/2;1uatkab;1KAVYKAabri;3lf;1dt/2
  1WIDEivBRIDGEbe;1dtbelf;1DELETIONma;1doivbvbe;1azeqotbe;1lfaoab;1riaoandnaobe;atcaleAwirnbe;1sm/5;1caleBwidtab;1sm/5
  1caleBwidtbe;1sm/5;1caleBwiilbe;1sm/5;1caleCwicdanac;1sm/6;1caleDwidtab;1sm/5;1caleDwidtbe;1sm/5;1caleDwiilbe;1sm/5
  1caleDwicd;1sm/4;1caleDwicrbe;1sm/5;1caleEwimcanga;1sm/6;1caleEwimcanac;1sm/6;1caleEwicrbe;1sm/5;1caleEwitlbe;1sm/5
  1caleEwicdanbv;1sm/6;1caleFwidtab;1sm/5;1caleGwimc;1sm/4;1caleHwidtab;1sm/5;1caleHwidtbe;1sm/5;1caleHwida;1sm/4;1caleHwicd
  1sm/4;1caleHwibvbe;1sm/5;1caleIwitlbe;1sm/5;1caleIwidaanac;1sm/6;1caleKwiac;1sm/4;1caleKwidtbe;1sm/5;1caleKwiilbe;1sm/5
  1caleLwidtbe;1sm/5;1caleLwidtbeanmc;1sm/7;1caleLwiilbe;1sm/5;1caleLwicrbe;1sm/5;1caleMwiac;1sm/4;1caleMwidtab;1sm/5
  1caleMwidtbe;1sm/5;1caleNwidtab;1sm/5;1caleNwidtbe;1sm/5;1caleNwiilbe;1sm/5;1caleNwicrbe;1sm/5;1caleOwitlanac;1sm/6
  1caleOwitlanda;1sm/6;1caleOwimcanga;1sm/6;1caleOwimcanac;1sm/6;1calePwiac;1sm/4;1calePwidtab;1sm/5;1caleR/3;1sm/5
  1caleRwidtbe;1sm/5;1caleRwidtbeanmc;1sm/7;1caleRwiilbe;1sm/5;1caleSwidtab;1sm/5;1caleSwidtbe;1sm/5;1caleSwiacandtab;1sm/7
  1caleSwinr/3;1sm/7;1caleSwidtbe/3;1sm/8;1caleTwi/2;1sm/5;1caleTwidtbe;1sm/5;1caleTwiilbe;1sm/5;1caleTwicrbe;1sm/5
  1caleUwidabe;1sm/5;1caleUwitlbe;1sm/5;1caleUwicrbe;1sm/5;1caleUwitlanac;1sm/6;1caleUwimcanda;1sm/6;1caleVwitl;1sm/4
  1caleVwidtbe;1sm/5;1caleWwiga;1sm/4;1caleWwiac;1sm/4;1caleWwida;1sm/4;1caleWwidtab;1sm/5;1caleWwidtbe;1sm/5;1caleXwidtab
  1sm/5;1caleXwida;1sm/4;1caleYwidtab;1sm/5;1caleZwicr;1sm/4;1caleZwidtbe;1sm/5;1caleZwiilbe;1sm/5;3H/3;3Twida;3Wwirnab;3Y/3
  3Awiriharn;3lnSwidtab;6dgst;6hist;1caleSHARP S;1smleed;1caleAwidtbe;1sm/5;1caleAwihkab;1sm/5;1caleAwicranac;1sm/6
  1caleAwicranga;1sm/6;1caleAwicranhkab;1sm/7;1caleAwicrantl;1sm/6;1caleAwicrandtbe;1sm/7;1caleAwibvanac;1sm/6;1caleAwibvanga
  1sm/6;1caleAwibvanhkab;1sm/7;1caleAwibvantl;1sm/6;1caleAwibvandtbe;1sm/7;1caleEwi/2;1sm/5;1caleEwihkab;1sm/5;1caleEwitl
  1sm/4;1caleEwicranac;1sm/6;1caleEwicranga;1sm/6;1caleEwicranhkab;1sm/7;1caleEwicrantl;1sm/6;1caleEwicrandtbe;1sm/7
  1caleIwihkab;1sm/5;1caleIwidtbe;1sm/5;1caleO/3;1sm/5;1caleOwihkab;1sm/5;1caleOwicranac;1sm/6;1caleOwicranga;1sm/6
  1caleOwicranhkab;1sm/7;1caleOwicrantl;1sm/6;1caleOwicrandtbe;1sm/7;1caleOwihbanac;1sm/6;1caleOwihbanga;1sm/6
  1caleOwihbanhkab;1sm/7;1caleOwihbantl;1sm/6;1caleOwihbandtbe;1sm/7;1caleUwi/2;1sm/5;1caleUwihkab;1sm/5;1caleUwihbanac;1sm/6
  1caleUwihbanga;1sm/6;1caleUwihbanhkab;1sm/7;1caleUwihbantl;1sm/6;1caleUwihbandtbe;1sm/7;1caleYwiga;1sm/4;1caleYwidtbe;1sm/5
  1caleYwihkab;1sm/5;1caleYwitl;1sm/4;1caleMIDDLE-WELSH LL;1sm/3;1caleMIDDLE-WELSH V;1sm/3;1caleYwipq;1sm/4;gesmlelhwips;5ds
  5psanva;5ds/2;5psanox;5ds/2;5psanpe;5ds/2;1calelhwips;5ds;5psanva;5ds/2;5psanox;5ds/2;5psanpe;5ds/2;1smleepwips;5ds;5psanva
  5ds/2;5psanox;5ds/2"),
  (0x1F18, "gecaleepwips;5ds;5psanva;5ds/2;5psanox;5ds/2"),
  (0x1F20, "gesmleewwips;5ds;5psanva;5ds/2;5psanox;5ds/2;5psanpe;5ds/2;1caleewwips;5ds;5psanva;5ds/2;5psanox;5ds/2;5psanpe
  5ds/2;1smleiowips;5ds;5psanva;5ds/2;5psanox;5ds/2;5psanpe;5ds/2;1caleiowips;5ds;5psanva;5ds/2;5psanox;5ds/2;5psanpe;5ds/2
  1smleoiwips;5ds;5psanva;5ds/2;5psanox;5ds/2"),
  (0x1F48, "gecaleoiwips;5ds;5psanva;5ds/2;5psanox;5ds/2"),
  (0x1F50, "gesmleuswips;5ds;5psanva;5ds/2;5psanox;5ds/2;5psanpe;5ds/2"),
  (0x1F59, "gecaleuswids"),
  (0x1F5B, "gecaleuswidsanva"),
  (0x1F5D, "gecaleuswidsanox"),
  (0x1F5F, "gecaleuswidsanpe;1smleomwips;5ds;5psanva;5ds/2;5psanox;5ds/2;5psanpe;5ds/2;1caleomwips;5ds;5psanva;5ds/2;5psanox
  5ds/2;5psanpe;5ds/2;1smlelhwiva;5ox;3epwiva;5ox;3ewwiva;5ox;3iowiva;5ox;3oiwiva;5ox;3uswiva;5ox;3omwiva;5ox"),
  (0x1F80, "gesmlelhwipsanyp;5ds/2;5psanva/2;5ds/4;5psanox/2;5ds/4;5psanpe/2;5ds/4;1calelhwipsanpg;5ds/2;5psanva/2;5ds/4
  5psanox/2;5ds/4;5psanpe/2;5ds/4;1smleewwipsanyp;5ds/2;5psanva/2;5ds/4;5psanox/2;5ds/4;5psanpe/2;5ds/4;1caleewwipsanpg;5ds/2
  5psanva/2;5ds/4;5psanox/2;5ds/4;5psanpe/2;5ds/4;1smleomwipsanyp;5ds/2;5psanva/2;5ds/4;5psanox/2;5ds/4;5psanpe/2;5ds/4
  1caleomwipsanpg;5ds/2;5psanva/2;5ds/4;5psanox/2;5ds/4;5psanpe/2;5ds/4;1smlelhwiVRACHY;5mc;5vaanyp;5yp;5oxanyp"),
  (0x1FB6, "gesmlelhwipe;6anyp;1calelhwiVRACHY;5mc;5va;5ox;5pg;1KORONIS;1pg;1ps;1pe;1dyanpe;1smleewwivaanyp;5yp;5oxanyp"),
  (0x1FC6, "gesmleewwipe;6anyp;1caleepwiva;5ox;3ewwiva;5ox;5pg;1psanva;3ox;3pe;1smleiowiVRACHY;5mc;5dyanva;7ox"),
  (0x1FD6, "gesmleiowipe;5dyanpe;1caleiowiVRACHY;5mc;5va;5ox"),
  (0x1FDD, "gedsanva;3ox;3pe;1smleuswiVRACHY;5mc;5dyanva;7ox;3rjwips;5ds;3uswipe;5dyanpe;1caleuswiVRACHY;5mc;5va;5ox;3rjwids
  1dyanva;3ox;1va"),
  (0x1FF2, "gesmleomwivaanyp;5yp;5oxanyp"),
  (0x1FF6, "gesmleomwipe;6anyp;1caleoiwiva;5ox;3omwiva;5ox;5pg;1ox;1ds")]

end CallLint.Text.Names
