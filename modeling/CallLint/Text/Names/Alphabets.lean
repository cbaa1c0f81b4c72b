/-!
# Names of characters from U+0000 to U+08FF

Those of the alphabets of Europe and the Near East.
-/

namespace CallLint.Text.Names

/-- The names of runs of characters, each with the number of its first one. -/
def alphabets : List (Nat × String) := [
  (0x20, "pc;exma;qoma;nusi;xfsi;PERCENTsi;pm;os;lfpa;ripa;ai;plsi;cm;yh;flts;sd;dize;1on;1tw;1th;1fu;1fv;1sx;1se;1ei;1ni;oc
  em;lssi;eusi;grsi;quma;jlAT;atcaleA;3B;3C;3D;3E;3F;3G;3H;3I;3J;3K;3L;3M;3N;3O;3P;3Q;3R;3S;3T;3U;3V;3W;3X;3Y;3Z;lfsqbr;rvsd
  risqbr;crae;lwil;gaae;atsmleA;3B;3C;3D;3E;3F;3G;3H;3I;3J;3K;3L;3M;3N;3O;3P;3Q;3R;3S;3T;3U;3V;3W;3X;3Y;3Z;lfcubr;veil;ricubr
  tl"),
  (0xA0, "NO-BREAKpc;ivexma;CENTsi;POUNDsi;yvsi;YENsi;BROKENba;essi;da;COPYRIGHTsi;FEMININE ORDINALiq;lpdonlqoma;nbsi;wkhy
  REGISTEREDsi;mc;DEGREEsi;PLUS-MINUSsi;sstw;1th;acae;MICROsi;PILCROWsi;midt;cd;sson;MASCULINE ORDINALiq;rhdonlqoma
  VULGARfronqa;3ha;2thqr;ivquma;atcaleAwiga;5ac;5cr;5tl;5da;5rnab;3AE;3Cwicd;3Ewiga;5ac;5cr;5da;3Iwiga;5ac;5cr;5da;3ETH;3Nwitl
  3Owiga;5ac;5cr;5tl;5da;musi;atcaleOwist;3Uwiga;5ac;5cr;5da;3Ywiac;3THORN;1smleSHARP S;3Awiga;5ac;5cr;5tl;5da;5rnab;3AE
  3Cwicd;3Ewiga;5ac;5cr;5da;3Iwiga;5ac;5cr;5da;3ETH;3Nwitl;3Owiga;5ac;5cr;5tl;5da;dvsi;atsmleOwist;3Uwiga;5ac;5cr;5da;3Ywiac
  3THORN;3Ywida;1caleAwimc;1sm/4;1caleAwibv;1sm/4;1caleAwigz;1sm/4;1caleCwiac;1sm/4;1caleCwicr;1sm/4;1caleCwidtab;1sm/5
  1caleCwinr;1sm/4;1caleD/2;1sm/4;1caleDwist;1sm/4;1caleEwimc;1sm/4;1caleEwibv;1sm/4;1caleEwidtab;1sm/5;1caleEwigz;1sm/4
  1caleEwinr;1sm/4;1caleGwicr;1sm/4;1caleGwibv;1sm/4;1caleGwidtab;1sm/5;1caleGwicd;1sm/4;1caleHwicr;1sm/4;1caleHwist;1sm/4
  1caleIwitl;1sm/4;1caleIwimc;1sm/4;1caleIwibv;1sm/4;1caleIwigz;1sm/4;1caleIwidtab;1smledlI;1calgIJ;1sm/2;1caleJwicr;1sm/4
  1caleKwicd;1sm/4;3KRA;1caleLwiac;1sm/4;1caleLwicd;1sm/4;1caleLwinr;1sm/4;1caleLwimidt;1sm/5;1caleLwist;1sm/4;1caleNwiac
  1sm/4;1caleNwicd;1sm/4;1caleNwinr;1sm/4;4PRECEDED BYos;1caleENG;1sm/2;1caleOwimc;1sm/4;1caleOwibv;1sm/4;1caleOwidoac;1sm/5
  1calgoj;1sm/2;1caleRwiac;1sm/4;1caleRwicd;1sm/4;1caleRwinr;1sm/4;1caleSwiac;1sm/4;1caleSwicr;1sm/4;1caleSwicd;1sm/4
  1caleSwinr;1sm/4;1caleTwicd;1sm/4;1caleTwinr;1sm/4;1caleTwist;1sm/4;1caleUwitl;1sm/4;1caleUwimc;1sm/4;1caleUwibv;1sm/4
  1caleUwirnab;1sm/5;1caleUwidoac;1sm/5;1caleUwigz;1sm/4;1caleWwicr;1sm/4;1caleY/2;1sm/4;1caleYwida;3Zwiac;1sm/4;1caleZwidtab
  1sm/5;1caleZwinr;1sm/4;3lnS;3Bwist;1caleBwihk;5TOPBAR;1sm/4;1calentsx;1sm/3;1caleoeO;3Cwihk;1sm/4;1caleAFRICAN D;3Dwihk
  5TOPBAR;1sm/4;3tued;1calereE;3xx;3oeE;3Fwihk;1sm/4;1caleG/2;3mg;1smleHV;1caleio;3Iwist;3Kwihk;1sm/4;3Lwiba;3LAMBDAwist
  1caletuM;3Nwilfhk;1smleNwilnrijx;1caleOwimitl;5hb;1sm/4;1caleOI;1sm/2;1calePwihk;1sm/4;1leYR;1calenttw;1sm/3;1calejj
  1lerejjpq;1smleTwifkhk;1caleTwihk;1sm/4;1caleTwirthk;3Uwihb;1sm/4;1caleus;3Vwihk;3Y/2;1sm/4;1caleZwist;1sm/4;1caleEZH;4re
  1sm/3;4witc;1letwwist;1calentfv;1sm/3;1leivgltswist;2WYNN;2DENTAL CLICK;2LATERAL/1;2ALVEOLAR/1;2rt/1;1caleDZwinr;3DwismleZ/2
  1smleDZ/2;1caleLJ;3LwismleJ;1smleLJ;1caleNJ;3NwismleJ;1smleNJ;1caleAwinr;1sm/4;1caleI/2;1sm/4;1caleO/2;1sm/4;1caleU/2;1sm/4
  1caleUwidaanmc;1sm/6;1caleUwidaanac;1sm/6;1caleUwidaannr;1sm/6;1caleUwidaanga;1sm/6;3tuE;1caleAwidaanmc;1sm/6;1caleAwidtab/2
  1sm/7;1caleAEwimc;1sm/4;1caleGwist;1sm/4;1caleGwinr;1sm/4;1caleK/2;1sm/4;1caleOwigz;1sm/4;1caleOwigzanmc;1sm/6;1caleEZHwinr
  1sm/4;3J/2;1caleDZ;3DwismleZ;1smleDZ;1caleGwiac;1sm/4;1caleHWAIR;3WYNN;3Nwiga;1sm/4;1caleAwirnabanac;1sm/7;1caleAEwiac;1sm/4
  1caleOwistanac;1sm/6;1caleAwidoga;1sm/5;1caleAwiivbv;1sm/5;1caleEwidoga;1sm/5;1caleEwiivbv;1sm/5;1caleIwidoga;1sm/5
  1caleIwiivbv;1sm/5;1caleOwidoga;1sm/5;1caleOwiivbv;1sm/5;1caleRwidoga;1sm/5;1caleRwiivbv;1sm/5;1caleUwidoga;1sm/5
  1caleUwiivbv;1sm/5;1caleSwicmbe;1sm/5;1caleT/3;1sm/5;1caleYOGH;1sm/2;1caleHwinr;1sm/4;1caleNwilnrijx;1smleDwiur;1caleOU
  1sm/2;1caleZwihk;1sm/4;1caleAwidtab;1sm/5;1caleEwicd;1sm/4;1caleOwidaanmc;1sm/6;1caleOwitl/2;1sm/6;1caleOwidtab;1sm/5
  1caleOwidtabanmc;1sm/7;1caleYwimc;1sm/4;3Lwiur;3N/2;3T/2;3dlJ;3DBdr;3QPdr;1caleAwist;3C/2;1sm/4;1caleLwiba;3Twidgst
  1smleSwiSWASHtc;3Z/3;1caleglts;1sm/3;1caleBwist;3Uba;3tuV;3Ewist;1sm/4;1caleJ/2;1sm/4;1calesmQwihktc;1smle/4;1caleRwist
  1sm/4;1caleY/2;1sm/4;3tuA;3lh;3tulh;3Bwihk;3oeO;3Cwiur;3Dwitc;5hk;3reE;3xx;4wihk;3oeE;3re/2;6wihk;3clreoeE;3dlJwist;3Gwihk
  3scG;1lesmcaG;1smlemg;3RAMShb;3tuH;3Hwihk;3HENG/2;3Iwist;3io;1lesmcaI;1smleLwimitl;5BELT;5rthk;3LEZH;3tuM;5wilnjx;3Mwihk
  3Nwilfhk;5rthk;1lesmcaN;1smlejyO;1lesmcaoj;1smleclom;3pd;3tuR;5wilnjx;6hk;3Rwilnjx;5tc;5kv;3re/3;1lesmcaR;4ivR;1smleSwihk
  3jj;3dlJwistanhk;3SQUATrejj;3jjwiur;3tuT;3Twirthk;3Uba;3us;3Vwihk;3tuV;4W;4Y;1lesmcaY;1smleZwirthk;5ur;3EZH;4wiur;1leglts
  2PHARYNGEALvdFRICATIVE;2ivglts;2erC;2BILABIAL CLICK;2smcaB;1smlecloeE;1lesmcaGwihk;4H;1smleJwicw;3tuK;1lesmcaL;1smleQwihk
  1legltswist;2re/4;1smleDZdr;3DEZHdr;3DZdrwiur;3TSdr;3TESHdr;3TCdrwiur;3FENGdr;3LSdr;3LZdr;1leBILABIAL PERCUSSIVE;2BIDENTAL/1
  1smletuHwikv;7antc;molesmH;4wihk;3J;3R;3tuR;5wihk;3caivR;3W;3Y;2PRIME;2do/1;2tucm;2os;2recm;2riharn;2lf/2;2glts;2re/2;2lfao
  2riao;2uaao;2dnao;2crae;nr;moleveil;2mc;2acae;2gaae;2lwveil;3mc;3gaae;3acae;2ruoc;2ha/2;2CENTREDriharn;3lf/2;2uatk;2dntk
  2plsi;2mnsi;bv;dtab;rnab;gz;smtl;doacae;moleRHOTIChk;2rcae;2smmg;3L;3S;3X;3reglts;2EXTRA-HIGHntba;2hi/2;2MID/2;2lw/2
  2EXTRA-LOW/2;2YIN DEPARTINGntma;2yb/3;2VOICING;2UNASPIRATED;2doos;2lwdnao;3uaao;3lfao;3riao;3rn;2migaae;3do/2;4acae;2lwtl
  2rdoc;2xyhint;2ef/2;2xylwnt;2ef/2;2SHELF;2oe/1;2lwlfar;cogaae;1acae;1crae;1tl;1mc;1vf;1bv;1dtab;1da;1hkab;1rnab;1doacae;1nr
  1veilab;1do/3;2gaae;1cn;1ivbv;1tucmab;1cmab;1re/2;1cmabri;1gaaebe;1ac/2;1lftkbe;1ri/2;1lfnlab;1hb;1lfharnbe;1uatkbe;1dn/2
  1plsibe;1mn/2;1PALATALIZEDhkbe;1rt/2;1dtbe;1dabe;1rnbe;1cmbe;1cd;1gz;1veilbe;1BRIDGEbe;1ivdoARCHbe;1nrbe;1craebe;1bvbe;1iv/2
  1tlbe;1mcbe;1lwil;1do/2;1tloy;1shstoy;1ln/2;1shsdoy;1ln/2;1riharnbe;1ivBRIDGEbe;1sqbe;1SEAGULLbe;1Xab;1vetl;1dovf;1gantma
  1ac/2;1gepe;2KORONIS;2dyTONOS;2yp;1BRIDGEab;1eusibe;1doveilbe;1lfnlbe;1nbtlab;1HOMOTHETICab;1azeqotab;1lfriarbe;1up/2
  1GRAPHEME JOINER;1riaoab;1lfharnab;1FERMATA;1Xbe;1lfaobe;1ri/2;3anuaaobe;2harnab;1dtabri;1aibe;1dornbe;1zgab;1dobvbe;2bv;2mc
  3be;2tl;2ivbv;2rgarbe;1atsmleA;4E;4I;4O;4U;4C;4D;4H;4M;4R;4T;4V;4X;gecaleHETA;1sm/2;1caleirSAMPI;1sm/3;1nxsi;1lo/2
  1calePAMPHYLIAN DIGAMMA;1sm/3"),
  (0x37A, "geyp;1smreLUNATEgssy;2de/3;2re/4;1quma;1caleYOT"),
  (0x384, "geTONOS;1dy/1;1calelhwi/1;1ANO TELEIA;1caleepwiTONOS;3ew/2;3io/2"),
  (0x38C, "gecaleoiwiTONOS"),
  (0x38E, "gecaleuswiTONOS;3om/2;1smleiowidyan/1;1calelh;3bf;3mg;3ed;3ep;3zt;3ew;3tf;3io;3kp;3lv;3mb;3NU;3XI;3oi;3ip;3rj"),
  (0x3A3, "gecalegs;3jk;3us;3pd;3cx;3PSI;3om;3iowidy;3us/2;1smlelhwiTONOS;3ep/2;3ew/2;3io/2;3uswidyan/1;3lh;3bf;3mg;3ed;3ep
  3zt;3ew;3tf;3io;3kp;3lv;3mb;3NU;3XI;3oi;3ip;3rj;3figs;3gs;3jk;3us;3pd;3cx;3PSI;3om;3iowidy;3us/2;3oiwiTONOS;3us/2;3om/2
  1caKAIsy;1bfsy;1tfsy;1uswihksy;3acan/2;3da/3;1pdsy;1ipsy;1KAIsy;1leirKOPPA;1sm/3;1leSTIGMA;1sm/2;1leDIGAMMA;1sm/2;1leKOPPA
  1sm/2;1leSAMPI;1sm/2;iccaleSHEI;1sm/2;1caleFEI;1sm/2;1caleKHEI;1sm/2;1caleHORI;1sm/2;1caleGANGIA;1sm/2;1caleSHIMA;1sm/2
  1caleDEI;1sm/2;gekpsy;1rjsy;1LUNATEgssy;1leYOT;1catfsy;1LUNATEepsy;1re/3;1caleSHO;1sm/2;1caLUNATEgssy;2leSAN;1sm/2;1rjwistsy
  1careLUNATEgssy;2de/3;2re/4;cycaleIEwiga;3IO;3DJE;3GJE;3UKRAINIAN IE;3DZE;3BYELORUSSIAN-UKRAINIAN I;3YI;3JE;3LJE;3NJE;3TSHE
  3KJE;3Iwiga;3shU;3DZHE;3A;3BE;3VE;3GHE;3DE;3IE;3ZHE;3ZE;3I;3shI;3ka;3EL;3EM;3eb;3O;3pb;3ER;3ES;3TE;3U;3EF;3ah;3TSE;3fs;3sa
  3SHCHA;3HARDsi;3YERU;3wksi;3E;3yu;3ya;1smleA;3BE;3VE;3GHE;3DE;3IE;3ZHE;3ZE;3I;3shI;3ka;3EL;3EM;3eb;3O;3pb;3ER;3ES;3TE;3U;3EF
  3ah;3TSE;3fs;3sa;3SHCHA;3HARDsi;3YERU;3wksi;3E;3yu;3ya;3IEwiga;3IO;3DJE;3GJE;3UKRAINIAN IE;3DZE;3BYELORUSSIAN-UKRAINIAN I
  3YI;3JE;3LJE;3NJE;3TSHE;3KJE;3Iwiga;3shU;3DZHE;1caleom;1sm/2;1caleYAT;1sm/2;1calefeE;1sm/3;1calellYUS;1sm/3;1calefe/2;1sm/4
  1caleBIG/1;1sm/3;1calefe/2;1sm/4;1caleKSI;1sm/2;1calePSI;1sm/2;1caleFITA;1sm/2;1caleIZHITSA;1sm/2;1caleIZHITSAwidogaae;1sm/6
  1caleUK;1sm/2;1caleqvom;1sm/3;1caleomwiTITLO;1sm/4;1caleOT;1sm/2;1caleKOPPA;1sm/2;1utsi;cocyTITLO;2PALATALIZATION
  2dsPNEUMATA;2ps/1;2POKRYTIE;2huutsi;2MILLIONSsi;cycaleshIwitc;1sm/5;1caleSEMISOFTsi;1sm/3;1caleERwiTICK;1sm/4
  1caleGHEwiUPTURN;1sm/4;1caleGHEwist;1sm/4;1caleGHEwimihk;1sm/5;1caleZHEwidc;1sm/4;1caleZE/2;1sm/4;1caleka/2;1sm/4
  1calekawivest;1sm/5;1calekawist;1sm/4;1caleBASHKIRka;1sm/3;1caleebwidc;1sm/4;1calgebGHE;1sm/3;1calepbwimihk;1sm/5
  1caleABKHASIANah;1sm/3;1caleESwidc;1sm/4;1caleTE/2;1sm/4;1calesgU;1sm/3;1calesgUwist;1sm/5;1caleahwidc;1sm/4;1calgTE TSE
  1sm/3;1calefswidc;1sm/4;1calefswivest;1sm/5;1caleSHHA;1sm/2;1caleABKHASIANfs;1sm/3;1caleABKHASIANfswidc;1sm/5;1lePALOCHKA
  1caleZHEwibv;1sm/4;1calekawihk;1sm/4;1caleELwitc;1sm/4;1caleebwihk;1sm/4;1caleebwitc;1sm/4;1caleKHAKASSIANfs;1sm/3
  1caleEMwitc;1sm/4;3PALOCHKA;1caleAwibv;1sm/4;1caleAwida;1sm/4;1calgA IE;1sm/3;1caleIEwibv;1sm/4;1calexx;1sm/2;1calexxwida
  1sm/4;1caleZHE/2;1sm/4;1caleZE/2;1sm/4;1caleABKHASIAN DZE;1sm/3;1caleIwimc;1sm/4;1caleIwida;1sm/4;1caleO/2;1sm/4;1calejyO
  1sm/3;1calejyOwida;1sm/5;1caleE/2;1sm/4;1caleUwimc;1sm/4;1caleUwida;1sm/4;1caleUwidoac;1sm/5;1calefswida;1sm/4;1caleGHEwidc
  1sm/4;1caleYERUwida;1sm/4;1caleGHEwistanhk;1sm/6;1caleahwihk;1sm/4;1caleahwist;1sm/4;1caleKOMI DE;1sm/3;1caleKOMI DJE;1sm/3
  1caleKOMI ZJE;1sm/3;1caleKOMI DZJE;1sm/3;1caleKOMI LJE;1sm/3;1caleKOMI NJE;1sm/3;1caleKOMI SJE;1sm/3;1caleKOMI TJE;1sm/3
  1calereZE;1sm/3;1caleELwihk;1sm/4;1caleLHA;1sm/2;1caleRHA;1sm/2;1caleYAE;1sm/2;1caleQA;1sm/2;1caleWE;1sm/2;1caleALEUTka
  1sm/3;1caleELwimihk;1sm/5;1caleeb/3;1sm/5;1calepbwidc;1sm/4;1caleSHHA/2;1sm/4;1caleebwilfhk;1sm/5;1caleDZZHE;1sm/2;1caleDCHE
  1sm/2;1caleELwidc;1sm/4"),
  (0x531, "xzcaleAYB;3BEN;3GIM;3ad;3ECH;3za;3EH;3ET;3ot;3ZHE;3INI;3LIWN;3XEH;3cb;3KEN;3HO;3ja;3GHAD;3CHEH;3MEN;3YI;3NOW;3sa
  3VO;3ch;3PEH;3JHEH;3ra;3SEH;3VEW;3TIWN;3rp;3CO;3YIWN;3PIWR;3KEH;3OH;3fh"),
  (0x559, "xzmolelfharn;1os;1EMPHASISma;1exma;1cm;1quma;1avma;1smletuAYB;3AYB;3BEN;3GIM;3ad;3ECH;3za;3EH;3ET;3ot;3ZHE;3INI
  3LIWN;3XEH;3cb;3KEN;3HO;3ja;3GHAD;3CHEH;3MEN;3YI;3NOW;3sa;3VO;3ch;3PEH;3JHEH;3ra;3SEH;3VEW;3TIWN;3rp;3CO;3YIWN;3PIWR;3KEH
  3OH;3fh;2lgECH YIWN;2leYIwist;1flts;1hy"),
  (0x58D, "jzxzETERNITYsi;wm/3;xzDRAMsi"),
  (0x591, "wfaeETNAHTA;2SEGOL;2SHALSHELET;2ZAQEF QATAN;3GADOL;2TIPEHA;2REVIA;2ZARQA;2PASHTA;2YETIV;2TEVIR;2GERESH;3MUQDAM
  2GERSHAYIM;2QARNEY PARA;2TELISHA GEDOLA;2PAZER;2ATNAH HAFUKH;2MUNAH;2MAHAPAKH;2MERKHA;3KEFULA;2DARGA;2QADMA;2TELISHA QETANA
  2YERAH BEN YOMO;2OLE;2ILUY;2DEHI;2ZINOR;1maMASORAci;1izSHEVA;2HATAF SEGOL;3PATAH;3QAMATS;2HIRIQ;2TSERE;2SEGOL;2PATAH;2QAMATS
  2HOLAM;3HASERrfVAV;2QUBUTS;2dkobMAPIQ;2METEG;1puMAQAF;1izRAFE;1puPASEQ;1izhsdt;2SINdt;1puSOF PASUQ;1mauedt;2lodt
  1puncHAFUKHA;1izQAMATS QATAN"),
  (0x5D0, "wfleal;2BET;2gf;2DALET;2hj;2VAV;2zy;2HET;2TET;2YOD;2fikf;2kf;2LAMED;2fimw;2mw;2finc;2nc;2sk;2yd;2fipb;2pb;2fiTSADI
  2TSADI;2QOF;2jf;2hs;2TAV"),
  (0x5EF, "wfYODtr;1lgYIDDISHdoVAV;3VAV YOD;3do/1;1puGERESH;2GERSHAYIM"),
  (0x600, "aanusi;1siSANAH;1FOOTNOTE MARKER;1siSAFHA;2SAMVAT;1numaab;rbCUBE ROOT;1FOURTH/1;aaRAY;rbPER MILLEsi;2tetosi
  AFGHANIsi;aacm;1DATEsp;1POETIC VERSEsi;1siMISRA;2SALLALLAHOU ALAYHE WASSALLAM;2ALAYHE ASSALLAM;2RAHMATULLAH ALAYHE
  2RADI ALLAHOU ANHU;2TAKHALLUS;1smhitq;3lgalwilmwiye;3zi;2fj;2jm;2ke;1em;1lema;1efofTEXTma;1tpdtpuma;1quma;1leKASHMIRIye;2hm
  2alwiqwab;4hmab;2ww/3;2alwihmbe;2yewihmab;2al;2bm;2ezMARBUTA;2ez;2kw;2je;2hh;2kh;2DAL;2THAL;2rp;2zi;2ee;2sw;2ay;2dx;2tq;2ZAH
  2aw;2gc;2KEHEHwitwodab;4thodbe;2FARSIyewiivV;5twodab;5th/2;1TATWEEL;1lefh;2qf;2kf;2lm;2me;2nn;2hf;2ww;2almk;2ye;1kx;1yw;1yx
  1fj;1jm;1ke;1SHADDA;1SUKUN;1MADDAHab;1hmab;2be;1bsal;1ivjm;1mannGHUNNA;1ZWARAKAY;1vosismVab;3iv/3;3dtbe;1rejm;1fjwitwod
  1WAVYhmbe;rbdize;2on;2tw;2th;2fu;2fv;2sx;2se;2ei;2ni;aaPERCENTsi;1DECIMALsp;1utsp;1fvpirs;1ledlbm;3qf;2ssal;2alWASLA
  3wiWAVYhmab;6be;2hihm;4al;4ww;2Uwihmab;2hihmye;2TTEH;2TTEHEH;2BEEH;2ezwirn;4thodabdw;2PEH;2TEHEH;2BEHEH;2hhwihmab;4twodveab
  2NYEH;2DYEH;2hhwithodab;2TCHEH;2TCHEHEH;2DDAL;2DALwirn;4dtbe;6ansmtq;2DAHAL;2DDAHAL;2DUL;2DALwithodabdw;4fuodab;2RREH
  2rpwismV;4rn;4dtbe;4smVbe;4dtbeandtab;4twodab;2JEH;2rpwifuodab;2eewidtbeandtab;4thodbe;7anthodab;2aywitwodbe;4thodab;2tq/4
  2aw/4;2dlfh;2fhwidtMOVEDbe;5be;2VEH;2fhwithodbe;2PEHEH;2qfwidtab;4thodab;2KEHEH;2SWASHkf;2kfwirn;4dtab;2NG;2kfwithodbe;2GAF
  3wirn;2NGOEH;2GAFwitwodbe;2GUEH;2GAFwithodab;2lmwismV;4dtab;4thodab;6be;2nnwidtbe;3GHUNNA;2RNOON;2nnwirn;4thodab
  2hfDOACHASHMEE;2TCHEHwidtab;2hfwiyeab;3GOAL;4wihmab;2ezMARBUTA GOAL;2wwwirn;2KIRGHIZoj;2oj;2U;2yu;2KIRGHIZyu;2wwwitwodab;2VE
  2FARSIye;2yewitc;4smV;2wwwidtab;2E;2yewithodbe;3BARREE;4wihmab;1flts;1leAE;1smhilgaywilmwialmk;4qf/5;3meinfo;3lmal;3je;3thod
  3ee;1efofAYAH;1STARTofRUB EL HIZB;1smhirqze;3UPRIGHT RECTANGULARze;3dlhvofkh;3meisfo;2lwee;2hiqw;2ww;2ye;2hiye;3nn
  1PLACEofSAJDAH;1EMPTYcelwts;3hits;1rqhitswiFILLEDce;1smlwme;1leDALwiivV;2rp/3;xtrbdize;3on;3tw;3th;3fu;3fv;3sx;3se;3ei;3ni
  aaleswwidtbe;2dx/3;2gc/3;1siSINDHIpm;3POSTPOSITION MEN;1lehfwiivV;SYRIACefofqx;1SUPRALINEARflts;1SUBLINEAR/2;1SUPRALINEARoc
  1SUBLINEARoc;1hooc;1ocSKEWEDlf;3ri;1SUPRALINEARocSKEWEDlf;1SUBLINEARocSKEWEDri;1CONTRACTION;1HARKLEAN OBELUS;2METOBELUS
  2ASTERISCUS"),
  (0x70F, "SYRIACavma;1leALAPH;2ss/1;2bj;2GAMAL;3GARSHUNI;2DALATH;2dlDALATH RISH;2hj;2ww;2zi;2hw;2TETH;3GARSHUNI;2YUDH;3hj;2kc
  2LAMADH;2MIM;2nc;2SEMKATH;2fi/1;2E;2pb;2repb;2ax;2QAPH;2RISH;2hs;2TAW;2PERSIAN BHETH;3GHAMAL;3DHALATH;1PTHAHAab;2be;2de
  1ZQAPHAab;2be;2de;1RBASAab;2be;1deZLAMAho;3ANGULAR;1HBASAab;2be;1HBASA-ESASAde;1ESASAab;2be;1RWAHA;1FEMININEdt;1QUSHSHAYA
  1RUKKAKHA;1twveodab;4be;1thodab;3be;1xgilab;3be;1MUSIC;1BARREKH"),
  (0x74D, "SYRIACleSOGDIAN ZHAIN;3KHAPH;3FE;aalebmwithodHORIZONTALLYbe;4dtbeanthodab;4thodpoupbe;9antwodab;4twodbeandtab
  4ivsmVbe;4smV;2hhwitwodab;4thodpoupbe;2DALwitwodvtbeansmtq;4ivsmVbe;2rpwist;2eewifuodab;2awwitw/2;4thodpodwab;4twodvtab
  2fhwitwodbe;4thodpoupbe;2KEHEHwidtab;4thodab;6poupbe;2mewidtab;5be;2nnwitwodbe;4smtq;5V;2lmwiba;2rpwitwodvtab;4hmab
  2eewitwodvtab;2hhwismaaletqbe;8antwod;2ee/8;2rp/8;2hhwismaaletqab;2alwixtrbditwab;7thab;2FARSIyewixtrbditwab;8thab;8fube
  2wwwixtrbditwab;7thab;2yeBARREEwixtrbditwab;8thab;2hhwixtrbdifube;2eewixtrbdifuab;4ivV;2kfwitwodab;THAANAleHAA;2SHAVIYANI
  2NOONU;2RAA;2BAA;2LHAVIYANI;2KAAFU;2ALIFU;2VAAVU;2MEEMU;2FAAFU;2DHAALU;2THAA;2LAAMU;2GAAFU;2GNAVIYANI;2SEENU;2DAVIYANI
  2ZAVIYANI;2TAVIYANI;2YAA;2PAVIYANI;2JAVIYANI;2CHAVIYANI;2TTAA;2HHAA;2KHAA;2THAALU;2ZAA;2SHEENU;2SAADHU;2DAADHU;2ot;2ZO;2AINU
  2GHAINU;2QAAFU;2WAAVU;1ABAFILI;1AABAAFILI;1IBIFILI;1EEBEEFILI;1UBUFILI;1OOBOOFILI;1EBEFILI;1EYBEYFILI;1OBOFILI;1OABOAFILI
  1SUKUN;1leNAA"),
  (0x7C0, "NKOdize;2on;2tw;2th;2fu;2fv;2sx;2se;2ei;2ni;1leA;2ej;2I;2E;2U;2oo;2O;2DAGBASINNA;2N;2bc;2ap;2tb;2ja;2ch;2ad;2ra;2rx
  2as;2GBA;2fb;2ka;2lb;2naWOLOSO;2am;2ny;2na;2ah;2wa;2ya;2nyWOLOSO;2JONAja;3ch;3ra;1coshhint;3lwnt;3rmnt;2lnDESCENDINGnt;3hint
  3lwnt;3rmnt;2NASALIZATIONma;2dodtab;1hintos;1lw/2;1syooDENNEN;2GBAKURUNEN;1cm;1exma;1LAJANYALAN"),
  (0x7FD, "NKO DANTAYALAN;1DOROMEsi;1TAMANsi;SAMARITANleALAF;2BIT;2GAMAN;2DALAT;2IY;2BAA;2ZEN;2IT;2TIT;2YUT;2KAAF;2LABAT;2MIM
  2nc;2SINGAAT;2ib;2FI;2TSAADIY;2QUF;2RISH;2wq;2TAAF;1maib;2IN-ALAF;2OCCLUSION;2dk;1moleEPENTHETIC YUT;1ma/2;1vosilnE;3E
  3OVERLONGaf;3lnaf;3af;3OVERLONG A;3lnA;3A;1moleshA;1vosi/2;3lnU;3U;1moleI;1vosilnI;3I;3O;3SUKUN;1maNEQUDAA"),
  (0x830, "SAMARITANpuNEQUDAA;2AFSAAQ;2ANGED;2BAU;2ATMAAU;2SHIYYAALAA;1avma;1puMELODIC QITSA;2ZIQAA;2QITSA;2ZAEF;2TURU
  2ARKAANU;2SOF MASHFAAT;2ANNAAU"),
  (0x840, "MANDAICleHALQA;2AB;2AG;2AD;2AH;2USHENNA;2AZ;2IT;2ATT;2AKSA;2AK;2AL;2AM;2AN;2AS;2ib;2AP;2ASZ;2AQ;2AR;2aq;2AT
  2DUSHENNA;2KAD;2aw;1AFFRICATIONma;1VOCALIZATIONma;1jnma"),
  (0x85E, "MANDAICpu"),
  (0x860, "SYRIAClemyng;3ja;3ny;3td;3nf;3NNNA;3bh;3ra;3lk;3LLLA;3sf"),
  (0x870, "aalealwikzfj;5ptrifj;4rimist;4lf/2;4kzke;5btrike;5qvdtab;5riqvdt;5lf/2;5qvdtbe;4dtab;4kzptrifjan/2;4rimist/3
  4kzbtrike/3;5ptrifjanlfrn;4rimist/3;4kzbtrike/3;5rihm;5lfhm;1TATWEELwiOVERSTRUCKhm;4ww;3twodbe;1leTHINye;1BASELINEqvdt;1rd/2
  1lennwiivsmV;2hhwiivsmVbe;2tqwidtbe;4thodbe;2KEHEHwitwodvtbe;1vetc"),
  (0x890, "aaPOUNDmaab;1PIASTRE/2"),
  (0x898, "aasmhiwoAL-JUZ;2lwwoISHMAAM;4IMAALA;4TASHEEL;1qwWAAJIB;1ssalMOKHASSAS;1DOUBLEDqw;1haqwovqw;1lebmwismVbe;4hmab
  2jewitwodab;2tq/4;2fhwidtbeanth/2;2qfwidtbe;2lmwidoba;2mewithodab;2yewitwodbeanhmab;8dtab;2rpwipq;2wwwidtWITHIN;2ROHINGYAye
  2lwal;2DALwithodbe;2ay/4;2GAFwiivst;2sgww;2ziwiivVab;2awwithodbe;2kfwidtbe;2qfwidtbeannjodab;2bmwismmeab;2PEH/4;2ezwismezab
  2rpwismnnab;2yewitwodbean/3;2AFRICANfh;3qf;3nn;2PEHwismV;2ez/3;2TTEH/3;2TCHEH/3;2KEHEH/3;2gcwithodab;2AFRICANqf/4;2je/4;6be
  2lmwismaaletqab;2GRAF;1smFARSIye;2hi/2;3yeBARREEwitwodbe;3woSAH;3ZAH;1laqvdtab;4be;1SUKUNbe;1lacibe;2qvdtif/2;1smlwww
  2hiwoAR-RUB;3ay;3aw;3qf;3nnwike;2lw/3;2hiwoATH-THALATHA;4AS-SAJDA;4AN-NISF;4SAKTA;4QIF;4WAQFA;3FOOTNOTE MARKER;3siSAFHA
  1DISPUTEDefofAYAH;1tujmbe;1cufj;2jm;2ke;2kx;2yw;2yx;1ntondtab;2twodab;2pqab;2ondtbe;2twodbe;2pqbe;1oekx;2yw;2yx;1smhiww
  1fjwirn;3dtab;1kewidtbe;1lfaoab;1ri/2;1lfaobe;1ri/2;1doriaoab;5widt;1ri/4;1jm/2;1mawdnnGHUNNA")]

end CallLint.Text.Names
