/-!
# Names of characters from U+1D000 to U+1EFFF

Those of musical and mathematical notation, sign writing and further scripts.
-/

namespace CallLint.Text.Names

/-- The names of runs of characters, each with the number of its first one. -/
def notations : List (Nat × String) := [
  (0x1D000, "BYZANTINEumsyps;3DASEIA;3pe;3OXEIA EKFONITIKON;4DIPLI;3VAREIA EKFONITIKON;4DIPLI;3KATHISTI;3SYRMATIKI
  3PARAKLITIKI;3YPOKRISIS;4DIPLI;3KREMASTI;3APESO EKFONITIKON;3EXO/1;3TELEIA;3vw;3APOSTROFOS;4DIPLI;3SYNEVMA;3THITA;3OLIGONro
  3GORGONro;3PSILON;3CHAMILON;3VATHY;3ISONro;3KENTIMAro;3vwro;3SAXIMATA;3PARICHON;3STAVROS APODEXIA;3OXEIAIro;3VAREIAIro
  3APODERMAro;3APOTHEMA;3KLASMA;3REVMA;3PIASMAro;3TINAGMA;3ANATRICHISMA;3SEISMA;3SYNAGMAro;4META STAVROU;3OYRANISMAro;3THEMA
  3LEMOI;3DYO;3TRIA;3TESSERA;3KRATIMATA;3APESO EXOnp;3FTHORAro;3IMIFTHORA;3TROMIKONro;3KATAVA TROMIKON;3PELASTON;3PSIFISTON
  3KONTEVMA;3CHOREVMAro;3RAPISMA;3PARAKALESMAro;3PARAKLITIKIro;3ICHADIN;3NANA;3PETASMA;3KONTEVMA ALLO;3TROMIKON/1
  3STRAGGISMATA;3GRONTHISMATA;3ISONnp;3OLIGONnp;3OXEIAnp;3PETASTI;3KOUFISMA;3PETASTOKOUFISMA;3KRATIMOKOUFISMA;3PELASTONnp
  3vwnpANO;3KENTIMA/2;3YPSILI;3APOSTROFOSnp;3APOSTROFOI SYNDESMOSnp;3YPORROI;3KRATIMOYPORROON;3ELAFRON;3CHAMILI;3MIKRON ISON
  3VAREIAnp;3PIASMAnp;3PSIFISTONnp;3OMALON;3ANTIKENOMA;3LYGISMA;3PARAKLITIKInp;3PARAKALESMAnp;3ETERON PARAKALESMA;3KYLISMA
  3ANTIKENOKYLISMA;3TROMIKONnp;3EKSTREPTON;3SYNAGMAnp;3SYRMA;3CHOREVMAnp;3EPEGERMA;3SEISMAnp;3XIRON KLASMA;3TROMIKOPSIFISTON
  3PSIFISTOLYGISMA;3TROMIKOLYGISMA;3TROMIKOPARAKALESMA;3PSIFISTOPARAKALESMA;3TROMIKOSYNAGMA;3PSIFISTOSYNAGMA;3GORGOSYNTHETON
  3ARGOSYNTHETON;3ETERON/1;3OYRANISMAnp;3THEMATISMOS ESO;4EXO;3THEMA APLOUN;3THES KAI APOTHES;3KATAVASMA;3ENDOFONON;3YFEN KATO
  4ANO;3STAVROS;3KLASMA ANO;3DIPLIro;3KRATIMAro;4ALLO;4np;3APODERMAnp;3APLI;3DIPLI;3TRIPLI;3TETRAPLI;3KORONIS
  3LEIMMA ENOS CHRONOU;4DYO CHRONON;4TRION/1;4TESSARON/1;4IMISEOS CHRONOU;3GORGONnpANO;4PARESTIGMENON ARISTERA;5DEXIA
  3DIGORGON;4PARESTIGMENON ARISTERA KATO;6ANO;5DEXIA;3TRIGORGON;3ARGON;3IMIDIARGON;3DIARGON;3AGOGI POLI ARGI;4ARGOTERI;4ARGI
  4METRIA;4MESI;4GORGI;4GORGOTERI;4POLI GORGI;3MARTYRIA PROTOS ICHOS;4ALLI/2;4DEYTEROS/1;4ALLI/2;4TRITOS/1;4TRIFONIAS
  4TETARTOS ICHOS;5LEGETOS/1;4LEGETOS/1;4PLAGIOS/1;3ISAKIA TELOUS ICHIMATOS;3APOSTROFOI/2;3FANEROSIS TETRAFONIAS;4MONOFONIAS
  4DIFONIAS;3MARTYRIA VARYS ICHOS;4PROTOVARYS/1;4PLAGIOS TETARTOS/1;3GORTHMIKON N APLOUN;5DIPLOUN;3ENARXIS KAI FTHORA VOU
  3IMIFONON;3IMIFTHORON;3FTHORAroDEYTEROU ICHOU;4DIATONIKIap;5NANA;4NAOS ICHOS;4DIATONIKI DI;4SKLIRON DIATONON/1;4DIATONIKI KE
  5ZO;5NI KATO;6ANO;4MALAKON CHROMA DIFONIAS;6MONOFONIAS;3FHTORA SKLIRON CHROMA VASIS;3FTHORA SKLIRON CHROMA SYNAFI;4NENANO
  3CHROA ZYGOS;4KLITON;4SPATHI;3FTHORA I YFESIS TETARTIMORION;4ENARMONIOS ANTIFONIA;3YFESIS TRITIMORION;3DIESIS/1
  4TETARTIMORION;4APLI DYO DODEKATA;4MONOGRAMMOS TESSERA/1;4DIGRAMMOS EX/1;4TRIGRAMMOS OKTO/1;3YFESIS APLI DYO/1
  4MONOGRAMMOS TESSERA/1;4DIGRAMMOS EX/1;4TRIGRAMMOS OKTO/1;3GENIKI DIESIS;4YFESIS;3DIASTOLI APLI MIKRI;5MEGALI;4DIPLI
  4THESEOS;3SIMANSIS/1;5DISIMOU;5TRISIMOU;5TETRASIMOU;4ARSEOS;5DISIMOU;5TRISIMOU;5TETRASIMOU;3DIGRAMMA GG;3DIFTOGGOS OU
  3STIGMA;3ARKTIKOap;4VOU;4gb;4DI;4KE;4ZO;4NI;3vwnpMESO;3KENTIMA/2;3vwnpKATO;3KENTIMA/2;3KLASMA/1;3GORGONnp/1"),
  (0x1D100, "umsysnBARLINE;2do/1;2fi/1;2rv/2;2DASHED/1;2sh/1;2lfREPEATsi;2ri/2;2REPEATod;2DAL SEGNO;2adCAPO;2SEGNO;2CODA
  2REPEATED FIGURE-1;3FIGURE-2;+1;2FERMATA;3be;2BREATHma;2CAESURA;2BRACE;2br;2ONE-LINE STAFF;2TWO-LINE/1;2THREE-LINE/1
  2FOUR-LINE/1;2FIVE-LINE/1;2SIX-LINE/1;2SIX-STRING FRETBOARD;2FOUR-STRING/1;2G CLEF;4OTTAVA ALTA;5BASSA;2C CLEF;2F/1
  4OTTAVA ALTA;5BASSA;2DRUM CLEF-1;3CLEF-2"),
  (0x1D129, "umsympMEASURE REST;2doSHARP;3FLAT;2FLATua;3dn;2NATURALua;3dn;2SHARPua;3dn;2qantSHARP;4FLAT;2COMMON TIME;2CUT/1
  2OTTAVA ALTA;3BASSA;2QUINDICESIMA ALTA;3BASSA;2MULTI REST;2WHOLE/1;2ha/1;2qa/1;2eg/1;2xi/1;2THIRTY-SECOND/1;2SIXTY-FOURTH/1
  2onhuTWENTY-EIGHTH/1;2Xoh;2ploh;2ciXoh;2sqohwh;4bl;2trohuawh;5bl;4lfwh;5bl;4riwh;5bl;4dnwh;5bl;4uariwh;6bl;2mqohwh;4bl
  2TRIANGLE-ROUNDohdnwh;5bl;2paoh;2VOIDoh;2ohbl;2NULLoh;2CLUSTERohwh;4bl;2bv;2WHOLEnm;2hanm;2qanm;2egnm;2xinm
  2THIRTY-SECONDnm;2SIXTY-FOURTHnm;2onhuTWENTY-EIGHTHnm;2coSTEM;3SPRECHGESANG/1;3TREMOLO-1;+2;2FINGERED TREMOLO-1;3TREMOLO-2
  +1;2coAUGMENTATIONdt;3FLAG-1;+4;2xyBEAM;2ef/1;2xyTIE;2ef/1;2xySLUR;2ef/1;2xyPHRASE;2ef/1;2coae;3STACCATO;3TENUTO
  3STACCATISSIMO;3MARCATO;3MARCATO-STACCATO;3ACCENT-STACCATO;3LOURE;2ARPEGGIATOua;3dn;2coDOIT;3RIP;3FLIP;3SMEAR;3BEND
  3doTONGUE;3tp/1;2RINFORZANDO;2SUBITO;2Z;2PIANO;2MEZZO;2FORTE;2CRESCENDO;2DECRESCENDO;2GRACEnmlq;4njlq;2TR;2TURN;2iv/1
  2TURNlq;3ua;2orSTROKE-1;3STROKE-2;+7;3STROKE-10;+1;2HAUPTSTIMME;2NEBENSTIMME;2efofSTIMME;2DEGREElq;2codnBOW;3ua/1;3HARMONIC
  3SNAP PIZZICATO;2PEDALma;3uama;2haPEDALma;2GLISSANDOua;3dn;2wiFINGERNAILS;2DAMP;3ALL;2MAXIMA;2LONGA;2BREVIS;2SEMIBREVISwh
  3bl;2MINIMA;3bl;2SEMIMINIMAwh;3bl;2FUSAwh;3bl;2LONGA PERFECTA REST;3IMPERFECTA/1;2BREVIS/1;2SEMIBREVIS/1;2MINIMA/1
  2SEMIMINIMA/1;2TEMPUS PERFECTUM CUM PROLATIONE PERFECTA;6IMPERFECTA;6PERFECTA DIMINUTION-1
  3IMPERFECTUM CUM PROLATIONE PERFECTA;6IMPERFECTA;7DIMINUTION-1;+2;2CROIX;2GREGORIAN C CLEF;3F/1;2sqB;2VIRGA;2PODATUS
  2CLIVIS;2SCANDICUS;2CLIMACUS;2TORCULUS;2PORRECTUS;3FLEXUS;2SCANDICUS/1;2TORCULUS RESUPINUS;2PES SUBPUNCTIS;2KIEVAN C CLEF
  3efofPIECE;3finm;3RECITATIVEma;3WHOLEnm;3hanm;3qanmSTEMdn;6ua;3egnmSTEMdn;6ua;3FLATsi;2SORI;2KORON"),
  (0x1D200, "geVOCALnwSYMBOL-1;3SYMBOL-2;+7;3SYMBOL-10;+14;3SYMBOL-50;+4;1INSTRUMENTALnwSYMBOL-1;3SYMBOL-2;3SYMBOL-4;+1
  3SYMBOL-7;+1;3SYMBOL-11;+3;3SYMBOL-17;+2;3SYMBOL-23;+4;3SYMBOL-29;+1;3SYMBOL-32;3SYMBOL-36;+4;3SYMBOL-42;+1;3SYMBOL-45
  3SYMBOL-47;+7;cogeumTRISEME;3TETRASEME;3PENTASEME;geumLEIMMA"),
  (0x1D2E0, "MAYANnxze;2on;2tw;2th;2fu;2fv;2sx;2se;2ei;2ni;2te;2ev;2wl;2tx;2uf;2fc;2xs;2vn;2gt;2nq"),
  (0x1D300, "qcrfek;DIGRAMrfHEAVENLYek;2HUMANek;2EARTHLY HEAVEN;3HUMAN;2ek;TETRAGRAMrfce;2flci;2MIRED;2BARRIER;2KEEPINGsm
  2CONTRARIETY;2ASCENT;2OPPOSITION;2BRANCHING OUT;2DEFECTIVENESSobDISTORTION;2DIVERGENCE;2YOUTHFULNESS;2INCREASE;2PENETRATION
  2REACH;2CONTACT;2HOLDINGwu;2WAITING;2FOLLOWING;2ADVANCE;2RELEASE;2RESISTANCE;2EASE;2JOY;2CONTENTION;2ENDEAVOUR;2DUTIES
  2CHANGE;2DECISIVENESS;2bdRESOLUTION;2PACKING;2LEGION;2CLOSENESS;2KINSHIP;2GATHERING;2STRENGTH;2PURITY;2FULLNESS;2RESIDENCE
  2LAWobMODEL;2RESPONSE;2GOINGotMEET;2ENCOUNTERS;2STOVE;2GREATNESS;2ENLARGEMENT;2PATTERN;2RITUAL;2FLIGHT;2VASTNESSobWASTING
  2CONSTANCY;2MEASURE;2ETERNITY;2UNITY;2DIMINISHMENT;2clou;2GUARDEDNESS;2GATHERINGib;2MASSING;2ACCUMULATION;2EMBELLISHMENT
  2DOUBT;2WATCH;2SINKING;2INNER;2DEPARTURE;2DARKENING;2DIMMING;2EXHAUSTION;2SEVERANCE;2STOPPAGE;2HARDNESS;2COMPLETION;2CLOSURE
  2FAILURE;2AGGRAVATION;2COMPLIANCE;2ONtgVERGE;2DIFFICULTIES;2LABOURING;2FOSTERING"),
  (0x1D360, "COUNTING ROD UNITdion;4tw;4th;4fu;4fv;4sx;4se;4ei;4ni;2TENSdion;4tw;4th;4fu;4fv;4sx;4se;4ei;4ni;ieTALLYmaon;3tw
  3th;3fu;3fv;TALLYmaon;2fv"),
  (0x1D400, "mtbdcaA;3B;3C;3D;3E;3F;3G;3H;3I;3J;3K;3L;3M;3N;3O;3P;3Q;3R;3S;3T;3U;3V;3W;3X;3Y;3Z;2smA;3B;3C;3D;3E;3F;3G;3H;3I
  3J;3K;3L;3M;3N;3O;3P;3Q;3R;3S;3T;3U;3V;3W;3X;3Y;3Z;1ijcaA;3B;3C;3D;3E;3F;3G;3H;3I;3J;3K;3L;3M;3N;3O;3P;3Q;3R;3S;3T;3U;3V;3W
  3X;3Y;3Z;2smA;3B;3C;3D;3E;3F;3G"),
  (0x1D456, "mtijsmI;3J;3K;3L;3M;3N;3O;3P;3Q;3R;3S;3T;3U;3V;3W;3X;3Y;3Z;1bdijcaA;4B;4C;4D;4E;4F;4G;4H;4I;4J;4K;4L;4M;4N;4O;4P
  4Q;4R;4S;4T;4U;4V;4W;4X;4Y;4Z;3smA;4B;4C;4D;4E;4F;4G;4H;4I;4J;4K;4L;4M;4N;4O;4P;4Q;4R;4S;4T;4U;4V;4W;4X;4Y;4Z;1sccaA"),
  (0x1D49E, "mtsccaC;3D"),
  (0x1D4A2, "mtsccaG"),
  (0x1D4A5, "mtsccaJ;3K"),
  (0x1D4A9, "mtsccaN;3O;3P;3Q"),
  (0x1D4AE, "mtsccaS;3T;3U;3V;3W;3X;3Y;3Z;2smA;3B;3C;3D"),
  (0x1D4BB, "mtscsmF"),
  (0x1D4BD, "mtscsmH;3I;3J;3K;3L;3M;3N"),
  (0x1D4C5, "mtscsmP;3Q;3R;3S;3T;3U;3V;3W;3X;3Y;3Z;1bdsccaA;4B;4C;4D;4E;4F;4G;4H;4I;4J;4K;4L;4M;4N;4O;4P;4Q;4R;4S;4T;4U;4V;4W
  4X;4Y;4Z;3smA;4B;4C;4D;4E;4F;4G;4H;4I;4J;4K;4L;4M;4N;4O;4P;4Q;4R;4S;4T;4U;4V;4W;4X;4Y;4Z;1xpcaA;3B"),
  (0x1D507, "mtxpcaD;3E;3F;3G"),
  (0x1D50D, "mtxpcaJ;3K;3L;3M;3N;3O;3P;3Q"),
  (0x1D516, "mtxpcaS;3T;3U;3V;3W;3X;3Y"),
  (0x1D51E, "mtxpsmA;3B;3C;3D;3E;3F;3G;3H;3I;3J;3K;3L;3M;3N;3O;3P;3Q;3R;3S;3T;3U;3V;3W;3X;3Y;3Z;1ducaA;3B"),
  (0x1D53B, "mtducaD;3E;3F;3G"),
  (0x1D540, "mtducaI;3J;3K;3L;3M"),
  (0x1D546, "mtducaO"),
  (0x1D54A, "mtducaS;3T;3U;3V;3W;3X;3Y"),
  (0x1D552, "mtdusmA;3B;3C;3D;3E;3F;3G;3H;3I;3J;3K;3L;3M;3N;3O;3P;3Q;3R;3S;3T;3U;3V;3W;3X;3Y;3Z;1bdxpcaA;4B;4C;4D;4E;4F;4G;4H
  4I;4J;4K;4L;4M;4N;4O;4P;4Q;4R;4S;4T;4U;4V;4W;4X;4Y;4Z;3smA;4B;4C;4D;4E;4F;4G;4H;4I;4J;4K;4L;4M;4N;4O;4P;4Q;4R;4S;4T;4U;4V;4W
  4X;4Y;4Z;1nscaA;3B;3C;3D;3E;3F;3G;3H;3I;3J;3K;3L;3M;3N;3O;3P;3Q;3R;3S;3T;3U;3V;3W;3X;3Y;3Z;2smA;3B;3C;3D;3E;3F;3G;3H;3I;3J
  3K;3L;3M;3N;3O;3P;3Q;3R;3S;3T;3U;3V;3W;3X;3Y;3Z;2bdcaA;4B;4C;4D;4E;4F;4G;4H;4I;4J;4K;4L;4M;4N;4O;4P;4Q;4R;4S;4T;4U;4V;4W;4X
  4Y;4Z;3smA;4B;4C;4D;4E;4F;4G;4H;4I;4J;4K;4L;4M;4N;4O;4P;4Q;4R;4S;4T;4U;4V;4W;4X;4Y;4Z;2ijcaA;4B;4C;4D;4E;4F;4G;4H;4I;4J;4K
  4L;4M;4N;4O;4P;4Q;4R;4S;4T;4U;4V;4W;4X;4Y;4Z;3smA;4B;4C;4D;4E;4F;4G;4H;4I;4J;4K;4L;4M;4N;4O;4P;4Q;4R;4S;4T;4U;4V;4W;4X;4Y;4Z
  2bdijcaA;5B;5C;5D;5E;5F;5G;5H;5I;5J;5K;5L;5M;5N;5O;5P;5Q;5R;5S;5T;5U;5V;5W;5X;5Y;5Z;4smA;5B;5C;5D;5E;5F;5G;5H;5I;5J;5K;5L;5M
  5N;5O;5P;5Q;5R;5S;5T;5U;5V;5W;5X;5Y;5Z;1MONOSPACEcaA;3B;3C;3D;3E;3F;3G;3H;3I;3J;3K;3L;3M;3N;3O;3P;3Q;3R;3S;3T;3U;3V;3W;3X;3Y
  3Z;2smA;3B;3C;3D;3E;3F;3G;3H;3I;3J;3K;3L;3M;3N;3O;3P;3Q;3R;3S;3T;3U;3V;3W;3X;3Y;3Z;1ijsmdlI;4J"),
  (0x1D6A8, "mtbdcalh;3bf;3mg;3ed;3ep;3zt;3ew;3tf;3io;3kp;3lv;3mb;3NU;3XI;3oi;3ip;3rj;3tfsy;3gs;3jk;3us;3pd;3cx;3PSI;3om
  2NABLA;2smlh;3bf;3mg;3ed;3ep;3zt;3ew;3tf;3io;3kp;3lv;3mb;3NU;3XI;3oi;3ip;3rj;3figs;3gs;3jk;3us;3pd;3cx;3PSI;3om;2xqfd;2epsy
  2tfsy;2kpsy;2pdsy;2rjsy;2ipsy;1ijcalh;3bf;3mg;3ed;3ep;3zt;3ew;3tf;3io;3kp;3lv;3mb;3NU;3XI;3oi;3ip;3rj;3tfsy;3gs;3jk;3us;3pd
  3cx;3PSI;3om;2NABLA;2smlh;3bf;3mg;3ed;3ep;3zt;3ew;3tf;3io;3kp;3lv;3mb;3NU;3XI;3oi;3ip;3rj;3figs;3gs;3jk;3us;3pd;3cx;3PSI;3om
  2xqfd;2epsy;2tfsy;2kpsy;2pdsy;2rjsy;2ipsy;1bdijcalh;4bf;4mg;4ed;4ep;4zt;4ew;4tf;4io;4kp;4lv;4mb;4NU;4XI;4oi;4ip;4rj;4tfsy
  4gs;4jk;4us;4pd;4cx;4PSI;4om;3NABLA;3smlh;4bf;4mg;4ed;4ep;4zt;4ew;4tf;4io;4kp;4lv;4mb;4NU;4XI;4oi;4ip;4rj;4figs;4gs;4jk;4us
  4pd;4cx;4PSI;4om;3xqfd;3epsy;3tfsy;3kpsy;3pdsy;3rjsy;3ipsy;1nsbdcalh;4bf;4mg;4ed;4ep;4zt;4ew;4tf;4io;4kp;4lv;4mb;4NU;4XI;4oi
  4ip;4rj;4tfsy;4gs;4jk;4us;4pd;4cx;4PSI;4om;3NABLA;3smlh;4bf;4mg;4ed;4ep;4zt;4ew;4tf;4io;4kp;4lv;4mb;4NU;4XI;4oi;4ip;4rj
  4figs;4gs;4jk;4us;4pd;4cx;4PSI;4om;3xqfd;3epsy;3tfsy;3kpsy;3pdsy;3rjsy;3ipsy;3ijcalh;5bf;5mg;5ed;5ep;5zt;5ew;5tf;5io;5kp;5lv
  5mb;5NU;5XI;5oi;5ip;5rj;5tfsy;5gs;5jk;5us;5pd;5cx;5PSI;5om;4NABLA;4smlh;5bf;5mg;5ed;5ep;5zt;5ew;5tf;5io;5kp;5lv;5mb;5NU;5XI
  5oi;5ip;5rj;5figs;5gs;5jk;5us;5pd;5cx;5PSI;5om;4xqfd;4epsy;4tfsy;4kpsy;4pdsy;4rjsy;4ipsy;1bdcaDIGAMMA;2sm/1"),
  (0x1D7CE, "mtbddize;3on;3tw;3th;3fu;3fv;3sx;3se;3ei;3ni;1dudize;3on;3tw;3th;3fu;3fv;3sx;3se;3ei;3ni;1nsdize;3on;3tw;3th;3fu
  3fv;3sx;3se;3ei;3ni;2bddize;4on;4tw;4th;4fu;4fv;4sx;4se;4ei;4ni;1MONOSPACEdize;3on;3tw;3th;3fu;3fv;3sx;3se;3ei;3ni
  SIGNWRITINGhnid;1hcid;1uwid;1vxid;1hdid;1hgid;1hnidbn;1hc/2;1hntmUNDER/2;2idrdKNUCKLE;3CUPPED;3gd;4lw;1hcidHINGE;1hnidmi
  1hc/2;1hnidmibn;4rdKNUCKLES;4gd;3ua/2;3gdmiua;3micj;5idbn;5mibn;5CUPPED;5gd;4cz;1hc/3;1hnmibnovid;2idbnovmi;3mitm;1hc/3
  1hnidmisgtmbn;4bntmsg;4tmbn;4gdjdtmsz;3uamigd/2;7cj;3gdmiuatmsz;3miuajdtmfw;4tmCUPPED;5cc;5HOOKED;5gd;2tmbwidmisg
  2idmicjtmsz;7cj;7bn;2mitmHOOKEDidua;2idtmHOOKEDmiua;3micjgdtmsz;4cz/2;4cjtmfw;5CUPPED/2;2mitmCUPPEDidua;2idtmCUPPEDmiua
  2mitmccidua;6gd;2idtmANGLED OUTmiua;5ib/2;4cc/2;3mitmcjgd;5ANGLED OUT;5ANGLED;2mitmANGLED OUTidua;7cz;5idua;2idtmHOOKEDmigd
  1HAND-FLATfufn;4bn;4gd;4cj;5SPLIT;1HAND-CLAWfufncj;1hnfufncjbn;1hdfufncj;1HAND-FLATfvfnjd;2HEEL/3;2fvfnjdfubn;2HEEL/5
  2fvfnjdbn;2HEEL/4;2fvfnjdtmfw;1uwfvfnjd;5oe;1hd/4;1vxfvfnjd;1HAND-FLATfvfnjdgd;6tmsz;6njtm;1HAND-FLAT;2bwPALM FACINGS;2HEEL
  2tmsz;2HEEL/2;2tmbn;3fw;2SPLITidtmsz;3ce;4tmsz;6bn;3ll;1HAND-CLAW;2tmsz;2njtm;2tmfw;1kjCURLICUE;1kj;1uwoe;1uw;2oetmsz;2tmsz
  2oenjtm;2njtm;2oetmfw;2tmfw;1uzoe;1uz;1hc;1vx;2tmsz;2njtm;2tmfw;1hdoe;3tmfw;1hd;2sm;2oetmsz;2tmsz;2oenjtm;2njtm
  2tmszTOUCHINGid;3bwmirn;1hg;1hnidmirn;1hc/3;1hd/3;1hg/3;1hdll;1hnidmirnbn;5cj;1hd/4;1hnlldn;4RIPPLEsg;5uv;4OTHERScc;3ua
  2tmUNDER/2;1hc/2;1vx/2;1hg/2;1hnllrdKNUCKLE;3bn;3TOUCHEStm;3tm;1hd/2;1hnllidtm;1hd/3;1hgllidtmidtmOUT;6tm;1hnllid;1hc/2
  1hd/2;1hg/2;1hnidmill;1hc/3;1hd/3;2rn;1hgidmill;1hnidmircll;1hc/4;1hnrndn;1hdrndnidtmhkmi;1hgrndnmitmidrc;1hnrnua
  3rdKNUCKLE;3ll;1hc/2;1vx/2;1hg/2;1hnrnmi;4cj;4rdKNUCKLES;3id;3tm;1kj/2;1hnidrnll;1hc/3;1uzidrnllON;1kjidrnllOUT;5ib;5UNDER
  1uwidrnll;1hd/3;1hgidrnllOUT;4ll;1hnmidn;1hdmi;1hnmiua;1hc/2;1hnmirdKNUCKLE;3uatmsz;1kjmitm;1hnmitmll;3ll;3rnll;1hc/3
  1uzmirnllON;1uwmirnll;1hd/3;1hgmirnllOUT;5ib;4ll;1hcmirnllbn;1HAND-CLAWmirnllcj;6sz;1kjmirnllcjOUT;6ib;5cj;1hdidgd
  1hnidtmsz;1hd/3;1hnidtmsztmdg;6cj;6bn;5idbn;5BOTHbn;5idHINGE;4fwidsg;6bn;4hk;4CURLICUE;4cvtmif;1HAND-CLAW/5
  1hnidtmcvtmUNDER;4ci;1uwidtm;4oe;1hd/3;4la;3tm;4sm;1hgidtmOUT;4ib;3tm;1hntm;3HEEL;3szdg;4cj;4bn;3fw;3bwidmi;4mirn;4rnll
  3UNDERtwfn;3ov/2;3UNDERthfn;4fufn;3ovfurdKNUCKLES;1hn;2HEEL;1TOUCHsn;2mp;2bw;1GRASPsn;2mp;2bw;1STRIKEsn;2mp;2bw;1BRUSHsn
  2mp;2bw;1RUBsn;2mp;2bw;1SURFACE SYMBOLS;2bw;1SQUEEZElasn;2smsn;2lamp;2smmp;2SEQUENTIAL;1FLICKlasn;2smsn;2lamp;2smmp
  2SEQUENTIAL;1SQUEEZE FLICKag;1MOVEMENT-HINGEuadnla;4sm;3SEQUENTIAL;2dn/1;2uadnagla;5sm;2szotszSCISSORS;1mmxuCONTACT;1mv/2
  1mmsnsgsm;4md;4la;4lz;3wbFLEX;2dosg;3wbFLEX;3ag;4wbFLEX;2rc;2tpsgvm;3wbFLEX;3ag;4wbFLEX;2BENDsm;3md;3la;2rrsm;3md;3la
  3ROTATION;2kgsm;3md;3la;2bxsm;3md;3la;2zgsm;3md;3la;2PEAKSsm;3md;3la;1TRAVEL-WALLPLANErwsn;3do;3ag;2rlsn;3do;3ag;2SHAKING
  2ARM SPIRALsn;4do;4tp;1MOVEMENT-DIAGONAL AWAYsm;3md;3la;3lz;2TOWARDSsm;3md;3la;3lz;2bwAWAYsm;4md;4la;4lz;3TOWARDSsm;4md;4la
  4lz;1mvsnsgsm;4md;4la;4lz;3wbFLEX;2dosg;3wbFLEX;3ag;4wbFLEX;2rc;2tpsgvm;3wbFLEX;3agvm;4wbFLEX;2BEND;2rrsm;3md;3la;2kg;2bxsm
  3md;3la;2zgsm;3md;3la;2PEAKSsm;3md;3la;1TRAVEL-FLOORPLANErlsn;3do;3ag;2rwsn;3do;3ag;2SHAKING;1mmcvqasm;4md;4la;4lz
  3HALF-CIRCLEsm;4md;4la;4lz;3THREE-QUARTERcism;5md;2HUMPsm;3md;3la;2pqsm;3md;3la;3smdo;2wvcvdosm;5md;5la;4tpsm;5md;5la
  2cvTHENsg;2uvrcsm;4md;1rwsn;2do;2lr;1mmSHAKING;2cvihFRONT WALL;2HUMP/3;2pq/3;2wv/3;1rwsn/3;2do/3;2ag/3;1mmcvihCHEST;2HUMP/2
  2pq/2;2wv/2;1rwsn/2;2do/2;2ag/2;1mmwvdgPATHsm;5md;5la;1mvcvihjusm;5la;2HUMPihjusmdo;5lado;5smtp;5latp;2pqihjusmsn;5lasn
  5smdo;5lado;2wvihjusm;5la;1rlsnihju;2do/2;2ag/2;1mvcvihFLOORsm;5la;2HUMPihFLOORsmdo;5lado;5tpsmtp;6latp;2pqihFLOORsmsn
  5lasn;5smdo;5lado;2wvihFLOORsm;5la;1rlsnihFLOOR;2do/2;2ag/2;1mvcvsm;3md;3la;3lz;3COMBINED;2HUMPsm;2pqsm;2wvSNAKE;3sm;3la
  1rlsn;2do;2ag;1mvSHAKINGrz;1mmARMcismsn;4mdsn;4smdo;4mddo;1mvARMciihWALLsmsn;6mdsn;6lasn;6smdo;6mddo;6lado;1mmwbciFRONTsn
  5do;1mvwbciihWALLsn;6do;1mmxuCIRCLESsn;4do;1mvxuCIRCLESihWALLsn;6do;1DYNAMICaosm;3la;2FAST;2SLOW;2TENSE;2RELAXED
  2SIMULTANEOUS;3ag;2EVERY OTHER TIME;2GRADUAL;1hv;2RIM;2mmsg;3TILT;2mvsg;2mmcv;2mvcv;2vmci
  1faDIRECTION POSITION NOSEfwTILTING;5uaobdn;8TILTING;1EYEBROWSsgua;3ne;3dn;1DREAMY EYEBROWSnedn;3dnne;3uane;3neua
  1FOREHEADne;2CONTACT;2wn;1ysoe;2SQUEEZED;2cl;1EYE BLINKsn;3mp;1yshaoe;2WIDEoe;2hacl;2WIDENINGvm;1EYE WINK;1EYELASHESua;2dn
  2FLUTTERING;1ygsg;3do;3ag;1EYEGAZE-FLOORPLANEsg;3do;3ag;1yguv;1EYEGAZE-FLOORPLANEuv;1ygCIRCLING;1CHEEKS PUFFED;2ne;2SUCKED
  1TENSE CHEEKShi;3mi;3lw;1EARS;1NOSEne;2CONTACT;2WRINKLES;2WIGGLES;1AIR BLOWING OUT;2SUCKINGib;2BLOWsmROTATIONS;2SUCK/2
  1BREATH INHALE;2EXHALE;1ouclne;3fw;3CONTACT;2SMILE;3wn;3oe;2FROWN;3wn;3oe;2oeci;3fw;3wn;3OVAL;4wn;4YAWN;3RECTANGLE;4wn
  4YAWN;2KISS;3fw;3wn;2TENSE;3fw;3SUCKED;1LIPS PRESSED TOGETHER;1LIPloovue;2ueovlo;1ouxn;2WRINKLESsn;3do
  1TONGUE STICKING OUT FAR;2LICKING LIPS;2TIPbw/1;3TOUCHINGifou;2ifouRELAXED;2MOVES AGAINST CHEEK;2ceSTICKING OUT;3ifou
  1TEETH;2vm;2ON TONGUE;4vm;3LIPS;4vm;2BITE LIPS;1mmJAW;1mv/1;1NECK;1HAIR;1EXCITEMENT;1SHOULDER HIP SPINE;3POSITIONS
  1WALLPLANE SHOULDER HIP MOVE;1FLOORPLANE/3;1SHOULDER TILTINGfmWAIST;1TORSO-WALLPLANEsgSTRETCH;2uvBEND
  1TORSO-FLOORPLANE TWISTING;1ueBODY TILTINGfmHIP JOINTS;1LIMB COMBINATION;2LENGTH-1;+6;1xu;1LOCATION-WALLPLANEpc
  1LOCATION-FLOORPLANEpc;1LOCATION HEIGHT;2WIDTH;2DEPTH;2hvNECK;2TORSO;2LIMBS DIGITS;1cm;1flts;1em;1oc;1pa"),
  (0x1DA9B, "SIGNWRITING FILL MODIFIER-2;2MODIFIER-3;+3"),
  (0x1DAA1, "SIGNWRITING ROTATION MODIFIER-2;2MODIFIER-3;+6;2MODIFIER-10;+6"),
  (0x1DF00, "atsmleFENGdrwiTRILL;3rescG;1lesmcatuG;1smlereK;1lesmcaLwiBELT;1smleLEZHwirthk;3tuYwiBELT;3reENG;3tuRwilnjxanrthk
  3Twihk/3;1lertCLICKwi/2;1smlejjwidoba;7anur;3tuTwiur;1leivglts/2;2erC/2;2smcatuK;1smleLwikv;3DEZHdrwifkhk;3LwiBELTan/2
  3ENGwi/2;3tuR/3;3Rwikvan/2;3TESHdrwi/2;3EZH/3;3DEZHdrwirthk;3Iwistan/2;3Owi/2;3TESHdr/3;3C/3;3Swiur"),
  (0x1E000, "cogvleAZU;3BUKY;3VEDE;3GLAGOLI;3DOBRO;3YESTU;3ZHIVETE"),
  (0x1E008, "cogvleZEMLJA;3IZHE;3in/1;3I;3DJERVI;3KAKO;3LJUDIJE;3MYSLITE;3NASHI;3ONU;3POKOJI;3RITSI;3SLOVO;3TVRIDO;3UKU;3FRITU
  3HERU"),
  (0x1E01B, "cogvleSHTA;3TSI;3CHRIVI;3sa;3YERU;3YERI;3YATI"),
  (0x1E023, "cogvleyu;3smYUS"),
  (0x1E026, "cogvleYO;3xlsmYUS;3BIG/1;3xl/2;3FITA"),
  (0x1E100, "NYIAKENG PUACHUEvvleam;4tj;4NTA;4tb;4ah;4na;4XA;4NKA;4cb;4lb;4as;4za;4NCA;4NTSA;4ka;4ad;4ny;4NRA;4vb;4NTXA;4TXA
  4fb;4ra;4QA;4ya;4NQA;4ap;4XYA;4NPA;4DLA;4NPLA;4hh;4MLA;4PLA;4gb;4rx;4A;4af;4I;4U;4O;4oo;4E;4ej;4W"),
  (0x1E130, "NYIAKENG PUACHUEvvTONE-B;3TONE-M;3TONE-J;3TONE-V;3TONE-S;3TONE-G;3TONE-D;3sirfpn;5THING;5LOCATION;5ANIMAL
  5INVERTEBRATE;4XW XW;3slLENGTHENER"),
  (0x1E140, "NYIAKENG PUACHUEvvdize;4on;4tw;4th;4fu;4fv;4sx;4se;4ei;4ni"),
  (0x1E14E, "NYIAKENG PUACHUEvvLOGOGRAM NYAJ;3cccb"),
  (0x1E290, "TOTOleap;2bc;2tb;2ad;2ka;2gb;2am;2na;2ng;2as;2ch;2ya;2wa;2ja;2ah;2ra;2lb;2I;2BREATHY I;2IU;2BREATHY/1;2U;2E
  2BREATHY E;2EO;2BREATHY/1;2O;2AE;2BREATHY/1;2A;1sirmnt"),
  (0x1E2C0, "WANCHOleaf;2A;2bc;2cb;2ad;2gb;2ya;2ph;2lb;2na;2ap;2tb;2ht;2fb;2as;2sa;2ja;2za;2wa;2vb;2ka;2O;2aj;2ra;2am;2kb;2ah
  2E;2I;2ng;2U;2LLHA;2tj;2TRA;2ONG;2AANG;2ANG;2ING;2ON;2eb;2AAN;2ny;2UEN;2YIH;1ntTUP;2TUPNI;2KOI;2KOINI;1dize;2on;2tw;2th;2fu
  2fv;2sx;2se;2ei;2ni"),
  (0x1E2FF, "WANCHO NGUNsi"),
  (0x1E7E0, "etslHHYA;2HHYU;2HHYI;2HHYAA;2HHYEE;2HHYE;2HHYO"),
  (0x1E7E8, "etslGURAGE HHWA;2HHWI;2HHWEE;2HHWE"),
  (0x1E7ED, "etslGURAGE MWI;3MWEE"),
  (0x1E7F0, "etslGURAGE QWI;3QWEE;3QWE;3BWI;3BWEE;3KWI;3KWEE;3KWE;3GWI;3GWEE;3GWE;3FWI;3FWEE;3PWI;3PWEE"),
  (0x1E800, "MENDE KIKAKUIslM001 KI;3M002ka;3M003 KU;3M065 KEE;3M095 KE;3M076 KOO;3M048 KO;3M179 KUA;3M004 WI;3M005wa;3M006 WU
  3M126 WEE;3M118 WE;3M114 WOO;3M045 WO;3M194 WUI;3M143 WEI;3M061 WVI;3M049 WVA;3M139 WVE;3M007 MIN;3M008mj;3M009 MUN
  3M059 MEN;3M094 MON;3M154 MUAN;3M189 MUEN;3M010 BI;3M011bc;3M012 BU;3M150 BEE;3M097 BE;3M103 BOO;3M138 BO;3M013 I;3M014 A
  3M015 U;3M163ej;3M100 E;3M165oo;3M147 O;3M137 EI;3M131ib;3M135ib;3M195 AN;3M178eb;3M019 SI;3M020as;3M021 SU;3M162 SEE
  3M116 SE;3M136 SOO;3M079 SO;3M196 SIA;3M025 LI;3M026lb;3M027 LU;3M084 LEE;3M073 LE;3M054 LOO;3M153 LO;3M110lnLE;3M016 DI
  3M017ad;3M018 DU;3M089 DEE;3M180 DOO;3M181 DO;3M022 TI;3M023tb;3M024 TU;3M091 TEE;3M055 TE;3M104 TOO;3M069ot;3M028 JI
  3M029ja;3M030 JU;3M157 JEE;3M113 JE;3M160 JOO;3M063 JO;3M175lnJO;3M031 YI;3M032ya;3M033yu;3M109 YEE;3M080 YE;3M141 YOO
  3M121 YO;3M034 FI;3M035fb;3M036 FU;3M078 FEE;3M075 FE;3M133 FOO;3M088 FO;3M197 FUA;3M101 FAN;3M037 NIN;3M038 NAN;3M039nc
  3M117 NEN;3M169 NON;3M176 HI;3M041ah;3M186 HU;3M040 HEE;3M096hj;3M042 HOO;3M140 HO;3M083 HEEI;3M128 HOOU;3M053 HIN;3M130 HAN
  3M087 HUN;3M052 HEN;3M193 HON;3M046 HUAN;3M090 NGGI;3M043 NGGA;3M082 NGGU;3M115 NGGEE;3M146 NGGE;3M156 NGGOO;3M120 NGGO
  3M159 NGGAA;3M127 NGGUA;3M086lnNGGE;3M106lnNGGOO;3M183lnNGGO;3M155 GI;3M111gb;3M168 GU;3M190 GEE;3M166 GUEI;3M167 GUAN
  3M184 NGEN;3M057 NGON;3M177 NGUAN;3M068ip;3M099ap;3M050 PU;3M081 PEE;3M051pb;3M102 POO;3M066 PO;3M145 MBI;3M062 MBA
  3M122 MBU;3M047 MBEE;3M188/1;3M072 MBE;3M172 MBOO;3M174 MBO;3M187 MBUU;3M161lnMBE;3M105lnMBOO;3M142lnMBO;3M132 KPI;3M092 KPA
  3M074 KPU;3M044 KPEE;3M108 KPE;3M112 KPOO;3M158 KPO;3M124 GBI;3M056 GBA;3M148 GBU;3M093 GBEE;3M107 GBE;3M071 GBOO;3M070 GBO
  3M171ra;3M123 NDI;3M129 NDA;3M125 NDU;3M191 NDEE;3M119 NDE;3M067 NDOO;3M064 NDO;3M152 NJA;3M192 NJU;3M149 NJEE;3M134 NJOO
  3M182 VI;3M185vb;3M151 VU;3M173 VEE;3M085 VE;3M144 VOO;3M077 VO;3M164 NYIN;3M058 NYAN;3M170 NYUN;3M098 NYEN;3M060 NYON"),
  (0x1E8C7, "MENDE KIKAKUIdion;3tw;3th;3fu;3fv;3sx;3se;3ei;3ni;2conuTEENS;4TENS;4HUNDREDS;4ut;4teut;4huut;4MILLIONS"),
  (0x1E900, "ADLAMcaleALIF;3DAALI;3LAAM;3MIIM;3bc;3SINNYIIYHE;3pb;3BHE;3ra;3E;3fb;3I;3O;3dh;3YHE;3ww;3nc;3kf;3ya;3U;3JIIM;3cx
  3ah;3QAAF;3gb;3ny;3TU;3NHA;3vb;3kb;3GBE;3ZAL;3KPO;3sa;1smleALIF;3DAALI;3LAAM;3MIIM;3bc;3SINNYIIYHE;3pb;3BHE;3ra;3E;3fb;3I;3O
  3dh;3YHE;3ww;3nc;3kf;3ya;3U;3JIIM;3cx;3ah;3QAAF;3gb;3ny;3TU;3NHA;3vb;3kb;3GBE;3ZAL;3KPO;3sa;1ALIF LENGTHENER;1vo/1;1jnma;1hm
  1ctmo;1GEMINATE/2;1nk;1NASALIZATIONma"),
  (0x1E950, "ADLAMdize;2on;2tw;2th;2fu;2fv;2sx;2se;2ei;2ni"),
  (0x1E95E, "ADLAMinexma;2quma"),
  (0x1EC71, "INDIC SIYAQnuon;3tw;3th;3fu;3fv;3sx;3se;3ei;3ni;3te;3tn;3ty;3ft;3ff;3ix;3sv;3ey;3iy;3onhu;3twhu;3thhu;3fuhu;3fvhu
  3sxhu;3sehu;3eihu;3nihu;3onto;3twto;3thto;3futo;3fvto;3sxto;3seto;3eito;3nito;3teto;3tnto;3tyto;3ftto;3ffto;3ixto;3svto
  3eyto;3iyto;3LAKH;3LAKHAN;2LAKHma;2nuKAROR;3KARORAN;3PREFIXEDon;4tw;4th;4fu;4fv;4sx;4se;4ei;4ni;2PLACEHOLDER;2fronqa;4ha
  3thqr;2RUPEEma;2nulron;4tw;4teto;2lrLAKHma"),
  (0x1ED01, "OTTOMAN SIYAQnuon;3tw;3th;3fu;3fv;3sx;3se;3ei;3ni;3te;3tn;3ty;3ft;3ff;3ix;3sv;3ey;3iy;3onhu;3twhu;3thhu;3fuhu
  3fvhu;3sxhu;3sehu;3eihu;3nihu;3onto;3twto;3thto;3futo;3fvto;3sxto;3seto;3eito;3nito;3teto;3tnto;3tyto;3ftto;3ffto;3ixto
  3svto;3eyto;3iyto;2MARRATAN;2lrnutw;4th;4fu;4fv;4sx;4se;4ei;4ni;4te;4fuhu;4sxhu;4twto;4teto;2fronha;4SIXTH"),
  (0x1EE00, "aamtal;2bm;2je;2DAL"),
  (0x1EE05, "aamtww;2zi;2hh;2tq;2ye;2kf;2lm;2me;2nn;2ee;2aw;2fh;2ay;2qf;2rp;2sw;2ez;2kw;2kh;2THAL;2dx;2ZAH;2gc;2dlbm;3nn;3fh
  3qf"),
  (0x1EE21, "aamtinbm;3je"),
  (0x1EE24, "aamtinhf"),
  (0x1EE27, "aamtinhh"),
  (0x1EE29, "aamtinye;3kf;3lm;3me;3nn;3ee;3aw;3fh;3ay;3qf"),
  (0x1EE34, "aamtinsw;3ez;3kw;3kh"),
  (0x1EE39, "aamtindx"),
  (0x1EE3B, "aamtingc"),
  (0x1EE42, "aamttvje"),
  (0x1EE47, "aamttvhh"),
  (0x1EE49, "aamttvye"),
  (0x1EE4B, "aamttvlm"),
  (0x1EE4D, "aamttvnn;3ee;3aw"),
  (0x1EE51, "aamttvay;3qf"),
  (0x1EE54, "aamttvsw"),
  (0x1EE57, "aamttvkh"),
  (0x1EE59, "aamttvdx"),
  (0x1EE5B, "aamttvgc"),
  (0x1EE5D, "aamttvdlnn"),
  (0x1EE5F, "aamttvdlqf"),
  (0x1EE61, "aamterbm;3je"),
  (0x1EE64, "aamterhf"),
  (0x1EE67, "aamterhh;3tq;3ye;3kf"),
  (0x1EE6C, "aamterme;3nn;3ee;3aw;3fh;3ay;3qf"),
  (0x1EE74, "aamtersw;3ez;3kw;3kh"),
  (0x1EE79, "aamterdx;3ZAH;3gc;3dlbm"),
  (0x1EE7E, "aamterdlfh"),
  (0x1EE80, "aamtLOOPEDal;3bm;3je;3DAL;3hf;3ww;3zi;3hh;3tq;3ye"),
  (0x1EE8B, "aamtLOOPEDlm;3me;3nn;3ee;3aw;3fh;3ay;3qf;3rp;3sw;3ez;3kw;3kh;3THAL;3dx;3ZAH;3gc"),
  (0x1EEA1, "aamtdubm;3je;3DAL"),
  (0x1EEA5, "aamtduww;3zi;3hh;3tq;3ye"),
  (0x1EEAB, "aamtdulm;3me;3nn;3ee;3aw;3fh;3ay;3qf;3rp;3sw;3ez;3kw;3kh;3THAL;3dx;3ZAH;3gc"),
  (0x1EEF0, "aamtopmewihhwiTATWEEL;3hhwiDAL")]

end CallLint.Text.Names
