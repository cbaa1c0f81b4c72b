/-!
# Names of characters from U+2000 to U+2BFF

Those of punctuation, signs and symbols.
-/

namespace CallLint.Text.Names

/-- The names of runs of characters, each with the number of its first one. -/
def symbols : List (Nat × String) := [
  (0x2000, "ebqb;EMqb;ebpc;EMpc;THREE-PER-EMpc;FOUR-PER-EMpc;SIX-PER-EMpc;FIGUREpc;pupc;THINpc;HAIRpc;zeWIDTHpc;2NON-JOINER
  2JOINER;fgma;jgma;hy;NON-BREAKINGhy;FIGUREdf;ebdf;EMdf;hoba;doveil;1lwil;lfsnqoma;ri/3;snLOW-9/2;1HIGH-REVERSED-9/2;lfdo/2
  ri/3;doLOW-9/2;1HIGH-REVERSED-9/2;DAGGER;do/1;bu;rubu;ondtLEADER;tw/2;hofp;HYPHENATIONiz;ilsp;qxsp;fgEMBEDDING;jg/1
  POP DIRECTIONAL FORMATTING;fgOVERRIDE;jg/1;NARROW NO-BREAKpc;PER MILLEsi;1tetosi;PRIME;do/1;tp/1;re/1;1do/1;1tp/1;vq
  snlpnlqoma;1rh/3;REFERENCEma;doexma;INTERROBANG;vf;UNDERTIE;cgTIE;vqINSERTIONiz;ASTERISM;hybu;frlq;lfsqbrwiQUILL;ri/4;doquma
  quexma;exquma;TIRONIANsiET;rePILCROWsi;blltbu;1rgbu;lwai;reem;CLOSEua;twASTERISKS ALIGNEDvt;jlmnsi;SWUNGdf;ivUNDERTIE
  FLOWERpuma;thdtpu;qdPRIME;fudtpu;fv/2;tw/2;fudtma;derc;TRICOLON;vefuod;mdmtpc;woJOINER;FUNCTION APPLICATION;INVISIBLEti;1sp
  1pl"),
  (0x2066, "fgISOLATE;jg/1;zbSTRONG/1;POP DIRECTIONAL/1;INHIBIT SYMMETRIC SWAPPING;ACTIVATE/2;INHIBITaafoSHAPING;ACTIVATE/3
  NATIONALdiSHAPES;NOMINAL/2;ssze;1atsmleI"),
  (0x2074, "ssfu;1fv;1sx;1se;1ei;1ni;1plsi;1mn;1eusi;1lfpa;1ripa;1atsmleN;bsze;1on;1tw;1th;1fu;1fv;1sx;1se;1ei;1ni;1plsi;1mn
  1eusi;1lfpa;1ripa"),
  (0x2090, "atbssmleA;4E;4O;4X;4xx;4H;4K;4L;4M;4N;4P;4S;4T"),
  (0x20A0, "EURO-CURRENCYsi;ocsi;CRUZEIROsi;FRENCH FRANCsi;LIRAsi;MILLsi;NAIRAsi;PESETAsi;RUPEEsi;WONsi;NEW SHEQELsi;DONGsi
  EUROsi;KIPsi;TUGRIKsi;DRACHMAsi;GERMAN PENNYsi;PESOsi;GUARANIsi;AUSTRALsi;HRYVNIAsi;CEDIsi;LIVRE TOURNOISsi;SPESMILOsi
  TENGEsi;INDIAN RUPEEsi;TURKISH LIRAsi;NORDICmasi;MANATsi;RUBLEsi;LARIsi;BITCOINsi;SOMsi"),
  (0x20D0, "colfhrab;1ri/2;1lnveiloy;1sh/3;1akarab;1ck/2;1lf/2;1ri/2;1rnoy;1ck/2;1ak/2;1thodab;1fu/2;1ENCLOSINGci;2sq;2dm
  2cibk;1lfriarab;1ENCLOSING SCREEN;2KEYCAP;2UPWARDpotr;1rvsdoy;1dovestoy;1ANNUITYsy;1tpUNDERDOT;1WIDE BRIDGEab;1ltaroy
  1lndosdoy;1rghrwibbdw;1lt/4;1lfarbe;1ri/2;1aiab"),
  (0x2100, "ACCOUNTof;ADDRESSEDottgSUBJECT;ducaC;DEGREE CELSIUS;ceilsy;CAREof;CADA UNA;EULER CONSTANT;SCRUPLE
  DEGREE FAHRENHEIT;scsmG;1caH;by/2;du/2;PLANCK CONSTANT;2ovtwip;sccaI;by/2;sccaL;1smL;L Bbasy;ducaN;NUMEROsi
  ozRECORDING COPYRIGHT;sccaP;du/2;2Q;sccaR;by/2;du/2;PRESCRIPTION TAKE;RESPONSE;SERVICEma;elsi;TRADEmasi;VERSICLE;ducaZ
  OUNCEsi;OHMsi;iv/2;bycaZ;tugesmleio;KELVINsi;ANGSTROMsi;sccaB;bycaC;ESTIMATEDsy;scsmE;1caE;2F;tu/2;sccaM;1smO;alsy;BETsy
  gfsy;DALETsy;INFORMATION SOURCE;oacaQ;FACSIMILEsi;dusmip;2mg;1camg;2ip;1N-ARY SUMMATION;tunscaG;3L;re/3;tunscaY;duijcaD;2smD
  3E;3I;3J;PROPERTYil;tupm;PERsi;AKTIESELSKAB;tusmF;syrfSAMARITAN SOURCE;VULGARfronSEVENTH;3NINTH;3TENTH;3fq;2twfx;2onFIFTH
  2twFIFTHS;2th/1;2fu/1;2onSIXTH;2fvSIXTHS;2oneg;2thgi;2fvgi;2segi;frNUMERATORon;ROMANnxon;2tw;2th;2fu;2fv;2sx;2se;2ei;2ni;2te
  2ev;2wl;2ff;2onhu;2fvhu;2onto;smROMANnxon;3tw;3th;3fu;3fv;3sx;3se;3ei;3ni;3te;3ev;3wl;3ff;3onhu;3fvhu;3onto;ROMANnxontoC D
  2fvto;2teto;2reonhu;atsmlereC;ROMANnxsxLATEfo;2ffEARLYfo;3to;2onhuto;VULGARfrzefx;tuditw;2th"),
  (0x2190, "ltar;upar;rgar;dwar;lfriar;uadnar;nowsar;1eaar;so/2;1wsar;ltarwist;rg/3;ltwvar;rg/2;lttwHEADEDar;up/3;rg/3;dw/3
  ltarwitc;rg/3;ltarfmba;up/3;rg/3;dw/3;uadnarwiBASE;ltarwihk;rg/3;ltarwipq;rg/3;lfriwvar;2arwist;dwzgar;uparwiTIPlt;4rg
  dwarwiTIPlt;4rg;rgarwirrdw;dwarwirrlt;akptSEMICIRCLEar;ck/3;nowsarotlnba;ltarotbaovrgarotba;akoeciar;ck/3;lthrwibbup;4dw
  uphrwibbrg;4lt;rghrwibbup;4dw;dwhrwibbrg;4lt;rgarovltar;uparltofdwar;ltarovrgar;1PAIREDwj;up/2;rg/2;dw/2;lthrovrghr
  rghrovlthr;ltdoarwist;lfri/4;rg/4;ltdoar;up/2;rg/2;dw/2;lfri/2;uadn/2;nows/2;1ea/2;so/3;1ws/2;lttpar;rg/2;ltSQUIGGLEar;rg/2
  uparwidost;dw/4;ltDASHEDar;up/2;rg/2;dw/2;ltarotba;rg/3;ltwhar;up/2;rg/2;dw/2;upwharfmba;3ON PEDESTAL;5wihoba;6veba;2doar
  4ON PEDESTAL;rgwharfmWALL;nowsarotrr;soea/3;uadnwhar;riarwismci;dwarltofupar;thrgwj;ltarwivest;rg/4;lfri/4;ltarwido/2;rg/5
  lfri/5;ltOPEN-HEADEDar;rg/2;lfri/2;rfALL;COMPLEMENT;xqfd;THERE EXISTS;1DOESnbEXIST;EMPTY SET;INCREMENT;NABLA;jvof;nbAN/2
  sm/2;qsAS MEMBER;DOESnbCONTAIN/2;smqs/2;efofPROOF;N-ARYpj;1COPRODUCT;1SUMMATION;mnsi;MINUS-OR-PLUSsi;dtpl;dvlq;SETmn;aiop
  rnop;buop;sqROOT;CUBE/1;FOURTH/1;PROPORTIONALot;yf;rinl;nl;zxnl;SPHERICALnl;DIVIDES;DOESnbDIVIDE;rzot;nb/2;lcan;1ob;it;ui;ig
  doig;tpig;CONTOURig;SURFACEig;VOLUMEig;ckig;1CONTOURig;ak/2;THEREFORE;BECAUSE;RATIO;PROPORTION;dtmn;EXCESS
  GEOMETRIC PROPORTION;HOMOTHETIC;tlop;retl;ivLAZY S;SINEwv;WREATHpj;nbtl;mntl;ASYMPTOTICALLYeqot;nb/3;px/2;1BUTnbACTUALLY/2
  NEITHERpxNOR/3;az/2;nb/3;azeqob/2;tptl;ALLeqot;qiot;GEOMETRICALLY/2;DIFFERENCEbw;APPROACHEStgLIMIT;GEOMETRICALLYeqot
  pxeqotobtgIMAGEof;IMAGEofobpxeqot;oceu;euoc;rnibeqot;1eqot;CORRESPONDSot;ESTIMATES;EQUIANGULARot;rseu;edeqot
  eqotBY DEFINITION;zxBY;QUESTIONEDeqot;nb/2;IDENTICALot;nb/2;STRICTLYqiot;lsobeqot;gr/3;lsov/2;gr/3;lsBUTnb/2;gr/4;MUCHls;1gr
  bw;nbqiot;1ls;1gr;NEITHERlsNOReqot;1gr/3;lsobqiot;gr/3;NEITHERlsNOR/2;1gr/3;lsobgr;grobls;NEITHERlsNORgr;1grNORls;pr;uc
  probeqot;uc/3;probqiot;uc/3;DOESnbPRECEDE;2SUCCEED;sbof;srof;nbAsbof;2srof;sbofobeqot;sr/4;NEITHER AsbofNOR/2;2sr/4
  sbofwinb/2;sr/5;MULTISET;1mu;1ui;sqIMAGEof;1zzof;1IMAGEofobeqot;1zz/4;1CAP;1CUP;ccpl;1mn;1ti;1dvlq;1dtop;1rnop;1aiop;1eu;1df
  supl;1mn;1ti;1dtop;ritk;lftk;dntk;uatk;ASSERTION;MODELS;TRUE;FORCES;tpvebariTURNSTILE;dovebado/2;DOESnbPROVE;nbTRUE
  DOESnbFORCE;NEGATEDdovebadoriTURNSTILE;prUNDER RELATION;uc/2;mzugof;qsASmzug;mzugofobeqot;qsASmzug/3;zzof;IMAGEof;MULTIMAP
  HERMITIAN CONJUGATE MATRIX;INTERCALATE;XOR;NAND;NOR;rinlwiARC;1tr;N-ARYlcan;2ob;1it;1ui;dmop;dtop;rsop;dvti;BOWTIE
  lfmzFACTOR SEMIDIRECTpj;ri/4;lf/2;ri/2;retleu;culcob;2an;dosb;1sr;1it;1ui;PITCHFORK;eqanrzot;lswidt;gr/2;vyMUCHls;2gr
  lseqotobgr;greqotobls;eq/3;3gr;3pr;3uc;DOESnbPRECEDEobeq;2SUCCEED/2;nbsqIMAGEofobeqot;2zz/4;sqIMAGEofobnb/2;1zz/5
  lsBUTnbqiot;gr/4;pr/4;uc/4;nbmzugof;DOESnbCONTAIN ASmzug;nbmzugofobeqot;DOESnbCONTAIN ASmzugobeq;vefp;MIDLINEhofp;uaridgfp
  dn/3;jvofwilnhost;3vebaATefof/2;smjv/9;jvofwidtab;3ow;sm/4;jvofwiun;3twhoSTROKES;qswilnhost;2vebaATefof/2;sm/9;qswiow;sm/3
  ZnwBAG MEMBERSHIP;DIAMETERsi;ELECTRICar;HOUSE;uaao;dnao;PROJECTIVE;PERSPECTIVE;WAVYil;lfju;riju;lfFLOOR;ri/1;btriCROP;1lf/1
  ptri/1;1lf/1;renbsi;sqzl;ARC;SEGMENT;SECTOR;elRECORDER;POSITIONiq;VIEWDATAsq;PLACEofINTERESTsi;tunbsi;WATCH;HOURGLASS;ptlfrr
  1rirr;btlfrr;1rirr;pthaig;bt/2;FROWN;SMILE;uaaobwtwhoBARS;OPTION KEY;ERASEottgri;XibA RECTANGLEbx;zv;lpnlbr;rh/2;ERASEottglf
  BENZENErn;CYLINDRICITY;ALL AROUND-PROFILE;SYMMETRY;TOTAL RUNOUT;DIMENSION ORIGIN;CONICAL TAPER;SLOPE;COUNTERBORE;COUNTERSINK
  APL FUNCTIONALsyI-BEAM;3SQUISHqb;3qbeq;4DIVIDE;4dm;4JOT;4ci;3ciSTILE;4JOT;3lqba;3bkba;3qblq;4bk;4ls;4gr;3ltVANE;3rg/1
  3qbltar;4rgar;3cibk;3dntkun;3edSTILE;3qbdnvq;4ed;3dntkJOT;3upVANE;3qbupar;3uatkow;3DEL STILE;3qbuavq;4DEL;3uatkJOT;3dwVANE
  3qbdwar;3QUOTEun;3edun;3dmun;3JOTun;3ciun;3uaSHOE JOT;3QUOTEqb;3cirs;3qboc;3uatkda;3DELda;3rsda;3JOTda;3cida;3dnSHOE STILE
  3lf/2;3tlda;3grda;3cmba;3DELtl;3ZILDE;3STILEtl;3emun;3qbnbeq;4qu;3dnvqtl;3ua/2;3io;3rj;3om;3lhun;3epun;3ioun;3omun;3lh
  nbkgma;rinlwidwzgar;SHOULDEREDoebx;BELLsy;veilwimidt;INSERTIONsy;CONTINUOUS UNDERLINEsy;DISCONTINUOUS/2;EMPHASISsy
  COMPOSITIONsy;whsqwiceveil;ENTERsy;ALTERNATIVE KEYsy;HELMsy;cchobawiNOTCH;1trdn;BROKENciwiNORTHWESTar;UNDOsy;MONOSTABLEsy
  HYSTERESISsy;OPEN-CIRCUIT-OUTPUT H-TYPEsy;1L-TYPEsy;PASSIVE-PULL-DOWN-OUTPUTsy;PASSIVE-PULL-UP-OUTPUTsy;DIRECT CURRENTsyfotw
  SOFTWARE-FUNCTIONsy;APL FUNCTIONALsyqb;DECIMALspKEYsy;PREVIOUS PAGE;NEXT/1;PRINT SCREENsy;CLEAR/2;lfpauehk;2xe;2lohk
  ripauehk;2xe;2lohk;lfsqbruerr;3xe;3lorr;risqbruerr;3xe;3lorr;lfcubruehk;3miPIECE;3lohk;cubrxe;ricubruehk;3miPIECE;3lohk;igxe
  hoilxe;uelfobloricubres;1rioblolf/3;SUMMATIONpt;1bt;ptsqbr;bt/2;3ovptsqbr;RADICALsybt;lfvebxil;ri/3;hoSCAN LINE-1;2LINE-3
  2LINE-7;2LINE-9;DENTISTRYsyliveanptri;5btri;4wici;3dnanho/2;3ua/4;3vewitr;3dnanho/2;3ua/4;3veanwv;3dnanhowiwv;3ua/4;3dnanho
  3ua/2;3veanptlf;5btlf;sqFOOT;RETURNsy;EJECTsy;veilxe;METRICALbv;1lnovsh;1shovln;1lnovtwSHORTS;1twSHORTSovln;3JOINED;1TRISEME
  1TETRASEME;1PENTASEME;ekGROUND;FUSE;ptpa;btpa;ptcubr;bt/2;pteohqbr;bt/3;whTRAPEZIUM;BENZENErnwici;STRAIGHTNESS;FLATNESS
  AC CURRENT;ELECTRICALit;DECIMAL EXPONENTsy;blrhdotr;1lp/2;1uo/2;1dp/2;1rhdotrwiveba;1lp/5;1rhtrwido/2;ALARM CLOCK;STOPWATCH
  TIMER CLOCK;HOURGLASSwiFLOWING SAND;blmdlptr;2rhtr;2uotr;2dptr;doveba;blsqrfts;1cirfRECORD;POWERsy;1ON-OFFsy;1ONsy;1SLEEPsy
  OBSERVER EYEsy;syrfNULL;2STARTofHEADING;4TEXT;2ef/2;4TRANSMISSION;2ENQUIRY;2ACKNOWLEDGE;2BELL;2BACKSPACE;2hoTABULATION
  2ilFEED;2veTABULATION;2foFEED;2CARRIAGE RETURN;2SHIFT OUT;3ib;2DATA LINK ESCAPE;2DEVICE CONTROLon;4tw;4th;4fu;2nvACKNOWLEDGE
  2SYNCHRONOUS IDLE;2efofTRANSMISSIONbo;2CANCEL;2efofmd;2SUBSTITUTE;2ESCAPE;2FILEsp;2GROUPsp;2RECORDsp;2UNITsp;2pc;2DELETE
  BLANKsy;oebx;syrfNEWLINE;2DELETEfotw;2SUBSTITUTE/2"),
  (0x2440, "OCRhk;1CHAIR;1FORK;1iv/1;1BELT BUCKLE;1BOW TIE;1BRANCH BANK IDENTIFICATION;1AMOUNTofkg;1df;1CUSTOMER ACCOUNTnu
  1dobk"),
  (0x2460, "ccdion;2tw;2th;2fu;2fv;2sx;2se;2ei;2ni;1nute;2ev;2wl;2tx;2uf;2fc;2xs;2vn;2gt;2nq;2tn;pzdion;2tw;2th;2fu;2fv;2sx
  2se;2ei;2ni;1nute;2ev;2wl;2tx;2uf;2fc;2xs;2vn;2gt;2nq;2tn;dionflts;1tw/2;1th/2;1fu/2;1fv/2;1sx/2;1se/2;1ei/2;1ni/2;nute/2
  1ev/2;1wl/2;1tx/2;1uf/2;1fc/2;1xs/2;1vn/2;1gt/2;1nq/2;1tn/2;pzatsmleA;4B;4C;4D;4E;4F;4G;4H;4I;4J;4K;4L;4M;4N;4O;4P;4Q;4R;4S
  4T;4U;4V;4W;4X;4Y;4Z;ccatcaleA;4B;4C;4D;4E;4F;4G;4H;4I;4J;4K;4L;4M;4N;4O;4P;4Q;4R;4S;4T;4U;4V;4W;4X;4Y;4Z;2smleA;4B;4C;4D
  4E;4F;4G;4H;4I;4J;4K;4L;4M;4N;4O;4P;4Q;4R;4S;4T;4U;4V;4W;4X;4Y;4Z;1dize;nvccnuev;3wl;3tx;3uf;3fc;3xs;3vn;3gt;3nq;3tn
  doccdion;3tw;3th;3fu;3fv;3sx;3se;3ei;3ni;2nute;nvccdize;bxDRAWINGSliho;2heho;2live;2heve;2litpdfho;2he/3;2litpdfve;2he/3
  2liqddfho;2he/3;2liqddfve;2he/3;2lidnanri;2dnlianrihe;3heanrili;2hednanri;2lidnanlf;2dnlianlfhe;3heanlfli;2hednanlf
  2liuaanri;2ualianrihe;3heanrili;2heuaanri;2liuaanlf;2ualianlfhe;3heanlfli;2heuaanlf;2liveanri;2velianrihe;2uaheanridnli
  2dnheanriuali;2veheanrili;2dnlianriuahe;2ualianridnhe;2heveanri;2liveanlf;2velianlfhe;2uaheanlfdnli;2dnheanlfuali
  2veheanlfli;2dnlianlfuahe;2ualianlfdnhe;2heveanlf;2lidnanho;2lfheanridnli;2riheanlf/2;2dnlianhohe;3heanholi;2rilianlfdnhe
  2lflianri/2;2hednanho;2liua/2;2lfheanriuali;2riheanlf/2;2ualianhohe;3heanholi;2rilianlfuahe;2lflianri/2;2heuaanho;2live/2
  2lfheanriveli;2riheanlf/2;2velianhohe;2uaheandnholi;2dnheanua/2;2vehean/2;2lfuaheanridnli;2riuaheanlf/2;2lfdnheanriuali
  2ridnheanlf/2;2dnlianuahohe;2ualiandn/2;2rilianlfvehe;2lflianri/2;2heveanho;2lidodfho;2he/3;2lidodfve;2he/3;2doho;3ve
  2dnsnanrido;3doanrisn;2dodnanri;2dnsnanlfdo;3doanlfsn;2dodnanlf;2uasnanrido;3doanrisn;2douaanri;2uasnanlfdo;3doanlfsn
  2douaanlf;2vesnanrido;3doanrisn;2doveanri;2vesnanlfdo;3doanlfsn;2doveanlf;2dnsnanhodo;3doanhosn;2dodnanho;2uasnanhodo
  3doanhosn;2douaanho;2vesnanhodo;3doanhosn;2doveanho;2liARCdnanri;6lf;4ua/2;6ri;3dgueriotlolf;5lfotlori;4rc;3lf;3ua;3ri;3dn
  2helf;3ua;3ri;3dn;2lilfanheri;3uaanhedn;2helfanliri;3uaanlidn;uehabo;loonegbo;2qabo;1thgibo;1habo;1fvgibo;1thqrbo;1segibo
  flbo;lfsegibo;1thqrbo;1fvgibo;1habo;1thgibo;1onqabo;2egbo;rihabo;liSHADE;md/1;DARK/1;ueonegbo;ri/3;QUADRANTlolf;2ri;1uelf
  3anlolfanlori;5ri;4uerianlolf;8ri;2ri;3anlolf;6anlori;blsq;whsq;2wirqxn;2oqblsmsq;sqwihoFILL;2ve/1;2ORTHOGONAL CROSSHATCH/1
  2uelfotlori/1;3riotlolf/1;2dgCROSSHATCH/1;blsmsq;wh/2;blRECTANGLE;wh/1;blve/1;wh/2;blPARALLELOGRAM;wh/1;bluotr;wh/2
  bluosmtr;wh/3;blrhtr;wh/2;blrhsmtr;wh/3;blrhPOINTER;wh/2;bldptr;wh/2;bldpsmtr;wh/3;bllptr;wh/2;bllpsmtr;wh/3;bllpPOINTER
  wh/2;bldm;whdm;2oqblsmdm;FISHEYE;zl;whci;deci;ciwiveFILL;BULLSEYE;blci;ciwilfhabl;2ri/2;2lo/2;2ue/2;3riQUADRANTbl
  2ALL BUTuelf/2;lfhablci;ri/3;vjbu;1whci;ueha/3;lo/4;uelfQUADRANT CIRCULAR ARC;1ri/3;lo/4;1lf/3;uehaci;lo/2;blloritr;2lftr
  1ue/2;2ritr;whbu;sqwilfhabl;2ri/2;2uelfdg/2;2lori/3;whsqwiveBISECTINGil;1uotrwidt;uotrwilfhabl;3ri/2;laci
  whsqwiuelfQUADRANT;3lo/2;4ri/1;3ue/2;1ciwiuelf/1;3lo/2;4ri/1;3ue/2;uelftr;1ritr;lolftr;whmdsq;bl/2;whmdsmsq;bl/3;loritr
  blSUNwiRAYS;CLOUD;zu;SNOWMAN;COMET;blrs;whrs;LIGHTNING;THUNDERSTORM;SUN;ASCENDING NODE;DESCENDING/1;CONJUNCTION;OPPOSITION
  blel;whel;BALLOTbx;2wikg;3X;SALTIRE;zuwiRAIN DROPS;HOT BEVERAGE;whSHOGI PIECE;bl/2;SHAMROCK;reoaFLORALehbu;bllfpoid;1ri/2
  whlf/2;1ua/2;1ri/2;1dn/2;SKULLanCROSSBONES;CAUTIONsi;RADIOACTIVEsi;BIOHAZARDsi;CADUCEUS;ANKH;ORTHODOXrc;cxrj;rcofLORRAINE
  2JERUSALEM;rsanqh;FARSIsy;ADI SHAKTI;HAMMERanSICKLE;PEACEsy;YINyb;TRIGRAMrfHEAVEN;2LAKE;2wx;2THUNDER;2WIND;2wr;2mf;2ek
  WHEELofDHARMA;whFROWNINGfa;1msfa;bl/2;whSUNwiRAYS;zbqamq;LAST/2;MERCURY;FEMALEsi;ek;MALEsi;JUPITER;SATURN;URANUS;NEPTUNE
  PLUTO;ARIES;TAURUS;GEMINI;CANCER;LEO;VIRGO;LIBRA;SCORPIUS;SAGITTARIUS;CAPRICORN;AQUARIUS;PISCES;whecki;2qe;2qq;2bi;2kn;2wp
  blecki;2qe;2qq;2bi;2kn;2wp;1SPADE SUIT;wheh/1;1dm/1;blCLUB/1;whSPADE/1;bleh/1;1dm/1;whCLUB/1;HOT SPRINGS;qanm;egnm
  BEAMEDegNOTES;1xi/1;MUSIC FLATsi;1NATURALsi;1SHARPsi;wsSYRIACrc;ea/2;UNIVERSAL RECYCLINGsy;RECYCLINGsyrfTYPE-1 PLASTICS
  3TYPE-2/1;3TYPE-3/1;3TYPE-4/1;3TYPE-5/1;3TYPE-6/1;3TYPE-7/1;3GENERIC MATERIALS;blUNIVERSAL RECYCLINGsy;RECYCLED PAPERsy
  PARTIALLY-RECYCLED/2;PERMANENT PAPERsi;WHEELCHAIRsy;DIE FACE-1;1FACE-2;+4;whciwidtri;3twod;blciwiwhdtri;3twwhod;qcrfyb;2YIN
  DIGRAMrfGREATERyb;2LESSER YIN;3yb;2GREATER YIN;whFLAG;bl/1;HAMMERanPICK;ANCHOR;czSWORDS;STAFFofAESCULAPIUS;SCALES;ALEMBIC
  FLOWER;GEAR;STAFFofHERMES;ATOMsy;FLEUR-DE-LIS;qtwhrs;thLINES CONVERGINGri;3lf;WARNINGsi;hiVOLTAGEsi;DOUBLED FEMALEsi
  1MALEsi;INTERLOCKED FEMALEan/2;MALEanFEMALEsi;1wistsi;3anMALEanFEMALEsi;veMALEwistsi;ho/4;mdwhci;1blci;1smwhci;MARRIAGEsy
  DIVORCEsy;UNMARRIED PARTNERSHIPsy;COFFIN;FUNERAL URN;NEUTER;CERES;PALLAS;JUNO;VESTA;CHIRON;blmqLILITH;SEXTILE;SEMISEXTILE
  QUINCUNX;SESQUIQUADRATE;SOCCERqp;BASEBALL;suKEY;whDRAUGHTSmj;2ki;blDRAUGHTSmj;2ki;SNOWMAN WITHOUT SNOW;SUN BEHIND CLOUD
  RAIN;blSNOWMAN;THUNDER CLOUDanRAIN;tuwhSHOGI PIECE;1bl/2;whdmibsq;csLANES;DISABLED CAR;OPHIUCHUS;PICK;CAR SLIDING
  HELMETwiwhrc;cccsLANES;CHAINS;njENTRY;lrONE-WAYlfWAY TRAFFIC;blTWO-WAY/3;wh/4;bllfLANE MERGE;wh/3;DRIVE SLOWsi;hewhdptr
  lfclENTRY;suSALTIRE;jwdgibwhciibblsq;blTRUCK;RESTRICTEDlfENTRY-1;2ENTRY-2;ASTRONOMICALsyrfURANUS;heciwistantwodab;PENTAGRAM
  RIGHT-HANDED INTERLACED/1;LEFT-HANDED/2;iv/1;blrcON SHIELD;SHINTO SHRINE;CHURCH;CASTLE;HISTORIC SITE;GEAR WITHOUT HUB
  1wiHANDLES;MAPsyrfLIGHTHOUSE;mf;zuON GROUND;FOUNTAIN;FLAGibHOLE;FERRY;SAILBOAT;sqfuxn;SKIER;ICE SKATE;pnwiqp;TENT;jpBANKsy
  HEADSTONE GRAVEYARDsy;FUEL PUMP;CUP ONblsq;whFLAGwihomiblSTRIPE;blSAFETY SCISSORS;ueBLADE/1;bl/1;loBLADE/1;wh/1;1hekgma
  elLOCATIONsi;TAPE DRIVE;AIRPLANE;vl;rdFIST;1nh;VICTORYnh;WRITINGnh;loriPENCIL;PENCIL;ueri/1;whNIB;bl/1;kgma;he/2;muX;he/2
  BALLOT X;he/2;qtgerc;he/2;oecerc;he/3;atrc;wcwh/2;qt/2;MALTESErc;rsofDAVID;fukoai;1BALLOON-SPOKEDai;he/3;fuCLUB-SPOKEDai
  blfupirs;wh/3;SPARKLES;STRESSqtwhrs;cc/2;oeceblrs;blcewhrs;qtblrs;he/3;pwrs;wcwhrs;heai;oeceai;eiSPOKEDai;1piblrs;2pwrs
  sxpiblrs;eipiRECTILINEAR/2;he/5;wlpi/2;xspiai;koai;oece/2;he/2;sxPETALLEDblanwhFLORETTE;bl/1;wh/1;eiPETALLEDqtbl/1
  ccoeceeipirs;hekopwai;SNOWFLAKE;TIGHT TRIFOLIATE/1;heCHEVRON/1;SPARKLE;he/1;BALLOON-SPOKEDai;eikoPROPELLERai;he/4;rcma
  wcwhci;nvsurcma;loriDROP-SHADOWEDwhsq;ue/4;loriwc/2;ue/4;blqumaor;wh/3;1ex/2;bldmmnwhX;heexmasy;liveba;md/2;he/2
  1sntucmqomaor;2cm/3;1dotu/4;2cm/3;1lwsn/4;2do/4;uvSTEMqxsior;heexmaor;1eh/3;1bleh;oaheblehbu;FLORALeh;oaFLORALehbu;mdlfpaor
  1ri/2;1FLATTENEDlf/2;2ri/2;1lpnlbror;1rh/3;helpnlqomaor;1rh/4;1lpnlbror;1rh/3;lilfeohq/2;1ri/4;mdlfcu/2;1ri/3
  DINGBATnvccdion;4tw;4th;4fu;4fv;4sx;4se;4ei;4ni;3nute;1ccnsdion;4tw;4th;4fu;4fv;4sx;4se;4ei;4ni;3nute;1nvccnsdion;5tw;5th
  5fu;5fv;5sx;5se;5ei;5ni;4nute;heWIDE-HEADEDrgar;1plsi;1mnsi;1dvsi;1soeaar;1rgar;1noeaar;DRAFTINGizrgar;heROUND-TIPPED/2
  ta/2;he/3;DASHED/3;he/4;bl/2;THREE-D TOP-LIGHTEDrgao;1BOTTOM-LIGHTED/2;bl/2;hebluvdwanrgar;3up/3;SQUATbl/2
  heCONCAVE-POINTED/3;RIGHT-SHADEDwh/2;LEFT-SHADED/3;BACK-TILTEDwc/3;FRONT-TILTED/4;heloRIGHT-SHADOWED/3;1ue/4;xvlo/4;cupq
  xvueRIGHT-SHADOWEDwhrgar;cche/3;WHITE-FEATHERED/2;BLACK-FEATHEREDsoeaar;1rgar;1noeaar;heBLACK-FEATHEREDso/2;2rgar;2noeaar
  TEARDROP-BARBEDrgar;heTEARDROP-SHANKED/2;WEDGE-TAILED/2;he/3;OPEN-OUTLINED/2;docupq;thDIMENSIONALnl;whtroqsmwhtr
  PERPENDICULAR;oesb;1sr;lfS-SHAPED BAG DELIMITER;ri/3;obwidtif;rvsdPRECEDINGsb;srPRECEDINGsd;vebawihost;mtrmdg;lndv;mtjwdg
  sulcan;2ob;whdmwiCENTREDdt;anwidt;jvofOPENINGup;lorirrwidt;uelf/3;lfOUTER JOIN;ri/2;fl/2;lauatk;1dntk;lfanridoTURNSTILE;3tk
  1MULTIMAP;lnritk;1lftk;uatkwiciab;zlDIVIDED BYhoRULE;whCONCAVE-SIDEDdm;3wiltTICK;4rg/1;1sqwilt/1;3rg/1;mtlfwhsqbr;1ri/3
  1lfnlbr;1ri/2;1lfdo/2;1ri/3;1lfwheohqbr;1ri/4;1lfFLATTENEDpa;1ri/2;upqdar;dw/2;akGAPPEDciar;ck/3;riarwiccpl;lnltar;1rgar
  1lfriar;1ltdoar;1rg/2;1lfri/2;1ltarfmba;1rg/3;1ltdo/3;1rg/4;2SQUIGGLEar;BRAILLE PATTERN BLANK;2DOTS-1;+1;2DOTS-12;2DOTS-3
  2DOTS-13;2DOTS-23;2DOTS-123;2DOTS-4;2DOTS-14;2DOTS-24;2DOTS-124;2DOTS-34;2DOTS-134;2DOTS-234;2DOTS-1234;2DOTS-5;2DOTS-15
  2DOTS-25;2DOTS-125;2DOTS-35;2DOTS-135;2DOTS-235;2DOTS-1235;2DOTS-45;2DOTS-145;2DOTS-245;2DOTS-1245;2DOTS-345;2DOTS-1345
  2DOTS-2345;2DOTS-12345;2DOTS-6;2DOTS-16;2DOTS-26;2DOTS-126;2DOTS-36;2DOTS-136;2DOTS-236;2DOTS-1236;2DOTS-46;2DOTS-146
  2DOTS-246;2DOTS-1246;2DOTS-346;2DOTS-1346;2DOTS-2346;2DOTS-12346;2DOTS-56;2DOTS-156;2DOTS-256;2DOTS-1256;2DOTS-356
  2DOTS-1356;2DOTS-2356;2DOTS-12356;2DOTS-456;2DOTS-1456;2DOTS-2456;2DOTS-12456;2DOTS-3456;2DOTS-13456;2DOTS-23456
  2DOTS-123456;2DOTS-7;2DOTS-17;2DOTS-27;2DOTS-127;2DOTS-37;2DOTS-137;2DOTS-237;2DOTS-1237;2DOTS-47;2DOTS-147;2DOTS-247
  2DOTS-1247;2DOTS-347;2DOTS-1347;2DOTS-2347;2DOTS-12347;2DOTS-57;2DOTS-157;2DOTS-257;2DOTS-1257;2DOTS-357;2DOTS-1357
  2DOTS-2357;2DOTS-12357;2DOTS-457;2DOTS-1457;2DOTS-2457;2DOTS-12457;2DOTS-3457;2DOTS-13457;2DOTS-23457;2DOTS-123457;2DOTS-67
  2DOTS-167;2DOTS-267;2DOTS-1267;2DOTS-367;2DOTS-1367;2DOTS-2367;2DOTS-12367;2DOTS-467;2DOTS-1467;2DOTS-2467;2DOTS-12467
  2DOTS-3467;2DOTS-13467;2DOTS-23467;2DOTS-123467;2DOTS-567;2DOTS-1567;2DOTS-2567;2DOTS-12567;2DOTS-3567;2DOTS-13567
  2DOTS-23567;2DOTS-123567;2DOTS-4567;2DOTS-14567;2DOTS-24567;2DOTS-124567;2DOTS-34567;2DOTS-134567;2DOTS-234567
  2DOTS-1234567;2DOTS-8;2DOTS-18;2DOTS-28;2DOTS-128;2DOTS-38;2DOTS-138;2DOTS-238;2DOTS-1238;2DOTS-48;2DOTS-148;2DOTS-248
  2DOTS-1248;2DOTS-348;2DOTS-1348;2DOTS-2348;2DOTS-12348;2DOTS-58;2DOTS-158;2DOTS-258;2DOTS-1258;2DOTS-358;2DOTS-1358
  2DOTS-2358;2DOTS-12358;2DOTS-458;2DOTS-1458;2DOTS-2458;2DOTS-12458;2DOTS-3458;2DOTS-13458;2DOTS-23458;2DOTS-123458;2DOTS-68
  2DOTS-168;2DOTS-268;2DOTS-1268;2DOTS-368;2DOTS-1368;2DOTS-2368;2DOTS-12368;2DOTS-468;2DOTS-1468;2DOTS-2468;2DOTS-12468
  2DOTS-3468;2DOTS-13468;2DOTS-23468;2DOTS-123468;2DOTS-568;2DOTS-1568;2DOTS-2568;2DOTS-12568;2DOTS-3568;2DOTS-13568
  2DOTS-23568;2DOTS-123568;2DOTS-4568;2DOTS-14568;2DOTS-24568;2DOTS-124568;2DOTS-34568;2DOTS-134568;2DOTS-234568
  2DOTS-1234568;2DOTS-78;2DOTS-178;2DOTS-278;2DOTS-1278;2DOTS-378;2DOTS-1378;2DOTS-2378;2DOTS-12378;2DOTS-478;2DOTS-1478
  2DOTS-2478;2DOTS-12478;2DOTS-3478;2DOTS-13478;2DOTS-23478;2DOTS-123478;2DOTS-578;2DOTS-1578;2DOTS-2578;2DOTS-12578
  2DOTS-3578;2DOTS-13578;2DOTS-23578;2DOTS-123578;2DOTS-4578;2DOTS-14578;2DOTS-24578;2DOTS-124578;2DOTS-34578;2DOTS-134578
  2DOTS-234578;2DOTS-1234578;2DOTS-678;2DOTS-1678;2DOTS-2678;2DOTS-12678;2DOTS-3678;2DOTS-13678;2DOTS-23678;2DOTS-123678
  2DOTS-4678;2DOTS-14678;2DOTS-24678;2DOTS-124678;2DOTS-34678;2DOTS-134678;2DOTS-234678;2DOTS-1234678;2DOTS-5678;2DOTS-15678
  2DOTS-25678;2DOTS-125678;2DOTS-35678;2DOTS-135678;2DOTS-235678;2DOTS-1235678;2DOTS-45678;2DOTS-145678;2DOTS-245678
  2DOTS-1245678;2DOTS-345678;2DOTS-1345678;2DOTS-2345678;2DOTS-12345678;rgwtarwivest;4do/2;ltdoarwi/2;rg/5;lfri/5;rgwtarfmba
  ltdo/3;rg/4;dwarwihost;up/4;1tpar;dw/2;ltdodfar;rg/3;lttp/2;rg/3;1wt/3;1arwideSTEM;uparotba;dw/3;rgarwitcwivest;5do/2
  1wtarwitc;5wivest;6do/2;ltARROW-TAIL;rg/1;ltdo/1;rg/2;ltarotbldm;rg/4;ltarfmba/3;rg/6;nowsansoeaar;1eaansowsar;1wsarwihk
  1ea/3;so/4;1ws/3;nowsarannoeaar;1eaaranso/2;soeaaransowsar;1wsaranno/2;rmdgcsjwdg;jwdgcsrmdg;soeaarcsnoeaar;noeaarcsso/2
  jwdgcsno/2;rmdgcsso/2;noeaarcsnowsar;1wsarcsnoeaar;wvarpoDIRECTLYri;arporgTHEN CURVINGup;5dw;2dwTHEN CURVINGlt;5rg
  RIGHT-SIDE ARCckar;LEFT-SIDE ARCakar;pt/3;bt/3;ptARCckarwimn;2akarwipl;loriSEMICIRCULARckar;1lfSEMICIRCULARakar;akclciar
  ck/3;rgarabshltar;ltarabshrgar;shrgarabltar;rgarwiplbe;lt/4;rgarogX;lfriarogsmci;upwtarfm/2;lfbbuaribbdnhr;2dnribbuahr
  uabbridnbblfhr;2lfdnbbrihr;lfbbuaribbuahr;uabbridnbbrihr;lfbbdnribbdnhr;uabblfdnbblfhr;lthrwibbuaotba;rg/6;uphrwibbri/2
  dw/6;lthrwibbdn/2;rg/6;uphrwibblf/2;dw/6;lthrwibbuafmba;rg/6;uphrwibbri/2;dw/6;lthrwibbdn/2;rg/6;uphrwibblf/2;dw/6
  lthrwibbuaablthrwibbdn;uphrwibblfbzuphrwibbri;rghrwibbuaabrghrwibbdn;dwhrwibblfbzdwhrwibbri;lthrwibbuaabrghrwibbua
  4dnabrghrwibbdn;rghrwibbuaablthrwibbua;4dnablthrwibbdn;lthrwibbuaablndf;4dnbe/2;rghrwibbuaab/2;4dnbe/2
  uphrwibblfbzdwhrwibbri;dwhrwibblfbzup/4;ridoarwirqhv;eusiabrgar;tlop/3;ltarabtlop;rg/4;3azeqot;lsabltar;ltarogls;grabrgar
  sb/3;ltarogsb;srabltar;lfFISHtc;ri/2;ua/2;dn/2;tpvebaDELIMITER;ZnwSPOT;2TYPEoc;lfwhcubr;ri/3;lfwhpa;ri/2;ZnwlfIMAGEbr;2ri/2
  2lfBINDINGbr;2ri/2;lfsqbrwiun;ri/4;lfsqbrwiTICKibptrr;risqbrwiTICKibbtrr;lf/7;risqbrwiTICKibptrr;lfnlbrwidt;ri/4;lfARClsbr
  riARCgrbr;dolf/3;1riARClsbr;lfbleohqbr;ri/4;deFENCE;vezgil;zxnlOPENINGlf;rinlvrwisq;zxrinlwidt;nlwiSif;acnl
  SPHERICALnlOPENINGlf;3ua;tunl;renl;nlwiun;re/3;xgnlOPENINGua;3dn;zxnlwioeARM ENDINGibarpouaanri;9uaanlf;9dnanri;9dnanlf
  9rianua;9lf/2;9riandn;9lf/2;reEMPTY SET;EMPTY SETwiow;3smciab;3riarab;3lf/2;ciwihoba;ccveba;1rz;1rvsd;1PERPENDICULAR
  ciDIVIDED BYhobaanpthaDIVIDED BYveba;1wiSUPERIMPOSED X;ccANTICLOCKWISE-ROTATEDdvsi;uaarogci;ccwhbu;1bu;1ls;1gr
  ciwismciottgri;2twhoSTROKES/3;surmdglq;1jw/2;1ai;1smci;1sq;twJOINED SQUARES;trwidtab;2un;Sibtr;trwiSERIFS ATbt;ritrablftr
  lftrbzveba;vebabzritr;BOWTIEwilfhabl;2ri/2;blBOWTIE;tiwilfhabl;2ri/2;whHOURGLASS;bl/1;lfWIGGLY FENCE;ri/2;lfdo/2;ri/3
  INCOMPLETEyf;TIEovyf;yfNEGATEDwiveba;DOUBLE-ENDED MULTIMAP;sqwiCONTOURED OUTLINE;INCREASES AS;SHUFFLEpj;eusianldrz;5witlab
  IDENTICALotanldrz;GLEICH STARK;THERMODYNAMIC;dptrwilfhabl;3ri/2;bldmwidnar;1zl;whciwidnar;bl/4;ERROR-BARREDwhsq;1blsq;1whdm
  1bldm;1whci;1blci;RULE-DELAYED;rvsdop;sdwiow;rvsdwihost;BIGsd;1rvsd;dopl;tppl;lpuvnlbr;rh/3;TINY;MINY;N-ARYccdtop;2plop
  2tiop;1uiopwidt;4pl;1sqitop;2uiop;twlcanop;2obop;N-ARYtiop;MODULOtwSUM;SUMMATIONwiig;qdigop;FINITE PARTig;igwidost
  1AVERAGEwilq;CIRCULATION FUNCTION;akINTEGRATION;ilINTEGRATIONwiRECTANGULAR PATH AROUND POLE;3SEMICIRCULAR/3
  2nbINCLUDINGtg/1;igAROUND Aizop;QUATERNIONigop;igwiltarwihk;2tisi;2it;2ui;2ow;2un;JOIN;lalftrop;ZnwSCHEMA COMPOSITION
  3PIPING;3PROJECTION;plsiwismciab;3craeab;3tlab;3dtbe;3tlbe;3bstw;3bltr;mnsiwicmab;3dtbe;3jwod;3rmod;plsiiblfhaci;3ri/2
  VECTORobrcpj;musiwidtab;3un;SEMIDIRECTpjwibtcl;SMASHpj;musiiblfhaci;3ri/2;ccmusiwicrae;musiibdoci;ccdvsi;plsiibtr;mn/3;mu/3
  INTERIORpj;RIGHTHAND/2;ZnwRELATIONAL COMPOSITION;AMALGAMATIONobCOPRODUCT;itwidt;uiwimnsi;2ow;it/2;2lcan;uiwilcob;1abit
  itabui;uiabbaabit;itabbaabui;uibzanJOINEDwiui;itbzanJOINEDwiit;cluiwiSERIFS;1it/2;dosqit;2ui;cluiwiSERIFSanSMASHpj
  lcanwidtab;1ob/3;dolcan;2ob;twINTERSECTINGlcan;3ob;SLOPINGlaob;2an;lcobOVERLAPPINGlcan;1anwimiSTEM;1ob/3;1anwihodf;1ob/3
  1anwidoow;3un;3doun;smVEEwiun;lcobwidoow;4un;ZnwDOMAIN ANTIRESTRICTION;2RANGE/1;eusiwidtbe;IDENTICALwidtab;tphobawidovest
  4tp/2;tlopwidtab;3rmod;xwmnxw;CONGRUENTwidtab;euwiai;azeqotwicrae;pxeqobeqot;eusiabplsi;plsiabeusi;eusiabtlop;dooceq
  twCONSECUTIVEeuSIGNS;th/3;eusiwitwodabantwodbe;qiwifuodab;lswiciif;gr/3;lswiqumaab;gr/4;lsobldeqot;gr/4;lsobldeqotwidtif
  gr/7;lsobldeqotwidtab;gr/7;lsobldeqotwidtabri;grobldeqotwidtablf;lsobAPPROXIMATE;gr/2;lsanSINGLE-LINEnbeqot;gr/5
  lsannbAPPROXIMATE;gr/3;lsabuxeqabgr;grabuxeqabls;lsabxwobeq;gr/4;lsabxwabgr;grabxwabls;lsabgrabuxeq;grabls/3
  lsabldeqabgrabldeq;grabldeqabls/3;ldeqotobls;4gr;4lswidtif;4gr/3;uxeqotobls;4gr;1ldeqotobls;5gr;xwobls;2gr;1ablsabeusi
  2gr/3;doNESTEDls;2gr;2lswiun;grOVERLAPPINGls;1bzls;lsclBYcv;gr/3;lsclBYcvabldeq;gr/6;SMALLER THAN;LARGER/1
  SMALLER THANobeqot;LARGER/4;eusiwiBUMPYab;prabSINGLE-LINEeusi;uc/4;prabSINGLE-LINEnbeqot;uc/5;prabeusi;uc/3;prabnbeqot;uc/4
  prabaz/2;uc/4;prabnb/3;uc/5;dopr;1uc;sbwidt;sr/2;sbwiplsibe;sr/4;sbwimu/2;sr/4;sbofobeqotwidtab;sr/7;sbofabeusi;sr/4
  sbofabtlop;sr/4;sbofabazeqot;sr/5;sbofabnb/2;sr/5;sqlfoebxop;1ri/3;clsb;1sr;1sbobeqot;1sr/3;sbabsr;srabsb;sb/2;srabsr;1bzsb
  2anJOINED BYdfwisb;jvofOPENINGdw;PITCHFORKwiTEEpt;TRANSVERSALit;FORKING;NONFORKING;shlftk;1dntk;1uatk;PERPENDICULARwiS
  vebatpriTURNSTILE;dovebalf/1;vebado/2;do/5;lndffmlfMEMBERofdove;shdntkwiow;1uatkwiun;3abshdntk;do/2;1uatk;1stnbsi;re/4
  DOESnbDIVIDEwireNEGATIONlq;veilwiciab;4be;dntk/3;rzwihost;2tlop;tpvebaBINARY RELATION;3wihost;1ocop;1NESTEDls;2gr
  uxldlsobeqot;2gr/3;tpsdBINARY RELATION;latpvebaop;dosdop;whveba;N-ARY/3;noeawhar;1ws/2;soea/2;1ws/2;lfri/2;ltblar;up/2;dw/2
  noea/2;1ws/2;soea/2;1ws/2;lfri/2;uadn/2;rgarwiTIPdw;4up;ltarwiTIPdw;4up;sqwipthabl;2bt/2;2ueridg/2;2lolf/3;dmwilf/2;2ri/2
  2pt/2;2bt/2;desq;bllasq;wh/2;blvysmsq;wh/3;blPENTAGON;wh/1;1HEXAGON;bl/1;ho/2;bllaci;1mddm;wh/2;blmdzl;wh/2;blsmdm;2zl;wh/2
  blhoELLIPSE;wh/2;blve/1;wh/2;lfarwismci;thltwj;lfarwiccpl;lnltSQUIGGLEar;ltwtarwivest;4do/2;3fmba;2tpdfar;1arwideSTEM
  3tcwivest;5do/2;1wtarwitc;5wivest;6do/2;1arogX;wvarpoDIRECTLYlf;eusiabltar;rvtlop/3;ltarabrvazeqot;rgaroggr;3sr;ltqdar;rg/2
  rvtlopabrgar;rgarabrvazeqot;tlopabltar;ltarabazeqot;3rvtlop;rg/5;dwtazgar;shldnoar;1BACKSLANTEDsoar;whmdrs;blsmrs;wh/2
  blrhPENTAGON;wh/2;helaci;1OVALwiOVALif;1ciwiciif;1ci;1ccSALTIRE;ldnoarwiHOOKEDhv;BACKSLANTEDsoarwiHOOKEDtc;ldnoarwihotc
  BACKSLANTEDso/4;bnarpodwTHENnoea;sh/7;lttaar;up/2;rg/2;dw/2;lfri/2;uadn/2;nows/2;1ea/2;so/3;1ws/2;lttaDASHEDar;up/3;rg/3
  dw/3;cktaoeciar;ak/4;lttaarotba;up/4;rg/4;dw/4"),
  (0x2B76, "nowstaarotba;1ea/4;so/5;1ws/4;lttaarwidohost;up/6;rg/6;dw/6;hoTAB KEY;ve/2;lttaarovrgtaar;uptaarltofdw/2
  rgtaarovlt/2;dwtaarltofup/2;lttaPAIREDwj;up/3;rg/3;dw/3;ltblccwhar;up/4;rg/4;dw/4;aktariU-SHAPEDar;2bt/2;2lf/2;2pt/2
  RETURNlf;1ri;NEWLINElf;1ri;furrwjCIRCLINGak;rgblar"),
  (0x2B97, "syrfTYPE A ELECTRONICS;THREE-D TOP-LIGHTEDltEQUILATERALao;1RIGHT-LIGHTEDup/2;1TOP-LIGHTEDrg/2;1LEFT-LIGHTEDdw/2
  bllt/2;1up/2;1rg/2;1dw/2;dwtaarwilnTIPlt;6rg;uptaarwilnTIPlt;6rg;lttaarwilnTIPup;rg/6;lttaarwilnTIPdw;rg/6;bluvdwanltar
  4rgar;2upanltar;4rgar;2ltanupar;2rg/3;2ltandwar;2rg/3;RIBBONardnlf;3ri;2ualf;3ri;2lfua;2riua;2lfdn;2ridn;upwharfmbawihoba
  uaaoibA RECTANGLEbx;OVERLAPPINGwhSQUARES;2anbl/1;1bl/1;BALLOTbxwiliX;ccX;1bdX;blsqCENTRED;1dm/1;tublPENTAGON;hoblOCTAGON
  bl/1;1mduotrCENTRED;2dp/2;2lp/2;2rh/2;NEPTUNEfotw;pthablci;bt/3;lifupiblCUSP;oa/5;whfupi/1;oa/4;sqPOSITIONiq;UNCERTAINTYsi
  GROUPma;PLUTOfotw;2th;2fu;2fv;TRANSPLUTO;PROSERPINA;ASTRAEA;HYGIEA;PHOLUS;NESSUS;whmqSELENA;bldmONrc;TRUElimqARTA;CUPIDO
  HADES;ZEUS;KRONOS;APOLLON;ADMETOS;VULCANUS;POSEIDON;lfhablrs;ri/3;rswilfhabl;2ri/2;ltwtarwitrARROWHEADS;up/5;rg/5;dw/5
  ERISfoon;2tw;SEDNA;RUSSIAN ASTROLOGICALsyVIGINTILE;3NOVILE;3QUINTILE;3BINOVILE;3SENTAGON;3TREDECILE;eusiwiyfbe;UNITEDsy
  SEPARATEDsy;DOUBLEDsy;PASSEDsy;rerinl;HELLSCHREIBER PAUSEsy")]

end CallLint.Text.Names
