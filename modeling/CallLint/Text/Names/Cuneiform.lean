/-!
# Names of characters from U+12000 to U+143FF

Those of cuneiform signs and Egyptian hieroglyphs.
-/

namespace CallLint.Text.Names

/-- The names of runs of characters, each with the number of its first one. -/
def cuneiform : List (Nat × String) := [
  (0x12000, "CUNEIFORMsiA;3tiA;4dz;4gken;4ah;4ik;4LAGARgu;4MUSH;4SAG;2A2;2AB;3tiASH2;4DUN3gu;4GAL;4gken;4ah;4ikgu;4IMIN;4jr
  4SHESH;4UplUplU;3gu;2AB2;3tiBALAG;4gken;4MEpleb;4SHA3;4tz;2AD;2AK;3tiERIN2;4SHITAplgq;2AL;3tiAL;4DIM2;4gq;4ah;4KAD3;4KI;4sj
  4USH;2ALAN;2hp;2AMAR;3tisj;2AN;3ovAN;3thti;3plNAGApfANplNAGA;5su;2ANSHE;2APIN;2ARAD;3tikq;2ARKAB;2ASAL2;2aq;3ZIDAen;3KABAen
  3ovaqTUG2ovTUG2 TUG2ovTUG2qm;5ovaq;7csaqovaqovaq;2ASH2;2ASHGAB;2bc;2dz;2BAG3;2BAHAR2;2BAL;3ovBAL;2BALAG;2ba;2BARA2;2BI;3tiA
  4gg;4ikgu;2BU;3ovBU AB;5UN;3csBU;2BULUG;3ovBULUG;2BUR;2BUR2;2ad;2DAG;3KISIM5tiAplMASH;5AMAR;5BALAG;5BI;5gb;6plMASH;5GI
  5GIR2;5GUD;5ah;5IR;6plLU;5KAK;5lb;5LU;6plMASH2;5LUM;5NE;5qmplqm;5SI;5tz;5U2plGIR2;5USH;2DAM;2DAR;2DARA3;+1;2DI;2DIB;2DIM
  3tisj;2DIM2;2DIN;3ksUgudj;2dj;2DU;3ovDU;3gu;3gw;2DUB;3tiESH2;2DUB2;2DUG;2DUGUD;2DUH;2DUN;2DUN3;3gu;4gu;2DUN4;2DUR2;2E;3tiqm
  3ovEncovnc;2E2;3tiAplahplad;4gg;4MI;4SAL;4sj;4U;2EDIN;2EGIR;2EL;2eb;3tigk;5en;4ME;3cseb;3pfeb;3su;2EREN;2ERIN2;2ESH2;2EZEN
  3tiA;5plLAL;7tiLAL;4AN;4dz;4DUN3gu;6gu;4ah;5gu;4ikgu;4ks;5su;4KU3;4lb;4LALtiLAL;4LI;4LU;4U2;4UD;2gb;3gu;2GA2;3tiApladplah
  6ah;6ik;4AB2enplTAB;4AN;4aq;4ASH2plGAL;4dz;4baplra;4BUR;5plra;4ad;4DI;4DIMtisj;4DUB;4EL;5pllb;4eb;5tigken;4gken;4gg;4GI
  4GI4;5plA;4GIR2plSU;4ahplLUplESH2;4HAL;5pllb;4HIplLI;4HUB2;4ikgu;4ISHplHUplaq;4KAK;4ks;4KID;5plLAL;4KU3plAN;4lb;4MEpleb;4MI
  4nc;5ovnc;4ap;4SAL;4SAR;4sj;5plTUR;4SHID;4SUM;4tz;4U;4UD;5plDU;3ovGA2;2GABA;3csGABA;2GAD;3ovGADggovgg;2GAL;3GADovGADggovgg
  2GALAM;2GAM;2GAN;2gk;3en;3ovgk;3csgk;2gg;2GAR3;2GASHAN;2GESHTIN;3tikq;2GI;3tiE;4U;3csGI;2GI4;3ovGI4;3cs/1;2GIDIM;2GIR2;3gu
  2GIR3;3tiAplik;4gken;4ik;4LUplik;4ap;2GISAL;2gq;3csgq;3tidz;4tz;3en;2GU;3csGU;2GU2;3tiKAK;5tiikgu;4nc;4SALplTUG2;3gu;2GUD
  3tiAplkq;4kq;3ovGUD LUGAL;2GUL;2GUM;3tisj;2GUR;2GUR7;2GURUN;2GURUSH;2ah;3en;3gu;2HAL;2HI;3tiaq;4ASH2;4dz;4dj;4GAD;4KIN;4nc
  4sj;4U;2HU;2HUB2;3tiAN;4HAL;4ks;4LISH;4UD;2HUL2;2I;3A;2IB;2IDIM;3ovIDIM BUR;5su;2IG;2ik;3DIB;3RI;3ovikSHIRovSHIR UDovUD;3gu
  2IL;3tigken;2IL2;2IM;3titz;3csIM;3pfIM;3su;2IMIN;2ib;2IR;2ISH;2ka;3tiA;4AD;5plKU3;4ASH2;4dz;4BALAG;4ba;4BI;4ERIN2;4ESH2;4gb
  4GAL;4gken;4gg;5plSHA3plA;4GI;4GIR2;4gqplSAR;5csgq;4GU;4GUR7;4ik;4IM;4KAK;4KI;4KID;4LI;4LU;4ME;5plDU;6GI;6TE;4MI;5plNUNUZ
  4NE;4nc;4ip;4RU;4as;4SAR;4sa;4sj;4SHID;4SHU;4SIG;4SUHUR;4TAR;4U;4U2;4UD;4UMUMtiap;4USH;4ZI;2KA2;3csKA2;2KAB;2KAD2;+3
  3ovKAD5;2KAK;3tiikgu;2KAL;3tidz;3csKAL;2KAM2;2KAM4;2ks;3jrtiUovjrtiU;3ovks/7;2KESH2;2KI;3tidz;4U;4UD;2KID;2KIN;2KISAL;2KISH
  2KISIM5;3ovKISIM5;2KU;3ovHItiASH2 KUovHItiASH2;2KU3;+1;3vrfo;2KU7;2KUL;3gu;2KUN;2kq;3pfkq;2KUSHU2;2KWU318;2lb;2jr;3tiA
  5pladplah;6gg;6LAL;4AL;4AN;4aqZIDAen;4dz;4BI;4DAR;4eb;4gb;4gg;4GUD;5plGUD;4ah;4HAL;4HItinc;4ikgu;4IM;5plah;6LU;4KI;4KIN
  4KU3;4KUL;5plHIplA;4jr;4LISH;4LU;4LUL;4ME;5pleb;4MUSH;4NE;4sjplSUM;4SHITAplgqplERIN2;7en;4SHU2;5plSHU2;4SUM;4TAG;4tz
  4TEplAplSUplna;4U;5plA;6UplU;4U2plaq;4UD;4USH;3su;2LAGAR;3tisj;5plSUM;3gu;4ovLAGARgusj;2LAHSHU;2LAL;3tiLAL;2lm;3tikq;5plRU
  2LI;2LIL;2LIMMU2;2LISH;2LU;3tidz;2LU2;3tiAL;4dz;4ESH2;5en;4gken;4HItidz;4IM;4KAD2;+1;5plaq;4KI;4lbplaq;4jr;4MEpleb;4NE;4NU
  4SIplaq;4SIK2plBU;4TUG2;3en;3csLU2;3pf/1;3su;3gw;2LU3;2LUGAL;3ovLUGAL;3pf/1;3gw;2LUH;2LUL;2LUM;3ovLUM;5ggovgg;2am;3titz;3gu
  2MA2;2MAH;2MAR;2MASH;2MASH2;2ME;2MES;2MI;2MIN;2mb;3ovmb;2MUG;3gu;2MUNSUB;2MURGU2;2MUSH;3tiA;4kq;4za;3ovMUSH;5tiAplna
  3csMUSH;2MUSH3;3tiA;5plDI;4DI;3gu;2na;2NA2;2NAGA;3iv;3tiSHUen;3pfNAGA;2NAGAR;2NAM NUTILLU;2NAM;2NAM2;2NE;3tiA;4UD;3gw;2NI
  3tiE;2NI2;2NIM;3tigken;4ggpl/2;2NINDA2;3tiAN;4aq;5plaq;4GUD;4MEplgken;4NE;4nc;4sj;5plA AN;6aq;7plaq;4U2/2;4USH;2NISAG;2NU
  2NU11;2nc;3LAGARtigg;5MASH;5SAL;6ovncLAGARtiSAL;5USH;3en;3ovnc;3csnc;5LAGARovLAGAR;2NUNUZ;3AB2tiASHGAB;5BI;5DUG;5GUD;5ikgu
  5KAD3;5lb;5NE;5SILA3;5U2;3KISIM5tiBI;6U;2ap;2PAD;2PAN;2qm;2PESH2;2ip;3tiA;4AB;4BI;4BU;4E;4I;4IB;4U;4U2;3csip;2PIRIG;3tiKAL
  4UD;4za;3pfPIRIG;2ra;2RAB;2RI;2RU;2as;2SAG NUTILLU;2SAG;3tiA;4DU;4DUB;4ah;4KAK;4kq;4LUM;4MI;4nc;4SAL;4SHID;4TAB;4U2;4UB;4UM
  4UR;4USH;3ovSAG;3gu;2SAL;3jrtiASH2;2SANGA2;2SAR;2sa;2SHA3;3tiA;4dz;4gq;4NE;4SHU2;4TUR;4U;5plA;2SHA6;2SHAB6;2SHAR2;2sj;3HU
  3ovsjGADovGADggovgg;5TABovTAB/3;2SHEG9;2SHEN;2SHESH;2SHESH2;2SHESHLAM;2SHID;3tiA;4IM;2SHIM;3tiA;4BAL;4BULUG;4DIN;4gg;4ik
  5gu;4KUSHU2;4LUL;4MUG;4SAL;2SHINIG;2SHIR;3en;3ovSHIR BURovBUR;2SHITA;2SHU;3ovivSHU;2SHU2;2SHUBUR;2SI;3gu;2SIG;2SIG4
  3ovSIG4 SHU2;2SIK2;2SILA3;2SU;3ovSU;2SUD;2SUD2;2SUHUR;2SUM;2SUMASH;2SUR;2SUR9;2tb;3ai;3tiHI;4MI;3gu;2TAB
  3ovTAB NIovNIdjovdj;3su;2TAG;3tiBI;4GUD;4sj;4SHU;4TUG2;4UD;2tz;2TAR;2TE;3gu;2TI;3en;2TIL;2TIR;3titz;3ovTIR;5GADovGADggovgg
  2TU;2TUG2;2TUK;2TUM;2TUR;3ovTURzaovza;2U;3GUD;3U U;3ovUapovapggovgg;5SURovSUR;5UreovUre;2U2;2UB;2UD;3KUSHU2;3tidz;4MI
  4UplUplU;9gu;3gu;3gw;4tidz;2UDUG;2UM;3tijr;4MEplad;4SHA3;4U;2UMBIN;2UMUM;3tiks;4ap;2UN;3gu;2UR;3csUR;3gw;2UR2;3tiAplah;6na
  4AL;4ah;4nc;4U2;5plaq;6BI;2UR4;2URI;2URI3;2URU;3tiA;4ASHGAB;4ba;4DUN;4gb;4GAL;4gken;4gg;4GU;4ah;4ik;4IM;4ISH;4KI;4LUM;4MIN
  4ap;4sj;4SIG4;4TU;4UplGUD;4UD;4URUDA;2URUDA;3tiU;2USH;3tiA;4KU;4kq;4tz;2USHX;2USH2;2USHUMX;2UTUKI;2UZ3;3tiks;2UZU;2za;3en
  3sutikq;2ZAG;2ZAMX;2ZE2;2ZI;3ovZI;2ZI3;2ZIB;3KABAen;2ZIG;2ZIZ2;2ZU;2ZU5;3tiA;2ZUBUR;2ZUM;2KAP ELAMITE;2ABtinc;2AB2tiA
  2AMARtiKUG;2DAG KISIM5tiU2plMASH;2DAG3;2djplSHU;2DUBtisj;2EZENtiGUD;4sj;2GA2tiANplKAKplA;4ASH2;2GE22;2GIG;2HUSH;2katiANSHE
  4ASH3;4gq;4GUD;4HItiASH2;4LUM;4ap;4SHUL;4TU;4UR2;2jrtiGI;2LU2gwtidz;3tiESH2plLAL;4SHU;2MESH;2MUSH3tiza;2NA4;2NIN;2NIN9
  2NINDA2tiBAL;4GI;2NU11oaiyDEGREES;2PESH2ai;2PIR2;2SAGtiikgu;2TI2;2UMtiME;2U U"),
  (0x12400, "CUNEIFORM NUMERICsitwaq;3thaq;3fuaq;3fvaq;3sxaq;3seaq;3eiaq;3niaq;3thdj;3fudj;3fvdj;3sxdj;3sedj;3eidj;3nidj;3fuU
  3fvU;3sxU;3seU;3eiU;3niU;3onGESH2;3tw/1;3th/1;3fu/1;3fv/1;3sx/1;3se/1;3ei/1;3ni/1;3onGESHU;3tw/1;3th/1;3fu/1;3fv/1;3twSHAR2
  3th/1;5vrfo;3fuSHAR2;3fv/1;3sx/1;3se/1;3ei/1;3ni/1;3onSHARU;3tw/1;3th/1;5vrfo;3fuSHARU;3fv/1;3SHAR2tiGALpldj;7MIN;3onBURU
  3tw/1;3th/1;5vrfo;3fuBURU;3fv/1;3thvrfoESH16;6ESH21;3fuvrfoLIMMU;6LIMMU4;6LIMMU A;7B;3sxvrfoASH9;3sevrfoIMIN3;6IMIN A;7B
  3eivrfoUSSU;6USSU3;3nivrfoILIMMU;6ILIMMU3;+1;6ILIMMU A;3twaqen;3th/2;3fu/2;3fv/2;3sx/2;3onBAN2;3tw/1;3th/1;3fu/1;5vrfo
  3fvBAN2;5vrfo;3NIGIDAMIN;3NIGIDAESH;3onESHE3;3tw/1;3onfqdj;3twfxdj;3fvSIXTHSdj;3onfqvrfoA;3twfx/3;3onegaq;4qaaq
  3olASSYRIANonSIXTH;6qa;3onqaGUR;4ha/1;3ELAMITEonfq;4twfx;4ft;4ff;3fuUvrfo;3fv/3;3sx/3;3se/3;3ei/3;3ni/3"),
  (0x12470, "CUNEIFORMpusiolASSYRIANwoxj;3veoc;3dgoc;4TRICOLON;4QUADCOLON"),
  (0x12480, "CUNEIFORMsiABtincen;4SHU2;2ADtiESH2;2dztidjen;2BAHAR2tiAB2;4NI;4za;2BUovBUtiNA2;2adtitz;2DAGtikq;2DIMtiik;4U U U
  2DIM2tiUD;2DUGtiANSHE;4aq;5ATlf;4DIN;4DUN;4ERIN2;4gb;4GI;4GIR2gu;4gq;4ah;4HI;4ikgu;4ks;4kq;4KUSHU2;5plks;4LAK-020;4lm;5tikq
  4LUHplgq;4MASH;4MES;4MI;4NI;4ip;4sj;4SIgu;2E2tikq;4qm;2ERIN2 X;2ESH2csESH2;2EZENgwtiaq;5HI;5ikgu;5lb;5LAL;5ME;5MES;5SU
  3tiSU;2GA2tiBAHAR2;4DIMgu;4DUGtiikgu;6ks;4EREN;4gb;4ggplDI;6NE;4ahplA;4KUSHU2plks;4lm;5tikq;4LUH;4MUSH;4NE;5plE2;6GI;4SHIM
  4ZIZ2;2GABAoaiyDEGREES;2GESHTINtiU;2gqtigqcsgq;2GU2tiikgu;2GUDplgqtitz;2ahengu;2HItiaqovHItiaq;2katiBU;4ka;4U U U;4UR
  2jrtiZUovZU;2LAK-003;2LAK-021;2LAK-025;2LAK-030;2LAK-050;+1;2LAK-062;2LAK-079ovLAK-079gu;2LAK-080;2LAK-081ovLAK-081
  2LAK-092;2LAK-130;2LAK-142;2LAK-210;2LAK-219;+1;2LAK-225;2LAK-228;2LAK-238;2LAK-265;+1;2LAK-343;2LAK-347;+1;2LAK-383;+1
  2LAK-390;2LAK-441;2LAK-449;3tiGU;4ik;4qmplLU3;6qmpl/1;4U2plbc;2LAK-450;2LAK-457;2LAK-470;2LAK-483;2LAK-490;2LAK-492;+1
  2LAK-495;2LAK-550;2LAK-608;2LAK-617;3tiaq;4dz;4DUN3gugu;4KU3;4lb;4TAR;4TE;4U2;4UD;4URUDA;2LAK-636;2LAK-648;3tiDUB;4gb;4ik
  5gu;4NI;4qmplqmplLU3;4SHESHplKI;4UD;4URUDA;2LAK-724;2LAK-749;2LU2gutiaq;3tidj;4HAL;4qm;5plqmplLU3;4tz;2MIplZA7
  2MUSHovMUSHtigb;6KAK;2NINDA2tiDIMgu;4gq;4GUL;4HI;4KESH2;4LAK-050;4MASH;4qmplqm;4U;5plU;4URUDA;2SAGgutiah;3tieb;4sjATlf;4tz
  2SHA6en;2sjovsj;3plHUB2;4NAM2;4SAR;2SHU2plDUGtiNI;4E2tiAN;2SItitz;2tzplSAG;2TUMtigken;4thdj;2UR2iv;3tiUD;2URUtiDARA3
  4LAK-668;4LU3;2ZA7;2ZUovZUplSAR;2ZU5tithdjen"),
  (0x12F90, "CYPRO-MINOANsiCM001;2CM002;2CM004;+8;2CM012B;2CM013;2CM015;2CM017;2CM019;2CM021;2CM023;+7;2CM033;+8;2CM044
  2CM046;+1;2CM049;+7;2CM058;+6;2CM066;+9;2CM075B;2CM076;2CM078;+14;2CM094;+11;2CM107;+3;2CM112;2CM114;2CM301;+1"),
  (0x13000, "EGYPTIAN HIEROGLYPH A001;2A002;+3;2A005A;2A006;2A006A;2A006B;2A007;+7;2A014A;2A015;+2;2A017A;2A018;+14;2A032A
  2A033;+7;2A040A;2A041;+1;2A042A;2A043;2A043A;2A044;+1;2A045A;2A046;+24;2B001;+4;2B005A;2B006;+3;2C001;+1;2C002A;2C002B
  2C002C;2C003;+7;2C010A;2C011;+13;2D001;+7;2D008A;2D009;+18;2D027A;2D028;+3;2D031A;2D032;+2;2D034A;2D035;+11;2D046A;2D047;+1
  2D048A;2D049;+1;2D050A;2D050B;2D050C;2D050D;2D050E;2D050F;2D050G;2D050H;2D050I;2D051;+1;2D052A;2D053;+1;2D054A;2D055;+12
  2D067A;2D067B;2D067C;2D067D;2D067E;2D067F;2D067G;2D067H;2E001;+7;2E008A;2E009;2E009A;2E010;+6;2E016A;2E017;2E017A;2E018;+2
  2E020A;2E021;+7;2E028A;2E029;+5;2E034A;2E036;+2;2F001;2F001A;2F002;+11;2F013A;2F014;+7;2F021A;2F022;+9;2F031A;2F032;+5
  2F037A;2F038;2F038A;2F039;+6;2F045A;2F046;2F046A;2F047;2F047A;2F048;+3;2F051A;2F051B;2F051C;2F052;+1;2G001;+5;2G006A;2G007
  2G007A;2G007B;2G008;+3;2G011A;2G012;+8;2G020A;2G021;+5;2G026A;2G027;+9;2G036A;2G037;2G037A;2G038;+5;2G043A;2G044;+1;2G045A
  2G046;+8;2H001;+5;2H006A;2H007;+1;2I001;+4;2I005A;2I006;+3;2I009A;2I010;2I010A;2I011;2I011A;2I012;+3;2K001;+7;2L001;+1
  2L002A;2L003;+3;2L006A;2L007;+1;2M001;2M001A;2M001B;2M002;+1;2M003A;2M004;+6;2M010A;2M011;+1;2M012A;2M012B;2M012C;2M012D
  2M012E;2M012F;2M012G;2M012H;2M013;+2;2M015A;2M016;2M016A;2M017;2M017A;2M018;+4;2M022A;2M023;+1;2M024A;2M025;+3;2M028A;2M029
  +2;2M031A;2M032;+1;2M033A;2M033B;2M034;+6;2M040A;2M041;+3;2N001;+17;2N018A;2N018B;2N019;+6;2N025A;2N026;+7;2N033A;2N034
  2N034A;2N035;2N035A;2N036;+1;2N037A;2N038;+4;2NL001;+4;2NL005A;2NL006;+11;2NL017A;2NL018;+2;2NU001;+9;2NU010A;2NU011
  2NU011A;2NU012;+6;2NU018A;2NU019;+3;2NU022A;2O001;2O001A;2O002;+3;2O005A;2O006;2O006A;2O006B;2O006C;2O006D;2O006E;2O006F
  2O007;+3;2O010A;2O010B;2O010C;2O011;+8;2O019A;2O020;2O020A;2O021;+3;2O024A;2O025;2O025A;2O026;+3;2O029A;2O030;2O030A;2O031
  +2;2O033A;2O034;+2;2O036A;2O036B;2O036C;2O036D;2O037;+13;2O050A;2O050B;2O051;2P001;2P001A;2P002;+1;2P003A;2P004;+7;2Q001;+6
  2R001;+1;2R002A;2R003;2R003A;2R003B;2R004;+6;2R010A;2R011;+5;2R016A;2R017;+12;2S001;+1;2S002A;2S003;+3;2S006A;2S007;+7
  2S014A;2S014B;2S015;+2;2S017A;2S018;+8;2S026A;2S026B;2S027;+8;2S035A;2S036;+10;2T001;+2;2T003A;2T004;+3;2T007A;2T008;2T008A
  2T009;2T009A;2T010;+1;2T011A;2T012;+4;2T016A;2T017;+15;2T032A;2T033;2T033A;2T034;+2;2U001;+5;2U006A;2U006B;2U007;+16;2U023A
  2U024;+5;2U029A;2U030;+2;2U032A;2U033;+9;2V001;2V001A;2V001B;2V001C;2V001D;2V001E;2V001F;2V001G;2V001H;2V001I;2V002;2V002A
  2V003;+4;2V007A;2V007B;2V008;+3;2V011A;2V011B;2V011C;2V012;2V012A;2V012B;2V013;+7;2V020A;2V020B;2V020C;2V020D;2V020E;2V020F
  2V020G;2V020H;2V020I;2V020J;2V020K;2V020L;2V021;+2;2V023A;2V024;+4;2V028A;2V029;2V029A;2V030;2V030A;2V031;2V031A;2V032;+1
  2V033A;2V034;+3;2V037A;2V038;+2;2V040A;2W001;+2;2W003A;2W004;+5;2W009A;2W010;2W010A;2W011;+3;2W014A;2W015;+2;2W017A;2W018
  2W018A;2W019;+5;2W024A;2W025;2X001;+3;2X004A;2X004B;2X005;+1;2X006A;2X007;+1;2X008A;2Y001;2Y001A;2Y002;+6;2Z001;+1;2Z002A
  2Z002B;2Z002C;2Z002D;2Z003;2Z003A;2Z003B;2Z004;2Z004A;2Z005;2Z005A;2Z006;+9;2Z015A;2Z015B;2Z015C;2Z015D;2Z015E;2Z015F
  2Z015G;2Z015H;2Z015I;2Z016;2Z016A;2Z016B;2Z016C;2Z016D;2Z016E;2Z016F;2Z016G;2Z016H;2AA001;+6;2AA007A;2AA007B;2AA008;+24"),
  (0x13430, "EGYPTIAN HIEROGLYPHveJOINER;2ho/1;2INSERT ATptSTART;4bt/1;4ptef;4btef;2oymi;2xySEGMENT;2ef/1")]

end CallLint.Text.Names
