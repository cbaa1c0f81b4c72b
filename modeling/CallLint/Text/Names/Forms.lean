/-!
# Names of characters from U+AC00 to U+FFFF

Those of presentation forms and variants of width.
-/

namespace CallLint.Text.Names

/-- The names of runs of characters, each with the number of its first one. -/
def forms : List (Nat × String) := [
  (0xD7B0, "uhJUNGSEONG O-YEO;2O-O-I;2YO-A;2YO-AE;2YO-EO;2U-YEO;2U-I-I;2YU-AE;2YU-O;2EU-A;2EU-EO;2EU-E;2EU-O;2I-YA-O;2I-YAE
  2I-YEO;2I-YE;2I-O-I;2I-YO;2I-YU;2I-I;2ARAEA-A;2ARAEA-E"),
  (0xD7CB, "uhJONGSEONG NIEUN-RIEUL;2NIEUN-CHIEUCH;2xa;2SSANGTIKEUT-PIEUP;2TIKEUT-PIEUP;2TIKEUT-SIOS;2TIKEUT-SIOS-KIYEOK
  2TIKEUT-CIEUC;2TIKEUT-CHIEUCH;2TIKEUT-THIEUTH;2RIEUL-SSANGKIYEOK;2RIEUL-KIYEOK-HIEUH;2SSANGRIEUL-KHIEUKH;2RIEUL-MIEUM-HIEUH
  2RIEUL-PIEUP-TIKEUT;2RIEUL-PIEUP-PHIEUPH;2RIEUL-YESIEUNG;2RIEUL-YEORINHIEUH-HIEUH;2KAPYEOUNRIEUL;2MIEUM-NIEUN
  2MIEUM-SSANGNIEUN;2SSANGMIEUM;2MIEUM-PIEUP-SIOS;2MIEUM-CIEUC;2PIEUP-TIKEUT;2PIEUP-RIEUL-PHIEUPH;2PIEUP-MIEUM;2SSANGPIEUP;2km
  2PIEUP-CIEUC;2PIEUP-CHIEUCH;2SIOS-MIEUM;2SIOS-KAPYEOUNPIEUP;2SSANGSIOS-KIYEOK;2SSANGSIOS-TIKEUT;2SIOS-PANSIOS;2SIOS-CIEUC
  2SIOS-CHIEUCH;2SIOS-THIEUTH;2SIOS-HIEUH;2PANSIOS-PIEUP;2PANSIOS-KAPYEOUNPIEUP;2YESIEUNG-MIEUM;2YESIEUNG-HIEUH;2CIEUC-PIEUP
  2CIEUC-SSANGPIEUP;2SSANGCIEUC;2PHIEUPH-SIOS;2PHIEUPH-THIEUTH"),
  (0xFB00, "atsmlgFF;3FI;3FL;3FFI;3FFL;3lnS T;3ST"),
  (0xFB13, "xzsmlgMEN NOW;4ECH;4INI;3VEW NOW;3MEN XEH"),
  (0xFB1D, "wfleYODwiHIRIQ;1izJUDEO-SPANISH VARIKA;1lgYIDDISH YOD YOD PATAH;1leALTERNATIVEyd;2WIDEal;3DALET;3hj;3kf;3LAMED
  3fimw;3jf;3TAV;2ALTERNATIVEplsi;2hswihsdt;4SINdt;4dkanhsdt;6SINdt;2alwiPATAH;4QAMATS;4MAPIQ;2BETwidk;2gf/2;2DALET/2
  2hjwiMAPIQ;2VAVwidk;2zy/2"),
  (0xFB38, "wfleTETwidk;2YOD/2;2fikf/2;2kf/2;2LAMED/2"),
  (0xFB3E, "wflemwwidk"),
  (0xFB40, "wflencwidk;2sk/2"),
  (0xFB43, "wflefipbwidk;2pb/2"),
  (0xFB46, "wfleTSADIwidk;2QOF/2;2jf/2;2hs/2;2TAV/2;2VAVwiHOLAM;2BETwiRAFE;2kf/2;2pb/2;1lgalLAMED;aalealWASLAisfo;4fifo
  2BEEHisfo;3fifo;3info;3mlfo;2PEHisfo;3fifo;3info;3mlfo;2BEHEHisfo;3fifo;3info;3mlfo;2TTEHEHisfo;3fifo;3info;3mlfo;2TEHEHisfo
  3fifo;3info;3mlfo;2TTEHisfo;3fifo;3info;3mlfo;2VEHisfo;3fifo;3info;3mlfo;2PEHEHisfo;3fifo;3info;3mlfo;2DYEHisfo;3fifo;3info
  3mlfo;2NYEHisfo;3fifo;3info;3mlfo;2TCHEHisfo;3fifo;3info;3mlfo;2TCHEHEHisfo;3fifo;3info;3mlfo;2DDAHALisfo;3fifo;2DAHALisfo
  3fifo;2DULisfo;3fifo;2DDALisfo;3fifo;2JEHisfo;3fifo;2RREHisfo;3fifo;2KEHEHisfo;3fifo;3info;3mlfo;2GAFisfo;3fifo;3info;3mlfo
  2GUEHisfo;3fifo;3info;3mlfo;2NGOEHisfo;3fifo;3info;3mlfo;2nnGHUNNAisfo;4fifo;2RNOONisfo;3fifo;3info;3mlfo;2hfwiyeabisfo
  6fifo;3GOALisfo;4fifo;4info;4mlfo;3DOACHASHMEEisfo;4fifo;4info;4mlfo;2yeBARREEisfo;4fifo;4wihmabisfo;7fifo;1sydtab;3be
  2twodab;4be;2thodab;4be;4podwab;6be;2fuodab;4be;2dovebabe;2twodvtab;5be;2rn;2smtqab;4be;2WASLAab"),
  (0xFBD3, "aaleNGisfo;3fifo;3info;3mlfo;2Uisfo;3fifo;2ojisfo;3fifo;2yuisfo;3fifo;2Uwihmabisfo;2VE/2;3fifo;2KIRGHIZojisfo
  4fifo;3yuisfo;4fifo;2Eisfo;3fifo;3info;3mlfo;2UIGHUR KAZAKH KIRGHIZalmkinfo;7mlfo;1lgyewihmabwialisfo;8fifo;7AEisfo;8fifo
  7wwisfo;8fifo;7Uisfo;8fifo;7ojisfo;8fifo;7yuisfo;8fifo;7Eisfo;8fifo;8info;2UIGHUR KIRGHIZyewihmabwialmkisfo;9almkfifo
  9almkinfo;1leFARSIyeisfo;4fifo;4info;4mlfo;1lgyewihmabwijeisfo;7hh/2;7me/2;7almk/2;7ye/2;2bmwije/2;4hh/2;4kh/2;4me/2;4almk/2
  4ye/2;2ezwije/2;4hh/2;4kh/2;4me/2;4almk/2;4ye/2;2kwwije/2;4me/2;4almk/2;4ye/2;2jewihh/2;4me/2;2hhwije/2;4me/2;2khwije/2
  4hh/2;4me/2;2eewije/2;4hh/2;4kh/2;4me/2;2aywihh/2;4me/2;2dxwije/2;4hh/2;4kh/2;4me/2;2tqwihh/2;4me/2;2ZAH/4;2awwije/2;4me/2
  2gcwije/2;4me/2;2fhwije/2;4hh/2;4kh/2;4me/2;4almk/2;4ye/2;2qfwihh/2;4me/2;4almk/2;4ye/2;2kfwial/2;4je/2;4hh/2;4kh/2;4lm/2
  4me/2;4almk/2;4ye/2;2lmwije/2;4hh/2;4kh/2;4me/2;4almk/2;4ye/2;2mewije/2;4hh/2;4kh/2;4me/2;4almk/2;4ye/2;2nnwije/2;4hh/2
  4kh/2;4me/2;4almk/2;4ye/2;2hfwije/2;4me/2;4almk/2;4ye/2;2yewije/2;4hh/2;4kh/2;4me/2;4almk/2;4ye/2;2THALwissal/2;2rp/5
  2almk/5;2SHADDAwiyw/2;4yx/2;4fj/2;4jm/2;4ke/2;4ssal/2;2yewihmabwirpfifo;7zi/2;7me/2;7nn/2;7almk/2;7ye/2;2bmwirp/2;4zi/2
  4me/2;4nn/2;4almk/2;4ye/2;2ezwirp/2;4zi/2;4me/2;4nn/2;4almk/2;4ye/2;2kwwirp/2;4zi/2;4me/2;4nn/2;4almk/2;4ye/2;2fhwialmk/2
  4ye/2;2qfwialmk/2;4ye/2;2kfwial/2;4lm/2;4me/2;4almk/2;4ye/2;2lmwime/2;4almk/2;4ye/2;2mewial/2;4me/2;2nnwirp/2;4zi/2;4me/2
  4nn/2;4almk/2;4ye/2;2almkwissal/2;2yewirp/2;4zi/2;4me/2;4nn/2;4almk/2;4ye/2;4hmabwijeinfo;7hh/2;7kh/2;7me/2;7hf/2;2bmwije/2
  4hh/2;4kh/2;4me/2;4hf/2;2ezwije/2;4hh/2;4kh/2;4me/2;4hf/2;2kwwime/2;2jewihh/2;4me/2;2hhwije/2;4me/2;2khwije/2;4me/2
  2eewije/2;4hh/2;4kh/2;4me/2;2aywihh/2;4kh/2;4me/2;2dxwije/2;4hh/2;4kh/2;4me/2;2tqwihh/2;2ZAHwime/2;2awwije/2;4me/2;2gcwije/2
  4me/2;2fhwije/2;4hh/2;4kh/2;4me/2;2qfwihh/2;4me/2;2kfwije/2;4hh/2;4kh/2;4lm/2;4me/2;2lmwije/2;4hh/2;4kh/2;4me/2;4hf/2
  2mewije/2;4hh/2;4kh/2;4me/2;2nnwije/2;4hh/2;4kh/2;4me/2;4hf/2;2hfwije/2;4me/2;4ssal/2;2yewije/2;4hh/2;4kh/2;4me/2;4hf/2
  4hmabwimemlfo;7hf/2;2bmwime/2;4hf/2;2ezwime/2;4hf/2;2kwwime/2;4hf/2;2eewime/2;4hf/2;2swwime/2;4hf/2;2kfwilm/2;4me/2;2lm/4
  2nn/4;4hf/2;2yewime/2;4hf/2;2SHADDAwifj/2;4jm/2;4ke/2;2tqwialmkisfo;4ye/2;2awwialmk/2;4ye/2;2gcwialmk/2;4ye/2;2eewialmk/2
  4ye/2;2swwialmk/2;4ye/2;2hhwialmk/2;4ye/2;2jewialmk/2;4ye/2;2khwialmk/2;4ye/2;2aywialmk/2;4ye/2;2dxwialmk/2;4ye/2;2swwije/2
  4hh/2;4kh/2;4me/2;4rp/2;2ee/4;2ay/4;2dx/4;2tqwialmkfifo;4ye/2;2awwialmk/2;4ye/2;2gcwialmk/2;4ye/2;2eewialmk/2;4ye/2
  2swwialmk/2;4ye/2;2hhwialmk/2;4ye/2;2jewialmk/2;4ye/2;2khwialmk/2;4ye/2;2aywialmk/2;4ye/2;2dxwialmk/2;4ye/2;2swwije/2;4hh/2
  4kh/2;4me/2;4rp/2;2ee/4;2ay/4;2dx/4;2swwijeinfo;4hh/2;4kh/2;4me/2;2eewihf/2;2sw/4;2tqwime/2;2eewijemlfo;4hh/2;4kh/2
  2swwije/2;4hh/2;4kh/2;2tqwime/2;2ZAH/4;2alwikxfifo;5isfo;ORNATElfpa;1ripa;aalgRAHIMAHU ALLAAH;2RADI ALLAAHU ANH;4ANHAA
  4ANHUM;4ANHUMAA;4ANHUNNA;2SALLALLAAHU ALAYHI WA-AALIH;2ALAYHI AS-SALAAM;2ALAYHIM/1;2ALAYHIMAA/1
  2ALAYHI AS-SALAATU WAS-SALAAM;2QUDDISA SIRRAH;2SALLALLAHU ALAYHI WAAALIHEE WA-SALLAM;2ALAYHAA AS-SALAAM
  2TABAARAKA WA-TAAALAA;2RAHIMAHUM ALLAAH;2ezwijewimeinfo;4hhwijefifo;7info;6me/2;4kh/4;4mewije/2;6hh/2;6kh/2;2jewimewihhfifo
  7info;2hhwimewiyefifo;6almk/2;2eewihhwijeinfo;4jewihh/2;6almkfifo;4mewihh/2;7info;6je/2;6mefifo;7info;2aywihhwihhfifo;7info
  4mewimefifo;2swwihh/4;7info;4jewiyefifo;4mewikh/2;7info;6mefifo;7info;2dxwihhwialmkfifo;4khwime/2;7info;2tqwimewihhfifo
  7info;6me/2;6yefifo;2awwijewime/2;4me/4;7info;6almkfifo;2gcwimewime/2;6ye/2;6almk/2;2fhwikhwime/2;7info;2qfwimewihhfifo
  6me/2;2lmwihh/4;6ye/2;6almk/2;4jewijeinfo;7fifo;4khwime/2;7info;4mewihhfifo;7info;2mewihhwije/2;6me/2;6yefifo;4jewihhinfo
  6me/2;4khwije/2;6me/2"),
  (0xFD92, "aalgmewijewikhinfo;2hfwimewije/2;6me/2;2nnwihh/4;6almkfifo;4jewime/2;7info;6almkfifo;4mewiye/2;6almk/2
  2yewimewime/2;7info;2bmwikhwiyefifo;2ezwije/4;6almk/2;4khwiye/2;6almk/2;4mewiye/2;6almk/2;2jewimewiye/2;4hhwialmk/2;4me/5
  2eewikh/5;2aywihhwiye/2;2sw/6;2dx/6;2lmwije/4;4me/4;2yewihh/4;4je/4;4me/4;2me/6;2qf/6;2nnwihh/4;2qfwimewihhinfo
  2lmwihhwime/2;2awwimewiyefifo;2kf/6;2nnwijewihhinfo;2mewikhwiyefifo;2lmwijewimeinfo;2kfwimewimefifo;2lmwije/4;2nnwijewihh/2
  2jewihhwiye/2;2hhwije/4;2me/6;2fhwime/4;2bmwihh/4;2kfwimewimeinfo;2awwije/4;2aywime/4;2eewikhwiyefifo;2nnwije/4"),
  (0xFDCF, "aalgSALAAMUHU ALAYNAA"),
  (0xFDF0, "aalgSALLA USED AS KORANICtssiisfo;2QALA/7;2ALLAH/2;2AKBAR/2;2MOHAMMAD/2;2SALAM/2;2RASOUL/2;2ALAYHE/2;2WASALLAM/2
  2SALLA/2;2SALLALLAHOU ALAYHE WASALLAM;2JALLAJALALOUHOU;RIALsi;aalgBISMILLAH AR-RAHMAN AR-RAHEEM;2SUBHAANAHUwaTAAALAA
  2AZZAwaJALL;vkSELECTOR-1;1SELECTOR-2;+7;1SELECTOR-10;+6;PRESENTATIONforfvecm;4iecm;5flts;4oc;4em;4exma;4quma;4lfwhjqbr
  4riwhjqBRAKCET;4hofp"),
  (0xFE20, "colglfha;2riha;1dotllfha;3riha;1mclfha;2riha;1CONJOININGmc;1lglfhabe;2ri/2;1tllf/2;2ri/2;1mclf/2;2ri/2
  1CONJOININGmcbe;1cyTITLOlfha;3riha;PRESENTATIONforfvetwdtLEADER;4EMdf;4ebdf;4lwil;4WAVY/2;4lfpa;4ripa;4lfcubr;4ri/2
  4lfeohqbr;4ri/3;4lfbljqbr;4ri/3;4lfdonlbr;4ri/3;4lf/2;4ri/2;4lfrrbr;4ri/2;4lfwh/2;4ri/3;SESAMEdt;wh/2
  PRESENTATIONforfvelfsqbr;4ri/2;DASHEDvf;CENTRELINEvf;WAVYvf;do/2;DASHEDlwil;CENTRELINE/2;WAVY/2;smcm;1iecm;1flts"),
  (0xFE54, "smem;1oc;1quma;1exma;1EMdf;1lfpa;1ripa;1lfcubr;1ri/2;1lfeohqbr;1ri/3;1nusi;1pm;1ai;1plsi;1yh;1lssi;1grsi;1eusi"),
  (0xFE68, "smrvsd;1xfsi;1PERCENTsi;1jlAT"),
  (0xFE70, "aakxisfo;1TATWEELwikxab;1ywisfo;1tcFRAGMENT;1yxisfo"),
  (0xFE76, "aafjisfo;2mlfo;1jmisfo;2mlfo;1keisfo;2mlfo;1SHADDAisfo;2mlfo;1SUKUNisfo;2mlfo;1lehmisfo;2alwiqwab/2;6fifo
  4hmabisfo;6fifo;2wwwihmabisfo;6fifo;2alwihmbeisfo;6fifo;2yewihmabisfo;6fifo;6info;6mlfo;2alisfo;3fifo;2bmisfo;3fifo;3info
  3mlfo;2ezMARBUTAisfo;4fifo;3isfo;3fifo;3info;3mlfo;2kwisfo;3fifo;3info;3mlfo;2jeisfo;3fifo;3info;3mlfo;2hhisfo;3fifo;3info
  3mlfo;2khisfo;3fifo;3info;3mlfo;2DALisfo;3fifo;2THALisfo;3fifo;2rpisfo;3fifo;2ziisfo;3fifo;2eeisfo;3fifo;3info;3mlfo;2swisfo
  3fifo;3info;3mlfo;2ayisfo;3fifo;3info;3mlfo;2dxisfo;3fifo;3info;3mlfo;2tqisfo;3fifo;3info;3mlfo;2ZAHisfo;3fifo;3info;3mlfo
  2awisfo;3fifo;3info;3mlfo;2gcisfo;3fifo;3info;3mlfo;2fhisfo;3fifo;3info;3mlfo;2qfisfo;3fifo;3info;3mlfo;2kfisfo;3fifo;3info
  3mlfo;2lmisfo;3fifo;3info;3mlfo;2meisfo;3fifo;3info;3mlfo;2nnisfo;3fifo;3info;3mlfo;2hfisfo;3fifo;3info;3mlfo;2wwisfo;3fifo
  2almkisfo;4fifo;2yeisfo;3fifo;3info;3mlfo;1lglmwialwiqwabisfo;8fifo;6hmabisfo;8fifo;7beisfo;8fifo;5isfo;5fifo"),
  (0xFEFF, "zeWIDTH NO-BREAKpc"),
  (0xFF01, "FULLWIDTHexma;1qoma;1nusi;1xfsi;1PERCENTsi;1pm;1os;1lfpa;1ripa;1ai;1plsi;1cm;1yh;1flts;1sd;1dize;2on;2tw;2th;2fu
  2fv;2sx;2se;2ei;2ni;1oc;1em;1lssi;1eusi;1grsi;1quma;1jlAT;1atcaleA;4B;4C;4D;4E;4F;4G;4H;4I;4J;4K;4L;4M;4N;4O;4P;4Q;4R;4S;4T
  4U;4V;4W;4X;4Y;4Z;1lfsqbr;1rvsd;1risqbr;1crae;1lwil;1gaae;1atsmleA;4B;4C;4D;4E;4F;4G;4H;4I;4J;4K;4L;4M;4N;4O;4P;4Q;4R;4S;4T
  4U;4V;4W;4X;4Y;4Z;1lfcubr;1veil;1ricubr;1tl;1lfwhpa;1ri/2;wgieflts;1lfrrbr;1ri/2;1iecm;1ktmidt;2leWO;3smA;4I;4U;4E;4O;4ya
  4yu;4YO;4TU;1kkPROLONGEDozma;1ktleA;3I;3U;3E;3O;3ka;3KI;3KU;3KE;3KO;3as;3SI;3SU;3SE;3SO;3tb;3TI;3TU;3TE;3ot;3na;3NI;3NU;3NE
  3nj;3ah;3HI;3HU;3hj;3HO;3am;3MI;3mb;3ME;3MO;3ya;3yu;3YO;3ra;3RI;3RU;3RE;3RO;3wa;3N;2vdozma;2SEMI-VOICED/2;1uhfz;2leyk;3ym
  3KIYEOK-SIOS;3zj;3wy;3wz;3ql;3xa;3zk;3yl;3xb;3xc;3RIEUL-SIOS;3RIEUL-THIEUTH;3RIEUL-PHIEUPH;3xd;3zm;3zn;3SSANGPIEUP
  3PIEUP-SIOS;3SIOS;3SSANGSIOS;3qz;3vp;3SSANGCIEUC;3uj;3ku;3uk;3uq;3zq"),
  (0xFFC2, "wguhleA;3AE;3ya;3YAE;3EO;3E"),
  (0xFFCA, "wguhleYEO;3YE;3O;3wa;3WAE;3oj"),
  (0xFFD2, "wguhleYO;3U;3WEO;3WE;3WI;3yu"),
  (0xFFDA, "wguhleEU;3YI;3I"),
  (0xFFE0, "FULLWIDTH CENTsi;1POUNDsi;1nbsi;1mc;1BROKENba;1YENsi;1WONsi"),
  (0xFFE8, "wgFORMSlive;1ltar;1upar;1rgar;1dwar;1blsq;1whci"),
  (0xFFF9, "INTERLINEAR ANNOTATION ANCHOR;2sp;2TERMINATOR;OBJECT REPLACEMENTcg;REPLACEMENTcg")]

end CallLint.Text.Names
