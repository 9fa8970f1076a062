/-!
# Names of character references that start with a small letter from m to r

Each row is a name, with the semicolon that ends it, and the code points of the
characters it stands for.  A name that is also known without its semicolon has a
second row.
-/

namespace Mycelium.Markup.Names

/-- The names that start with a small letter from m to r. -/
def fromM : List (String × List Nat) := [
  ("mDDot;", [0x223A]), ("macr", [0xAF]), ("macr;", [0xAF]), ("male;", [0x2642]),
  ("malt;", [0x2720]), ("maltese;", [0x2720]), ("map;", [0x21A6]), ("mapsto;", [0x21A6]),
  ("mapstodown;", [0x21A7]), ("mapstoleft;", [0x21A4]), ("mapstoup;", [0x21A5]),
  ("marker;", [0x25AE]), ("mcomma;", [0x2A29]), ("mcy;", [0x43C]), ("mdash;", [0x2014]),
  ("measuredangle;", [0x2221]), ("mfr;", [0x1D52A]), ("mho;", [0x2127]), ("micro", [0xB5]),
  ("micro;", [0xB5]), ("mid;", [0x2223]), ("midast;", [0x2A]), ("midcir;", [0x2AF0]),
  ("middot", [0xB7]), ("middot;", [0xB7]), ("minus;", [0x2212]), ("minusb;", [0x229F]),
  ("minusd;", [0x2238]), ("minusdu;", [0x2A2A]), ("mlcp;", [0x2ADB]), ("mldr;", [0x2026]),
  ("mnplus;", [0x2213]), ("models;", [0x22A7]), ("mopf;", [0x1D55E]), ("mp;", [0x2213]),
  ("mscr;", [0x1D4C2]), ("mstpos;", [0x223E]), ("mu;", [0x3BC]), ("multimap;", [0x22B8]),
  ("mumap;", [0x22B8]), ("nGg;", [0x22D9, 0x338]), ("nGt;", [0x226B, 0x20D2]),
  ("nGtv;", [0x226B, 0x338]), ("nLeftarrow;", [0x21CD]), ("nLeftrightarrow;", [0x21CE]),
  ("nLl;", [0x22D8, 0x338]), ("nLt;", [0x226A, 0x20D2]), ("nLtv;", [0x226A, 0x338]),
  ("nRightarrow;", [0x21CF]), ("nVDash;", [0x22AF]), ("nVdash;", [0x22AE]), ("nabla;", [0x2207]),
  ("nacute;", [0x144]), ("nang;", [0x2220, 0x20D2]), ("nap;", [0x2249]),
  ("napE;", [0x2A70, 0x338]), ("napid;", [0x224B, 0x338]), ("napos;", [0x149]),
  ("napprox;", [0x2249]), ("natur;", [0x266E]), ("natural;", [0x266E]), ("naturals;", [0x2115]),
  ("nbsp", [0xA0]), ("nbsp;", [0xA0]), ("nbump;", [0x224E, 0x338]), ("nbumpe;", [0x224F, 0x338]),
  ("ncap;", [0x2A43]), ("ncaron;", [0x148]), ("ncedil;", [0x146]), ("ncong;", [0x2247]),
  ("ncongdot;", [0x2A6D, 0x338]), ("ncup;", [0x2A42]), ("ncy;", [0x43D]), ("ndash;", [0x2013]),
  ("ne;", [0x2260]), ("neArr;", [0x21D7]), ("nearhk;", [0x2924]), ("nearr;", [0x2197]),
  ("nearrow;", [0x2197]), ("nedot;", [0x2250, 0x338]), ("nequiv;", [0x2262]),
  ("nesear;", [0x2928]), ("nesim;", [0x2242, 0x338]), ("nexist;", [0x2204]),
  ("nexists;", [0x2204]), ("nfr;", [0x1D52B]), ("ngE;", [0x2267, 0x338]), ("nge;", [0x2271]),
  ("ngeq;", [0x2271]), ("ngeqq;", [0x2267, 0x338]), ("ngeqslant;", [0x2A7E, 0x338]),
  ("nges;", [0x2A7E, 0x338]), ("ngsim;", [0x2275]), ("ngt;", [0x226F]), ("ngtr;", [0x226F]),
  ("nhArr;", [0x21CE]), ("nharr;", [0x21AE]), ("nhpar;", [0x2AF2]), ("ni;", [0x220B]),
  ("nis;", [0x22FC]), ("nisd;", [0x22FA]), ("niv;", [0x220B]), ("njcy;", [0x45A]),
  ("nlArr;", [0x21CD]), ("nlE;", [0x2266, 0x338]), ("nlarr;", [0x219A]), ("nldr;", [0x2025]),
  ("nle;", [0x2270]), ("nleftarrow;", [0x219A]), ("nleftrightarrow;", [0x21AE]),
  ("nleq;", [0x2270]), ("nleqq;", [0x2266, 0x338]), ("nleqslant;", [0x2A7D, 0x338]),
  ("nles;", [0x2A7D, 0x338]), ("nless;", [0x226E]), ("nlsim;", [0x2274]), ("nlt;", [0x226E]),
  ("nltri;", [0x22EA]), ("nltrie;", [0x22EC]), ("nmid;", [0x2224]), ("nopf;", [0x1D55F]),
  ("not", [0xAC]), ("not;", [0xAC]), ("notin;", [0x2209]), ("notinE;", [0x22F9, 0x338]),
  ("notindot;", [0x22F5, 0x338]), ("notinva;", [0x2209]), ("notinvb;", [0x22F7]),
  ("notinvc;", [0x22F6]), ("notni;", [0x220C]), ("notniva;", [0x220C]), ("notnivb;", [0x22FE]),
  ("notnivc;", [0x22FD]), ("npar;", [0x2226]), ("nparallel;", [0x2226]),
  ("nparsl;", [0x2AFD, 0x20E5]), ("npart;", [0x2202, 0x338]), ("npolint;", [0x2A14]),
  ("npr;", [0x2280]), ("nprcue;", [0x22E0]), ("npre;", [0x2AAF, 0x338]), ("nprec;", [0x2280]),
  ("npreceq;", [0x2AAF, 0x338]), ("nrArr;", [0x21CF]), ("nrarr;", [0x219B]),
  ("nrarrc;", [0x2933, 0x338]), ("nrarrw;", [0x219D, 0x338]), ("nrightarrow;", [0x219B]),
  ("nrtri;", [0x22EB]), ("nrtrie;", [0x22ED]), ("nsc;", [0x2281]), ("nsccue;", [0x22E1]),
  ("nsce;", [0x2AB0, 0x338]), ("nscr;", [0x1D4C3]), ("nshortmid;", [0x2224]),
  ("nshortparallel;", [0x2226]), ("nsim;", [0x2241]), ("nsime;", [0x2244]), ("nsimeq;", [0x2244]),
  ("nsmid;", [0x2224]), ("nspar;", [0x2226]), ("nsqsube;", [0x22E2]), ("nsqsupe;", [0x22E3]),
  ("nsub;", [0x2284]), ("nsubE;", [0x2AC5, 0x338]), ("nsube;", [0x2288]),
  ("nsubset;", [0x2282, 0x20D2]), ("nsubseteq;", [0x2288]), ("nsubseteqq;", [0x2AC5, 0x338]),
  ("nsucc;", [0x2281]), ("nsucceq;", [0x2AB0, 0x338]), ("nsup;", [0x2285]),
  ("nsupE;", [0x2AC6, 0x338]), ("nsupe;", [0x2289]), ("nsupset;", [0x2283, 0x20D2]),
  ("nsupseteq;", [0x2289]), ("nsupseteqq;", [0x2AC6, 0x338]), ("ntgl;", [0x2279]),
  ("ntilde", [0xF1]), ("ntilde;", [0xF1]), ("ntlg;", [0x2278]), ("ntriangleleft;", [0x22EA]),
  ("ntrianglelefteq;", [0x22EC]), ("ntriangleright;", [0x22EB]), ("ntrianglerighteq;", [0x22ED]),
  ("nu;", [0x3BD]), ("num;", [0x23]), ("numero;", [0x2116]), ("numsp;", [0x2007]),
  ("nvDash;", [0x22AD]), ("nvHarr;", [0x2904]), ("nvap;", [0x224D, 0x20D2]),
  ("nvdash;", [0x22AC]), ("nvge;", [0x2265, 0x20D2]), ("nvgt;", [0x3E, 0x20D2]),
  ("nvinfin;", [0x29DE]), ("nvlArr;", [0x2902]), ("nvle;", [0x2264, 0x20D2]),
  ("nvlt;", [0x3C, 0x20D2]), ("nvltrie;", [0x22B4, 0x20D2]), ("nvrArr;", [0x2903]),
  ("nvrtrie;", [0x22B5, 0x20D2]), ("nvsim;", [0x223C, 0x20D2]), ("nwArr;", [0x21D6]),
  ("nwarhk;", [0x2923]), ("nwarr;", [0x2196]), ("nwarrow;", [0x2196]), ("nwnear;", [0x2927]),
  ("oS;", [0x24C8]), ("oacute", [0xF3]), ("oacute;", [0xF3]), ("oast;", [0x229B]),
  ("ocir;", [0x229A]), ("ocirc", [0xF4]), ("ocirc;", [0xF4]), ("ocy;", [0x43E]),
  ("odash;", [0x229D]), ("odblac;", [0x151]), ("odiv;", [0x2A38]), ("odot;", [0x2299]),
  ("odsold;", [0x29BC]), ("oelig;", [0x153]), ("ofcir;", [0x29BF]), ("ofr;", [0x1D52C]),
  ("ogon;", [0x2DB]), ("ograve", [0xF2]), ("ograve;", [0xF2]), ("ogt;", [0x29C1]),
  ("ohbar;", [0x29B5]), ("ohm;", [0x3A9]), ("oint;", [0x222E]), ("olarr;", [0x21BA]),
  ("olcir;", [0x29BE]), ("olcross;", [0x29BB]), ("oline;", [0x203E]), ("olt;", [0x29C0]),
  ("omacr;", [0x14D]), ("omega;", [0x3C9]), ("omicron;", [0x3BF]), ("omid;", [0x29B6]),
  ("ominus;", [0x2296]), ("oopf;", [0x1D560]), ("opar;", [0x29B7]), ("operp;", [0x29B9]),
  ("oplus;", [0x2295]), ("or;", [0x2228]), ("orarr;", [0x21BB]), ("ord;", [0x2A5D]),
  ("order;", [0x2134]), ("orderof;", [0x2134]), ("ordf", [0xAA]), ("ordf;", [0xAA]),
  ("ordm", [0xBA]), ("ordm;", [0xBA]), ("origof;", [0x22B6]), ("oror;", [0x2A56]),
  ("orslope;", [0x2A57]), ("orv;", [0x2A5B]), ("oscr;", [0x2134]), ("oslash", [0xF8]),
  ("oslash;", [0xF8]), ("osol;", [0x2298]), ("otilde", [0xF5]), ("otilde;", [0xF5]),
  ("otimes;", [0x2297]), ("otimesas;", [0x2A36]), ("ouml", [0xF6]), ("ouml;", [0xF6]),
  ("ovbar;", [0x233D]), ("par;", [0x2225]), ("para", [0xB6]), ("para;", [0xB6]),
  ("parallel;", [0x2225]), ("parsim;", [0x2AF3]), ("parsl;", [0x2AFD]), ("part;", [0x2202]),
  ("pcy;", [0x43F]), ("percnt;", [0x25]), ("period;", [0x2E]), ("permil;", [0x2030]),
  ("perp;", [0x22A5]), ("pertenk;", [0x2031]), ("pfr;", [0x1D52D]), ("phi;", [0x3C6]),
  ("phiv;", [0x3D5]), ("phmmat;", [0x2133]), ("phone;", [0x260E]), ("pi;", [0x3C0]),
  ("pitchfork;", [0x22D4]), ("piv;", [0x3D6]), ("planck;", [0x210F]), ("planckh;", [0x210E]),
  ("plankv;", [0x210F]), ("plus;", [0x2B]), ("plusacir;", [0x2A23]), ("plusb;", [0x229E]),
  ("pluscir;", [0x2A22]), ("plusdo;", [0x2214]), ("plusdu;", [0x2A25]), ("pluse;", [0x2A72]),
  ("plusmn", [0xB1]), ("plusmn;", [0xB1]), ("plussim;", [0x2A26]), ("plustwo;", [0x2A27]),
  ("pm;", [0xB1]), ("pointint;", [0x2A15]), ("popf;", [0x1D561]), ("pound", [0xA3]),
  ("pound;", [0xA3]), ("pr;", [0x227A]), ("prE;", [0x2AB3]), ("prap;", [0x2AB7]),
  ("prcue;", [0x227C]), ("pre;", [0x2AAF]), ("prec;", [0x227A]), ("precapprox;", [0x2AB7]),
  ("preccurlyeq;", [0x227C]), ("preceq;", [0x2AAF]), ("precnapprox;", [0x2AB9]),
  ("precneqq;", [0x2AB5]), ("precnsim;", [0x22E8]), ("precsim;", [0x227E]), ("prime;", [0x2032]),
  ("primes;", [0x2119]), ("prnE;", [0x2AB5]), ("prnap;", [0x2AB9]), ("prnsim;", [0x22E8]),
  ("prod;", [0x220F]), ("profalar;", [0x232E]), ("profline;", [0x2312]), ("profsurf;", [0x2313]),
  ("prop;", [0x221D]), ("propto;", [0x221D]), ("prsim;", [0x227E]), ("prurel;", [0x22B0]),
  ("pscr;", [0x1D4C5]), ("psi;", [0x3C8]), ("puncsp;", [0x2008]), ("qfr;", [0x1D52E]),
  ("qint;", [0x2A0C]), ("qopf;", [0x1D562]), ("qprime;", [0x2057]), ("qscr;", [0x1D4C6]),
  ("quaternions;", [0x210D]), ("quatint;", [0x2A16]), ("quest;", [0x3F]), ("questeq;", [0x225F]),
  ("quot", [0x22]), ("quot;", [0x22]), ("rAarr;", [0x21DB]), ("rArr;", [0x21D2]),
  ("rAtail;", [0x291C]), ("rBarr;", [0x290F]), ("rHar;", [0x2964]), ("race;", [0x223D, 0x331]),
  ("racute;", [0x155]), ("radic;", [0x221A]), ("raemptyv;", [0x29B3]), ("rang;", [0x27E9]),
  ("rangd;", [0x2992]), ("range;", [0x29A5]), ("rangle;", [0x27E9]), ("raquo", [0xBB]),
  ("raquo;", [0xBB]), ("rarr;", [0x2192]), ("rarrap;", [0x2975]), ("rarrb;", [0x21E5]),
  ("rarrbfs;", [0x2920]), ("rarrc;", [0x2933]), ("rarrfs;", [0x291E]), ("rarrhk;", [0x21AA]),
  ("rarrlp;", [0x21AC]), ("rarrpl;", [0x2945]), ("rarrsim;", [0x2974]), ("rarrtl;", [0x21A3]),
  ("rarrw;", [0x219D]), ("ratail;", [0x291A]), ("ratio;", [0x2236]), ("rationals;", [0x211A]),
  ("rbarr;", [0x290D]), ("rbbrk;", [0x2773]), ("rbrace;", [0x7D]), ("rbrack;", [0x5D]),
  ("rbrke;", [0x298C]), ("rbrksld;", [0x298E]), ("rbrkslu;", [0x2990]), ("rcaron;", [0x159]),
  ("rcedil;", [0x157]), ("rceil;", [0x2309]), ("rcub;", [0x7D]), ("rcy;", [0x440]),
  ("rdca;", [0x2937]), ("rdldhar;", [0x2969]), ("rdquo;", [0x201D]), ("rdquor;", [0x201D]),
  ("rdsh;", [0x21B3]), ("real;", [0x211C]), ("realine;", [0x211B]), ("realpart;", [0x211C]),
  ("reals;", [0x211D]), ("rect;", [0x25AD]), ("reg", [0xAE]), ("reg;", [0xAE]),
  ("rfisht;", [0x297D]), ("rfloor;", [0x230B]), ("rfr;", [0x1D52F]), ("rhard;", [0x21C1]),
  ("rharu;", [0x21C0]), ("rharul;", [0x296C]), ("rho;", [0x3C1]), ("rhov;", [0x3F1]),
  ("rightarrow;", [0x2192]), ("rightarrowtail;", [0x21A3]), ("rightharpoondown;", [0x21C1]),
  ("rightharpoonup;", [0x21C0]), ("rightleftarrows;", [0x21C4]), ("rightleftharpoons;", [0x21CC]),
  ("rightrightarrows;", [0x21C9]), ("rightsquigarrow;", [0x219D]), ("rightthreetimes;", [0x22CC]),
  ("ring;", [0x2DA]), ("risingdotseq;", [0x2253]), ("rlarr;", [0x21C4]), ("rlhar;", [0x21CC]),
  ("rlm;", [0x200F]), ("rmoust;", [0x23B1]), ("rmoustache;", [0x23B1]), ("rnmid;", [0x2AEE]),
  ("roang;", [0x27ED]), ("roarr;", [0x21FE]), ("robrk;", [0x27E7]), ("ropar;", [0x2986]),
  ("ropf;", [0x1D563]), ("roplus;", [0x2A2E]), ("rotimes;", [0x2A35]), ("rpar;", [0x29]),
  ("rpargt;", [0x2994]), ("rppolint;", [0x2A12]), ("rrarr;", [0x21C9]), ("rsaquo;", [0x203A]),
  ("rscr;", [0x1D4C7]), ("rsh;", [0x21B1]), ("rsqb;", [0x5D]), ("rsquo;", [0x2019]),
  ("rsquor;", [0x2019]), ("rthree;", [0x22CC]), ("rtimes;", [0x22CA]), ("rtri;", [0x25B9]),
  ("rtrie;", [0x22B5]), ("rtrif;", [0x25B8]), ("rtriltri;", [0x29CE]), ("ruluhar;", [0x2968]),
  ("rx;", [0x211E])]

end Mycelium.Markup.Names
