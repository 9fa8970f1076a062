/-!
# Names of character references that start with a small letter from e to l

Each row is a name, with the semicolon that ends it, and the code points of the
characters it stands for.  A name that is also known without its semicolon has a
second row.
-/

namespace Mycelium.Markup.Names

/-- The names that start with a small letter from e to l. -/
def fromE : List (String × List Nat) := [
  ("eDDot;", [0x2A77]), ("eDot;", [0x2251]), ("eacute", [0xE9]), ("eacute;", [0xE9]),
  ("easter;", [0x2A6E]), ("ecaron;", [0x11B]), ("ecir;", [0x2256]), ("ecirc", [0xEA]),
  ("ecirc;", [0xEA]), ("ecolon;", [0x2255]), ("ecy;", [0x44D]), ("edot;", [0x117]),
  ("ee;", [0x2147]), ("efDot;", [0x2252]), ("efr;", [0x1D522]), ("eg;", [0x2A9A]),
  ("egrave", [0xE8]), ("egrave;", [0xE8]), ("egs;", [0x2A96]), ("egsdot;", [0x2A98]),
  ("el;", [0x2A99]), ("elinters;", [0x23E7]), ("ell;", [0x2113]), ("els;", [0x2A95]),
  ("elsdot;", [0x2A97]), ("emacr;", [0x113]), ("empty;", [0x2205]), ("emptyset;", [0x2205]),
  ("emptyv;", [0x2205]), ("emsp13;", [0x2004]), ("emsp14;", [0x2005]), ("emsp;", [0x2003]),
  ("eng;", [0x14B]), ("ensp;", [0x2002]), ("eogon;", [0x119]), ("eopf;", [0x1D556]),
  ("epar;", [0x22D5]), ("eparsl;", [0x29E3]), ("eplus;", [0x2A71]), ("epsi;", [0x3B5]),
  ("epsilon;", [0x3B5]), ("epsiv;", [0x3F5]), ("eqcirc;", [0x2256]), ("eqcolon;", [0x2255]),
  ("eqsim;", [0x2242]), ("eqslantgtr;", [0x2A96]), ("eqslantless;", [0x2A95]),
  ("equals;", [0x3D]), ("equest;", [0x225F]), ("equiv;", [0x2261]), ("equivDD;", [0x2A78]),
  ("eqvparsl;", [0x29E5]), ("erDot;", [0x2253]), ("erarr;", [0x2971]), ("escr;", [0x212F]),
  ("esdot;", [0x2250]), ("esim;", [0x2242]), ("eta;", [0x3B7]), ("eth", [0xF0]), ("eth;", [0xF0]),
  ("euml", [0xEB]), ("euml;", [0xEB]), ("euro;", [0x20AC]), ("excl;", [0x21]),
  ("exist;", [0x2203]), ("expectation;", [0x2130]), ("exponentiale;", [0x2147]),
  ("fallingdotseq;", [0x2252]), ("fcy;", [0x444]), ("female;", [0x2640]), ("ffilig;", [0xFB03]),
  ("fflig;", [0xFB00]), ("ffllig;", [0xFB04]), ("ffr;", [0x1D523]), ("filig;", [0xFB01]),
  ("fjlig;", [0x66, 0x6A]), ("flat;", [0x266D]), ("fllig;", [0xFB02]), ("fltns;", [0x25B1]),
  ("fnof;", [0x192]), ("fopf;", [0x1D557]), ("forall;", [0x2200]), ("fork;", [0x22D4]),
  ("forkv;", [0x2AD9]), ("fpartint;", [0x2A0D]), ("frac12", [0xBD]), ("frac12;", [0xBD]),
  ("frac13;", [0x2153]), ("frac14", [0xBC]), ("frac14;", [0xBC]), ("frac15;", [0x2155]),
  ("frac16;", [0x2159]), ("frac18;", [0x215B]), ("frac23;", [0x2154]), ("frac25;", [0x2156]),
  ("frac34", [0xBE]), ("frac34;", [0xBE]), ("frac35;", [0x2157]), ("frac38;", [0x215C]),
  ("frac45;", [0x2158]), ("frac56;", [0x215A]), ("frac58;", [0x215D]), ("frac78;", [0x215E]),
  ("frasl;", [0x2044]), ("frown;", [0x2322]), ("fscr;", [0x1D4BB]), ("gE;", [0x2267]),
  ("gEl;", [0x2A8C]), ("gacute;", [0x1F5]), ("gamma;", [0x3B3]), ("gammad;", [0x3DD]),
  ("gap;", [0x2A86]), ("gbreve;", [0x11F]), ("gcirc;", [0x11D]), ("gcy;", [0x433]),
  ("gdot;", [0x121]), ("ge;", [0x2265]), ("gel;", [0x22DB]), ("geq;", [0x2265]),
  ("geqq;", [0x2267]), ("geqslant;", [0x2A7E]), ("ges;", [0x2A7E]), ("gescc;", [0x2AA9]),
  ("gesdot;", [0x2A80]), ("gesdoto;", [0x2A82]), ("gesdotol;", [0x2A84]),
  ("gesl;", [0x22DB, 0xFE00]), ("gesles;", [0x2A94]), ("gfr;", [0x1D524]), ("gg;", [0x226B]),
  ("ggg;", [0x22D9]), ("gimel;", [0x2137]), ("gjcy;", [0x453]), ("gl;", [0x2277]),
  ("glE;", [0x2A92]), ("gla;", [0x2AA5]), ("glj;", [0x2AA4]), ("gnE;", [0x2269]),
  ("gnap;", [0x2A8A]), ("gnapprox;", [0x2A8A]), ("gne;", [0x2A88]), ("gneq;", [0x2A88]),
  ("gneqq;", [0x2269]), ("gnsim;", [0x22E7]), ("gopf;", [0x1D558]), ("grave;", [0x60]),
  ("gscr;", [0x210A]), ("gsim;", [0x2273]), ("gsime;", [0x2A8E]), ("gsiml;", [0x2A90]),
  ("gt", [0x3E]), ("gt;", [0x3E]), ("gtcc;", [0x2AA7]), ("gtcir;", [0x2A7A]),
  ("gtdot;", [0x22D7]), ("gtlPar;", [0x2995]), ("gtquest;", [0x2A7C]), ("gtrapprox;", [0x2A86]),
  ("gtrarr;", [0x2978]), ("gtrdot;", [0x22D7]), ("gtreqless;", [0x22DB]),
  ("gtreqqless;", [0x2A8C]), ("gtrless;", [0x2277]), ("gtrsim;", [0x2273]),
  ("gvertneqq;", [0x2269, 0xFE00]), ("gvnE;", [0x2269, 0xFE00]), ("hArr;", [0x21D4]),
  ("hairsp;", [0x200A]), ("half;", [0xBD]), ("hamilt;", [0x210B]), ("hardcy;", [0x44A]),
  ("harr;", [0x2194]), ("harrcir;", [0x2948]), ("harrw;", [0x21AD]), ("hbar;", [0x210F]),
  ("hcirc;", [0x125]), ("hearts;", [0x2665]), ("heartsuit;", [0x2665]), ("hellip;", [0x2026]),
  ("hercon;", [0x22B9]), ("hfr;", [0x1D525]), ("hksearow;", [0x2925]), ("hkswarow;", [0x2926]),
  ("hoarr;", [0x21FF]), ("homtht;", [0x223B]), ("hookleftarrow;", [0x21A9]),
  ("hookrightarrow;", [0x21AA]), ("hopf;", [0x1D559]), ("horbar;", [0x2015]),
  ("hscr;", [0x1D4BD]), ("hslash;", [0x210F]), ("hstrok;", [0x127]), ("hybull;", [0x2043]),
  ("hyphen;", [0x2010]), ("iacute", [0xED]), ("iacute;", [0xED]), ("ic;", [0x2063]),
  ("icirc", [0xEE]), ("icirc;", [0xEE]), ("icy;", [0x438]), ("iecy;", [0x435]), ("iexcl", [0xA1]),
  ("iexcl;", [0xA1]), ("iff;", [0x21D4]), ("ifr;", [0x1D526]), ("igrave", [0xEC]),
  ("igrave;", [0xEC]), ("ii;", [0x2148]), ("iiiint;", [0x2A0C]), ("iiint;", [0x222D]),
  ("iinfin;", [0x29DC]), ("iiota;", [0x2129]), ("ijlig;", [0x133]), ("imacr;", [0x12B]),
  ("image;", [0x2111]), ("imagline;", [0x2110]), ("imagpart;", [0x2111]), ("imath;", [0x131]),
  ("imof;", [0x22B7]), ("imped;", [0x1B5]), ("in;", [0x2208]), ("incare;", [0x2105]),
  ("infin;", [0x221E]), ("infintie;", [0x29DD]), ("inodot;", [0x131]), ("int;", [0x222B]),
  ("intcal;", [0x22BA]), ("integers;", [0x2124]), ("intercal;", [0x22BA]),
  ("intlarhk;", [0x2A17]), ("intprod;", [0x2A3C]), ("iocy;", [0x451]), ("iogon;", [0x12F]),
  ("iopf;", [0x1D55A]), ("iota;", [0x3B9]), ("iprod;", [0x2A3C]), ("iquest", [0xBF]),
  ("iquest;", [0xBF]), ("iscr;", [0x1D4BE]), ("isin;", [0x2208]), ("isinE;", [0x22F9]),
  ("isindot;", [0x22F5]), ("isins;", [0x22F4]), ("isinsv;", [0x22F3]), ("isinv;", [0x2208]),
  ("it;", [0x2062]), ("itilde;", [0x129]), ("iukcy;", [0x456]), ("iuml", [0xEF]),
  ("iuml;", [0xEF]), ("jcirc;", [0x135]), ("jcy;", [0x439]), ("jfr;", [0x1D527]),
  ("jmath;", [0x237]), ("jopf;", [0x1D55B]), ("jscr;", [0x1D4BF]), ("jsercy;", [0x458]),
  ("jukcy;", [0x454]), ("kappa;", [0x3BA]), ("kappav;", [0x3F0]), ("kcedil;", [0x137]),
  ("kcy;", [0x43A]), ("kfr;", [0x1D528]), ("kgreen;", [0x138]), ("khcy;", [0x445]),
  ("kjcy;", [0x45C]), ("kopf;", [0x1D55C]), ("kscr;", [0x1D4C0]), ("lAarr;", [0x21DA]),
  ("lArr;", [0x21D0]), ("lAtail;", [0x291B]), ("lBarr;", [0x290E]), ("lE;", [0x2266]),
  ("lEg;", [0x2A8B]), ("lHar;", [0x2962]), ("lacute;", [0x13A]), ("laemptyv;", [0x29B4]),
  ("lagran;", [0x2112]), ("lambda;", [0x3BB]), ("lang;", [0x27E8]), ("langd;", [0x2991]),
  ("langle;", [0x27E8]), ("lap;", [0x2A85]), ("laquo", [0xAB]), ("laquo;", [0xAB]),
  ("larr;", [0x2190]), ("larrb;", [0x21E4]), ("larrbfs;", [0x291F]), ("larrfs;", [0x291D]),
  ("larrhk;", [0x21A9]), ("larrlp;", [0x21AB]), ("larrpl;", [0x2939]), ("larrsim;", [0x2973]),
  ("larrtl;", [0x21A2]), ("lat;", [0x2AAB]), ("latail;", [0x2919]), ("late;", [0x2AAD]),
  ("lates;", [0x2AAD, 0xFE00]), ("lbarr;", [0x290C]), ("lbbrk;", [0x2772]), ("lbrace;", [0x7B]),
  ("lbrack;", [0x5B]), ("lbrke;", [0x298B]), ("lbrksld;", [0x298F]), ("lbrkslu;", [0x298D]),
  ("lcaron;", [0x13E]), ("lcedil;", [0x13C]), ("lceil;", [0x2308]), ("lcub;", [0x7B]),
  ("lcy;", [0x43B]), ("ldca;", [0x2936]), ("ldquo;", [0x201C]), ("ldquor;", [0x201E]),
  ("ldrdhar;", [0x2967]), ("ldrushar;", [0x294B]), ("ldsh;", [0x21B2]), ("le;", [0x2264]),
  ("leftarrow;", [0x2190]), ("leftarrowtail;", [0x21A2]), ("leftharpoondown;", [0x21BD]),
  ("leftharpoonup;", [0x21BC]), ("leftleftarrows;", [0x21C7]), ("leftrightarrow;", [0x2194]),
  ("leftrightarrows;", [0x21C6]), ("leftrightharpoons;", [0x21CB]),
  ("leftrightsquigarrow;", [0x21AD]), ("leftthreetimes;", [0x22CB]), ("leg;", [0x22DA]),
  ("leq;", [0x2264]), ("leqq;", [0x2266]), ("leqslant;", [0x2A7D]), ("les;", [0x2A7D]),
  ("lescc;", [0x2AA8]), ("lesdot;", [0x2A7F]), ("lesdoto;", [0x2A81]), ("lesdotor;", [0x2A83]),
  ("lesg;", [0x22DA, 0xFE00]), ("lesges;", [0x2A93]), ("lessapprox;", [0x2A85]),
  ("lessdot;", [0x22D6]), ("lesseqgtr;", [0x22DA]), ("lesseqqgtr;", [0x2A8B]),
  ("lessgtr;", [0x2276]), ("lesssim;", [0x2272]), ("lfisht;", [0x297C]), ("lfloor;", [0x230A]),
  ("lfr;", [0x1D529]), ("lg;", [0x2276]), ("lgE;", [0x2A91]), ("lhard;", [0x21BD]),
  ("lharu;", [0x21BC]), ("lharul;", [0x296A]), ("lhblk;", [0x2584]), ("ljcy;", [0x459]),
  ("ll;", [0x226A]), ("llarr;", [0x21C7]), ("llcorner;", [0x231E]), ("llhard;", [0x296B]),
  ("lltri;", [0x25FA]), ("lmidot;", [0x140]), ("lmoust;", [0x23B0]), ("lmoustache;", [0x23B0]),
  ("lnE;", [0x2268]), ("lnap;", [0x2A89]), ("lnapprox;", [0x2A89]), ("lne;", [0x2A87]),
  ("lneq;", [0x2A87]), ("lneqq;", [0x2268]), ("lnsim;", [0x22E6]), ("loang;", [0x27EC]),
  ("loarr;", [0x21FD]), ("lobrk;", [0x27E6]), ("longleftarrow;", [0x27F5]),
  ("longleftrightarrow;", [0x27F7]), ("longmapsto;", [0x27FC]), ("longrightarrow;", [0x27F6]),
  ("looparrowleft;", [0x21AB]), ("looparrowright;", [0x21AC]), ("lopar;", [0x2985]),
  ("lopf;", [0x1D55D]), ("loplus;", [0x2A2D]), ("lotimes;", [0x2A34]), ("lowast;", [0x2217]),
  ("lowbar;", [0x5F]), ("loz;", [0x25CA]), ("lozenge;", [0x25CA]), ("lozf;", [0x29EB]),
  ("lpar;", [0x28]), ("lparlt;", [0x2993]), ("lrarr;", [0x21C6]), ("lrcorner;", [0x231F]),
  ("lrhar;", [0x21CB]), ("lrhard;", [0x296D]), ("lrm;", [0x200E]), ("lrtri;", [0x22BF]),
  ("lsaquo;", [0x2039]), ("lscr;", [0x1D4C1]), ("lsh;", [0x21B0]), ("lsim;", [0x2272]),
  ("lsime;", [0x2A8D]), ("lsimg;", [0x2A8F]), ("lsqb;", [0x5B]), ("lsquo;", [0x2018]),
  ("lsquor;", [0x201A]), ("lstrok;", [0x142]), ("lt", [0x3C]), ("lt;", [0x3C]),
  ("ltcc;", [0x2AA6]), ("ltcir;", [0x2A79]), ("ltdot;", [0x22D6]), ("lthree;", [0x22CB]),
  ("ltimes;", [0x22C9]), ("ltlarr;", [0x2976]), ("ltquest;", [0x2A7B]), ("ltrPar;", [0x2996]),
  ("ltri;", [0x25C3]), ("ltrie;", [0x22B4]), ("ltrif;", [0x25C2]), ("lurdshar;", [0x294A]),
  ("luruhar;", [0x2966]), ("lvertneqq;", [0x2268, 0xFE00]), ("lvnE;", [0x2268, 0xFE00])]

end Mycelium.Markup.Names
