/-!
# Names of character references that start with a small letter from a to d

Each row is a name, with the semicolon that ends it, and the code points of the
characters it stands for.  A name that is also known without its semicolon has a
second row.
-/

namespace Mycelium.Markup.Names

/-- The names that start with a small letter from a to d. -/
def fromA : List (String × List Nat) := [
  ("aacute", [0xE1]), ("aacute;", [0xE1]), ("abreve;", [0x103]), ("ac;", [0x223E]),
  ("acE;", [0x223E, 0x333]), ("acd;", [0x223F]), ("acirc", [0xE2]), ("acirc;", [0xE2]),
  ("acute", [0xB4]), ("acute;", [0xB4]), ("acy;", [0x430]), ("aelig", [0xE6]), ("aelig;", [0xE6]),
  ("af;", [0x2061]), ("afr;", [0x1D51E]), ("agrave", [0xE0]), ("agrave;", [0xE0]),
  ("alefsym;", [0x2135]), ("aleph;", [0x2135]), ("alpha;", [0x3B1]), ("amacr;", [0x101]),
  ("amalg;", [0x2A3F]), ("amp", [0x26]), ("amp;", [0x26]), ("and;", [0x2227]),
  ("andand;", [0x2A55]), ("andd;", [0x2A5C]), ("andslope;", [0x2A58]), ("andv;", [0x2A5A]),
  ("ang;", [0x2220]), ("ange;", [0x29A4]), ("angle;", [0x2220]), ("angmsd;", [0x2221]),
  ("angmsdaa;", [0x29A8]), ("angmsdab;", [0x29A9]), ("angmsdac;", [0x29AA]),
  ("angmsdad;", [0x29AB]), ("angmsdae;", [0x29AC]), ("angmsdaf;", [0x29AD]),
  ("angmsdag;", [0x29AE]), ("angmsdah;", [0x29AF]), ("angrt;", [0x221F]), ("angrtvb;", [0x22BE]),
  ("angrtvbd;", [0x299D]), ("angsph;", [0x2222]), ("angst;", [0xC5]), ("angzarr;", [0x237C]),
  ("aogon;", [0x105]), ("aopf;", [0x1D552]), ("ap;", [0x2248]), ("apE;", [0x2A70]),
  ("apacir;", [0x2A6F]), ("ape;", [0x224A]), ("apid;", [0x224B]), ("apos;", [0x27]),
  ("approx;", [0x2248]), ("approxeq;", [0x224A]), ("aring", [0xE5]), ("aring;", [0xE5]),
  ("ascr;", [0x1D4B6]), ("ast;", [0x2A]), ("asymp;", [0x2248]), ("asympeq;", [0x224D]),
  ("atilde", [0xE3]), ("atilde;", [0xE3]), ("auml", [0xE4]), ("auml;", [0xE4]),
  ("awconint;", [0x2233]), ("awint;", [0x2A11]), ("bNot;", [0x2AED]), ("backcong;", [0x224C]),
  ("backepsilon;", [0x3F6]), ("backprime;", [0x2035]), ("backsim;", [0x223D]),
  ("backsimeq;", [0x22CD]), ("barvee;", [0x22BD]), ("barwed;", [0x2305]), ("barwedge;", [0x2305]),
  ("bbrk;", [0x23B5]), ("bbrktbrk;", [0x23B6]), ("bcong;", [0x224C]), ("bcy;", [0x431]),
  ("bdquo;", [0x201E]), ("becaus;", [0x2235]), ("because;", [0x2235]), ("bemptyv;", [0x29B0]),
  ("bepsi;", [0x3F6]), ("bernou;", [0x212C]), ("beta;", [0x3B2]), ("beth;", [0x2136]),
  ("between;", [0x226C]), ("bfr;", [0x1D51F]), ("bigcap;", [0x22C2]), ("bigcirc;", [0x25EF]),
  ("bigcup;", [0x22C3]), ("bigodot;", [0x2A00]), ("bigoplus;", [0x2A01]),
  ("bigotimes;", [0x2A02]), ("bigsqcup;", [0x2A06]), ("bigstar;", [0x2605]),
  ("bigtriangledown;", [0x25BD]), ("bigtriangleup;", [0x25B3]), ("biguplus;", [0x2A04]),
  ("bigvee;", [0x22C1]), ("bigwedge;", [0x22C0]), ("bkarow;", [0x290D]),
  ("blacklozenge;", [0x29EB]), ("blacksquare;", [0x25AA]), ("blacktriangle;", [0x25B4]),
  ("blacktriangledown;", [0x25BE]), ("blacktriangleleft;", [0x25C2]),
  ("blacktriangleright;", [0x25B8]), ("blank;", [0x2423]), ("blk12;", [0x2592]),
  ("blk14;", [0x2591]), ("blk34;", [0x2593]), ("block;", [0x2588]), ("bne;", [0x3D, 0x20E5]),
  ("bnequiv;", [0x2261, 0x20E5]), ("bnot;", [0x2310]), ("bopf;", [0x1D553]), ("bot;", [0x22A5]),
  ("bottom;", [0x22A5]), ("bowtie;", [0x22C8]), ("boxDL;", [0x2557]), ("boxDR;", [0x2554]),
  ("boxDl;", [0x2556]), ("boxDr;", [0x2553]), ("boxH;", [0x2550]), ("boxHD;", [0x2566]),
  ("boxHU;", [0x2569]), ("boxHd;", [0x2564]), ("boxHu;", [0x2567]), ("boxUL;", [0x255D]),
  ("boxUR;", [0x255A]), ("boxUl;", [0x255C]), ("boxUr;", [0x2559]), ("boxV;", [0x2551]),
  ("boxVH;", [0x256C]), ("boxVL;", [0x2563]), ("boxVR;", [0x2560]), ("boxVh;", [0x256B]),
  ("boxVl;", [0x2562]), ("boxVr;", [0x255F]), ("boxbox;", [0x29C9]), ("boxdL;", [0x2555]),
  ("boxdR;", [0x2552]), ("boxdl;", [0x2510]), ("boxdr;", [0x250C]), ("boxh;", [0x2500]),
  ("boxhD;", [0x2565]), ("boxhU;", [0x2568]), ("boxhd;", [0x252C]), ("boxhu;", [0x2534]),
  ("boxminus;", [0x229F]), ("boxplus;", [0x229E]), ("boxtimes;", [0x22A0]), ("boxuL;", [0x255B]),
  ("boxuR;", [0x2558]), ("boxul;", [0x2518]), ("boxur;", [0x2514]), ("boxv;", [0x2502]),
  ("boxvH;", [0x256A]), ("boxvL;", [0x2561]), ("boxvR;", [0x255E]), ("boxvh;", [0x253C]),
  ("boxvl;", [0x2524]), ("boxvr;", [0x251C]), ("bprime;", [0x2035]), ("breve;", [0x2D8]),
  ("brvbar", [0xA6]), ("brvbar;", [0xA6]), ("bscr;", [0x1D4B7]), ("bsemi;", [0x204F]),
  ("bsim;", [0x223D]), ("bsime;", [0x22CD]), ("bsol;", [0x5C]), ("bsolb;", [0x29C5]),
  ("bsolhsub;", [0x27C8]), ("bull;", [0x2022]), ("bullet;", [0x2022]), ("bump;", [0x224E]),
  ("bumpE;", [0x2AAE]), ("bumpe;", [0x224F]), ("bumpeq;", [0x224F]), ("cacute;", [0x107]),
  ("cap;", [0x2229]), ("capand;", [0x2A44]), ("capbrcup;", [0x2A49]), ("capcap;", [0x2A4B]),
  ("capcup;", [0x2A47]), ("capdot;", [0x2A40]), ("caps;", [0x2229, 0xFE00]), ("caret;", [0x2041]),
  ("caron;", [0x2C7]), ("ccaps;", [0x2A4D]), ("ccaron;", [0x10D]), ("ccedil", [0xE7]),
  ("ccedil;", [0xE7]), ("ccirc;", [0x109]), ("ccups;", [0x2A4C]), ("ccupssm;", [0x2A50]),
  ("cdot;", [0x10B]), ("cedil", [0xB8]), ("cedil;", [0xB8]), ("cemptyv;", [0x29B2]),
  ("cent", [0xA2]), ("cent;", [0xA2]), ("centerdot;", [0xB7]), ("cfr;", [0x1D520]),
  ("chcy;", [0x447]), ("check;", [0x2713]), ("checkmark;", [0x2713]), ("chi;", [0x3C7]),
  ("cir;", [0x25CB]), ("cirE;", [0x29C3]), ("circ;", [0x2C6]), ("circeq;", [0x2257]),
  ("circlearrowleft;", [0x21BA]), ("circlearrowright;", [0x21BB]), ("circledR;", [0xAE]),
  ("circledS;", [0x24C8]), ("circledast;", [0x229B]), ("circledcirc;", [0x229A]),
  ("circleddash;", [0x229D]), ("cire;", [0x2257]), ("cirfnint;", [0x2A10]), ("cirmid;", [0x2AEF]),
  ("cirscir;", [0x29C2]), ("clubs;", [0x2663]), ("clubsuit;", [0x2663]), ("colon;", [0x3A]),
  ("colone;", [0x2254]), ("coloneq;", [0x2254]), ("comma;", [0x2C]), ("commat;", [0x40]),
  ("comp;", [0x2201]), ("compfn;", [0x2218]), ("complement;", [0x2201]), ("complexes;", [0x2102]),
  ("cong;", [0x2245]), ("congdot;", [0x2A6D]), ("conint;", [0x222E]), ("copf;", [0x1D554]),
  ("coprod;", [0x2210]), ("copy", [0xA9]), ("copy;", [0xA9]), ("copysr;", [0x2117]),
  ("crarr;", [0x21B5]), ("cross;", [0x2717]), ("cscr;", [0x1D4B8]), ("csub;", [0x2ACF]),
  ("csube;", [0x2AD1]), ("csup;", [0x2AD0]), ("csupe;", [0x2AD2]), ("ctdot;", [0x22EF]),
  ("cudarrl;", [0x2938]), ("cudarrr;", [0x2935]), ("cuepr;", [0x22DE]), ("cuesc;", [0x22DF]),
  ("cularr;", [0x21B6]), ("cularrp;", [0x293D]), ("cup;", [0x222A]), ("cupbrcap;", [0x2A48]),
  ("cupcap;", [0x2A46]), ("cupcup;", [0x2A4A]), ("cupdot;", [0x228D]), ("cupor;", [0x2A45]),
  ("cups;", [0x222A, 0xFE00]), ("curarr;", [0x21B7]), ("curarrm;", [0x293C]),
  ("curlyeqprec;", [0x22DE]), ("curlyeqsucc;", [0x22DF]), ("curlyvee;", [0x22CE]),
  ("curlywedge;", [0x22CF]), ("curren", [0xA4]), ("curren;", [0xA4]),
  ("curvearrowleft;", [0x21B6]), ("curvearrowright;", [0x21B7]), ("cuvee;", [0x22CE]),
  ("cuwed;", [0x22CF]), ("cwconint;", [0x2232]), ("cwint;", [0x2231]), ("cylcty;", [0x232D]),
  ("dArr;", [0x21D3]), ("dHar;", [0x2965]), ("dagger;", [0x2020]), ("daleth;", [0x2138]),
  ("darr;", [0x2193]), ("dash;", [0x2010]), ("dashv;", [0x22A3]), ("dbkarow;", [0x290F]),
  ("dblac;", [0x2DD]), ("dcaron;", [0x10F]), ("dcy;", [0x434]), ("dd;", [0x2146]),
  ("ddagger;", [0x2021]), ("ddarr;", [0x21CA]), ("ddotseq;", [0x2A77]), ("deg", [0xB0]),
  ("deg;", [0xB0]), ("delta;", [0x3B4]), ("demptyv;", [0x29B1]), ("dfisht;", [0x297F]),
  ("dfr;", [0x1D521]), ("dharl;", [0x21C3]), ("dharr;", [0x21C2]), ("diam;", [0x22C4]),
  ("diamond;", [0x22C4]), ("diamondsuit;", [0x2666]), ("diams;", [0x2666]), ("die;", [0xA8]),
  ("digamma;", [0x3DD]), ("disin;", [0x22F2]), ("div;", [0xF7]), ("divide", [0xF7]),
  ("divide;", [0xF7]), ("divideontimes;", [0x22C7]), ("divonx;", [0x22C7]), ("djcy;", [0x452]),
  ("dlcorn;", [0x231E]), ("dlcrop;", [0x230D]), ("dollar;", [0x24]), ("dopf;", [0x1D555]),
  ("dot;", [0x2D9]), ("doteq;", [0x2250]), ("doteqdot;", [0x2251]), ("dotminus;", [0x2238]),
  ("dotplus;", [0x2214]), ("dotsquare;", [0x22A1]), ("doublebarwedge;", [0x2306]),
  ("downarrow;", [0x2193]), ("downdownarrows;", [0x21CA]), ("downharpoonleft;", [0x21C3]),
  ("downharpoonright;", [0x21C2]), ("drbkarow;", [0x2910]), ("drcorn;", [0x231F]),
  ("drcrop;", [0x230C]), ("dscr;", [0x1D4B9]), ("dscy;", [0x455]), ("dsol;", [0x29F6]),
  ("dstrok;", [0x111]), ("dtdot;", [0x22F1]), ("dtri;", [0x25BF]), ("dtrif;", [0x25BE]),
  ("duarr;", [0x21F5]), ("duhar;", [0x296F]), ("dwangle;", [0x29A6]), ("dzcy;", [0x45F]),
  ("dzigrarr;", [0x27FF])]

end Mycelium.Markup.Names
