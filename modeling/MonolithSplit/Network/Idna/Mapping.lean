import MonolithSplit.Text.CodePointTable

/-!
# The IDNA mapping table

Domain names are processed character by character with the mapping table of Unicode IDNA
Compatibility Processing (UTS #46), version 17.0. Each code point is valid, mapped to a
sequence of code points, ignored (dropped), or disallowed. Code points that version leaves
unassigned, noncharacters apart, are valid, as later versions assign them; of those, four are
mapped as the next version maps them: U+209D (a subscript letter) to `w`, U+058B to U+056B,
U+A7DD to U+0277 and U+107BB to U+0287. Deviation characters (`ß`, `ς`,
the zero-width joiners) are valid here, since processing is nontransitional: they are kept as
they are, not mapped to their transitional replacements. The characters that the standard
marks as disallowed only under its STD3 rules are valid, as those rules are not applied.

The table is written as text, one row per range of code points with the same treatment, and
read into an array once. A row is the distance of its first code point from the previous
row's first code point, in hexadecimal, then a letter for the status (`v` valid, `m` mapped,
`i` ignored, `x` disallowed), and for a mapped row the code points of its replacement, in
hexadecimal, separated by commas. Rows are separated by semicolons, and the text is split
into lines between rows. A row covers every code point up to the next row's first.
-/

namespace MonolithSplit.Network.Idna

open MonolithSplit.Text

/-- What domain-name processing does with a code point. -/
inductive Status where
  /-- Kept as it is. -/
  | valid
  /-- Replaced by these code points. -/
  | mapped (replacement : List Char)
  /-- Dropped. -/
  | ignored
  /-- Not allowed in a domain name. -/
  | disallowed
  deriving DecidableEq, Repr, Inhabited

/-- A row of the table: its first code point and the status of the code points it covers. -/
structure Row where
  first : Nat
  status : Status
  deriving Repr, Inhabited

/-- The status a row's letter and the text after it stand for. -/
def statusOf (letter : Char) (rest : List Char) : Status :=
  if letter = 'm' then
    .mapped (hexCodePoints rest)
  else if letter = 'i' then .ignored
  else if letter = 'x' then .disallowed
  else .valid

/-- Reads the rows of a table text; `first` is the first code point of the previous row. -/
def readRows (first : Nat) : List String → List Row
  | [] => []
  | row :: rest =>
    let cs := row.toList
    let gap := cs.takeWhile isHexDigit
    let start := first + hexNumber gap
    match cs.drop gap.length with
    | letter :: after => ⟨start, statusOf letter after⟩ :: readRows start rest
    | [] => readRows start rest

/-- The table as text, a few rows per line. -/
def mappingLines : List String := [
  "0v;41m61;1m62;1m63;1m64;1m65;1m66;1m67;1m68;1m69;1m6a;1m6b;1m6c;1m6d;1m6e;1m6f;1m70;1m71;1m72",
  "1m73;1m74;1m75;1m76;1m77;1m78;1m79;1m7a;1v;25x;20m20;1v;7m20,308;1v;1m61;1v;2i;1v;1m20,304;1v",
  "2m32;1m33;1m20,301;1m3bc;1v;2m20,327;1m31;1m6f;1v;1m31,2044,34;1m31,2044,32;1m33,2044,34;1v",
  "1me0;1me1;1me2;1me3;1me4;1me5;1me6;1me7;1me8;1me9;1mea;1meb;1mec;1med;1mee;1mef;1mf0;1mf1;1mf2",
  "1mf3;1mf4;1mf5;1mf6;1v;1mf8;1mf9;1mfa;1mfb;1mfc;1mfd;1mfe;1v;21m101;1v;1m103;1v;1m105;1v;1m107",
  "1v;1m109;1v;1m10b;1v;1m10d;1v;1m10f;1v;1m111;1v;1m113;1v;1m115;1v;1m117;1v;1m119;1v;1m11b;1v",
  "1m11d;1v;1m11f;1v;1m121;1v;1m123;1v;1m125;1v;1m127;1v;1m129;1v;1m12b;1v;1m12d;1v;1m12f;1v",
  "1m69,307;1v;1m69,6a;2m135;1v;1m137;1v;2m13a;1v;1m13c;1v;1m13e;1v;1m6c,b7;2m142;1v;1m144;1v",
  "1m146;1v;1m148;1v;1m2bc,6e;1m14b;1v;1m14d;1v;1m14f;1v;1m151;1v;1m153;1v;1m155;1v;1m157;1v;1m159",
  "1v;1m15b;1v;1m15d;1v;1m15f;1v;1m161;1v;1m163;1v;1m165;1v;1m167;1v;1m169;1v;1m16b;1v;1m16d;1v",
  "1m16f;1v;1m171;1v;1m173;1v;1m175;1v;1m177;1v;1mff;1m17a;1v;1m17c;1v;1m17e;1v;1m73;1v;1m253",
  "1m183;1v;1m185;1v;1m254;1m188;1v;1m256;1m257;1m18c;1v;2m1dd;1m259;1m25b;1m192;1v;1m260;1m263;1v",
  "1m269;1m268;1m199;1v;3m26f;1m272;1v;1m275;1m1a1;1v;1m1a3;1v;1m1a5;1v;1m280;1m1a8;1v;1m283;1v",
  "2m1ad;1v;1m288;1m1b0;1v;1m28a;1m28b;1m1b4;1v;1m1b6;1v;1m292;1m1b9;1v;3m1bd;1v;7m64,17e;3m6c,6a",
  "3m6e,6a;3m1ce;1v;1m1d0;1v;1m1d2;1v;1m1d4;1v;1m1d6;1v;1m1d8;1v;1m1da;1v;1m1dc;1v;2m1df;1v;1m1e1",
  "1v;1m1e3;1v;1m1e5;1v;1m1e7;1v;1m1e9;1v;1m1eb;1v;1m1ed;1v;1m1ef;1v;2m64,7a;3m1f5;1v;1m195;1m1bf",
  "1m1f9;1v;1m1fb;1v;1m1fd;1v;1m1ff;1v;1m201;1v;1m203;1v;1m205;1v;1m207;1v;1m209;1v;1m20b;1v;1m20d",
  "1v;1m20f;1v;1m211;1v;1m213;1v;1m215;1v;1m217;1v;1m219;1v;1m21b;1v;1m21d;1v;1m21f;1v;1m19e;1v",
  "1m223;1v;1m225;1v;1m227;1v;1m229;1v;1m22b;1v;1m22d;1v;1m22f;1v;1m231;1v;1m233;1v;7m2c65;1m23c",
  "1v;1m19a;1m2c66;1v;2m242;1v;1m180;1m289;1m28c;1m247;1v;1m249;1v;1m24b;1v;1m24d;1v;1m24f;1v",
  "61m68;1m266;1m6a;1m72;1m279;1m27b;1m281;1m77;1m79;1v;1fm20,306;1m20,307;1m20,30a;1m20,328",
  "1m20,303;1m20,30b;1v;2m263;1m6c;1m73;1m78;1m295;1v;5bm300;1m301;1v;1m313;1m308,301;1m3b9;1v;9i",
  "1v;20m371;1v;1m373;1v;1m2b9;1v;1m377;1v;3m20,3b9;1v;3m3b;1m3f3;1v;4m20,301;1m20,308,301;1m3ac",
  "1mb7;1m3ad;1m3ae;1m3af;1v;1m3cc;1v;1m3cd;1m3ce;1v;1m3b1;1m3b2;1m3b3;1m3b4;1m3b5;1m3b6;1m3b7",
  "1m3b8;1m3b9;1m3ba;1m3bb;1m3bc;1m3bd;1m3be;1m3bf;1m3c0;1m3c1;1v;1m3c3;1m3c4;1m3c5;1m3c6;1m3c7",
  "1m3c8;1m3c9;1m3ca;1m3cb;1v;23m3d7;1m3b2;1m3b8;1m3c5;1m3cd;1m3cb;1m3c6;1m3c0;1v;1m3d9;1v;1m3db",
  "1v;1m3dd;1v;1m3df;1v;1m3e1;1v;1m3e3;1v;1m3e5;1v;1m3e7;1v;1m3e9;1v;1m3eb;1v;1m3ed;1v;1m3ef;1v",
  "1m3ba;1m3c1;1m3c3;1v;1m3b8;1m3b5;1v;1m3f8;1v;1m3c3;1m3fb;1v;2m37b;1m37c;1m37d;1m450;1m451;1m452",
  "1m453;1m454;1m455;1m456;1m457;1m458;1m459;1m45a;1m45b;1m45c;1m45d;1m45e;1m45f;1m430;1m431;1m432",
  "1m433;1m434;1m435;1m436;1m437;1m438;1m439;1m43a;1m43b;1m43c;1m43d;1m43e;1m43f;1m440;1m441;1m442",
  "1m443;1m444;1m445;1m446;1m447;1m448;1m449;1m44a;1m44b;1m44c;1m44d;1m44e;1m44f;1v;30m461;1v",
  "1m463;1v;1m465;1v;1m467;1v;1m469;1v;1m46b;1v;1m46d;1v;1m46f;1v;1m471;1v;1m473;1v;1m475;1v;1m477",
  "1v;1m479;1v;1m47b;1v;1m47d;1v;1m47f;1v;1m481;1v;9m48b;1v;1m48d;1v;1m48f;1v;1m491;1v;1m493;1v",
  "1m495;1v;1m497;1v;1m499;1v;1m49b;1v;1m49d;1v;1m49f;1v;1m4a1;1v;1m4a3;1v;1m4a5;1v;1m4a7;1v;1m4a9",
  "1v;1m4ab;1v;1m4ad;1v;1m4af;1v;1m4b1;1v;1m4b3;1v;1m4b5;1v;1m4b7;1v;1m4b9;1v;1m4bb;1v;1m4bd;1v",
  "1m4bf;1v;1m4cf;1m4c2;1v;1m4c4;1v;1m4c6;1v;1m4c8;1v;1m4ca;1v;1m4cc;1v;1m4ce;1v;2m4d1;1v;1m4d3;1v",
  "1m4d5;1v;1m4d7;1v;1m4d9;1v;1m4db;1v;1m4dd;1v;1m4df;1v;1m4e1;1v;1m4e3;1v;1m4e5;1v;1m4e7;1v;1m4e9",
  "1v;1m4eb;1v;1m4ed;1v;1m4ef;1v;1m4f1;1v;1m4f3;1v;1m4f5;1v;1m4f7;1v;1m4f9;1v;1m4fb;1v;1m4fd;1v",
  "1m4ff;1v;1m501;1v;1m503;1v;1m505;1v;1m507;1v;1m509;1v;1m50b;1v;1m50d;1v;1m50f;1v;1m511;1v;1m513",
  "1v;1m515;1v;1m517;1v;1m519;1v;1m51b;1v;1m51d;1v;1m51f;1v;1m521;1v;1m523;1v;1m525;1v;1m527;1v",
  "1m529;1v;1m52b;1v;1m52d;1v;1m52f;1v;2m561;1m562;1m563;1m564;1m565;1m566;1m567;1m568;1m569;1m56a",
  "1m56b;1m56c;1m56d;1m56e;1m56f;1m570;1m571;1m572;1m573;1m574;1m575;1m576;1m577;1m578;1m579;1m57a",
  "1m57b;1m57c;1m57d;1m57e;1m57f;1m580;1m581;1m582;1m583;1m584;1m585;1m586;1v;30m565,582;1v;3m56b",
  "1v;74x;6v;16x;1v;58m627,674;1m648,674;1m6c7,674;1m64a,674;1v;64x;1v;31x;1v;180x;2v;50x;1v",
  "75m915,93c;1m916,93c;1m917,93c;1m91c,93c;1m921,93c;1m922,93c;1m92b,93c;1m92f,93c;1v;7cm9a1,9bc",
  "1m9a2,9bc;1v;1m9af,9bc;1v;53ma32,a3c;1v;2ma38,a3c;1v;22ma16,a3c;1ma17,a3c;1ma1c,a3c;1v",
  "2ma2b,a3c;1v;fdmb21,b3c;1mb22,b3c;1v;2d5me4d,e32;1v;7fmecd,eb2;1v;28meab,e99;1meab,ea1;1v",
  "2emf0b;1v;36mf42,fb7;1v;9mf4c,fb7;1v;4mf51,fb7;1v;4mf56,fb7;1v;4mf5b,fb7;1v;cmf40,fb5;1v",
  "9mf71,f72;1v;1mf71,f74;1mfb2,f80;1mfb2,f71,f80;1mfb3,f80;1mfb3,f71,f80;1v;7mf71,f80;1v",
  "11mf92,fb7;1v;9mf9c,fb7;1v;4mfa1,fb7;1v;4mfa6,fb7;1v;4mfab,fb7;1v;cmf90,fb5;1v;e6m2d00;1m2d01",
  "1m2d02;1m2d03;1m2d04;1m2d05;1m2d06;1m2d07;1m2d08;1m2d09;1m2d0a;1m2d0b;1m2d0c;1m2d0d;1m2d0e",
  "1m2d0f;1m2d10;1m2d11;1m2d12;1m2d13;1m2d14;1m2d15;1m2d16;1m2d17;1m2d18;1m2d19;1m2d1a;1m2d1b",
  "1m2d1c;1m2d1d;1m2d1e;1m2d1f;1m2d20;1m2d21;1m2d22;1m2d23;1m2d24;1m2d25;1v;1m2d27;1v;5m2d2d;1v",
  "2em10dc;1v;62i;2v;297m13f0;1m13f1;1m13f2;1m13f3;1m13f4;1m13f5;1v;282x;1v;133i;2v;55i;5v;470m432",
  "1m434;1m43e;1m441;1m442;2m44a;1m463;1ma64b;1m1c8a;1v;6m10d0;1m10d1;1m10d2;1m10d3;1m10d4;1m10d5",
  "1m10d6;1m10d7;1m10d8;1m10d9;1m10da;1m10db;1m10dc;1m10dd;1m10de;1m10df;1m10e0;1m10e1;1m10e2",
  "1m10e3;1m10e4;1m10e5;1m10e6;1m10e7;1m10e8;1m10e9;1m10ea;1m10eb;1m10ec;1m10ed;1m10ee;1m10ef",
  "1m10f0;1m10f1;1m10f2;1m10f3;1m10f4;1m10f5;1m10f6;1m10f7;1m10f8;1m10f9;1m10fa;1v;2m10fd;1m10fe",
  "1m10ff;1v;6cm61;1me6;1m62;1v;1m64;1m65;1m1dd;1m67;1m68;1m69;1m6a;1m6b;1m6c;1m6d;1m6e;1v;1m6f",
  "1m223;1m70;1m72;1m74;1m75;1m77;1m61;1m250;1m251;1m1d02;1m62;1m64;1m65;1m259;1m25b;1m25c;1m67;1v",
  "1m6b;1m6d;1m14b;1m6f;1m254;1m1d16;1m1d17;1m70;1m74;1m75;1m1d1d;1m26f;1m76;1m1d25;1m3b2;1m3b3",
  "1m3b4;1m3c6;1m3c7;1m69;1m72;1m75;1m76;1m3b2;1m3b3;1m3c1;1m3c6;1m3c7;1v;dm43d;1v;22m252;1m63",
  "1m255;1mf0;1m25c;1m66;1m25f;1m261;1m265;1m268;1m269;1m26a;1m1d7b;1m29d;1m26d;1m1d85;1m29f;1m271",
  "1m270;1m272;1m273;1m274;1m275;1m278;1m282;1m283;1m1ab;1m289;1m28a;1m1d1c;1m28b;1m28c;1m7a;1m290",
  "1m291;1m292;1m3b8;1v;40m1e01;1v;1m1e03;1v;1m1e05;1v;1m1e07;1v;1m1e09;1v;1m1e0b;1v;1m1e0d;1v",
  "1m1e0f;1v;1m1e11;1v;1m1e13;1v;1m1e15;1v;1m1e17;1v;1m1e19;1v;1m1e1b;1v;1m1e1d;1v;1m1e1f;1v",
  "1m1e21;1v;1m1e23;1v;1m1e25;1v;1m1e27;1v;1m1e29;1v;1m1e2b;1v;1m1e2d;1v;1m1e2f;1v;1m1e31;1v",
  "1m1e33;1v;1m1e35;1v;1m1e37;1v;1m1e39;1v;1m1e3b;1v;1m1e3d;1v;1m1e3f;1v;1m1e41;1v;1m1e43;1v",
  "1m1e45;1v;1m1e47;1v;1m1e49;1v;1m1e4b;1v;1m1e4d;1v;1m1e4f;1v;1m1e51;1v;1m1e53;1v;1m1e55;1v",
  "1m1e57;1v;1m1e59;1v;1m1e5b;1v;1m1e5d;1v;1m1e5f;1v;1m1e61;1v;1m1e63;1v;1m1e65;1v;1m1e67;1v",
  "1m1e69;1v;1m1e6b;1v;1m1e6d;1v;1m1e6f;1v;1m1e71;1v;1m1e73;1v;1m1e75;1v;1m1e77;1v;1m1e79;1v",
  "1m1e7b;1v;1m1e7d;1v;1m1e7f;1v;1m1e81;1v;1m1e83;1v;1m1e85;1v;1m1e87;1v;1m1e89;1v;1m1e8b;1v",
  "1m1e8d;1v;1m1e8f;1v;1m1e91;1v;1m1e93;1v;1m1e95;1v;5m61,2be;1m1e61;1v;2mdf;1v;1m1ea1;1v;1m1ea3",
  "1v;1m1ea5;1v;1m1ea7;1v;1m1ea9;1v;1m1eab;1v;1m1ead;1v;1m1eaf;1v;1m1eb1;1v;1m1eb3;1v;1m1eb5;1v",
  "1m1eb7;1v;1m1eb9;1v;1m1ebb;1v;1m1ebd;1v;1m1ebf;1v;1m1ec1;1v;1m1ec3;1v;1m1ec5;1v;1m1ec7;1v",
  "1m1ec9;1v;1m1ecb;1v;1m1ecd;1v;1m1ecf;1v;1m1ed1;1v;1m1ed3;1v;1m1ed5;1v;1m1ed7;1v;1m1ed9;1v",
  "1m1edb;1v;1m1edd;1v;1m1edf;1v;1m1ee1;1v;1m1ee3;1v;1m1ee5;1v;1m1ee7;1v;1m1ee9;1v;1m1eeb;1v",
  "1m1eed;1v;1m1eef;1v;1m1ef1;1v;1m1ef3;1v;1m1ef5;1v;1m1ef7;1v;1m1ef9;1v;1m1efb;1v;1m1efd;1v",
  "1m1eff;1v;9m1f00;1m1f01;1m1f02;1m1f03;1m1f04;1m1f05;1m1f06;1m1f07;1v;8m1f10;1m1f11;1m1f12",
  "1m1f13;1m1f14;1m1f15;1v;am1f20;1m1f21;1m1f22;1m1f23;1m1f24;1m1f25;1m1f26;1m1f27;1v;8m1f30",
  "1m1f31;1m1f32;1m1f33;1m1f34;1m1f35;1m1f36;1m1f37;1v;8m1f40;1m1f41;1m1f42;1m1f43;1m1f44;1m1f45",
  "1v;bm1f51;1v;1m1f53;1v;1m1f55;1v;1m1f57;1v;8m1f60;1m1f61;1m1f62;1m1f63;1m1f64;1m1f65;1m1f66",
  "1m1f67;1v;1m3ac;1v;1m3ad;1v;1m3ae;1v;1m3af;1v;1m3cc;1v;1m3cd;1v;1m3ce;1v;2m1f00,3b9;1m1f01,3b9",
  "1m1f02,3b9;1m1f03,3b9;1m1f04,3b9;1m1f05,3b9;1m1f06,3b9;1m1f07,3b9;1m1f00,3b9;1m1f01,3b9",
  "1m1f02,3b9;1m1f03,3b9;1m1f04,3b9;1m1f05,3b9;1m1f06,3b9;1m1f07,3b9;1m1f20,3b9;1m1f21,3b9",
  "1m1f22,3b9;1m1f23,3b9;1m1f24,3b9;1m1f25,3b9;1m1f26,3b9;1m1f27,3b9;1m1f20,3b9;1m1f21,3b9",
  "1m1f22,3b9;1m1f23,3b9;1m1f24,3b9;1m1f25,3b9;1m1f26,3b9;1m1f27,3b9;1m1f60,3b9;1m1f61,3b9",
  "1m1f62,3b9;1m1f63,3b9;1m1f64,3b9;1m1f65,3b9;1m1f66,3b9;1m1f67,3b9;1m1f60,3b9;1m1f61,3b9",
  "1m1f62,3b9;1m1f63,3b9;1m1f64,3b9;1m1f65,3b9;1m1f66,3b9;1m1f67,3b9;1v;2m1f70,3b9;1m3b1,3b9",
  "1m3ac,3b9;1v;2m1fb6,3b9;1m1fb0;1m1fb1;1m1f70;1m3ac;1m3b1,3b9;1m20,313;1m3b9;1m20,313;1m20,342",
  "1m20,308,342;1m1f74,3b9;1m3b7,3b9;1m3ae,3b9;1v;2m1fc6,3b9;1m1f72;1m3ad;1m1f74;1m3ae;1m3b7,3b9",
  "1m20,313,300;1m20,313,301;1m20,313,342;1v;3m390;1v;4m1fd0;1m1fd1;1m1f76;1m3af;1v;1m20,314,300",
  "1m20,314,301;1m20,314,342;1v;3m3b0;1v;4m1fe0;1m1fe1;1m1f7a;1m3cd;1m1fe5;1m20,308,300",
  "1m20,308,301;1m60;1v;2m1f7c,3b9;1m3c9,3b9;1m3ce,3b9;1v;2m1ff6,3b9;1m1f78;1m3cc;1m1f7c;1m3ce",
  "1m3c9,3b9;1m20,301;1m20,314;1v;1m20;bi;1v;2x;2v;1m2010;1v;5m20,333;1v;cx;3v;1x;7m20;1v",
  "3m2032,2032;1m2032,2032,2032;1v;1m2035,2035;1m2035,2035,2035;1v;4m21,21;1v;1m20,305;1v;8m3f,3f",
  "1m3f,21;1m21,3f;1v;dm2032,2032,2032,2032;1v;7m20;1i;5v;1x;4i;6m30;1m69;1v;2m34;1m35;1m36;1m37",
  "1m38;1m39;1m2b;1m2212;1m3d;1m28;1m29;1m6e;1m30;1m31;1m32;1m33;1m34;1m35;1m36;1m37;1m38;1m39",
  "1m2b;1m2212;1m3d;1m28;1m29;1v;1m61;1m65;1m6f;1m78;1m259;1m68;1m6b;1m6c;1m6d;1m6e;1m70;1m73;1m74",
  "1m77;1v;am72,73;1v;57m61,2f,63;1m61,2f,73;1m63;1mb0,63;1v;1m63,2f,6f;1m63,2f,75;1m25b;1v",
  "1mb0,66;1m67;1m68;4m127;1m69;2m6c;2v;1m6e;1m6e,6f;1v;2m70;1m71;1m72;3v;2m73,6d;1m74,65,6c",
  "1m74,6d;1v;1m7a;1v;1m3c9;1v;1m7a;1v;1m6b;1me5;1m62;1m63;1v;1m65;2m66;1m214e;1m6d;1m6f;1m5d0",
  "1m5d1;1m5d2;1m5d3;1m69;1v;1m66,61,78;1m3c0;1m3b3;2m3c0;1m2211;1v;4m64;2m65;1m69;1m6a;1v",
  "6m31,2044,37;1m31,2044,39;1m31,2044,31,30;1m31,2044,33;1m32,2044,33;1m31,2044,35;1m32,2044,35",
  "1m33,2044,35;1m34,2044,35;1m31,2044,36;1m35,2044,36;1m31,2044,38;1m33,2044,38;1m35,2044,38",
  "1m37,2044,38;1m31,2044;1m69;1m69,69;1m69,69,69;1m69,76;1m76;1m76,69;1m76,69,69;1m76,69,69,69",
  "1m69,78;1m78;1m78,69;1m78,69,69;1m6c;1m63;1m64;1m6d;1m69;1m69,69;1m69,69,69;1m69,76;1m76",
  "1m76,69;1m76,69,69;1m76,69,69,69;1m69,78;1m78;1m78,69;1m78,69,69;1m6c;1m63;1m64;1m6d;1v;3m2184",
  "1v;5m30,2044,33;1v;a2m222b,222b;1m222b,222b,222b;1v;1m222e,222e;1m222e,222e,222e;1v;f8m3008",
  "1m3009;1v;135m31;1m32;1m33;1m34;1m35;1m36;1m37;1m38;1m39;1m31,30;1m31,31;1m31,32;1m31,33",
  "1m31,34;1m31,35;1m31,36;1m31,37;1m31,38;1m31,39;1m32,30;1m28,31,29;1m28,32,29;1m28,33,29",
  "1m28,34,29;1m28,35,29;1m28,36,29;1m28,37,29;1m28,38,29;1m28,39,29;1m28,31,30,29;1m28,31,31,29",
  "1m28,31,32,29;1m28,31,33,29;1m28,31,34,29;1m28,31,35,29;1m28,31,36,29;1m28,31,37,29",
  "1m28,31,38,29;1m28,31,39,29;1m28,32,30,29;1x;14m28,61,29;1m28,62,29;1m28,63,29;1m28,64,29",
  "1m28,65,29;1m28,66,29;1m28,67,29;1m28,68,29;1m28,69,29;1m28,6a,29;1m28,6b,29;1m28,6c,29",
  "1m28,6d,29;1m28,6e,29;1m28,6f,29;1m28,70,29;1m28,71,29;1m28,72,29;1m28,73,29;1m28,74,29",
  "1m28,75,29;1m28,76,29;1m28,77,29;1m28,78,29;1m28,79,29;1m28,7a,29;1m61;1m62;1m63;1m64;1m65;1m66",
  "1m67;1m68;1m69;1m6a;1m6b;1m6c;1m6d;1m6e;1m6f;1m70;1m71;1m72;1m73;1m74;1m75;1m76;1m77;1m78;1m79",
  "1m7a;1m61;1m62;1m63;1m64;1m65;1m66;1m67;1m68;1m69;1m6a;1m6b;1m6c;1m6d;1m6e;1m6f;1m70;1m71;1m72",
  "1m73;1m74;1m75;1m76;1m77;1m78;1m79;1m7a;1m30;1v;521m222b,222b,222b,222b;1v;67m3a,3a,3d;1m3d,3d",
  "1m3d,3d,3d;1v;65m2add,338;1v;123m2c30;1m2c31;1m2c32;1m2c33;1m2c34;1m2c35;1m2c36;1m2c37;1m2c38",
  "1m2c39;1m2c3a;1m2c3b;1m2c3c;1m2c3d;1m2c3e;1m2c3f;1m2c40;1m2c41;1m2c42;1m2c43;1m2c44;1m2c45",
  "1m2c46;1m2c47;1m2c48;1m2c49;1m2c4a;1m2c4b;1m2c4c;1m2c4d;1m2c4e;1m2c4f;1m2c50;1m2c51;1m2c52",
  "1m2c53;1m2c54;1m2c55;1m2c56;1m2c57;1m2c58;1m2c59;1m2c5a;1m2c5b;1m2c5c;1m2c5d;1m2c5e;1m2c5f;1v",
  "30m2c61;1v;1m26b;1m1d7d;1m27d;1v;2m2c68;1v;1m2c6a;1v;1m2c6c;1v;1m251;1m271;1m250;1m252;1v",
  "1m2c73;1v;2m2c76;1v;6m6a;1m76;1m23f;1m240;1m2c81;1v;1m2c83;1v;1m2c85;1v;1m2c87;1v;1m2c89;1v",
  "1m2c8b;1v;1m2c8d;1v;1m2c8f;1v;1m2c91;1v;1m2c93;1v;1m2c95;1v;1m2c97;1v;1m2c99;1v;1m2c9b;1v",
  "1m2c9d;1v;1m2c9f;1v;1m2ca1;1v;1m2ca3;1v;1m2ca5;1v;1m2ca7;1v;1m2ca9;1v;1m2cab;1v;1m2cad;1v",
  "1m2caf;1v;1m2cb1;1v;1m2cb3;1v;1m2cb5;1v;1m2cb7;1v;1m2cb9;1v;1m2cbb;1v;1m2cbd;1v;1m2cbf;1v",
  "1m2cc1;1v;1m2cc3;1v;1m2cc5;1v;1m2cc7;1v;1m2cc9;1v;1m2ccb;1v;1m2ccd;1v;1m2ccf;1v;1m2cd1;1v",
  "1m2cd3;1v;1m2cd5;1v;1m2cd7;1v;1m2cd9;1v;1m2cdb;1v;1m2cdd;1v;1m2cdf;1v;1m2ce1;1v;1m2ce3;1v",
  "8m2cec;1v;1m2cee;1v;4m2cf3;1v;7cm2d61;1v;12fm6bcd;1v;53m9f9f;1v;cm4e00;1m4e28;1m4e36;1m4e3f",
  "1m4e59;1m4e85;1m4e8c;1m4ea0;1m4eba;1m513f;1m5165;1m516b;1m5182;1m5196;1m51ab;1m51e0;1m51f5",
  "1m5200;1m529b;1m52f9;1m5315;1m531a;1m5338;1m5341;1m535c;1m5369;1m5382;1m53b6;1m53c8;1m53e3",
  "1m56d7;1m571f;1m58eb;1m5902;1m590a;1m5915;1m5927;1m5973;1m5b50;1m5b80;1m5bf8;1m5c0f;1m5c22",
  "1m5c38;1m5c6e;1m5c71;1m5ddb;1m5de5;1m5df1;1m5dfe;1m5e72;1m5e7a;1m5e7f;1m5ef4;1m5efe;1m5f0b",
  "1m5f13;1m5f50;1m5f61;1m5f73;1m5fc3;1m6208;1m6236;1m624b;1m652f;1m6534;1m6587;1m6597;1m65a4",
  "1m65b9;1m65e0;1m65e5;1m66f0;1m6708;1m6728;1m6b20;1m6b62;1m6b79;1m6bb3;1m6bcb;1m6bd4;1m6bdb",
  "1m6c0f;1m6c14;1m6c34;1m706b;1m722a;1m7236;1m723b;1m723f;1m7247;1m7259;1m725b;1m72ac;1m7384",
  "1m7389;1m74dc;1m74e6;1m7518;1m751f;1m7528;1m7530;1m758b;1m7592;1m7676;1m767d;1m76ae;1m76bf",
  "1m76ee;1m77db;1m77e2;1m77f3;1m793a;1m79b8;1m79be;1m7a74;1m7acb;1m7af9;1m7c73;1m7cf8;1m7f36",
  "1m7f51;1m7f8a;1m7fbd;1m8001;1m800c;1m8012;1m8033;1m807f;1m8089;1m81e3;1m81ea;1m81f3;1m81fc",
  "1m820c;1m821b;1m821f;1m826e;1m8272;1m8278;1m864d;1m866b;1m8840;1m884c;1m8863;1m897e;1m898b",
  "1m89d2;1m8a00;1m8c37;1m8c46;1m8c55;1m8c78;1m8c9d;1m8d64;1m8d70;1m8db3;1m8eab;1m8eca;1m8f9b",
  "1m8fb0;1m8fb5;1m9091;1m9149;1m91c6;1m91cc;1m91d1;1m9577;1m9580;1m961c;1m96b6;1m96b9;1m96e8",
  "1m9751;1m975e;1m9762;1m9769;1m97cb;1m97ed;1m97f3;1m9801;1m98a8;1m98db;1m98df;1m9996;1m9999",
  "1m99ac;1m9aa8;1m9ad8;1m9adf;1m9b25;1m9b2f;1m9b32;1m9b3c;1m9b5a;1m9ce5;1m9e75;1m9e7f;1m9ea5",
  "1m9ebb;1m9ec3;1m9ecd;1m9ed1;1m9ef9;1m9efd;1m9f0e;1m9f13;1m9f20;1m9f3b;1m9f4a;1m9f52;1m9f8d",
  "1m9f9c;1m9fa0;1v;1ax;10m20;1v;1m2e;1v;33m3012;1v;1m5341;1m5344;1m5345;1v;60m20,3099;1m20,309a",
  "1v;2m3088,308a;1v;5fm30b3,30c8;1v;31m1100;1m1101;1m11aa;1m1102;1m11ac;1m11ad;1m1103;1m1104",
  "1m1105;1m11b0;1m11b1;1m11b2;1m11b3;1m11b4;1m11b5;1m111a;1m1106;1m1107;1m1108;1m1121;1m1109",
  "1m110a;1m110b;1m110c;1m110d;1m110e;1m110f;1m1110;1m1111;1m1112;1m1161;1m1162;1m1163;1m1164",
  "1m1165;1m1166;1m1167;1m1168;1m1169;1m116a;1m116b;1m116c;1m116d;1m116e;1m116f;1m1170;1m1171",
  "1m1172;1m1173;1m1174;1m1175;1i;1m1114;1m1115;1m11c7;1m11c8;1m11cc;1m11ce;1m11d3;1m11d7;1m11d9",
  "1m111c;1m11dd;1m11df;1m111d;1m111e;1m1120;1m1122;1m1123;1m1127;1m1129;1m112b;1m112c;1m112d",
  "1m112e;1m112f;1m1132;1m1136;1m1140;1m1147;1m114c;1m11f1;1m11f2;1m1157;1m1158;1m1159;1m1184",
  "1m1185;1m1188;1m1191;1m1192;1m1194;1m119e;1m11a1;1v;3m4e00;1m4e8c;1m4e09;1m56db;1m4e0a;1m4e2d",
  "1m4e0b;1m7532;1m4e59;1m4e19;1m4e01;1m5929;1m5730;1m4eba;1v;4fx;1v;10m28,1100,29;1m28,1102,29",
  "1m28,1103,29;1m28,1105,29;1m28,1106,29;1m28,1107,29;1m28,1109,29;1m28,110b,29;1m28,110c,29",
  "1m28,110e,29;1m28,110f,29;1m28,1110,29;1m28,1111,29;1m28,1112,29;1m28,ac00,29;1m28,b098,29",
  "1m28,b2e4,29;1m28,b77c,29;1m28,b9c8,29;1m28,bc14,29;1m28,c0ac,29;1m28,c544,29;1m28,c790,29",
  "1m28,cc28,29;1m28,ce74,29;1m28,d0c0,29;1m28,d30c,29;1m28,d558,29;1m28,c8fc,29;1m28,c624,c804,29",
  "1m28,c624,d6c4,29;1v;1m28,4e00,29;1m28,4e8c,29;1m28,4e09,29;1m28,56db,29;1m28,4e94,29",
  "1m28,516d,29;1m28,4e03,29;1m28,516b,29;1m28,4e5d,29;1m28,5341,29;1m28,6708,29;1m28,706b,29",
  "1m28,6c34,29;1m28,6728,29;1m28,91d1,29;1m28,571f,29;1m28,65e5,29;1m28,682a,29;1m28,6709,29",
  "1m28,793e,29;1m28,540d,29;1m28,7279,29;1m28,8ca1,29;1m28,795d,29;1m28,52b4,29;1m28,4ee3,29",
  "1m28,547c,29;1m28,5b66,29;1m28,76e3,29;1m28,4f01,29;1m28,8cc7,29;1m28,5354,29;1m28,796d,29",
  "1m28,4f11,29;1m28,81ea,29;1m28,81f3,29;1m554f;1m5e7c;1m6587;1m7b8f;1v;8m70,74,65;1m32,31",
  "1m32,32;1m32,33;1m32,34;1m32,35;1m32,36;1m32,37;1m32,38;1m32,39;1m33,30;1m33,31;1m33,32;1m33,33",
  "1m33,34;1m33,35;1m1100;1m1102;1m1103;1m1105;1m1106;1m1107;1m1109;1m110b;1m110c;1m110e;1m110f",
  "1m1110;1m1111;1m1112;1mac00;1mb098;1mb2e4;1mb77c;1mb9c8;1mbc14;1mc0ac;1mc544;1mc790;1mcc28",
  "1mce74;1md0c0;1md30c;1md558;1mcc38,ace0;1mc8fc,c758;1mc6b0;1v;1m4e00;1m4e8c;1m4e09;1m56db",
  "1m4e94;1m516d;1m4e03;1m516b;1m4e5d;1m5341;1m6708;1m706b;1m6c34;1m6728;1m91d1;1m571f;1m65e5",
  "1m682a;1m6709;1m793e;1m540d;1m7279;1m8ca1;1m795d;1m52b4;1m79d8;1m7537;1m5973;1m9069;1m512a",
  "1m5370;1m6ce8;1m9805;1m4f11;1m5199;1m6b63;1m4e0a;1m4e2d;1m4e0b;1m5de6;1m53f3;1m533b;1m5b97",
  "1m5b66;1m76e3;1m4f01;1m8cc7;1m5354;1m591c;1m33,36;1m33,37;1m33,38;1m33,39;1m34,30;1m34,31",
  "1m34,32;1m34,33;1m34,34;1m34,35;1m34,36;1m34,37;1m34,38;1m34,39;1m35,30;1m31,6708;1m32,6708",
  "1m33,6708;1m34,6708;1m35,6708;1m36,6708;1m37,6708;1m38,6708;1m39,6708;1m31,30,6708;1m31,31,6708",
  "1m31,32,6708;1m68,67;1m65,72,67;1m65,76;1m6c,74,64;1m30a2;1m30a4;1m30a6;1m30a8;1m30aa;1m30ab",
  "1m30ad;1m30af;1m30b1;1m30b3;1m30b5;1m30b7;1m30b9;1m30bb;1m30bd;1m30bf;1m30c1;1m30c4;1m30c6",
  "1m30c8;1m30ca;1m30cb;1m30cc;1m30cd;1m30ce;1m30cf;1m30d2;1m30d5;1m30d8;1m30db;1m30de;1m30df",
  "1m30e0;1m30e1;1m30e2;1m30e4;1m30e6;1m30e8;1m30e9;1m30ea;1m30eb;1m30ec;1m30ed;1m30ef;1m30f0",
  "1m30f1;1m30f2;1m4ee4,548c;1m30a2,30d1,30fc,30c8;1m30a2,30eb,30d5,30a1;1m30a2,30f3,30da,30a2",
  "1m30a2,30fc,30eb;1m30a4,30cb,30f3,30b0;1m30a4,30f3,30c1;1m30a6,30a9,30f3",
  "1m30a8,30b9,30af,30fc,30c9;1m30a8,30fc,30ab,30fc;1m30aa,30f3,30b9;1m30aa,30fc,30e0",
  "1m30ab,30a4,30ea;1m30ab,30e9,30c3,30c8;1m30ab,30ed,30ea,30fc;1m30ac,30ed,30f3;1m30ac,30f3,30de",
  "1m30ae,30ac;1m30ae,30cb,30fc;1m30ad,30e5,30ea,30fc;1m30ae,30eb,30c0,30fc;1m30ad,30ed",
  "1m30ad,30ed,30b0,30e9,30e0;1m30ad,30ed,30e1,30fc,30c8,30eb;1m30ad,30ed,30ef,30c3,30c8",
  "1m30b0,30e9,30e0;1m30b0,30e9,30e0,30c8,30f3;1m30af,30eb,30bc,30a4,30ed;1m30af,30ed,30fc,30cd",
  "1m30b1,30fc,30b9;1m30b3,30eb,30ca;1m30b3,30fc,30dd;1m30b5,30a4,30af,30eb",
  "1m30b5,30f3,30c1,30fc,30e0;1m30b7,30ea,30f3,30b0;1m30bb,30f3,30c1;1m30bb,30f3,30c8",
  "1m30c0,30fc,30b9;1m30c7,30b7;1m30c9,30eb;1m30c8,30f3;1m30ca,30ce;1m30ce,30c3,30c8",
  "1m30cf,30a4,30c4;1m30d1,30fc,30bb,30f3,30c8;1m30d1,30fc,30c4;1m30d0,30fc,30ec,30eb",
  "1m30d4,30a2,30b9,30c8,30eb;1m30d4,30af,30eb;1m30d4,30b3;1m30d3,30eb;1m30d5,30a1,30e9,30c3,30c9",
  "1m30d5,30a3,30fc,30c8;1m30d6,30c3,30b7,30a7,30eb;1m30d5,30e9,30f3;1m30d8,30af,30bf,30fc,30eb",
  "1m30da,30bd;1m30da,30cb,30d2;1m30d8,30eb,30c4;1m30da,30f3,30b9;1m30da,30fc,30b8",
  "1m30d9,30fc,30bf;1m30dd,30a4,30f3,30c8;1m30dc,30eb,30c8;1m30db,30f3;1m30dd,30f3,30c9",
  "1m30db,30fc,30eb;1m30db,30fc,30f3;1m30de,30a4,30af,30ed;1m30de,30a4,30eb;1m30de,30c3,30cf",
  "1m30de,30eb,30af;1m30de,30f3,30b7,30e7,30f3;1m30df,30af,30ed,30f3;1m30df,30ea",
  "1m30df,30ea,30d0,30fc,30eb;1m30e1,30ac;1m30e1,30ac,30c8,30f3;1m30e1,30fc,30c8,30eb",
  "1m30e4,30fc,30c9;1m30e4,30fc,30eb;1m30e6,30a2,30f3;1m30ea,30c3,30c8,30eb;1m30ea,30e9",
  "1m30eb,30d4,30fc;1m30eb,30fc,30d6,30eb;1m30ec,30e0;1m30ec,30f3,30c8,30b2,30f3;1m30ef,30c3,30c8",
  "1m30,70b9;1m31,70b9;1m32,70b9;1m33,70b9;1m34,70b9;1m35,70b9;1m36,70b9;1m37,70b9;1m38,70b9",
  "1m39,70b9;1m31,30,70b9;1m31,31,70b9;1m31,32,70b9;1m31,33,70b9;1m31,34,70b9;1m31,35,70b9",
  "1m31,36,70b9;1m31,37,70b9;1m31,38,70b9;1m31,39,70b9;1m32,30,70b9;1m32,31,70b9;1m32,32,70b9",
  "1m32,33,70b9;1m32,34,70b9;1m68,70,61;1m64,61;1m61,75;1m62,61,72;1m6f,76;1m70,63;1m64,6d",
  "1m64,6d,32;1m64,6d,33;1m69,75;1m5e73,6210;1m662d,548c;1m5927,6b63;1m660e,6cbb",
  "1m682a,5f0f,4f1a,793e;1m70,61;1m6e,61;1m3bc,61;1m6d,61;1m6b,61;1m6b,62;1m6d,62;1m67,62",
  "1m63,61,6c;1m6b,63,61,6c;1m70,66;1m6e,66;1m3bc,66;1m3bc,67;1m6d,67;1m6b,67;1m68,7a;1m6b,68,7a",
  "1m6d,68,7a;1m67,68,7a;1m74,68,7a;1m3bc,6c;1m6d,6c;1m64,6c;1m6b,6c;1m66,6d;1m6e,6d;1m3bc,6d",
  "1m6d,6d;1m63,6d;1m6b,6d;1m6d,6d,32;1m63,6d,32;1m6d,32;1m6b,6d,32;1m6d,6d,33;1m63,6d,33;1m6d,33",
  "1m6b,6d,33;1m6d,2215,73;1m6d,2215,73,32;1m70,61;1m6b,70,61;1m6d,70,61;1m67,70,61;1m72,61,64",
  "1m72,61,64,2215,73;1m72,61,64,2215,73,32;1m70,73;1m6e,73;1m3bc,73;1m6d,73;1m70,76;1m6e,76",
  "1m3bc,76;1m6d,76;1m6b,76;1m6d,76;1m70,77;1m6e,77;1m3bc,77;1m6d,77;1m6b,77;1m6d,77;1m6b,3c9",
  "1m6d,3c9;1x;1m62,71;1m63,63;1m63,64;1m63,2215,6b,67;1x;1m64,62;1m67,79;1m68,61;1m68,70;1m69,6e",
  "1m6b,6b;1m6b,6d;1m6b,74;1m6c,6d;1m6c,6e;1m6c,6f,67;1m6c,78;1m6d,62;1m6d,69,6c;1m6d,6f,6c",
  "1m70,68;1x;1m70,70,6d;1m70,72;1m73,72;1m73,76;1m77,62;1m76,2215,6d;1m61,2215,6d;1m31,65e5",
  "1m32,65e5;1m33,65e5;1m34,65e5;1m35,65e5;1m36,65e5;1m37,65e5;1m38,65e5;1m39,65e5;1m31,30,65e5",
  "1m31,31,65e5;1m31,32,65e5;1m31,33,65e5;1m31,34,65e5;1m31,35,65e5;1m31,36,65e5;1m31,37,65e5",
  "1m31,38,65e5;1m31,39,65e5;1m32,30,65e5;1m32,31,65e5;1m32,32,65e5;1m32,33,65e5;1m32,34,65e5",
  "1m32,35,65e5;1m32,36,65e5;1m32,37,65e5;1m32,38,65e5;1m32,39,65e5;1m33,30,65e5;1m33,31,65e5",
  "1m67,61,6c;1v;7240ma641;1v;1ma643;1v;1ma645;1v;1ma647;1v;1ma649;1v;1ma64b;1v;1ma64d;1v;1ma64f",
  "1v;1ma651;1v;1ma653;1v;1ma655;1v;1ma657;1v;1ma659;1v;1ma65b;1v;1ma65d;1v;1ma65f;1v;1ma661;1v",
  "1ma663;1v;1ma665;1v;1ma667;1v;1ma669;1v;1ma66b;1v;1ma66d;1v;13ma681;1v;1ma683;1v;1ma685;1v",
  "1ma687;1v;1ma689;1v;1ma68b;1v;1ma68d;1v;1ma68f;1v;1ma691;1v;1ma693;1v;1ma695;1v;1ma697;1v",
  "1ma699;1v;1ma69b;1v;1m44a;1m44c;1v;84ma723;1v;1ma725;1v;1ma727;1v;1ma729;1v;1ma72b;1v;1ma72d;1v",
  "1ma72f;1v;3ma733;1v;1ma735;1v;1ma737;1v;1ma739;1v;1ma73b;1v;1ma73d;1v;1ma73f;1v;1ma741;1v",
  "1ma743;1v;1ma745;1v;1ma747;1v;1ma749;1v;1ma74b;1v;1ma74d;1v;1ma74f;1v;1ma751;1v;1ma753;1v",
  "1ma755;1v;1ma757;1v;1ma759;1v;1ma75b;1v;1ma75d;1v;1ma75f;1v;1ma761;1v;1ma763;1v;1ma765;1v",
  "1ma767;1v;1ma769;1v;1ma76b;1v;1ma76d;1v;1ma76f;1v;1ma76f;1v;8ma77a;1v;1ma77c;1v;1m1d79;1ma77f",
  "1v;1ma781;1v;1ma783;1v;1ma785;1v;1ma787;1v;4ma78c;1v;1m265;1v;2ma791;1v;1ma793;1v;3ma797;1v",
  "1ma799;1v;1ma79b;1v;1ma79d;1v;1ma79f;1v;1ma7a1;1v;1ma7a3;1v;1ma7a5;1v;1ma7a7;1v;1ma7a9;1v;1m266",
  "1m25c;1m261;1m26c;1m26a;1v;1m29e;1m287;1m29d;1mab53;1ma7b5;1v;1ma7b7;1v;1ma7b9;1v;1ma7bb;1v",
  "1ma7bd;1v;1ma7bf;1v;1ma7c1;1v;1ma7c3;1v;1ma794;1m282;1m1d8e;1ma7c8;1v;1ma7ca;1v;1m264;1ma7cd;1v",
  "1ma7cf;1v;1ma7d1;1v;1ma7d3;1v;1ma7d5;1v;1ma7d7;1v;1ma7d9;1v;1ma7db;1v;1m19b;1m277;1v;13m73;1m63",
  "1m66;1m71;1ma7f6;1v;2m127;1m153;1v;362ma727;1mab37;1m26b;1mab52;1v;9m28d;1v;6m13a0;1m13a1",
  "1m13a2;1m13a3;1m13a4;1m13a5;1m13a6;1m13a7;1m13a8;1m13a9;1m13aa;1m13ab;1m13ac;1m13ad;1m13ae",
  "1m13af;1m13b0;1m13b1;1m13b2;1m13b3;1m13b4;1m13b5;1m13b6;1m13b7;1m13b8;1m13b9;1m13ba;1m13bb",
  "1m13bc;1m13bd;1m13be;1m13bf;1m13c0;1m13c1;1m13c2;1m13c3;1m13c4;1m13c5;1m13c6;1m13c7;1m13c8",
  "1m13c9;1m13ca;1m13cb;1m13cc;1m13cd;1m13ce;1m13cf;1m13d0;1m13d1;1m13d2;1m13d3;1m13d4;1m13d5",
  "1m13d6;1m13d7;1m13d8;1m13d9;1m13da;1m13db;1m13dc;1m13dd;1m13de;1m13df;1m13e0;1m13e1;1m13e2",
  "1m13e3;1m13e4;1m13e5;1m13e6;1m13e7;1m13e8;1m13e9;1m13ea;1m13eb;1m13ec;1m13ed;1m13ee;1m13ef;1v",
  "2c40x;2100m8c48;1m66f4;1m8eca;1m8cc8;1m6ed1;1m4e32;1m53e5;1m9f9c;2m5951;1m91d1;1m5587;1m5948",
  "1m61f6;1m7669;1m7f85;1m863f;1m87ba;1m88f8;1m908f;1m6a02;1m6d1b;1m70d9;1m73de;1m843d;1m916a",
  "1m99f1;1m4e82;1m5375;1m6b04;1m721b;1m862d;1m9e1e;1m5d50;1m6feb;1m85cd;1m8964;1m62c9;1m81d8",
  "1m881f;1m5eca;1m6717;1m6d6a;1m72fc;1m90ce;1m4f86;1m51b7;1m52de;1m64c4;1m6ad3;1m7210;1m76e7",
  "1m8001;1m8606;1m865c;1m8def;1m9732;1m9b6f;1m9dfa;1m788c;1m797f;1m7da0;1m83c9;1m9304;1m9e7f",
  "1m8ad6;1m58df;1m5f04;1m7c60;1m807e;1m7262;1m78ca;1m8cc2;1m96f7;1m58d8;1m5c62;1m6a13;1m6dda",
  "1m6f0f;1m7d2f;1m7e37;1m964b;1m52d2;1m808b;1m51dc;1m51cc;1m7a1c;1m7dbe;1m83f1;1m9675;1m8b80",
  "1m62cf;1m6a02;1m8afe;1m4e39;1m5be7;1m6012;1m7387;1m7570;1m5317;1m78fb;1m4fbf;1m5fa9;1m4e0d",
  "1m6ccc;1m6578;1m7d22;1m53c3;1m585e;1m7701;1m8449;1m8aaa;1m6bba;1m8fb0;1m6c88;1m62fe;1m82e5",
  "1m63a0;1m7565;1m4eae;1m5169;1m51c9;1m6881;1m7ce7;1m826f;1m8ad2;1m91cf;1m52f5;1m5442;1m5973",
  "1m5eec;1m65c5;1m6ffe;1m792a;1m95ad;1m9a6a;1m9e97;1m9ece;1m529b;1m66c6;1m6b77;1m8f62;1m5e74",
  "1m6190;1m6200;1m649a;1m6f23;1m7149;1m7489;1m79ca;1m7df4;1m806f;1m8f26;1m84ee;1m9023;1m934a",
  "1m5217;1m52a3;1m54bd;1m70c8;1m88c2;1m8aaa;1m5ec9;1m5ff5;1m637b;1m6bae;1m7c3e;1m7375;1m4ee4",
  "1m56f9;1m5be7;1m5dba;1m601c;1m73b2;1m7469;1m7f9a;1m8046;1m9234;1m96f6;1m9748;1m9818;1m4f8b",
  "1m79ae;1m91b4;1m96b8;1m60e1;1m4e86;1m50da;1m5bee;1m5c3f;1m6599;1m6a02;1m71ce;1m7642;1m84fc",
  "1m907c;1m9f8d;1m6688;1m962e;1m5289;1m677b;1m67f3;1m6d41;1m6e9c;1m7409;1m7559;1m786b;1m7d10",
  "1m985e;1m516d;1m622e;1m9678;1m502b;1m5d19;1m6dea;1m8f2a;1m5f8b;1m6144;1m6817;1m7387;1m9686",
  "1m5229;1m540f;1m5c65;1m6613;1m674e;1m68a8;1m6ce5;1m7406;1m75e2;1m7f79;1m88cf;1m88e1;1m91cc",
  "1m96e2;1m533f;1m6eba;1m541d;1m71d0;1m7498;1m85fa;1m96a3;1m9c57;1m9e9f;1m6797;1m6dcb;1m81e8",
  "1m7acb;1m7b20;1m7c92;1m72c0;1m7099;1m8b58;1m4ec0;1m8336;1m523a;1m5207;1m5ea6;1m62d3;1m7cd6",
  "1m5b85;1m6d1e;1m66b4;1m8f3b;1m884c;1m964d;1m898b;1m5ed3;1m5140;1m55c0;1v;2m585a;1v;1m6674;1v",
  "2m51de;1m732a;1m76ca;1m793c;1m795e;1m7965;1m798f;1m9756;1m7cbe;1m7fbd;1v;1m8612;1v;1m8af8;1v",
  "2m9038;1m90fd;1v;3m98ef;1m98fc;1m9928;1m9db4;1m90de;1m96b7;1m4fae;1m50e7;1m514d;1m52c9;1m52e4",
  "1m5351;1m559d;1m5606;1m5668;1m5840;1m58a8;1m5c64;1m5c6e;1m6094;1m6168;1m618e;1m61f2;1m654f",
  "1m65e2;1m6691;1m6885;1m6d77;1m6e1a;1m6f22;1m716e;1m722b;1m7422;1m7891;1m793e;1m7949;1m7948",
  "1m7950;1m7956;1m795d;1m798d;1m798e;1m7a40;1m7a81;1m7bc0;1m7df4;1m7e09;1m7e41;1m7f72;1m8005",
  "1m81ed;1m8279;2m8457;1m8910;1m8996;1m8b01;1m8b39;1m8cd3;1m8d08;1m8fb6;1m9038;1m96e3;1m97ff",
  "1m983b;1m6075;1m242ee;1m8218;1v;2m4e26;1m51b5;1m5168;1m4f80;1m5145;1m5180;1m52c7;1m52fa;1m559d",
  "1m5555;1m5599;1m55e2;1m585a;1m58b3;1m5944;1m5954;1m5a62;1m5b28;1m5ed2;1m5ed9;1m5f69;1m5fad",
  "1m60d8;1m614e;1m6108;1m618e;1m6160;1m61f2;1m6234;1m63c4;1m641c;1m6452;1m6556;1m6674;1m6717",
  "1m671b;1m6756;1m6b79;1m6bba;1m6d41;1m6edb;1m6ecb;1m6f22;1m701e;1m716e;1m77a7;1m7235;1m72af",
  "1m732a;1m7471;1m7506;1m753b;1m761d;1m761f;1m76ca;1m76db;1m76f4;1m774a;1m7740;1m78cc;1m7ab1",
  "1m7bc0;1m7c7b;1m7d5b;1m7df4;1m7f3e;1m8005;1m8352;1m83ef;1m8779;1m8941;1m8986;1m8996;1m8abf",
  "1m8af8;1m8acb;1m8b01;1m8afe;1m8aed;1m8b39;1m8b8a;1m8d08;1m8f38;1m9072;1m9199;1m9276;1m967c",
  "1m96e3;1m9756;1m97db;1m97ff;1m980b;1m983b;1m9b12;1m9f9c;1m2284a;1m22844;1m233d5;1m3b9d;1m4018",
  "1m4039;1m25249;1m25cd0;1m27ed3;1m9f43;1m9f8e;1v;26m66,66;1m66,69;1m66,6c;1m66,66,69;1m66,66,6c",
  "1m73,74;2v;cm574,576;1m574,565;1m574,56b;1m57e,576;1m574,56d;1v;5m5d9,5b4;1v;1m5f2,5b7;1m5e2",
  "1m5d0;1m5d3;1m5d4;1m5db;1m5dc;1m5dd;1m5e8;1m5ea;1m2b;1m5e9,5c1;1m5e9,5c2;1m5e9,5bc,5c1",
  "1m5e9,5bc,5c2;1m5d0,5b7;1m5d0,5b8;1m5d0,5bc;1m5d1,5bc;1m5d2,5bc;1m5d3,5bc;1m5d4,5bc;1m5d5,5bc",
  "1m5d6,5bc;1v;1m5d8,5bc;1m5d9,5bc;1m5da,5bc;1m5db,5bc;1m5dc,5bc;1v;1m5de,5bc;1v;1m5e0,5bc",
  "1m5e1,5bc;1v;1m5e3,5bc;1m5e4,5bc;1v;1m5e6,5bc;1m5e7,5bc;1m5e8,5bc;1m5e9,5bc;1m5ea,5bc;1m5d5,5b9",
  "1m5d1,5bf;1m5db,5bf;1m5e4,5bf;1m5d0,5dc;1m671;2m67b;4m67e;4m680;4m67a;4m67f;4m679;4m6a4;4m6a6",
  "4m684;4m683;4m686;4m687;4m68d;2m68c;2m68e;2m688;2m698;2m691;2m6a9;4m6af;4m6b3;4m6b1;4m6ba;2m6bb",
  "4m6c0;2m6c1;4m6be;4m6d2;2m6d3;2v;21m6ad;4m6c7;2m6c6;2m6c8;2m6c7,674;1m6cb;2m6c5;2m6c9;2m6d0",
  "4m649;2m626,627;2m626,6d5;2m626,648;2m626,6c7;2m626,6c6;2m626,6c8;2m626,6d0;3m626,649;3m6cc",
  "4m626,62c;1m626,62d;1m626,645;1m626,649;1m626,64a;1m628,62c;1m628,62d;1m628,62e;1m628,645",
  "1m628,649;1m628,64a;1m62a,62c;1m62a,62d;1m62a,62e;1m62a,645;1m62a,649;1m62a,64a;1m62b,62c",
  "1m62b,645;1m62b,649;1m62b,64a;1m62c,62d;1m62c,645;1m62d,62c;1m62d,645;1m62e,62c;1m62e,62d",
  "1m62e,645;1m633,62c;1m633,62d;1m633,62e;1m633,645;1m635,62d;1m635,645;1m636,62c;1m636,62d",
  "1m636,62e;1m636,645;1m637,62d;1m637,645;1m638,645;1m639,62c;1m639,645;1m63a,62c;1m63a,645",
  "1m641,62c;1m641,62d;1m641,62e;1m641,645;1m641,649;1m641,64a;1m642,62d;1m642,645;1m642,649",
  "1m642,64a;1m643,627;1m643,62c;1m643,62d;1m643,62e;1m643,644;1m643,645;1m643,649;1m643,64a",
  "1m644,62c;1m644,62d;1m644,62e;1m644,645;1m644,649;1m644,64a;1m645,62c;1m645,62d;1m645,62e",
  "1m645,645;1m645,649;1m645,64a;1m646,62c;1m646,62d;1m646,62e;1m646,645;1m646,649;1m646,64a",
  "1m647,62c;1m647,645;1m647,649;1m647,64a;1m64a,62c;1m64a,62d;1m64a,62e;1m64a,645;1m64a,649",
  "1m64a,64a;1m630,670;1m631,670;1m649,670;1m20,64c,651;1m20,64d,651;1m20,64e,651;1m20,64f,651",
  "1m20,650,651;1m20,651,670;1m626,631;1m626,632;1m626,645;1m626,646;1m626,649;1m626,64a;1m628,631",
  "1m628,632;1m628,645;1m628,646;1m628,649;1m628,64a;1m62a,631;1m62a,632;1m62a,645;1m62a,646",
  "1m62a,649;1m62a,64a;1m62b,631;1m62b,632;1m62b,645;1m62b,646;1m62b,649;1m62b,64a;1m641,649",
  "1m641,64a;1m642,649;1m642,64a;1m643,627;1m643,644;1m643,645;1m643,649;1m643,64a;1m644,645",
  "1m644,649;1m644,64a;1m645,627;1m645,645;1m646,631;1m646,632;1m646,645;1m646,646;1m646,649",
  "1m646,64a;1m649,670;1m64a,631;1m64a,632;1m64a,645;1m64a,646;1m64a,649;1m64a,64a;1m626,62c",
  "1m626,62d;1m626,62e;1m626,645;1m626,647;1m628,62c;1m628,62d;1m628,62e;1m628,645;1m628,647",
  "1m62a,62c;1m62a,62d;1m62a,62e;1m62a,645;1m62a,647;1m62b,645;1m62c,62d;1m62c,645;1m62d,62c",
  "1m62d,645;1m62e,62c;1m62e,645;1m633,62c;1m633,62d;1m633,62e;1m633,645;1m635,62d;1m635,62e",
  "1m635,645;1m636,62c;1m636,62d;1m636,62e;1m636,645;1m637,62d;1m638,645;1m639,62c;1m639,645",
  "1m63a,62c;1m63a,645;1m641,62c;1m641,62d;1m641,62e;1m641,645;1m642,62d;1m642,645;1m643,62c",
  "1m643,62d;1m643,62e;1m643,644;1m643,645;1m644,62c;1m644,62d;1m644,62e;1m644,645;1m644,647",
  "1m645,62c;1m645,62d;1m645,62e;1m645,645;1m646,62c;1m646,62d;1m646,62e;1m646,645;1m646,647",
  "1m647,62c;1m647,645;1m647,670;1m64a,62c;1m64a,62d;1m64a,62e;1m64a,645;1m64a,647;1m626,645",
  "1m626,647;1m628,645;1m628,647;1m62a,645;1m62a,647;1m62b,645;1m62b,647;1m633,645;1m633,647",
  "1m634,645;1m634,647;1m643,644;1m643,645;1m644,645;1m646,645;1m646,647;1m64a,645;1m64a,647",
  "1m640,64e,651;1m640,64f,651;1m640,650,651;1m637,649;1m637,64a;1m639,649;1m639,64a;1m63a,649",
  "1m63a,64a;1m633,649;1m633,64a;1m634,649;1m634,64a;1m62d,649;1m62d,64a;1m62c,649;1m62c,64a",
  "1m62e,649;1m62e,64a;1m635,649;1m635,64a;1m636,649;1m636,64a;1m634,62c;1m634,62d;1m634,62e",
  "1m634,645;1m634,631;1m633,631;1m635,631;1m636,631;1m637,649;1m637,64a;1m639,649;1m639,64a",
  "1m63a,649;1m63a,64a;1m633,649;1m633,64a;1m634,649;1m634,64a;1m62d,649;1m62d,64a;1m62c,649",
  "1m62c,64a;1m62e,649;1m62e,64a;1m635,649;1m635,64a;1m636,649;1m636,64a;1m634,62c;1m634,62d",
  "1m634,62e;1m634,645;1m634,631;1m633,631;1m635,631;1m636,631;1m634,62c;1m634,62d;1m634,62e",
  "1m634,645;1m633,647;1m634,647;1m637,645;1m633,62c;1m633,62d;1m633,62e;1m634,62c;1m634,62d",
  "1m634,62e;1m637,645;1m638,645;1m627,64b;2v;12m62a,62c,645;1m62a,62d,62c;2m62a,62d,645",
  "1m62a,62e,645;1m62a,645,62c;1m62a,645,62d;1m62a,645,62e;1m62c,645,62d;2m62d,645,64a",
  "1m62d,645,649;1m633,62d,62c;1m633,62c,62d;1m633,62c,649;1m633,645,62d;2m633,645,62c",
  "1m633,645,645;2m635,62d,62d;2m635,645,645;1m634,62d,645;2m634,62c,64a;1m634,645,62e",
  "2m634,645,645;2m636,62d,649;1m636,62e,645;2m637,645,62d;2m637,645,645;1m637,645,64a",
  "1m639,62c,645;1m639,645,645;2m639,645,649;1m63a,645,645;1m63a,645,64a;1m63a,645,649",
  "1m641,62e,645;2m642,645,62d;1m642,645,645;1m644,62d,645;1m644,62d,64a;1m644,62d,649",
  "1m644,62c,62c;2m644,62e,645;2m644,645,62d;2m645,62d,62c;1m645,62d,645;1m645,62d,64a",
  "1m645,62c,62d;1m645,62c,645;1m645,62e,62c;1m645,62e,645;1v;2m645,62c,62e;1m647,645,62c",
  "1m647,645,645;1m646,62d,645;1m646,62d,649;1m646,62c,645;2m646,62c,649;1m646,645,64a",
  "1m646,645,649;1m64a,645,645;2m628,62e,64a;1m62a,62c,64a;1m62a,62c,649;1m62a,62e,64a",
  "1m62a,62e,649;1m62a,645,64a;1m62a,645,649;1m62c,645,64a;1m62c,62d,649;1m62c,645,649",
  "1m633,62e,649;1m635,62d,64a;1m634,62d,64a;1m636,62d,64a;1m644,62c,64a;1m644,645,64a",
  "1m64a,62d,64a;1m64a,62c,64a;1m64a,645,64a;1m645,645,64a;1m642,645,64a;1m646,62d,64a",
  "1m642,645,62d;1m644,62d,645;1m639,645,64a;1m643,645,64a;1m646,62c,62d;1m645,62e,64a",
  "1m644,62c,645;1m643,645,645;1m644,62c,645;1m646,62c,62d;1m62c,62d,64a;1m62d,62c,64a",
  "1m645,62c,64a;1m641,645,64a;1m628,62d,64a;1m643,645,645;1m639,62c,645;1m635,645,645",
  "1m633,62e,64a;1m646,62c,64a;1v;8x;20m635,644,6d2;1m642,644,6d2;1m627,644,644,647",
  "1m627,643,628,631;1m645,62d,645,62f;1m635,644,639,645;1m631,633,648,644;1m639,644,64a,647",
  "1m648,633,644,645;1m635,644,649",
  "1m635,644,649,20,627,644,644,647,20,639,644,64a,647,20,648,633,644,645",
  "1m62c,644,20,62c,644,627,644,647;1m631,6cc,627,644;1v;3i;10m2c;1m3001;1x;1m3a;1m3b;1m21;1m3f",
  "1m3016;1m3017;1x;1v;16x;1m2014;1m2013;1m5f;2m28;1m29;1m7b;1m7d;1m3014;1m3015;1m3010;1m3011",
  "1m300a;1m300b;1m3008;1m3009;1m300c;1m300d;1m300e;1m300f;1v;2m5b;1m5d;1m20,305;4m5f;3m2c;1m3001",
  "1x;1v;1m3b;1m3a;1m3f;1m21;1m2014;1m28;1m29;1m7b;1m7d;1m3014;1m3015;1m23;1m26;1m2a;1m2b;1m2d",
  "1m3c;1m3e;1m3d;1v;1m5c;1m24;1m25;1m40;1v;4m20,64b;1m640,64b;1m20,64c;1v;1m20,64d;1v;1m20,64e",
  "1m640,64e;1m20,64f;1m640,64f;1m20,650;1m640,650;1m20,651;1m640,651;1m20,652;1m640,652;1m621",
  "1m622;2m623;2m624;2m625;2m626;4m627;2m628;4m629;2m62a;4m62b;4m62c;4m62d;4m62e;4m62f;2m630;2m631",
  "2m632;2m633;4m634;4m635;4m636;4m637;4m638;4m639;4m63a;4m641;4m642;4m643;4m644;4m645;4m646;4m647",
  "4m648;2m649;2m64a;4m644,622;2m644,623;2m644,625;2m644,627;2v;2i;1v;1m21;1m22;1m23;1m24;1m25",
  "1m26;1m27;1m28;1m29;1m2a;1m2b;1m2c;1m2d;1m2e;1m2f;1m30;1m31;1m32;1m33;1m34;1m35;1m36;1m37;1m38",
  "1m39;1m3a;1m3b;1m3c;1m3d;1m3e;1m3f;1m40;1m61;1m62;1m63;1m64;1m65;1m66;1m67;1m68;1m69;1m6a;1m6b",
  "1m6c;1m6d;1m6e;1m6f;1m70;1m71;1m72;1m73;1m74;1m75;1m76;1m77;1m78;1m79;1m7a;1m5b;1m5c;1m5d;1m5e",
  "1m5f;1m60;1m61;1m62;1m63;1m64;1m65;1m66;1m67;1m68;1m69;1m6a;1m6b;1m6c;1m6d;1m6e;1m6f;1m70;1m71",
  "1m72;1m73;1m74;1m75;1m76;1m77;1m78;1m79;1m7a;1m7b;1m7c;1m7d;1m7e;1m2985;1m2986;1m2e;1m300c",
  "1m300d;1m3001;1m30fb;1m30f2;1m30a1;1m30a3;1m30a5;1m30a7;1m30a9;1m30e3;1m30e5;1m30e7;1m30c3",
  "1m30fc;1m30a2;1m30a4;1m30a6;1m30a8;1m30aa;1m30ab;1m30ad;1m30af;1m30b1;1m30b3;1m30b5;1m30b7",
  "1m30b9;1m30bb;1m30bd;1m30bf;1m30c1;1m30c4;1m30c6;1m30c8;1m30ca;1m30cb;1m30cc;1m30cd;1m30ce",
  "1m30cf;1m30d2;1m30d5;1m30d8;1m30db;1m30de;1m30df;1m30e0;1m30e1;1m30e2;1m30e4;1m30e6;1m30e8",
  "1m30e9;1m30ea;1m30eb;1m30ec;1m30ed;1m30ef;1m30f3;1m3099;1m309a;1i;1m1100;1m1101;1m11aa;1m1102",
  "1m11ac;1m11ad;1m1103;1m1104;1m1105;1m11b0;1m11b1;1m11b2;1m11b3;1m11b4;1m11b5;1m111a;1m1106",
  "1m1107;1m1108;1m1121;1m1109;1m110a;1m110b;1m110c;1m110d;1m110e;1m110f;1m1110;1m1111;1m1112;1v",
  "3m1161;1m1162;1m1163;1m1164;1m1165;1m1166;1v;2m1167;1m1168;1m1169;1m116a;1m116b;1m116c;1v",
  "2m116d;1m116e;1m116f;1m1170;1m1171;1m1172;1v;2m1173;1m1174;1m1175;1v;3ma2;1ma3;1mac;1m20,304",
  "1ma6;1ma5;1m20a9;1v;1m2502;1m2190;1m2191;1m2192;1m2193;1m25a0;1m25cb;1v;ax;7v;400m10428;1m10429",
  "1m1042a;1m1042b;1m1042c;1m1042d;1m1042e;1m1042f;1m10430;1m10431;1m10432;1m10433;1m10434;1m10435",
  "1m10436;1m10437;1m10438;1m10439;1m1043a;1m1043b;1m1043c;1m1043d;1m1043e;1m1043f;1m10440;1m10441",
  "1m10442;1m10443;1m10444;1m10445;1m10446;1m10447;1m10448;1m10449;1m1044a;1m1044b;1m1044c;1m1044d",
  "1m1044e;1m1044f;1v;88m104d8;1m104d9;1m104da;1m104db;1m104dc;1m104dd;1m104de;1m104df;1m104e0",
  "1m104e1;1m104e2;1m104e3;1m104e4;1m104e5;1m104e6;1m104e7;1m104e8;1m104e9;1m104ea;1m104eb;1m104ec",
  "1m104ed;1m104ee;1m104ef;1m104f0;1m104f1;1m104f2;1m104f3;1m104f4;1m104f5;1m104f6;1m104f7;1m104f8",
  "1m104f9;1m104fa;1m104fb;1v;9cm10597;1m10598;1m10599;1m1059a;1m1059b;1m1059c;1m1059d;1m1059e",
  "1m1059f;1m105a0;1m105a1;1v;1m105a3;1m105a4;1m105a5;1m105a6;1m105a7;1m105a8;1m105a9;1m105aa",
  "1m105ab;1m105ac;1m105ad;1m105ae;1m105af;1m105b0;1m105b1;1v;1m105b3;1m105b4;1m105b5;1m105b6",
  "1m105b7;1m105b8;1m105b9;1v;1m105bb;1m105bc;1v;1ebm2d0;1m2d1;1me6;1m299;1m253;1v;1m2a3;1mab66",
  "1m2a5;1m2a4;1m256;1m257;1m1d91;1m258;1m25e;1m2a9;1m264;1m262;1m260;1m29b;1m127;1m29c;1m267",
  "1m284;1m2aa;1m2ab;1m26c;1m1df04;1ma78e;1m26e;1m1df05;1m28e;1m1df06;1mf8;1m276;1m277;1m71;1m27a",
  "1m1df08;1m27d;1m27e;1m280;1m2a8;1m2a6;1mab67;1m2a7;1m288;1m2c71;1v;1m28f;1m2a1;1m2a2;1m298",
  "1m1c0;1m1c1;1m1c2;1m1df0a;1m1df1e;1m287;1v;4c4m10cc0;1m10cc1;1m10cc2;1m10cc3;1m10cc4;1m10cc5",
  "1m10cc6;1m10cc7;1m10cc8;1m10cc9;1m10cca;1m10ccb;1m10ccc;1m10ccd;1m10cce;1m10ccf;1m10cd0;1m10cd1",
  "1m10cd2;1m10cd3;1m10cd4;1m10cd5;1m10cd6;1m10cd7;1m10cd8;1m10cd9;1m10cda;1m10cdb;1m10cdc;1m10cdd",
  "1m10cde;1m10cdf;1m10ce0;1m10ce1;1m10ce2;1m10ce3;1m10ce4;1m10ce5;1m10ce6;1m10ce7;1m10ce8;1m10ce9",
  "1m10cea;1m10ceb;1m10cec;1m10ced;1m10cee;1m10cef;1m10cf0;1m10cf1;1m10cf2;1v;9dm10d70;1m10d71",
  "1m10d72;1m10d73;1m10d74;1m10d75;1m10d76;1m10d77;1m10d78;1m10d79;1m10d7a;1m10d7b;1m10d7c;1m10d7d",
  "1m10d7e;1m10d7f;1m10d80;1m10d81;1m10d82;1m10d83;1m10d84;1m10d85;1v;357x;1v;fx;1v;7d2m118c0",
  "1m118c1;1m118c2;1m118c3;1m118c4;1m118c5;1m118c6;1m118c7;1m118c8;1m118c9;1m118ca;1m118cb;1m118cc",
  "1m118cd;1m118ce;1m118cf;1m118d0;1m118d1;1m118d2;1m118d3;1m118d4;1m118d5;1m118d6;1m118d7;1m118d8",
  "1m118d9;1m118da;1m118db;1m118dc;1m118dd;1m118de;1m118df;1v;1b70x;10v;3a00m16e60;1m16e61;1m16e62",
  "1m16e63;1m16e64;1m16e65;1m16e66;1m16e67;1m16e68;1m16e69;1m16e6a;1m16e6b;1m16e6c;1m16e6d;1m16e6e",
  "1m16e6f;1m16e70;1m16e71;1m16e72;1m16e73;1m16e74;1m16e75;1m16e76;1m16e77;1m16e78;1m16e79;1m16e7a",
  "1m16e7b;1m16e7c;1m16e7d;1m16e7e;1m16e7f;1v;40m16ebb;1m16ebc;1m16ebd;1m16ebe;1m16ebf;1m16ec0",
  "1m16ec1;1m16ec2;1m16ec3;1m16ec4;1m16ec5;1m16ec6;1m16ec7;1m16ec8;1m16ec9;1m16eca;1m16ecb;1m16ecc",
  "1m16ecd;1m16ece;1m16ecf;1m16ed0;1m16ed1;1m16ed2;1m16ed3;1v;4de7i;4v;1032m61;1m62;1m63;1m64;1m65",
  "1m66;1m67;1m68;1m69;1m6a;1m6b;1m6c;1m6d;1m6e;1m6f;1m70;1m71;1m72;1m73;1m74;1m75;1m76;1m77;1m78",
  "1m79;1m7a;1m30;1m31;1m32;1m33;1m34;1m35;1m36;1m37;1m38;1m39;1v;464m1d157,1d165;1m1d158,1d165",
  "1m1d158,1d165,1d16e;1m1d158,1d165,1d16f;1m1d158,1d165,1d170;1m1d158,1d165,1d171",
  "1m1d158,1d165,1d172;1v;ei;8v;40m1d1b9,1d165;1m1d1ba,1d165;1m1d1b9,1d165,1d16e",
  "1m1d1ba,1d165,1d16e;1m1d1b9,1d165,1d16f;1m1d1ba,1d165,1d16f;1v;23fm61;1m62;1m63;1m64;1m65;1m66",
  "1m67;1m68;1m69;1m6a;1m6b;1m6c;1m6d;1m6e;1m6f;1m70;1m71;1m72;1m73;1m74;1m75;1m76;1m77;1m78;1m79",
  "1m7a;1m61;1m62;1m63;1m64;1m65;1m66;1m67;1m68;1m69;1m6a;1m6b;1m6c;1m6d;1m6e;1m6f;1m70;1m71;1m72",
  "1m73;1m74;1m75;1m76;1m77;1m78;1m79;1m7a;1m61;1m62;1m63;1m64;1m65;1m66;1m67;1m68;1m69;1m6a;1m6b",
  "1m6c;1m6d;1m6e;1m6f;1m70;1m71;1m72;1m73;1m74;1m75;1m76;1m77;1m78;1m79;1m7a;1m61;1m62;1m63;1m64",
  "1m65;1m66;1m67;1v;1m69;1m6a;1m6b;1m6c;1m6d;1m6e;1m6f;1m70;1m71;1m72;1m73;1m74;1m75;1m76;1m77",
  "1m78;1m79;1m7a;1m61;1m62;1m63;1m64;1m65;1m66;1m67;1m68;1m69;1m6a;1m6b;1m6c;1m6d;1m6e;1m6f;1m70",
  "1m71;1m72;1m73;1m74;1m75;1m76;1m77;1m78;1m79;1m7a;1m61;1m62;1m63;1m64;1m65;1m66;1m67;1m68;1m69",
  "1m6a;1m6b;1m6c;1m6d;1m6e;1m6f;1m70;1m71;1m72;1m73;1m74;1m75;1m76;1m77;1m78;1m79;1m7a;1m61;1v",
  "1m63;1m64;1v;2m67;1v;2m6a;1m6b;1v;2m6e;1m6f;1m70;1m71;1v;1m73;1m74;1m75;1m76;1m77;1m78;1m79",
  "1m7a;1m61;1m62;1m63;1m64;1v;1m66;1v;1m68;1m69;1m6a;1m6b;1m6c;1m6d;1m6e;1v;1m70;1m71;1m72;1m73",
  "1m74;1m75;1m76;1m77;1m78;1m79;1m7a;1m61;1m62;1m63;1m64;1m65;1m66;1m67;1m68;1m69;1m6a;1m6b;1m6c",
  "1m6d;1m6e;1m6f;1m70;1m71;1m72;1m73;1m74;1m75;1m76;1m77;1m78;1m79;1m7a;1m61;1m62;1m63;1m64;1m65",
  "1m66;1m67;1m68;1m69;1m6a;1m6b;1m6c;1m6d;1m6e;1m6f;1m70;1m71;1m72;1m73;1m74;1m75;1m76;1m77;1m78",
  "1m79;1m7a;1m61;1m62;1v;1m64;1m65;1m66;1m67;1v;2m6a;1m6b;1m6c;1m6d;1m6e;1m6f;1m70;1m71;1v;1m73",
  "1m74;1m75;1m76;1m77;1m78;1m79;1v;1m61;1m62;1m63;1m64;1m65;1m66;1m67;1m68;1m69;1m6a;1m6b;1m6c",
  "1m6d;1m6e;1m6f;1m70;1m71;1m72;1m73;1m74;1m75;1m76;1m77;1m78;1m79;1m7a;1m61;1m62;1v;1m64;1m65",
  "1m66;1m67;1v;1m69;1m6a;1m6b;1m6c;1m6d;1v;1m6f;1v;3m73;1m74;1m75;1m76;1m77;1m78;1m79;1v;1m61",
  "1m62;1m63;1m64;1m65;1m66;1m67;1m68;1m69;1m6a;1m6b;1m6c;1m6d;1m6e;1m6f;1m70;1m71;1m72;1m73;1m74",
  "1m75;1m76;1m77;1m78;1m79;1m7a;1m61;1m62;1m63;1m64;1m65;1m66;1m67;1m68;1m69;1m6a;1m6b;1m6c;1m6d",
  "1m6e;1m6f;1m70;1m71;1m72;1m73;1m74;1m75;1m76;1m77;1m78;1m79;1m7a;1m61;1m62;1m63;1m64;1m65;1m66",
  "1m67;1m68;1m69;1m6a;1m6b;1m6c;1m6d;1m6e;1m6f;1m70;1m71;1m72;1m73;1m74;1m75;1m76;1m77;1m78;1m79",
  "1m7a;1m61;1m62;1m63;1m64;1m65;1m66;1m67;1m68;1m69;1m6a;1m6b;1m6c;1m6d;1m6e;1m6f;1m70;1m71;1m72",
  "1m73;1m74;1m75;1m76;1m77;1m78;1m79;1m7a;1m61;1m62;1m63;1m64;1m65;1m66;1m67;1m68;1m69;1m6a;1m6b",
  "1m6c;1m6d;1m6e;1m6f;1m70;1m71;1m72;1m73;1m74;1m75;1m76;1m77;1m78;1m79;1m7a;1m61;1m62;1m63;1m64",
  "1m65;1m66;1m67;1m68;1m69;1m6a;1m6b;1m6c;1m6d;1m6e;1m6f;1m70;1m71;1m72;1m73;1m74;1m75;1m76;1m77",
  "1m78;1m79;1m7a;1m61;1m62;1m63;1m64;1m65;1m66;1m67;1m68;1m69;1m6a;1m6b;1m6c;1m6d;1m6e;1m6f;1m70",
  "1m71;1m72;1m73;1m74;1m75;1m76;1m77;1m78;1m79;1m7a;1m61;1m62;1m63;1m64;1m65;1m66;1m67;1m68;1m69",
  "1m6a;1m6b;1m6c;1m6d;1m6e;1m6f;1m70;1m71;1m72;1m73;1m74;1m75;1m76;1m77;1m78;1m79;1m7a;1m61;1m62",
  "1m63;1m64;1m65;1m66;1m67;1m68;1m69;1m6a;1m6b;1m6c;1m6d;1m6e;1m6f;1m70;1m71;1m72;1m73;1m74;1m75",
  "1m76;1m77;1m78;1m79;1m7a;1m61;1m62;1m63;1m64;1m65;1m66;1m67;1m68;1m69;1m6a;1m6b;1m6c;1m6d;1m6e",
  "1m6f;1m70;1m71;1m72;1m73;1m74;1m75;1m76;1m77;1m78;1m79;1m7a;1m61;1m62;1m63;1m64;1m65;1m66;1m67",
  "1m68;1m69;1m6a;1m6b;1m6c;1m6d;1m6e;1m6f;1m70;1m71;1m72;1m73;1m74;1m75;1m76;1m77;1m78;1m79;1m7a",
  "1m61;1m62;1m63;1m64;1m65;1m66;1m67;1m68;1m69;1m6a;1m6b;1m6c;1m6d;1m6e;1m6f;1m70;1m71;1m72;1m73",
  "1m74;1m75;1m76;1m77;1m78;1m79;1m7a;1m61;1m62;1m63;1m64;1m65;1m66;1m67;1m68;1m69;1m6a;1m6b;1m6c",
  "1m6d;1m6e;1m6f;1m70;1m71;1m72;1m73;1m74;1m75;1m76;1m77;1m78;1m79;1m7a;1m131;1m237;1v;2m3b1",
  "1m3b2;1m3b3;1m3b4;1m3b5;1m3b6;1m3b7;1m3b8;1m3b9;1m3ba;1m3bb;1m3bc;1m3bd;1m3be;1m3bf;1m3c0;1m3c1",
  "1m3b8;1m3c3;1m3c4;1m3c5;1m3c6;1m3c7;1m3c8;1m3c9;1m2207;1m3b1;1m3b2;1m3b3;1m3b4;1m3b5;1m3b6",
  "1m3b7;1m3b8;1m3b9;1m3ba;1m3bb;1m3bc;1m3bd;1m3be;1m3bf;1m3c0;1m3c1;1m3c3;2m3c4;1m3c5;1m3c6;1m3c7",
  "1m3c8;1m3c9;1m2202;1m3b5;1m3b8;1m3ba;1m3c6;1m3c1;1m3c0;1m3b1;1m3b2;1m3b3;1m3b4;1m3b5;1m3b6",
  "1m3b7;1m3b8;1m3b9;1m3ba;1m3bb;1m3bc;1m3bd;1m3be;1m3bf;1m3c0;1m3c1;1m3b8;1m3c3;1m3c4;1m3c5;1m3c6",
  "1m3c7;1m3c8;1m3c9;1m2207;1m3b1;1m3b2;1m3b3;1m3b4;1m3b5;1m3b6;1m3b7;1m3b8;1m3b9;1m3ba;1m3bb",
  "1m3bc;1m3bd;1m3be;1m3bf;1m3c0;1m3c1;1m3c3;2m3c4;1m3c5;1m3c6;1m3c7;1m3c8;1m3c9;1m2202;1m3b5",
  "1m3b8;1m3ba;1m3c6;1m3c1;1m3c0;1m3b1;1m3b2;1m3b3;1m3b4;1m3b5;1m3b6;1m3b7;1m3b8;1m3b9;1m3ba;1m3bb",
  "1m3bc;1m3bd;1m3be;1m3bf;1m3c0;1m3c1;1m3b8;1m3c3;1m3c4;1m3c5;1m3c6;1m3c7;1m3c8;1m3c9;1m2207",
  "1m3b1;1m3b2;1m3b3;1m3b4;1m3b5;1m3b6;1m3b7;1m3b8;1m3b9;1m3ba;1m3bb;1m3bc;1m3bd;1m3be;1m3bf;1m3c0",
  "1m3c1;1m3c3;2m3c4;1m3c5;1m3c6;1m3c7;1m3c8;1m3c9;1m2202;1m3b5;1m3b8;1m3ba;1m3c6;1m3c1;1m3c0",
  "1m3b1;1m3b2;1m3b3;1m3b4;1m3b5;1m3b6;1m3b7;1m3b8;1m3b9;1m3ba;1m3bb;1m3bc;1m3bd;1m3be;1m3bf;1m3c0",
  "1m3c1;1m3b8;1m3c3;1m3c4;1m3c5;1m3c6;1m3c7;1m3c8;1m3c9;1m2207;1m3b1;1m3b2;1m3b3;1m3b4;1m3b5",
  "1m3b6;1m3b7;1m3b8;1m3b9;1m3ba;1m3bb;1m3bc;1m3bd;1m3be;1m3bf;1m3c0;1m3c1;1m3c3;2m3c4;1m3c5;1m3c6",
  "1m3c7;1m3c8;1m3c9;1m2202;1m3b5;1m3b8;1m3ba;1m3c6;1m3c1;1m3c0;1m3b1;1m3b2;1m3b3;1m3b4;1m3b5",
  "1m3b6;1m3b7;1m3b8;1m3b9;1m3ba;1m3bb;1m3bc;1m3bd;1m3be;1m3bf;1m3c0;1m3c1;1m3b8;1m3c3;1m3c4;1m3c5",
  "1m3c6;1m3c7;1m3c8;1m3c9;1m2207;1m3b1;1m3b2;1m3b3;1m3b4;1m3b5;1m3b6;1m3b7;1m3b8;1m3b9;1m3ba",
  "1m3bb;1m3bc;1m3bd;1m3be;1m3bf;1m3c0;1m3c1;1m3c3;2m3c4;1m3c5;1m3c6;1m3c7;1m3c8;1m3c9;1m2202",
  "1m3b5;1m3b8;1m3ba;1m3c6;1m3c1;1m3c0;1m3dd;2v;2m30;1m31;1m32;1m33;1m34;1m35;1m36;1m37;1m38;1m39",
  "1m30;1m31;1m32;1m33;1m34;1m35;1m36;1m37;1m38;1m39;1m30;1m31;1m32;1m33;1m34;1m35;1m36;1m37;1m38",
  "1m39;1m30;1m31;1m32;1m33;1m34;1m35;1m36;1m37;1m38;1m39;1m30;1m31;1m32;1m33;1m34;1m35;1m36;1m37",
  "1m38;1m39;1v;830m430;1m431;1m432;1m433;1m434;1m435;1m436;1m437;1m438;1m43a;1m43b;1m43c;1m43e",
  "1m43f;1m440;1m441;1m442;1m443;1m444;1m445;1m446;1m447;1m448;1m44b;1m44d;1m44e;1ma689;1m4d9",
  "1m456;1m458;1m4e9;1m4af;1m4cf;1m430;1m431;1m432;1m433;1m434;1m435;1m436;1m437;1m438;1m43a;1m43b",
  "1m43e;1m43f;1m441;1m443;1m444;1m445;1m446;1m447;1m448;1m44a;1m44b;1m491;1m456;1m455;1m45f;1m4ab",
  "1ma651;1m4b1;1v;892m1e922;1m1e923;1m1e924;1m1e925;1m1e926;1m1e927;1m1e928;1m1e929;1m1e92a",
  "1m1e92b;1m1e92c;1m1e92d;1m1e92e;1m1e92f;1m1e930;1m1e931;1m1e932;1m1e933;1m1e934;1m1e935;1m1e936",
  "1m1e937;1m1e938;1m1e939;1m1e93a;1m1e93b;1m1e93c;1m1e93d;1m1e93e;1m1e93f;1m1e940;1m1e941;1m1e942",
  "1m1e943;1v;4dem627;1m628;1m62c;1m62f;1v;1m648;1m632;1m62d;1m637;1m64a;1m643;1m644;1m645;1m646",
  "1m633;1m639;1m641;1m635;1m642;1m631;1m634;1m62a;1m62b;1m62e;1m630;1m636;1m638;1m63a;1m66e;1m6ba",
  "1m6a1;1m66f;1v;1m628;1m62c;1v;1m647;1v;2m62d;1v;1m64a;1m643;1m644;1m645;1m646;1m633;1m639;1m641",
  "1m635;1m642;1v;1m634;1m62a;1m62b;1m62e;1v;1m636;1v;1m63a;1v;6m62c;1v;4m62d;1v;1m64a;1v;1m644;1v",
  "1m646;1m633;1m639;1v;1m635;1m642;1v;1m634;1v;2m62e;1v;1m636;1v;1m63a;1v;1m6ba;1v;1m66f;1v;1m628",
  "1m62c;1v;1m647;1v;2m62d;1m637;1m64a;1m643;1v;1m645;1m646;1m633;1m639;1m641;1m635;1m642;1v;1m634",
  "1m62a;1m62b;1m62e;1v;1m636;1m638;1m63a;1m66e;1v;1m6a1;1v;1m627;1m628;1m62c;1m62f;1m647;1m648",
  "1m632;1m62d;1m637;1m64a;1v;1m644;1m645;1m646;1m633;1m639;1m641;1m635;1m642;1m631;1m634;1m62a",
  "1m62b;1m62e;1m630;1m636;1m638;1m63a;1v;5m628;1m62c;1m62f;1v;1m648;1m632;1m62d;1m637;1m64a;1v",
  "1m644;1m645;1m646;1m633;1m639;1m641;1m635;1m642;1m631;1m634;1m62a;1m62b;1m62e;1m630;1m636;1m638",
  "1m63a;1v;244x;1m30,2c;1m31,2c;1m32,2c;1m33,2c;1m34,2c;1m35,2c;1m36,2c;1m37,2c;1m38,2c;1m39,2c",
  "1v;5m28,61,29;1m28,62,29;1m28,63,29;1m28,64,29;1m28,65,29;1m28,66,29;1m28,67,29;1m28,68,29",
  "1m28,69,29;1m28,6a,29;1m28,6b,29;1m28,6c,29;1m28,6d,29;1m28,6e,29;1m28,6f,29;1m28,70,29",
  "1m28,71,29;1m28,72,29;1m28,73,29;1m28,74,29;1m28,75,29;1m28,76,29;1m28,77,29;1m28,78,29",
  "1m28,79,29;1m28,7a,29;1m3014,73,3015;1m63;1m72;1m63,64;1m77,7a;1v;1m61;1m62;1m63;1m64;1m65;1m66",
  "1m67;1m68;1m69;1m6a;1m6b;1m6c;1m6d;1m6e;1m6f;1m70;1m71;1m72;1m73;1m74;1m75;1m76;1m77;1m78;1m79",
  "1m7a;1m68,76;1m6d,76;1m73,64;1m73,73;1m70,70,76;1m77,63;1v;1am6d,63;1m6d,64;1m6d,72;1v;23m64,6a",
  "1v;6fm307b,304b;1m30b3,30b3;1m30b5;1v;dm624b;1m5b57;1m53cc;1m30c7;1m4e8c;1m591a;1m89e3;1m5929",
  "1m4ea4;1m6620;1m7121;1m6599;1m524d;1m5f8c;1m518d;1m65b0;1m521d;1m7d42;1m751f;1m8ca9;1m58f0",
  "1m5439;1m6f14;1m6295;1m6355;1m4e00;1m4e09;1m904a;1m5de6;1m4e2d;1m53f3;1m6307;1m8d70;1m6253",
  "1m7981;1m7a7a;1m5408;1m6e80;1m6709;1m6708;1m7533;1m5272;1m55b6;1m914d;1v;4m3014,672c,3015",
  "1m3014,4e09,3015;1m3014,4e8c,3015;1m3014,5b89,3015;1m3014,70b9,3015;1m3014,6253,3015",
  "1m3014,76d7,3015;1m3014,52dd,3015;1m3014,6557,3015;1v;7m5f97;1m53ef;1v;99em30;1m31;1m32;1m33",
  "1m34;1m35;1m36;1m37;1m38;1m39;1v;404x;2v;f800m4e3d;1m4e38;1m4e41;1m20122;1m4f60;1m4fae;1m4fbb",
  "1m5002;1m507a;1m5099;1m50e7;1m50cf;1m349e;1m2063a;1m514d;1m5154;1m5164;1m5177;1m2051c;1m34b9",
  "1m5167;1m518d;1m2054b;1m5197;1m51a4;1m4ecc;1m51ac;1m51b5;1m291df;1m51f5;1m5203;1m34df;1m523b",
  "1m5246;1m5272;1m5277;1m3515;1m52c7;1m52c9;1m52e4;1m52fa;1m5305;1m5306;1m5317;1m5349;1m5351",
  "1m535a;1m5373;1m537d;1m537f;3m20a2c;1m7070;1m53ca;1m53df;1m20b63;1m53eb;1m53f1;1m5406;1m549e",
  "1m5438;1m5448;1m5468;1m54a2;1m54f6;1m5510;1m5553;1m5563;1m5584;2m5599;1m55ab;1m55b3;1m55c2",
  "1m5716;1m5606;1m5717;1m5651;1m5674;1m5207;1m58ee;1m57ce;1m57f4;1m580d;1m578b;1m5832;1m5831",
  "1m58ac;1m214e4;1m58f2;1m58f7;1m5906;1m591a;1m5922;1m5962;1m216a8;1m216ea;1m59ec;1m5a1b;1m5a27",
  "1m59d8;1m5a66;1m36ee;1m36fc;1m5b08;1m5b3e;2m219c8;1m5bc3;1m5bd8;1m5be7;1m5bf3;1m21b18;1m5bff",
  "1m5c06;1m5f53;1m5c22;1m3781;1m5c60;1m5c6e;1m5cc0;1m5c8d;1m21de4;1m5d43;1m21de6;1m5d6e;1m5d6b",
  "1m5d7c;1m5de1;1m5de2;1m382f;1m5dfd;1m5e28;1m5e3d;1m5e69;1m3862;1m22183;1m387c;1m5eb0;1m5eb3",
  "1m5eb6;1m5eca;1m2a392;1m5efe;1m22331;2m8201;1m5f22;2m38c7;1m232b8;1m261da;1m5f62;1m5f6b;1m38e3",
  "1m5f9a;1m5fcd;1m5fd7;1m5ff9;1m6081;1m393a;1m391c;1m6094;1m226d4;1m60c7;1m6148;1m614c;1m614e",
  "1m614c;1m617a;1m618e;1m61b2;1m61a4;1m61af;1m61de;1m61f2;1m61f6;1m6210;1m621b;1m625d;1m62b1",
  "1m62d4;1m6350;1m22b0c;1m633d;1m62fc;1m6368;1m6383;1m63e4;1m22bf1;1m6422;1m63c5;1m63a9;1m3a2e",
  "1m6469;1m647e;1m649d;1m6477;1m3a6c;1m654f;1m656c;1m2300a;1m65e3;1m66f8;1m6649;1m3b19;1m6691",
  "1m3b08;1m3ae4;1m5192;1m5195;1m6700;1m669c;1m80ad;1m43d9;1m6717;1m671b;1m6721;1m675e;1m6753",
  "1m233c3;1m3b49;1m67fa;1m6785;1m6852;1m6885;1m2346d;1m688e;1m681f;1m6914;1m3b9d;1m6942;1m69a3",
  "1m69ea;1m6aa8;1m236a3;1m6adb;1m3c18;1m6b21;1m238a7;1m6b54;1m3c4e;1m6b72;1m6b9f;1m6bba;1m6bbb",
  "1m23a8d;1m21d0b;1m23afa;1m6c4e;1m23cbc;1m6cbf;1m6ccd;1m6c67;1m6d16;1m6d3e;1m6d77;1m6d41;1m6d69",
  "1m6d78;1m6d85;1m23d1e;1m6d34;1m6e2f;1m6e6e;1m3d33;1m6ecb;1m6ec7;1m23ed1;1m6df9;1m6f6e;1m23f5e",
  "1m23f8e;1m6fc6;1m7039;1m701e;1m701b;1m3d96;1m704a;1m707d;1m7077;1m70ad;1m20525;1m7145;1m24263",
  "1m719c;1m243ab;1m7228;1m7235;1m7250;1m24608;1m7280;1m7295;1m24735;1m24814;1m737a;1m738b;1m3eac",
  "1m73a5;1m3eb8;2m7447;1m745c;1m7471;1m7485;1m74ca;1m3f1b;1m7524;1m24c36;1m753e;1m24c92;1m7570",
  "1m2219f;1m7610;1m24fa1;1m24fb8;1m25044;1m3ffc;1m4008;1m76f4;1m250f3;1m250f2;1m25119;1m25133",
  "1m771e;1m771f;2m774a;1m4039;1m778b;1m4046;1m4096;1m2541d;1m784e;1m788c;1m78cc;1m40e3;1m25626",
  "1m7956;1m2569a;1m256c5;1m798f;1m79eb;1m412f;1m7a40;1m7a4a;1m7a4f;1m2597c;1m25aa7;2m7aee;1m4202",
  "1m25bab;1m7bc6;1m7bc9;1m4227;1m25c80;1m7cd2;1m42a0;1m7ce8;1m7ce3;1m7d00;1m25f86;1m7d63;1m4301",
  "1m7dc7;1m7e02;1m7e45;1m4334;1m26228;1m26247;1m4359;1m262d9;1m7f7a;1m2633e;1m7f95;1m7ffa;1m8005",
  "1m264da;1m26523;1m8060;1m265a8;1m8070;1m2335f;1m43d5;1m80b2;1m8103;1m440b;1m813e;1m5ab5;1m267a7",
  "1m267b5;1m23393;1m2339c;1m8201;1m8204;1m8f9e;1m446b;1m8291;1m828b;1m829d;1m52b3;1m82b1;1m82b3",
  "1m82bd;1m82e6;1m26b3c;1m82e5;1m831d;1m8363;1m83ad;1m8323;1m83bd;1m83e7;1m8457;1m8353;1m83ca",
  "1m83cc;1m83dc;1m26c36;1m26d6b;1m26cd5;1m452b;1m84f1;1m84f3;1m8516;1m273ca;1m8564;1m26f2c;1m455d",
  "1m4561;1m26fb1;1m270d2;1m456b;1m8650;1m865c;1m8667;1m8669;1m86a9;1m8688;1m870e;1m86e2;1m8779",
  "1m8728;1m876b;1m8786;1m45d7;1m87e1;1m8801;1m45f9;1m8860;1m8863;1m27667;1m88d7;1m88de;1m4635",
  "1m88fa;1m34bb;1m278ae;1m27966;1m46be;1m46c7;1m8aa0;1m8aed;1m8b8a;1m8c55;1m27ca8;1m8cab;1m8cc1",
  "1m8d1b;1m8d77;1m27f2f;1m20804;1m8dcb;1m8dbc;1m8df0;1m208de;1m8ed4;1m8f38;1m285d2;1m285ed;1m9094",
  "1m90f1;1m9111;1m2872e;1m911b;1m9238;1m92d7;1m92d8;1m927c;1m93f9;1m9415;1m28bfa;1m958b;1m4995",
  "1m95b7;1m28d77;1m49e6;1m96c3;1m5db2;1m9723;1m29145;1m2921a;1m4a6e;1m4a76;1m97e0;1m2940a;1m4ab2",
  "1m29496;1m980b;2m9829;1m295b6;1m98e2;1m4b33;1m9929;1m99a7;1m99c2;1m99fe;1m4bce;1m29b30;1m9b12",
  "1m9c40;1m9cfd;1m4cce;1m4ced;1m9d67;1m2a0ce;1m4cf8;1m2a105;1m2a20e;1m2a291;1m9ebb;1m4d56;1m9ef9",
  "1m9efe;1m9f05;1m9f0f;1m9f16;1m9f3b;1m2a600;1v;5e0x;2v;fffex;2v;fffex;2v;fffex;2v;fffex;2v;fffex",
  "2v;fffex;2v;fffex;2v;fffex;2v;fffex;2v;fffex;2v;fffex;2v;1x;1v;1ex;60v;80i;f0v;fe0ex" ]

/-- The rows of the table, in increasing order of their first code points. -/
def mappingRows : Array Row :=
  (readRows 0 (mappingLines.flatMap (·.splitOn ";"))).toArray

/-- The index of the last row, among rows `lo` to `hi - 1`, whose first code point is at most
`n`, given that row `lo`'s is. -/
def lastRowFrom (rows : Array Row) (n lo hi : Nat) : Nat :=
  if lo + 1 < hi then
    let mid := (lo + hi) / 2
    if (rows.getD mid default).first ≤ n then lastRowFrom rows n mid hi
    else lastRowFrom rows n lo mid
  else lo
termination_by hi - lo

/-- What processing does with a code point. -/
def status (c : Char) : Status :=
  (mappingRows.getD (lastRowFrom mappingRows c.toNat 0 mappingRows.size) default).status

end MonolithSplit.Network.Idna
