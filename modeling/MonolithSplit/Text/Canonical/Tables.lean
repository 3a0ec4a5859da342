import MonolithSplit.Text.CodePointTable

/-!
# Tables of canonical equivalence

The data of Unicode 17.0 that Normalization Form C needs, as tables of code points (see
`Text.CodePointTable`):

* the canonical combining class of each code point that has one other than zero;
* the full canonical decomposition of each code point that has one, Hangul syllables apart
  (they decompose by arithmetic);
* the primary composites: the pairs of code points that compose to one, Hangul apart. A pair
  is looked up by the key `first * 0x110000 + second`, so this table's spans are one key long.
-/

namespace MonolithSplit.Text

/-- Canonical combining classes other than zero, in hexadecimal. -/
def combiningClassLines : List String := [
  "300+14:e6;1+0:e8;1+3:dc;1+0:e8;1+0:d8;1+4:dc;1+1:ca;1+3:dc;1+1:ca;1+a:dc;1+4:1;1+3:dc;1+2:e6",
  "3+0:e6;3+0:f0;1+0:e6;1+2:dc;1+2:e6;1+1:dc;2+2:e6;1+3:dc;1+0:e6;1+0:e8;1+1:dc;1+0:e6;1+0:e9",
  "1+1:ea;1+0:e9;1+1:ea;1+0:e9;1+c:e6;114+4:e6;10a+0:dc;1+3:e6;1+0:dc;1+2:e6;1+0:de;1+0:dc;1+5:e6",
  "1+5:dc;1+1:e6;1+0:dc;1+1:e6;1+0:de;1+0:e4;1+0:e6;1+0:a;1+0:b;1+0:c;1+0:d;1+0:e;1+0:f;1+0:10",
  "1+0:11;1+0:12;1+1:13;1+0:14;1+0:15;1+0:16;2+0:17;2+0:18;1+0:19;2+0:e6;1+0:dc;2+0:12;49+7:e6",
  "1+0:1e;1+0:1f;1+0:20;31+0:1b;1+0:1c;1+0:1d;1+0:1e;1+0:1f;1+0:20;1+0:21;1+0:22;1+1:e6;1+1:dc",
  "1+4:e6;1+0:dc;1+1:e6;1+0:dc;11+0:23;66+6:e6;3+3:e6;1+0:dc;1+0:e6;3+1:e6;2+0:dc;1+1:e6;1+0:dc",
  "24+0:24;1f+0:e6;1+0:dc;1+1:e6;1+0:dc;1+1:e6;1+2:dc;1+0:e6;1+1:dc;1+0:e6;1+0:dc;1+2:e6;1+0:dc",
  "1+0:e6;1+0:dc;1+0:e6;1+0:dc;1+0:e6;1+0:dc;1+1:e6;a1+6:e6;1+0:dc;1+0:e6;a+0:dc;19+3:e6;2+8:e6",
  "2+2:e6;2+4:e6;2c+2:dc;3c+1:e6;1+2:dc;1+3:e6;2b+4:e6;1+4:dc;1+d:e6;2+0:dc;1+1:e6;1+0:dc;1+1:e6",
  "1+0:dc;1+2:e6;1+2:dc;1+0:1b;1+0:1c;1+0:1d;1+2:e6;1+0:dc;1+1:e6;1+1:dc;1+4:e6;3d+0:7;11+0:9",
  "4+0:e6;1+0:dc;1+1:e6;68+0:7;11+0:9;31+0:e6;3e+0:7;11+0:9;6f+0:7;11+0:9;6f+0:7;11+0:9;80+0:9",
  "6f+0:7;11+0:9;8+0:54;1+0:5b;66+0:7;11+0:9;6e+1:9;11+0:9;7d+0:9;6e+1:67;1+0:9;e+3:6b;6d+1:76",
  "1+0:9;e+3:7a;4d+1:dc;1c+0:dc;2+0:dc;2+0:d8;38+0:81;1+0:82;2+0:84;6+3:82;3+0:82;2+1:e6;1+0:9",
  "2+1:e6;3f+0:dc;71+0:7;2+1:9;53+0:dc;2d0+2:e6;3b5+1:9;1f+0:9;9e+0:9;b+0:e6;cc+0:e4;90+0:de",
  "1+0:e6;1+0:dc;dc+0:e6;1+0:dc;48+0:9;15+7:e6;3+0:dc;31+4:e6;1+5:dc;1+1:e6;1+0:dc;2+1:dc;1+1:e6",
  "1+1:dc;1+4:e6;1+0:dc;1+11:e6;1+0:dc;3+5:e6;1+0:dc;1+3:e6;1+0:ea;49+0:7;10+0:9;27+0:e6;1+0:dc",
  "1+6:e6;37+1:9;3b+0:7;c+1:9;44+0:7;99+2:e6;2+0:1;1+4:dc;1+1:e6;1+3:dc;1+0:e6;2+6:1;5+0:dc;7+0:e6",
  "4+1:e6;c7+1:e6;1+0:dc;1+6:e6;1+0:dc;1+1:e6;1+0:ea;1+0:d6;1+0:dc;1+0:ca;1+24:e6;1+0:e8;1+1:e4",
  "1+0:dc;1+0:da;1+0:e6;1+0:e9;1+0:dc;1+0:e6;1+0:dc;2d1+1:e6;1+1:1;1+3:e6;1+2:1;1+1:e6;5+0:e6",
  "4+1:1;1+0:e6;1+0:dc;1+0:e6;1+1:1;1+3:dc;1+0:e6;bff+2:e6;8e+0:9;61+1f:e6;22b+0:da;1+0:e4;1+0:e8",
  "1+0:de;1+1:e0;6a+1:8;75d5+0:e6;5+9:e6;21+1:e6;51+1:e6;115+0:9;26+0:9;98+0:9;1c+11:e6;3a+2:dc",
  "26+0:9;60+0:7;d+0:9;f0+0:e6;2+1:e6;1+0:dc;3+1:e6;6+1:e6;2+0:e6;35+0:9;f7+0:9;4f31+0:1a;302+6:e6",
  "1+6:dc;1+1:e6;3ce+0:dc;e3+0:dc;96+4:e6;693+0:dc;2+0:e6;29+0:e6;1+0:1;1+0:dc;5+0:9;a6+0:e6",
  "1+0:dc;23e+3:e6;42+4:e6;13e+1:e6;4e+1:dc;2+2:dc;47+1:dc;1+2:e6;1+0:dc;1+0:e6;1+3:dc;32+0:e6",
  "1+0:dc;1+0:e6;1+0:dc;c1+0:9;2a+0:9;f+0:9;3a+0:9;1+0:7;46+2:e6;31+1:9;3f+0:7;4d+0:9;a+0:7;6b+0:9",
  "1+0:7;b3+0:7;1+0:9;51+1:7;11+0:9;19+6:e6;4+4:e6;5a+2:9;72+0:9;4+0:7;18+0:e6;64+0:9;1+0:7;fc+0:9",
  "1+0:7;7f+0:9;77+0:9;1+0:7;74+0:9;10e+0:9;1+0:7;103+1:9;5+0:7;9d+0:9;54+0:9;13+0:9;52+0:9",
  "1a6+0:9;103+0:7;2+1:9;52+0:9;1aa+1:9;41ed+0:9;9c1+4:1;3c+6:e6;4ba+1:6;4cad+0:1;14c7+1:d8;1+2:1",
  "4+0:e2;1+4:d8;9+7:dc;3+4:e6;1+1:dc;1f+3:e6;95+2:e6;dbc+6:e6;2+10:e6;3+6:e6;2+1:e6;2+4:e6",
  "65+0:e6;a1+6:e6;178+0:e6;3e+3:e6;1fd+1:e8;1+0:dc;1+0:e6;ff+0:e6;1+0:dc;f4+0:e6;3+0:e6;8+1:e6",
  "6+0:e6;1db+6:dc;6e+5:e6;1+0:7" ]

/-- Full canonical decompositions, one code point per span. -/
def decompositionLines : List String := [
  "c0+0:41,300;1+0:41,301;1+0:41,302;1+0:41,303;1+0:41,308;1+0:41,30a;2+0:43,327;1+0:45,300",
  "1+0:45,301;1+0:45,302;1+0:45,308;1+0:49,300;1+0:49,301;1+0:49,302;1+0:49,308;2+0:4e,303",
  "1+0:4f,300;1+0:4f,301;1+0:4f,302;1+0:4f,303;1+0:4f,308;3+0:55,300;1+0:55,301;1+0:55,302",
  "1+0:55,308;1+0:59,301;3+0:61,300;1+0:61,301;1+0:61,302;1+0:61,303;1+0:61,308;1+0:61,30a",
  "2+0:63,327;1+0:65,300;1+0:65,301;1+0:65,302;1+0:65,308;1+0:69,300;1+0:69,301;1+0:69,302",
  "1+0:69,308;2+0:6e,303;1+0:6f,300;1+0:6f,301;1+0:6f,302;1+0:6f,303;1+0:6f,308;3+0:75,300",
  "1+0:75,301;1+0:75,302;1+0:75,308;1+0:79,301;2+0:79,308;1+0:41,304;1+0:61,304;1+0:41,306",
  "1+0:61,306;1+0:41,328;1+0:61,328;1+0:43,301;1+0:63,301;1+0:43,302;1+0:63,302;1+0:43,307",
  "1+0:63,307;1+0:43,30c;1+0:63,30c;1+0:44,30c;1+0:64,30c;3+0:45,304;1+0:65,304;1+0:45,306",
  "1+0:65,306;1+0:45,307;1+0:65,307;1+0:45,328;1+0:65,328;1+0:45,30c;1+0:65,30c;1+0:47,302",
  "1+0:67,302;1+0:47,306;1+0:67,306;1+0:47,307;1+0:67,307;1+0:47,327;1+0:67,327;1+0:48,302",
  "1+0:68,302;3+0:49,303;1+0:69,303;1+0:49,304;1+0:69,304;1+0:49,306;1+0:69,306;1+0:49,328",
  "1+0:69,328;1+0:49,307;4+0:4a,302;1+0:6a,302;1+0:4b,327;1+0:6b,327;2+0:4c,301;1+0:6c,301",
  "1+0:4c,327;1+0:6c,327;1+0:4c,30c;1+0:6c,30c;5+0:4e,301;1+0:6e,301;1+0:4e,327;1+0:6e,327",
  "1+0:4e,30c;1+0:6e,30c;4+0:4f,304;1+0:6f,304;1+0:4f,306;1+0:6f,306;1+0:4f,30b;1+0:6f,30b",
  "3+0:52,301;1+0:72,301;1+0:52,327;1+0:72,327;1+0:52,30c;1+0:72,30c;1+0:53,301;1+0:73,301",
  "1+0:53,302;1+0:73,302;1+0:53,327;1+0:73,327;1+0:53,30c;1+0:73,30c;1+0:54,327;1+0:74,327",
  "1+0:54,30c;1+0:74,30c;3+0:55,303;1+0:75,303;1+0:55,304;1+0:75,304;1+0:55,306;1+0:75,306",
  "1+0:55,30a;1+0:75,30a;1+0:55,30b;1+0:75,30b;1+0:55,328;1+0:75,328;1+0:57,302;1+0:77,302",
  "1+0:59,302;1+0:79,302;1+0:59,308;1+0:5a,301;1+0:7a,301;1+0:5a,307;1+0:7a,307;1+0:5a,30c",
  "1+0:7a,30c;22+0:4f,31b;1+0:6f,31b;e+0:55,31b;1+0:75,31b;1d+0:41,30c;1+0:61,30c;1+0:49,30c",
  "1+0:69,30c;1+0:4f,30c;1+0:6f,30c;1+0:55,30c;1+0:75,30c;1+0:55,308,304;1+0:75,308,304",
  "1+0:55,308,301;1+0:75,308,301;1+0:55,308,30c;1+0:75,308,30c;1+0:55,308,300;1+0:75,308,300",
  "2+0:41,308,304;1+0:61,308,304;1+0:41,307,304;1+0:61,307,304;1+0:c6,304;1+0:e6,304;3+0:47,30c",
  "1+0:67,30c;1+0:4b,30c;1+0:6b,30c;1+0:4f,328;1+0:6f,328;1+0:4f,328,304;1+0:6f,328,304",
  "1+0:1b7,30c;1+0:292,30c;1+0:6a,30c;4+0:47,301;1+0:67,301;3+0:4e,300;1+0:6e,300;1+0:41,30a,301",
  "1+0:61,30a,301;1+0:c6,301;1+0:e6,301;1+0:d8,301;1+0:f8,301;1+0:41,30f;1+0:61,30f;1+0:41,311",
  "1+0:61,311;1+0:45,30f;1+0:65,30f;1+0:45,311;1+0:65,311;1+0:49,30f;1+0:69,30f;1+0:49,311",
  "1+0:69,311;1+0:4f,30f;1+0:6f,30f;1+0:4f,311;1+0:6f,311;1+0:52,30f;1+0:72,30f;1+0:52,311",
  "1+0:72,311;1+0:55,30f;1+0:75,30f;1+0:55,311;1+0:75,311;1+0:53,326;1+0:73,326;1+0:54,326",
  "1+0:74,326;3+0:48,30c;1+0:68,30c;7+0:41,307;1+0:61,307;1+0:45,327;1+0:65,327;1+0:4f,308,304",
  "1+0:6f,308,304;1+0:4f,303,304;1+0:6f,303,304;1+0:4f,307;1+0:6f,307;1+0:4f,307,304",
  "1+0:6f,307,304;1+0:59,304;1+0:79,304;10d+0:300;1+0:301;2+0:313;1+0:308,301;30+0:2b9;a+0:3b",
  "7+0:a8,301;1+0:391,301;1+0:b7;1+0:395,301;1+0:397,301;1+0:399,301;2+0:39f,301;2+0:3a5,301",
  "1+0:3a9,301;1+0:3b9,308,301;1a+0:399,308;1+0:3a5,308;1+0:3b1,301;1+0:3b5,301;1+0:3b7,301",
  "1+0:3b9,301;1+0:3c5,308,301;1a+0:3b9,308;1+0:3c5,308;1+0:3bf,301;1+0:3c5,301;1+0:3c9,301",
  "5+0:3d2,301;1+0:3d2,308;2c+0:415,300;1+0:415,308;2+0:413,301;4+0:406,308;5+0:41a,301",
  "1+0:418,300;1+0:423,306;b+0:418,306;20+0:438,306;17+0:435,300;1+0:435,308;2+0:433,301",
  "4+0:456,308;5+0:43a,301;1+0:438,300;1+0:443,306;18+0:474,30f;1+0:475,30f;4a+0:416,306",
  "1+0:436,306;e+0:410,306;1+0:430,306;1+0:410,308;1+0:430,308;3+0:415,306;1+0:435,306;3+0:4d8,308",
  "1+0:4d9,308;1+0:416,308;1+0:436,308;1+0:417,308;1+0:437,308;3+0:418,304;1+0:438,304;1+0:418,308",
  "1+0:438,308;1+0:41e,308;1+0:43e,308;3+0:4e8,308;1+0:4e9,308;1+0:42d,308;1+0:44d,308;1+0:423,304",
  "1+0:443,304;1+0:423,308;1+0:443,308;1+0:423,30b;1+0:443,30b;1+0:427,308;1+0:447,308;3+0:42b,308",
  "1+0:44b,308;129+0:627,653;1+0:627,654;1+0:648,654;1+0:627,655;1+0:64a,654;9a+0:6d5,654",
  "2+0:6c1,654;11+0:6d2,654;256+0:928,93c;8+0:930,93c;3+0:933,93c;24+0:915,93c;1+0:916,93c",
  "1+0:917,93c;1+0:91c,93c;1+0:921,93c;1+0:922,93c;1+0:92b,93c;1+0:92f,93c;6c+0:9c7,9be",
  "1+0:9c7,9d7;10+0:9a1,9bc;1+0:9a2,9bc;2+0:9af,9bc;54+0:a32,a3c;3+0:a38,a3c;23+0:a16,a3c",
  "1+0:a17,a3c;1+0:a1c,a3c;3+0:a2b,a3c;ea+0:b47,b56;3+0:b47,b3e;1+0:b47,b57;10+0:b21,b3c",
  "1+0:b22,b3c;37+0:b92,bd7;36+0:bc6,bbe;1+0:bc7,bbe;1+0:bc6,bd7;7c+0:c46,c56;78+0:cbf,cd5",
  "7+0:cc6,cd5;1+0:cc6,cd6;2+0:cc6,cc2;1+0:cc6,cc2,cd5;7f+0:d46,d3e;1+0:d47,d3e;1+0:d46,d57",
  "8e+0:dd9,dca;2+0:dd9,dcf;1+0:dd9,dcf,dca;1+0:dd9,ddf;165+0:f42,fb7;a+0:f4c,fb7;5+0:f51,fb7",
  "5+0:f56,fb7;5+0:f5b,fb7;d+0:f40,fb5;a+0:f71,f72;2+0:f71,f74;1+0:fb2,f80;2+0:fb3,f80;9+0:f71,f80",
  "12+0:f92,fb7;a+0:f9c,fb7;5+0:fa1,fb7;5+0:fa6,fb7;5+0:fab,fb7;d+0:f90,fb5;6d+0:1025,102e",
  "ae0+0:1b05,1b35;2+0:1b07,1b35;2+0:1b09,1b35;2+0:1b0b,1b35;2+0:1b0d,1b35;4+0:1b11,1b35",
  "29+0:1b3a,1b35;2+0:1b3c,1b35;3+0:1b3e,1b35;1+0:1b3f,1b35;2+0:1b42,1b35;2bd+0:41,325;1+0:61,325",
  "1+0:42,307;1+0:62,307;1+0:42,323;1+0:62,323;1+0:42,331;1+0:62,331;1+0:43,327,301;1+0:63,327,301",
  "1+0:44,307;1+0:64,307;1+0:44,323;1+0:64,323;1+0:44,331;1+0:64,331;1+0:44,327;1+0:64,327",
  "1+0:44,32d;1+0:64,32d;1+0:45,304,300;1+0:65,304,300;1+0:45,304,301;1+0:65,304,301;1+0:45,32d",
  "1+0:65,32d;1+0:45,330;1+0:65,330;1+0:45,327,306;1+0:65,327,306;1+0:46,307;1+0:66,307;1+0:47,304",
  "1+0:67,304;1+0:48,307;1+0:68,307;1+0:48,323;1+0:68,323;1+0:48,308;1+0:68,308;1+0:48,327",
  "1+0:68,327;1+0:48,32e;1+0:68,32e;1+0:49,330;1+0:69,330;1+0:49,308,301;1+0:69,308,301;1+0:4b,301",
  "1+0:6b,301;1+0:4b,323;1+0:6b,323;1+0:4b,331;1+0:6b,331;1+0:4c,323;1+0:6c,323;1+0:4c,323,304",
  "1+0:6c,323,304;1+0:4c,331;1+0:6c,331;1+0:4c,32d;1+0:6c,32d;1+0:4d,301;1+0:6d,301;1+0:4d,307",
  "1+0:6d,307;1+0:4d,323;1+0:6d,323;1+0:4e,307;1+0:6e,307;1+0:4e,323;1+0:6e,323;1+0:4e,331",
  "1+0:6e,331;1+0:4e,32d;1+0:6e,32d;1+0:4f,303,301;1+0:6f,303,301;1+0:4f,303,308;1+0:6f,303,308",
  "1+0:4f,304,300;1+0:6f,304,300;1+0:4f,304,301;1+0:6f,304,301;1+0:50,301;1+0:70,301;1+0:50,307",
  "1+0:70,307;1+0:52,307;1+0:72,307;1+0:52,323;1+0:72,323;1+0:52,323,304;1+0:72,323,304;1+0:52,331",
  "1+0:72,331;1+0:53,307;1+0:73,307;1+0:53,323;1+0:73,323;1+0:53,301,307;1+0:73,301,307",
  "1+0:53,30c,307;1+0:73,30c,307;1+0:53,323,307;1+0:73,323,307;1+0:54,307;1+0:74,307;1+0:54,323",
  "1+0:74,323;1+0:54,331;1+0:74,331;1+0:54,32d;1+0:74,32d;1+0:55,324;1+0:75,324;1+0:55,330",
  "1+0:75,330;1+0:55,32d;1+0:75,32d;1+0:55,303,301;1+0:75,303,301;1+0:55,304,308;1+0:75,304,308",
  "1+0:56,303;1+0:76,303;1+0:56,323;1+0:76,323;1+0:57,300;1+0:77,300;1+0:57,301;1+0:77,301",
  "1+0:57,308;1+0:77,308;1+0:57,307;1+0:77,307;1+0:57,323;1+0:77,323;1+0:58,307;1+0:78,307",
  "1+0:58,308;1+0:78,308;1+0:59,307;1+0:79,307;1+0:5a,302;1+0:7a,302;1+0:5a,323;1+0:7a,323",
  "1+0:5a,331;1+0:7a,331;1+0:68,331;1+0:74,308;1+0:77,30a;1+0:79,30a;2+0:17f,307;5+0:41,323",
  "1+0:61,323;1+0:41,309;1+0:61,309;1+0:41,302,301;1+0:61,302,301;1+0:41,302,300;1+0:61,302,300",
  "1+0:41,302,309;1+0:61,302,309;1+0:41,302,303;1+0:61,302,303;1+0:41,323,302;1+0:61,323,302",
  "1+0:41,306,301;1+0:61,306,301;1+0:41,306,300;1+0:61,306,300;1+0:41,306,309;1+0:61,306,309",
  "1+0:41,306,303;1+0:61,306,303;1+0:41,323,306;1+0:61,323,306;1+0:45,323;1+0:65,323;1+0:45,309",
  "1+0:65,309;1+0:45,303;1+0:65,303;1+0:45,302,301;1+0:65,302,301;1+0:45,302,300;1+0:65,302,300",
  "1+0:45,302,309;1+0:65,302,309;1+0:45,302,303;1+0:65,302,303;1+0:45,323,302;1+0:65,323,302",
  "1+0:49,309;1+0:69,309;1+0:49,323;1+0:69,323;1+0:4f,323;1+0:6f,323;1+0:4f,309;1+0:6f,309",
  "1+0:4f,302,301;1+0:6f,302,301;1+0:4f,302,300;1+0:6f,302,300;1+0:4f,302,309;1+0:6f,302,309",
  "1+0:4f,302,303;1+0:6f,302,303;1+0:4f,323,302;1+0:6f,323,302;1+0:4f,31b,301;1+0:6f,31b,301",
  "1+0:4f,31b,300;1+0:6f,31b,300;1+0:4f,31b,309;1+0:6f,31b,309;1+0:4f,31b,303;1+0:6f,31b,303",
  "1+0:4f,31b,323;1+0:6f,31b,323;1+0:55,323;1+0:75,323;1+0:55,309;1+0:75,309;1+0:55,31b,301",
  "1+0:75,31b,301;1+0:55,31b,300;1+0:75,31b,300;1+0:55,31b,309;1+0:75,31b,309;1+0:55,31b,303",
  "1+0:75,31b,303;1+0:55,31b,323;1+0:75,31b,323;1+0:59,300;1+0:79,300;1+0:59,323;1+0:79,323",
  "1+0:59,309;1+0:79,309;1+0:59,303;1+0:79,303;7+0:3b1,313;1+0:3b1,314;1+0:3b1,313,300",
  "1+0:3b1,314,300;1+0:3b1,313,301;1+0:3b1,314,301;1+0:3b1,313,342;1+0:3b1,314,342;1+0:391,313",
  "1+0:391,314;1+0:391,313,300;1+0:391,314,300;1+0:391,313,301;1+0:391,314,301;1+0:391,313,342",
  "1+0:391,314,342;1+0:3b5,313;1+0:3b5,314;1+0:3b5,313,300;1+0:3b5,314,300;1+0:3b5,313,301",
  "1+0:3b5,314,301;3+0:395,313;1+0:395,314;1+0:395,313,300;1+0:395,314,300;1+0:395,313,301",
  "1+0:395,314,301;3+0:3b7,313;1+0:3b7,314;1+0:3b7,313,300;1+0:3b7,314,300;1+0:3b7,313,301",
  "1+0:3b7,314,301;1+0:3b7,313,342;1+0:3b7,314,342;1+0:397,313;1+0:397,314;1+0:397,313,300",
  "1+0:397,314,300;1+0:397,313,301;1+0:397,314,301;1+0:397,313,342;1+0:397,314,342;1+0:3b9,313",
  "1+0:3b9,314;1+0:3b9,313,300;1+0:3b9,314,300;1+0:3b9,313,301;1+0:3b9,314,301;1+0:3b9,313,342",
  "1+0:3b9,314,342;1+0:399,313;1+0:399,314;1+0:399,313,300;1+0:399,314,300;1+0:399,313,301",
  "1+0:399,314,301;1+0:399,313,342;1+0:399,314,342;1+0:3bf,313;1+0:3bf,314;1+0:3bf,313,300",
  "1+0:3bf,314,300;1+0:3bf,313,301;1+0:3bf,314,301;3+0:39f,313;1+0:39f,314;1+0:39f,313,300",
  "1+0:39f,314,300;1+0:39f,313,301;1+0:39f,314,301;3+0:3c5,313;1+0:3c5,314;1+0:3c5,313,300",
  "1+0:3c5,314,300;1+0:3c5,313,301;1+0:3c5,314,301;1+0:3c5,313,342;1+0:3c5,314,342;2+0:3a5,314",
  "2+0:3a5,314,300;2+0:3a5,314,301;2+0:3a5,314,342;1+0:3c9,313;1+0:3c9,314;1+0:3c9,313,300",
  "1+0:3c9,314,300;1+0:3c9,313,301;1+0:3c9,314,301;1+0:3c9,313,342;1+0:3c9,314,342;1+0:3a9,313",
  "1+0:3a9,314;1+0:3a9,313,300;1+0:3a9,314,300;1+0:3a9,313,301;1+0:3a9,314,301;1+0:3a9,313,342",
  "1+0:3a9,314,342;1+0:3b1,300;1+0:3b1,301;1+0:3b5,300;1+0:3b5,301;1+0:3b7,300;1+0:3b7,301",
  "1+0:3b9,300;1+0:3b9,301;1+0:3bf,300;1+0:3bf,301;1+0:3c5,300;1+0:3c5,301;1+0:3c9,300;1+0:3c9,301",
  "3+0:3b1,313,345;1+0:3b1,314,345;1+0:3b1,313,300,345;1+0:3b1,314,300,345;1+0:3b1,313,301,345",
  "1+0:3b1,314,301,345;1+0:3b1,313,342,345;1+0:3b1,314,342,345;1+0:391,313,345;1+0:391,314,345",
  "1+0:391,313,300,345;1+0:391,314,300,345;1+0:391,313,301,345;1+0:391,314,301,345",
  "1+0:391,313,342,345;1+0:391,314,342,345;1+0:3b7,313,345;1+0:3b7,314,345;1+0:3b7,313,300,345",
  "1+0:3b7,314,300,345;1+0:3b7,313,301,345;1+0:3b7,314,301,345;1+0:3b7,313,342,345",
  "1+0:3b7,314,342,345;1+0:397,313,345;1+0:397,314,345;1+0:397,313,300,345;1+0:397,314,300,345",
  "1+0:397,313,301,345;1+0:397,314,301,345;1+0:397,313,342,345;1+0:397,314,342,345;1+0:3c9,313,345",
  "1+0:3c9,314,345;1+0:3c9,313,300,345;1+0:3c9,314,300,345;1+0:3c9,313,301,345;1+0:3c9,314,301,345",
  "1+0:3c9,313,342,345;1+0:3c9,314,342,345;1+0:3a9,313,345;1+0:3a9,314,345;1+0:3a9,313,300,345",
  "1+0:3a9,314,300,345;1+0:3a9,313,301,345;1+0:3a9,314,301,345;1+0:3a9,313,342,345",
  "1+0:3a9,314,342,345;1+0:3b1,306;1+0:3b1,304;1+0:3b1,300,345;1+0:3b1,345;1+0:3b1,301,345",
  "2+0:3b1,342;1+0:3b1,342,345;1+0:391,306;1+0:391,304;1+0:391,300;1+0:391,301;1+0:391,345;2+0:3b9",
  "3+0:a8,342;1+0:3b7,300,345;1+0:3b7,345;1+0:3b7,301,345;2+0:3b7,342;1+0:3b7,342,345;1+0:395,300",
  "1+0:395,301;1+0:397,300;1+0:397,301;1+0:397,345;1+0:1fbf,300;1+0:1fbf,301;1+0:1fbf,342",
  "1+0:3b9,306;1+0:3b9,304;1+0:3b9,308,300;1+0:3b9,308,301;3+0:3b9,342;1+0:3b9,308,342;1+0:399,306",
  "1+0:399,304;1+0:399,300;1+0:399,301;2+0:1ffe,300;1+0:1ffe,301;1+0:1ffe,342;1+0:3c5,306",
  "1+0:3c5,304;1+0:3c5,308,300;1+0:3c5,308,301;1+0:3c1,313;1+0:3c1,314;1+0:3c5,342;1+0:3c5,308,342",
  "1+0:3a5,306;1+0:3a5,304;1+0:3a5,300;1+0:3a5,301;1+0:3a1,314;1+0:a8,300;1+0:a8,301;1+0:60",
  "3+0:3c9,300,345;1+0:3c9,345;1+0:3c9,301,345;2+0:3c9,342;1+0:3c9,342,345;1+0:39f,300;1+0:39f,301",
  "1+0:3a9,300;1+0:3a9,301;1+0:3a9,345;1+0:b4;3+0:2002;1+0:2003;125+0:3a9;4+0:4b;1+0:41,30a",
  "6f+0:2190,338;1+0:2192,338;13+0:2194,338;1f+0:21d0,338;1+0:21d4,338;1+0:21d2,338;35+0:2203,338",
  "5+0:2208,338;3+0:220b,338;18+0:2223,338;2+0:2225,338;1b+0:223c,338;3+0:2243,338;3+0:2245,338",
  "2+0:2248,338;17+0:3d,338;2+0:2261,338;b+0:224d,338;1+0:3c,338;1+0:3e,338;1+0:2264,338",
  "1+0:2265,338;3+0:2272,338;1+0:2273,338;3+0:2276,338;1+0:2277,338;7+0:227a,338;1+0:227b,338",
  "3+0:2282,338;1+0:2283,338;3+0:2286,338;1+0:2287,338;23+0:22a2,338;1+0:22a8,338;1+0:22a9,338",
  "1+0:22ab,338;31+0:227c,338;1+0:227d,338;1+0:2291,338;1+0:2292,338;7+0:22b2,338;1+0:22b3,338",
  "1+0:22b4,338;1+0:22b5,338;3c+0:3008;1+0:3009;7b2+0:2add,338;570+0:304b,3099;2+0:304d,3099",
  "2+0:304f,3099;2+0:3051,3099;2+0:3053,3099;2+0:3055,3099;2+0:3057,3099;2+0:3059,3099",
  "2+0:305b,3099;2+0:305d,3099;2+0:305f,3099;2+0:3061,3099;3+0:3064,3099;2+0:3066,3099",
  "2+0:3068,3099;7+0:306f,3099;1+0:306f,309a;2+0:3072,3099;1+0:3072,309a;2+0:3075,3099",
  "1+0:3075,309a;2+0:3078,3099;1+0:3078,309a;2+0:307b,3099;1+0:307b,309a;17+0:3046,3099",
  "a+0:309d,3099;e+0:30ab,3099;2+0:30ad,3099;2+0:30af,3099;2+0:30b1,3099;2+0:30b3,3099",
  "2+0:30b5,3099;2+0:30b7,3099;2+0:30b9,3099;2+0:30bb,3099;2+0:30bd,3099;2+0:30bf,3099",
  "2+0:30c1,3099;3+0:30c4,3099;2+0:30c6,3099;2+0:30c8,3099;7+0:30cf,3099;1+0:30cf,309a",
  "2+0:30d2,3099;1+0:30d2,309a;2+0:30d5,3099;1+0:30d5,309a;2+0:30d8,3099;1+0:30d8,309a",
  "2+0:30db,3099;1+0:30db,309a;17+0:30a6,3099;3+0:30ef,3099;1+0:30f0,3099;1+0:30f1,3099",
  "1+0:30f2,3099;4+0:30fd,3099;c802+0:8c48;1+0:66f4;1+0:8eca;1+0:8cc8;1+0:6ed1;1+0:4e32;1+0:53e5",
  "1+0:9f9c;1+0:9f9c;1+0:5951;1+0:91d1;1+0:5587;1+0:5948;1+0:61f6;1+0:7669;1+0:7f85;1+0:863f",
  "1+0:87ba;1+0:88f8;1+0:908f;1+0:6a02;1+0:6d1b;1+0:70d9;1+0:73de;1+0:843d;1+0:916a;1+0:99f1",
  "1+0:4e82;1+0:5375;1+0:6b04;1+0:721b;1+0:862d;1+0:9e1e;1+0:5d50;1+0:6feb;1+0:85cd;1+0:8964",
  "1+0:62c9;1+0:81d8;1+0:881f;1+0:5eca;1+0:6717;1+0:6d6a;1+0:72fc;1+0:90ce;1+0:4f86;1+0:51b7",
  "1+0:52de;1+0:64c4;1+0:6ad3;1+0:7210;1+0:76e7;1+0:8001;1+0:8606;1+0:865c;1+0:8def;1+0:9732",
  "1+0:9b6f;1+0:9dfa;1+0:788c;1+0:797f;1+0:7da0;1+0:83c9;1+0:9304;1+0:9e7f;1+0:8ad6;1+0:58df",
  "1+0:5f04;1+0:7c60;1+0:807e;1+0:7262;1+0:78ca;1+0:8cc2;1+0:96f7;1+0:58d8;1+0:5c62;1+0:6a13",
  "1+0:6dda;1+0:6f0f;1+0:7d2f;1+0:7e37;1+0:964b;1+0:52d2;1+0:808b;1+0:51dc;1+0:51cc;1+0:7a1c",
  "1+0:7dbe;1+0:83f1;1+0:9675;1+0:8b80;1+0:62cf;1+0:6a02;1+0:8afe;1+0:4e39;1+0:5be7;1+0:6012",
  "1+0:7387;1+0:7570;1+0:5317;1+0:78fb;1+0:4fbf;1+0:5fa9;1+0:4e0d;1+0:6ccc;1+0:6578;1+0:7d22",
  "1+0:53c3;1+0:585e;1+0:7701;1+0:8449;1+0:8aaa;1+0:6bba;1+0:8fb0;1+0:6c88;1+0:62fe;1+0:82e5",
  "1+0:63a0;1+0:7565;1+0:4eae;1+0:5169;1+0:51c9;1+0:6881;1+0:7ce7;1+0:826f;1+0:8ad2;1+0:91cf",
  "1+0:52f5;1+0:5442;1+0:5973;1+0:5eec;1+0:65c5;1+0:6ffe;1+0:792a;1+0:95ad;1+0:9a6a;1+0:9e97",
  "1+0:9ece;1+0:529b;1+0:66c6;1+0:6b77;1+0:8f62;1+0:5e74;1+0:6190;1+0:6200;1+0:649a;1+0:6f23",
  "1+0:7149;1+0:7489;1+0:79ca;1+0:7df4;1+0:806f;1+0:8f26;1+0:84ee;1+0:9023;1+0:934a;1+0:5217",
  "1+0:52a3;1+0:54bd;1+0:70c8;1+0:88c2;1+0:8aaa;1+0:5ec9;1+0:5ff5;1+0:637b;1+0:6bae;1+0:7c3e",
  "1+0:7375;1+0:4ee4;1+0:56f9;1+0:5be7;1+0:5dba;1+0:601c;1+0:73b2;1+0:7469;1+0:7f9a;1+0:8046",
  "1+0:9234;1+0:96f6;1+0:9748;1+0:9818;1+0:4f8b;1+0:79ae;1+0:91b4;1+0:96b8;1+0:60e1;1+0:4e86",
  "1+0:50da;1+0:5bee;1+0:5c3f;1+0:6599;1+0:6a02;1+0:71ce;1+0:7642;1+0:84fc;1+0:907c;1+0:9f8d",
  "1+0:6688;1+0:962e;1+0:5289;1+0:677b;1+0:67f3;1+0:6d41;1+0:6e9c;1+0:7409;1+0:7559;1+0:786b",
  "1+0:7d10;1+0:985e;1+0:516d;1+0:622e;1+0:9678;1+0:502b;1+0:5d19;1+0:6dea;1+0:8f2a;1+0:5f8b",
  "1+0:6144;1+0:6817;1+0:7387;1+0:9686;1+0:5229;1+0:540f;1+0:5c65;1+0:6613;1+0:674e;1+0:68a8",
  "1+0:6ce5;1+0:7406;1+0:75e2;1+0:7f79;1+0:88cf;1+0:88e1;1+0:91cc;1+0:96e2;1+0:533f;1+0:6eba",
  "1+0:541d;1+0:71d0;1+0:7498;1+0:85fa;1+0:96a3;1+0:9c57;1+0:9e9f;1+0:6797;1+0:6dcb;1+0:81e8",
  "1+0:7acb;1+0:7b20;1+0:7c92;1+0:72c0;1+0:7099;1+0:8b58;1+0:4ec0;1+0:8336;1+0:523a;1+0:5207",
  "1+0:5ea6;1+0:62d3;1+0:7cd6;1+0:5b85;1+0:6d1e;1+0:66b4;1+0:8f3b;1+0:884c;1+0:964d;1+0:898b",
  "1+0:5ed3;1+0:5140;1+0:55c0;3+0:585a;2+0:6674;3+0:51de;1+0:732a;1+0:76ca;1+0:793c;1+0:795e",
  "1+0:7965;1+0:798f;1+0:9756;1+0:7cbe;1+0:7fbd;2+0:8612;2+0:8af8;3+0:9038;1+0:90fd;4+0:98ef",
  "1+0:98fc;1+0:9928;1+0:9db4;1+0:90de;1+0:96b7;1+0:4fae;1+0:50e7;1+0:514d;1+0:52c9;1+0:52e4",
  "1+0:5351;1+0:559d;1+0:5606;1+0:5668;1+0:5840;1+0:58a8;1+0:5c64;1+0:5c6e;1+0:6094;1+0:6168",
  "1+0:618e;1+0:61f2;1+0:654f;1+0:65e2;1+0:6691;1+0:6885;1+0:6d77;1+0:6e1a;1+0:6f22;1+0:716e",
  "1+0:722b;1+0:7422;1+0:7891;1+0:793e;1+0:7949;1+0:7948;1+0:7950;1+0:7956;1+0:795d;1+0:798d",
  "1+0:798e;1+0:7a40;1+0:7a81;1+0:7bc0;1+0:7df4;1+0:7e09;1+0:7e41;1+0:7f72;1+0:8005;1+0:81ed",
  "1+0:8279;1+0:8279;1+0:8457;1+0:8910;1+0:8996;1+0:8b01;1+0:8b39;1+0:8cd3;1+0:8d08;1+0:8fb6",
  "1+0:9038;1+0:96e3;1+0:97ff;1+0:983b;1+0:6075;1+0:242ee;1+0:8218;3+0:4e26;1+0:51b5;1+0:5168",
  "1+0:4f80;1+0:5145;1+0:5180;1+0:52c7;1+0:52fa;1+0:559d;1+0:5555;1+0:5599;1+0:55e2;1+0:585a",
  "1+0:58b3;1+0:5944;1+0:5954;1+0:5a62;1+0:5b28;1+0:5ed2;1+0:5ed9;1+0:5f69;1+0:5fad;1+0:60d8",
  "1+0:614e;1+0:6108;1+0:618e;1+0:6160;1+0:61f2;1+0:6234;1+0:63c4;1+0:641c;1+0:6452;1+0:6556",
  "1+0:6674;1+0:6717;1+0:671b;1+0:6756;1+0:6b79;1+0:6bba;1+0:6d41;1+0:6edb;1+0:6ecb;1+0:6f22",
  "1+0:701e;1+0:716e;1+0:77a7;1+0:7235;1+0:72af;1+0:732a;1+0:7471;1+0:7506;1+0:753b;1+0:761d",
  "1+0:761f;1+0:76ca;1+0:76db;1+0:76f4;1+0:774a;1+0:7740;1+0:78cc;1+0:7ab1;1+0:7bc0;1+0:7c7b",
  "1+0:7d5b;1+0:7df4;1+0:7f3e;1+0:8005;1+0:8352;1+0:83ef;1+0:8779;1+0:8941;1+0:8986;1+0:8996",
  "1+0:8abf;1+0:8af8;1+0:8acb;1+0:8b01;1+0:8afe;1+0:8aed;1+0:8b39;1+0:8b8a;1+0:8d08;1+0:8f38",
  "1+0:9072;1+0:9199;1+0:9276;1+0:967c;1+0:96e3;1+0:9756;1+0:97db;1+0:97ff;1+0:980b;1+0:983b",
  "1+0:9b12;1+0:9f9c;1+0:2284a;1+0:22844;1+0:233d5;1+0:3b9d;1+0:4018;1+0:4039;1+0:25249;1+0:25cd0",
  "1+0:27ed3;1+0:9f43;1+0:9f8e;44+0:5d9,5b4;2+0:5f2,5b7;b+0:5e9,5c1;1+0:5e9,5c2;1+0:5e9,5bc,5c1",
  "1+0:5e9,5bc,5c2;1+0:5d0,5b7;1+0:5d0,5b8;1+0:5d0,5bc;1+0:5d1,5bc;1+0:5d2,5bc;1+0:5d3,5bc",
  "1+0:5d4,5bc;1+0:5d5,5bc;1+0:5d6,5bc;2+0:5d8,5bc;1+0:5d9,5bc;1+0:5da,5bc;1+0:5db,5bc;1+0:5dc,5bc",
  "2+0:5de,5bc;2+0:5e0,5bc;1+0:5e1,5bc;2+0:5e3,5bc;1+0:5e4,5bc;2+0:5e6,5bc;1+0:5e7,5bc;1+0:5e8,5bc",
  "1+0:5e9,5bc;1+0:5ea,5bc;1+0:5d5,5b9;1+0:5d1,5bf;1+0:5db,5bf;1+0:5e4,5bf;a7b+0:105d2,307",
  "1b+0:105da,307;ab6+0:11099,110ba;2+0:1109b,110ba;f+0:110a5,110ba;83+0:11131,11127",
  "1+0:11132,11127;21c+0:11347,1133e;1+0:11347,11357;37+0:11382,113c9;2+0:11384,113bb",
  "9+0:1138b,113c2;3+0:11390,113c9;34+0:113c2,113c2;2+0:113c2,113b8;1+0:113c2,113c9",
  "f3+0:114b9,114ba;1+0:114b9,114b0;2+0:114b9,114bd;fc+0:115b8,115af;1+0:115b9,115af",
  "37d+0:11935,11930;47e9+0:1611e,1611e;1+0:1611e,16129;1+0:1611e,1611f;1+0:16129,1611f",
  "1+0:1611e,16120;1+0:1611e,1611e,1611f;1+0:1611e,16129,1611f;1+0:1611e,1611e,16120",
  "c40+0:16d67,16d67;1+0:16d63,16d67;1+0:16d63,16d67,16d67;63f4+0:1d157,1d165;1+0:1d158,1d165",
  "1+0:1d158,1d165,1d16e;1+0:1d158,1d165,1d16f;1+0:1d158,1d165,1d170;1+0:1d158,1d165,1d171",
  "1+0:1d158,1d165,1d172;57+0:1d1b9,1d165;1+0:1d1ba,1d165;1+0:1d1b9,1d165,1d16e",
  "1+0:1d1ba,1d165,1d16e;1+0:1d1b9,1d165,1d16f;1+0:1d1ba,1d165,1d16f;12640+0:4e3d;1+0:4e38",
  "1+0:4e41;1+0:20122;1+0:4f60;1+0:4fae;1+0:4fbb;1+0:5002;1+0:507a;1+0:5099;1+0:50e7;1+0:50cf",
  "1+0:349e;1+0:2063a;1+0:514d;1+0:5154;1+0:5164;1+0:5177;1+0:2051c;1+0:34b9;1+0:5167;1+0:518d",
  "1+0:2054b;1+0:5197;1+0:51a4;1+0:4ecc;1+0:51ac;1+0:51b5;1+0:291df;1+0:51f5;1+0:5203;1+0:34df",
  "1+0:523b;1+0:5246;1+0:5272;1+0:5277;1+0:3515;1+0:52c7;1+0:52c9;1+0:52e4;1+0:52fa;1+0:5305",
  "1+0:5306;1+0:5317;1+0:5349;1+0:5351;1+0:535a;1+0:5373;1+0:537d;1+0:537f;1+0:537f;1+0:537f",
  "1+0:20a2c;1+0:7070;1+0:53ca;1+0:53df;1+0:20b63;1+0:53eb;1+0:53f1;1+0:5406;1+0:549e;1+0:5438",
  "1+0:5448;1+0:5468;1+0:54a2;1+0:54f6;1+0:5510;1+0:5553;1+0:5563;1+0:5584;1+0:5584;1+0:5599",
  "1+0:55ab;1+0:55b3;1+0:55c2;1+0:5716;1+0:5606;1+0:5717;1+0:5651;1+0:5674;1+0:5207;1+0:58ee",
  "1+0:57ce;1+0:57f4;1+0:580d;1+0:578b;1+0:5832;1+0:5831;1+0:58ac;1+0:214e4;1+0:58f2;1+0:58f7",
  "1+0:5906;1+0:591a;1+0:5922;1+0:5962;1+0:216a8;1+0:216ea;1+0:59ec;1+0:5a1b;1+0:5a27;1+0:59d8",
  "1+0:5a66;1+0:36ee;1+0:36fc;1+0:5b08;1+0:5b3e;1+0:5b3e;1+0:219c8;1+0:5bc3;1+0:5bd8;1+0:5be7",
  "1+0:5bf3;1+0:21b18;1+0:5bff;1+0:5c06;1+0:5f53;1+0:5c22;1+0:3781;1+0:5c60;1+0:5c6e;1+0:5cc0",
  "1+0:5c8d;1+0:21de4;1+0:5d43;1+0:21de6;1+0:5d6e;1+0:5d6b;1+0:5d7c;1+0:5de1;1+0:5de2;1+0:382f",
  "1+0:5dfd;1+0:5e28;1+0:5e3d;1+0:5e69;1+0:3862;1+0:22183;1+0:387c;1+0:5eb0;1+0:5eb3;1+0:5eb6",
  "1+0:5eca;1+0:2a392;1+0:5efe;1+0:22331;1+0:22331;1+0:8201;1+0:5f22;1+0:5f22;1+0:38c7;1+0:232b8",
  "1+0:261da;1+0:5f62;1+0:5f6b;1+0:38e3;1+0:5f9a;1+0:5fcd;1+0:5fd7;1+0:5ff9;1+0:6081;1+0:393a",
  "1+0:391c;1+0:6094;1+0:226d4;1+0:60c7;1+0:6148;1+0:614c;1+0:614e;1+0:614c;1+0:617a;1+0:618e",
  "1+0:61b2;1+0:61a4;1+0:61af;1+0:61de;1+0:61f2;1+0:61f6;1+0:6210;1+0:621b;1+0:625d;1+0:62b1",
  "1+0:62d4;1+0:6350;1+0:22b0c;1+0:633d;1+0:62fc;1+0:6368;1+0:6383;1+0:63e4;1+0:22bf1;1+0:6422",
  "1+0:63c5;1+0:63a9;1+0:3a2e;1+0:6469;1+0:647e;1+0:649d;1+0:6477;1+0:3a6c;1+0:654f;1+0:656c",
  "1+0:2300a;1+0:65e3;1+0:66f8;1+0:6649;1+0:3b19;1+0:6691;1+0:3b08;1+0:3ae4;1+0:5192;1+0:5195",
  "1+0:6700;1+0:669c;1+0:80ad;1+0:43d9;1+0:6717;1+0:671b;1+0:6721;1+0:675e;1+0:6753;1+0:233c3",
  "1+0:3b49;1+0:67fa;1+0:6785;1+0:6852;1+0:6885;1+0:2346d;1+0:688e;1+0:681f;1+0:6914;1+0:3b9d",
  "1+0:6942;1+0:69a3;1+0:69ea;1+0:6aa8;1+0:236a3;1+0:6adb;1+0:3c18;1+0:6b21;1+0:238a7;1+0:6b54",
  "1+0:3c4e;1+0:6b72;1+0:6b9f;1+0:6bba;1+0:6bbb;1+0:23a8d;1+0:21d0b;1+0:23afa;1+0:6c4e;1+0:23cbc",
  "1+0:6cbf;1+0:6ccd;1+0:6c67;1+0:6d16;1+0:6d3e;1+0:6d77;1+0:6d41;1+0:6d69;1+0:6d78;1+0:6d85",
  "1+0:23d1e;1+0:6d34;1+0:6e2f;1+0:6e6e;1+0:3d33;1+0:6ecb;1+0:6ec7;1+0:23ed1;1+0:6df9;1+0:6f6e",
  "1+0:23f5e;1+0:23f8e;1+0:6fc6;1+0:7039;1+0:701e;1+0:701b;1+0:3d96;1+0:704a;1+0:707d;1+0:7077",
  "1+0:70ad;1+0:20525;1+0:7145;1+0:24263;1+0:719c;1+0:243ab;1+0:7228;1+0:7235;1+0:7250;1+0:24608",
  "1+0:7280;1+0:7295;1+0:24735;1+0:24814;1+0:737a;1+0:738b;1+0:3eac;1+0:73a5;1+0:3eb8;1+0:3eb8",
  "1+0:7447;1+0:745c;1+0:7471;1+0:7485;1+0:74ca;1+0:3f1b;1+0:7524;1+0:24c36;1+0:753e;1+0:24c92",
  "1+0:7570;1+0:2219f;1+0:7610;1+0:24fa1;1+0:24fb8;1+0:25044;1+0:3ffc;1+0:4008;1+0:76f4;1+0:250f3",
  "1+0:250f2;1+0:25119;1+0:25133;1+0:771e;1+0:771f;1+0:771f;1+0:774a;1+0:4039;1+0:778b;1+0:4046",
  "1+0:4096;1+0:2541d;1+0:784e;1+0:788c;1+0:78cc;1+0:40e3;1+0:25626;1+0:7956;1+0:2569a;1+0:256c5",
  "1+0:798f;1+0:79eb;1+0:412f;1+0:7a40;1+0:7a4a;1+0:7a4f;1+0:2597c;1+0:25aa7;1+0:25aa7;1+0:7aee",
  "1+0:4202;1+0:25bab;1+0:7bc6;1+0:7bc9;1+0:4227;1+0:25c80;1+0:7cd2;1+0:42a0;1+0:7ce8;1+0:7ce3",
  "1+0:7d00;1+0:25f86;1+0:7d63;1+0:4301;1+0:7dc7;1+0:7e02;1+0:7e45;1+0:4334;1+0:26228;1+0:26247",
  "1+0:4359;1+0:262d9;1+0:7f7a;1+0:2633e;1+0:7f95;1+0:7ffa;1+0:8005;1+0:264da;1+0:26523;1+0:8060",
  "1+0:265a8;1+0:8070;1+0:2335f;1+0:43d5;1+0:80b2;1+0:8103;1+0:440b;1+0:813e;1+0:5ab5;1+0:267a7",
  "1+0:267b5;1+0:23393;1+0:2339c;1+0:8201;1+0:8204;1+0:8f9e;1+0:446b;1+0:8291;1+0:828b;1+0:829d",
  "1+0:52b3;1+0:82b1;1+0:82b3;1+0:82bd;1+0:82e6;1+0:26b3c;1+0:82e5;1+0:831d;1+0:8363;1+0:83ad",
  "1+0:8323;1+0:83bd;1+0:83e7;1+0:8457;1+0:8353;1+0:83ca;1+0:83cc;1+0:83dc;1+0:26c36;1+0:26d6b",
  "1+0:26cd5;1+0:452b;1+0:84f1;1+0:84f3;1+0:8516;1+0:273ca;1+0:8564;1+0:26f2c;1+0:455d;1+0:4561",
  "1+0:26fb1;1+0:270d2;1+0:456b;1+0:8650;1+0:865c;1+0:8667;1+0:8669;1+0:86a9;1+0:8688;1+0:870e",
  "1+0:86e2;1+0:8779;1+0:8728;1+0:876b;1+0:8786;1+0:45d7;1+0:87e1;1+0:8801;1+0:45f9;1+0:8860",
  "1+0:8863;1+0:27667;1+0:88d7;1+0:88de;1+0:4635;1+0:88fa;1+0:34bb;1+0:278ae;1+0:27966;1+0:46be",
  "1+0:46c7;1+0:8aa0;1+0:8aed;1+0:8b8a;1+0:8c55;1+0:27ca8;1+0:8cab;1+0:8cc1;1+0:8d1b;1+0:8d77",
  "1+0:27f2f;1+0:20804;1+0:8dcb;1+0:8dbc;1+0:8df0;1+0:208de;1+0:8ed4;1+0:8f38;1+0:285d2;1+0:285ed",
  "1+0:9094;1+0:90f1;1+0:9111;1+0:2872e;1+0:911b;1+0:9238;1+0:92d7;1+0:92d8;1+0:927c;1+0:93f9",
  "1+0:9415;1+0:28bfa;1+0:958b;1+0:4995;1+0:95b7;1+0:28d77;1+0:49e6;1+0:96c3;1+0:5db2;1+0:9723",
  "1+0:29145;1+0:2921a;1+0:4a6e;1+0:4a76;1+0:97e0;1+0:2940a;1+0:4ab2;1+0:29496;1+0:980b;1+0:980b",
  "1+0:9829;1+0:295b6;1+0:98e2;1+0:4b33;1+0:9929;1+0:99a7;1+0:99c2;1+0:99fe;1+0:4bce;1+0:29b30",
  "1+0:9b12;1+0:9c40;1+0:9cfd;1+0:4cce;1+0:4ced;1+0:9d67;1+0:2a0ce;1+0:4cf8;1+0:2a105;1+0:2a20e",
  "1+0:2a291;1+0:9ebb;1+0:4d56;1+0:9ef9;1+0:9efe;1+0:9f05;1+0:9f0f;1+0:9f16;1+0:9f3b;1+0:2a600" ]

/-- Primary composites, one pair key per span. -/
def compositionLines : List String := [
  "3fc0338+0:226e;110000+0:2260;110000+0:226f;32ffc8+0:c0;1+0:c1;1+0:c2;1+0:c3;1+0:100;2+0:102",
  "1+0:226;1+0:c4;1+0:1ea2;1+0:c5;2+0:1cd;3+0:200;2+0:202;12+0:1ea0;2+0:1e00;3+0:104;10ffdf+0:1e02",
  "1c+0:1e04;e+0:1e06;10ffd0+0:106;1+0:108;5+0:10a;5+0:10c;1b+0:c7;10ffe0+0:1e0a;5+0:10e;17+0:1e0c",
  "4+0:1e10;6+0:1e12;4+0:1e0e;10ffcf+0:c8;1+0:c9;1+0:ca;1+0:1ebc;1+0:112;2+0:114;1+0:116;1+0:cb",
  "1+0:1eba;3+0:11a;3+0:204;2+0:206;12+0:1eb8;4+0:228;1+0:118;5+0:1e18;3+0:1e1a;10ffd7+0:1e1e",
  "10fffa+0:1f4;1+0:11c;2+0:1e20;2+0:11e;1+0:120;5+0:1e6;1b+0:122;10ffdb+0:124;5+0:1e22;1+0:1e26",
  "4+0:21e;17+0:1e24;4+0:1e28;7+0:1e2a;10ffd2+0:cc;1+0:cd;1+0:ce;1+0:128;1+0:12a;2+0:12c;1+0:130",
  "1+0:cf;1+0:1ec8;3+0:1cf;3+0:208;2+0:20a;12+0:1eca;5+0:12e;8+0:1e2c;10ffd2+0:134;10ffff+0:1e30",
  "b+0:1e8;17+0:1e32;4+0:136;a+0:1e34;10ffd0+0:139;b+0:13d;17+0:1e36;4+0:13b;6+0:1e3c;4+0:1e3a",
  "10ffd0+0:1e3e;6+0:1e40;1c+0:1e42;10ffdd+0:1f8;1+0:143;2+0:d1;4+0:1e44;5+0:147;17+0:1e46;4+0:145",
  "6+0:1e4a;4+0:1e48;10ffcf+0:d2;1+0:d3;1+0:d4;1+0:d5;1+0:14c;2+0:14e;1+0:22e;1+0:d6;1+0:1ece",
  "2+0:150;1+0:1d1;3+0:20c;2+0:20e;a+0:1a0;8+0:1ecc;5+0:1ea;10ffd9+0:1e54;6+0:1e56;21fffa+0:154",
  "6+0:1e58;5+0:158;3+0:210;2+0:212;12+0:1e5a;4+0:156;a+0:1e5e;10ffd0+0:15a;1+0:15c;5+0:1e60",
  "5+0:160;17+0:1e62;3+0:218;1+0:15e;10ffe0+0:1e6a;5+0:164;17+0:1e6c;3+0:21a;1+0:162;6+0:1e70",
  "4+0:1e6e;10ffcf+0:d9;1+0:da;1+0:db;1+0:168;1+0:16a;2+0:16c;2+0:dc;1+0:1ee6;1+0:16e;1+0:170",
  "1+0:1d3;3+0:214;2+0:216;a+0:1af;8+0:1ee4;1+0:1e72;4+0:172;5+0:1e76;3+0:1e74;10ffd3+0:1e7c",
  "20+0:1e7e;10ffdd+0:1e80;1+0:1e82;1+0:174;5+0:1e86;1+0:1e84;1b+0:1e88;10ffe4+0:1e8a;1+0:1e8c",
  "10fff8+0:1ef2;1+0:dd;1+0:176;1+0:1ef8;1+0:232;3+0:1e8e;1+0:178;1+0:1ef6;1a+0:1ef4;10ffde+0:179",
  "1+0:1e90;5+0:17b;5+0:17d;17+0:1e92;e+0:1e94;76ffcf+0:e0;1+0:e1;1+0:e2;1+0:e3;1+0:101;2+0:103",
  "1+0:227;1+0:e4;1+0:1ea3;1+0:e5;2+0:1ce;3+0:201;2+0:203;12+0:1ea1;2+0:1e01;3+0:105;10ffdf+0:1e03",
  "1c+0:1e05;e+0:1e07;10ffd0+0:107;1+0:109;5+0:10b;5+0:10d;1b+0:e7;10ffe0+0:1e0b;5+0:10f;17+0:1e0d",
  "4+0:1e11;6+0:1e13;4+0:1e0f;10ffcf+0:e8;1+0:e9;1+0:ea;1+0:1ebd;1+0:113;2+0:115;1+0:117;1+0:eb",
  "1+0:1ebb;3+0:11b;3+0:205;2+0:207;12+0:1eb9;4+0:229;1+0:119;5+0:1e19;3+0:1e1b;10ffd7+0:1e1f",
  "10fffa+0:1f5;1+0:11d;2+0:1e21;2+0:11f;1+0:121;5+0:1e7;1b+0:123;10ffdb+0:125;5+0:1e23;1+0:1e27",
  "4+0:21f;17+0:1e25;4+0:1e29;7+0:1e2b;3+0:1e96;10ffcf+0:ec;1+0:ed;1+0:ee;1+0:129;1+0:12b;2+0:12d",
  "2+0:ef;1+0:1ec9;3+0:1d0;3+0:209;2+0:20b;12+0:1ecb;5+0:12f;8+0:1e2d;10ffd2+0:135;a+0:1f0",
  "10fff5+0:1e31;b+0:1e9;17+0:1e33;4+0:137;a+0:1e35;10ffd0+0:13a;b+0:13e;17+0:1e37;4+0:13c",
  "6+0:1e3d;4+0:1e3b;10ffd0+0:1e3f;6+0:1e41;1c+0:1e43;10ffdd+0:1f9;1+0:144;2+0:f1;4+0:1e45;5+0:148",
  "17+0:1e47;4+0:146;6+0:1e4b;4+0:1e49;10ffcf+0:f2;1+0:f3;1+0:f4;1+0:f5;1+0:14d;2+0:14f;1+0:22f",
  "1+0:f6;1+0:1ecf;2+0:151;1+0:1d2;3+0:20d;2+0:20f;a+0:1a1;8+0:1ecd;5+0:1eb;10ffd9+0:1e55;6+0:1e57",
  "21fffa+0:155;6+0:1e59;5+0:159;3+0:211;2+0:213;12+0:1e5b;4+0:157;a+0:1e5f;10ffd0+0:15b;1+0:15d",
  "5+0:1e61;5+0:161;17+0:1e63;3+0:219;1+0:15f;10ffe0+0:1e6b;1+0:1e97;4+0:165;17+0:1e6d;3+0:21b",
  "1+0:163;6+0:1e71;4+0:1e6f;10ffcf+0:f9;1+0:fa;1+0:fb;1+0:169;1+0:16b;2+0:16d;2+0:fc;1+0:1ee7",
  "1+0:16f;1+0:171;1+0:1d4;3+0:215;2+0:217;a+0:1b0;8+0:1ee5;1+0:1e73;4+0:173;5+0:1e77;3+0:1e75",
  "10ffd3+0:1e7d;20+0:1e7f;10ffdd+0:1e81;1+0:1e83;1+0:175;5+0:1e87;1+0:1e85;2+0:1e98;19+0:1e89",
  "10ffe4+0:1e8b;1+0:1e8d;10fff8+0:1ef3;1+0:fd;1+0:177;1+0:1ef9;1+0:233;3+0:1e8f;1+0:ff;1+0:1ef7",
  "1+0:1e99;19+0:1ef5;10ffde+0:17a;1+0:1e91;5+0:17c;5+0:17e;17+0:1e93;e+0:1e95;30dffcf+0:1fed",
  "1+0:385;41+0:1fc1;1b9ffbe+0:1ea6;1+0:1ea4;2+0:1eaa;6+0:1ea8;21fffb+0:1de;10fffd+0:1fa",
  "110000+0:1fc;3+0:1e2;10fffd+0:1e08;32ffff+0:1ec0;1+0:1ebe;2+0:1ec4;6+0:1ec2;54fff8+0:1e2e",
  "54ffff+0:1ed2;1+0:1ed0;2+0:1ed6;6+0:1ed4;10fff8+0:1e4c;3+0:22c;4+0:1e4e;10fffc+0:22a",
  "21fffd+0:1fe;43ffff+0:1db;1+0:1d7;3+0:1d5;8+0:1d9;65fff4+0:1ea7;1+0:1ea5;2+0:1eab;6+0:1ea9",
  "21fffb+0:1df;10fffd+0:1fb;110000+0:1fd;3+0:1e3;10fffd+0:1e09;32ffff+0:1ec1;1+0:1ebf;2+0:1ec5",
  "6+0:1ec3;54fff8+0:1e2f;54ffff+0:1ed3;1+0:1ed1;2+0:1ed7;6+0:1ed5;10fff8+0:1e4d;3+0:22d;4+0:1e4f",
  "10fffc+0:22b;21fffd+0:1ff;43ffff+0:1dc;1+0:1d8;3+0:1d6;8+0:1da;65fff4+0:1eb0;1+0:1eae;2+0:1eb4",
  "6+0:1eb2;10fff7+0:1eb1;1+0:1eaf;2+0:1eb5;6+0:1eb3;fefff7+0:1e14;1+0:1e16;10ffff+0:1e15;1+0:1e17",
  "3c8ffff+0:1e50;1+0:1e52;10ffff+0:1e51;1+0:1e53;dd0006+0:1e64;110000+0:1e65;550000+0:1e66",
  "110000+0:1e67;76fffa+0:1e78;110000+0:1e79;110007+0:1e7a;110000+0:1e7b;153ffff+0:1e9b",
  "230fff9+0:1edc;1+0:1eda;2+0:1ee0;6+0:1ede;1a+0:1ee2;10ffdd+0:1edd;1+0:1edb;2+0:1ee1;6+0:1edf",
  "1a+0:1ee3;edffdd+0:1eea;1+0:1ee8;2+0:1eee;6+0:1eec;1a+0:1ef0;10ffdd+0:1eeb;1+0:1ee9;2+0:1eef",
  "6+0:1eed;1a+0:1ef1;76ffe9+0:1ee;362fff8+0:1ec;110000+0:1ed;3eb0000+0:1e0;110000+0:1e1",
  "110002+0:1e1c;110000+0:1e1d;54fffe+0:230;110000+0:231;6930008+0:1ef;10eefff4+0:1fba;1+0:386",
  "3+0:1fb9;2+0:1fb8;d+0:1f08;1+0:1f09;31+0:1fbc;43ffbb+0:1fc8;1+0:388;12+0:1f18;1+0:1f19",
  "21ffec+0:1fca;1+0:389;12+0:1f28;1+0:1f29;31+0:1fcc;21ffbb+0:1fda;1+0:38a;3+0:1fd9;2+0:1fd8",
  "2+0:3aa;b+0:1f38;1+0:1f39;65ffec+0:1ff8;1+0:38c;12+0:1f48;1+0:1f49;220000+0:1fec;43ffec+0:1fea",
  "1+0:38e;3+0:1fe9;2+0:1fe8;2+0:3ab;c+0:1f59;43ffec+0:1ffa;1+0:38f;12+0:1f68;1+0:1f69;31+0:1ffc",
  "330000+0:1fb4;220000+0:1fc4;32ffbb+0:1f70;1+0:3ac;3+0:1fb1;2+0:1fb0;d+0:1f00;1+0:1f01;2e+0:1fb6",
  "3+0:1fb3;43ffbb+0:1f72;1+0:3ad;12+0:1f10;1+0:1f11;21ffec+0:1f74;1+0:3ae;12+0:1f20;1+0:1f21",
  "2e+0:1fc6;3+0:1fc3;21ffbb+0:1f76;1+0:3af;3+0:1fd1;2+0:1fd0;2+0:3ca;b+0:1f30;1+0:1f31;2e+0:1fd6",
  "65ffbe+0:1f78;1+0:3cc;12+0:1f40;1+0:1f41;21ffff+0:1fe4;1+0:1fe5;43ffec+0:1f7a;1+0:3cd;3+0:1fe1",
  "2+0:1fe0;2+0:3cb;b+0:1f50;1+0:1f51;2e+0:1fe6;43ffbe+0:1f7c;1+0:3ce;12+0:1f60;1+0:1f61;2e+0:1ff6",
  "3+0:1ff3;10ffbb+0:1fd2;1+0:390;41+0:1fd7;10ffbe+0:1fe2;1+0:3b0;41+0:1fe7;330003+0:1ff4",
  "43ffbc+0:3d3;7+0:3d4;3740000+0:407;a9fffe+0:4d0;2+0:4d2;32fff9+0:403;21ffff+0:400;6+0:4d6",
  "2+0:401;10fffe+0:4c1;2+0:4dc;110000+0:4de;10fff8+0:40d;4+0:4e2;2+0:419;2+0:4e4;21fff9+0:40c",
  "440007+0:4e6;54fffc+0:4ee;2+0:40e;2+0:4f0;3+0:4f2;43fffd+0:4f4;440000+0:4f8;220000+0:4ec",
  "32fffe+0:4d1;2+0:4d3;32fff9+0:453;21ffff+0:450;6+0:4d7;2+0:451;10fffe+0:4c2;2+0:4dd",
  "110000+0:4df;10fff8+0:45d;4+0:4e3;2+0:439;2+0:4e5;21fff9+0:45c;440007+0:4e7;54fffc+0:4ef",
  "2+0:45e;2+0:4f1;3+0:4f3;43fffd+0:4f5;440000+0:4f9;220000+0:4ed;990000+0:457;1fe0007+0:476",
  "110000+0:477;692fff9+0:4da;110000+0:4db;ff0000+0:4ea;110000+0:4eb;151e034b+0:622;1+0:623",
  "1+0:625;230ffff+0:624;220000+0:626;7e70000+0:6c2;1210000+0:6d3;330000+0:6c0;278302e8+0:929",
  "880000+0:931;330000+0:934;9d40082+0:9cb;19+0:9cc;19800167+0:b4b;18+0:b48;1+0:b4c;4fb0080+0:b94",
  "373ffe7+0:bca;19+0:bcc;10ffe7+0:bcb;86f0098+0:c48;809007f+0:cc0;76ffed+0:cca;13+0:cc7;1+0:cc8",
  "43ffff+0:ccb;83c0069+0:d4a;19+0:d4c;10ffe7+0:d4b;9b2008c+0:dda;5+0:ddc;10+0:dde;32ffeb+0:ddd",
  "26d90264+0:1026;b8e00b07+0:1b06;220000+0:1b08;220000+0:1b0a;220000+0:1b0c;220000+0:1b0e",
  "440000+0:1b12;2b90000+0:1b3b;220000+0:1b3d;220000+0:1b40;110000+0:1b41;330000+0:1b43",
  "3233e7cf+0:1e38;110000+0:1e39;2530000+0:1e5c;110000+0:1e5d;770003+0:1e68;110000+0:1e69",
  "40cfffb+0:1eac;4+0:1eb6;10fffc+0:1ead;4+0:1eb7;186fffc+0:1ec6;110000+0:1ec7;1430000+0:1ed8",
  "110000+0:1ed9;362fffe+0:1f02;1+0:1f04;41+0:1f06;3+0:1f80;10ffbb+0:1f03;1+0:1f05;41+0:1f07",
  "3+0:1f81;110000+0:1f82;110000+0:1f83;110000+0:1f84;110000+0:1f85;110000+0:1f86;110000+0:1f87",
  "10ffbb+0:1f0a;1+0:1f0c;41+0:1f0e;3+0:1f88;10ffbb+0:1f0b;1+0:1f0d;41+0:1f0f;3+0:1f89",
  "110000+0:1f8a;110000+0:1f8b;110000+0:1f8c;110000+0:1f8d;110000+0:1f8e;110000+0:1f8f",
  "10ffbb+0:1f12;1+0:1f14;10ffff+0:1f13;1+0:1f15;76ffff+0:1f1a;1+0:1f1c;10ffff+0:1f1b;1+0:1f1d",
  "76ffff+0:1f22;1+0:1f24;41+0:1f26;3+0:1f90;10ffbb+0:1f23;1+0:1f25;41+0:1f27;3+0:1f91",
  "110000+0:1f92;110000+0:1f93;110000+0:1f94;110000+0:1f95;110000+0:1f96;110000+0:1f97",
  "10ffbb+0:1f2a;1+0:1f2c;41+0:1f2e;3+0:1f98;10ffbb+0:1f2b;1+0:1f2d;41+0:1f2f;3+0:1f99",
  "110000+0:1f9a;110000+0:1f9b;110000+0:1f9c;110000+0:1f9d;110000+0:1f9e;110000+0:1f9f",
  "10ffbb+0:1f32;1+0:1f34;41+0:1f36;10ffbe+0:1f33;1+0:1f35;41+0:1f37;76ffbe+0:1f3a;1+0:1f3c",
  "41+0:1f3e;10ffbe+0:1f3b;1+0:1f3d;41+0:1f3f;76ffbe+0:1f42;1+0:1f44;10ffff+0:1f43;1+0:1f45",
  "76ffff+0:1f4a;1+0:1f4c;10ffff+0:1f4b;1+0:1f4d;76ffff+0:1f52;1+0:1f54;41+0:1f56;10ffbe+0:1f53",
  "1+0:1f55;41+0:1f57;87ffbe+0:1f5b;1+0:1f5d;41+0:1f5f;76ffbe+0:1f62;1+0:1f64;41+0:1f66;3+0:1fa0",
  "10ffbb+0:1f63;1+0:1f65;41+0:1f67;3+0:1fa1;110000+0:1fa2;110000+0:1fa3;110000+0:1fa4",
  "110000+0:1fa5;110000+0:1fa6;110000+0:1fa7;10ffbb+0:1f6a;1+0:1f6c;41+0:1f6e;3+0:1fa8",
  "10ffbb+0:1f6b;1+0:1f6d;41+0:1f6f;3+0:1fa9;110000+0:1faa;110000+0:1fab;110000+0:1fac",
  "110000+0:1fad;110000+0:1fae;110000+0:1faf;110000+0:1fb2;440000+0:1fc2;880000+0:1ff2",
  "3da0000+0:1fb7;98ffbb+0:1fcd;1+0:1fce;41+0:1fcf;770003+0:1fc7;3300000+0:1ff7;87ffbb+0:1fdd",
  "1+0:1fde;41+0:1fdf;1ab1fff6+0:219a;220000+0:219b;220000+0:21ae;3fc0000+0:21cd;220000+0:21cf",
  "220000+0:21ce;31f0000+0:2204;550000+0:2209;330000+0:220c;1980000+0:2224;220000+0:2226",
  "1870000+0:2241;770000+0:2244;220000+0:2247;330000+0:2249;550000+0:226d;1540000+0:2262",
  "330000+0:2270;110000+0:2271;dd0000+0:2274;110000+0:2275;330000+0:2278;110000+0:2279",
  "330000+0:2280;110000+0:2281;110000+0:22e0;110000+0:22e1;550000+0:2284;110000+0:2285",
  "330000+0:2288;110000+0:2289;aa0000+0:22e2;110000+0:22e3;1100000+0:22ac;660000+0:22ad",
  "110000+0:22ae;220000+0:22af;770000+0:22ea;110000+0:22eb;110000+0:22ec;110000+0:22ed",
  "e6a12d61+0:3094;550000+0:304c;220000+0:304e;220000+0:3050;220000+0:3052;220000+0:3054",
  "220000+0:3056;220000+0:3058;220000+0:305a;220000+0:305c;220000+0:305e;220000+0:3060",
  "220000+0:3062;330000+0:3065;220000+0:3067;220000+0:3069;770000+0:3070;1+0:3071;32ffff+0:3073",
  "1+0:3074;32ffff+0:3076;1+0:3077;32ffff+0:3079;1+0:307a;32ffff+0:307c;1+0:307d;241ffff+0:309e",
  "990000+0:30f4;550000+0:30ac;220000+0:30ae;220000+0:30b0;220000+0:30b2;220000+0:30b4",
  "220000+0:30b6;220000+0:30b8;220000+0:30ba;220000+0:30bc;220000+0:30be;220000+0:30c0",
  "220000+0:30c2;330000+0:30c5;220000+0:30c7;220000+0:30c9;770000+0:30d0;1+0:30d1;32ffff+0:30d3",
  "1+0:30d4;32ffff+0:30d6;1+0:30d7;32ffff+0:30d9;1+0:30da;32ffff+0:30dc;1+0:30dd;153ffff+0:30f7",
  "110000+0:30f8;110000+0:30f9;110000+0:30fa;bb0000+0:30fe;e2224d26e+0:105c9;880000+0:105e4",
  "b6b00db3+0:1109a;220000+0:1109c;aa0000+0:110ab;94c006d+0:1112e;110000+0:1112f;23650217+0:1134b",
  "19+0:1134c;3eb0072+0:11383;21fff2+0:11385;770007+0:1138e;550007+0:11391;351ffef+0:113c7",
  "a+0:113c5;7+0:113c8;106700e7+0:114bc;a+0:114bb;3+0:114be;10ef00f2+0:115ba;110000+0:115bb",
  "3b3c0381+0:11938;4c67947ee+0:16121;1+0:16123;1+0:16125;9+0:16122;32fff6+0:16126;1+0:16128",
  "10ffff+0:16127;770000+0:16124;cfda0c48+0:16d69;440000+0:16d68;220000+0:16d6a" ]

/-- The spans of combining classes. -/
def combiningClassSpans : Array (Span Nat) := spansOf hexNumber combiningClassLines

/-- The canonical combining class of a code point; zero for a starter. -/
def combiningClass (c : Char) : Nat := (spanValue? combiningClassSpans c.toNat).getD 0

/-- The spans of decompositions. -/
def decompositionSpans : Array (Span (List Char)) := spansOf hexCodePoints decompositionLines

/-- The full canonical decomposition of a code point other than a Hangul syllable, if it has
one. -/
def decomposition? (c : Char) : Option (List Char) := spanValue? decompositionSpans c.toNat

/-- The spans of primary composites, by the key of their pair. -/
def compositionSpans : Array (Span Nat) := spansOf hexNumber compositionLines

/-- The primary composite of two code points other than Hangul jamo, if they have one. -/
def composite? (first second : Char) : Option Char :=
  (spanValue? compositionSpans (first.toNat * 0x110000 + second.toNat)).map Char.ofNat

end MonolithSplit.Text
