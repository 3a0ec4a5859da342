import MonolithSplit.Network.Idna.Mapping
import MonolithSplit.Text.Canonical.Tables

/-!
# Character properties for domain-name labels

The validity rules for labels look at four properties of the code points in them: whether a
code point is a combining mark (General_Category Mark), whether it is a virama (canonical
combining class 9), its bidirectional class, and its joining type. Only code points that may
stand in a label matter, that is the valid ones of the mapping table, so each table gives the
property right for those and says nothing reliable about the others; this lets a range run
over code points that cannot occur.

The properties are those of Unicode 17.0. Bidirectional classes of code points assigned in
versions 16.0 and 17.0 follow from their general category and the direction the standard gives
by default to the block they stand in: marks are nonspacing, format characters boundary
neutrals, and the rest take their block's direction. A code point left unassigned is a
left-to-right one, except in the blocks of combining marks, where it is a nonspacing,
transparent mark. The tables are written as in `Text.CodePointTable`.
-/

namespace MonolithSplit.Network.Idna

open MonolithSplit.Text

/-! ## Combining marks and viramas -/

/-- The combining marks that may stand in a label. -/
def markLines : List String := [
  "300+6f;114+6;108+2c;2+0;2+1;2+1;2+0;49+a;31+14;11+0;66+6;3+5;3+1;2+3;24+0;1f+1a;5c+a;3b+8;a+0",
  "19+3;2+8;2+2;2+4;2c+2;3c+8;2b+17;2+20;37+2;2+11;2+6;b+1;1e+2;39+0;2+6;3+1;3+2;a+0;b+1;1b+0;3+2",
  "39+0;2+4;5+1;3+2;4+0;1f+1;4+0;c+2;39+0;2+7;2+2;2+2;15+1;17+5;2+2;39+0;2+6;3+1;3+2;8+2;b+1;1f+0",
  "3c+4;4+2;2+3;a+0;29+4;38+0;2+6;2+2;2+3;8+1;c+1;1e+2;39+0;2+6;2+2;2+3;8+1;c+1;10+0;d+3;38+1;2+6",
  "2+2;2+3;a+0;b+1;1e+2;47+0;5+5;2+0;2+7;13+1;3e+0;3+6;d+7;63+0;3+8;c+6;4a+1;1c+0;2+0;2+0;5+1",
  "32+13;2+1;6+a;2+23;a+0;65+13;18+3;5+2;2+2;3+6;4+3;e+b;2+0;b+3;2c0+2;3b3+3;1d+2;1e+1;1f+1;41+1f",
  "a+0;2e+2;2+0;76+1;23+0;77+b;5+b;dc+4;3a+9;2+1c;3+0;31+54;30+10;27+8;d+2;1f+c;39+d;31+13;99+2",
  "2+14;5+0;7+0;3+2;c7+3f;2d1+2f;bf0+2;8e+0;61+1f;22b+5;6a+1;75d5+3;2+9;21+1;51+1;111+0;4+0;5+0",
  "18+4;5+0;54+1;33+11;1b+11;e+0;27+7;1a+c;2d+3;30+d;25+0;44+d;d+0;9+1;2e+2;33+0;2+2;3+1;6+1;2+0",
  "2a+4;6+1;ed+7;2+1;4f31+0;2e2+f;11+f;3ce+0;e3+0;96+4;687+2;2+1;6+3;29+2;5+0;a6+1;23e+3;42+4",
  "13e+1;4e+5;47+a;32+3;7b+2;36+e;2a+0;3+1;b+3;2e+a;8+0;3e+2;25+d;11+1;2d+0;d+2;31+d;9+3;2+1;5d+b",
  "7+0;3+0;9e+b;16+3;38+1;2+6;3+1;3+2;a+0;b+1;3+6;4+4;44+8;2+0;3+0;2+3;2+4;2+0;f+1;53+11;18+0",
  "52+13;ec+6;3+8;1c+1;53+10;6b+c;66+e;101+e;f6+5;2+1;3+3;2+0;2+1;8e+6;3+6;4+0;1d+9;29+6;2+3;9+0",
  "a+a;2f+f;c7+7;c8+7;2+7;53+15;2+d;7b+5;4+0;2+1;2+6;2+0;43+4;2+1;2+4;15c+3;a+1;2+0;31+6;4+4;18+0",
  "14e6+0;7+e;2cc9+11;9c1+4;3c+6;419+0;2+36;8+3;52+0;c+1;4cac+1;1262+2d;3+16;21f+4;4+5;9+7;3+6",
  "1f+3;95+2;7bc+36;5+31;9+0;f+0;17+4;2+e;551+6;2+10;3+6;2+1;2+4;65+0;a1+6;178+0;3e+3;1fd+3;ff+1",
  "f4+0;3+0;8+1;6+0;1db+6;6e+6;c17b6+ef" ]

/-- The spans of combining marks. -/
def markSpans : Array (Span Unit) := spansOf (fun _ => ()) markLines

/-- Whether a code point is a combining mark. -/
def isMark (c : Char) : Bool := (spanValue? markSpans c.toNat).isSome

/-- Whether a code point is a virama: its canonical combining class is 9. -/
def isVirama (c : Char) : Bool := combiningClass c == 9

/-! ## Bidirectional classes -/

/-- The bidirectional classes the label rules tell apart; every other class is `other`. -/
inductive BidiClass where
  | leftToRight
  | rightToLeft
  | arabicLetter
  | arabicNumber
  | europeanNumber
  | europeanSeparator
  | commonSeparator
  | europeanTerminator
  | otherNeutral
  | boundaryNeutral
  | nonspacingMark
  | other
  deriving DecidableEq, Repr, Inhabited

/-- The class a table letter stands for. -/
def BidiClass.ofLetters : List Char → BidiClass
  | ['r'] => .rightToLeft
  | ['a'] => .arabicLetter
  | ['n'] => .arabicNumber
  | ['e'] => .europeanNumber
  | ['s'] => .europeanSeparator
  | ['c'] => .commonSeparator
  | ['t'] => .europeanTerminator
  | ['o'] => .otherNeutral
  | ['b'] => .boundaryNeutral
  | ['m'] => .nonspacingMark
  | _ => .other

/-- The code points whose class is not left-to-right, with their classes. -/
def bidiLines : List String := [
  "0+8:b;1+4:x;1+d:b;1+4:x;1+1:o;1+2:t;1+4:o;1+0:s;1+0:c;1+0:s;1+1:c;1+9:e;1+0:c;1+5:o;1b+5:o",
  "1b+3:o;1+5:b;1+0:x;1+19:b;1+0:c;1+0:o;1+3:t;1+3:o;2+1:o;1+0:b;1+1:o;1+1:t;1+1:e;1+0:o;2+2:o",
  "1+0:e;2+4:o;18+0:o;20+0:o;1c2+1:o;8+d:o;3+d:o;6+8:o;2+10:o;1+6f:m;5+1:o;9+0:o;6+1:o;2+0:o",
  "6f+0:o;8d+6:m;101+0:o;3+1:o;1+0:t;2+2c:m;1+0:r;1+0:m;1+0:r;1+1:m;1+0:r;1+1:m;1+0:r;1+0:m;9+1a:r",
  "5+5:r;c+5:n;1+1:o;1+0:a;1+1:t;1+0:a;1+0:c;1+0:a;1+1:o;1+a:m;1+2f:a;1+14:m;1+9:n;1+0:t;1+1:n",
  "1+2:a;1+0:m;1+64:a;1+6:m;1+0:n;1+0:o;1+5:m;1+1:a;1+1:m;1+0:o;1+3:m;1+1:a;1+9:e;1+13:a;2+1:a",
  "1+0:m;1+1d:a;1+1a:m;3+58:a;1+a:m;1+0:a;f+2a:r;1+8:m;1+1:r;1+3:o;1+0:r;3+0:m;1+17:r;1+3:m;1+0:r",
  "1+8:m;1+0:r;1+2:m;1+0:r;1+4:m;3+e:r;2+18:r;1+2:m;3+0:r;2+a:a;6+1f:a;1+1:n;6+8:m;1+29:a;1+17:m",
  "1+0:n;1+1f:m;38+0:m;2+0:m;5+7:m;5+0:m;4+6:m;b+1:m;1e+0:m;3b+0:m;5+3:m;9+0:m;15+1:m;f+1:t;8+0:t",
  "3+0:m;3+1:m;3a+0:m;5+1:m;5+1:m;3+2:m;4+0:m;1f+1:m;4+0:m;c+1:m;3a+0:m;5+4:m;2+1:m;5+0:m;15+1:m",
  "e+0:t;9+5:m;2+0:m;3b+0:m;3+0:m;2+3:m;9+0:m;8+1:m;c+1:m;1f+0:m;3e+0:m;d+0:m;26+5:o;1+0:t;1+0:o",
  "6+0:m;4+0:m;38+0:m;2+2:m;6+2:m;2+3:m;8+1:m;c+1:m;15+6:o;3+0:m;3b+0:m;10+1:m;15+1:m;1d+1:m",
  "3a+1:m;5+3:m;9+0:m;15+1:m;1e+0:m;49+0:m;8+2:m;2+0:m;5b+0:m;3+6:m;5+0:t;8+7:m;63+0:m;3+8:m;c+6:m",
  "4a+1:m;1c+0:m;2+0:m;2+0:m;1+3:o;34+d:m;2+4:m;2+1:m;6+a:m;2+23:m;a+0:m;67+3:m;2+5:m;2+1:m;3+1:m",
  "1a+1:m;5+2:m;11+3:m;e+0:m;3+1:m;7+0:m;10+0:m;2c0+2:m;31+9:o;67+0:o;280+0:x;1b+1:o;76+2:m;1e+1:m",
  "1f+1:m;1f+1:m;41+1:m;2+6:m;9+0:m;3+a:m;8+0:t;2+0:m;13+9:o;7+a:o;1+2:m;1+0:b;1+0:m;76+1:m;23+0:m",
  "77+2:m;5+1:m;a+0:m;7+2:m;5+0:o;4+1:o;99+21:o;18+1:m;3+0:m;3b+0:m;2+6:m;2+0:m;2+0:m;3+7:m;7+9:m",
  "3+0:m;31+53:m;31+0:m;2+4:m;2+0:m;6+0:m;c+1:o;1c+8:m;c+0:o;1+1:m;21+3:m;3+1:m;2+2:m;39+0:m;2+1:m",
  "4+0:m;2+2:m;3b+7:m;3+1:m;99+2:m;2+c:m;2+6:m;5+0:m;7+0:m;4+1:m;c7+3f:m;1be+0:o;2+2:o;c+2:o;e+2:o",
  "e+2:o;e+1:o;2+a:x;1+2:b;2+0:r;1+17:o;1+6:x;1+0:c;1+4:t;1+e:o;1+0:c;1+19:o;1+0:x;1+4:b;2+3:x",
  "1+5:b;1+0:e;4+5:e;1+1:s;1+2:o;2+9:e;1+1:s;1+2:o;12+21:t;f+2f:m;1+1:o;2+3:o;2+1:o;b+0:o;2+2:o",
  "6+5:o;2+0:o;2+0:o;2+0:o;5+0:t;c+1:o;5+4:o;6+3:o;3+f:o;2a+2:o;5+81:o;1+0:s;1+0:t;1+121:o;46+19:o",
  "2+93:o;17+a:o;16+27:o;1+13:e;4f+1c1:o;2+152:o;101+273:o;3+89:o;e6+5:o;5+2:m;8+6:o;80+0:m",
  "61+1f:m;1+5d:o;23+19:o;2+58:o;d+d5:o;1b+f:o;1+0:x;1+3:o;4+18:o;a+3:m;3+0:o;6+1:o;6+2:o;5a+1:m",
  "1+1:o;4+0:o;5b+0:o;c5+25:o;a+0:o;2e+1:o;32+f:o;1d+2:o;33+e:o;d+3:o;a8+3:o;64+1:o;20+0:o",
  "19c1+3f:o;5691+36:o;147+2:o;60+3:m;1+0:o;1+9:m;1+1:o;1f+1:m;51+1:m;f+21:o;67+0:o;7a+0:m;4+0:m",
  "5+0:m;1a+1:m;2+3:o;1+0:m;c+1:t;3b+3:o;4d+1:m;1b+11:m;e+0:m;27+7:m;1a+a:m;2f+2:m;31+0:m;3+3:m",
  "3+1:m;28+0:m;44+5:m;3+1:m;3+1:m;d+0:m;9+0:m;30+0:m;34+0:m;2+2:m;3+1:m;6+1:m;2+0:m;2b+1:m;9+0:m",
  "74+1:o;7a+0:m;3+0:m;5+0:m;4f30+0:r;1+0:m;1+9:r;1+0:s;1+c:r;2+4:r;2+0:r;2+1:r;2+1:r;2+9:r",
  "1+1ed:a;1+11:o;1+7e:a;1+0:o;21+c:a;1+2:o;1+f:m;1+9:o;7+f:m;1+1f:o;1+0:c;1+0:o;1+0:c;2+0:o;1+0:c",
  "1+8:o;1+0:t;1+1:o;1+1:s;1+2:o;2+0:o;1+1:t;1+0:o;5+4:a;2+86:a;3+0:b;2+1:o;1+2:t;1+4:o;1+0:s",
  "1+0:c;1+0:s;1+1:c;1+9:e;1+0:c;1+5:o;1b+5:o;1b+a:o;7b+1:t;1+2:o;1+1:t;2+6:o;b+4:o;104+0:o",
  "3f+4c:o;4+c:o;4+0:o;5d+0:m;e3+0:m;1+1a:e;7b+4:m;486+5:r;3+0:r;2+2b:r;2+1:r;4+0:r;3+16:r;2+47:r",
  "9+8:r;31+12:r;2+1:r;6+20:r;4+0:o;1+19:r;6+1a:r;27+37:r;5+13:r;3+2e:r;1+2:m;2+1:m;6+3:m;1+3:r",
  "2+2:r;2+1c:r;3+2:m;5+0:m;1+8:r;8+8:r;8+3f:r;21+24:r;1+1:m;5+b:r;a+35:r;4+6:o;1+15:r;3+1a:r",
  "6+19:r;8+3:r;d+6:r;51+48:r;38+32:r;e+32:r;8+5:r;1+23:a;1+3:m;9+9:n;7+9:n;1+1b:r;4+4:m;1+17:r",
  "9+1:r;d1+1e:n;2+29:r;2+1:m;1+0:r;3+1:r;11+5:a;9+8:a;22+5:m;1+27:r;9+15:a;1+a:m;1+8:a;17+11:r",
  "1+3:m;1+3:r;27+1b:r;15+16:r;b+0:m;37+e:m;c+13:o;b+0:m;3+1:m;b+2:m;32+3:m;3+1:m;8+0:m;3e+2:m",
  "25+4:m;2+7:m;3f+0:m;d+1:m;35+8:m;b+3:m;3+0:m;60+2:m;3+0:m;2+1:m;7+0:m;3+0:m;9e+0:m;4+7:m;16+1:m",
  "3a+1:m;4+0:m;26+6:m;4+4:m;47+5:m;e+0:m;2+0:m;2+0:m;2+1:o;2+1:o;9+1:m;56+7:m;3+2:m;2+0:m;18+0:m",
  "55+5:m;2+0:m;5+1:m;2+1:m;ef+3:m;7+1:m;2+1:m;1c+1:m;56+7:m;3+0:m;2+1:m;20+c:o;3f+0:m;2+0:m;3+5:m",
  "2+0:m;66+2:m;3+3:m;2+4:m;104+8:m;2+1:m;101+1:m;2+0:m;5+0:m;91+3:m;3+1:m;5+0:m;21+5:m;3+1:m",
  "29+5:m;3+3:m;9+0:m;a+5:m;3+2:m;2f+c:m;2+1:m;c7+0:m;2+2:m;2+0:m;7b+0:o;4f+6:m;2+5:m;55+15:m",
  "3+6:m;2+1:m;2+1:m;7b+5:m;4+0:m;2+1:m;2+6:m;2+0:m;49+1:m;4+0:m;2+0:m;15c+1:m;c+1:m;35+4:m;6+0:m",
  "2+0:m;18+0:m;7b+7:o;1+3:t;1+10:o;144f+0:m;7+e:m;2cc9+b:m;4+2:m;9c1+4:m;3c+6:m;237+2:o;1e0+0:m",
  "40+3:m;50+0:o;2+0:m;4cb9+1:m;2+3:b;f5d+ef:o;b+2:o;4+1b3:o;7+16:o;10+10:o;10+2d:m;3+16:m;221+2:m",
  "a+7:b;1+7:m;3+6:m;1f+3:m;3c+1:o;16+41:o;1+2:m;1+0:o;bb+56:o;385+0:o;3a+0:o;3a+0:o;3a+0:o;3a+0:o",
  "b+31:e;201+36:m;5+31:m;9+0:m;f+0:m;17+4:m;2+e:m;551+6:m;2+10:m;3+6:m;2+1:m;2+4:m;65+0:m;a1+6:m",
  "178+0:m;3e+3:m;10+0:t;1ed+3:m;ff+1:m;10+0:o;e4+0:m;3+0:m;8+1:m;6+0:m;10b+c4:r;3+8:r;1+6:m",
  "2a+43:r;1+6:m;1+0:r;5+9:r;5+1:r;312+43:a;4d+3c:a;c3+3:a;2+1a:a;2+1:a;2+0:a;3+0:a;2+9:a;2+3:a",
  "2+0:a;2+0:a;7+0:a;5+0:a;2+0:a;2+0:a;2+2:a;2+1:a;2+0:a;3+0:a;2+0:a;2+0:a;2+0:a;2+0:a;2+1:a;2+0:a",
  "3+3:a;2+6:a;2+3:a;2+3:a;2+0:a;2+9:a;2+10:a;6+2:a;2+4:a;2+10:a;35+1:o;10f+2b:o;5+63:o;d+e:o",
  "3+e:o;2+e:o;2+24:o;b+a:e;1+4:o;20+0:o;3b+5:o;3e+0:o;b3+5:o;9b+3d8:o;4+10:o;4+c:o;4+d9:o;7+b:o",
  "5+0:o;10+b:o;5+37:o;9+9:o;7+27:o;9+1d:o;3+b:o;5+1:o;f+8:o;28+157:o;9+d:o;3+c:o;4+a:o;4+38:o",
  "2+0:o;5+f:o;3+b:o;5+9:o;8+92:o;2+5b:o;1+9:e;1+0:o;c0407+0:b;1f+5f:b;81+ef:m" ]

/-- The spans of classes other than left-to-right. -/
def bidiSpans : Array (Span BidiClass) := spansOf BidiClass.ofLetters bidiLines

/-- The bidirectional class of a code point that may stand in a label. -/
def bidiClass (c : Char) : BidiClass :=
  (spanValue? bidiSpans c.toNat).getD .leftToRight

/-! ## Joining types -/

/-- The joining types the joiner rules look at; every other type is `none`. -/
inductive JoiningType where
  | leftJoining
  | dualJoining
  | rightJoining
  | transparent
  | none
  deriving DecidableEq, Repr, Inhabited

/-- The type a table letter stands for. -/
def JoiningType.ofLetters : List Char → JoiningType
  | ['l'] => .leftJoining
  | ['d'] => .dualJoining
  | ['r'] => .rightJoining
  | ['t'] => .transparent
  | _ => .none

/-- The code points with a joining type, with their types. -/
def joiningLines : List String := [
  "ad+0:t;253+6f:t;114+6:t;108+2c:t;2+0:t;2+1:t;2+1:t;2+0:t;49+a:t;2+0:t;4+0:d;2+3:r;1+0:d;1+0:r",
  "1+0:d;1+0:r;1+4:d;1+3:r;1+c:d;2+6:d;1+0:r;1+1:d;1+14:t;f+1:d;1+0:t;1+2:r;2+2:r;1+f:d;1+11:r",
  "1+25:d;1+0:r;1+1:d;1+8:r;1+0:d;1+0:r;1+0:d;1+0:r;1+1:d;1+1:r;2+0:r;1+6:t;3+5:t;3+1:t;2+3:t",
  "1+1:r;b+2:d;3+0:d;10+0:t;1+0:r;1+0:t;1+2:d;1+4:r;1+3:d;1+0:r;1+8:d;1+0:r;1+0:d;1+0:r;1+0:d",
  "1+0:r;1+1:d;1+0:r;1+1a:t;3+0:r;1+a:d;1+2:r;1+e:d;1+1:r;1+3:d;1+0:r;1+0:d;1+1:r;1+2:d;1+1:r",
  "1+5:d;27+a:t;1a+20:d;1+8:t;a+0:t;19+3:t;2+8:t;2+2:t;2+4:t;13+0:r;1+4:d;1+1:r;1+0:d;1+0:r;1+9:d",
  "1+0:r;1+0:d;1+2:r;1+2:t;5+0:d;2+3:d;2+0:r;1+0:d;1+1:r;6+12:r;4+0:d;3+4:d;1+0:r;1+0:d;8+8:t",
  "1+9:d;1+2:r;2+0:r;1+1:d;1+1:r;1+5:d;1+0:r;1+e:d;2+17:t;2+1f:t;38+0:t;2+0:t;5+7:t;5+0:t;4+6:t",
  "b+1:t;1e+0:t;3b+0:t;5+3:t;9+0:t;15+1:t;1b+0:t;3+1:t;3a+0:t;5+1:t;5+1:t;3+2:t;4+0:t;1f+1:t;4+0:t",
  "c+1:t;3a+0:t;5+4:t;2+1:t;5+0:t;15+1:t;17+5:t;2+0:t;3b+0:t;3+0:t;2+3:t;9+0:t;8+1:t;c+1:t;1f+0:t",
  "3e+0:t;d+0:t;33+0:t;4+0:t;38+0:t;2+2:t;6+2:t;2+3:t;8+1:t;c+1:t;1e+0:t;3b+0:t;3+0:t;7+0:t;6+1:t",
  "15+1:t;1d+1:t;3a+1:t;5+3:t;9+0:t;15+1:t;1e+0:t;49+0:t;8+2:t;2+0:t;5b+0:t;3+6:t;d+7:t;63+0:t",
  "3+8:t;c+6:t;4a+1:t;1c+0:t;2+0:t;2+0:t;38+d:t;2+4:t;2+1:t;6+a:t;2+23:t;a+0:t;67+3:t;2+5:t;2+1:t",
  "3+1:t;1a+1:t;5+2:t;11+3:t;e+0:t;3+1:t;7+0:t;10+0:t;2c0+2:t;3b3+2:t;1e+1:t;1f+1:t;1f+1:t;41+1:t",
  "2+6:t;9+0:t;3+a:t;a+0:t;2a+0:d;4+2:t;2+0:t;11+58:d;d+1:t;1+21:d;1+0:t;1+0:d;76+2:t;5+1:t;a+0:t",
  "7+2:t;dc+1:t;3+0:t;3b+0:t;2+6:t;2+0:t;2+0:t;3+7:t;7+9:t;3+0:t;31+53:t;31+0:t;2+4:t;2+0:t;6+0:t",
  "29+8:t;d+1:t;21+3:t;3+1:t;2+2:t;39+0:t;2+1:t;4+0:t;2+2:t;3b+7:t;3+1:t;99+2:t;2+c:t;2+6:t;5+0:t",
  "7+0:t;4+1:t;c7+3f:t;20c+0:t;3+1:t;1b+4:t;32+4:t;6+5:t;61+2f:t;bf0+2:t;8e+0:t;61+1f:t;22b+3:t",
  "6c+1:t;75d5+3:t;2+9:t;21+1:t;51+1:t;111+0:t;4+0:t;5+0:t;1a+1:t;6+0:t;14+31:d;1+0:l;52+1:t",
  "1b+11:t;e+0:t;27+7:t;1a+a:t;2f+2:t;31+0:t;3+3:t;3+1:t;28+0:t;44+5:t;3+1:t;3+1:t;d+0:t;9+0:t",
  "30+0:t;34+0:t;2+2:t;3+1:t;6+1:t;2+0:t;2b+1:t;9+0:t;ef+0:t;3+0:t;5+0:t;4f31+0:t;2e2+f:t;11+f:t",
  "d0+0:t;fa+2:t;202+0:t;e3+0:t;96+4:t;687+2:t;2+1:t;6+3:t;29+2:t;5+0:t;81+4:d;1+0:r;2+0:r;2+1:r",
  "3+0:l;1+4:r;1+3:d;1+0:l;1+4:d;1+0:r;1+2:d;1+0:r;3+0:r;1+1:t;5+3:d;1+0:r;91+0:d;1+0:r;1+0:d",
  "1+2:r;1+2:d;1+0:r;1+1:d;1+0:r;1+0:d;1+1:r;1+0:d;1+0:r;18+3:r;1+1:d;152+0:l;1+20:d;1+0:r;1+0:d",
  "1+3:t;42+4:t;13e+1:t;16+0:r;1+1:d;2+1:d;33+5:t;31+2:d;1+0:r;1+10:d;2+a:t;1+2:d;1+0:r;1c+3:d",
  "1+1:r;1+b:d;1+3:t;2b+0:d;2+1:d;1+2:r;2+0:d;1+1:r;1+1:d;1+0:r;1+1:d;2+0:d;1+1:r;1+0:d;5+0:r",
  "1+0:d;1+0:l;36+0:t;37+e:t;2a+0:t;3+1:t;b+2:t;32+3:t;3+1:t;8+0:t;3e+2:t;25+4:t;2+7:t;3f+0:t",
  "d+1:t;35+8:t;b+3:t;3+0:t;60+2:t;3+0:t;2+1:t;7+0:t;3+0:t;9e+0:t;4+7:t;16+1:t;3a+1:t;4+0:t;26+6:t",
  "4+4:t;47+5:t;e+0:t;2+0:t;2+0:t;f+1:t;56+7:t;3+2:t;2+0:t;18+0:t;55+5:t;2+0:t;5+1:t;2+1:t;ef+3:t",
  "7+1:t;2+1:t;1c+1:t;56+7:t;3+0:t;2+1:t;6b+0:t;2+0:t;3+5:t;2+0:t;66+0:t;2+0:t;3+3:t;2+4:t;104+8:t",
  "2+1:t;101+1:t;2+0:t;5+0:t;91+3:t;3+1:t;5+0:t;21+9:t;29+5:t;3+3:t;9+0:t;a+5:t;3+2:t;2f+c:t;2+1:t",
  "c7+0:t;2+2:t;2+0:t;ca+6:t;2+5:t;2+0:t;53+15:t;3+6:t;2+1:t;2+1:t;7b+5:t;4+0:t;2+1:t;2+6:t;2+0:t",
  "49+1:t;4+0:t;2+0:t;15c+1:t;c+1:t;35+4:t;6+0:t;2+0:t;18+0:t;14d6+10:t;7+e:t;2cc9+b:t;4+2:t",
  "9c1+4:t;3c+6:t;419+0:t;40+3:t;52+0:t;4cb9+1:t;2+3:t;125d+2d:t;3+16:t;221+2:t;a+f:t;3+6:t;1f+3:t",
  "95+2:t;7bc+36:t;5+31:t;9+0:t;f+0:t;17+4:t;2+e:t;551+6:t;2+10:t;3+6:t;2+1:t;2+4:t;65+0:t;a1+6:t",
  "178+0:t;3e+3:t;1fd+3:t;ff+1:t;f4+0:t;3+0:t;8+1:t;6+0:t;1db+6:t;2a+43:d;1+7:t;c16b6+0:t;1f+5f:t",
  "81+ef:t" ]

/-- The spans of joining types. -/
def joiningSpans : Array (Span JoiningType) := spansOf JoiningType.ofLetters joiningLines

/-- The joining type of a code point. -/
def joiningType (c : Char) : JoiningType :=
  (spanValue? joiningSpans c.toNat).getD .none

end MonolithSplit.Network.Idna
