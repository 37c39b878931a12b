/-!
# Names of characters, 1D800 to 1EFFF

The packed names of the characters from 1D800 to 1EFFF: the writing of signed languages and the
scripts after it.
-/

namespace Docblock.Text.Names

/-- Packed names, in the order of their characters. -/
def signWriting : List String := [
  "1D800aSIGNWRITING HAND-FIST INDEX,rCIRCLE INDEX,sUP INDEX,rOVAL INDEX,rHINGE INDEX,rANGLE INDEX",
  "rFIST INDEX BENT,rCIRCLE INDEX BENT,rFIST THUMB UNDER INDEX BENT,wINDEX RAISED KNUCKLE,bcCUPPED",
  "bcHINGED,bi LOW,rCIRCLE INDEX HINGE,rFIST INDEX MIDDLE,rCIRCLE INDEX MIDDLE",
  "rFIST INDEX MIDDLE BENT,bjRAISED KNUCKLES,bjHINGED,bcUP MIDDLE HINGED,bcHINGED MIDDLE UP",
  "bcMIDDLE CONJOINED,bs INDEX BENT,btMIDDLE BENT,btCUPPED,btHINGED,bkROSSED",
  "rCIRCLE INDEX MIDDLE CROSSED,rFIST MIDDLE BENT OVER INDEX,wINDEX BENT OVER MIDDLE",
  "bcMIDDLE THUMB,rCIRCLE INDEX MIDDLE THUMB,rFIST INDEX MIDDLE STRAIGHT THUMB BENT",
  "bjBENT THUMB STRAIGHT,bjTHUMB BENT,bjHINGED SPREAD THUMB SIDE,bcUP MIDDLE HINGED THUMB SIDE",
  "bzCONJOINED,bcHINGED MIDDLE UP THUMB SIDE,bcMIDDLE UP SPREAD THUMB FORWARD,bjTHUMB CUPPED",
  "bqIRCLED,bpHOOKED,bqINGED,wTHUMB BETWEEN INDEX MIDDLE STRAIGHT",
  "wINDEX MIDDLE CONJOINED THUMB SIDE,cd CONJOINED,ceBENT,wMIDDLE THUMB HOOKED INDEX UP",
  "wINDEX THUMB HOOKED MIDDLE UP,bcMIDDLE CONJOINED HINGED THUMB SIDE,bkROSSED THUMB SIDE",
  "bkONJOINED THUMB FORWARD,btCUPPED THUMB FORWARD,wMIDDLE THUMB CUPPED INDEX UP",
  "wINDEX THUMB CUPPED MIDDLE UP,wMIDDLE THUMB CIRCLED INDEX UP,bxHINGED",
  "wINDEX THUMB ANGLED OUT MIDDLE UP,bpIN MIDDLE UP,biCIRCLED MIDDLE UP",
  "bcMIDDLE THUMB CONJOINED HINGED,bpANGLED OUT,bv,wMIDDLE THUMB ANGLED OUT INDEX UP,caCROSSED",
  "bqINDEX UP,wINDEX THUMB HOOKED MIDDLE HINGED,sLAT FOUR FINGERS,bi BENT,bjHINGED,bjCONJOINED",
  "bs SPLIT,rCLAW FOUR FINGERS CONJOINED,rFIST FOUR FINGERS CONJOINED BENT",
  "rHINGE FOUR FINGERS CONJOINED,rFLAT FIVE FINGERS SPREAD,wHEEL FIVE FINGERS SPREAD",
  "wFIVE FINGERS SPREAD FOUR BENT,wHEEL FIVE FINGERS SPREAD FOUR BENT,wFIVE FINGERS SPREAD BENT",
  "wHEEL FIVE FINGERS SPREAD BENT,wFIVE FINGERS SPREAD THUMB FORWARD,rCUP FIVE FINGERS SPREAD",
  "bo OPEN,rHINGE FIVE FINGERS SPREAD OPEN,rOVAL FIVE FINGERS SPREAD",
  "rFLAT FIVE FINGERS SPREAD HINGED,bw THUMB SIDE,bxNO THUMB,v,v BETWEEN PALM FACINGS,wHEEL",
  "wTHUMB SIDE,wHEEL THUMB SIDE,wTHUMB BENT,bcFORWARD,wSPLIT INDEX THUMB SIDE,bcCENTRE",
  "bi THUMB SIDE,bt BENT,bcLITTLE,rCLAW,v THUMB SIDE,wNO THUMB,wTHUMB FORWARD,rHOOK CURLICUE,v",
  "rCUP OPEN,u,u OPEN THUMB SIDE,vTHUMB SIDE,vOPEN NO THUMB,vNO THUMB,vOPEN THUMB FORWARD",
  "vTHUMB FORWARD,tRLICUE OPEN,z,sIRCLE,rOVAL,v THUMB SIDE,wNO THUMB,wTHUMB FORWARD,rHINGE OPEN",
  "bb THUMB FORWARD,w,w SMALL,xOPEN THUMB SIDE,xTHUMB SIDE,xOPEN NO THUMB,xNO THUMB",
  "xTHUMB SIDE TOUCHING INDEX,bdBETWEEN MIDDLE RING,rANGLE,rFIST INDEX MIDDLE RING",
  "rCIRCLE INDEX MIDDLE RING,rHINGE INDEX MIDDLE RING,rANGLE INDEX MIDDLE RING,rHINGE LITTLE",
  "rFIST INDEX MIDDLE RING BENT,boCONJOINED,rHINGE INDEX MIDDLE RING CONJOINED,rFIST LITTLE DOWN",
  "bh RIPPLE STRAIGHT,bpCURVED,biOTHERS CIRCLED,bdUP,wTHUMB UNDER LITTLE UP,rCIRCLE LITTLE UP",
  "rOVAL LITTLE UP,rANGLE LITTLE UP,rFIST LITTLE RAISED KNUCKLE,bdBENT,bdTOUCHES THUMB,beHUMB",
  "rHINGE LITTLE THUMB,rFIST LITTLE INDEX THUMB,rHINGE LITTLE INDEX THUMB",
  "rANGLE LITTLE INDEX THUMB INDEX THUMB OUT,cb,rFIST LITTLE INDEX,rCIRCLE LITTLE INDEX",
  "rHINGE LITTLE INDEX,rANGLE LITTLE INDEX,rFIST INDEX MIDDLE LITTLE,rCIRCLE INDEX MIDDLE LITTLE",
  "rHINGE INDEX MIDDLE LITTLE,xRING,rANGLE INDEX MIDDLE LITTLE,rFIST INDEX MIDDLE CROSS LITTLE",
  "rCIRCLE INDEX MIDDLE CROSS LITTLE,rFIST RING DOWN,rHINGE RING DOWN INDEX THUMB HOOK MIDDLE",
  "rANGLE RING DOWN MIDDLE THUMB INDEX CROSS,rFIST RING UP,bbRAISED KNUCKLE,bbLITTLE",
  "rCIRCLE RING LITTLE,rOVAL RING LITTLE,rANGLE RING LITTLE,rFIST RING MIDDLE,bh CONJOINED",
  "biRAISED KNUCKLES,bbINDEX,bbTHUMB,rHOOK RING THUMB,rFIST INDEX RING LITTLE",
  "rCIRCLE INDEX RING LITTLE,sURLICUE INDEX RING LITTLE ON,rHOOK INDEX RING LITTLE OUT,boIN",
  "boUNDER,rCUP INDEX RING LITTLE,rHINGE INDEX RING LITTLE,rANGLE INDEX RING LITTLE OUT,bo",
  "rFIST MIDDLE DOWN,rHINGE MIDDLE,rFIST MIDDLE UP,rCIRCLE MIDDLE UP,rFIST MIDDLE RAISED KNUCKLE",
  "bdUP THUMB SIDE,rHOOK MIDDLE THUMB,rFIST MIDDLE THUMB LITTLE,bdLITTLE,bdRING LITTLE",
  "rCIRCLE MIDDLE RING LITTLE,sURLICUE MIDDLE RING LITTLE ON,tP MIDDLE RING LITTLE",
  "rHINGE MIDDLE RING LITTLE,rANGLE MIDDLE RING LITTLE OUT,bqIN,bp,rCIRCLE MIDDLE RING LITTLE BENT",
  "sLAW MIDDLE RING LITTLE CONJOINED,by SIDE,rHOOK MIDDLE RING LITTLE CONJOINED OUT,bzIN,by",
  "sINGE INDEX HINGED,rFIST INDEX THUMB SIDE,rHINGE INDEX THUMB SIDE",
  "rFIST INDEX THUMB SIDE THUMB DIAGONAL,btCONJOINED,btBENT,bnINDEX BENT,bnBOTH BENT,bnINDEX HINGE",
  "biFORWARD INDEX STRAIGHT,bwBENT,biHOOK,biCURLICUE,blVE THUMB INSIDE",
  "rCLAW INDEX THUMB CURVE THUMB INSIDE,rFIST INDEX THUMB CURVE THUMB UNDER,bjIRCLE",
  "rCUP INDEX THUMB,bg OPEN,rHINGE INDEX THUMB OPEN,bjLARGE,bi,bi SMALL,rANGLE INDEX THUMB OUT",
  "bjIN,bi,rFIST THUMB,bb HEEL,bcSIDE DIAGONAL,bhCONJOINED,bhBENT,bcFORWARD,bcBETWEEN INDEX MIDDLE",
  "bkMIDDLE RING,bkRING LITTLE,bcUNDER TWO FINGERS,bcOVER TWO FINGERS,bcUNDER THREE FINGERS",
  "biFOUR FINGERS,bcOVER FOUR RAISED KNUCKLES,v,v HEEL,mTOUCH SINGLE,sMULTIPLE,sBETWEEN",
  "mGRASP SINGLE,sMULTIPLE,sBETWEEN,mSTRIKE SINGLE,tMULTIPLE,tBETWEEN,mBRUSH SINGLE,sMULTIPLE",
  "sBETWEEN,mRUB SINGLE,qMULTIPLE,qBETWEEN,mSURFACE SYMBOLS,uBETWEEN,nQUEEZE LARGE SINGLE",
  "uSMALL SINGLE,uLARGE MULTIPLE,uSMALL MULTIPLE,vEQUENTIAL,mFLICK LARGE SINGLE,sSMALL SINGLE",
  "sLARGE MULTIPLE,sSMALL MULTIPLE,tEQUENTIAL,mSQUEEZE FLICK ALTERNATING",
  "mMOVEMENT-HINGE UP DOWN LARGE,bjSMALL,beSEQUENTIAL,bbDOWN SEQUENTIAL",
  "bbUP DOWN ALTERNATING LARGE,bvSMALL,bbSIDE TO SIDE SCISSORS,vWALLPLANE FINGER CONTACT",
  "vFLOORPLANE FINGER CONTACT,vWALLPLANE SINGLE STRAIGHT SMALL,bvMEDIUM,bvLARGE,caST,bmWRIST FLEX",
  "bfDOUBLE STRAIGHT,bmWRIST FLEX,bmALTERNATING,bx WRIST FLEX,bfCROSS,bfTRIPLE STRAIGHT MOVEMENT",
  "bmWRIST FLEX,bmALTERNATING,bx WRIST FLEX,bfBEND SMALL,bkMEDIUM,bkLARGE,bfCORNER SMALL,bmMEDIUM",
  "bmLARGE,bmROTATION,bgHECK SMALL,blMEDIUM,blLARGE,bfBOX SMALL,bjMEDIUM,bjLARGE,bfZIGZAG SMALL",
  "bmMEDIUM,bmLARGE,bfPEAKS SMALL,blMEDIUM,blLARGE,mTRAVEL-WALLPLANE ROTATION-WALLPLANE SINGLE",
  "bwDOUBLE,bwALTERNATING,bmFLOORPLANE SINGLE,bxDOUBLE,bxALTERNATING,bdSHAKING,bdARM SPIRAL SINGLE",
  "boDOUBLE,boTRIPLE,mMOVEMENT-DIAGONAL AWAY SMALL,bjMEDIUM,bjLARGE,boST,beTOWARDS SMALL,bmMEDIUM",
  "bmLARGE,brST,beBETWEEN AWAY SMALL,brMEDIUM,brLARGE,bwST,bmTOWARDS SMALL,buMEDIUM,buLARGE,bzST",
  "vFLOORPLANE SINGLE STRAIGHT SMALL,bwMEDIUM,bwLARGE,cbST,bnWRIST FLEX,bgDOUBLE STRAIGHT",
  "bnWRIST FLEX,bnALTERNATING,by WRIST FLEX,bgCROSS,bgTRIPLE STRAIGHT MOVEMENT,bnWRIST FLEX",
  "bnALTERNATING MOVEMENT,bzWRIST FLEX,bgBEND,bgCORNER SMALL,bnMEDIUM,bnLARGE,bhHECK,bgBOX SMALL",
  "bkMEDIUM,bkLARGE,bgZIGZAG SMALL,bnMEDIUM,bnLARGE,bgPEAKS SMALL,bmMEDIUM,bmLARGE",
  "mTRAVEL-FLOORPLANE ROTATION-FLOORPLANE SINGLE,byDOUBLE,byALTERNATING,bnWALLPLANE SINGLE",
  "bxDOUBLE,bxALTERNATING,beSHAKING,mMOVEMENT-WALLPLANE CURVE QUARTER SMALL,btMEDIUM,btLARGE,byST",
  "blHALF-CIRCLE SMALL,bxMEDIUM,bxLARGE,ccST,blTHREE-QUARTER CIRCLE SMALL,cgMEDIUM,bfHUMP SMALL",
  "bkMEDIUM,bkLARGE,bfLOOP SMALL,bkMEDIUM,bkLARGE,bkSMALL DOUBLE,bfWAVE CURVE DOUBLE SMALL",
  "bxMEDIUM,bxLARGE,bqTRIPLE SMALL,bxMEDIUM,bxLARGE,bfCURVE THEN STRAIGHT,bkD CROSS SMALL,bsMEDIUM",
  "mROTATION-WALLPLANE SINGLE,bfDOUBLE,bfALTERNATE,mMOVEMENT-WALLPLANE SHAKING",
  "bfCURVE HITTING FRONT WALL,bfHUMP HITTING FRONT WALL,bfLOOP HITTING FRONT WALL",
  "bfWAVE HITTING FRONT WALL,mROTATION-WALLPLANE SINGLE HITTING FRONT WALL",
  "bfDOUBLE HITTING FRONT WALL,bfALTERNATING HITTING FRONT WALL",
  "mMOVEMENT-WALLPLANE CURVE HITTING CHEST,bfHUMP HITTING CHEST,bfLOOP HITTING CHEST",
  "bfWAVE HITTING CHEST,mROTATION-WALLPLANE SINGLE HITTING CHEST,bfDOUBLE HITTING CHEST",
  "bfALTERNATING HITTING CHEST,mMOVEMENT-WALLPLANE WAVE DIAGONAL PATH SMALL,byMEDIUM,byLARGE",
  "vFLOORPLANE CURVE HITTING CEILING SMALL,ccLARGE,bgHUMP HITTING CEILING SMALL DOUBLE",
  "cbLARGE DOUBLE,cbSMALL TRIPLE,cbLARGE TRIPLE,bgLOOP HITTING CEILING SMALL SINGLE,cbLARGE SINGLE",
  "cbSMALL DOUBLE,cbLARGE DOUBLE,bgWAVE HITTING CEILING SMALL,cbLARGE",
  "mROTATION-FLOORPLANE SINGLE HITTING CEILING,bgDOUBLE HITTING CEILING",
  "bgALTERNATING HITTING CEILING,mMOVEMENT-FLOORPLANE CURVE HITTING FLOOR SMALL,caLARGE",
  "bgHUMP HITTING FLOOR SMALL DOUBLE,bzLARGE DOUBLE,bzTRIPLE SMALL TRIPLE,cgLARGE TRIPLE",
  "bgLOOP HITTING FLOOR SMALL SINGLE,bzLARGE SINGLE,bzSMALL DOUBLE,bzLARGE DOUBLE",
  "bgWAVE HITTING FLOOR SMALL,bzLARGE,mROTATION-FLOORPLANE SINGLE HITTING FLOOR",
  "bgDOUBLE HITTING FLOOR,bgALTERNATING HITTING FLOOR,mMOVEMENT-FLOORPLANE CURVE SMALL,bmMEDIUM",
  "bmLARGE,brST,bmCOMBINED,bgHUMP SMALL,bgLOOP SMALL,bgWAVE SNAKE,bmMALL,blLARGE",
  "mROTATION-FLOORPLANE SINGLE,bgDOUBLE,bgALTERNATING,mMOVEMENT-FLOORPLANE SHAKING PARALLEL",
  "vWALLPLANE ARM CIRCLE SMALL SINGLE,bqMEDIUM SINGLE,bqSMALL DOUBLE,bqMEDIUM DOUBLE",
  "vFLOORPLANE ARM CIRCLE HITTING WALL SMALL SINGLE,ceMEDIUM SINGLE,ceLARGE SINGLE,ceSMALL DOUBLE",
  "ceMEDIUM DOUBLE,ceLARGE DOUBLE,vWALLPLANE WRIST CIRCLE FRONT SINGLE,byDOUBLE",
  "vFLOORPLANE WRIST CIRCLE HITTING WALL SINGLE,cgDOUBLE,vWALLPLANE FINGER CIRCLES SINGLE,buDOUBLE",
  "vFLOORPLANE FINGER CIRCLES HITTING WALL SINGLE,ciDOUBLE,mDYNAMIC ARROWHEAD SMALL,beLARGE,uFAST",
  "uSLOW,uTENSE,uRELAXED,uSIMULTANEOUS,bg ALTERNATING,uEVERY OTHER TIME,uGRADUAL,mHEAD,q RIM",
  "rMOVEMENT-WALLPLANE STRAIGHT,bkTILT,baFLOORPLANE STRAIGHT,baWALLPLANE CURVE,baFLOORPLANE CURVE",
  "z CIRCLE,mFACE DIRECTION POSITION NOSE FORWARD TILTING,bpUP OR DOWN,bz TILTING",
  "mEYEBROWS STRAIGHT UP,beNEUTRAL,beDOWN,mDREAMY EYEBROWS NEUTRAL DOWN,bcDOWN NEUTRAL",
  "bcUP NEUTRAL,bcNEUTRAL UP,mFOREHEAD NEUTRAL,vCONTACT,vWRINKLED,mEYES OPEN,rSQUEEZED,rCLOSED",
  "p BLINK SINGLE,wMULTIPLE,pS HALF OPEN,rWIDE OPEN,rHALF CLOSED,rWIDENING MOVEMENT,p WINK",
  "pLASHES UP,wDOWN,wFLUTTERING,pGAZE-WALLPLANE STRAIGHT,bm DOUBLE,bnALTERNATING",
  "uFLOORPLANE STRAIGHT,bn DOUBLE,boALTERNATING,uWALLPLANE CURVED,uFLOORPLANE CURVED",
  "uWALLPLANE CIRCLING,mCHEEKS PUFFED,tNEUTRAL,tSUCKED,mTENSE CHEEKS HIGH,zMIDDLE,zLOW,mEARS",
  "mNOSE NEUTRAL,rCONTACT,rWRINKLES,sIGGLES,mAIR BLOWING OUT,qSUCKING IN,qBLOW SMALL ROTATIONS",
  "qSUCK SMALL ROTATIONS,mBREATH INHALE,tEXHALE,mMOUTH CLOSED NEUTRAL,zFORWARD,zCONTACT,sSMILE",
  "x WRINKLED,yOPEN,sFROWN,x WRINKLED,yOPEN,sOPEN CIRCLE,xFORWARD,xWRINKLED,xOVAL,bb WRINKLED",
  "bcYAWN,xRECTANGLE,bg WRINKLED,bhYAWN,sKISS,w FORWARD,xWRINKLED,sTENSE,x FORWARD,ySUCKED",
  "mLIPS PRESSED TOGETHER,p LOWER OVER UPPER,qUPPER OVER LOWER,mMOUTH CORNERS,sWRINKLES SINGLE",
  "bbDOUBLE,mTONGUE STICKING OUT FAR,tLICKING LIPS,tTIP BETWEEN LIPS,xTOUCHING INSIDE MOUTH",
  "tINSIDE MOUTH RELAXED,tMOVES AGAINST CHEEK,tCENTRE STICKING OUT,baINSIDE MOUTH,nEETH,r MOVEMENT",
  "sON TONGUE,bb MOVEMENT,vLIPS,z MOVEMENT,sBITE LIPS,mMOVEMENT-WALLPLANE JAW,vFLOORPLANE JAW",
  "mNECK,mHAIR,mEXCITEMENT,mSHOULDER HIP SPINE,zPOSITIONS,mWALLPLANE SHOULDER HIP MOVE",
  "mFLOORPLANE SHOULDER HIP MOVE,mSHOULDER TILTING FROM WAIST,mTORSO-WALLPLANE STRAIGHT STRETCH",
  "bcCURVED BEND,sFLOORPLANE TWISTING,mUPPER BODY TILTING FROM HIP JOINTS,mLIMB COMBINATION",
  "rLENGTH-1,y2,y3,y4,y5,y6,y7,mFINGER,mLOCATION-WALLPLANE SPACE,vFLOORPLANE SPACE,u HEIGHT,vWIDTH",
  "vDEPTH,vHEAD NECK,vTORSO,vLIMBS DIGITS,mCOMMA,mFULL STOP,mSEMICOLON,mCOLON,mPARENTHESIS",
  "1DA9BmFILL MODIFIER-2,ba3,ba4,ba5,ba6,1DAA1mROTATION MODIFIER-2,be3,be4,be5,be6,be7,be8,be9",
  "be10,bf1,bf2,bf3,bf4,bf5,bf6,1DF00aLATIN SMALL LETTER FENG DIGRAPH WITH TRILL",
  "tREVERSED SCRIPT G,gLETTER SMALL CAPITAL TURNED G,gSMALL LETTER REVERSED K",
  "gLETTER SMALL CAPITAL L WITH BELT,gSMALL LETTER LEZH WITH RETROFLEX HOOK,tTURNED Y WITH BELT",
  "tREVERSED ENG,tTURNED R WITH LONG LEG AND RETROFLEX HOOK,u WITH HOOK AND RETROFLEX HOOK",
  "gLETTER RETROFLEX CLICK WITH RETROFLEX HOOK,gSMALL LETTER ESH WITH DOUBLE BAR,bm AND CURL",
  "tTURNED T WITH CURL,gLETTER INVERTED GLOTTAL STOP WITH CURL,nSTRETCHED C WITH CURL",
  "oMALL CAPITAL TURNED K,gSMALL LETTER L WITH FISHHOOK,tDEZH DIGRAPH WITH PALATAL HOOK",
  "tL WITH BELT AND PALATAL HOOK,tENG WITH PALATAL HOOK,tTURNED R WITH PALATAL HOOK",
  "tR WITH FISHHOOK AND PALATAL HOOK,tTESH DIGRAPH WITH PALATAL HOOK,tEZH WITH PALATAL HOOK",
  "tDEZH DIGRAPH WITH RETROFLEX HOOK,tI WITH STROKE AND RETROFLEX HOOK,tO WITH RETROFLEX HOOK",
  "tTESH DIGRAPH WITH RETROFLEX HOOK,tC WITH RETROFLEX HOOK,tS WITH CURL",
  "1E000aCOMBINING GLAGOLITIC LETTER AZU,bcBUKY,bcVEDE,bcGLAGOLI,bcDOBRO,bcYESTU,bcZHIVETE",
  "1E008bdEMLJA,bcIZHE,bdNITIAL IZHE,bd,bcDJERVI,bcKAKO,bcLJUDIJE,bcMYSLITE,bcNASHI,bcONU,bcPOKOJI",
  "bcRITSI,bcSLOVO,bcTVRIDO,bcUKU,bcFRITU,bcHERU,1E01BbcSHTA,bcTSI,bcCHRIVI,bcSHA,bcYERU,bfI,bdATI",
  "1E023bdU,bcSMALL YUS,1E026bcYO,bcIOTATED SMALL YUS,bcBIG YUS,bcIOTATED BIG YUS,bcFITA",
  "1E100aNYIAKENG PUACHUE HMONG LETTER MA,beTSA,beNTA,beTA,beHA,beNA,beXA,beNKA,beCA,beLA,beSA",
  "beZA,beNCA,bfTSA,beKA,beDA,beNYA,bfRA,beVA,beNTXA,beTXA,beFA,beRA,beQA,beYA,beNQA,bePA,beXYA",
  "beNPA,beDLA,beNPLA,beHAH,beMLA,bePLA,beGA,beRRA,beA,bfA,beI,beU,beO,bfO,beE,bfE,beW",
  "1E130xTONE-B,bcM,bcJ,bcV,bcS,bcG,bcD,xSIGN FOR PERSON,bgTHING,bgLOCATION,bgANIMAL",
  "bgINVERTEBRATE,bcXW XW,yYLLABLE LENGTHENER,1E140xDIGIT ZERO,bdONE,bdTWO,beHREE,bdFOUR,beIVE",
  "bdSIX,beEVEN,bdEIGHT,bdNINE,1E14ExLOGOGRAM NYAJ,xCIRCLED CA,1E290aTOTO LETTER PA,mBA,mTA,mDA",
  "mKA,mGA,mMA,mNA,nGA,mSA,mCHA,mYA,mWA,mJA,mHA,mRA,mLA,mI,mBREATHY I,mIU,mBREATHY IU,mU,mE",
  "mBREATHY E,mEO,mBREATHY EO,mO,mAE,mBREATHY AE,mA,fSIGN RISING TONE,1E2C0aWANCHO LETTER AA,p,oBA",
  "oCA,oDA,oGA,oYA,oPHA,oLA,oNA,oPA,oTA,pHA,oFA,oSA,pHA,oJA,oZA,oWA,oVA,oKA,oO,oAU,oRA,oMA,oKHA",
  "oHA,oE,oI,oNGA,oU,oLLHA,oTSA,pRA,oONG,oAANG,pNG,oING,oON,oEN,oAAN,oNYA,oUEN,oYIH,hTONE TUP,pNI",
  "mKOI,pNI,hDIGIT ZERO,nONE,nTWO,oHREE,nFOUR,oIVE,nSIX,oEVEN,nEIGHT,nNINE,1E2FFhNGUN SIGN",
  "1E7E0aETHIOPIC SYLLABLE HHYA,vU,vI,vAA,vEE,w,vO,1E7E8sGURAGE HHWA,sHHWI,vEE,w,1E7EDsGURAGE MWI",
  "bbEE,1E7F0zQWI,bbEE,bc,zBWI,bbEE,zKWI,bbEE,bc,zGWI,bbEE,bc,zFWI,bbEE,zPWI,bbEE",
  "1E800aMENDE KIKAKUI SYLLABLE M001 KI,ba2 KA,ba3 KU,z65 KEE,z95 KE,z76 KOO,z48 KO,y179 KUA",
  "y004 WI,ba5 WA,ba6 WU,y126 WEE,z18 WE,ba4 WOO,y045 WO,y194 WUI,z43 WEI,y061 WVI,z49 WVA",
  "y139 WVE,y007 MIN,ba8 MAN,ba9 MUN,z59 MEN,z94 MON,y154 MUAN,z89 MUEN,y010 BI,ba1 BA,ba2 BU",
  "y150 BEE,y097 BE,y103 BOO,z38 BO,y013 I,ba4 A,ba5 U,y163 EE,z00 E,z65 OO,z47 O,z37 EI,ba1 IN",
  "ba5 IN,z95 AN,z78 EN,y019 SI,z20 SA,ba1 SU,y162 SEE,z16 SE,z36 SOO,y079 SO,y196 SIA,y025 LI",
  "ba6 LA,ba7 LU,z84 LEE,z73 LE,z54 LOO,y153 LO,z10 LONG LE,y016 DI,ba7 DA,ba8 DU,z89 DEE,y180 DOO",
  "ba1 DO,y022 TI,ba3 TA,ba4 TU,z91 TEE,z55 TE,y104 TOO,y069 TO,z28 JI,ba9 JA,z30 JU,y157 JEE",
  "z13 JE,z60 JOO,y063 JO,y175 LONG JO,y031 YI,ba2 YA,ba3 YU,y109 YEE,y080 YE,y141 YOO,z21 YO",
  "y034 FI,ba5 FA,ba6 FU,z78 FEE,ba5 FE,y133 FOO,y088 FO,y197 FUA,z01 FAN,y037 NIN,ba8 NAN,ba9 NUN",
  "y117 NEN,z69 NON,z76 HI,y041 HA,y186 HU,y040 HEE,z96 HE,z42 HOO,y140 HO,y083 HEEI,y128 HOOU",
  "y053 HIN,y130 HAN,y087 HUN,z52 HEN,y193 HON,y046 HUAN,z90 NGGI,z43 NGGA,z82 NGGU,y115 NGGEE",
  "z46 NGGE,z56 NGGOO,z20 NGGO,z59 NGGAA,z27 NGGUA,y086 LONG NGGE,y106 LONG NGGOO,z83 LONG NGGO",
  "z55 GI,z11 GA,z68 GU,z90 GEE,z66 GUEI,ba7 GUAN,z84 NGEN,y057 NGON,y177 NGUAN,y068 PI,z99 PA",
  "z50 PU,z81 PEE,z51 PE,y102 POO,y066 PO,y145 MBI,y062 MBA,y122 MBU,y047 MBEE,y188 MBEE,y072 MBE",
  "y172 MBOO,ba4 MBO,z87 MBUU,z61 LONG MBE,z05 LONG MBOO,z42 LONG MBO,z32 KPI,y092 KPA,z74 KPU",
  "z44 KPEE,y108 KPE,z12 KPOO,z58 KPO,z24 GBI,y056 GBA,y148 GBU,y093 GBEE,y107 GBE,y071 GBOO",
  "ba0 GBO,y171 RA,z23 NDI,ba9 NDA,ba5 NDU,z91 NDEE,z19 NDE,y067 NDOO,ba4 NDO,y152 NJA,z92 NJU",
  "z49 NJEE,z34 NJOO,z82 VI,ba5 VA,z51 VU,z73 VEE,y085 VE,y144 VOO,y077 VO,y164 NYIN,y058 NYAN",
  "y170 NYUN,y098 NYEN,z60 NYON,1E8C7oDIGIT ONE,uTWO,vHREE,uFOUR,vIVE,uSIX,vEVEN,uEIGHT,uNINE",
  "oCOMBINING NUMBER TEENS,bhNS,bfHUNDREDS,bfTHOUSANDS,bgEN THOUSANDS,bfHUNDRED THOUSANDS",
  "bfMILLIONS,1E900aADLAM CAPITAL LETTER ALIF,vDAALI,vLAAM,vMIIM,vBA,vSINNYIIYHE,vPE,vBHE,vRA,vE",
  "vFA,vI,vO,vDHA,vYHE,vWAW,vNUN,vKAF,vYA,vU,vJIIM,vCHI,vHA,vQAAF,vGA,vNYA,vTU,vNHA,vVA,vKHA,vGBE",
  "vZAL,vKPO,vSHA,gSMALL LETTER ALIF,tDAALI,tLAAM,tMIIM,tBA,tSINNYIIYHE,tPE,tBHE,tRA,tE,tFA,tI,tO",
  "tDHA,tYHE,tWAW,tNUN,tKAF,tYA,tU,tJIIM,tCHI,tHA,tQAAF,tGA,tNYA,tTU,tNHA,tVA,tKHA,tGBE,tZAL,tKPO",
  "tSHA,gALIF LENGTHENER,gVOWEL LENGTHENER,gGEMINATION MARK,gHAMZA,gCONSONANT MODIFIER",
  "gGEMINATE CONSONANT MODIFIER,gNUKTA,hASALIZATION MARK,1E950gDIGIT ZERO,mONE,mTWO,nHREE,mFOUR",
  "nIVE,mSIX,nEVEN,mEIGHT,mNINE,1E95EgINITIAL EXCLAMATION MARK,oQUESTION MARK",
  "1EC71aINDIC SIYAQ NUMBER ONE,tTWO,uHREE,tFOUR,uIVE,tSIX,uEVEN,tEIGHT,tNINE,tTEN,uWENTY,uHIRTY",
  "tFORTY,uIFTY,tSIXTY,uEVENTY,tEIGHTY,tNINETY,tONE HUNDRED,tTWO HUNDRED,uHREE HUNDRED",
  "tFOUR HUNDRED,uIVE HUNDRED,tSIX HUNDRED,uEVEN HUNDRED,tEIGHT HUNDRED,tNINE HUNDRED",
  "tONE THOUSAND,tTWO THOUSAND,uHREE THOUSAND,tFOUR THOUSAND,uIVE THOUSAND,tSIX THOUSAND",
  "uEVEN THOUSAND,tEIGHT THOUSAND,tNINE THOUSAND,tTEN THOUSAND,uWENTY THOUSAND,uHIRTY THOUSAND",
  "tFORTY THOUSAND,uIFTY THOUSAND,tSIXTY THOUSAND,uEVENTY THOUSAND,tEIGHTY THOUSAND",
  "tNINETY THOUSAND,tLAKH,xAN,mLAKH MARK,mNUMBER KAROR,yAN,tPREFIXED ONE,bcTWO,bdHREE,bcFOUR,bdIVE",
  "bcSIX,bdEVEN,bcEIGHT,bcNINE,mPLACEHOLDER,mFRACTION ONE QUARTER,zHALF,vTHREE QUARTERS",
  "mRUPEE MARK,mNUMBER ALTERNATE ONE,bdTWO,beEN THOUSAND,mALTERNATE LAKH MARK",
  "1ED01aOTTOMAN SIYAQ NUMBER ONE,vTWO,wHREE,vFOUR,wIVE,vSIX,wEVEN,vEIGHT,vNINE,vTEN,wWENTY,wHIRTY",
  "vFORTY,wIFTY,vSIXTY,wEVENTY,vEIGHTY,vNINETY,vONE HUNDRED,vTWO HUNDRED,wHREE HUNDRED",
  "vFOUR HUNDRED,wIVE HUNDRED,vSIX HUNDRED,wEVEN HUNDRED,vEIGHT HUNDRED,vNINE HUNDRED",
  "vONE THOUSAND,vTWO THOUSAND,wHREE THOUSAND,vFOUR THOUSAND,wIVE THOUSAND,vSIX THOUSAND",
  "wEVEN THOUSAND,vEIGHT THOUSAND,vNINE THOUSAND,vTEN THOUSAND,wWENTY THOUSAND,wHIRTY THOUSAND",
  "vFORTY THOUSAND,wIFTY THOUSAND,vSIXTY THOUSAND,wEVENTY THOUSAND,vEIGHTY THOUSAND",
  "vNINETY THOUSAND,oMARRATAN,oALTERNATE NUMBER TWO,bgHREE,bfFOUR,bgIVE,bfSIX,bgEVEN,bfEIGHT",
  "bfNINE,bfTEN,bfFOUR HUNDRED,bfSIX HUNDRED,bfTWO THOUSAND,bgEN THOUSAND,oFRACTION ONE HALF",
  "bbSIXTH,1EE00aARABIC MATHEMATICAL ALEF,uBEH,uJEEM,uDAL,1EE05uWAW,uZAIN,uHAH,uTAH,uYEH,uKAF,uLAM",
  "uMEEM,uNOON,uSEEN,uAIN,uFEH,uSAD,uQAF,uREH,uSHEEN,uTEH,vHEH,uKHAH,uTHAL,uDAD,uZAH,uGHAIN",
  "uDOTLESS BEH,bcNOON,bcFEH,bcQAF,1EE21uINITIAL BEH,bcJEEM,1EE24bcHEH,1EE27bdAH,1EE29bcYEH,bcKAF",
  "bcLAM,bcMEEM,bcNOON,bcSEEN,bcAIN,bcFEH,bcSAD,bcQAF,1EE34bcSHEEN,bcTEH,bdHEH,bcKHAH,1EE39bcDAD",
  "1EE3BbcGHAIN,1EE42uTAILED JEEM,1EE47bbHAH,1EE49bbYEH,1EE4BbbLAM,1EE4DbbNOON,bbSEEN,bbAIN",
  "1EE51bbSAD,bbQAF,1EE54bbSHEEN,1EE57bbKHAH,1EE59bbDAD,1EE5BbbGHAIN,1EE5DbbDOTLESS NOON",
  "1EE5FbjQAF,1EE61uSTRETCHED BEH,beJEEM,1EE64beHEH,1EE67bfAH,beTAH,beYEH,beKAF,1EE6CbeMEEM,beNOON",
  "beSEEN,beAIN,beFEH,beSAD,beQAF,1EE74beSHEEN,beTEH,bfHEH,beKHAH,1EE79beDAD,beZAH,beGHAIN",
  "beDOTLESS BEH,1EE7EbmFEH,1EE80uLOOPED ALEF,bbBEH,bbJEEM,bbDAL,bbHEH,bbWAW,bbZAIN,bbHAH,bbTAH",
  "bbYEH,1EE8BbbLAM,bbMEEM,bbNOON,bbSEEN,bbAIN,bbFEH,bbSAD,bbQAF,bbREH,bbSHEEN,bbTEH,bcHEH,bbKHAH",
  "bbTHAL,bbDAD,bbZAH,bbGHAIN,1EEA1uDOUBLE-STRUCK BEH,biJEEM,biDAL,1EEA5biWAW,biZAIN,biHAH,biTAH",
  "biYEH,1EEABbiLAM,biMEEM,biNOON,biSEEN,biAIN,biFEH,biSAD,biQAF,biREH,biSHEEN,biTEH,bjHEH,biKHAH",
  "biTHAL,biDAD,biZAH,biGHAIN,1EEF0uOPERATOR MEEM WITH HAH WITH TATWEEL,bdHAH WITH DAL"]

end Docblock.Text.Names
