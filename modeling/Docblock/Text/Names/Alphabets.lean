/-!
# Names of characters, 0 to 58F

The packed names of the characters from 0 to 58F: the Latin, Greek, Cyrillic and Armenian
letters and the signs among them.
-/

namespace Docblock.Text.Names

/-- Packed names, in the order of their characters. -/
def alphabets : List String := [
  "20aSPACE,aEXCLAMATION MARK,aQUOTATION MARK,aNUMBER SIGN,aDOLLAR SIGN,aPERCENT SIGN,aAMPERSAND",
  "bPOSTROPHE,aLEFT PARENTHESIS,aRIGHT PARENTHESIS,aASTERISK,aPLUS SIGN,aCOMMA,aHYPHEN-MINUS",
  "aFULL STOP,aSOLIDUS,aDIGIT ZERO,gONE,gTWO,hHREE,gFOUR,hIVE,gSIX,hEVEN,gEIGHT,gNINE,aCOLON",
  "aSEMICOLON,aLESS-THAN SIGN,aEQUALS SIGN,aGREATER-THAN SIGN,aQUESTION MARK,aCOMMERCIAL AT",
  "aLATIN CAPITAL LETTER A,vB,vC,vD,vE,vF,vG,vH,vI,vJ,vK,vL,vM,vN,vO,vP,vQ,vR,vS,vT,vU,vV,vW,vX,vY",
  "vZ,bEFT SQUARE BRACKET,aREVERSE SOLIDUS,bIGHT SQUARE BRACKET,aCIRCUMFLEX ACCENT,aLOW LINE",
  "aGRAVE ACCENT,aLATIN SMALL LETTER A,tB,tC,tD,tE,tF,tG,tH,tI,tJ,tK,tL,tM,tN,tO,tP,tQ,tR,tS,tT,tU",
  "tV,tW,tX,tY,tZ,bEFT CURLY BRACKET,aVERTICAL LINE,aRIGHT CURLY BRACKET,aTILDE,A0aNO-BREAK SPACE",
  "aINVERTED EXCLAMATION MARK,aCENT SIGN,aPOUND SIGN,aCURRENCY SIGN,aYEN SIGN,aBROKEN BAR",
  "aSECTION SIGN,aDIAERESIS,aCOPYRIGHT SIGN,aFEMININE ORDINAL INDICATOR",
  "aLEFT-POINTING DOUBLE ANGLE QUOTATION MARK,aNOT SIGN,aSOFT HYPHEN,aREGISTERED SIGN,aMACRON",
  "aDEGREE SIGN,aPLUS-MINUS SIGN,aSUPERSCRIPT TWO,nHREE,aACUTE ACCENT,aMICRO SIGN,aPILCROW SIGN",
  "aMIDDLE DOT,aCEDILLA,aSUPERSCRIPT ONE,aMASCULINE ORDINAL INDICATOR",
  "aRIGHT-POINTING DOUBLE ANGLE QUOTATION MARK,aVULGAR FRACTION ONE QUARTER,uHALF,qTHREE QUARTERS",
  "aINVERTED QUESTION MARK,aLATIN CAPITAL LETTER A WITH GRAVE,bcACUTE,bcCIRCUMFLEX,bcTILDE",
  "bcDIAERESIS,bcRING ABOVE,wE,vC WITH CEDILLA,vE WITH GRAVE,bcACUTE,bcCIRCUMFLEX,bcDIAERESIS",
  "vI WITH GRAVE,bcACUTE,bcCIRCUMFLEX,bcDIAERESIS,vETH,vN WITH TILDE,vO WITH GRAVE,bcACUTE",
  "bcCIRCUMFLEX,bcTILDE,bcDIAERESIS,aMULTIPLICATION SIGN,aLATIN CAPITAL LETTER O WITH STROKE",
  "vU WITH GRAVE,bcACUTE,bcCIRCUMFLEX,bcDIAERESIS,vY WITH ACUTE,vTHORN,gSMALL LETTER SHARP S",
  "tA WITH GRAVE,baACUTE,baCIRCUMFLEX,baTILDE,baDIAERESIS,baRING ABOVE,uE,tC WITH CEDILLA",
  "tE WITH GRAVE,baACUTE,baCIRCUMFLEX,baDIAERESIS,tI WITH GRAVE,baACUTE,baCIRCUMFLEX,baDIAERESIS",
  "tETH,tN WITH TILDE,tO WITH GRAVE,baACUTE,baCIRCUMFLEX,baTILDE,baDIAERESIS,aDIVISION SIGN",
  "aLATIN SMALL LETTER O WITH STROKE,tU WITH GRAVE,baACUTE,baCIRCUMFLEX,baDIAERESIS,tY WITH ACUTE",
  "tTHORN,tY WITH DIAERESIS,gCAPITAL LETTER A WITH MACRON,gSMALL LETTER A WITH MACRON",
  "gCAPITAL LETTER A WITH BREVE,gSMALL LETTER A WITH BREVE,gCAPITAL LETTER A WITH OGONEK",
  "gSMALL LETTER A WITH OGONEK,gCAPITAL LETTER C WITH ACUTE,gSMALL LETTER C WITH ACUTE",
  "gCAPITAL LETTER C WITH CIRCUMFLEX,gSMALL LETTER C WITH CIRCUMFLEX",
  "gCAPITAL LETTER C WITH DOT ABOVE,gSMALL LETTER C WITH DOT ABOVE,gCAPITAL LETTER C WITH CARON",
  "gSMALL LETTER C WITH CARON,gCAPITAL LETTER D WITH CARON,gSMALL LETTER D WITH CARON",
  "gCAPITAL LETTER D WITH STROKE,gSMALL LETTER D WITH STROKE,gCAPITAL LETTER E WITH MACRON",
  "gSMALL LETTER E WITH MACRON,gCAPITAL LETTER E WITH BREVE,gSMALL LETTER E WITH BREVE",
  "gCAPITAL LETTER E WITH DOT ABOVE,gSMALL LETTER E WITH DOT ABOVE,gCAPITAL LETTER E WITH OGONEK",
  "gSMALL LETTER E WITH OGONEK,gCAPITAL LETTER E WITH CARON,gSMALL LETTER E WITH CARON",
  "gCAPITAL LETTER G WITH CIRCUMFLEX,gSMALL LETTER G WITH CIRCUMFLEX,gCAPITAL LETTER G WITH BREVE",
  "gSMALL LETTER G WITH BREVE,gCAPITAL LETTER G WITH DOT ABOVE,gSMALL LETTER G WITH DOT ABOVE",
  "gCAPITAL LETTER G WITH CEDILLA,gSMALL LETTER G WITH CEDILLA,gCAPITAL LETTER H WITH CIRCUMFLEX",
  "gSMALL LETTER H WITH CIRCUMFLEX,gCAPITAL LETTER H WITH STROKE,gSMALL LETTER H WITH STROKE",
  "gCAPITAL LETTER I WITH TILDE,gSMALL LETTER I WITH TILDE,gCAPITAL LETTER I WITH MACRON",
  "gSMALL LETTER I WITH MACRON,gCAPITAL LETTER I WITH BREVE,gSMALL LETTER I WITH BREVE",
  "gCAPITAL LETTER I WITH OGONEK,gSMALL LETTER I WITH OGONEK,gCAPITAL LETTER I WITH DOT ABOVE",
  "gSMALL LETTER DOTLESS I,gCAPITAL LIGATURE IJ,gSMALL LIGATURE IJ",
  "gCAPITAL LETTER J WITH CIRCUMFLEX,gSMALL LETTER J WITH CIRCUMFLEX",
  "gCAPITAL LETTER K WITH CEDILLA,gSMALL LETTER K WITH CEDILLA,uRA,gCAPITAL LETTER L WITH ACUTE",
  "gSMALL LETTER L WITH ACUTE,gCAPITAL LETTER L WITH CEDILLA,gSMALL LETTER L WITH CEDILLA",
  "gCAPITAL LETTER L WITH CARON,gSMALL LETTER L WITH CARON,gCAPITAL LETTER L WITH MIDDLE DOT",
  "gSMALL LETTER L WITH MIDDLE DOT,gCAPITAL LETTER L WITH STROKE,gSMALL LETTER L WITH STROKE",
  "gCAPITAL LETTER N WITH ACUTE,gSMALL LETTER N WITH ACUTE,gCAPITAL LETTER N WITH CEDILLA",
  "gSMALL LETTER N WITH CEDILLA,gCAPITAL LETTER N WITH CARON,gSMALL LETTER N WITH CARON",
  "vPRECEDED BY APOSTROPHE,gCAPITAL LETTER ENG,gSMALL LETTER ENG,gCAPITAL LETTER O WITH MACRON",
  "gSMALL LETTER O WITH MACRON,gCAPITAL LETTER O WITH BREVE,gSMALL LETTER O WITH BREVE",
  "gCAPITAL LETTER O WITH DOUBLE ACUTE,gSMALL LETTER O WITH DOUBLE ACUTE,gCAPITAL LIGATURE OE",
  "gSMALL LIGATURE OE,gCAPITAL LETTER R WITH ACUTE,gSMALL LETTER R WITH ACUTE",
  "gCAPITAL LETTER R WITH CEDILLA,gSMALL LETTER R WITH CEDILLA,gCAPITAL LETTER R WITH CARON",
  "gSMALL LETTER R WITH CARON,gCAPITAL LETTER S WITH ACUTE,gSMALL LETTER S WITH ACUTE",
  "gCAPITAL LETTER S WITH CIRCUMFLEX,gSMALL LETTER S WITH CIRCUMFLEX",
  "gCAPITAL LETTER S WITH CEDILLA,gSMALL LETTER S WITH CEDILLA,gCAPITAL LETTER S WITH CARON",
  "gSMALL LETTER S WITH CARON,gCAPITAL LETTER T WITH CEDILLA,gSMALL LETTER T WITH CEDILLA",
  "gCAPITAL LETTER T WITH CARON,gSMALL LETTER T WITH CARON,gCAPITAL LETTER T WITH STROKE",
  "gSMALL LETTER T WITH STROKE,gCAPITAL LETTER U WITH TILDE,gSMALL LETTER U WITH TILDE",
  "gCAPITAL LETTER U WITH MACRON,gSMALL LETTER U WITH MACRON,gCAPITAL LETTER U WITH BREVE",
  "gSMALL LETTER U WITH BREVE,gCAPITAL LETTER U WITH RING ABOVE,gSMALL LETTER U WITH RING ABOVE",
  "gCAPITAL LETTER U WITH DOUBLE ACUTE,gSMALL LETTER U WITH DOUBLE ACUTE",
  "gCAPITAL LETTER U WITH OGONEK,gSMALL LETTER U WITH OGONEK,gCAPITAL LETTER W WITH CIRCUMFLEX",
  "gSMALL LETTER W WITH CIRCUMFLEX,gCAPITAL LETTER Y WITH CIRCUMFLEX",
  "gSMALL LETTER Y WITH CIRCUMFLEX,gCAPITAL LETTER Y WITH DIAERESIS,vZ WITH ACUTE",
  "gSMALL LETTER Z WITH ACUTE,gCAPITAL LETTER Z WITH DOT ABOVE,gSMALL LETTER Z WITH DOT ABOVE",
  "gCAPITAL LETTER Z WITH CARON,gSMALL LETTER Z WITH CARON,tLONG S,tB WITH STROKE",
  "gCAPITAL LETTER B WITH HOOK,bcTOPBAR,gSMALL LETTER B WITH TOPBAR,gCAPITAL LETTER TONE SIX",
  "gSMALL LETTER TONE SIX,gCAPITAL LETTER OPEN O,vC WITH HOOK,gSMALL LETTER C WITH HOOK",
  "gCAPITAL LETTER AFRICAN D,vD WITH HOOK,bcTOPBAR,gSMALL LETTER D WITH TOPBAR,tTURNED DELTA",
  "gCAPITAL LETTER REVERSED E,vSCHWA,vOPEN E,vF WITH HOOK,gSMALL LETTER F WITH HOOK",
  "gCAPITAL LETTER G WITH HOOK,wAMMA,gSMALL LETTER HV,gCAPITAL LETTER IOTA,w WITH STROKE",
  "vK WITH HOOK,gSMALL LETTER K WITH HOOK,tL WITH BAR,uAMBDA WITH STROKE,gCAPITAL LETTER TURNED M",
  "vN WITH LEFT HOOK,gSMALL LETTER N WITH LONG RIGHT LEG,gCAPITAL LETTER O WITH MIDDLE TILDE",
  "bcHORN,gSMALL LETTER O WITH HORN,gCAPITAL LETTER OI,gSMALL LETTER OI",
  "gCAPITAL LETTER P WITH HOOK,gSMALL LETTER P WITH HOOK,gLETTER YR,gCAPITAL LETTER TONE TWO",
  "gSMALL LETTER TONE TWO,gCAPITAL LETTER ESH,gLETTER REVERSED ESH LOOP",
  "gSMALL LETTER T WITH PALATAL HOOK,gCAPITAL LETTER T WITH HOOK,gSMALL LETTER T WITH HOOK",
  "gCAPITAL LETTER T WITH RETROFLEX HOOK,vU WITH HORN,gSMALL LETTER U WITH HORN",
  "gCAPITAL LETTER UPSILON,vV WITH HOOK,vY WITH HOOK,gSMALL LETTER Y WITH HOOK",
  "gCAPITAL LETTER Z WITH STROKE,gSMALL LETTER Z WITH STROKE,gCAPITAL LETTER EZH,y REVERSED",
  "gSMALL LETTER EZH REVERSED,xWITH TAIL,gLETTER TWO WITH STROKE,gCAPITAL LETTER TONE FIVE",
  "gSMALL LETTER TONE FIVE,gLETTER INVERTED GLOTTAL STOP WITH STROKE,nWYNN,nDENTAL CLICK",
  "nLATERAL CLICK,nALVEOLAR CLICK,nRETROFLEX CLICK,gCAPITAL LETTER DZ WITH CARON",
  "w WITH SMALL LETTER Z WITH CARON,gSMALL LETTER DZ WITH CARON,gCAPITAL LETTER LJ",
  "w WITH SMALL LETTER J,gSMALL LETTER LJ,gCAPITAL LETTER NJ,w WITH SMALL LETTER J",
  "gSMALL LETTER NJ,gCAPITAL LETTER A WITH CARON,gSMALL LETTER A WITH CARON",
  "gCAPITAL LETTER I WITH CARON,gSMALL LETTER I WITH CARON,gCAPITAL LETTER O WITH CARON",
  "gSMALL LETTER O WITH CARON,gCAPITAL LETTER U WITH CARON,gSMALL LETTER U WITH CARON",
  "gCAPITAL LETTER U WITH DIAERESIS AND MACRON,gSMALL LETTER U WITH DIAERESIS AND MACRON",
  "gCAPITAL LETTER U WITH DIAERESIS AND ACUTE,gSMALL LETTER U WITH DIAERESIS AND ACUTE",
  "gCAPITAL LETTER U WITH DIAERESIS AND CARON,gSMALL LETTER U WITH DIAERESIS AND CARON",
  "gCAPITAL LETTER U WITH DIAERESIS AND GRAVE,gSMALL LETTER U WITH DIAERESIS AND GRAVE,tTURNED E",
  "gCAPITAL LETTER A WITH DIAERESIS AND MACRON,gSMALL LETTER A WITH DIAERESIS AND MACRON",
  "gCAPITAL LETTER A WITH DOT ABOVE AND MACRON,gSMALL LETTER A WITH DOT ABOVE AND MACRON",
  "gCAPITAL LETTER AE WITH MACRON,gSMALL LETTER AE WITH MACRON,gCAPITAL LETTER G WITH STROKE",
  "gSMALL LETTER G WITH STROKE,gCAPITAL LETTER G WITH CARON,gSMALL LETTER G WITH CARON",
  "gCAPITAL LETTER K WITH CARON,gSMALL LETTER K WITH CARON,gCAPITAL LETTER O WITH OGONEK",
  "gSMALL LETTER O WITH OGONEK,gCAPITAL LETTER O WITH OGONEK AND MACRON",
  "gSMALL LETTER O WITH OGONEK AND MACRON,gCAPITAL LETTER EZH WITH CARON",
  "gSMALL LETTER EZH WITH CARON,tJ WITH CARON,gCAPITAL LETTER DZ,w WITH SMALL LETTER Z",
  "gSMALL LETTER DZ,gCAPITAL LETTER G WITH ACUTE,gSMALL LETTER G WITH ACUTE,gCAPITAL LETTER HWAIR",
  "vWYNN,vN WITH GRAVE,gSMALL LETTER N WITH GRAVE,gCAPITAL LETTER A WITH RING ABOVE AND ACUTE",
  "gSMALL LETTER A WITH RING ABOVE AND ACUTE,gCAPITAL LETTER AE WITH ACUTE",
  "gSMALL LETTER AE WITH ACUTE,gCAPITAL LETTER O WITH STROKE AND ACUTE",
  "gSMALL LETTER O WITH STROKE AND ACUTE,gCAPITAL LETTER A WITH DOUBLE GRAVE",
  "gSMALL LETTER A WITH DOUBLE GRAVE,gCAPITAL LETTER A WITH INVERTED BREVE",
  "gSMALL LETTER A WITH INVERTED BREVE,gCAPITAL LETTER E WITH DOUBLE GRAVE",
  "gSMALL LETTER E WITH DOUBLE GRAVE,gCAPITAL LETTER E WITH INVERTED BREVE",
  "gSMALL LETTER E WITH INVERTED BREVE,gCAPITAL LETTER I WITH DOUBLE GRAVE",
  "gSMALL LETTER I WITH DOUBLE GRAVE,gCAPITAL LETTER I WITH INVERTED BREVE",
  "gSMALL LETTER I WITH INVERTED BREVE,gCAPITAL LETTER O WITH DOUBLE GRAVE",
  "gSMALL LETTER O WITH DOUBLE GRAVE,gCAPITAL LETTER O WITH INVERTED BREVE",
  "gSMALL LETTER O WITH INVERTED BREVE,gCAPITAL LETTER R WITH DOUBLE GRAVE",
  "gSMALL LETTER R WITH DOUBLE GRAVE,gCAPITAL LETTER R WITH INVERTED BREVE",
  "gSMALL LETTER R WITH INVERTED BREVE,gCAPITAL LETTER U WITH DOUBLE GRAVE",
  "gSMALL LETTER U WITH DOUBLE GRAVE,gCAPITAL LETTER U WITH INVERTED BREVE",
  "gSMALL LETTER U WITH INVERTED BREVE,gCAPITAL LETTER S WITH COMMA BELOW",
  "gSMALL LETTER S WITH COMMA BELOW,gCAPITAL LETTER T WITH COMMA BELOW",
  "gSMALL LETTER T WITH COMMA BELOW,gCAPITAL LETTER YOGH,gSMALL LETTER YOGH",
  "gCAPITAL LETTER H WITH CARON,gSMALL LETTER H WITH CARON,gCAPITAL LETTER N WITH LONG RIGHT LEG",
  "gSMALL LETTER D WITH CURL,gCAPITAL LETTER OU,gSMALL LETTER OU,gCAPITAL LETTER Z WITH HOOK",
  "gSMALL LETTER Z WITH HOOK,gCAPITAL LETTER A WITH DOT ABOVE,gSMALL LETTER A WITH DOT ABOVE",
  "gCAPITAL LETTER E WITH CEDILLA,gSMALL LETTER E WITH CEDILLA",
  "gCAPITAL LETTER O WITH DIAERESIS AND MACRON,gSMALL LETTER O WITH DIAERESIS AND MACRON",
  "gCAPITAL LETTER O WITH TILDE AND MACRON,gSMALL LETTER O WITH TILDE AND MACRON",
  "gCAPITAL LETTER O WITH DOT ABOVE,gSMALL LETTER O WITH DOT ABOVE",
  "gCAPITAL LETTER O WITH DOT ABOVE AND MACRON,gSMALL LETTER O WITH DOT ABOVE AND MACRON",
  "gCAPITAL LETTER Y WITH MACRON,gSMALL LETTER Y WITH MACRON,tL WITH CURL,tN WITH CURL",
  "tT WITH CURL,tDOTLESS J,uB DIGRAPH,tQP DIGRAPH,gCAPITAL LETTER A WITH STROKE,vC WITH STROKE",
  "gSMALL LETTER C WITH STROKE,gCAPITAL LETTER L WITH BAR,vT WITH DIAGONAL STROKE",
  "gSMALL LETTER S WITH SWASH TAIL,tZ WITH SWASH TAIL,gCAPITAL LETTER GLOTTAL STOP",
  "gSMALL LETTER GLOTTAL STOP,gCAPITAL LETTER B WITH STROKE,vU BAR,vTURNED V,vE WITH STROKE",
  "gSMALL LETTER E WITH STROKE,gCAPITAL LETTER J WITH STROKE,gSMALL LETTER J WITH STROKE",
  "gCAPITAL LETTER SMALL Q WITH HOOK TAIL,gSMALL LETTER Q WITH HOOK TAIL",
  "gCAPITAL LETTER R WITH STROKE,gSMALL LETTER R WITH STROKE,gCAPITAL LETTER Y WITH STROKE",
  "gSMALL LETTER Y WITH STROKE,tTURNED A,tALPHA,tTURNED ALPHA,tB WITH HOOK,tOPEN O,tC WITH CURL",
  "tD WITH TAIL,baHOOK,tREVERSED E,tSCHWA,y WITH HOOK,tOPEN E,tREVERSED OPEN E,bi WITH HOOK",
  "tCLOSED REVERSED OPEN E,tDOTLESS J WITH STROKE,tG WITH HOOK,tSCRIPT G,gLETTER SMALL CAPITAL G",
  "gSMALL LETTER GAMMA,tRAMS HORN,tTURNED H,tH WITH HOOK,uENG WITH HOOK,tI WITH STROKE,uOTA",
  "gLETTER SMALL CAPITAL I,gSMALL LETTER L WITH MIDDLE TILDE,baBELT,baRETROFLEX HOOK,uEZH",
  "tTURNED M,bb WITH LONG LEG,tM WITH HOOK,tN WITH LEFT HOOK,baRETROFLEX HOOK",
  "gLETTER SMALL CAPITAL N,gSMALL LETTER BARRED O,gLETTER SMALL CAPITAL OE",
  "gSMALL LETTER CLOSED OMEGA,tPHI,tTURNED R,bb WITH LONG LEG,bhHOOK,tR WITH LONG LEG,baTAIL",
  "baFISHHOOK,uEVERSED R WITH FISHHOOK,gLETTER SMALL CAPITAL R,bbINVERTED R",
  "gSMALL LETTER S WITH HOOK,tESH,tDOTLESS J WITH STROKE AND HOOK,tSQUAT REVERSED ESH",
  "tESH WITH CURL,tTURNED T,u WITH RETROFLEX HOOK,tU BAR,uPSILON,tV WITH HOOK,tTURNED V,baW,baY",
  "gLETTER SMALL CAPITAL Y,gSMALL LETTER Z WITH RETROFLEX HOOK,baCURL,tEZH,w WITH CURL",
  "gLETTER GLOTTAL STOP,nPHARYNGEAL VOICED FRICATIVE,nINVERTED GLOTTAL STOP,nSTRETCHED C",
  "nBILABIAL CLICK,nSMALL CAPITAL B,gSMALL LETTER CLOSED OPEN E,gLETTER SMALL CAPITAL G WITH HOOK",
  "bbH,gSMALL LETTER J WITH CROSSED-TAIL,tTURNED K,gLETTER SMALL CAPITAL L",
  "gSMALL LETTER Q WITH HOOK,gLETTER GLOTTAL STOP WITH STROKE,nREVERSED GLOTTAL STOP WITH STROKE",
  "gSMALL LETTER DZ DIGRAPH,uEZH DIGRAPH,uZ DIGRAPH WITH CURL,tTS DIGRAPH,uESH DIGRAPH",
  "uC DIGRAPH WITH CURL,tFENG DIGRAPH,tLS DIGRAPH,uZ DIGRAPH,gLETTER BILABIAL PERCUSSIVE",
  "pDENTAL PERCUSSIVE,gSMALL LETTER TURNED H WITH FISHHOOK,bp AND TAIL,aMODIFIER LETTER SMALL H",
  "x WITH HOOK,wJ,wR,wTURNED R,be WITH HOOK,wCAPITAL INVERTED R,wW,wY,qPRIME,qDOUBLE PRIME",
  "qTURNED COMMA,qAPOSTROPHE,qREVERSED COMMA,rIGHT HALF RING,qLEFT HALF RING,qGLOTTAL STOP",
  "qREVERSED GLOTTAL STOP,qLEFT ARROWHEAD,qRIGHT ARROWHEAD,qUP ARROWHEAD,qDOWN ARROWHEAD",
  "qCIRCUMFLEX ACCENT,aCARON,aMODIFIER LETTER VERTICAL LINE,qMACRON,qACUTE ACCENT,qGRAVE ACCENT",
  "qLOW VERTICAL LINE,uMACRON,uGRAVE ACCENT,uACUTE ACCENT,qTRIANGULAR COLON,qHALF TRIANGULAR COLON",
  "qCENTRED RIGHT HALF RING,yLEFT HALF RING,qUP TACK,qDOWN TACK,qPLUS SIGN,qMINUS SIGN,aBREVE",
  "aDOT ABOVE,aRING ABOVE,aOGONEK,aSMALL TILDE,aDOUBLE ACUTE ACCENT,aMODIFIER LETTER RHOTIC HOOK",
  "qCROSS ACCENT,qSMALL GAMMA,wL,wS,wX,wREVERSED GLOTTAL STOP,qEXTRA-HIGH TONE BAR,qHIGH TONE BAR",
  "qMID TONE BAR,qLOW TONE BAR,qEXTRA-LOW TONE BAR,qYIN DEPARTING TONE MARK",
  "rANG DEPARTING TONE MARK,qVOICING,qUNASPIRATED,qDOUBLE APOSTROPHE,qLOW DOWN ARROWHEAD",
  "uUP ARROWHEAD,uLEFT ARROWHEAD,uRIGHT ARROWHEAD,wNG,qMIDDLE GRAVE ACCENT,xDOUBLE GRAVE ACCENT",
  "beACUTE ACCENT,qLOW TILDE,qRAISED COLON,qBEGIN HIGH TONE,qEND HIGH TONE,qBEGIN LOW TONE",
  "qEND LOW TONE,qSHELF,qOPEN SHELF,qLOW LEFT ARROW,aCOMBINING GRAVE ACCENT,kACUTE ACCENT",
  "kCIRCUMFLEX ACCENT,kTILDE,kMACRON,kOVERLINE,kBREVE,kDOT ABOVE,lIAERESIS,kHOOK ABOVE,kRING ABOVE",
  "kDOUBLE ACUTE ACCENT,kCARON,kVERTICAL LINE ABOVE,kDOUBLE VERTICAL LINE ABOVE,rGRAVE ACCENT",
  "kCANDRABINDU,kINVERTED BREVE,kTURNED COMMA ABOVE,kCOMMA ABOVE,kREVERSED COMMA ABOVE",
  "kCOMMA ABOVE RIGHT,kGRAVE ACCENT BELOW,kACUTE ACCENT BELOW,kLEFT TACK BELOW,kRIGHT TACK BELOW",
  "kLEFT ANGLE ABOVE,kHORN,kLEFT HALF RING BELOW,kUP TACK BELOW,kDOWN TACK BELOW,kPLUS SIGN BELOW",
  "kMINUS SIGN BELOW,kPALATALIZED HOOK BELOW,kRETROFLEX HOOK BELOW,kDOT BELOW,lIAERESIS BELOW",
  "kRING BELOW,kCOMMA BELOW,lEDILLA,kOGONEK,kVERTICAL LINE BELOW,kBRIDGE BELOW",
  "kINVERTED DOUBLE ARCH BELOW,kCARON BELOW,lIRCUMFLEX ACCENT BELOW,kBREVE BELOW",
  "kINVERTED BREVE BELOW,kTILDE BELOW,kMACRON BELOW,kLOW LINE,kDOUBLE LOW LINE,kTILDE OVERLAY",
  "kSHORT STROKE OVERLAY,kLONG STROKE OVERLAY,kSHORT SOLIDUS OVERLAY,kLONG SOLIDUS OVERLAY",
  "kRIGHT HALF RING BELOW,kINVERTED BRIDGE BELOW,kSQUARE BELOW,lEAGULL BELOW,kX ABOVE",
  "kVERTICAL TILDE,kDOUBLE OVERLINE,kGRAVE TONE MARK,kACUTE TONE MARK,kGREEK PERISPOMENI,qKORONIS",
  "qDIALYTIKA TONOS,qYPOGEGRAMMENI,kBRIDGE ABOVE,kEQUALS SIGN BELOW,kDOUBLE VERTICAL LINE BELOW",
  "kLEFT ANGLE BELOW,kNOT TILDE ABOVE,kHOMOTHETIC ABOVE,kALMOST EQUAL TO ABOVE",
  "kLEFT RIGHT ARROW BELOW,kUPWARDS ARROW BELOW,kGRAPHEME JOINER,kRIGHT ARROWHEAD ABOVE",
  "kLEFT HALF RING ABOVE,kFERMATA,kX BELOW,kLEFT ARROWHEAD BELOW,kRIGHT ARROWHEAD BELOW",
  "baAND UP ARROWHEAD BELOW,qHALF RING ABOVE,kDOT ABOVE RIGHT,kASTERISK BELOW,kDOUBLE RING BELOW",
  "kZIGZAG ABOVE,kDOUBLE BREVE BELOW,w,rMACRON,x BELOW,rTILDE,rINVERTED BREVE",
  "rRIGHTWARDS ARROW BELOW,kLATIN SMALL LETTER A,bdE,bdI,bdO,bdU,bdC,bdD,bdH,bdM,bdR,bdT,bdV,bdX",
  "aGREEK CAPITAL LETTER HETA,gSMALL LETTER HETA,gCAPITAL LETTER ARCHAIC SAMPI",
  "gSMALL LETTER ARCHAIC SAMPI,gNUMERAL SIGN,gLOWER NUMERAL SIGN",
  "gCAPITAL LETTER PAMPHYLIAN DIGAMMA,gSMALL LETTER PAMPHYLIAN DIGAMMA,37AgYPOGEGRAMMENI",
  "gSMALL REVERSED LUNATE SIGMA SYMBOL,mDOTTED LUNATE SIGMA SYMBOL",
  "mREVERSED DOTTED LUNATE SIGMA SYMBOL,gQUESTION MARK,gCAPITAL LETTER YOT,384gTONOS",
  "gDIALYTIKA TONOS,gCAPITAL LETTER ALPHA WITH TONOS,gANO TELEIA",
  "gCAPITAL LETTER EPSILON WITH TONOS,wTA WITH TONOS,vIOTA WITH TONOS,38CvOMICRON WITH TONOS",
  "38EvUPSILON WITH TONOS,vOMEGA WITH TONOS,gSMALL LETTER IOTA WITH DIALYTIKA AND TONOS",
  "gCAPITAL LETTER ALPHA,vBETA,vGAMMA,vDELTA,vEPSILON,vZETA,vETA,vTHETA,vIOTA,vKAPPA,vLAMDA,vMU",
  "vNU,vXI,vOMICRON,vPI,vRHO,3A3vSIGMA,vTAU,vUPSILON,vPHI,vCHI,vPSI,vOMEGA,vIOTA WITH DIALYTIKA",
  "vUPSILON WITH DIALYTIKA,gSMALL LETTER ALPHA WITH TONOS,tEPSILON WITH TONOS,uTA WITH TONOS",
  "tIOTA WITH TONOS,tUPSILON WITH DIALYTIKA AND TONOS,tALPHA,tBETA,tGAMMA,tDELTA,tEPSILON,tZETA",
  "tETA,tTHETA,tIOTA,tKAPPA,tLAMDA,tMU,tNU,tXI,tOMICRON,tPI,tRHO,tFINAL SIGMA,tSIGMA,tTAU,tUPSILON",
  "tPHI,tCHI,tPSI,tOMEGA,tIOTA WITH DIALYTIKA,tUPSILON WITH DIALYTIKA,tOMICRON WITH TONOS",
  "tUPSILON WITH TONOS,tOMEGA WITH TONOS,gCAPITAL KAI SYMBOL,gBETA SYMBOL,gTHETA SYMBOL",
  "gUPSILON WITH HOOK SYMBOL,tACUTE AND HOOK SYMBOL,tDIAERESIS AND HOOK SYMBOL,gPHI SYMBOL",
  "hI SYMBOL,gKAI SYMBOL,gLETTER ARCHAIC KOPPA,gSMALL LETTER ARCHAIC KOPPA,gLETTER STIGMA",
  "gSMALL LETTER STIGMA,gLETTER DIGAMMA,gSMALL LETTER DIGAMMA,gLETTER KOPPA,gSMALL LETTER KOPPA",
  "gLETTER SAMPI,gSMALL LETTER SAMPI,aCOPTIC CAPITAL LETTER SHEI,hSMALL LETTER SHEI",
  "hCAPITAL LETTER FEI,hSMALL LETTER FEI,hCAPITAL LETTER KHEI,hSMALL LETTER KHEI",
  "hCAPITAL LETTER HORI,hSMALL LETTER HORI,hCAPITAL LETTER GANGIA,hSMALL LETTER GANGIA",
  "hCAPITAL LETTER SHIMA,hSMALL LETTER SHIMA,hCAPITAL LETTER DEI,hSMALL LETTER DEI",
  "aGREEK KAPPA SYMBOL,gRHO SYMBOL,gLUNATE SIGMA SYMBOL,hETTER YOT,gCAPITAL THETA SYMBOL",
  "gLUNATE EPSILON SYMBOL,gREVERSED LUNATE EPSILON SYMBOL,gCAPITAL LETTER SHO,gSMALL LETTER SHO",
  "gCAPITAL LUNATE SIGMA SYMBOL,pETTER SAN,gSMALL LETTER SAN,gRHO WITH STROKE SYMBOL",
  "gCAPITAL REVERSED LUNATE SIGMA SYMBOL,oDOTTED LUNATE SIGMA SYMBOL",
  "oREVERSED DOTTED LUNATE SIGMA SYMBOL,aCYRILLIC CAPITAL LETTER IE WITH GRAVE,zO,yDJE,yGJE",
  "yUKRAINIAN IE,yDZE,yBYELORUSSIAN-UKRAINIAN I,yYI,yJE,yLJE,yNJE,yTSHE,yKJE,yI WITH GRAVE",
  "ySHORT U,yDZHE,yA,yBE,yVE,yGHE,yDE,yIE,yZHE,zE,yI,ySHORT I,yKA,yEL,zM,zN,yO,yPE,yER,zS,yTE,yU",
  "yEF,yHA,yTSE,yCHE,ySHA,baCHA,yHARD SIGN,yYERU,ySOFT SIGN,yE,yYU,zA,jSMALL LETTER A,wBE,wVE,wGHE",
  "wDE,wIE,wZHE,xE,wI,wSHORT I,wKA,wEL,xM,xN,wO,wPE,wER,xS,wTE,wU,wEF,wHA,wTSE,wCHE,wSHA,yCHA",
  "wHARD SIGN,wYERU,wSOFT SIGN,wE,wYU,xA,wIE WITH GRAVE,xO,wDJE,wGJE,wUKRAINIAN IE,wDZE",
  "wBYELORUSSIAN-UKRAINIAN I,wYI,wJE,wLJE,wNJE,wTSHE,wKJE,wI WITH GRAVE,wSHORT U,wDZHE",
  "jCAPITAL LETTER OMEGA,jSMALL LETTER OMEGA,jCAPITAL LETTER YAT,jSMALL LETTER YAT",
  "jCAPITAL LETTER IOTIFIED E,jSMALL LETTER IOTIFIED E,jCAPITAL LETTER LITTLE YUS",
  "jSMALL LETTER LITTLE YUS,jCAPITAL LETTER IOTIFIED LITTLE YUS,jSMALL LETTER IOTIFIED LITTLE YUS",
  "jCAPITAL LETTER BIG YUS,jSMALL LETTER BIG YUS,jCAPITAL LETTER IOTIFIED BIG YUS",
  "jSMALL LETTER IOTIFIED BIG YUS,jCAPITAL LETTER KSI,jSMALL LETTER KSI,jCAPITAL LETTER PSI",
  "jSMALL LETTER PSI,jCAPITAL LETTER FITA,jSMALL LETTER FITA,jCAPITAL LETTER IZHITSA",
  "jSMALL LETTER IZHITSA,jCAPITAL LETTER IZHITSA WITH DOUBLE GRAVE ACCENT",
  "jSMALL LETTER IZHITSA WITH DOUBLE GRAVE ACCENT,jCAPITAL LETTER UK,jSMALL LETTER UK",
  "jCAPITAL LETTER ROUND OMEGA,jSMALL LETTER ROUND OMEGA,jCAPITAL LETTER OMEGA WITH TITLO",
  "jSMALL LETTER OMEGA WITH TITLO,jCAPITAL LETTER OT,jSMALL LETTER OT,jCAPITAL LETTER KOPPA",
  "jSMALL LETTER KOPPA,jTHOUSANDS SIGN,bOMBINING CYRILLIC TITLO,tPALATALIZATION,tDASIA PNEUMATA",
  "tPSILI PNEUMATA,uOKRYTIE,tHUNDRED THOUSANDS SIGN,tMILLIONS SIGN",
  "bYRILLIC CAPITAL LETTER SHORT I WITH TAIL,jSMALL LETTER SHORT I WITH TAIL",
  "jCAPITAL LETTER SEMISOFT SIGN,jSMALL LETTER SEMISOFT SIGN,jCAPITAL LETTER ER WITH TICK",
  "jSMALL LETTER ER WITH TICK,jCAPITAL LETTER GHE WITH UPTURN,jSMALL LETTER GHE WITH UPTURN",
  "jCAPITAL LETTER GHE WITH STROKE,jSMALL LETTER GHE WITH STROKE",
  "jCAPITAL LETTER GHE WITH MIDDLE HOOK,jSMALL LETTER GHE WITH MIDDLE HOOK",
  "jCAPITAL LETTER ZHE WITH DESCENDER,jSMALL LETTER ZHE WITH DESCENDER",
  "jCAPITAL LETTER ZE WITH DESCENDER,jSMALL LETTER ZE WITH DESCENDER",
  "jCAPITAL LETTER KA WITH DESCENDER,jSMALL LETTER KA WITH DESCENDER",
  "jCAPITAL LETTER KA WITH VERTICAL STROKE,jSMALL LETTER KA WITH VERTICAL STROKE",
  "jCAPITAL LETTER KA WITH STROKE,jSMALL LETTER KA WITH STROKE,jCAPITAL LETTER BASHKIR KA",
  "jSMALL LETTER BASHKIR KA,jCAPITAL LETTER EN WITH DESCENDER,jSMALL LETTER EN WITH DESCENDER",
  "jCAPITAL LIGATURE EN GHE,jSMALL LIGATURE EN GHE,jCAPITAL LETTER PE WITH MIDDLE HOOK",
  "jSMALL LETTER PE WITH MIDDLE HOOK,jCAPITAL LETTER ABKHASIAN HA,jSMALL LETTER ABKHASIAN HA",
  "jCAPITAL LETTER ES WITH DESCENDER,jSMALL LETTER ES WITH DESCENDER",
  "jCAPITAL LETTER TE WITH DESCENDER,jSMALL LETTER TE WITH DESCENDER,jCAPITAL LETTER STRAIGHT U",
  "jSMALL LETTER STRAIGHT U,jCAPITAL LETTER STRAIGHT U WITH STROKE",
  "jSMALL LETTER STRAIGHT U WITH STROKE,jCAPITAL LETTER HA WITH DESCENDER",
  "jSMALL LETTER HA WITH DESCENDER,jCAPITAL LIGATURE TE TSE,jSMALL LIGATURE TE TSE",
  "jCAPITAL LETTER CHE WITH DESCENDER,jSMALL LETTER CHE WITH DESCENDER",
  "jCAPITAL LETTER CHE WITH VERTICAL STROKE,jSMALL LETTER CHE WITH VERTICAL STROKE",
  "jCAPITAL LETTER SHHA,jSMALL LETTER SHHA,jCAPITAL LETTER ABKHASIAN CHE",
  "jSMALL LETTER ABKHASIAN CHE,jCAPITAL LETTER ABKHASIAN CHE WITH DESCENDER",
  "jSMALL LETTER ABKHASIAN CHE WITH DESCENDER,jLETTER PALOCHKA,jCAPITAL LETTER ZHE WITH BREVE",
  "jSMALL LETTER ZHE WITH BREVE,jCAPITAL LETTER KA WITH HOOK,jSMALL LETTER KA WITH HOOK",
  "jCAPITAL LETTER EL WITH TAIL,jSMALL LETTER EL WITH TAIL,jCAPITAL LETTER EN WITH HOOK",
  "jSMALL LETTER EN WITH HOOK,jCAPITAL LETTER EN WITH TAIL,jSMALL LETTER EN WITH TAIL",
  "jCAPITAL LETTER KHAKASSIAN CHE,jSMALL LETTER KHAKASSIAN CHE,jCAPITAL LETTER EM WITH TAIL",
  "jSMALL LETTER EM WITH TAIL,wPALOCHKA,jCAPITAL LETTER A WITH BREVE,jSMALL LETTER A WITH BREVE",
  "jCAPITAL LETTER A WITH DIAERESIS,jSMALL LETTER A WITH DIAERESIS,jCAPITAL LIGATURE A IE",
  "jSMALL LIGATURE A IE,jCAPITAL LETTER IE WITH BREVE,jSMALL LETTER IE WITH BREVE",
  "jCAPITAL LETTER SCHWA,jSMALL LETTER SCHWA,jCAPITAL LETTER SCHWA WITH DIAERESIS",
  "jSMALL LETTER SCHWA WITH DIAERESIS,jCAPITAL LETTER ZHE WITH DIAERESIS",
  "jSMALL LETTER ZHE WITH DIAERESIS,jCAPITAL LETTER ZE WITH DIAERESIS",
  "jSMALL LETTER ZE WITH DIAERESIS,jCAPITAL LETTER ABKHASIAN DZE,jSMALL LETTER ABKHASIAN DZE",
  "jCAPITAL LETTER I WITH MACRON,jSMALL LETTER I WITH MACRON,jCAPITAL LETTER I WITH DIAERESIS",
  "jSMALL LETTER I WITH DIAERESIS,jCAPITAL LETTER O WITH DIAERESIS,jSMALL LETTER O WITH DIAERESIS",
  "jCAPITAL LETTER BARRED O,jSMALL LETTER BARRED O,jCAPITAL LETTER BARRED O WITH DIAERESIS",
  "jSMALL LETTER BARRED O WITH DIAERESIS,jCAPITAL LETTER E WITH DIAERESIS",
  "jSMALL LETTER E WITH DIAERESIS,jCAPITAL LETTER U WITH MACRON,jSMALL LETTER U WITH MACRON",
  "jCAPITAL LETTER U WITH DIAERESIS,jSMALL LETTER U WITH DIAERESIS",
  "jCAPITAL LETTER U WITH DOUBLE ACUTE,jSMALL LETTER U WITH DOUBLE ACUTE",
  "jCAPITAL LETTER CHE WITH DIAERESIS,jSMALL LETTER CHE WITH DIAERESIS",
  "jCAPITAL LETTER GHE WITH DESCENDER,jSMALL LETTER GHE WITH DESCENDER",
  "jCAPITAL LETTER YERU WITH DIAERESIS,jSMALL LETTER YERU WITH DIAERESIS",
  "jCAPITAL LETTER GHE WITH STROKE AND HOOK,jSMALL LETTER GHE WITH STROKE AND HOOK",
  "jCAPITAL LETTER HA WITH HOOK,jSMALL LETTER HA WITH HOOK,jCAPITAL LETTER HA WITH STROKE",
  "jSMALL LETTER HA WITH STROKE,jCAPITAL LETTER KOMI DE,jSMALL LETTER KOMI DE",
  "jCAPITAL LETTER KOMI DJE,jSMALL LETTER KOMI DJE,jCAPITAL LETTER KOMI ZJE,jSMALL LETTER KOMI ZJE",
  "jCAPITAL LETTER KOMI DZJE,jSMALL LETTER KOMI DZJE,jCAPITAL LETTER KOMI LJE",
  "jSMALL LETTER KOMI LJE,jCAPITAL LETTER KOMI NJE,jSMALL LETTER KOMI NJE,jCAPITAL LETTER KOMI SJE",
  "jSMALL LETTER KOMI SJE,jCAPITAL LETTER KOMI TJE,jSMALL LETTER KOMI TJE",
  "jCAPITAL LETTER REVERSED ZE,jSMALL LETTER REVERSED ZE,jCAPITAL LETTER EL WITH HOOK",
  "jSMALL LETTER EL WITH HOOK,jCAPITAL LETTER LHA,jSMALL LETTER LHA,jCAPITAL LETTER RHA",
  "jSMALL LETTER RHA,jCAPITAL LETTER YAE,jSMALL LETTER YAE,jCAPITAL LETTER QA,jSMALL LETTER QA",
  "jCAPITAL LETTER WE,jSMALL LETTER WE,jCAPITAL LETTER ALEUT KA,jSMALL LETTER ALEUT KA",
  "jCAPITAL LETTER EL WITH MIDDLE HOOK,jSMALL LETTER EL WITH MIDDLE HOOK",
  "jCAPITAL LETTER EN WITH MIDDLE HOOK,jSMALL LETTER EN WITH MIDDLE HOOK",
  "jCAPITAL LETTER PE WITH DESCENDER,jSMALL LETTER PE WITH DESCENDER",
  "jCAPITAL LETTER SHHA WITH DESCENDER,jSMALL LETTER SHHA WITH DESCENDER",
  "jCAPITAL LETTER EN WITH LEFT HOOK,jSMALL LETTER EN WITH LEFT HOOK,jCAPITAL LETTER DZZHE",
  "jSMALL LETTER DZZHE,jCAPITAL LETTER DCHE,jSMALL LETTER DCHE,jCAPITAL LETTER EL WITH DESCENDER",
  "jSMALL LETTER EL WITH DESCENDER,531aARMENIAN CAPITAL LETTER AYB,yBEN,yGIM,yDA,yECH,yZA,yEH,zT",
  "yTO,yZHE,yINI,yLIWN,yXEH,yCA,yKEN,yHO,yJA,yGHAD,yCHEH,yMEN,yYI,yNOW,ySHA,yVO,yCHA,yPEH,yJHEH",
  "yRA,ySEH,yVEW,yTIWN,yREH,yCO,yYIWN,yPIWR,yKEH,yOH,yFEH,559jMODIFIER LETTER LEFT HALF RING",
  "jAPOSTROPHE,jEMPHASIS MARK,kXCLAMATION MARK,jCOMMA,jQUESTION MARK,jABBREVIATION MARK",
  "jSMALL LETTER TURNED AYB,wAYB,wBEN,wGIM,wDA,wECH,wZA,wEH,xT,wTO,wZHE,wINI,wLIWN,wXEH,wCA,wKEN",
  "wHO,wJA,wGHAD,wCHEH,wMEN,wYI,wNOW,wSHA,wVO,wCHA,wPEH,wJHEH,wRA,wSEH,wVEW,wTIWN,wREH,wCO,wYIWN",
  "wPIWR,wKEH,wOH,wFEH,qIGATURE ECH YIWN,qETTER YI WITH STROKE,jFULL STOP,jHYPHEN",
  "58DaRIGHT-FACING ARMENIAN ETERNITY SIGN,aLEFT-FACING ARMENIAN ETERNITY SIGN,aARMENIAN DRAM SIGN"]

end Docblock.Text.Names
