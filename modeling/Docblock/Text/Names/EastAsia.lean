/-!
# Names of characters, 2C00 to FFFF

The packed names of the characters from 2C00 to FFFF: the later scripts of the basic plane, most
of them East Asian.
-/

namespace Docblock.Text.Names

/-- Packed names, in the order of their characters. -/
def eastAsia : List String := [
  "2C00aGLAGOLITIC CAPITAL LETTER AZU,baBUKY,baVEDE,baGLAGOLI,baDOBRO,baYESTU,baZHIVETE,baDZELO",
  "baZEMLJA,baIZHE,bbNITIAL IZHE,bb,baDJERVI,baKAKO,baLJUDIJE,baMYSLITE,baNASHI,baONU,baPOKOJI",
  "baRITSI,baSLOVO,baTVRIDO,baUKU,baFRITU,baHERU,baOTU,baPE,baSHTA,baTSI,baCHRIVI,baSHA,baYERU,bdI",
  "bbATI,baSPIDERY HA,baYU,baSMALL YUS,bj WITH TAIL,baYO,baIOTATED SMALL YUS,baBIG YUS",
  "baIOTATED BIG YUS,baFITA,baIZHITSA,baSHTAPIC,baTROKUTASTI A,baLATINATE MYSLITE,baCAUDATE CHRIVI",
  "lSMALL LETTER AZU,yBUKY,yVEDE,yGLAGOLI,yDOBRO,yYESTU,yZHIVETE,yDZELO,yZEMLJA,yIZHE,zNITIAL IZHE",
  "z,yDJERVI,yKAKO,yLJUDIJE,yMYSLITE,yNASHI,yONU,yPOKOJI,yRITSI,ySLOVO,yTVRIDO,yUKU,yFRITU,yHERU",
  "yOTU,yPE,ySHTA,yTSI,yCHRIVI,ySHA,yYERU,bbI,zATI,ySPIDERY HA,yYU,ySMALL YUS,bh WITH TAIL,yYO",
  "yIOTATED SMALL YUS,yBIG YUS,yIOTATED BIG YUS,yFITA,yIZHITSA,ySHTAPIC,yTROKUTASTI A",
  "yLATINATE MYSLITE,yCAUDATE CHRIVI,aLATIN CAPITAL LETTER L WITH DOUBLE BAR",
  "gSMALL LETTER L WITH DOUBLE BAR,gCAPITAL LETTER L WITH MIDDLE TILDE,vP WITH STROKE,vR WITH TAIL",
  "gSMALL LETTER A WITH STROKE,tT WITH DIAGONAL STROKE,gCAPITAL LETTER H WITH DESCENDER",
  "gSMALL LETTER H WITH DESCENDER,gCAPITAL LETTER K WITH DESCENDER,gSMALL LETTER K WITH DESCENDER",
  "gCAPITAL LETTER Z WITH DESCENDER,gSMALL LETTER Z WITH DESCENDER,gCAPITAL LETTER ALPHA",
  "vM WITH HOOK,vTURNED A,bdLPHA,gSMALL LETTER V WITH RIGHT HOOK,gCAPITAL LETTER W WITH HOOK",
  "gSMALL LETTER W WITH HOOK,tV WITH CURL,gCAPITAL LETTER HALF H,gSMALL LETTER HALF H",
  "tTAILLESS PHI,tE WITH NOTCH,tTURNED R WITH TAIL,tO WITH LOW RING INSIDE",
  "gLETTER SMALL CAPITAL TURNED E,gSUBSCRIPT SMALL LETTER J,aMODIFIER LETTER CAPITAL V",
  "aLATIN CAPITAL LETTER S WITH SWASH TAIL,vZ WITH SWASH TAIL,aCOPTIC CAPITAL LETTER ALFA",
  "hSMALL LETTER ALFA,hCAPITAL LETTER VIDA,hSMALL LETTER VIDA,hCAPITAL LETTER GAMMA",
  "hSMALL LETTER GAMMA,hCAPITAL LETTER DALDA,hSMALL LETTER DALDA,hCAPITAL LETTER EIE",
  "hSMALL LETTER EIE,hCAPITAL LETTER SOU,hSMALL LETTER SOU,hCAPITAL LETTER ZATA,hSMALL LETTER ZATA",
  "hCAPITAL LETTER HATE,hSMALL LETTER HATE,hCAPITAL LETTER THETHE,hSMALL LETTER THETHE",
  "hCAPITAL LETTER IAUDA,hSMALL LETTER IAUDA,hCAPITAL LETTER KAPA,hSMALL LETTER KAPA",
  "hCAPITAL LETTER LAULA,hSMALL LETTER LAULA,hCAPITAL LETTER MI,hSMALL LETTER MI",
  "hCAPITAL LETTER NI,hSMALL LETTER NI,hCAPITAL LETTER KSI,hSMALL LETTER KSI,hCAPITAL LETTER O",
  "hSMALL LETTER O,hCAPITAL LETTER PI,hSMALL LETTER PI,hCAPITAL LETTER RO,hSMALL LETTER RO",
  "hCAPITAL LETTER SIMA,hSMALL LETTER SIMA,hCAPITAL LETTER TAU,hSMALL LETTER TAU",
  "hCAPITAL LETTER UA,hSMALL LETTER UA,hCAPITAL LETTER FI,hSMALL LETTER FI,hCAPITAL LETTER KHI",
  "hSMALL LETTER KHI,hCAPITAL LETTER PSI,hSMALL LETTER PSI,hCAPITAL LETTER OOU,hSMALL LETTER OOU",
  "hCAPITAL LETTER DIALECT-P ALEF,hSMALL LETTER DIALECT-P ALEF,hCAPITAL LETTER OLD COPTIC AIN",
  "hSMALL LETTER OLD COPTIC AIN,hCAPITAL LETTER CRYPTOGRAMMIC EIE,hSMALL LETTER CRYPTOGRAMMIC EIE",
  "hCAPITAL LETTER DIALECT-P KAPA,hSMALL LETTER DIALECT-P KAPA,hCAPITAL LETTER DIALECT-P NI",
  "hSMALL LETTER DIALECT-P NI,hCAPITAL LETTER CRYPTOGRAMMIC NI,hSMALL LETTER CRYPTOGRAMMIC NI",
  "hCAPITAL LETTER OLD COPTIC OOU,hSMALL LETTER OLD COPTIC OOU,hCAPITAL LETTER SAMPI",
  "hSMALL LETTER SAMPI,hCAPITAL LETTER CROSSED SHEI,hSMALL LETTER CROSSED SHEI",
  "hCAPITAL LETTER OLD COPTIC SHEI,hSMALL LETTER OLD COPTIC SHEI,hCAPITAL LETTER OLD COPTIC ESH",
  "hSMALL LETTER OLD COPTIC ESH,hCAPITAL LETTER AKHMIMIC KHEI,hSMALL LETTER AKHMIMIC KHEI",
  "hCAPITAL LETTER DIALECT-P HORI,hSMALL LETTER DIALECT-P HORI,hCAPITAL LETTER OLD COPTIC HORI",
  "hSMALL LETTER OLD COPTIC HORI,hCAPITAL LETTER OLD COPTIC HA,hSMALL LETTER OLD COPTIC HA",
  "hCAPITAL LETTER L-SHAPED HA,hSMALL LETTER L-SHAPED HA,hCAPITAL LETTER OLD COPTIC HEI",
  "hSMALL LETTER OLD COPTIC HEI,hCAPITAL LETTER OLD COPTIC HAT,hSMALL LETTER OLD COPTIC HAT",
  "hCAPITAL LETTER OLD COPTIC GANGIA,hSMALL LETTER OLD COPTIC GANGIA",
  "hCAPITAL LETTER OLD COPTIC DJA,hSMALL LETTER OLD COPTIC DJA,hCAPITAL LETTER OLD COPTIC SHIMA",
  "hSMALL LETTER OLD COPTIC SHIMA,hCAPITAL LETTER OLD NUBIAN SHIMA,hSMALL LETTER OLD NUBIAN SHIMA",
  "hCAPITAL LETTER OLD NUBIAN NGI,hSMALL LETTER OLD NUBIAN NGI,hCAPITAL LETTER OLD NUBIAN NYI",
  "hSMALL LETTER OLD NUBIAN NYI,hCAPITAL LETTER OLD NUBIAN WAU,hSMALL LETTER OLD NUBIAN WAU",
  "iYMBOL KAI,oMI RO,oPI RO,oSTAUROS,oTAU RO,oKHI RO,oSHIMA SIMA",
  "hCAPITAL LETTER CRYPTOGRAMMIC SHEI,hSMALL LETTER CRYPTOGRAMMIC SHEI",
  "hCAPITAL LETTER CRYPTOGRAMMIC GANGIA,hSMALL LETTER CRYPTOGRAMMIC GANGIA,hCOMBINING NI ABOVE",
  "rSPIRITUS ASPER,baLENIS,iAPITAL LETTER BOHAIRIC KHEI,hSMALL LETTER BOHAIRIC KHEI",
  "2CF9hOLD NUBIAN FULL STOP,sDIRECT QUESTION MARK,sINDIRECT QUESTION MARK,sVERSE DIVIDER",
  "hFRACTION ONE HALF,iULL STOP,hMORPHOLOGICAL DIVIDER,aGEORGIAN SMALL LETTER AN,wBAN,wGAN,wDON",
  "wEN,wVIN,wZEN,wTAN,wIN,wKAN,wLAS,wMAN,wNAR,wON,wPAR,wZHAR,wRAE,wSAN,wTAR,wUN,wPHAR,wKHAR,wGHAN",
  "wQAR,wSHIN,wCHIN,xAN,wJIL,wCIL,xHAR,wXAN,wJHAN,wHAE,xE,xIE,wWE,wHAR,xOE,2D27wYN,2D2DwAEN",
  "2D30aTIFINAGH LETTER YA,sB,tH,sG,tHH,qBERBER ACADEMY YAJ,qYAJ,sD,tH,tD,uH,rEY,rAF,sK",
  "qTUAREG YAK,qYAKHH,sH,qBERBER ACADEMY YAH,qTUAREG YAH,qYAHH,sA,sKH,qTUAREG YAKH,qYAQ",
  "qTUAREG YAQ,qYI,rAZH,qAHAGGAR YAZH,qTUAREG YAZH,qYAL,sM,sN,qTUAREG YAGN,zNG,qYAP,rU,rAR,tR,sGH",
  "qTUAREG YAGH,qAYER YAGH,qYAS,tS,tH,sT,tH,sCH,sTT,sV,sW,sY,sZ,qTAWELLEMET YAZ,qYAZZ,rE,rO",
  "2D6FjMODIFIER LETTER LABIALIZATION MARK,jSEPARATOR MARK,2D7FjCONSONANT JOINER",
  "aETHIOPIC SYLLABLE LOA,sMOA,sROA,sSOA,tHOA,sBOA,sTOA,sCOA,sNOA,tYOA,sGLOTTAL OA,sZOA,sDOA,tDOA",
  "sJOA,sTHOA,sCHOA,sPHOA,tOA,sGGWA,vI,vEE,w,2DA0sSSA,uU,uI,uAA,uEE,v,uO,2DA8sCCA,uU,uI,uAA,uEE,v",
  "uO,2DB0sZZA,uU,uI,uAA,uEE,v,uO,2DB8sCCHA,vU,vI,vAA,vEE,w,vO,2DC0sQYA,uU,uI,uAA,uEE,v,uO",
  "2DC8sKYA,uU,uI,uAA,uEE,v,uO,2DD0sXYA,uU,uI,uAA,uEE,v,uO,2DD8sGYA,uU,uI,uAA,uEE,v,uO",
  "2DE0aCOMBINING CYRILLIC LETTER BE,baVE,baGHE,baDE,baZHE,bbE,baKA,baEL,bbM,bbN,baO,baPE,baER,bbS",
  "baTE,baHA,baTSE,baCHE,baSHA,bcCHA,baFITA,baES-TE,baA,baIE,baDJERV,baMONOGRAPH UK,baYAT,bbU",
  "baIOTIFIED A,baLITTLE YUS,baBIG YUS,baIOTIFIED BIG YUS,aRIGHT ANGLE SUBSTITUTION MARKER",
  "mDOTTED SUBSTITUTION MARKER,aLEFT SUBSTITUTION BRACKET,aRIGHT SUBSTITUTION BRACKET",
  "aLEFT DOTTED SUBSTITUTION BRACKET,aRIGHT DOTTED SUBSTITUTION BRACKET",
  "bAISED INTERPOLATION MARKER,hDOTTED INTERPOLATION MARKER,aDOTTED TRANSPOSITION MARKER",
  "aLEFT TRANSPOSITION BRACKET,aRIGHT TRANSPOSITION BRACKET,bAISED SQUARE",
  "aLEFT RAISED OMISSION BRACKET,aRIGHT RAISED OMISSION BRACKET,aEDITORIAL CORONIS,aPARAGRAPHOS",
  "aFORKED PARAGRAPHOS,aREVERSED FORKED PARAGRAPHOS,aHYPODIASTOLE,aDOTTED OBELOS,cWNWARDS ANCORA",
  "aUPWARDS ANCORA,aDOTTED RIGHT-POINTING ANGLE,cUBLE OBLIQUE HYPHEN,aINVERTED INTERROBANG",
  "aPALM BRANCH,aHYPHEN WITH DIAERESIS,aTILDE WITH RING ABOVE,aLEFT LOW PARAPHRASE BRACKET",
  "aRIGHT LOW PARAPHRASE BRACKET,aTILDE WITH DOT ABOVE,pBELOW,aLEFT VERTICAL BAR WITH QUILL",
  "aRIGHT VERTICAL BAR WITH QUILL,aTOP LEFT HALF BRACKET,eRIGHT HALF BRACKET",
  "aBOTTOM LEFT HALF BRACKET,hRIGHT HALF BRACKET,aLEFT SIDEWAYS U BRACKET",
  "aRIGHT SIDEWAYS U BRACKET,aLEFT DOUBLE PARENTHESIS,aRIGHT DOUBLE PARENTHESIS",
  "aTWO DOTS OVER ONE DOT PUNCTUATION,aONE DOT OVER TWO DOTS PUNCTUATION",
  "aSQUARED FOUR DOT PUNCTUATION,aFIVE DOT MARK,aREVERSED QUESTION MARK,aVERTICAL TILDE",
  "aRING POINT,aWORD SEPARATOR MIDDLE DOT,aTURNED COMMA,aRAISED DOT,hCOMMA,aTURNED SEMICOLON",
  "aDAGGER WITH LEFT GUARD,mRIGHT GUARD,aTURNED DAGGER,bOP HALF SECTION SIGN,bWO-EM DASH",
  "bHREE-EM DASH,aSTENOGRAPHIC FULL STOP,aVERTICAL SIX DOTS,aWIGGLY VERTICAL LINE,aCAPITULUM",
  "aDOUBLE HYPHEN,aREVERSED COMMA,aDOUBLE LOW-REVERSED-9 QUOTATION MARK,bASH WITH LEFT UPTURN",
  "bOUBLE SUSPENSION MARK,aINVERTED LOW KAVYKA,t WITH KAVYKA ABOVE,aLOW KAVYKA,k WITH DOT",
  "aDOUBLE STACKED COMMA,cTTED SOLIDUS,aTRIPLE DAGGER,aMEDIEVAL COMMA,aPARAGRAPHUS MARK",
  "bUNCTUS ELEVATUS MARK,aCORNISH VERSE DIVIDER,bROSS PATTY WITH RIGHT CROSSBAR,rLEFT CROSSBAR",
  "aTIRONIAN SIGN CAPITAL ET,aMEDIEVAL EXCLAMATION MARK,jQUESTION MARK",
  "aLEFT SQUARE BRACKET WITH STROKE,aRIGHT SQUARE BRACKET WITH STROKE",
  "aLEFT SQUARE BRACKET WITH DOUBLE STROKE,aRIGHT SQUARE BRACKET WITH DOUBLE STROKE",
  "aTOP HALF LEFT PARENTHESIS,jRIGHT PARENTHESIS,aBOTTOM HALF LEFT PARENTHESIS,mRIGHT PARENTHESIS",
  "aOBLIQUE HYPHEN,2E80aCJK RADICAL REPEAT,mCLIFF,mSECOND ONE,tTWO,uHREE,mPERSON,mBOX,mTABLE",
  "mKNIFE ONE,sTWO,mDIVINATION,mSEAL,nMALL ONE,sTWO,mLAME ONE,rTWO,sHREE,rFOUR,mSNAKE,mTHREAD",
  "mSNOUT ONE,sTWO,mHEART ONE,sTWO,nAND,mRAP,2E9BmCHOKE,mSUN,mMOON,mDEATH,mMOTHER,mCIVILIAN",
  "mWATER ONE,sTWO,mFIRE,mPAW ONE,qTWO,mSIMPLIFIED HALF TREE TRUNK,mCOW,mDOG,mJADE,mBOLT OF CLOTH",
  "mEYE,mSPIRIT ONE,tTWO,mBAMBOO,mSILK,mC-SIMPLIFIED SILK,mNET ONE,qTWO,rHREE,qFOUR,mMESH,mSHEEP",
  "mRAM,mEWE,mOLD,mBRUSH ONE,sTWO,mMEAT,nORTAR,mGRASS ONE,sTWO,tHREE,mTIGER,mCLOTHES,mWEST ONE",
  "rTWO,mC-SIMPLIFIED SEE,mSIMPLIFIED HORN,mHORN,mC-SIMPLIFIED SPEECH,baHELL,mFOOT",
  "mC-SIMPLIFIED CART,mSIMPLIFIED WALK,mWALK ONE,rTWO,mCITY,n-SIMPLIFIED GOLD,mLONG ONE,rTWO",
  "mC-SIMPLIFIED LONG,zGATE,mMOUND ONE,sTWO,mRAIN,mBLUE,mC-SIMPLIFIED TANNED LEATHER,zLEAF,zWIND",
  "zFLY,mEAT ONE,qTWO,rHREE,mC-SIMPLIFIED EAT,mHEAD,mC-SIMPLIFIED HORSE,mBONE,mGHOST",
  "mC-SIMPLIFIED FISH,zBIRD,zSALT,mSIMPLIFIED WHEAT,xYELLOW,mC-SIMPLIFIED FROG,mJ-SIMPLIFIED EVEN",
  "mC-SIMPLIFIED EVEN,mJ-SIMPLIFIED TOOTH,mC-SIMPLIFIED TOOTH,mJ-SIMPLIFIED DRAGON",
  "mC-SIMPLIFIED DRAGON,mTURTLE,mJ-SIMPLIFIED TURTLE,mC-SIMPLIFIED TURTLE,2F00aKANGXI RADICAL ONE",
  "pLINE,pDOT,pSLASH,qECOND,pHOOK,pTWO,pLID,pMAN,pLEGS,pENTER,qIGHT,pDOWN BOX,pCOVER,pICE,pTABLE",
  "pOPEN BOX,pKNIFE,pPOWER,pWRAP,pSPOON,pRIGHT OPEN BOX,pHIDING ENCLOSURE,pTEN,pDIVINATION,pSEAL",
  "pCLIFF,pPRIVATE,pAGAIN,pMOUTH,pENCLOSURE,qARTH,pSCHOLAR,pGO,r SLOWLY,pEVENING,pBIG,pWOMAN",
  "pCHILD,pROOF,pINCH,pSMALL,pLAME,pCORPSE,pSPROUT,pMOUNTAIN,pRIVER,pWORK,pONESELF,pTURBAN,pDRY",
  "pSHORT THREAD,pDOTTED CLIFF,pLONG STRIDE,pTWO HANDS,pSHOOT,pBOW,pSNOUT,pBRISTLE,pSTEP,pHEART",
  "qALBERD,pDOOR,pHAND,pBRANCH,pRAP,pSCRIPT,pDIPPER,pAXE,pSQUARE,pNOT,pSUN,qAY,pMOON,pTREE,pLACK",
  "pSTOP,pDEATH,pWEAPON,pDO NOT,pCOMPARE,pFUR,pCLAN,pSTEAM,pWATER,pFIRE,pCLAW,pFATHER,pDOUBLE X",
  "pHALF TREE TRUNK,pSLICE,pFANG,pCOW,pDOG,pPROFOUND,pJADE,pMELON,pTILE,pSWEET,pLIFE,pUSE,pFIELD",
  "pBOLT OF CLOTH,pSICKNESS,pDOTTED TENT,pWHITE,pSKIN,pDISH,pEYE,pSPEAR,pARROW,pSTONE,qPIRIT",
  "pTRACK,pGRAIN,pCAVE,pSTAND,pBAMBOO,pRICE,pSILK,pJAR,pNET,pSHEEP,pFEATHER,pOLD,pAND,pPLOW,pEAR",
  "pBRUSH,pMEAT,qINISTER,pSELF,pARRIVE,pMORTAR,pTONGUE,pOPPOSE,pBOAT,pSTOPPING,pCOLOR,pGRASS",
  "pTIGER,pINSECT,pBLOOD,pWALK ENCLOSURE,pCLOTHES,pWEST,pSEE,pHORN,pSPEECH,pVALLEY,pBEAN,pPIG",
  "pBADGER,pSHELL,pRED,qUN,pFOOT,pBODY,pCART,pBITTER,pMORNING,pWALK,pCITY,pWINE,pDISTINGUISH",
  "pVILLAGE,pGOLD,pLONG,pGATE,pMOUND,pSLAVE,qHORT TAILED BIRD,pRAIN,pBLUE,pWRONG,pFACE,pLEATHER",
  "pTANNED LEATHER,pLEEK,pSOUND,pLEAF,pWIND,pFLY,pEAT,pHEAD,pFRAGRANT,pHORSE,pBONE,pTALL,pHAIR",
  "pFIGHT,pSACRIFICIAL WINE,pCAULDRON,pGHOST,pFISH,pBIRD,pSALT,pDEER,pWHEAT,pHEMP,pYELLOW,pMILLET",
  "pBLACK,pEMBROIDERY,pFROG,pTRIPOD,pDRUM,pRAT,pNOSE,pEVEN,pTOOTH,pDRAGON,pTURTLE,pFLUTE",
  "2FF0aIDEOGRAPHIC DESCRIPTION CHARACTER LEFT TO RIGHT,biABOVE TO BELOW",
  "biLEFT TO MIDDLE AND RIGHT,biABOVE TO MIDDLE AND BELOW,biFULL SURROUND,biSURROUND FROM ABOVE",
  "bwBELOW,bwLEFT,bwUPPER LEFT,ccRIGHT,bwLOWER LEFT,biOVERLAID,3000mSPACE,mCOMMA,mFULL STOP",
  "aDITTO MARK,aJAPANESE INDUSTRIAL STANDARD SYMBOL,aIDEOGRAPHIC ITERATION MARK,mCLOSING MARK",
  "mNUMBER ZERO,aLEFT ANGLE BRACKET,aRIGHT ANGLE BRACKET,aLEFT DOUBLE ANGLE BRACKET",
  "aRIGHT DOUBLE ANGLE BRACKET,aLEFT CORNER BRACKET,aRIGHT CORNER BRACKET",
  "aLEFT WHITE CORNER BRACKET,aRIGHT WHITE CORNER BRACKET,aLEFT BLACK LENTICULAR BRACKET",
  "aRIGHT BLACK LENTICULAR BRACKET,aPOSTAL MARK,aGETA MARK,aLEFT TORTOISE SHELL BRACKET",
  "aRIGHT TORTOISE SHELL BRACKET,aLEFT WHITE LENTICULAR BRACKET,aRIGHT WHITE LENTICULAR BRACKET",
  "aLEFT WHITE TORTOISE SHELL BRACKET,aRIGHT WHITE TORTOISE SHELL BRACKET",
  "aLEFT WHITE SQUARE BRACKET,aRIGHT WHITE SQUARE BRACKET,aWAVE DASH",
  "aREVERSED DOUBLE PRIME QUOTATION MARK,aDOUBLE PRIME QUOTATION MARK",
  "aLOW DOUBLE PRIME QUOTATION MARK,aPOSTAL MARK FACE,aHANGZHOU NUMERAL ONE,rTWO,sHREE,rFOUR,sIVE",
  "rSIX,sEVEN,rEIGHT,rNINE,aIDEOGRAPHIC LEVEL TONE MARK,mRISING TONE MARK,mDEPARTING TONE MARK",
  "mENTERING TONE MARK,aHANGUL SINGLE DOT TONE MARK,hDOUBLE DOT TONE MARK,aWAVY DASH",
  "aVERTICAL KANA REPEAT MARK,vWITH VOICED SOUND MARK,vMARK UPPER HALF",
  "vWITH VOICED SOUND MARK UPPER HALF,vMARK LOWER HALF,aCIRCLED POSTAL MARK",
  "aIDEOGRAPHIC TELEGRAPH LINE FEED SEPARATOR SYMBOL,aHANGZHOU NUMERAL TEN,sWENTY,sHIRTY",
  "aVERTICAL IDEOGRAPHIC ITERATION MARK,aMASU MARK,aPART ALTERNATION MARK",
  "aIDEOGRAPHIC VARIATION INDICATOR,mHALF FILL SPACE,3041aHIRAGANA LETTER SMALL A,qA,qSMALL I,qI",
  "qSMALL U,qU,qSMALL E,qE,qSMALL O,qO,qKA,qGA,qKI,qGI,qKU,qGU,qKE,qGE,qKO,qGO,qSA,qZA,qSI,qZI,qSU",
  "qZU,qSE,qZE,qSO,qZO,qTA,qDA,qTI,qDI,qSMALL TU,qTU,qDU,qTE,qDE,qTO,qDO,qNA,rI,rU,rE,rO,qHA,qBA",
  "qPA,qHI,qBI,qPI,qHU,qBU,qPU,qHE,qBE,qPE,qHO,qBO,qPO,qMA,rI,rU,rE,rO,qSMALL YA,qYA,qSMALL YU,qYU",
  "qSMALL YO,qYO,qRA,rI,rU,rE,rO,qSMALL WA,qWA,rI,rE,rO,qN,qVU,qSMALL KA,xE",
  "3099aCOMBINING KATAKANA-HIRAGANA VOICED SOUND MARK,bcSEMI-VOICED SOUND MARK",
  "aKATAKANA-HIRAGANA VOICED SOUND MARK,sSEMI-VOICED SOUND MARK,aHIRAGANA ITERATION MARK",
  "jVOICED ITERATION MARK,jDIGRAPH YORI,aKATAKANA-HIRAGANA DOUBLE HYPHEN,i LETTER SMALL A,qA",
  "qSMALL I,qI,qSMALL U,qU,qSMALL E,qE,qSMALL O,qO,qKA,qGA,qKI,qGI,qKU,qGU,qKE,qGE,qKO,qGO,qSA,qZA",
  "qSI,qZI,qSU,qZU,qSE,qZE,qSO,qZO,qTA,qDA,qTI,qDI,qSMALL TU,qTU,qDU,qTE,qDE,qTO,qDO,qNA,rI,rU,rE",
  "rO,qHA,qBA,qPA,qHI,qBI,qPI,qHU,qBU,qPU,qHE,qBE,qPE,qHO,qBO,qPO,qMA,rI,rU,rE,rO,qSMALL YA,qYA",
  "qSMALL YU,qYU,qSMALL YO,qYO,qRA,rI,rU,rE,rO,qSMALL WA,qWA,rI,rE,rO,qN,qVU,qSMALL KA,xE,qVA,rI",
  "rE,rO,jMIDDLE DOT,i-HIRAGANA PROLONGED SOUND MARK,i ITERATION MARK,jVOICED ITERATION MARK",
  "jDIGRAPH KOTO,3105aBOPOMOFO LETTER B,qP,qM,qF,qD,qT,qN,qL,qG,qK,qH,qJ,qQ,qX,qZH,qCH,qSH,qR,qZ",
  "qC,qS,qA,qO,qE,rH,qAI,qEI,qAU,qOU,qAN,qEN,qANG,qENG,rR,qI,qU,qIU,qV,qNG,qGN,qIH",
  "qO WITH DOT ABOVE,qNN,3131aHANGUL LETTER KIYEOK,oSSANGKIYEOK,oKIYEOK-SIOS,oNIEUN,t-CIEUC,uHIEUH",
  "oTIKEUT,oSSANGTIKEUT,oRIEUL,t-KIYEOK,uMIEUM,uPIEUP,uSIOS,uTHIEUTH,uPHIEUPH,uHIEUH,oMIEUM,oPIEUP",
  "oSSANGPIEUP,oPIEUP-SIOS,oSIOS,pSANGSIOS,oIEUNG,oCIEUC,oSSANGCIEUC,oCHIEUCH,oKHIEUKH,oTHIEUTH",
  "oPHIEUPH,oHIEUH,oA,pE,oYA,qE,oEO,p,oYEO,q,oO,oWA,qE,oOE,oYO,oU,oWEO,q,pI,oYU,oEU,oYI,oI,hFILLER",
  "hLETTER SSANGNIEUN,oNIEUN-TIKEUT,uSIOS,uPANSIOS,oRIEUL-KIYEOK-SIOS,uTIKEUT,uPIEUP-SIOS,vANSIOS",
  "uYEORINHIEUH,oMIEUM-PIEUP,uSIOS,uPANSIOS,oKAPYEOUNMIEUM,oPIEUP-KIYEOK,uTIKEUT,uSIOS-KIYEOK",
  "zTIKEUT,uCIEUC,uTHIEUTH,oKAPYEOUNPIEUP,wSSANGPIEUP,oSIOS-KIYEOK,tNIEUN,tTIKEUT,tPIEUP,tCIEUC",
  "oPANSIOS,oSSANGIEUNG,oYESIEUNG,w-SIOS,xPANSIOS,oKAPYEOUNPHIEUPH,oSSANGHIEUH,oYEORINHIEUH,pO-YA",
  "tE,rI,pU-YEO,t,rI,oARAEA,tE,3190aIDEOGRAPHIC ANNOTATION LINKING MARK,xREVERSE MARK,xONE MARK",
  "xTWO MARK,yHREE MARK,xFOUR MARK,xTOP MARK,xMIDDLE MARK,xBOTTOM MARK,xFIRST MARK,xSECOND MARK",
  "xTHIRD MARK,xFOURTH MARK,xHEAVEN MARK,xEARTH MARK,xMAN MARK,aBOPOMOFO LETTER BU,qZI,qJI,qGU,qEE",
  "rNN,qOO,rNN,qIR,qANN,qINN,qUNN,qIM,qNGG,qAINN,rUNN,rM,qOM,rNG,qINNN,jFINAL LETTER P,wT,wK,wH",
  "jLETTER GH,qLH,qZY,jFINAL LETTER G,jLETTER GW,qKW,qOE,qAH,aCJK STROKE T,lWG,lXG,lBXG,lSW,lHZZ",
  "nG,mP,mZWG,lSZWG,lHZT,nZP,mPWG,mZW,nZZ,lN,lH,lS,lP,lSP,lD,lHZ,mG,lSZ,mWZ,mT,mG,lPD,mZ,lTN,lSZZ",
  "mWG,lHXWG,mZZZG,lPG,lQ,31F0aKATAKANA LETTER SMALL KU,wSI,xU,wTO,wNU,wHA,xI,xU,xE,xO,wMU,wRA,xI",
  "xU,xE,xO,aPARENTHESIZED HANGUL KIYEOK,vNIEUN,vTIKEUT,vRIEUL,vMIEUM,vPIEUP,vSIOS,vIEUNG,vCIEUC",
  "wHIEUCH,vKHIEUKH,vTHIEUTH,vPHIEUPH,vHIEUH,vKIYEOK A,vNIEUN A,vTIKEUT A,vRIEUL A,vMIEUM A",
  "vPIEUP A,vSIOS A,vIEUNG A,vCIEUC A,wHIEUCH A,vKHIEUKH A,vTHIEUTH A,vPHIEUPH A,vHIEUH A,vCIEUC U",
  "oKOREAN CHARACTER OJEON,bg HU,3220oIDEOGRAPH ONE,yTWO,zHREE,yFOUR,zIVE,ySIX,zEVEN,yEIGHT,yNINE",
  "yTEN,yMOON,yFIRE,yWATER,zOOD,yMETAL,yEARTH,ySUN,zTOCK,yHAVE,ySOCIETY,yNAME,ySPECIAL,yFINANCIAL",
  "yCONGRATULATION,yLABOR,yREPRESENT,yCALL,ySTUDY,zUPERVISE,yENTERPRISE,yRESOURCE,yALLIANCE",
  "yFESTIVAL,yREST,ySELF,yREACH,aCIRCLED IDEOGRAPH QUESTION,sKINDERGARTEN,sSCHOOL,sKOTO",
  "iNUMBER TEN ON BLACK SQUARE,qWENTY ON BLACK SQUARE,qHIRTY ON BLACK SQUARE",
  "pFORTY ON BLACK SQUARE,qIFTY ON BLACK SQUARE,pSIXTY ON BLACK SQUARE,qEVENTY ON BLACK SQUARE",
  "pEIGHTY ON BLACK SQUARE,aPARTNERSHIP SIGN,aCIRCLED NUMBER TWENTY ONE,wTWO,xHREE,wFOUR,xIVE,wSIX",
  "xEVEN,wEIGHT,wNINE,qHIRTY,v ONE,wTWO,xHREE,wFOUR,xIVE,iHANGUL KIYEOK,pNIEUN,pTIKEUT,pRIEUL",
  "pMIEUM,pPIEUP,pSIOS,pIEUNG,pCIEUC,qHIEUCH,pKHIEUKH,pTHIEUTH,pPHIEUPH,pHIEUH,pKIYEOK A,pNIEUN A",
  "pTIKEUT A,pRIEUL A,pMIEUM A,pPIEUP A,pSIOS A,pIEUNG A,pCIEUC A,qHIEUCH A,pKHIEUKH A,pTHIEUTH A",
  "pPHIEUPH A,pHIEUH A,iKOREAN CHARACTER CHAMKO,zJUEUI,iHANGUL IEUNG U,aKOREAN STANDARD SYMBOL",
  "aCIRCLED IDEOGRAPH ONE,sTWO,tHREE,sFOUR,tIVE,sSIX,tEVEN,sEIGHT,sNINE,sTEN,sMOON,sFIRE,sWATER",
  "tOOD,sMETAL,sEARTH,sSUN,tTOCK,sHAVE,sSOCIETY,sNAME,sSPECIAL,sFINANCIAL,sCONGRATULATION,sLABOR",
  "sSECRET,sMALE,sFEMALE,sSUITABLE,sEXCELLENT,sPRINT,sATTENTION,sITEM,sREST,sCOPY,uRRECT,sHIGH",
  "sCENTRE,sLOW,tEFT,sRIGHT,sMEDICINE,sRELIGION,sSTUDY,tUPERVISE,sENTERPRISE,sRESOURCE,sALLIANCE",
  "sNIGHT,iNUMBER THIRTY SIX,xEVEN,wEIGHT,wNINE,pFORTY,u ONE,vTWO,wHREE,vFOUR,wIVE,vSIX,wEVEN",
  "vEIGHT,vNINE,qIFTY,aIDEOGRAPHIC TELEGRAPH SYMBOL FOR JANUARY,bhFEBRUARY,bhMARCH,bhAPRIL,bhMAY",
  "bhJUNE,bjLY,bhAUGUST,bhSEPTEMBER,bhOCTOBER,bhNOVEMBER,bhDECEMBER,aSQUARE HG,hERG,iV",
  "aLIMITED LIABILITY SIGN,aCIRCLED KATAKANA A,rI,rU,rE,rO,rKA,sI,sU,sE,sO,rSA,sI,sU,sE,sO,rTA,sI",
  "sU,sE,sO,rNA,sI,sU,sE,sO,rHA,sI,sU,sE,sO,rMA,sI,sU,sE,sO,rYA,sU,sO,rRA,sI,sU,sE,sO,rWA,sI,sE,sO",
  "aSQUARE ERA NAME REIWA,hAPAATO,iRUHUA,iNPEA,iARU,hININGU,jTI,hUON,hESUKUUDO,iEKAA,hONSU,iOMU",
  "hKAIRI,jRATTO,kORII,hGARON,jNMA,iIGA,jNII,hKYURII,hGIRUDAA,hKIRO,lGURAMU,lMEETORU,lWATTO",
  "hGURAMU,nTON,hKURUZEIRO,kOONE,iEESU,iORUNA,jOPO,hSAIKURU,jNTIIMU,iIRINGU,iENTI,lO,hDAASU,iESI",
  "iORU,hTON,hNANO,iOTTO,hHAITU,hPAASENTO,kTU,hBAARERU,hPIASUTORU,jKURU,kO,hBIRU,hHUARADDO,jIITO",
  "hBUSSYERU,hHURAN,iEKUTAARU,hPESO,jNIHI,hHERUTU,hPENSU,jEZI,hBEETA,hPOINTO,hBORUTO,hHON,hPONDO",
  "hHOORU,kN,hMAIKURO,kRU,jHHA,jRUKU,jNSYON,iIKURON,jRI,lBAARU,iEGA,lTON,jETORU,hYAADO,kRU,iUAN",
  "hRITTORU,jRA,iUPII,jUBURU,iEMU,jNTOGEN,hWATTO,aIDEOGRAPHIC TELEGRAPH SYMBOL FOR HOUR ZERO,bmONE",
  "bmTWO,bnHREE,bmFOUR,bnIVE,bmSIX,bnEVEN,bmEIGHT,bmNINE,bmTEN,bmELEVEN,bmTWELVE,bnHIRTEEN",
  "bmFOURTEEN,bnIFTEEN,bmSIXTEEN,bnEVENTEEN,bmEIGHTEEN,bmNINETEEN,bmTWENTY,bs-ONE,btTWO,buHREE",
  "btFOUR,aSQUARE HPA,hDA,hAU,hBAR,hOV,hPC,hDM,j SQUARED,kCUBED,hIU,hERA NAME HEISEI,qSYOUWA",
  "qTAISYOU,qMEIZI,hCORPORATION,hPA AMPS,hNA,hMU A,iA,hKA,iB,hMB,hGB,hCAL,hKCAL,hPF,hNF,hMU F,kG",
  "iG,hKG,hHZ,hKHZ,hMHZ,hGHZ,hTHZ,hMU L,iL,hDL,hKL,hFM,hNM,hMU M,iM,hCM,hKM,hMM SQUARED",
  "hCM SQUARED,hM SQUARED,hKM SQUARED,hMM CUBED,hCM CUBED,hM CUBED,hKM CUBED,hM OVER S,p SQUARED",
  "hPA,hKPA,hMPA,hGPA,hRAD,k OVER S,r SQUARED,hPS,hNS,hMU S,iS,hPV,hNV,hMU V,iV,hKV,hMV MEGA,hPW",
  "hNW,hMU W,iW,hKW,hMW MEGA,hK OHM,hM OHM,hAM,hBQ,hCC,iD,i OVER KG,iO,hDB,hGY,hHA,iP,hIN,hKK",
  "iM CAPITAL,iT,hLM,iN,iOG,iX,hMB SMALL,iIL,iOL,hPH,iM,iPM,iR,hSR,iV,hWB,hV OVER M,hA OVER M",
  "aIDEOGRAPHIC TELEGRAPH SYMBOL FOR DAY ONE,blTWO,bmHREE,blFOUR,bmIVE,blSIX,bmEVEN,blEIGHT,blNINE",
  "blTEN,blELEVEN,blTWELVE,bmHIRTEEN,blFOURTEEN,bmIFTEEN,blSIXTEEN,bmEVENTEEN,blEIGHTEEN",
  "blNINETEEN,blTWENTY,br-ONE,bsTWO,btHREE,bsFOUR,btIVE,bsSIX,btEVEN,bsEIGHT,bsNINE,bmHIRTY,br-ONE",
  "aSQUARE GAL,4DC0aHEXAGRAM FOR THE CREATIVE HEAVEN,rRECEPTIVE EARTH,nDIFFICULTY AT THE BEGINNING",
  "nYOUTHFUL FOLLY,nWAITING,nCONFLICT,nTHE ARMY,nHOLDING TOGETHER,nSMALL TAMING,nTREADING,nPEACE",
  "nSTANDSTILL,nFELLOWSHIP,nGREAT POSSESSION,nMODESTY,nENTHUSIASM,nFOLLOWING,nWORK ON THE DECAYED",
  "nAPPROACH,nCONTEMPLATION,nBITING THROUGH,nGRACE,nSPLITTING APART,nRETURN,nINNOCENCE",
  "nGREAT TAMING,nMOUTH CORNERS,nGREAT PREPONDERANCE,nTHE ABYSMAL WATER,rCLINGING FIRE,nINFLUENCE",
  "nDURATION,nRETREAT,nGREAT POWER,nPROGRESS,nDARKENING OF THE LIGHT,nTHE FAMILY,nOPPOSITION",
  "oBSTRUCTION,nDELIVERANCE,pCREASE,nINCREASE,nBREAKTHROUGH,nCOMING TO MEET,nGATHERING TOGETHER",
  "nPUSHING UPWARD,nOPPRESSION,nTHE WELL,nREVOLUTION,nTHE CAULDRON,rAROUSING THUNDER",
  "rKEEPING STILL MOUNTAIN,nDEVELOPMENT,nTHE MARRYING MAIDEN,nABUNDANCE,nTHE WANDERER,rGENTLE WIND",
  "rJOYOUS LAKE,nDISPERSION,nLIMITATION,nINNER TRUTH,nSMALL PREPONDERANCE,nAFTER COMPLETION",
  "nBEFORE COMPLETION,A000aYI SYLLABLE IT,nX,n,nP,nET,oX,o,oP,mAT,nX,n,nP,mUOX,o,oP,mOT,nX,n,nP",
  "mEX,n,mWU,mBIT,oX,o,oP,oET,pX,p,pP,nAT,oX,o,oP,nUOX,p,pP,nOT,oX,o,oP,nEX,o,oP,nUT,oX,o,oP,oRX,p",
  "nYT,oX,o,oP,oRX,p,mPIT,oX,o,oP,oEX,p,pP,nAT,oX,o,oP,nUOX,p,pP,nOT,oX,o,oP,nUT,oX,o,oP,oRX,p,nYT",
  "oX,o,oP,oRX,p,mBBIT,pX,p,pP,pET,qX,q,qP,oAT,pX,p,pP,oUOX,q,qP,oOT,pX,p,pP,oEX,p,pP,oUT,pX,p,pP",
  "pRX,q,oYT,pX,p,pP,mNBIT,pX,p,pP,pEX,q,qP,oAT,pX,p,pP,oOT,pX,p,pP,oUT,pX,p,pP,pRX,q,oYT,pX,p,pP",
  "pRX,q,mHMIT,pX,p,pP,pEX,q,qP,oAT,pX,p,pP,oUOX,q,qP,oOT,pX,p,pP,oUT,pX,p,pP,pRX,q,oYX,p,pP,pRX,q",
  "mMIT,oX,o,oP,oEX,p,pP,nAT,oX,o,oP,nUOT,pX,p,pP,nOT,oX,o,oP,nEX,o,nUT,oX,o,oP,oRX,p,nYT,oX,o,oP",
  "mFIT,oX,o,oP,nAT,oX,o,oP,nOX,o,oP,nUT,oX,o,oP,oRX,p,nYT,oX,o,oP,mVIT,oX,o,oP,oET,pX,p,pP,nAT,oX",
  "o,oP,nOT,oX,o,oP,nEX,oP,nUT,oX,o,oP,oRX,p,nYT,oX,o,oP,oRX,p,mDIT,oX,o,oP,oEX,p,pP,nAT,oX,o,oP",
  "nUOX,p,nOT,oX,o,oP,nEX,o,oP,nUT,oX,o,oP,oRX,p,mTIT,oX,o,oP,oEX,p,pP,nAT,oX,o,oP,nUOT,pX,p,pP",
  "nOT,oX,o,oP,nEX,o,oP,nUT,oX,o,oP,oRX,p,mDDIT,pX,p,pP,pEX,q,qP,oAT,pX,p,pP,oUOX,q,qP,oOT,pX,p,pP",
  "oEX,p,pP,oUT,pX,p,pP,pRX,q,mNDIT,pX,p,pP,pEX,q,oAT,pX,p,pP,oOT,pX,p,pP,oEX,p,pP,oUT,pX,p,pP,pRX",
  "q,mHNIT,pX,p,pP,pET,qX,q,qP,oAT,pX,p,pP,oUOX,q,oOT,pX,pP,oEX,p,pP,oUT,mNIT,oX,o,oP,oEX,p,pP,nAX",
  "o,oP,nUOX,p,pP,nOT,oX,o,oP,nEX,o,oP,nUT,oX,o,oP,oRX,p,mHLIT,pX,p,pP,pEX,q,qP,oAT,pX,p,pP,oUOX,q",
  "qP,oOX,p,pP,oEX,p,pP,oUT,pX,p,pP,pRX,q,oYT,pX,p,pP,pRX,q,mLIT,oX,o,oP,oET,pX,p,pP,nAT,oX,o,oP",
  "nUOT,pX,p,pP,nOT,oX,o,oP,nEX,o,oP,nUT,oX,o,oP,oRX,p,nYT,oX,o,oP,oRX,p,mGIT,oX,o,oP,oET,pX,p,pP",
  "nAT,oX,o,oP,nUOT,pX,p,pP,nOT,oX,o,oP,nET,oX,o,oP,nUT,oX,o,oP,oRX,p,mKIT,oX,o,oP,oEX,p,pP,nAT,oX",
  "o,oP,nUOX,p,pP,nOT,oX,o,oP,nET,oX,o,oP,nUT,oX,o,oP,oRX,p,mGGIT,pX,p,pEX,q,qP,oAT,pX,p,pP,oUOT",
  "qX,q,qP,oOT,pX,p,pP,oET,pX,p,pP,oUT,pX,p,pP,pRX,q,mMGIEX,q,oAT,pX,p,pP,oUOX,q,qP,oOT,pX,p,pP",
  "oEX,p,pP,oUT,pX,p,pP,pRX,q,mHXIT,pX,p,pP,pET,qX,q,qP,oAT,pX,p,pP,oUOT,qX,q,qP,oOT,pX,p,pP,oEX,p",
  "pP,mNGIEX,q,qP,oAT,pX,p,pP,oUOT,qX,q,oOT,pX,p,pP,oEX,p,pP,mHIT,oEX,p,nAT,oX,o,oP,nUOT,pX,p,pP",
  "nOT,oX,o,oP,nEX,o,oP,mWAT,oX,o,oP,nUOX,p,pP,nOX,o,oP,nEX,o,oP,mZIT,oX,o,oP,oEX,p,pP,nAT,oX,o,oP",
  "nUOX,p,pP,nOT,oX,o,oP,nEX,o,oP,nUT,oX,o,oP,oRX,p,nYT,oX,o,oP,oRX,p,mCIT,oX,o,oP,oET,pX,p,pP,nAT",
  "oX,o,oP,nUOX,p,pP,nOT,oX,o,oP,nEX,o,oP,nUT,oX,o,oP,oRX,p,nYT,oX,o,oP,oRX,p,mZZIT,pX,p,pP,pET,qX",
  "q,qP,oAT,pX,p,pP,oOX,p,pP,oEX,p,pP,oUX,p,pP,pRX,q,oYT,pX,p,pP,pRX,q,mNZIT,pX,p,pP,pEX,q,qP,oAT",
  "pX,p,pP,oUOX,q,oOX,pP,oEX,p,oUX,p,pP,pRX,q,oYT,pX,p,pP,pRX,q,mSIT,oX,o,oP,oEX,p,pP,nAT,oX,o,oP",
  "nUOX,p,pP,nOT,oX,o,oP,nEX,o,oP,nUT,oX,o,oP,oRX,p,nYT,oX,o,oP,oRX,p,nSIT,pX,p,pP,pEX,q,qP,oAT,pX",
  "p,pP,oOT,pX,p,pP,oEX,p,pP,oUT,pX,p,pP,oYT,pX,p,pP,pRX,q,mZHAT,pX,p,pP,oUOX,q,qP,oOT,pX,p,pP,oET",
  "pX,p,pP,oUT,pX,p,pP,pRX,q,oYT,pX,p,pP,pRX,q,mCHAT,pX,p,pP,oUOT,qX,q,qP,oOT,pX,p,pP,oET,pX,p,pP",
  "oUX,p,pP,pRX,q,oYT,pX,p,pP,pRX,q,mRRAX,p,oUOX,q,oOT,pX,p,pP,oET,pX,p,pP,oUT,pX,p,pP,pRX,q,oYT",
  "pX,p,pP,pRX,q,mNRAT,pX,p,pP,oOX,p,pP,oET,pX,p,pP,oUT,pX,p,pP,pRX,q,oYT,pX,p,pP,pRX,q,mSHAT,pX,p",
  "pP,oUOX,q,qP,oOT,pX,p,pP,oET,pX,p,pP,oUT,pX,p,pP,pRX,q,oYT,pX,p,pP,pRX,q,mRAT,oX,o,oP,nUOX,p,pP",
  "nOT,oX,o,oP,nEX,o,oP,nUT,oX,o,oP,oRX,p,nYT,oX,o,oP,oRX,p,mJIT,oX,o,oP,oET,pX,p,pP,nUOT,pX,p,pP",
  "nOT,oX,o,oP,nUT,oX,o,oP,oRX,p,nYT,oX,o,oP,oRX,p,mQIT,oX,o,oP,oET,pX,p,pP,nUOT,pX,p,pP,nOT,oX,o",
  "oP,nUT,oX,o,oP,oRX,p,nYT,oX,o,oP,oRX,p,mJJIT,pX,p,pP,pET,qX,q,qP,oUOX,q,qP,oOT,pX,p,pP,oUT,pX,p",
  "pP,pRX,q,oYT,pX,p,pP,mNJIT,pX,p,pP,pET,qX,q,qP,oUOX,q,oOT,pX,p,pP,oUX,p,pP,pRX,q,oYT,pX,p,pP",
  "pRX,q,nYIT,pX,p,pP,pET,qX,q,qP,oUOX,q,qP,oOT,pX,p,pP,oUT,pX,p,pP,mXIT,oX,o,oP,oET,pX,p,pP,nUOX",
  "p,nOT,oX,o,oP,nYT,oX,o,oP,oRX,p,mYIT,oX,o,oP,oET,pX,p,pP,nUOT,pX,p,pP,nOT,oX,o,oP,nUT,oX,o,oP",
  "oRX,p,nYT,oX,o,oP,oRX,p,A490dRADICAL QOT,lLI,lKIT,lNYIP,lCYP,lSSI,lGGOP,mEP,lMI,lHXIT,lLYR",
  "lBBUT,lMOP,lYO,lPUT,lHXUO,lTAT,lGA,lZUP,lCYT,lDDUR,lBUR,lGGUO,lNYOP,lTU,lOP,lJJUT,lZOT,lPYT",
  "lHMO,lYIT,lVUR,lSHY,lVEP,lZA,lJO,lNZUP,lJJY,lGOT,lJJIE,lWO,lDU,lSHUR,lLIE,lCY,mUOP,mIP,lHXOP",
  "lSHAT,lZUR,lSHOP,lCHE,lZZIET,lNBIE,lKE,A4D0aLISU LETTER BA,mPA,nHA,mDA,mTA,nHA,mGA,mKA,nHA,mJA",
  "mCA,nHA,mDZA,mTSA,oHA,mMA,mNA,mLA,mSA,mZHA,nA,mNGA,mHA,mXA,mHHA,mFA,mWA,mSHA,mYA,mGHA,mA,nE,mE",
  "nU,mI,mO,mU,nE,nH,mOE,mTONE MYA TI,rNA PO,rMYA CYA,vBO,vNA,vJEU,fPUNCTUATION COMMA,rFULL STOP",
  "aVAI SYLLABLE EE,pN,nHEE,nWEE,qN,nPEE,nBHEE,oEE,nMBEE,nKPEE,nMGBEE,nGBEE,nFEE,nVEE,nTEE,oHEE",
  "nDHEE,pHEE,nLEE,nREE,nDEE,nNDEE,nSEE,oHEE,nZEE,oHEE,nCEE,nJEE,nNJEE,nYEE,nKEE,nNGGEE,nGEE,nMEE",
  "nNEE,oYEE,nI,oN,nHI,pN,nWI,pN,nPI,nBHI,oI,nMBI,nKPI,nMGBI,nGBI,nFI,nVI,nTI,oHI,nDHI,pHI,nLI,nRI",
  "nDI,nNDI,nSI,oHI,nZI,oHI,nCI,nJI,nNJI,nYI,nKI,nNGGI,nGI,nMI,nNI,oYI,nA,oN,nNGAN,nHA,pN,nWA,pN",
  "nPA,nBHA,oA,nMBA,nKPA,qN,nMGBA,nGBA,nFA,nVA,nTA,oHA,nDHA,pHA,nLA,nRA,nDA,nNDA,nSA,oHA,nZA,oHA",
  "nCA,nJA,nNJA,nYA,nKA,pN,nNGGA,nGA,nMA,nNA,oYA,nOO,pN,nHOO,nWOO,qN,nPOO,nBHOO,oOO,nMBOO,nKPOO",
  "nMGBOO,nGBOO,nFOO,nVOO,nTOO,oHOO,nDHOO,pHOO,nLOO,nROO,nDOO,nNDOO,nSOO,oHOO,nZOO,oHOO,nCOO,nJOO",
  "nNJOO,nYOO,nKOO,nNGGOO,nGOO,nMOO,nNOO,oYOO,nU,oN,nHU,pN,nWU,pN,nPU,nBHU,oU,nMBU,nKPU,nMGBU,nGBU",
  "nFU,nVU,nTU,oHU,nDHU,pHU,nLU,nRU,nDU,nNDU,nSU,oHU,nZU,oHU,nCU,nJU,nNJU,nYU,nKU,nNGGU,nGU,nMU",
  "nNU,oYU,nO,oN,nNGON,nHO,pN,nWO,pN,nPO,nBHO,oO,nMBO,nKPO,nMGBO,nGBO,qN,nFO,nVO,nTO,oHO,nDHO,pHO",
  "nLO,nRO,nDO,nNDO,nSO,oHO,nZO,oHO,nCO,nJO,nNJO,nYO,nKO,nNGGO,nGO,nMO,nNO,oYO,nE,oN,nNGEN,nHE,pN",
  "nWE,pN,nPE,nBHE,oE,nMBE,nKPE,qN,nMGBE,nGBE,qN,nFE,nVE,nTE,oHE,nDHE,pHE,nLE,nRE,nDE,nNDE,nSE,oHE",
  "nZE,oHE,nCE,nJE,nNJE,nYE,nKE,nNGGE,rN,nGE,pN,nME,nNE,oYE,oG,nLENGTHENER,eCOMMA,eFULL STOP",
  "eQUESTION MARK,eSYLLABLE NDOLE FA,tKA,tSOO,gMBOL FEENG,lKEENG,lTING,lNII,lBANG,lFAA,lTAA,lDANG",
  "mOONG,lKUNG,lTONG,lDO-O,lJONG,eDIGIT ZERO,kONE,kTWO,lHREE,kFOUR,lIVE,kSIX,lEVEN,kEIGHT,kNINE",
  "eSYLLABLE NDOLE MA,tDO,A640aCYRILLIC CAPITAL LETTER ZEMLYA,jSMALL LETTER ZEMLYA",
  "jCAPITAL LETTER DZELO,jSMALL LETTER DZELO,jCAPITAL LETTER REVERSED DZE",
  "jSMALL LETTER REVERSED DZE,jCAPITAL LETTER IOTA,jSMALL LETTER IOTA,jCAPITAL LETTER DJERV",
  "jSMALL LETTER DJERV,jCAPITAL LETTER MONOGRAPH UK,jSMALL LETTER MONOGRAPH UK",
  "jCAPITAL LETTER BROAD OMEGA,jSMALL LETTER BROAD OMEGA,jCAPITAL LETTER NEUTRAL YER",
  "jSMALL LETTER NEUTRAL YER,jCAPITAL LETTER YERU WITH BACK YER,jSMALL LETTER YERU WITH BACK YER",
  "jCAPITAL LETTER IOTIFIED YAT,jSMALL LETTER IOTIFIED YAT,jCAPITAL LETTER REVERSED YU",
  "jSMALL LETTER REVERSED YU,jCAPITAL LETTER IOTIFIED A,jSMALL LETTER IOTIFIED A",
  "jCAPITAL LETTER CLOSED LITTLE YUS,jSMALL LETTER CLOSED LITTLE YUS,jCAPITAL LETTER BLENDED YUS",
  "jSMALL LETTER BLENDED YUS,jCAPITAL LETTER IOTIFIED CLOSED LITTLE YUS",
  "jSMALL LETTER IOTIFIED CLOSED LITTLE YUS,jCAPITAL LETTER YN,jSMALL LETTER YN",
  "jCAPITAL LETTER REVERSED TSE,jSMALL LETTER REVERSED TSE,jCAPITAL LETTER SOFT DE",
  "jSMALL LETTER SOFT DE,jCAPITAL LETTER SOFT EL,jSMALL LETTER SOFT EL,jCAPITAL LETTER SOFT EM",
  "jSMALL LETTER SOFT EM,jCAPITAL LETTER MONOCULAR O,jSMALL LETTER MONOCULAR O",
  "jCAPITAL LETTER BINOCULAR O,jSMALL LETTER BINOCULAR O,jCAPITAL LETTER DOUBLE MONOCULAR O",
  "jSMALL LETTER DOUBLE MONOCULAR O,jLETTER MULTIOCULAR O,bOMBINING CYRILLIC VZMET",
  "tTEN MILLIONS SIGN,tHUNDRED MILLIONS SIGN,tTHOUSAND MILLIONS SIGN,aSLAVONIC ASTERISK",
  "aCOMBINING CYRILLIC LETTER UKRAINIAN IE,baI,baYI,baU,baHARD SIGN,baYERU,baSOFT SIGN,baOMEGA",
  "tKAVYKA,tPAYEROK,bYRILLIC KAVYKA,jPAYEROK,jCAPITAL LETTER DWE,jSMALL LETTER DWE",
  "jCAPITAL LETTER DZWE,jSMALL LETTER DZWE,jCAPITAL LETTER ZHWE,jSMALL LETTER ZHWE",
  "jCAPITAL LETTER CCHE,jSMALL LETTER CCHE,jCAPITAL LETTER DZZE,jSMALL LETTER DZZE",
  "jCAPITAL LETTER TE WITH MIDDLE HOOK,jSMALL LETTER TE WITH MIDDLE HOOK,jCAPITAL LETTER TWE",
  "jSMALL LETTER TWE,jCAPITAL LETTER TSWE,jSMALL LETTER TSWE,jCAPITAL LETTER TSSE",
  "jSMALL LETTER TSSE,jCAPITAL LETTER TCHE,jSMALL LETTER TCHE,jCAPITAL LETTER HWE",
  "jSMALL LETTER HWE,jCAPITAL LETTER SHWE,jSMALL LETTER SHWE,jCAPITAL LETTER DOUBLE O",
  "jSMALL LETTER DOUBLE O,jCAPITAL LETTER CROSSED O,jSMALL LETTER CROSSED O",
  "aMODIFIER LETTER CYRILLIC HARD SIGN,zSOFT SIGN,aCOMBINING CYRILLIC LETTER EF,baIOTIFIED E",
  "aBAMUM LETTER A,nKA,nU,nKU,nEE,nREE,nTAE,nO,nNYI,nI,nLA,nPA,nRII,pEE,nLEEEE,nMEEEE,nTAA,nNDAA",
  "oJAEM,nM,nSUU,nMU,nSHII,oI,oHEUX,oEUX,nKYEE,oET,nNUAE,p,oJUAE,nYOQ,nSHU,nYUQ,oA,nNSHA,nKEUX",
  "nPEUX,nNJEE,oTEE,nPUE,nWUE,nPEE,nFEE,nRU,nLU,nMI,nNI,nREUX,oAE,nKEN,nNGKWAEN,pGA,pA,nSHO,nPUAE",
  "nFU,oOM,nWA,nNA,nLI,nPI,nLOQ,nKO,nMBEN,nREN,nMEN,oA,nTI,nKI,nMO,oBAA,nTET,nKPA,nTEN,nNTUU",
  "nSAMBA,nFAAMAE,nKOVUU,pGHOM,gCOMBINING MARK KOQNDON,vTUKWENTIS,gNJAEMLI,gFULL STOP,gCOLON,iMMA",
  "gSEMICOLON,gQUESTION MARK,A700aMODIFIER LETTER CHINESE TONE YIN PING,beANG PING,beIN SHANG",
  "beANG SHANG,beIN QU,beANG QU,beIN RU,beANG RU,qEXTRA-HIGH DOTTED TONE BAR,qHIGH DOTTED TONE BAR",
  "qMID DOTTED TONE BAR,qLOW DOTTED TONE BAR,qEXTRA-LOW DOTTED TONE BAR",
  "wHIGH DOTTED LEFT-STEM TONE BAR,qHIGH DOTTED LEFT-STEM TONE BAR,qMID DOTTED LEFT-STEM TONE BAR",
  "qLOW DOTTED LEFT-STEM TONE BAR,qEXTRA-LOW DOTTED LEFT-STEM TONE BAR,wHIGH LEFT-STEM TONE BAR",
  "qHIGH LEFT-STEM TONE BAR,qMID LEFT-STEM TONE BAR,qLOW LEFT-STEM TONE BAR",
  "qEXTRA-LOW LEFT-STEM TONE BAR,qDOT VERTICAL BAR,uSLASH,uHORIZONTAL BAR",
  "qLOWER RIGHT CORNER ANGLE,qRAISED UP ARROW,xDOWN ARROW,xEXCLAMATION MARK",
  "xINVERTED EXCLAMATION MARK,qLOW INVERTED EXCLAMATION MARK,qSTRESS AND HIGH TONE,bbLOW TONE",
  "aLATIN CAPITAL LETTER EGYPTOLOGICAL ALEF,gSMALL LETTER EGYPTOLOGICAL ALEF",
  "gCAPITAL LETTER EGYPTOLOGICAL AIN,gSMALL LETTER EGYPTOLOGICAL AIN,gCAPITAL LETTER HENG",
  "gSMALL LETTER HENG,gCAPITAL LETTER TZ,gSMALL LETTER TZ,gCAPITAL LETTER TRESILLO",
  "gSMALL LETTER TRESILLO,gCAPITAL LETTER CUATRILLO,gSMALL LETTER CUATRILLO",
  "gCAPITAL LETTER CUATRILLO WITH COMMA,gSMALL LETTER CUATRILLO WITH COMMA,gLETTER SMALL CAPITAL F",
  "bbS,gCAPITAL LETTER AA,gSMALL LETTER AA,gCAPITAL LETTER AO,gSMALL LETTER AO,gCAPITAL LETTER AU",
  "gSMALL LETTER AU,gCAPITAL LETTER AV,gSMALL LETTER AV,gCAPITAL LETTER AV WITH HORIZONTAL BAR",
  "gSMALL LETTER AV WITH HORIZONTAL BAR,gCAPITAL LETTER AY,gSMALL LETTER AY",
  "gCAPITAL LETTER REVERSED C WITH DOT,gSMALL LETTER REVERSED C WITH DOT",
  "gCAPITAL LETTER K WITH STROKE,gSMALL LETTER K WITH STROKE",
  "gCAPITAL LETTER K WITH DIAGONAL STROKE,gSMALL LETTER K WITH DIAGONAL STROKE",
  "gCAPITAL LETTER K WITH STROKE AND DIAGONAL STROKE",
  "gSMALL LETTER K WITH STROKE AND DIAGONAL STROKE,gCAPITAL LETTER BROKEN L,gSMALL LETTER BROKEN L",
  "gCAPITAL LETTER L WITH HIGH STROKE,gSMALL LETTER L WITH HIGH STROKE",
  "gCAPITAL LETTER O WITH LONG STROKE OVERLAY,gSMALL LETTER O WITH LONG STROKE OVERLAY",
  "gCAPITAL LETTER O WITH LOOP,gSMALL LETTER O WITH LOOP,gCAPITAL LETTER OO,gSMALL LETTER OO",
  "gCAPITAL LETTER P WITH STROKE THROUGH DESCENDER,gSMALL LETTER P WITH STROKE THROUGH DESCENDER",
  "gCAPITAL LETTER P WITH FLOURISH,gSMALL LETTER P WITH FLOURISH",
  "gCAPITAL LETTER P WITH SQUIRREL TAIL,gSMALL LETTER P WITH SQUIRREL TAIL",
  "gCAPITAL LETTER Q WITH STROKE THROUGH DESCENDER,gSMALL LETTER Q WITH STROKE THROUGH DESCENDER",
  "gCAPITAL LETTER Q WITH DIAGONAL STROKE,gSMALL LETTER Q WITH DIAGONAL STROKE",
  "gCAPITAL LETTER R ROTUNDA,gSMALL LETTER R ROTUNDA,gCAPITAL LETTER RUM ROTUNDA",
  "gSMALL LETTER RUM ROTUNDA,gCAPITAL LETTER V WITH DIAGONAL STROKE",
  "gSMALL LETTER V WITH DIAGONAL STROKE,gCAPITAL LETTER VY,gSMALL LETTER VY",
  "gCAPITAL LETTER VISIGOTHIC Z,gSMALL LETTER VISIGOTHIC Z,gCAPITAL LETTER THORN WITH STROKE",
  "gSMALL LETTER THORN WITH STROKE,gCAPITAL LETTER THORN WITH STROKE THROUGH DESCENDER",
  "gSMALL LETTER THORN WITH STROKE THROUGH DESCENDER,gCAPITAL LETTER VEND,gSMALL LETTER VEND",
  "gCAPITAL LETTER ET,gSMALL LETTER ET,gCAPITAL LETTER IS,gSMALL LETTER IS,gCAPITAL LETTER CON",
  "gSMALL LETTER CON,aMODIFIER LETTER US,aLATIN SMALL LETTER DUM,tLUM,tMUM,tNUM,tRUM",
  "gLETTER SMALL CAPITAL RUM,gSMALL LETTER TUM,tUM,gCAPITAL LETTER INSULAR D",
  "gSMALL LETTER INSULAR D,gCAPITAL LETTER INSULAR F,gSMALL LETTER INSULAR F",
  "gCAPITAL LETTER INSULAR G,vTURNED INSULAR G,gSMALL LETTER TURNED INSULAR G",
  "gCAPITAL LETTER TURNED L,gSMALL LETTER TURNED L,gCAPITAL LETTER INSULAR R",
  "gSMALL LETTER INSULAR R,gCAPITAL LETTER INSULAR S,gSMALL LETTER INSULAR S",
  "gCAPITAL LETTER INSULAR T,gSMALL LETTER INSULAR T,aMODIFIER LETTER LOW CIRCUMFLEX ACCENT,qCOLON",
  "qSHORT EQUALS SIGN,aLATIN CAPITAL LETTER SALTILLO,gSMALL LETTER SALTILLO",
  "gCAPITAL LETTER TURNED H,gSMALL LETTER L WITH RETROFLEX HOOK AND BELT,gLETTER SINOLOGICAL DOT",
  "gCAPITAL LETTER N WITH DESCENDER,gSMALL LETTER N WITH DESCENDER,gCAPITAL LETTER C WITH BAR",
  "gSMALL LETTER C WITH BAR,baPALATAL HOOK,tH WITH PALATAL HOOK,gCAPITAL LETTER B WITH FLOURISH",
  "gSMALL LETTER B WITH FLOURISH,gCAPITAL LETTER F WITH STROKE,gSMALL LETTER F WITH STROKE",
  "gCAPITAL LETTER VOLAPUK AE,gSMALL LETTER VOLAPUK AE,gCAPITAL LETTER VOLAPUK OE",
  "gSMALL LETTER VOLAPUK OE,gCAPITAL LETTER VOLAPUK UE,gSMALL LETTER VOLAPUK UE",
  "gCAPITAL LETTER G WITH OBLIQUE STROKE,gSMALL LETTER G WITH OBLIQUE STROKE",
  "gCAPITAL LETTER K WITH OBLIQUE STROKE,gSMALL LETTER K WITH OBLIQUE STROKE",
  "gCAPITAL LETTER N WITH OBLIQUE STROKE,gSMALL LETTER N WITH OBLIQUE STROKE",
  "gCAPITAL LETTER R WITH OBLIQUE STROKE,gSMALL LETTER R WITH OBLIQUE STROKE",
  "gCAPITAL LETTER S WITH OBLIQUE STROKE,gSMALL LETTER S WITH OBLIQUE STROKE",
  "gCAPITAL LETTER H WITH HOOK,vREVERSED OPEN E,vSCRIPT G,vL WITH BELT,vSMALL CAPITAL I",
  "gLETTER SMALL CAPITAL Q,gCAPITAL LETTER TURNED K,bcT,vJ WITH CROSSED-TAIL,vCHI,vBETA",
  "gSMALL LETTER BETA,gCAPITAL LETTER OMEGA,gSMALL LETTER OMEGA,gCAPITAL LETTER U WITH STROKE",
  "gSMALL LETTER U WITH STROKE,gCAPITAL LETTER GLOTTAL A,gSMALL LETTER GLOTTAL A",
  "gCAPITAL LETTER GLOTTAL I,gSMALL LETTER GLOTTAL I,gCAPITAL LETTER GLOTTAL U",
  "gSMALL LETTER GLOTTAL U,gCAPITAL LETTER OLD POLISH O,gSMALL LETTER OLD POLISH O",
  "gCAPITAL LETTER ANGLICANA W,gSMALL LETTER ANGLICANA W,gCAPITAL LETTER C WITH PALATAL HOOK",
  "vS WITH HOOK,vZ WITH PALATAL HOOK,vD WITH SHORT STROKE OVERLAY",
  "gSMALL LETTER D WITH SHORT STROKE OVERLAY,gCAPITAL LETTER S WITH SHORT STROKE OVERLAY",
  "gSMALL LETTER S WITH SHORT STROKE OVERLAY,A7D0gCAPITAL LETTER CLOSED INSULAR G",
  "gSMALL LETTER CLOSED INSULAR G,A7D3tDOUBLE THORN,A7D5baWYNN,gCAPITAL LETTER MIDDLE SCOTS S",
  "gSMALL LETTER MIDDLE SCOTS S,gCAPITAL LETTER SIGMOID S,gSMALL LETTER SIGMOID S",
  "A7F2aMODIFIER LETTER CAPITAL C,yF,yQ,aLATIN CAPITAL LETTER REVERSED HALF H",
  "gSMALL LETTER REVERSED HALF H,gEPIGRAPHIC LETTER SIDEWAYS I",
  "aMODIFIER LETTER CAPITAL H WITH STROKE,qSMALL LIGATURE OE,aLATIN LETTER SMALL CAPITAL TURNED M",
  "gEPIGRAPHIC LETTER REVERSED F,bhP,yINVERTED M,z LONGA,yARCHAIC M,aSYLOTI NAGRI LETTER A,uI",
  "nSIGN DVISVARA,nLETTER U,uE,uO,nSIGN HASANTA,nLETTER KO,vHO,uGO,vHO,nSIGN ANUSVARA,nLETTER CO",
  "vHO,uJO,vHO,uTTO,wHO,uDDO,wHO,uTO,vHO,uDO,vHO,uNO,uPO,vHO,uBO,vHO,uMO,uRO,uLO,uRRO,uSO,uHO",
  "nVOWEL SIGN A,yI,yU,yE,yOO,nPOETRY MARK-1,z2,z3,z4,nSIGN ALTERNATE HASANTA",
  "A830aNORTH INDIC FRACTION ONE QUARTER,zHALF,vTHREE QUARTERS,vONE SIXTEENTH,zEIGHTH",
  "vTHREE SIXTEENTHS,mQUARTER MARK,mPLACEHOLDER MARK,mRUPEE MARK,mQUANTITY MARK",
  "A840aPHAGS-PA LETTER KA,rHA,qGA,qNGA,qCA,rHA,qJA,qNYA,qTA,rHA,qDA,qNA,qPA,rHA,qBA,qMA,qTSA,sHA",
  "qDZA,qWA,qZHA,rA,qSMALL A,qYA,qRA,qLA,qSHA,rA,qHA,qA,qI,qU,qE,qO,qQA,qXA,qFA,qGGA,qEE",
  "jSUBJOINED LETTER WA,baYA,jLETTER TTA,sHA,qDDA,qNNA,qALTERNATE YA,qVOICELESS SHA,vD HA",
  "qASPIRATED FA,jSUBJOINED LETTER RA,lPERFIXED LETTER RA,jLETTER CANDRABINDU,jSINGLE HEAD MARK",
  "jDOUBLE HEAD MARK,jMARK SHAD,oDOUBLE SHAD,A880aSAURASHTRA SIGN ANUSVARA,qVISARGA,lLETTER A,tA",
  "sI,tI,sU,tU,sVOCALIC R,bbR,baL,bbL,sE,tE,sAI,sO,tO,sAU,sKA,tHA,sGA,tHA,sNGA,sCA,tHA,sJA,tHA",
  "sNYA,sTTA,uHA,sDDA,uHA,sNNA,sTA,tHA,sDA,tHA,sNA,sPA,tHA,sBA,tHA,sMA,sYA,sRA,sLA,sVA,sSHA,tSA,tA",
  "sHA,sLLA,lCONSONANT SIGN HAARU,lVOWEL SIGN AA,wI,xI,wU,xU,wVOCALIC R,bfR,beL,bfL,wE,xE,wAI,wO",
  "xO,wAU,lSIGN VIRAMA,qCANDRABINDU,A8CElDANDA,mOUBLE DANDA,mIGIT ZERO,rONE,rTWO,sHREE,rFOUR,sIVE",
  "rSIX,sEVEN,rEIGHT,rNINE,A8E0aCOMBINING DEVANAGARI DIGIT ZERO,bbONE,bbTWO,bcHREE,bbFOUR,bcIVE",
  "bbSIX,bcEVEN,bbEIGHT,bbNINE,vLETTER A,bcU,bcKA,bcNA,bcPA,bcRA,bcVI,vSIGN AVAGRAHA",
  "aDEVANAGARI SIGN SPACING CANDRABINDU,qCANDRABINDU VIRAMA,qDOUBLE CANDRABINDU VIRAMA",
  "qCANDRABINDU TWO,bdHREE,bcAVAGRAHA,qPUSHPIKA,lGAP FILLER,lCARET,lHEADSTROKE,lSIGN SIDDHAM",
  "lJAIN OM,lLETTER AY,lVOWEL SIGN AY,aKAYAH LI DIGIT ZERO,pONE,pTWO,qHREE,pFOUR,qIVE,pSIX,qEVEN",
  "pEIGHT,pNINE,jLETTER KA,rHA,qGA,qNGA,qSA,rHA,qZA,qNYA,qTA,qHTA,qNA,qPA,rHA,qMA,qDA,qBA,qRA,qYA",
  "qLA,qWA,qTHA,qHA,qVA,qCA,qA,qOE,qI,qOO,jVOWEL UE,pE,pU,pEE,pO,jTONE PLOPHU,oCALYA,t PLOPHU",
  "jSIGN CWI,oSHYA,aREJANG LETTER KA,oGA,oNGA,oTA,oDA,oNA,oPA,oBA,oMA,oCA,oJA,oNYA,oSA,oRA,oLA,oYA",
  "oWA,oHA,oMBA,oNGGA,pDA,pYJA,oA,hVOWEL SIGN I,sU,sE,sAI,sO,sAU,sEU,tA,hCONSONANT SIGN NG,x,wR,wH",
  "hVIRAMA,A95FhSECTION MARK,aHANGUL CHOSEONG TIKEUT-MIEUM,xPIEUP,xSIOS,xCIEUC,qRIEUL-KIYEOK",
  "wSSANGKIYEOK,wTIKEUT,wSSANGTIKEUT,wMIEUM,wPIEUP,wSSANGPIEUP,wKAPYEOUNPIEUP,wSIOS,wCIEUC",
  "wKHIEUKH,qMIEUM-KIYEOK,wTIKEUT,wSIOS,qPIEUP-SIOS-THIEUTH,wKHIEUKH,wHIEUH,qSSANGSIOS-PIEUP",
  "qIEUNG-RIEUL,wHIEUH,qSSANGCIEUC-HIEUH,vTHIEUTH,qPHIEUPH-HIEUH,qHIEUH-SIOS,qSSANGYEORINHIEUH",
  "A980aJAVANESE SIGN PANYANGGA,oCECAK,oLAYAR,oWIGNYAN,jLETTER A,qI KAWI,r,rI,qU,qPA CEREK",
  "qNGA LELET,z RASWADI,qE,qAI,qO,qKA,s SASAK,tMURDA,qGA,s MURDA,qNGA,qCA,s MURDA,qJA,qNYA MURDA",
  "qJA MAHAPRANA,qNYA,qTTA,t MAHAPRANA,qDDA,t MAHAPRANA,qNA MURDA,qTA,s MURDA,qDA,s MAHAPRANA,qNA",
  "qPA,s MURDA,qBA,s MURDA,qMA,qYA,qRA,s AGUNG,qLA,qWA,qSA MURDA,uAHAPRANA,s,qHA,jSIGN CECAK TELU",
  "jVOWEL SIGN TARUNG,vOLONG,uWULU,y MELIK,uSUKU,y MENDUT,uTALING,uDIRGA MURE,uPEPET",
  "jCONSONANT SIGN KERET,yPENGKAL,yCAKRA,jPANGKON,jLEFT RERENGGAN,jRIGHT RERENGGAN,jPADA ANDAP",
  "oMADYA,oLUHUR,oWINDU,oPANGKAT,oLINGSA,pUNGSI,oADEG,s ADEG,oPISELEH,jTURNED PADA PISELEH",
  "A9CFjPANGRANGKEP,jDIGIT ZERO,pONE,pTWO,qHREE,pFOUR,qIVE,pSIX,qEVEN,pEIGHT,pNINE",
  "A9DEjPADA TIRTA TUMETES,oISEN-ISEN,aMYANMAR LETTER SHAN GHA,uCHA,uJHA,uNNA,uBHA,iSIGN SHAN SAW",
  "iMODIFIER LETTER SHAN REDUPLICATION,iLETTER TAI LAING NYA,zFA,zGA,baHA,zJA,baHA,zDDA,bbHA,zNNA",
  "iTAI LAING DIGIT ZERO,yONE,yTWO,zHREE,yFOUR,zIVE,ySIX,zEVEN,yEIGHT,yNINE,iLETTER TAI LAING LLA",
  "zDA,baHA,zBA,baHA,AA00aCHAM LETTER A,mI,mU,mE,mAI,mO,mKA,nHA,mGA,nHA,mNGUE,oA,mCHA,oHA,mJA,nHA",
  "mNHUE,oA,oJA,mTA,nHA,mDA,nHA,mNUE,nA,mDDA,mPA,nPA,nHA,mBA,nHA,mMUE,nA,mBBA,mYA,mRA,mLA,mVA,mSSA",
  "nA,mHA,fVOWEL SIGN AA,qI,rI,qEI,qU,qOE,r,qAI,rU,qUE,fCONSONANT SIGN YA,uRA,uLA,uWA",
  "AA40fLETTER FINAL K,sG,sNG,fCONSONANT SIGN FINAL NG,fLETTER FINAL CH,sT,sN,sP,sY,sR,sL,sSS",
  "fCONSONANT SIGN FINAL M,baH,AA50fDIGIT ZERO,lONE,lTWO,mHREE,lFOUR,mIVE,lSIX,mEVEN,lEIGHT,lNINE",
  "AA5CfPUNCTUATION SPIRAL,rDANDA,sOUBLE DANDA,rTRIPLE DANDA,aMYANMAR LETTER KHAMTI GA,wCA,xHA,wJA",
  "xHA,wNYA,wTTA,yHA,wDDA,yHA,xHA,wNA,wSA,wHA,xHA,wFA,iMODIFIER LETTER KHAMTI REDUPLICATION",
  "iLETTER KHAMTI XA,wZA,wRA,jOGOGRAM KHAMTI OAY,yQN,yHM,iSYMBOL AITON EXCLAMATION,vONE,vTWO",
  "iLETTER AITON RA,iSIGN PAO KAREN TONE,nTAI LAING TONE-2,bc5,iLETTER SHWE PALAUNG CHA,bcSHA",
  "aTAI VIET LETTER LOW KO,qHIGH KO,qLOW KHO,qHIGH KHO,qLOW KHHO,qHIGH KHHO,qLOW GO,qHIGH GO",
  "qLOW NGO,qHIGH NGO,qLOW CO,qHIGH CO,qLOW CHO,qHIGH CHO,qLOW SO,qHIGH SO,qLOW NYO,qHIGH NYO",
  "qLOW DO,qHIGH DO,qLOW TO,qHIGH TO,qLOW THO,qHIGH THO,qLOW NO,qHIGH NO,qLOW BO,qHIGH BO,qLOW PO",
  "qHIGH PO,qLOW PHO,qHIGH PHO,qLOW FO,qHIGH FO,qLOW MO,qHIGH MO,qLOW YO,qHIGH YO,qLOW RO,qHIGH RO",
  "qLOW LO,qHIGH LO,qLOW VO,qHIGH VO,qLOW HO,qHIGH HO,qLOW O,qHIGH O,jMAI KANG,jVOWEL AA,pI,pUE,q",
  "pE,pO,jMAI KHIT,jVOWEL IA,pUEA,qA,pAUE,qY,qN,qM,jTONE MAI EK,sNUENG,sTHO,sSONG,AADBjSYMBOL KON",
  "qNUENG,qSAM,qHO HOI,qKOI KOI,aMEETEI MAYEK LETTER E,uO,uCHA,uNYA,uTTA,wHA,uDDA,wHA,uNNA,uSHA",
  "vSA,nVOWEL SIGN II,yUU,yAAI,zU,zAU,nCHEIKHAN,nAHANG KHUDAM,oNJI,nSYLLABLE REPETITION MARK",
  "nWORD REPETITION MARK,nVOWEL SIGN VISARGA,oIRAMA,AB01aETHIOPIC SYLLABLE TTHU,vI,vAA,vEE,w,vO",
  "AB09sDDHU,vI,vAA,vEE,w,vO,AB11tZU,uI,uAA,uEE,v,uO,AB20sCCHHA,wU,wI,wAA,wEE,x,wO,AB28sBBA,uU,uI",
  "uAA,uEE,v,uO,AB30aLATIN SMALL LETTER BARRED ALPHA,tA REVERSED-SCHWA,tBLACKLETTER E,uARRED E",
  "tE WITH FLOURISH,tLENIS F,tSCRIPT G WITH CROSSED-TAIL,tL WITH INVERTED LAZY S",
  "baDOUBLE MIDDLE TILDE,baMIDDLE RING,tM WITH CROSSED-TAIL,tN WITH CROSSED-TAIL",
  "tENG WITH CROSSED-TAIL,tBLACKLETTER O,bg WITH STROKE,tOPEN O WITH STROKE,tINVERTED OE",
  "tTURNED OE WITH STROKE,biHORIZONTAL STROKE,bb OPEN-O,bi WITH STROKE,tSTIRRUP R",
  "gLETTER SMALL CAPITAL R WITH RIGHT LEG,gSMALL LETTER R WITHOUT HANDLE,tDOUBLE R",
  "tR WITH CROSSED-TAIL,tDOUBLE R WITH CROSSED-TAIL,tSCRIPT R,bb WITH RING,tBASELINE ESH",
  "tU WITH SHORT RIGHT LEG,vBAR WITH SHORT RIGHT LEG,uI,tTURNED UI,tU WITH LEFT HOOK,tCHI",
  "w WITH LOW RIGHT RING,bgLEFT SERIF,tX WITH LOW RIGHT RING,bcNG LEFT LEG,bn AND LOW RIGHT RING",
  "boWITH SERIF,tY WITH SHORT RIGHT LEG,aMODIFIER BREVE WITH INVERTED BREVE,jLETTER SMALL HENG",
  "wL WITH INVERTED LAZY S,bdMIDDLE TILDE,wU WITH LEFT HOOK,aLATIN SMALL LETTER SAKHA YAT",
  "tIOTIFIED E,tOPEN OE,tUO,tINVERTED ALPHA,aGREEK LETTER SMALL CAPITAL OMEGA",
  "aLATIN SMALL LETTER DZ DIGRAPH WITH RETROFLEX HOOK,tTS DIGRAPH WITH RETROFLEX HOOK",
  "uURNED R WITH MIDDLE TILDE,aMODIFIER LETTER SMALL TURNED W,qLEFT TACK,qRIGHT TACK",
  "AB70aCHEROKEE SMALL LETTER A,wE,wI,wO,wU,wV,wGA,wKA,wGE,xI,xO,xU,xV,wHA,xE,xI,xO,xU,xV,wLA,xE",
  "xI,xO,xU,xV,wMA,xE,xI,xO,xU,wNA,wHNA,wNAH,xE,xI,xO,xU,xV,wQUA,yE,yI,yO,yU,yV,wSA,x,xE,xI,xO,xU",
  "xV,wDA,wTA,wDE,wTE,wDI,wTI,wDO,xU,xV,xLA,wTLA,yE,yI,yO,yU,yV,xSA,yE,yI,yO,yU,yV,wWA,xE,xI,xO,xU",
  "xV,wYA,aMEETEI MAYEK LETTER KOK,uSAM,uLAI,uMIT,uPA,uNA,uCHIL,uTIL,uKHOU,uNGOU,uTHOU,uWAI,uYANG",
  "uHUK,uUN,uI,uPHAM,uATIYA,uGOK,uJHAM,uRAI,uBA,uJIL,uDIL,uGHOU,uDHOU,uBHAM,uKOK LONSUM",
  "uLAI LONSUM,uMIT LONSUM,uPA LONSUM,uNA LONSUM,uTIL LONSUM,uNGOU LONSUM,uI LONSUM",
  "nVOWEL SIGN ONAP,yINAP,yANAP,yYENAP,ySOUNAP,yUNAP,yCHEINAP,yNUNG,nCHEIKHEI,nLUM IYEK,nAPUN IYEK",
  "ABF0nDIGIT ZERO,tONE,tTWO,uHREE,tFOUR,uIVE,tSIX,uEVEN,tEIGHT,tNINE,D7B0aHANGUL JUNGSEONG O-YEO",
  "tO-I,rYO-A,vE,uEO,rU-YEO,tI-I,rYU-AE,uO,rEU-A,uEO,v,uO,rI-YA-O,vE,uEO,v,tO-I,tYO,uU,tI,rARAEA-A",
  "xE,D7CBiONGSEONG NIEUN-RIEUL,xCHIEUCH,rSSANGTIKEUT,bc-PIEUP,rTIKEUT-PIEUP,ySIOS,bc-KIYEOK",
  "yCIEUC,zHIEUCH,yTHIEUTH,rRIEUL-SSANGKIYEOK,xKIYEOK-HIEUH,rSSANGRIEUL-KHIEUKH,rRIEUL-MIEUM-HIEUH",
  "xPIEUP-TIKEUT,bdPHIEUPH,xYESIEUNG,zORINHIEUH-HIEUH,rKAPYEOUNRIEUL,rMIEUM-NIEUN,xSSANGNIEUN",
  "rSSANGMIEUM,rMIEUM-PIEUP-SIOS,xCIEUC,rPIEUP-TIKEUT,xRIEUL-PHIEUPH,xMIEUM,rSSANGPIEUP",
  "rPIEUP-SIOS-TIKEUT,xCIEUC,yHIEUCH,rSIOS-MIEUM,wKAPYEOUNPIEUP,sSANGSIOS-KIYEOK,bbTIKEUT",
  "sIOS-PANSIOS,wCIEUC,xHIEUCH,wTHIEUTH,wHIEUH,rPANSIOS-PIEUP,zKAPYEOUNPIEUP,rYESIEUNG-MIEUM",
  "baHIEUH,rCIEUC-PIEUP,xSSANGPIEUP,rSSANGCIEUC,rPHIEUPH-SIOS,zTHIEUTH",
  "FB00aLATIN SMALL LIGATURE FF,wI,wL,wFI,xL,vLONG S T,vST,FB13aARMENIAN SMALL LIGATURE MEN NOW",
  "bcECH,bcINI,yVEW NOW,yMEN XEH,FB1DaHEBREW LETTER YOD WITH HIRIQ,hPOINT JUDEO-SPANISH VARIKA",
  "hLIGATURE YIDDISH YOD YOD PATAH,iETTER ALTERNATIVE AYIN,oWIDE ALEF,tDALET,tHE,tKAF,tLAMED",
  "tFINAL MEM,tRESH,tTAV,oALTERNATIVE PLUS SIGN,oSHIN WITH SHIN DOT,zIN DOT,yDAGESH AND SHIN DOT",
  "bkIN DOT,oALEF WITH PATAH,yQAMATS,yMAPIQ,oBET WITH DAGESH,oGIMEL WITH DAGESH,oDALET WITH DAGESH",
  "oHE WITH MAPIQ,oVAV WITH DAGESH,oZAYIN WITH DAGESH,FB38oTET WITH DAGESH,oYOD WITH DAGESH",
  "oFINAL KAF WITH DAGESH,oKAF WITH DAGESH,oLAMED WITH DAGESH,FB3EoMEM WITH DAGESH",
  "FB40oNUN WITH DAGESH,oSAMEKH WITH DAGESH,FB43oFINAL PE WITH DAGESH,oPE WITH DAGESH",
  "FB46oTSADI WITH DAGESH,oQOF WITH DAGESH,oRESH WITH DAGESH,oSHIN WITH DAGESH,oTAV WITH DAGESH",
  "oVAV WITH HOLAM,oBET WITH RAFE,oKAF WITH RAFE,oPE WITH RAFE,iIGATURE ALEF LAMED",
  "aARABIC LETTER ALEF WASLA ISOLATED FORM,zFINAL FORM,oBEEH ISOLATED FORM,tFINAL FORM",
  "tINITIAL FORM,tMEDIAL FORM,oPEH ISOLATED FORM,sFINAL FORM,sINITIAL FORM,sMEDIAL FORM",
  "oBEHEH ISOLATED FORM,uFINAL FORM,uINITIAL FORM,uMEDIAL FORM,oTTEHEH ISOLATED FORM,vFINAL FORM",
  "vINITIAL FORM,vMEDIAL FORM,pEHEH ISOLATED FORM,uFINAL FORM,uINITIAL FORM,uMEDIAL FORM",
  "pTEH ISOLATED FORM,tFINAL FORM,tINITIAL FORM,tMEDIAL FORM,oVEH ISOLATED FORM,sFINAL FORM",
  "sINITIAL FORM,sMEDIAL FORM,oPEHEH ISOLATED FORM,uFINAL FORM,uINITIAL FORM,uMEDIAL FORM",
  "oDYEH ISOLATED FORM,tFINAL FORM,tINITIAL FORM,tMEDIAL FORM,oNYEH ISOLATED FORM,tFINAL FORM",
  "tINITIAL FORM,tMEDIAL FORM,oTCHEH ISOLATED FORM,uFINAL FORM,uINITIAL FORM,uMEDIAL FORM",
  "tEH ISOLATED FORM,wFINAL FORM,wINITIAL FORM,wMEDIAL FORM,oDDAHAL ISOLATED FORM,vFINAL FORM",
  "pAHAL ISOLATED FORM,uFINAL FORM,pUL ISOLATED FORM,sFINAL FORM,pDAL ISOLATED FORM,tFINAL FORM",
  "oJEH ISOLATED FORM,sFINAL FORM,oRREH ISOLATED FORM,tFINAL FORM,oKEHEH ISOLATED FORM,uFINAL FORM",
  "uINITIAL FORM,uMEDIAL FORM,oGAF ISOLATED FORM,sFINAL FORM,sINITIAL FORM,sMEDIAL FORM",
  "pUEH ISOLATED FORM,tFINAL FORM,tINITIAL FORM,tMEDIAL FORM,oNGOEH ISOLATED FORM,uFINAL FORM",
  "uINITIAL FORM,uMEDIAL FORM,pOON GHUNNA ISOLATED FORM,baFINAL FORM,oRNOON ISOLATED FORM",
  "uFINAL FORM,uINITIAL FORM,uMEDIAL FORM,oHEH WITH YEH ABOVE ISOLATED FORM,bhFINAL FORM",
  "sGOAL ISOLATED FORM,xFINAL FORM,xINITIAL FORM,xMEDIAL FORM,sDOACHASHMEE ISOLATED FORM",
  "beFINAL FORM,beINITIAL FORM,beMEDIAL FORM,oYEH BARREE ISOLATED FORM,zFINAL FORM",
  "zWITH HAMZA ABOVE ISOLATED FORM,bqFINAL FORM,hSYMBOL DOT ABOVE,sBELOW,oTWO DOTS ABOVE,xBELOW",
  "pHREE DOTS ABOVE,zBELOW,zPOINTING DOWNWARDS ABOVE,bsBELOW,oFOUR DOTS ABOVE,yBELOW",
  "oDOUBLE VERTICAL BAR BELOW,oTWO DOTS VERTICALLY ABOVE,biBELOW,oRING,oSMALL TAH ABOVE,yBELOW",
  "oWASLA ABOVE,FBD3hLETTER NG ISOLATED FORM,rFINAL FORM,rINITIAL FORM,rMEDIAL FORM",
  "oU ISOLATED FORM,qFINAL FORM,oOE ISOLATED FORM,rFINAL FORM,oYU ISOLATED FORM,rFINAL FORM",
  "oU WITH HAMZA ABOVE ISOLATED FORM,oVE ISOLATED FORM,rFINAL FORM,oKIRGHIZ OE ISOLATED FORM",
  "zFINAL FORM,wYU ISOLATED FORM,zFINAL FORM,oE ISOLATED FORM,qFINAL FORM,qINITIAL FORM",
  "qMEDIAL FORM,oUIGHUR KAZAKH KIRGHIZ ALEF MAKSURA INITIAL FORM,bxMEDIAL FORM",
  "iIGATURE YEH WITH HAMZA ABOVE WITH ALEF ISOLATED FORM,bvFINAL FORM,brE ISOLATED FORM",
  "btFINAL FORM,bqWAW ISOLATED FORM,buFINAL FORM,bqU ISOLATED FORM,bsFINAL FORM,bqOE ISOLATED FORM",
  "btFINAL FORM,bqYU ISOLATED FORM,btFINAL FORM,bqE ISOLATED FORM,bsFINAL FORM,bsINITIAL FORM",
  "qUIGHUR KIRGHIZ YEH WITH HAMZA ABOVE WITH ALEF MAKSURA ISOLATED FORM,csFINAL FORM",
  "csINITIAL FORM,iETTER FARSI YEH ISOLATED FORM,yFINAL FORM,yINITIAL FORM,yMEDIAL FORM",
  "iIGATURE YEH WITH HAMZA ABOVE WITH JEEM ISOLATED FORM,bqHAH ISOLATED FORM,bqMEEM ISOLATED FORM",
  "bqALEF MAKSURA ISOLATED FORM,bqYEH ISOLATED FORM,qBEH WITH JEEM ISOLATED FORM",
  "zHAH ISOLATED FORM,zKHAH ISOLATED FORM,zMEEM ISOLATED FORM,zALEF MAKSURA ISOLATED FORM",
  "zYEH ISOLATED FORM,qTEH WITH JEEM ISOLATED FORM,zHAH ISOLATED FORM,zKHAH ISOLATED FORM",
  "zMEEM ISOLATED FORM,zALEF MAKSURA ISOLATED FORM,zYEH ISOLATED FORM,rHEH WITH JEEM ISOLATED FORM",
  "baMEEM ISOLATED FORM,baALEF MAKSURA ISOLATED FORM,baYEH ISOLATED FORM",
  "qJEEM WITH HAH ISOLATED FORM,baMEEM ISOLATED FORM,qHAH WITH JEEM ISOLATED FORM",
  "zMEEM ISOLATED FORM,qKHAH WITH JEEM ISOLATED FORM,baHAH ISOLATED FORM,baMEEM ISOLATED FORM",
  "qSEEN WITH JEEM ISOLATED FORM,baHAH ISOLATED FORM,baKHAH ISOLATED FORM,baMEEM ISOLATED FORM",
  "rAD WITH HAH ISOLATED FORM,zMEEM ISOLATED FORM,qDAD WITH JEEM ISOLATED FORM,zHAH ISOLATED FORM",
  "zKHAH ISOLATED FORM,zMEEM ISOLATED FORM,qTAH WITH HAH ISOLATED FORM,zMEEM ISOLATED FORM",
  "qZAH WITH MEEM ISOLATED FORM,qAIN WITH JEEM ISOLATED FORM,zMEEM ISOLATED FORM",
  "qGHAIN WITH JEEM ISOLATED FORM,bbMEEM ISOLATED FORM,qFEH WITH JEEM ISOLATED FORM",
  "zHAH ISOLATED FORM,zKHAH ISOLATED FORM,zMEEM ISOLATED FORM,zALEF MAKSURA ISOLATED FORM",
  "zYEH ISOLATED FORM,qQAF WITH HAH ISOLATED FORM,zMEEM ISOLATED FORM,zALEF MAKSURA ISOLATED FORM",
  "zYEH ISOLATED FORM,qKAF WITH ALEF ISOLATED FORM,zJEEM ISOLATED FORM,zHAH ISOLATED FORM",
  "zKHAH ISOLATED FORM,zLAM ISOLATED FORM,zMEEM ISOLATED FORM,zALEF MAKSURA ISOLATED FORM",
  "zYEH ISOLATED FORM,qLAM WITH JEEM ISOLATED FORM,zHAH ISOLATED FORM,zKHAH ISOLATED FORM",
  "zMEEM ISOLATED FORM,zALEF MAKSURA ISOLATED FORM,zYEH ISOLATED FORM",
  "qMEEM WITH JEEM ISOLATED FORM,baHAH ISOLATED FORM,baKHAH ISOLATED FORM,baMEEM ISOLATED FORM",
  "baALEF MAKSURA ISOLATED FORM,baYEH ISOLATED FORM,qNOON WITH JEEM ISOLATED FORM",
  "baHAH ISOLATED FORM,baKHAH ISOLATED FORM,baMEEM ISOLATED FORM,baALEF MAKSURA ISOLATED FORM",
  "baYEH ISOLATED FORM,qHEH WITH JEEM ISOLATED FORM,zMEEM ISOLATED FORM",
  "zALEF MAKSURA ISOLATED FORM,zYEH ISOLATED FORM,qYEH WITH JEEM ISOLATED FORM,zHAH ISOLATED FORM",
  "zKHAH ISOLATED FORM,zMEEM ISOLATED FORM,zALEF MAKSURA ISOLATED FORM,zYEH ISOLATED FORM",
  "qTHAL WITH SUPERSCRIPT ALEF ISOLATED FORM,qREH WITH SUPERSCRIPT ALEF ISOLATED FORM",
  "qALEF MAKSURA WITH SUPERSCRIPT ALEF ISOLATED FORM,qSHADDA WITH DAMMATAN ISOLATED FORM",
  "bcKASRATAN ISOLATED FORM,bcFATHA ISOLATED FORM,bcDAMMA ISOLATED FORM,bcKASRA ISOLATED FORM",
  "bcSUPERSCRIPT ALEF ISOLATED FORM,qYEH WITH HAMZA ABOVE WITH REH FINAL FORM,bqZAIN FINAL FORM",
  "bqMEEM FINAL FORM,bqNOON FINAL FORM,bqALEF MAKSURA FINAL FORM,bqYEH FINAL FORM",
  "qBEH WITH REH FINAL FORM,zZAIN FINAL FORM,zMEEM FINAL FORM,zNOON FINAL FORM",
  "zALEF MAKSURA FINAL FORM,zYEH FINAL FORM,qTEH WITH REH FINAL FORM,zZAIN FINAL FORM",
  "zMEEM FINAL FORM,zNOON FINAL FORM,zALEF MAKSURA FINAL FORM,zYEH FINAL FORM",
  "rHEH WITH REH FINAL FORM,baZAIN FINAL FORM,baMEEM FINAL FORM,baNOON FINAL FORM",
  "baALEF MAKSURA FINAL FORM,baYEH FINAL FORM,qFEH WITH ALEF MAKSURA FINAL FORM,zYEH FINAL FORM",
  "qQAF WITH ALEF MAKSURA FINAL FORM,zYEH FINAL FORM,qKAF WITH ALEF FINAL FORM,zLAM FINAL FORM",
  "zMEEM FINAL FORM,zALEF MAKSURA FINAL FORM,zYEH FINAL FORM,qLAM WITH MEEM FINAL FORM",
  "zALEF MAKSURA FINAL FORM,zYEH FINAL FORM,qMEEM WITH ALEF FINAL FORM,baMEEM FINAL FORM",
  "qNOON WITH REH FINAL FORM,baZAIN FINAL FORM,baMEEM FINAL FORM,baNOON FINAL FORM",
  "baALEF MAKSURA FINAL FORM,baYEH FINAL FORM,qALEF MAKSURA WITH SUPERSCRIPT ALEF FINAL FORM",
  "qYEH WITH REH FINAL FORM,zZAIN FINAL FORM,zMEEM FINAL FORM,zNOON FINAL FORM",
  "zALEF MAKSURA FINAL FORM,zYEH FINAL FORM,zHAMZA ABOVE WITH JEEM INITIAL FORM,bqHAH INITIAL FORM",
  "bqKHAH INITIAL FORM,bqMEEM INITIAL FORM,bqHEH INITIAL FORM,qBEH WITH JEEM INITIAL FORM",
  "zHAH INITIAL FORM,zKHAH INITIAL FORM,zMEEM INITIAL FORM,zHEH INITIAL FORM",
  "qTEH WITH JEEM INITIAL FORM,zHAH INITIAL FORM,zKHAH INITIAL FORM,zMEEM INITIAL FORM",
  "zHEH INITIAL FORM,rHEH WITH MEEM INITIAL FORM,qJEEM WITH HAH INITIAL FORM,baMEEM INITIAL FORM",
  "qHAH WITH JEEM INITIAL FORM,zMEEM INITIAL FORM,qKHAH WITH JEEM INITIAL FORM,baMEEM INITIAL FORM",
  "qSEEN WITH JEEM INITIAL FORM,baHAH INITIAL FORM,baKHAH INITIAL FORM,baMEEM INITIAL FORM",
  "rAD WITH HAH INITIAL FORM,zKHAH INITIAL FORM,zMEEM INITIAL FORM,qDAD WITH JEEM INITIAL FORM",
  "zHAH INITIAL FORM,zKHAH INITIAL FORM,zMEEM INITIAL FORM,qTAH WITH HAH INITIAL FORM",
  "qZAH WITH MEEM INITIAL FORM,qAIN WITH JEEM INITIAL FORM,zMEEM INITIAL FORM",
  "qGHAIN WITH JEEM INITIAL FORM,bbMEEM INITIAL FORM,qFEH WITH JEEM INITIAL FORM,zHAH INITIAL FORM",
  "zKHAH INITIAL FORM,zMEEM INITIAL FORM,qQAF WITH HAH INITIAL FORM,zMEEM INITIAL FORM",
  "qKAF WITH JEEM INITIAL FORM,zHAH INITIAL FORM,zKHAH INITIAL FORM,zLAM INITIAL FORM",
  "zMEEM INITIAL FORM,qLAM WITH JEEM INITIAL FORM,zHAH INITIAL FORM,zKHAH INITIAL FORM",
  "zMEEM INITIAL FORM,zHEH INITIAL FORM,qMEEM WITH JEEM INITIAL FORM,baHAH INITIAL FORM",
  "baKHAH INITIAL FORM,baMEEM INITIAL FORM,qNOON WITH JEEM INITIAL FORM,baHAH INITIAL FORM",
  "baKHAH INITIAL FORM,baMEEM INITIAL FORM,baHEH INITIAL FORM,qHEH WITH JEEM INITIAL FORM",
  "zMEEM INITIAL FORM,zSUPERSCRIPT ALEF INITIAL FORM,qYEH WITH JEEM INITIAL FORM,zHAH INITIAL FORM",
  "zKHAH INITIAL FORM,zMEEM INITIAL FORM,zHEH INITIAL FORM,baAMZA ABOVE WITH MEEM MEDIAL FORM",
  "bqHEH MEDIAL FORM,qBEH WITH MEEM MEDIAL FORM,zHEH MEDIAL FORM,qTEH WITH MEEM MEDIAL FORM",
  "zHEH MEDIAL FORM,rHEH WITH MEEM MEDIAL FORM,baHEH MEDIAL FORM,qSEEN WITH MEEM MEDIAL FORM",
  "baHEH MEDIAL FORM,rHEEN WITH MEEM MEDIAL FORM,bbHEH MEDIAL FORM,qKAF WITH LAM MEDIAL FORM",
  "zMEEM MEDIAL FORM,qLAM WITH MEEM MEDIAL FORM,qNOON WITH MEEM MEDIAL FORM,baHEH MEDIAL FORM",
  "qYEH WITH MEEM MEDIAL FORM,zHEH MEDIAL FORM,qSHADDA WITH FATHA MEDIAL FORM,bcDAMMA MEDIAL FORM",
  "bcKASRA MEDIAL FORM,qTAH WITH ALEF MAKSURA ISOLATED FORM,zYEH ISOLATED FORM",
  "qAIN WITH ALEF MAKSURA ISOLATED FORM,zYEH ISOLATED FORM,qGHAIN WITH ALEF MAKSURA ISOLATED FORM",
  "bbYEH ISOLATED FORM,qSEEN WITH ALEF MAKSURA ISOLATED FORM,baYEH ISOLATED FORM",
  "rHEEN WITH ALEF MAKSURA ISOLATED FORM,bbYEH ISOLATED FORM,qHAH WITH ALEF MAKSURA ISOLATED FORM",
  "zYEH ISOLATED FORM,qJEEM WITH ALEF MAKSURA ISOLATED FORM,baYEH ISOLATED FORM",
  "qKHAH WITH ALEF MAKSURA ISOLATED FORM,baYEH ISOLATED FORM,qSAD WITH ALEF MAKSURA ISOLATED FORM",
  "zYEH ISOLATED FORM,qDAD WITH ALEF MAKSURA ISOLATED FORM,zYEH ISOLATED FORM",
  "qSHEEN WITH JEEM ISOLATED FORM,bbHAH ISOLATED FORM,bbKHAH ISOLATED FORM,bbMEEM ISOLATED FORM",
  "bbREH ISOLATED FORM,rEEN WITH REH ISOLATED FORM,rAD WITH REH ISOLATED FORM",
  "qDAD WITH REH ISOLATED FORM,qTAH WITH ALEF MAKSURA FINAL FORM,zYEH FINAL FORM",
  "qAIN WITH ALEF MAKSURA FINAL FORM,zYEH FINAL FORM,qGHAIN WITH ALEF MAKSURA FINAL FORM",
  "bbYEH FINAL FORM,qSEEN WITH ALEF MAKSURA FINAL FORM,baYEH FINAL FORM",
  "rHEEN WITH ALEF MAKSURA FINAL FORM,bbYEH FINAL FORM,qHAH WITH ALEF MAKSURA FINAL FORM",
  "zYEH FINAL FORM,qJEEM WITH ALEF MAKSURA FINAL FORM,baYEH FINAL FORM",
  "qKHAH WITH ALEF MAKSURA FINAL FORM,baYEH FINAL FORM,qSAD WITH ALEF MAKSURA FINAL FORM",
  "zYEH FINAL FORM,qDAD WITH ALEF MAKSURA FINAL FORM,zYEH FINAL FORM,qSHEEN WITH JEEM FINAL FORM",
  "bbHAH FINAL FORM,bbKHAH FINAL FORM,bbMEEM FINAL FORM,bbREH FINAL FORM,rEEN WITH REH FINAL FORM",
  "rAD WITH REH FINAL FORM,qDAD WITH REH FINAL FORM,qSHEEN WITH JEEM INITIAL FORM",
  "bbHAH INITIAL FORM,bbKHAH INITIAL FORM,bbMEEM INITIAL FORM,rEEN WITH HEH INITIAL FORM",
  "rHEEN WITH HEH INITIAL FORM,qTAH WITH MEEM INITIAL FORM,qSEEN WITH JEEM MEDIAL FORM",
  "baHAH MEDIAL FORM,baKHAH MEDIAL FORM,rHEEN WITH JEEM MEDIAL FORM,bbHAH MEDIAL FORM",
  "bbKHAH MEDIAL FORM,qTAH WITH MEEM MEDIAL FORM,qZAH WITH MEEM MEDIAL FORM",
  "qALEF WITH FATHATAN FINAL FORM,bjISOLATED FORM,aORNATE LEFT PARENTHESIS,hRIGHT PARENTHESIS",
  "aARABIC LIGATURE RAHIMAHU ALLAAH,sDI ALLAAHU ANH,bgAA,bgUM,biAA,bhNNA",
  "qSALLALLAAHU ALAYHI WA-AALIH,qALAYHI AS-SALAAM,wM AS-SALAAM,xAA AS-SALAAM",
  "w AS-SALAATU WAS-SALAAM,qQUDDISA SIRRAH,qSALLALLAHU ALAYHI WAAALIHEE WA-SALLAM",
  "qALAYHAA AS-SALAAM,qTABAARAKA WA-TAAALAA,qRAHIMAHUM ALLAAH",
  "qTEH WITH JEEM WITH MEEM INITIAL FORM,zHAH WITH JEEM FINAL FORM,bnINITIAL FORM",
  "biMEEM INITIAL FORM,zKHAH WITH MEEM INITIAL FORM,zMEEM WITH JEEM INITIAL FORM",
  "bjHAH INITIAL FORM,bjKHAH INITIAL FORM,qJEEM WITH MEEM WITH HAH FINAL FORM,boINITIAL FORM",
  "qHAH WITH MEEM WITH YEH FINAL FORM,bjALEF MAKSURA FINAL FORM",
  "qSEEN WITH HAH WITH JEEM INITIAL FORM,baJEEM WITH HAH INITIAL FORM,bkALEF MAKSURA FINAL FORM",
  "baMEEM WITH HAH FINAL FORM,boINITIAL FORM,bkJEEM INITIAL FORM,bkMEEM FINAL FORM,bpINITIAL FORM",
  "rAD WITH HAH WITH HAH FINAL FORM,bmINITIAL FORM,zMEEM WITH MEEM FINAL FORM",
  "rHEEN WITH HAH WITH MEEM FINAL FORM,bpINITIAL FORM,bbJEEM WITH YEH FINAL FORM",
  "bbMEEM WITH KHAH FINAL FORM,bqINITIAL FORM,blMEEM FINAL FORM,bqINITIAL FORM",
  "qDAD WITH HAH WITH ALEF MAKSURA FINAL FORM,zKHAH WITH MEEM FINAL FORM,boINITIAL FORM",
  "qTAH WITH MEEM WITH HAH FINAL FORM,bnINITIAL FORM,bjMEEM INITIAL FORM,bjYEH FINAL FORM",
  "qAIN WITH JEEM WITH MEEM FINAL FORM,zMEEM WITH MEEM FINAL FORM,boINITIAL FORM",
  "bjALEF MAKSURA FINAL FORM,qGHAIN WITH MEEM WITH MEEM FINAL FORM,blYEH FINAL FORM",
  "blALEF MAKSURA FINAL FORM,qFEH WITH KHAH WITH MEEM FINAL FORM,boINITIAL FORM",
  "qQAF WITH MEEM WITH HAH FINAL FORM,bjMEEM FINAL FORM,qLAM WITH HAH WITH MEEM FINAL FORM",
  "biYEH FINAL FORM,biALEF MAKSURA FINAL FORM,zJEEM WITH JEEM INITIAL FORM,boFINAL FORM",
  "zKHAH WITH MEEM FINAL FORM,boINITIAL FORM,zMEEM WITH HAH FINAL FORM,bnINITIAL FORM",
  "qMEEM WITH HAH WITH JEEM INITIAL FORM,bjMEEM INITIAL FORM,bjYEH FINAL FORM",
  "baJEEM WITH HAH INITIAL FORM,bkMEEM INITIAL FORM,baKHAH WITH JEEM INITIAL FORM",
  "bkMEEM INITIAL FORM,FD92baJEEM WITH KHAH INITIAL FORM,qHEH WITH MEEM WITH JEEM INITIAL FORM",
  "bjMEEM INITIAL FORM,qNOON WITH HAH WITH MEEM INITIAL FORM,bjALEF MAKSURA FINAL FORM",
  "baJEEM WITH MEEM FINAL FORM,bpINITIAL FORM,bkALEF MAKSURA FINAL FORM,baMEEM WITH YEH FINAL FORM",
  "bkALEF MAKSURA FINAL FORM,qYEH WITH MEEM WITH MEEM FINAL FORM,boINITIAL FORM",
  "qBEH WITH KHAH WITH YEH FINAL FORM,qTEH WITH JEEM WITH YEH FINAL FORM,bjALEF MAKSURA FINAL FORM",
  "zKHAH WITH YEH FINAL FORM,bjALEF MAKSURA FINAL FORM,zMEEM WITH YEH FINAL FORM",
  "bjALEF MAKSURA FINAL FORM,qJEEM WITH MEEM WITH YEH FINAL FORM",
  "baHAH WITH ALEF MAKSURA FINAL FORM,baMEEM WITH ALEF MAKSURA FINAL FORM",
  "qSEEN WITH KHAH WITH ALEF MAKSURA FINAL FORM,rAD WITH HAH WITH YEH FINAL FORM",
  "rHEEN WITH HAH WITH YEH FINAL FORM,qDAD WITH HAH WITH YEH FINAL FORM",
  "qLAM WITH JEEM WITH YEH FINAL FORM,zMEEM WITH YEH FINAL FORM,qYEH WITH HAH WITH YEH FINAL FORM",
  "zJEEM WITH YEH FINAL FORM,zMEEM WITH YEH FINAL FORM,qMEEM WITH MEEM WITH YEH FINAL FORM",
  "qQAF WITH MEEM WITH YEH FINAL FORM,qNOON WITH HAH WITH YEH FINAL FORM",
  "qQAF WITH MEEM WITH HAH INITIAL FORM,qLAM WITH HAH WITH MEEM INITIAL FORM",
  "qAIN WITH MEEM WITH YEH FINAL FORM,qKAF WITH MEEM WITH YEH FINAL FORM",
  "qNOON WITH JEEM WITH HAH INITIAL FORM,qMEEM WITH KHAH WITH YEH FINAL FORM",
  "qLAM WITH JEEM WITH MEEM INITIAL FORM,qKAF WITH MEEM WITH MEEM FINAL FORM",
  "qLAM WITH JEEM WITH MEEM FINAL FORM,qNOON WITH JEEM WITH HAH FINAL FORM",
  "qJEEM WITH HAH WITH YEH FINAL FORM,qHAH WITH JEEM WITH YEH FINAL FORM",
  "qMEEM WITH JEEM WITH YEH FINAL FORM,qFEH WITH MEEM WITH YEH FINAL FORM",
  "qBEH WITH HAH WITH YEH FINAL FORM,qKAF WITH MEEM WITH MEEM INITIAL FORM",
  "qAIN WITH JEEM WITH MEEM INITIAL FORM,qSAD WITH MEEM WITH MEEM INITIAL FORM",
  "rEEN WITH KHAH WITH YEH FINAL FORM,qNOON WITH JEEM WITH YEH FINAL FORM,FDCFqSALAAMUHU ALAYNAA",
  "FDF0tLA USED AS KORANIC STOP SIGN ISOLATED FORM,qQALA USED AS KORANIC STOP SIGN ISOLATED FORM",
  "qALLAH ISOLATED FORM,rKBAR ISOLATED FORM,qMOHAMMAD ISOLATED FORM,qSALAM ISOLATED FORM",
  "qRASOUL ISOLATED FORM,qALAYHE ISOLATED FORM,qWASALLAM ISOLATED FORM,qSALLA ISOLATED FORM",
  "vLLAHOU ALAYHE WASALLAM,qJALLAJALALOUHOU,aRIAL SIGN",
  "aARABIC LIGATURE BISMILLAH AR-RAHMAN AR-RAHEEM,qSUBHAANAHU WA TAAALAA,qAZZA WA JALL",
  "aVARIATION SELECTOR-1,t2,t3,t4,t5,t6,t7,t8,t9,t10,u1,u2,u3,u4,u5,u6",
  "aPRESENTATION FORM FOR VERTICAL COMMA,bfIDEOGRAPHIC COMMA,brFULL STOP,bfCOLON,bfSEMICOLON",
  "bfEXCLAMATION MARK,bfQUESTION MARK,bfLEFT WHITE LENTICULAR BRACKET",
  "bfRIGHT WHITE LENTICULAR BRAKCET,bfHORIZONTAL ELLIPSIS,FE20aCOMBINING LIGATURE LEFT HALF",
  "tRIGHT HALF,kDOUBLE TILDE LEFT HALF,xRIGHT HALF,kMACRON LEFT HALF,rRIGHT HALF",
  "kCONJOINING MACRON,kLIGATURE LEFT HALF BELOW,tRIGHT HALF BELOW,kTILDE LEFT HALF BELOW",
  "qRIGHT HALF BELOW,kMACRON LEFT HALF BELOW,rRIGHT HALF BELOW,kCONJOINING MACRON BELOW",
  "lYRILLIC TITLO LEFT HALF,zRIGHT HALF,aPRESENTATION FORM FOR VERTICAL TWO DOT LEADER,bfEM DASH",
  "bgN DASH,bfLOW LINE,bfWAVY LOW LINE,bfLEFT PARENTHESIS,bfRIGHT PARENTHESIS,bfLEFT CURLY BRACKET",
  "bfRIGHT CURLY BRACKET,bfLEFT TORTOISE SHELL BRACKET,bfRIGHT TORTOISE SHELL BRACKET",
  "bfLEFT BLACK LENTICULAR BRACKET,bfRIGHT BLACK LENTICULAR BRACKET,bfLEFT DOUBLE ANGLE BRACKET",
  "bfRIGHT DOUBLE ANGLE BRACKET,bfLEFT ANGLE BRACKET,bfRIGHT ANGLE BRACKET,bfLEFT CORNER BRACKET",
  "bfRIGHT CORNER BRACKET,bfLEFT WHITE CORNER BRACKET,bfRIGHT WHITE CORNER BRACKET,aSESAME DOT",
  "aWHITE SESAME DOT,aPRESENTATION FORM FOR VERTICAL LEFT SQUARE BRACKET,bfRIGHT SQUARE BRACKET",
  "aDASHED OVERLINE,aCENTRELINE OVERLINE,aWAVY OVERLINE,aDOUBLE WAVY OVERLINE,bASHED LOW LINE",
  "aCENTRELINE LOW LINE,aWAVY LOW LINE,aSMALL COMMA,gIDEOGRAPHIC COMMA,gFULL STOP,FE54gSEMICOLON",
  "gCOLON,gQUESTION MARK,gEXCLAMATION MARK,hM DASH,gLEFT PARENTHESIS,gRIGHT PARENTHESIS",
  "gLEFT CURLY BRACKET,gRIGHT CURLY BRACKET,gLEFT TORTOISE SHELL BRACKET",
  "gRIGHT TORTOISE SHELL BRACKET,gNUMBER SIGN,gAMPERSAND,hSTERISK,gPLUS SIGN,gHYPHEN-MINUS",
  "gLESS-THAN SIGN,gGREATER-THAN SIGN,gEQUALS SIGN,FE68gREVERSE SOLIDUS,gDOLLAR SIGN,gPERCENT SIGN",
  "gCOMMERCIAL AT,FE70aARABIC FATHATAN ISOLATED FORM,hTATWEEL WITH FATHATAN ABOVE",
  "hDAMMATAN ISOLATED FORM,hTAIL FRAGMENT,hKASRATAN ISOLATED FORM,FE76hFATHA ISOLATED FORM",
  "nMEDIAL FORM,hDAMMA ISOLATED FORM,nMEDIAL FORM,hKASRA ISOLATED FORM,nMEDIAL FORM",
  "hSHADDA ISOLATED FORM,oMEDIAL FORM,iUKUN ISOLATED FORM,nMEDIAL FORM,hLETTER HAMZA ISOLATED FORM",
  "oALEF WITH MADDA ABOVE ISOLATED FORM,bkFINAL FORM,yHAMZA ABOVE ISOLATED FORM,bkFINAL FORM",
  "oWAW WITH HAMZA ABOVE ISOLATED FORM,bjFINAL FORM,oALEF WITH HAMZA BELOW ISOLATED FORM",
  "bkFINAL FORM,oYEH WITH HAMZA ABOVE ISOLATED FORM,bjFINAL FORM,bjINITIAL FORM,bjMEDIAL FORM",
  "oALEF ISOLATED FORM,tFINAL FORM,oBEH ISOLATED FORM,sFINAL FORM,sINITIAL FORM,sMEDIAL FORM",
  "oTEH MARBUTA ISOLATED FORM,baFINAL FORM,sISOLATED FORM,sFINAL FORM,sINITIAL FORM,sMEDIAL FORM",
  "pHEH ISOLATED FORM,tFINAL FORM,tINITIAL FORM,tMEDIAL FORM,oJEEM ISOLATED FORM,tFINAL FORM",
  "tINITIAL FORM,tMEDIAL FORM,oHAH ISOLATED FORM,sFINAL FORM,sINITIAL FORM,sMEDIAL FORM",
  "oKHAH ISOLATED FORM,tFINAL FORM,tINITIAL FORM,tMEDIAL FORM,oDAL ISOLATED FORM,sFINAL FORM",
  "oTHAL ISOLATED FORM,tFINAL FORM,oREH ISOLATED FORM,sFINAL FORM,oZAIN ISOLATED FORM,tFINAL FORM",
  "oSEEN ISOLATED FORM,tFINAL FORM,tINITIAL FORM,tMEDIAL FORM,pHEEN ISOLATED FORM,uFINAL FORM",
  "uINITIAL FORM,uMEDIAL FORM,pAD ISOLATED FORM,sFINAL FORM,sINITIAL FORM,sMEDIAL FORM",
  "oDAD ISOLATED FORM,sFINAL FORM,sINITIAL FORM,sMEDIAL FORM,oTAH ISOLATED FORM,sFINAL FORM",
  "sINITIAL FORM,sMEDIAL FORM,oZAH ISOLATED FORM,sFINAL FORM,sINITIAL FORM,sMEDIAL FORM",
  "oAIN ISOLATED FORM,sFINAL FORM,sINITIAL FORM,sMEDIAL FORM,oGHAIN ISOLATED FORM,uFINAL FORM",
  "uINITIAL FORM,uMEDIAL FORM,oFEH ISOLATED FORM,sFINAL FORM,sINITIAL FORM,sMEDIAL FORM",
  "oQAF ISOLATED FORM,sFINAL FORM,sINITIAL FORM,sMEDIAL FORM,oKAF ISOLATED FORM,sFINAL FORM",
  "sINITIAL FORM,sMEDIAL FORM,oLAM ISOLATED FORM,sFINAL FORM,sINITIAL FORM,sMEDIAL FORM",
  "oMEEM ISOLATED FORM,tFINAL FORM,tINITIAL FORM,tMEDIAL FORM,oNOON ISOLATED FORM,tFINAL FORM",
  "tINITIAL FORM,tMEDIAL FORM,oHEH ISOLATED FORM,sFINAL FORM,sINITIAL FORM,sMEDIAL FORM",
  "oWAW ISOLATED FORM,sFINAL FORM,oALEF MAKSURA ISOLATED FORM,bbFINAL FORM,oYEH ISOLATED FORM",
  "sFINAL FORM,sINITIAL FORM,sMEDIAL FORM,iIGATURE LAM WITH ALEF WITH MADDA ABOVE ISOLATED FORM",
  "bvFINAL FORM,bjHAMZA ABOVE ISOLATED FORM,bvFINAL FORM,bpBELOW ISOLATED FORM,bvFINAL FORM",
  "beISOLATED FORM,beFINAL FORM,FEFFaZERO WIDTH NO-BREAK SPACE,FF01aFULLWIDTH EXCLAMATION MARK",
  "kQUOTATION MARK,kNUMBER SIGN,kDOLLAR SIGN,kPERCENT SIGN,kAMPERSAND,lPOSTROPHE,kLEFT PARENTHESIS",
  "kRIGHT PARENTHESIS,kASTERISK,kPLUS SIGN,kCOMMA,kHYPHEN-MINUS,kFULL STOP,kSOLIDUS,kDIGIT ZERO",
  "qONE,qTWO,rHREE,qFOUR,rIVE,qSIX,rEVEN,qEIGHT,qNINE,kCOLON,kSEMICOLON,kLESS-THAN SIGN",
  "kEQUALS SIGN,kGREATER-THAN SIGN,kQUESTION MARK,kCOMMERCIAL AT,kLATIN CAPITAL LETTER A,bfB,bfC",
  "bfD,bfE,bfF,bfG,bfH,bfI,bfJ,bfK,bfL,bfM,bfN,bfO,bfP,bfQ,bfR,bfS,bfT,bfU,bfV,bfW,bfX,bfY,bfZ",
  "lEFT SQUARE BRACKET,kREVERSE SOLIDUS,lIGHT SQUARE BRACKET,kCIRCUMFLEX ACCENT,kLOW LINE",
  "kGRAVE ACCENT,kLATIN SMALL LETTER A,bdB,bdC,bdD,bdE,bdF,bdG,bdH,bdI,bdJ,bdK,bdL,bdM,bdN,bdO,bdP",
  "bdQ,bdR,bdS,bdT,bdU,bdV,bdW,bdX,bdY,bdZ,lEFT CURLY BRACKET,kVERTICAL LINE,kRIGHT CURLY BRACKET",
  "kTILDE,kLEFT WHITE PARENTHESIS,kRIGHT WHITE PARENTHESIS,aHALFWIDTH IDEOGRAPHIC FULL STOP",
  "kLEFT CORNER BRACKET,kRIGHT CORNER BRACKET,kIDEOGRAPHIC COMMA,kKATAKANA MIDDLE DOT,tLETTER WO",
  "baSMALL A,bgI,bgU,bgE,bgO,bgYA,bhU,bhO,bgTU,s-HIRAGANA PROLONGED SOUND MARK,s LETTER A,baI,baU",
  "baE,baO,baKA,bbI,bbU,bbE,bbO,baSA,bbI,bbU,bbE,bbO,baTA,bbI,bbU,bbE,bbO,baNA,bbI,bbU,bbE,bbO",
  "baHA,bbI,bbU,bbE,bbO,baMA,bbI,bbU,bbE,bbO,baYA,bbU,bbO,baRA,bbI,bbU,bbE,bbO,baWA,baN",
  "tVOICED SOUND MARK,tSEMI-VOICED SOUND MARK,kHANGUL FILLER,rLETTER KIYEOK,ySSANGKIYEOK",
  "yKIYEOK-SIOS,yNIEUN,bd-CIEUC,beHIEUH,yTIKEUT,ySSANGTIKEUT,yRIEUL,bd-KIYEOK,beMIEUM,bePIEUP",
  "beSIOS,beTHIEUTH,bePHIEUPH,beHIEUH,yMIEUM,yPIEUP,ySSANGPIEUP,yPIEUP-SIOS,ySIOS,zSANGSIOS,yIEUNG",
  "yCIEUC,ySSANGCIEUC,yCHIEUCH,yKHIEUKH,yTHIEUTH,yPHIEUPH,yHIEUH,FFC2yA,zE,yYA,baE,yEO,z,FFCAyYEO",
  "ba,yO,yWA,baE,yOE,FFD2yYO,yU,yWEO,ba,zI,yYU,FFDAyEU,yYI,yI,FFE0aFULLWIDTH CENT SIGN,kPOUND SIGN",
  "kNOT SIGN,kMACRON,kBROKEN BAR,kYEN SIGN,kWON SIGN,FFE8aHALFWIDTH FORMS LIGHT VERTICAL",
  "kLEFTWARDS ARROW,kUPWARDS ARROW,kRIGHTWARDS ARROW,kDOWNWARDS ARROW,kBLACK SQUARE,kWHITE CIRCLE",
  "FFF9aINTERLINEAR ANNOTATION ANCHOR,xSEPARATOR,xTERMINATOR,aOBJECT REPLACEMENT CHARACTER",
  "aREPLACEMENT CHARACTER"]

end Docblock.Text.Names
