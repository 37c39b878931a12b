/-!
# Names of characters, 14400 to 1AFFF

The packed names of the characters from 14400 to 1AFFF: the Anatolian hieroglyphs, Bamum and
Tangut components.
-/

namespace Docblock.Text.Names

/-- Packed names, in the order of their characters. -/
def glyphs : List String := [
  "14400aANATOLIAN HIEROGLYPH A001,y2,y3,y4,y5,y6,y7,y8,y9,x10,zA,y1,y2,y3,y4,y5,y6,y7,y8,y9,x20",
  "y1,y2,y3,y4,y5,y6,zA,y7,y8,y9,x30,y1,y2,y3,y4,y5,y6,y7,y8,y9,zA,x40,y1,zA,y2,y3,y4,y5,zA,y6,zA",
  "zB,y7,y8,y9,x50,y1,y2,y3,y4,y5,y6,y7,y8,y9,x60,y1,y2,y3,y4,y5,y6,zA,zB,zC,y7,y8,y9,x70,y1,y2,y3",
  "y4,y5,y6,y7,y8,y9,x80,y1,y2,y3,y4,y5,y6,y7,y8,y9,x90,y1,y2,y3,y4,y5,y6,y7,zA,y8,zA,y9,w100,zA",
  "y1,zA,y2,zA,y3,y4,zA,zB,zC,y5,zA,zB,y6,y7,zA,zB,zC,y8,y9,x10,zA,zB,y1,y2,y3,y4,y5,zA,y6,y7,y8",
  "y9,x20,y1,y2,y3,y4,y5,zA,y6,y7,y8,y9,x30,y1,y2,y3,y4,y5,zA,y6,y7,y8,y9,x40,y1,y2,y3,y4,y5,y6,y7",
  "y8,y9,x50,y1,y2,y3,y4,y5,y6,y7,y8,y9,x60,y1,y2,y3,y4,y5,y6,y7,y8,y9,x70,y1,y2,y3,y4,y5,y6,y7,y8",
  "y9,x80,y1,y2,y3,y4,y5,y6,y7,y8,y9,x90,y1,y2,y3,y4,y5,y6,y7,y8,y9,w200,y1,y2,zA,zB,y3,y4,y5,y6",
  "y7,zA,y8,y9,zA,x10,y1,y2,y3,y4,y5,zA,y6,zA,y7,y8,y9,x20,y1,y2,y3,y4,y5,y6,y7,zA,y8,y9,x30,y1,y2",
  "y3,y4,y5,y6,y7,y8,y9,x40,y1,y2,y3,y4,y5,y6,y7,y8,y9,x50,y1,y2,y3,y4,y5,y6,y7,y8,y9,x60,y1,y2,y3",
  "y4,y5,y6,y7,zA,y8,y9,x70,y1,y2,y3,y4,y5,y6,y7,y8,y9,x80,y1,y2,y3,y4,y5,y6,y7,y8,y9,zA,x90,y1,y2",
  "y3,y4,zA,y5,y6,y7,y8,y9,zA,w300,y1,y2,y3,y4,y5,y6,y7,y8,y9,zA,x10,y1,y2,y3,y4,y5,y6,y7,y8,y9",
  "x20,y1,y2,y3,y4,y5,y6,y7,y8,y9,zA,x30,y1,y2A,zB,zC,y3,y4,y5,y6,zA,zB,zC,y7,y8,y9,x40,y1,y2,y3",
  "y4,y5,y6,y7,y8,y9,x50,y1,y2,y3,y4,y5,y6,y7,y8,y9,zA,x60,y1,y2,y3,y4,zA,y5,y6,y7,y8,zA,y9,x70,y1",
  "zA,y2,y3,y4,y5,y6,y7,y8,y9,x80,y1,zA,y2,y3 RA OR RI,zA,y4,y5,y6,zA,y7,y8,y9,x90,y1,y2,y3 EIGHT",
  "y4,y5,y6,y7,y8,y9,w400,y1,y2,y3,y4,y5,y6,y7,y8,y9,x10 BEGIN LOGOGRAM MARK,zA END LOGOGRAM MARK",
  "y1,y2,y3,y4,y5,y6,y7,y8,y9,x20,y1,y2,y3,y4,y5,y6,y7,y8,y9,x30,y1,y2,y3,y4,y5,y6,y7,y8,y9,x40,y1",
  "y2,y3,y4,y5,y6,y7,y8,y9,x50,zA,y1,y2,y3,y4,y5,y6,y7,zA,y8,y9,x60,y1,y2,y3,y4,y5,y6,y7,y8,y9,x70",
  "y1,y2,y3,y4,y5,y6,y7,y8,y9,x80,y1,y2,y3,y4,y5,y6,y7,y8,y9,x90,y1,y2,y3,y4,y5,y6,y7,w501,y2,y3",
  "y4,y5,y6,y7,y8,y9,x10,y1,y2,y3,y4,y5,y6,y7,y8,y9,x20,y1,y2,y3,y4,y5,y6,y7,y8,y9,x30",
  "16800aBAMUM LETTER PHASE-A NGKUE MFON,vGBIEE FON,vPON MFON PIPAEMGBIEE,bkBA,vNAA MFON",
  "vSHUENSHUET,vTITA MFON,vNZA MFON,vSHINDA PA NJI,vPON PA NJI PIPAEMGBIEE,bmBA,vMAEMBGBIEE",
  "vTU MAEMBA,vNGANGU,vMAEMVEUX,xNSUAE,wVEUAENGAM,vSEUNYAM,vNTOQPEN,vKEUKEUTNDA,vNKINDI,vSUU",
  "vNGKUENZEUM,vLAPAQ,wET KUT,vNTAP MFAA,vMAEKEUP,vPASHAE,vGHEUAERAE,vPAMSHAE,vMON NGGEUAET",
  "vNZUN MEUT,vU YUQ NAE,vGHEUAEGHEUAE,vNTAP NTAA,vSISA,vMGBASA,wEUNJOMNDEUQ,wOOMPUQ,vKAFA",
  "vPA LEERAEWA,vNDA LEERAEWA,vPET,vMAEMKPEN,vNIKA,vPUP,vTUAEP,vLUAEP,vSONJAM,vTEUTEUWEN,vMAENYI",
  "vKET,vNDAANGGEUAET,vKUOQ,vMOOMEUT,vSHUM,vLOMMAE,vFIRI,vROM,vKPOQ,vSOQ,vMAP PIEET,vSHIRAE,vNTAP",
  "vSHOQ NSHUT YUM,vNYIT MONGKEUAEQ,vPAARAE,vNKAARAE,vUNKNOWN,vNGGEN,vMAESI,vNJAM,vMBANYI,vNYET",
  "vTEUAEN,vSOT,vPAAM,vNSHIEE,vMAEM,vNYI,vKAQ,vNSHA,vVEE,vLU,vNEN,wAQ,vMBAQ,tB NSHUET",
  "vTU MAEMGBIEE,vSIEE,wET TU,vLOM NTEUM,vMBA MAELEE,vKIEEM,vYEURAE,vMBAARAE,vKAM,vPEESHI",
  "vYAFU LEERAEWA,vLAM NSHUT NYAM,vNTIEE SHEUOQ,wDU NJAA,vGHEUGHEUAEM,vPIT,vTU NSIEE,vSHET NJAQ",
  "yUAEQTU,vMFON TEUAEQ,wBIT MBAAKET,vNYI NTEUM,vKEUPUQ,vGHEUGHEN,vKEUYEUX,vLAANAE,vPARUM,vVEUM",
  "vNGKINDI MVOP,xGEU MBU,vWUAET,vSAKEUAE,vTAAM,vMEUQ,vNGGUOQ,bb LARGE,vMFIYAQ,vSUE,vMBEURI",
  "wONTIEEN,vNYAEMAE,vPUNGAAM,vMEUT NGGEET,vFEUX,vMBUOQ,vFEE,vKEUAEM,vMA NJEUAENA,baUQA,vLET",
  "vNGGAAM,wSEN,vMA,vKIQ,vNGOM,tC NGKUE MAEMBA,wZA,vYUM,vWANGKUOQ,vNGGEN,wDEUAEREE,wGKAQ,vGHARAE",
  "vMBEEKEET,vGBAYI,vNYIR MKPARAQ MEUN,wTU MBIT,vMBEUM,vPIRIEEN,vNDOMBU,vMBAA CABBAGE-TREE",
  "vKEUSHEUAEP,vGHAP,vKEUKAQ,vYU MUOMAE,vNZEUM,vMBUE,vNSEUAEN,vMBIT,vYEUQ,vKPARAQ,wAA,vSEUX,vNDIDA",
  "vTAASHAE,vNJUEQ,vTITA YUE,vSUAET,vNGGUAEN NYAM,vVEUX,vNANSANAQ,vMA KEUAERI,vNTAA,wGGUON,vLAP",
  "vMBIRIEEN,wGBASAQ,vNTEUNGBA,vTEUTEUX,vNGGUM,vFUE,vNDEUT,wSA,xHAQ,vBUNG,vVEUAEPEN,vMBERAE,vRU",
  "vNJAEM,vLAM,vTITUAEP,vNSUOT NGOM,wJEEEE,vKET,vNGGU,vMAESI,wBUAEM,vLU,vKUT,vNJAM,wGOM,vWUP",
  "vNGGUEET,wSOM,wTEN,vKUOP NKAARAE,vNSUN,wDAM,vMA NSIEE,vYAA,vNDAP,vSHUEQ,wETFON,vMBI,wAEMBA",
  "wBANYI,vKEUSEUX,vMBEUX,vKEUM,vMBAA PICKET,vYUWOQ,vNJEUX,vMIEE,wUAE,vSHIQ,vKEN LAW,zFATIGUE",
  "vNGAQ,wAQ,vLIQ,vPIN,wEN,vTET,tD MBUO,vWAP,vNJI,vMFON,vNJIEE,vLIEE,vNJEUT,wSHEE,wGGAAMAE,wYAM",
  "vWUAEN,vNGKUN,vSHEE,vNGKAP,vKEUAETMEUN,vTEUT,vSHEUAE,vNJAP,vSUE,vKET,vYAEMMAE,vKUOM,vSAP,vMFEUT",
  "vNDEUX,vMALEERI,wEUT,vSEUAEQ,vYEN,vNJEUAEM,vKEUOT MBUAE,vNGKEURI,vTU,vGHAA,vNGKYEE,vFEUFEUAET",
  "vNDEE,vMGBOFUM,vLEUAEP,vNDON,vMONI,wGBEUN,vPUUT,vMGBIEE,wFO,vLUM,vNSIEEP,vMBAA,vKWAET,vNYET",
  "vTEUAEN,vSOT,vYUWOQ,vKEUM,vRAEM,vTEEEE,vNGKEUAEQ,vMFEUAE,vNSIEET,vKEUP,vPIP,wEUTAE,vNYUE,vLET",
  "vNGGAAM,vMFIEE,vNGGWAEN,vYUOM,vPAP,vYUOP,vNDAM,wTEUM,vSUAE,vKUN,vNGGEUX,xKIEE,vTUOT,vMEUN,vKUQ",
  "vNSUM,vTEUN,vMAENJET,vNGGAP,vLEUM,vNGGUOM,wSHUT,wJUEQ,vGHEUAE,vKU,vREN OLD,vTAE,wOQ,vNYI,vRII",
  "vLEEEE,vMEEEE,w,vSUU,vMU,vSHII,xEUX,vKYEE,vNU,vSHU,vNTEE,vPEE,vNI,vSHOQ,vPUQ,vMVOP,vLOQ",
  "vREN MUCH,vTI,vNTUU,vMBAA SEVEN,vSAQ,vFAA,tE NDAP,vTOON,vMBEUM,vLAP,vVOM,vLOON,vPAA,vSOM,vRAQ",
  "vNSHUOP,wDUN,vPUAE,vTAM,vNGKA,vKPEUX,vWUO,vSEE,vNGGEUAET,vPAAM,vTOO,vKUOP,vLOM,vNSHIEE,wGOP",
  "vMAEM,vNGKEUX,xOQ,wSHUE,vRIMGBA,vNJEUX,vPEEM,vSAA,vNGGURAE,vMGBA,vGHEUX,vNGKEUAEM,wJAEMLI,vMAP",
  "vLOOT,vNGGEEEE,wDIQ,vTAEN NTEUM,vSET,vPUM,vNDAA SOFTNESS,wGGUAESHAE NYAM,vYIEE,vGHEUN,vTUAE",
  "vYEUAE,vPO,vTUMAE,vKEUAE,vSUAEN,vTEUAEQ,vVEUAE,vWEUX,vLAAM,vPU,vTAAQ,vGHAAMAE,vNGEUREUT",
  "vSHEUAEQ,vMGBEN,wBEE,vNZAQ,wKOM,vGBET,vTUM,vKUET,vYAP,vNYI CLEAVER,vYIT,vMFEUQ,vNDIAQ,vPIEEQ",
  "vYUEQ,vLEUAEM,vFUE,vGBEUX,vNGKUP,vKET,vMAE,vNGKAAMI,vGHET,vFA,vNTUM,vPEUT,vYEUM,vNGGEUAE",
  "wYI BETWEEN,wZUQ,vPOON,vMIEE,vFUET,vNAE,vMUAE,vGHEUAE,vFU I,vMVI,vPUAQ,vNGKUM,vKUT,vPIET,vNTAP",
  "vYEUAET,vNGGUP,vPA PEOPLE,vFU CALL,wOM,vNJEE,vA,vTOQ,vO,vI,vLAQ,vPA PLURAL,vTAA,xQ",
  "vNDAA MY HOUSE,vSHIQ,vYEUX,vNGUAE,vYUAEN,wOQ SWIMMING,zCOVER,wUQ,xN,vKEUX,vPEUX,vNJEE EPOCH",
  "vPUE,vWUE,vFEE,vVEE,vLU,vMI,vREUX,wAE,vNGUAET,xA,vSHO,yQ,vFU REMEDY,vNA,vPI,vLOQ,vKO,vMEN,wA,xQ",
  "vTEU,vKI,vMON,vTEN,vFAQ,vGHOM,tF KA,vU,vKU,vEE,vREE,vTAE,vNYI,vLA,vRII,xEE,vMEEEE,vTAA,vNDAA",
  "wJAEM,vM,vSUU,wHII,wI,wEUX,vKYEE,wET,vNUAE,x,wJUAE,vYOQ,vSHU,vYA,vNSHA,vPEUX,vNTEE,vWUE,vPEE",
  "vRU,vNI,vREUX,vKEN,vNGKWAEN,xGA,vSHO,vPUAE,vFOM,vWA,vLI,wOQ,vKO,vMBEN,vREN,vMA,wO,wBAA,vTET",
  "vKPA,vSAMBA,vVUEQ,16A40aMRO LETTER TA,lNGI,lYO,lMIM,lBA,lDA,lA,lPHI,lKHAI,lHAO,lDAI,lCHU,lKEAAE",
  "lOL,lMAEM,lNIN,lPA,lOO,m,lRO,lSHI,lTHEA,lEA,lWA,lE,lKO,lLAN,n,lHAI,lRI,lTEK,16A60eDIGIT ZERO",
  "kONE,kTWO,lHREE,kFOUR,lIVE,kSIX,lEVEN,kEIGHT,kNINE,16A6EfANDA,fOUBLE DANDA,aTANGSA LETTER OZ,pC",
  "pQ,pX,oAZ,pC,pQ,pX,oVZ,pC,pQ,pX,oEZ,pC,pQ,pX,oIZ,pC,pQ,pX,oUZ,pC,pQ,pX,oAWZ,qC,qQ,qX,oUIZ,qC,qQ",
  "qX,oFINAL NG,oLONG UEX,oSHORT UEZ,uAWX,oUEC,qZ,qQ,qX,pIUZ,rC,rQ,rX,oMZ,pC,pQ,pX,oKA,pHA,oGA",
  "oNGA,oSA,oYA,oWA,oPA,oNYA,oPHA,oBA,oMA,oNA,oHA,oLA,oHTA,oTA,oDA,oRA,oNHA,oSHA,oCA,oTSA,oGHA",
  "oHTTA,oTHA,oXA,oFA,oDHA,oCHA,oZA,16AC0hDIGIT ZERO,nONE,nTWO,oHREE,nFOUR,oIVE,nSIX,oEVEN,nEIGHT",
  "nNINE,16AD0aBASSA VAH LETTER ENNI,rKA,rSE,rFA,rMBE,rYIE,rGAH,rDHII,rKPAH,rJO,rHWAH,rWA,rZO,rGBU",
  "rDO,rCE,rUWU,rTO,rBA,rVU,rYEIN,rPA,rWADDA,rA,rO,sO,rU,rEE,s,rI,16AF0kCOMBINING HIGH TONE",
  "uLOW TONE,uMID TONE,uLOW-MID TONE,uHIGH-LOW TONE,kFULL STOP,16B00aPAHAWH HMONG VOWEL KEEB,wV",
  "uIB,vV,uAUB,wV,uUB,vV,uEB,vV,uAIB,wV,uOOB,wV,uAWB,wV,uUAB,wV,uOB,vV,uIAB,wV,uAB,vV,uWB,vV,uAAB",
  "wV,nCONSONANT VAU,xNTSAU,xLAU,xHAU,xNLAU,xRAU,xNKAU,xQHAU,xYAU,xHLAU,xMAU,xCHAU,xNCHAU,xHNAU",
  "xPLHAU,xNTHAU,yAU,xAU,xXAU,xCAU,nMARK CIM TUB,wSO,wKES,xHAV,wSUAM,wHOM,wTAUM,nSIGN VOS THOM",
  "xSHAB CEEB,sCIM CHEEM,sVOS THIAB,wFEEM,sXYEEM NTXIV,yRHO,yTOV,yFAIB,sVOS SEEV,sMEEJ SUAB",
  "sVOS NRUA,sIB YAM,sXAUS,sCIM TSOV ROG,16B50nDIGIT ZERO,tONE,tTWO,uHREE,tFOUR,uIVE,tSIX,uEVEN",
  "tEIGHT,tNINE,16B5BnNUMBER TENS,uHUNDREDS,uTEN THOUSANDS,uMILLIONS,uHUNDRED MILLIONS",
  "uTEN BILLIONS,vRILLIONS,16B63nSIGN VOS LUB,sXYOO,sHLI,sTHIRD-STAGE HLI,sZWJ THAJ,sHNUB,sNQIG",
  "sXIAB,sNTUJ,sAV,sTXHEEJ CEEV,sMEEJ TSEEB,sTAU,sLOS,sMUS,sCIM HAIS LUS NTOG NTOG,wCUAM TSHOOJ",
  "wTXWV,ba CHWV,wPUB DAWB,wNRES TOS,16B7DnCLAN SIGN TSHEEJ,xYEEG,xLIS,yAUJ,xXYOOJ,xKOO,xHAWJ",
  "xMUAS,xTHOJ,ySAB,xPHAB,xKHAB,xHAM,xVAJ,xFAJ,xYAJ,xTSWB,xKWM,xVWJ",
  "16E40aMEDEFAIDRIN CAPITAL LETTER M,bbS,bbV,bbW,bbATIU,bbZ,bbKP,bbP,bbT,bbG,bbF,bbI,bbK,bbA,bbJ",
  "bbE,bbB,bbC,bbU,bbYU,bbL,bbQ,bbHP,bbNY,bbX,bbD,bbOE,bbN,bbR,bbO,bbAI,bbY,mSMALL LETTER M,zS,zV",
  "zW,zATIU,zZ,zKP,zP,zT,zG,zF,zI,zK,zA,zJ,zE,zB,zC,zU,zYU,zL,zQ,zHP,zNY,zX,zD,zOE,zN,zR,zO,zAI,zY",
  "mDIGIT ZERO,sONE,sTWO,tHREE,sFOUR,tIVE,sSIX,tEVEN,sEIGHT,sNINE,mNUMBER TEN,tELEVEN,tTWELVE",
  "uHIRTEEN,tFOURTEEN,uIFTEEN,tSIXTEEN,uEVENTEEN,tEIGHTEEN,tNINETEEN,mDIGIT ONE ALTERNATE FORM",
  "sTWO ALTERNATE FORM,tHREE ALTERNATE FORM,mCOMMA,mFULL STOP,mSYMBOL AIVA,mEXCLAMATION OH",
  "16F00bIAO LETTER PA,mBA,mYI PA,mPLA,mMA,nHA,mARCHAIC MA,mFA,mVA,nFA,mTA,mDA,mYI TTA,qA,mTTA",
  "mDDA,mNA,nHA,mYI NNA,mARCHAIC NA,mNNA,oHA,mLA,nYA,nHA,oYA,mTLHA,mDLHA,mTLHYA,mDLHYA,mKA,mGA",
  "mYI KA,mQA,nGA,mNGA,oHA,mARCHAIC NGA,mHA,mXA,mGHA,oHA,mTSSA,mDZZA,mNYA,oHA,mTSHA,mDZHA,mYI TSHA",
  "pDZHA,mREFORMED TSHA,mSHA,nSA,mZHA,nSHA,mTSA,mDZA,mYI TSA,mSA,mZA,nSA,nZA,oSA,mARCHAIC ZZA",
  "mZZYA,oSYA,mWA,mAH,mHHA,mBRI,mSYI,mDZYI,mTE,nSE,mRTE,16F4FfSIGN CONSONANT MODIFIER BAR",
  "fLETTER NASALIZATION,fSIGN ASPIRATION,kREFORMED VOICING,tASPIRATION,fVOWEL SIGN A,rA,rHH,rN,sG",
  "qO,rO,qWO,r,qE,rN,sG,qOEY,qI,rA,sN,tG,rO,rE,rI,rU,rNG,qU,rA,sN,tG,rU,rEI,rNG,qY,rI,qAE,sE,qERR",
  "qROUNDED ERR,qER,qROUNDED ER,qAI,qEI,qAU,qOU,qN,rG,qUOG,qYUI,qOG,rER,qVW,qIG,qEA,qIONG,qUI",
  "16F8FfTONE RIGHT,kTOP RIGHT,kABOVE,kBELOW,fLETTER TONE-2,r3,r4,r5,r6,r7,r8,mREFORMED TONE-1,ba2",
  "ba4,ba5,ba6,ba8,16FE0aTANGUT ITERATION MARK,aNUSHU ITERATION MARK,aOLD CHINESE HOOK MARK",
  "mITERATION MARK,aKHITAN SMALL SCRIPT FILLER,16FF0aVIETNAMESE ALTERNATE READING MARK CA,biNHAY",
  "18800aTANGUT COMPONENT-001,t2,t3,t4,t5,t6,t7,t8,t9,s10,t1,t2,t3,t4,t5,t6,t7,t8,t9,s20,t1,t2,t3",
  "t4,t5,t6,t7,t8,t9,s30,t1,t2,t3,t4,t5,t6,t7,t8,t9,s40,t1,t2,t3,t4,t5,t6,t7,t8,t9,s50,t1,t2,t3,t4",
  "t5,t6,t7,t8,t9,s60,t1,t2,t3,t4,t5,t6,t7,t8,t9,s70,t1,t2,t3,t4,t5,t6,t7,t8,t9,s80,t1,t2,t3,t4,t5",
  "t6,t7,t8,t9,s90,t1,t2,t3,t4,t5,t6,t7,t8,t9,r100,t1,t2,t3,t4,t5,t6,t7,t8,t9,s10,t1,t2,t3,t4,t5",
  "t6,t7,t8,t9,s20,t1,t2,t3,t4,t5,t6,t7,t8,t9,s30,t1,t2,t3,t4,t5,t6,t7,t8,t9,s40,t1,t2,t3,t4,t5,t6",
  "t7,t8,t9,s50,t1,t2,t3,t4,t5,t6,t7,t8,t9,s60,t1,t2,t3,t4,t5,t6,t7,t8,t9,s70,t1,t2,t3,t4,t5,t6,t7",
  "t8,t9,s80,t1,t2,t3,t4,t5,t6,t7,t8,t9,s90,t1,t2,t3,t4,t5,t6,t7,t8,t9,r200,t1,t2,t3,t4,t5,t6,t7",
  "t8,t9,s10,t1,t2,t3,t4,t5,t6,t7,t8,t9,s20,t1,t2,t3,t4,t5,t6,t7,t8,t9,s30,t1,t2,t3,t4,t5,t6,t7,t8",
  "t9,s40,t1,t2,t3,t4,t5,t6,t7,t8,t9,s50,t1,t2,t3,t4,t5,t6,t7,t8,t9,s60,t1,t2,t3,t4,t5,t6,t7,t8,t9",
  "s70,t1,t2,t3,t4,t5,t6,t7,t8,t9,s80,t1,t2,t3,t4,t5,t6,t7,t8,t9,s90,t1,t2,t3,t4,t5,t6,t7,t8,t9",
  "r300,t1,t2,t3,t4,t5,t6,t7,t8,t9,s10,t1,t2,t3,t4,t5,t6,t7,t8,t9,s20,t1,t2,t3,t4,t5,t6,t7,t8,t9",
  "s30,t1,t2,t3,t4,t5,t6,t7,t8,t9,s40,t1,t2,t3,t4,t5,t6,t7,t8,t9,s50,t1,t2,t3,t4,t5,t6,t7,t8,t9",
  "s60,t1,t2,t3,t4,t5,t6,t7,t8,t9,s70,t1,t2,t3,t4,t5,t6,t7,t8,t9,s80,t1,t2,t3,t4,t5,t6,t7,t8,t9",
  "s90,t1,t2,t3,t4,t5,t6,t7,t8,t9,r400,t1,t2,t3,t4,t5,t6,t7,t8,t9,s10,t1,t2,t3,t4,t5,t6,t7,t8,t9",
  "s20,t1,t2,t3,t4,t5,t6,t7,t8,t9,s30,t1,t2,t3,t4,t5,t6,t7,t8,t9,s40,t1,t2,t3,t4,t5,t6,t7,t8,t9",
  "s50,t1,t2,t3,t4,t5,t6,t7,t8,t9,s60,t1,t2,t3,t4,t5,t6,t7,t8,t9,s70,t1,t2,t3,t4,t5,t6,t7,t8,t9",
  "s80,t1,t2,t3,t4,t5,t6,t7,t8,t9,s90,t1,t2,t3,t4,t5,t6,t7,t8,t9,r500,t1,t2,t3,t4,t5,t6,t7,t8,t9",
  "s10,t1,t2,t3,t4,t5,t6,t7,t8,t9,s20,t1,t2,t3,t4,t5,t6,t7,t8,t9,s30,t1,t2,t3,t4,t5,t6,t7,t8,t9",
  "s40,t1,t2,t3,t4,t5,t6,t7,t8,t9,s50,t1,t2,t3,t4,t5,t6,t7,t8,t9,s60,t1,t2,t3,t4,t5,t6,t7,t8,t9",
  "s70,t1,t2,t3,t4,t5,t6,t7,t8,t9,s80,t1,t2,t3,t4,t5,t6,t7,t8,t9,s90,t1,t2,t3,t4,t5,t6,t7,t8,t9",
  "r600,t1,t2,t3,t4,t5,t6,t7,t8,t9,s10,t1,t2,t3,t4,t5,t6,t7,t8,t9,s20,t1,t2,t3,t4,t5,t6,t7,t8,t9",
  "s30,t1,t2,t3,t4,t5,t6,t7,t8,t9,s40,t1,t2,t3,t4,t5,t6,t7,t8,t9,s50,t1,t2,t3,t4,t5,t6,t7,t8,t9",
  "s60,t1,t2,t3,t4,t5,t6,t7,t8,t9,s70,t1,t2,t3,t4,t5,t6,t7,t8,t9,s80,t1,t2,t3,t4,t5,t6,t7,t8,t9",
  "s90,t1,t2,t3,t4,t5,t6,t7,t8,t9,r700,t1,t2,t3,t4,t5,t6,t7,t8,t9,s10,t1,t2,t3,t4,t5,t6,t7,t8,t9",
  "s20,t1,t2,t3,t4,t5,t6,t7,t8,t9,s30,t1,t2,t3,t4,t5,t6,t7,t8,t9,s40,t1,t2,t3,t4,t5,t6,t7,t8,t9",
  "s50,t1,t2,t3,t4,t5,t6,t7,t8,t9,s60,t1,t2,t3,t4,t5,t6,t7,t8,1AFF0aKATAKANA LETTER MINNAN TONE-2",
  "bc3,bc4,bc5,1AFF5bc7,bc8,xNASALIZED TONE-1,bm2,bm3,bm4,bm5,1AFFDbm7,bm8"]

end Docblock.Text.Names
