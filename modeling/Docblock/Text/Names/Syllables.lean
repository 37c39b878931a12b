/-!
# Names of characters, 1100 to 1EFF

The packed names of the characters from 1100 to 1EFF: the Hangul letters and the scripts after
them.
-/

namespace Docblock.Text.Names

/-- Packed names, in the order of their characters. -/
def syllables : List String := [
  "1100aHANGUL CHOSEONG KIYEOK,qSSANGKIYEOK,qNIEUN,qTIKEUT,qSSANGTIKEUT,qRIEUL,qMIEUM,qPIEUP",
  "qSSANGPIEUP,rIOS,rSANGSIOS,qIEUNG,qCIEUC,qSSANGCIEUC,qCHIEUCH,qKHIEUKH,qTHIEUTH,qPHIEUPH,qHIEUH",
  "qNIEUN-KIYEOK,qSSANGNIEUN,qNIEUN-TIKEUT,wPIEUP,qTIKEUT-KIYEOK,qRIEUL-NIEUN,qSSANGRIEUL",
  "qRIEUL-HIEUH,qKAPYEOUNRIEUL,qMIEUM-PIEUP,qKAPYEOUNMIEUM,qPIEUP-KIYEOK,wNIEUN,wTIKEUT,wSIOS",
  "ba-KIYEOK,bbTIKEUT,bbPIEUP,xSANGSIOS,xIOS-CIEUC,wCIEUC,xHIEUCH,wTHIEUTH,wPHIEUPH,qKAPYEOUNPIEUP",
  "ySSANGPIEUP,qSIOS-KIYEOK,vNIEUN,vTIKEUT,vRIEUL,vMIEUM,vPIEUP,ba-KIYEOK,vSSANGSIOS,vIEUNG,vCIEUC",
  "wHIEUCH,vKHIEUKH,vTHIEUTH,vPHIEUPH,vHIEUH,qCHITUEUMSIOS,zSANGSIOS,rEONGCHIEUMSIOS,bcSANGSIOS",
  "qPANSIOS,qIEUNG-KIYEOK,wTIKEUT,wMIEUM,wPIEUP,wSIOS,wPANSIOS,qSSANGIEUNG,qIEUNG-CIEUC,xHIEUCH",
  "wTHIEUTH,wPHIEUPH,qYESIEUNG,qCIEUC-IEUNG,rHITUEUMCIEUC,ySSANGCIEUC,rEONGCHIEUMCIEUC",
  "bbSSANGCIEUC,rHIEUCH-KHIEUKH,yHIEUH,tTUEUMCHIEUCH,rEONGCHIEUMCHIEUCH,qPHIEUPH-PIEUP",
  "qKAPYEOUNPHIEUPH,qSSANGHIEUH,qYEORINHIEUH,qKIYEOK-TIKEUT,qNIEUN-SIOS,wCIEUC,wHIEUH",
  "qTIKEUT-RIEUL,qFILLER,hJUNGSEONG FILLER,rA,sE,rYA,tE,rEO,s,rYEO,t,rO,rWA,tE,rOE,rYO,rU,rWEO,t",
  "sI,rYU,rEU,rYI,rI,rA-O,tU,rYA-O,uYO,rEO-O,uU,uEU,rYEO-O,vU,rO-EO,u,tYE,tO,tU,rYO-YA,wE,vEO,uO",
  "uI,rU-A,uE,tEO-EU,tYE,tU,rYU-A,uEO,v,uYEO,w,uU,uI,rEU-U,uEU,rYI-U,rI-A,tYA,tO,tU,tEU,tARAEA",
  "rARAEA,w-EO,xU,xI,rSSANGARAEA,rA-EU,rYA-U,sEO-YA,rO-YA,vE,iONGSEONG KIYEOK,rSSANGKIYEOK",
  "rKIYEOK-SIOS,rNIEUN,w-CIEUC,xHIEUH,rTIKEUT,rRIEUL,w-KIYEOK,xMIEUM,xPIEUP,xSIOS,xTHIEUTH",
  "xPHIEUPH,xHIEUH,rMIEUM,rPIEUP,w-SIOS,rSIOS,sSANGSIOS,rIEUNG,rCIEUC,sHIEUCH,rKHIEUKH,rTHIEUTH",
  "rPHIEUPH,rHIEUH,rKIYEOK-RIEUL,ySIOS-KIYEOK,rNIEUN-KIYEOK,xTIKEUT,xSIOS,xPANSIOS,xTHIEUTH",
  "rTIKEUT-KIYEOK,yRIEUL,rRIEUL-KIYEOK-SIOS,xNIEUN,xTIKEUT,bd-HIEUH,rSSANGRIEUL",
  "rRIEUL-MIEUM-KIYEOK,bdSIOS,xPIEUP-SIOS,bdHIEUH,xKAPYEOUNPIEUP,xSSANGSIOS,xPANSIOS,xKHIEUKH",
  "xYEORINHIEUH,rMIEUM-KIYEOK,xRIEUL,xPIEUP,xSIOS,ySANGSIOS,xPANSIOS,xCHIEUCH,xHIEUH",
  "rKAPYEOUNMIEUM,rPIEUP-RIEUL,xPHIEUPH,xHIEUH,rKAPYEOUNPIEUP,rSIOS-KIYEOK,wTIKEUT,wRIEUL,wPIEUP",
  "rPANSIOS,rIEUNG-KIYEOK,xSSANGKIYEOK,rSSANGIEUNG,rIEUNG-KHIEUKH,rYESIEUNG,z-SIOS,baPANSIOS",
  "rPHIEUPH-PIEUP,rKAPYEOUNPHIEUPH,rHIEUH-NIEUN,xRIEUL,xMIEUM,xPIEUP,rYEORINHIEUH,rKIYEOK-NIEUN",
  "yPIEUP,yCHIEUCH,yKHIEUKH,yHIEUH,rSSANGNIEUN,aETHIOPIC SYLLABLE HA,tU,tI,tAA,tEE,u,tO,uA,sLA,tU",
  "tI,tAA,tEE,u,tO,tWA,sHHA,uU,uI,uAA,uEE,v,uO,uWA,sMA,tU,tI,tAA,tEE,u,tO,tWA,sSZA,uU,uI,uAA,uEE,v",
  "uO,uWA,sRA,tU,tI,tAA,tEE,u,tO,tWA,sSA,tU,tI,tAA,tEE,u,tO,tWA,tHA,uU,uI,uAA,uEE,v,uO,uWA,sQA,tU",
  "tI,tAA,tEE,u,tO,uA,tWA,124AuI,uAA,uEE,v,1250tHA,uU,uI,uAA,uEE,v,uO,1258uWA,125AvI,vAA,vEE,w",
  "1260sBA,tU,tI,tAA,tEE,u,tO,tWA,sVA,tU,tI,tAA,tEE,u,tO,tWA,sTA,tU,tI,tAA,tEE,u,tO,tWA,sCA,tU,tI",
  "tAA,tEE,u,tO,tWA,sXA,tU,tI,tAA,tEE,u,tO,uA,tWA,128AuI,uAA,uEE,v,1290sNA,tU,tI,tAA,tEE,u,tO,tWA",
  "tYA,uU,uI,uAA,uEE,v,uO,uWA,sGLOTTAL A,baU,baI,baAA,baEE,bb,baO,baWA,sKA,tU,tI,tAA,tEE,u,tO,uA",
  "tWA,12B2uI,uAA,uEE,v,12B8tXA,uU,uI,uAA,uEE,v,uO,12C0uWA,12C2vI,vAA,vEE,w,12C8sWA,tU,tI,tAA,tEE",
  "u,tO,uA,sPHARYNGEAL A,bdU,bdI,bdAA,bdEE,be,bdO,12D8sZA,tU,tI,tAA,tEE,u,tO,tWA,tHA,uU,uI,uAA,uEE",
  "v,uO,uWA,sYA,tU,tI,tAA,tEE,u,tO,uA,sDA,tU,tI,tAA,tEE,u,tO,tWA,tDA,uU,uI,uAA,uEE,v,uO,uWA,sJA,tU",
  "tI,tAA,tEE,u,tO,tWA,sGA,tU,tI,tAA,tEE,u,tO,uA,tWA,1312uI,uAA,uEE,v,1318tGA,uU,uI,uAA,uEE,v,uO",
  "uWAA,sTHA,uU,uI,uAA,uEE,v,uO,uWA,sCHA,uU,uI,uAA,uEE,v,uO,uWA,sPHA,uU,uI,uAA,uEE,v,uO,uWA,sTSA",
  "uU,uI,uAA,uEE,v,uO,uWA,tZA,uU,uI,uAA,uEE,v,uO,vA,sFA,tU,tI,tAA,tEE,u,tO,tWA,sPA,tU,tI,tAA,tEE,u",
  "tO,tWA,sRYA,sMYA,sFYA,135DjCOMBINING GEMINATION AND VOWEL LENGTH MARK,tVOWEL LENGTH MARK",
  "tGEMINATION MARK,jSECTION MARK,jWORDSPACE,jFULL STOP,jCOMMA,jSEMICOLON,jCOLON,jPREFACE COLON",
  "jQUESTION MARK,jPARAGRAPH SEPARATOR,jDIGIT ONE,pTWO,qHREE,pFOUR,qIVE,pSIX,qEVEN,pEIGHT,pNINE",
  "jNUMBER TEN,rWENTY,rHIRTY,qFORTY,rIFTY,qSIXTY,rEVENTY,qEIGHTY,qNINETY,qHUNDRED,qTEN THOUSAND",
  "1380jSYLLABLE SEBATBEIT MWA,sMWI,uEE,v,sSEBATBEIT BWA,sBWI,uEE,v,sSEBATBEIT FWA,sFWI,uEE,v",
  "sSEBATBEIT PWA,sPWI,uEE,v,jTONAL MARK YIZET,uDERET,uRIKRIK,uSHORT RIKRIK,uDIFAT,uKENAT,uCHIRET",
  "uHIDET,uDERET-HIDET,uKURT,13A0aCHEROKEE LETTER A,qE,qI,qO,qU,qV,qGA,qKA,qGE,rI,rO,rU,rV,qHA,rE",
  "rI,rO,rU,rV,qLA,rE,rI,rO,rU,rV,qMA,rE,rI,rO,rU,qNA,qHNA,qNAH,rE,rI,rO,rU,rV,qQUA,sE,sI,sO,sU,sV",
  "qSA,r,rE,rI,rO,rU,rV,qDA,qTA,qDE,qTE,qDI,qTI,qDO,rU,rV,rLA,qTLA,sE,sI,sO,sU,sV,rSA,sE,sI,sO,sU",
  "sV,qWA,rE,rI,rO,rU,rV,qYA,rE,rI,rO,rU,rV,qMV,13F8jSMALL LETTER YE,xI,xO,xU,xV,wMV",
  "1400bANADIAN SYLLABICS HYPHEN,tE,tAAI,tI,uI,tO,uO,tY-CREE OO,tCARRIER EE,bbI,tA,uA,tWE",
  "vST-CREE WE,uI,uEST-CREE WI,uII,uEST-CREE WII,uO,uEST-CREE WO,uOO,uEST-CREE WOO,tNASKAPI WOO",
  "tWA,uEST-CREE WA,uAA,uEST-CREE WAA,tNASKAPI WAA,tAI,tY-CREE W,tGLOTTAL STOP,tFINAL ACUTE,zGRAVE",
  "zBOTTOM HALF RING,zTOP HALF RING,zRIGHT HALF RING,bbNG,zDOUBLE ACUTE,bgSHORT VERTICAL STROKES",
  "zMIDDLE DOT,zSHORT HORIZONTAL STROKE,zPLUS,zDOWN TACK,tEN,tIN,tON,tAN,tPE,uAAI,uI,vI,uO,vO",
  "tY-CREE POO,tCARRIER HEE,bcI,tPA,vA,uWE,tWEST-CREE PWE,tPWI,tWEST-CREE PWI,tPWII",
  "tWEST-CREE PWII,tPWO,tWEST-CREE PWO,tPWOO,tWEST-CREE PWOO,tPWA,tWEST-CREE PWA,tPWAA",
  "tWEST-CREE PWAA,tY-CREE PWAA,tP,tWEST-CREE P,tCARRIER H,tTE,uAAI,uI,vI,uO,vO,tY-CREE TOO",
  "tCARRIER DEE,bcI,tTA,vA,uWE,tWEST-CREE TWE,tTWI,tWEST-CREE TWI,tTWII,tWEST-CREE TWII,tTWO",
  "tWEST-CREE TWO,tTWOO,tWEST-CREE TWOO,tTWA,tWEST-CREE TWA,tTWAA,tWEST-CREE TWAA,tNASKAPI TWAA,tT",
  "uTE,vI,vO,vA,tKE,uAAI,uI,vI,uO,vO,tY-CREE KOO,tKA,vA,uWE,tWEST-CREE KWE,tKWI,tWEST-CREE KWI",
  "tKWII,tWEST-CREE KWII,tKWO,tWEST-CREE KWO,tKWOO,tWEST-CREE KWOO,tKWA,tWEST-CREE KWA,tKWAA",
  "tWEST-CREE KWAA,tNASKAPI KWAA,tK,uW,tSOUTH-SLAVEY KEH,bhIH,bhOH,bhAH,tCE,uAAI,uI,vI,uO,vO",
  "tY-CREE COO,tCA,vA,uWE,tWEST-CREE CWE,tCWI,tWEST-CREE CWI,tCWII,tWEST-CREE CWII,tCWO",
  "tWEST-CREE CWO,tCWOO,tWEST-CREE CWOO,tCWA,tWEST-CREE CWA,tCWAA,tWEST-CREE CWAA,tNASKAPI CWAA,tC",
  "tSAYISI TH,tME,uAAI,uI,vI,uO,vO,tY-CREE MOO,tMA,vA,uWE,tWEST-CREE MWE,tMWI,tWEST-CREE MWI,tMWII",
  "tWEST-CREE MWII,tMWO,tWEST-CREE MWO,tMWOO,tWEST-CREE MWOO,tMWA,tWEST-CREE MWA,tMWAA",
  "tWEST-CREE MWAA,tNASKAPI MWAA,tM,tWEST-CREE M,tMH,tATHAPASCAN M,tSAYISI M,tNE,uAAI,uI,vI,uO,vO",
  "tY-CREE NOO,tNA,vA,uWE,tWEST-CREE NWE,tNWA,tWEST-CREE NWA,tNWAA,tWEST-CREE NWAA,tNASKAPI NWAA,u",
  "tCARRIER NG,tNH,tLE,uAAI,uI,vI,uO,vO,tY-CREE LOO,tLA,vA,uWE,tWEST-CREE LWE,tLWI,tWEST-CREE LWI",
  "tLWII,tWEST-CREE LWII,tLWO,tWEST-CREE LWO,tLWOO,tWEST-CREE LWOO,tLWA,tWEST-CREE LWA,tLWAA",
  "tWEST-CREE LWAA,tL,tWEST-CREE L,tMEDIAL L,tSE,uAAI,uI,vI,uO,vO,tY-CREE SOO,tSA,vA,uWE",
  "tWEST-CREE SWE,tSWI,tWEST-CREE SWI,tSWII,tWEST-CREE SWII,tSWO,tWEST-CREE SWO,tSWOO",
  "tWEST-CREE SWOO,tSWA,tWEST-CREE SWA,tSWAA,tWEST-CREE SWAA,tNASKAPI SWAA,tS,tATHAPASCAN S,tSW",
  "tBLACKFOOT S,tMOOSE-CREE SK,tNASKAPI SKW,bc-W,bcPWA,bcTWA,bcKWA,bcCWA,tSHE,vI,wI,vO,wO,vA,wA",
  "vWE,tWEST-CREE SHWE,tSHWI,tWEST-CREE SHWI,tSHWII,tWEST-CREE SHWII,tSHWO,tWEST-CREE SHWO,tSHWOO",
  "tWEST-CREE SHWOO,tSHWA,tWEST-CREE SHWA,tSHWAA,tWEST-CREE SHWAA,tSH,tYE,uAAI,uI,vI,uO,vO",
  "u-CREE YOO,uA,vA,uWE,tWEST-CREE YWE,tYWI,tWEST-CREE YWI,tYWII,tWEST-CREE YWII,tYWO",
  "tWEST-CREE YWO,tYWOO,tWEST-CREE YWOO,tYWA,tWEST-CREE YWA,tYWAA,tWEST-CREE YWAA,tNASKAPI YWAA,tY",
  "tBIBLE-CREE Y,tWEST-CREE Y,tSAYISI YI,tRE,u-CREE RE,tWEST-CREE LE,tRAAI,uI,vI,uO,vO",
  "tWEST-CREE LO,tRA,vA,tWEST-CREE LA,tRWAA,tWEST-CREE RWAA,tR,tWEST-CREE R,tMEDIAL R,tFE,uAAI,uI",
  "vI,uO,vO,uA,vA,uWAA,tWEST-CREE FWAA,tF,tTHE,tN-CREE THE,tTHI,tN-CREE THI,tTHII,tN-CREE THII",
  "tTHO,wO,vA,wA,vWAA,tWEST-CREE THWAA,tTH,uTHE,wI,wO,wA,w,uYE,vI,vO,vA,tNUNAVIK HE,bcI,bdI,bcO",
  "bdO,bcA,bdA,bc,yUT H,tHK,tQAAI,uI,vI,uO,vO,uA,vA,u,tTLHE,wI,wO,wA,tWEST-CREE RE,beI,beO,beA",
  "tNGAAI,vI,wI,vO,wO,vA,wA,v,uNG,tSAYISI SHE,bcI,bcO,bcA,tWOODS-CREE THE,bgI,bgO,bgA,bg,tLHI,wI",
  "vO,wO,vA,wA,v,tTH-CREE THE,bdI,beI,bdO,beO,bdA,beA,bd,tAIVILIK B,tBLACKFOOT E,bdI,bdO,bdA,bdWE",
  "beI,beO,beA,bdNE,beI,beO,beA,bdKE,beI,beO,beA,tSAYISI HE,bbI,bbO,bbA,tCARRIER GHU,bdO,bdE,beE",
  "bdI,bdA,bbRU,bcO,bcE,bdE,bcI,bcA,bbWU,bcO,bcE,bdE,bcI,bcA,bbHWU,bdO,bdE,beE,bdI,bdA,bbTHU,bdO",
  "bdE,beE,bdI,bdA,bcTU,bdO,bdE,beE,bdI,bdA,bbPU,bcO,bcE,bdE,bcI,bcA,bc,bbGU,bcO,bcE,bdE,bcI,bcA",
  "bbKHU,bdO,bdE,beE,bdI,bdA,bcKU,bdO,bdE,beE,bdI,bdA,bd,bbNU,bcO,bcE,bdE,bcI,bcA,bbMU,bcO,bcE,bdE",
  "bcI,bcA,bbYU,bcO,bcE,bdE,bcI,bcA,bbJU,tSAYISI JU,tCARRIER JO,bcE,bdE,bcI,tSAYISI JI,tCARRIER JA",
  "bcJU,bdO,bdE,beE,bdI,bdA,bbLU,bcO,bcE,bdE,bcI,bcA,bbDLU,bdO,bdE,beE,bdI,bdA,bbLHU,bdO,bdE,beE",
  "bdI,bdA,bbTLHU,beO,beE,bfE,beI,beA,bdU,bdO,bdE,beE,bdI,bdA,bbZU,bcO,bcE,bdE,bcI,bcA,bc",
  "bbINITIAL Z,bbDZU,bdO,bdE,beE,bdI,bdA,bbSU,bcO,bcE,bdE,bcI,bcA,bcHU,bdO,bdE,beE,bdI,bdA,bd",
  "bbTSU,bdO,bdE,beE,bdI,bdA,bbCHU,bdO,bdE,beE,bdI,bdA,bbTTSU,beO,beE,bfE,beI,beA,uHI SIGN",
  "tFULL STOP,tQAI,tNGAI,uNGI,xI,wO,xO,wA,xA,tWOODS-CREE THWEE,bhI,biI,bhO,biO,bhA,biA,beFINAL TH",
  "tBLACKFOOT W,aOGHAM SPACE MARK,gLETTER BEITH,nLUIS,nFEARN,nSAIL,nNION,nUATH,nDAIR,nTINNE,nCOLL",
  "oEIRT,nMUIN,nGORT,nNGEADAL,nSTRAIF,nRUIS,nAILM,nONN,nUR,nEADHADH,nIODHADH,nEABHADH,nOR",
  "nUILLEANN,nIFIN,nEAMHANCHOLL,nPEITH,gFEATHER MARK,gREVERSED FEATHER MARK",
  "16A0aRUNIC LETTER FEHU FEOH FE F,nV,nURUZ UR U,nYR,o,nW,nTHURISAZ THURS THORN,nETH,nANSUZ A",
  "nOS O,nAC A,oESC,nLONG-BRANCH-OSS O,nSHORT-TWIG-OSS O,nO,oE,oN,nRAIDO RAD REID R,nKAUNA,nCEN",
  "nKAUN K,nG,nENG,nGEBO GYFU G,oAR,nWUNJO WYNN W,nHAGLAZ H,pEGL H,nLONG-BRANCH-HAGALL H",
  "nSHORT-TWIG-HAGALL H,nNAUDIZ NYD NAUD N,nSHORT-TWIG-NAUD N,nDOTTED-N,nISAZ IS ISS I,nE,nJERAN J",
  "nGER,nLONG-BRANCH-AR AE,nSHORT-TWIG-AR A,nIWAZ EOH,nPERTHO PEORTH P,nALGIZ EOLHX,nSOWILO S",
  "oIGEL LONG-BRANCH-SOL S,oHORT-TWIG-SOL S,nC,nZ,nTIWAZ TIR TYR T,nSHORT-TWIG-TYR T,nD",
  "nBERKANAN BEORC BJARKAN B,nSHORT-TWIG-BJARKAN B,nDOTTED-P,nOPEN-P,nEHWAZ EH E,nMANNAZ MAN M",
  "nLONG-BRANCH-MADR M,nSHORT-TWIG-MADR M,nLAUKAZ LAGU LOGR L,nDOTTED-L,nINGWAZ,q,nDAGAZ DAEG D",
  "nOTHALAN ETHEL O,nEAR,nIOR,nCWEORTH,oALC,oEALC,nSTAN,nLONG-BRANCH-YR,nSHORT-TWIG-YR",
  "nICELANDIC-YR,nQ,nX,gSINGLE PUNCTUATION,gMULTIPLE PUNCTUATION,gCROSS PUNCTUATION,gARLAUG SYMBOL",
  "gTVIMADUR SYMBOL,gBELGTHOR SYMBOL,gLETTER K,nSH,nOO,nFRANKS CASKET OS,bbIS,bbEH,bbAC,bcESC",
  "1700aTAGALOG LETTER A,pI,pU,pKA,pGA,pNGA,pTA,pDA,pNA,pPA,pBA,pMA,pYA,pRA,pLA,pWA,pSA,pHA",
  "iVOWEL SIGN I,tU,iSIGN VIRAMA,nPAMUDPOD,171FiLETTER ARCHAIC RA,aHANUNOO LETTER A,pI,pU,pKA,pGA",
  "pNGA,pTA,pDA,pNA,pPA,pBA,pMA,pYA,pRA,pLA,pWA,pSA,pHA,iVOWEL SIGN I,tU,iSIGN PAMUDPOD",
  "aPHILIPPINE SINGLE PUNCTUATION,lDOUBLE PUNCTUATION,1740aBUHID LETTER A,nI,nU,nKA,nGA,nNGA,nTA",
  "nDA,nNA,nPA,nBA,nMA,nYA,nRA,nLA,nWA,nSA,nHA,gVOWEL SIGN I,rU,1760aTAGBANWA LETTER A,qI,qU,qKA",
  "qGA,qNGA,qTA,qDA,qNA,qPA,qBA,qMA,qYA,176EqLA,qWA,qSA,1772jVOWEL SIGN I,uU,1780aKHMER LETTER KA",
  "oHA,oO,oHO,nNGO,nCA,oHA,oO,oHO,nNYO,nDA,nTTHA,nDO,nTTHO,nNNO,nTA,oHA,oO,oHO,nNO,nBA,nPHA,oO,oHO",
  "nMO,nYO,nRO,nLO,nVO,nSHA,oSO,oA,nHA,nLA,nQA,gINDEPENDENT VOWEL QAQ,baA,zI,baI,zU,baK,baU,bbV",
  "yRY,baY,yLY,baY,yQE,zAI,zOO TYPE ONE,bhTWO,zAU,gVOWEL INHERENT AQ,wA,mSIGN AA,rI,sI,rY,sY,rU,sU",
  "sA,rOE,rYA,rIE,rE,rAE,sI,rOO,rAU,gSIGN NIKAHIT,lREAHMUK,lYUUKALEAPINTU,lMUUSIKATOAN,lTRIISAP",
  "lBANTOC,lROBAT,lTOANDAKHIAT,lKAKABAT,lAHSDA,lSAMYOK SANNYA,lVIRIAM,lCOENG,lBATHAMASAT,lKHAN",
  "lBARIYOOSAN,lCAMNUC PII KUUH,lLEK TOO,lBEYYAL,lPHNAEK MUAN,lKOOMUUT,gCURRENCY SYMBOL RIEL",
  "gSIGN AVAKRAHASANYA,mTTHACAN,17E0gDIGIT ZERO,mONE,mTWO,nHREE,mFOUR,nIVE,mSIX,nEVEN,mEIGHT,mNINE",
  "17F0gSYMBOL LEK ATTAK SON,xMUOY,xPII,xBEI,yUON,xPRAM,bb-MUOY,bcPII,bcBEI,bdUON",
  "1800aMONGOLIAN BIRGA,kELLIPSIS,kCOMMA,kFULL STOP,kCOLON,kFOUR DOTS,kTODO SOFT HYPHEN",
  "kSIBE SYLLABLE BOUNDARY MARKER,kMANCHU COMMA,rFULL STOP,kNIRUGU,kFREE VARIATION SELECTOR ONE",
  "biTWO,bjHREE,kVOWEL SEPARATOR,kFREE VARIATION SELECTOR FOUR,kDIGIT ZERO,qONE,qTWO,rHREE,qFOUR",
  "rIVE,qSIX,rEVEN,qEIGHT,qNINE,1820kLETTER A,rE,rI,rO,rU,rOE,rUE,rEE,rNA,rANG,rBA,rPA,rQA,rGA,rMA",
  "rLA,rSA,sHA,rTA,rDA,rCHA,rJA,rYA,rRA,rWA,rFA,rKA,sHA,rTSA,rZA,rHAA,rZRA,rLHA,rZHI,rCHI",
  "rTODO LONG VOWEL SIGN,wE,wI,wO,wU,wOE,wUE,wANG,wBA,wPA,wQA,wGA,wMA,wTA,wDA,wCHA,wJA,wTSA,wYA",
  "wWA,wKA,wGAA,wHAA,wJIA,wNIA,wDZA,rSIBE E,wI,xY,wUE,x,wANG,wKA,wGA,wHA,wPA,wSHA,wTA,wDA,wJA,wFA",
  "wGAA,wHAA,wTSA,wZA,wRAA,wCHA,wZHA,rMANCHU I,yKA,yRA,yFA,yZHA,rCHA WITH TWO DOTS",
  "1880rALI GALI ANUSVARA ONE,baVISARGA ONE,baDAMARU,baUBADAMA,baINVERTED UBADAMA,baBALUDA",
  "baTHREE BALUDA,baA,baI,baKA,baNGA,baCA,baTTA,bcHA,baDDA,baNNA,baTA,baDA,baPA,bbHA,baSSA,baZHA",
  "bbA,baAH,rTODO ALI GALI TA,bfZHA,rMANCHU ALI GALI GHA,bhNGA,bhCA,bhJHA,bhTTA,bhDDHA,bhTA,bhDHA",
  "bhSSA,bhCYA,bhZHA,biA,rALI GALI HALF U,bfYA,rMANCHU ALI GALI BHA,rALI GALI DAGALGA",
  "rMANCHU ALI GALI LHA,18B0aCANADIAN SYLLABICS OY,tAY,uAY,tWAY,tPOY,uAY,uWOY,tTAY,tKAY,uWAY,tMAY",
  "tNOY,uAY,tLAY,tSOY,uAY,uHOY,vAY,vWOY,tYOY,uAY,tRAY,tNWI,tOJIBWAY NWI,tNWII,tOJIBWAY NWII,tNWO",
  "tOJIBWAY NWO,tNWOO,tOJIBWAY NWOO,tRWEE,vI,wI,vO,wO,vA,tOJIBWAY P,bbT,bbK,bbC,bbM,bbN,bbS,bcH",
  "tEASTERN W,tWESTERN W,tFINAL SMALL RING,zRAISED DOT,tR-CREE RWE,tWEST-CREE LOO,beAA,tTHWE,wA",
  "uTHWE,wOO,wAA,uLHWE,wOO,tSAYISI SHWE,bcOO,baHOO,tCARRIER GWU,bbDENE GEE,bbGAA,bcWA,tSAYISI JUU",
  "tCARRIER JWA,tBEAVER DENE L,bfR,tCARRIER DENTAL S,1900aLIMBU VOWEL-CARRIER LETTER,gLETTER KA",
  "oHA,nGA,oHA,nNGA,nCA,oHA,nJA,oHA,nYAN,nTA,oHA,nDA,oHA,nNA,nPA,oHA,nBA,oHA,nMA,nYA,nRA,nLA,nWA",
  "nSHA,oSA,oA,nHA,nGYAN,nTRA,1920gVOWEL SIGN A,rI,rU,rEE,rAI,rOO,rAU,rE,rO,gSUBJOINED LETTER YA",
  "xRA,xWA,1930hMALL LETTER KA,tNGA,tANUSVARA,tTA,tNA,tPA,tMA,tRA,tLA,hIGN MUKPHRENG,lKEMPHRENG",
  "lSA-I,1940lLOO,1944gEXCLAMATION MARK,gQUESTION MARK,gDIGIT ZERO,mONE,mTWO,nHREE,mFOUR,nIVE,mSIX",
  "nEVEN,mEIGHT,mNINE,aTAI LE LETTER KA,oXA,oNGA,oTSA,oSA,oYA,oTA,pHA,oLA,oPA,pHA,oMA,oFA,oVA,oHA",
  "oQA,oKHA,oTSHA,oNA,oA,oI,oEE,pH,oU,oOO,p,oUE,oE,oAUE,pI,1970oTONE-2,t3,t4,t5,t6",
  "1980aNEW TAI LUE LETTER HIGH QA,tLOW QA,tHIGH KA,yXA,yNGA,tLOW KA,xXA,xNGA,tHIGH TSA,ySA,yYA",
  "tLOW TSA,xSA,xYA,tHIGH TA,zHA,yNA,tLOW TA,yHA,xNA,tHIGH PA,zHA,yMA,tLOW PA,yHA,xMA,tHIGH FA,yVA",
  "yLA,tLOW FA,xVA,xLA,tHIGH HA,yDA,yBA,tLOW HA,xDA,xBA,tHIGH KVA,yXVA,tLOW KVA,xXVA,tHIGH SUA",
  "tLOW SUA,19B0mVOWEL SIGN VOWEL SHORTENER,xAA,xII,xU,yU,xE,xAE,xO,yA,xUE,xAY,yAY,xUY,xOY,yAY",
  "xUEY,xIY,mLETTER FINAL V,zNG,ba,zM,zK,zD,zB,mTONE MARK-1,w2,19D0mDIGIT ZERO,sONE,sTWO,tHREE",
  "sFOUR,tIVE,sSIX,tEVEN,sEIGHT,sNINE,mTHAM DIGIT ONE,19DEmSIGN LAE,uV,aKHMER SYMBOL PATHAMASAT",
  "nMUOY KOET,nPII KOET,nBEI KOET,oUON KOET,nPRAM KOET,r-MUOY KOET,sPII KOET,sBEI KOET,tUON KOET",
  "nDAP KOET,q-MUOY KOET,rPII KOET,rBEI KOET,sUON KOET,rPRAM KOET,nTUTEYASAT,nMUOY ROC,nPII ROC",
  "nBEI ROC,oUON ROC,nPRAM ROC,r-MUOY ROC,sPII ROC,sBEI ROC,tUON ROC,nDAP ROC,q-MUOY ROC,rPII ROC",
  "rBEI ROC,sUON ROC,rPRAM ROC,aBUGINESE LETTER KA,qGA,qNGA,sKA,qPA,qBA,qMA,rPA,qTA,qDA,qNA,rRA",
  "qCA,qJA,qNYA,sCA,qYA,qRA,qLA,qVA,qSA,qA,qHA,jVOWEL SIGN I,uU,uE,uO,uAE,1A1EjPALLAWA",
  "jEND OF SECTION,aTAI THAM LETTER HIGH KA,wHA,wXA,qLOW KA,vXA,vHA,qNGA,qHIGH CA,wHA,qLOW CA,uSA",
  "uCHA,qNYA,qRATA,qHIGH RATHA,qDA,qLOW RATHA,qRANA,qHIGH TA,wHA,qLOW TA,vHA,qNA,qBA,qHIGH PA,wHA",
  "vFA,qLOW PA,uFA,uPHA,qMA,qLOW YA,qHIGH YA,qRA,rUE,qLA,rUE,qWA,qHIGH SHA,wSA,wA,vHA,qLLA,qA",
  "qLOW HA,qI,rI,qU,rU,qEE,qOO,qLAE,qGREAT SA,jCONSONANT SIGN MEDIAL RA,bfLA,yLA TANG LAI",
  "jSIGN MAI KANG LAI,jCONSONANT SIGN FINAL NGA,yLOW PA,yHIGH RATHA OR LOW PA,yMA,yBA,ySA",
  "1A60jSIGN SAKOT,jVOWEL SIGN A,uMAI SAT,uAA,uTALL AA,uI,vI,uUE,vUE,v,vU,uO,vA BELOW,vY,uE,uAE",
  "uOO,uAI,uTHAM AI,uOA ABOVE,jSIGN MAI KANG,oTONE-1,t2,oKHUEN TONE-3,z4,z5,oRA HAAM,oMAI SAM",
  "oKHUEN-LUE KARAN,1A7FjCOMBINING CRYPTOGRAMMIC DOT,jHORA DIGIT ZERO,uONE,uTWO,vHREE,uFOUR,vIVE",
  "uSIX,vEVEN,uEIGHT,uNINE,1A90jTHAM DIGIT ZERO,uONE,uTWO,vHREE,uFOUR,vIVE,uSIX,vEVEN,uEIGHT,uNINE",
  "1AA0jSIGN WIANG,tWAAK,oSAWAN,oKEOW,oHOY,oDOKMAI,oREVERSED ROTATED RANA,oMAI YAMOK,oKAAN,sKUU",
  "oSATKAAN,vKUU,oHANG,oCAANG,1AB0aCOMBINING DOUBLED CIRCUMFLEX ACCENT,lIAERESIS-RING,kINFINITY",
  "kDOWNWARDS ARROW,kTRIPLE DOT,kX-X BELOW,kWIGGLY LINE BELOW,kOPEN MARK BELOW",
  "kDOUBLE OPEN MARK BELOW,kLIGHT CENTRALIZATION STROKE BELOW,kSTRONG CENTRALIZATION STROKE BELOW",
  "kPARENTHESES ABOVE,kDOUBLE PARENTHESES ABOVE,kPARENTHESES BELOW,wOVERLAY",
  "kLATIN SMALL LETTER W BELOW,bdTURNED W BELOW,lEFT PARENTHESIS ABOVE LEFT",
  "kRIGHT PARENTHESIS ABOVE RIGHT,kLEFT PARENTHESIS BELOW LEFT,kRIGHT PARENTHESIS BELOW RIGHT",
  "kSQUARE BRACKETS ABOVE,kNUMBER SIGN ABOVE,kINVERTED DOUBLE ARCH ABOVE,kPLUS SIGN ABOVE",
  "kDOUBLE PLUS SIGN ABOVE,bbBELOW,kTRIPLE ACUTE ACCENT,kLATIN SMALL LETTER INSULAR G,blR,blT",
  "1B00aBALINESE SIGN ULU RICEM,sCANDRA,oCECEK,oSURANG,oBISAH,jLETTER AKARA,v TEDUNG,qIKARA",
  "v TEDUNG,qUKARA,v TEDUNG,qRA REPA,x TEDUNG,qLA LENGA,y TEDUNG,qEKARA,qAIKARA,qOKARA,v TEDUNG",
  "qKA,s MAHAPRANA,qGA,s GORA,qNGA,qCA,s LACA,qJA,s JERA,qNYA,qTA LATIK,tMURDA MAHAPRANA",
  "qDA MURDA ALPAPRANA,zMAHAPRANA,qNA RAMBAT,qTA,s TAWA,qDA,s MADU,qNA,qPA,s KAPAL,qBA,s KEMBANG",
  "qMA,qYA,qRA,qLA,qWA,qSA SAGA,vPA,s,qHA,jSIGN REREKAN,jVOWEL SIGN TEDUNG,uULU,x SARI,uSUKU",
  "y ILUT,uRA REPA,bb TEDUNG,uLA LENGA,bc TEDUNG,uTALING,ba REPA,bbTEDUNG,bbREPA TEDUNG,uPEPET",
  "z TEDUNG,jADEG ADEG,jLETTER KAF SASAK,rHOT SASAK,qTZIR SASAK,qEF SASAK,qVE SASAK,qZAL SASAK",
  "qASYURA SASAK,rRCHAIC JNYA,1B50jDIGIT ZERO,pONE,pTWO,qHREE,pFOUR,qIVE,pSIX,qEVEN,pEIGHT,pNINE",
  "jPANTI,lMADA,jWINDU,jCARIK PAMUNGKAH,pSIKI,pPAREREN,jPAMENENG,jMUSICAL SYMBOL DONG,zENG,zUNG",
  "zANG,bc SURANG,zING,zAENG,zEUNG,zAING,baNG GEDE,yCOMBINING TEGEH,biENDEP,biKEMPUL,bmLI",
  "biJEGOGAN,biKEMPUL WITH JEGOGAN,bmLI WITH JEGOGAN,biBENDE,biGONG,yRIGHT-HAND OPEN DUG,bpAG",
  "bjCLOSED TUK,brAK,yLEFT-HAND OPEN PANG,boUNG,biCLOSED PLAK,brUK,biOPEN PING,jPANTI LANTANG",
  "lMADA LANTANG,1B80aSUNDANESE SIGN PANYECEK,sGLAYAR,tWISAD,kLETTER A,rI,rU,rAE,rO,rE,sU,rKA,rQA",
  "rGA,rNGA,rCA,rJA,rZA,rNYA,rTA,rDA,rNA,rPA,rFA,rVA,rBA,rMA,rYA,rRA,rLA,rWA,rSA,rXA,rHA",
  "kCONSONANT SIGN PAMINGKAL,bbNYAKRA,bdIKU,kVOWEL SIGN PANGHULU,yYUKU,yAELAENG,yOLONG,xMEPET",
  "xNEULEUNG,kSIGN PAMAAEH,pVIRAMA,kCONSONANT SIGN PASANGAN MA,biWA,kLETTER KHA,rSYA,kDIGIT ZERO",
  "qONE,qTWO,rHREE,qFOUR,rIVE,qSIX,rEVEN,qEIGHT,qNINE,kAVAGRAHA,kLETTER REU,rLEU,rBHA,rFINAL K,xM",
  "aBATAK LETTER A,nSIMALUNGUN A,nHA,nSIMALUNGUN HA,nMANDAILING HA,nBA,nKARO BA,nPA,nSIMALUNGUN PA",
  "nNA,nMANDAILING NA,nWA,nSIMALUNGUN WA,nPAKPAK WA,nGA,nSIMALUNGUN GA,nJA,nDA,nRA,nSIMALUNGUN RA",
  "nMA,nSIMALUNGUN MA,oOUTHERN TA,nNORTHERN TA,nSA,oIMALUNGUN SA,nMANDAILING SA,nYA,nSIMALUNGUN YA",
  "nNGA,nLA,nSIMALUNGUN LA,nNYA,nCA,nNDA,nMBA,nI,nU,gSIGN TOMPI,gVOWEL SIGN E,rPAKPAK E,rEE,rI",
  "rKARO I,rO,rKARO O,rU,s FOR SIMALUNGUN SA,gCONSONANT SIGN NG,vH,gPANGOLAT,jONGONAN",
  "1BFCgSYMBOL BINDU NA METEK,tPINARBORAS,tJUDUL,tPANGOLAT,aLEPCHA LETTER KA,pLA,pHA,oGA,pLA,oNGA",
  "oCA,pHA,oJA,oNYA,oTA,pHA,oDA,oNA,oPA,pLA,pHA,oFA,pLA,oBA,pLA,oMA,pLA,oTSA,qHA,oDZA,oYA,oRA,oLA",
  "oHA,pLA,oVA,oSA,pHA,oWA,oA,hSUBJOINED LETTER YA,yRA,hVOWEL SIGN AA,sI,sO,tO,sU,tU,sE",
  "hCONSONANT SIGN K,wM,wL,wN,wP,wR,wT,wNYIN-DO,wKANG,hSIGN RAN,mNUKTA,1C3BhPUNCTUATION TA-ROL",
  "tNYET THYOOM TA-ROL,tCER-WA,tTSHOOK CER-WA,z,hDIGIT ZERO,nONE,nTWO,oHREE,nFOUR,oIVE,nSIX,oEVEN",
  "nEIGHT,nNINE,1C4DhLETTER TTA,qHA,oDDA,aOL CHIKI DIGIT ZERO,pONE,pTWO,qHREE,pFOUR,qIVE,pSIX",
  "qEVEN,pEIGHT,pNINE,jLETTER LA,qAT,rG,rNG,rL,qLAA,qAAK,sJ,sM,sW,qLI,qIS,rH,rNY,rR,qLU,qUC,rD,rNN",
  "rY,qLE,qEP,rDD,rN,rRR,qLO,qOTT,rB,rV,rH,jMU TTUDDAG,jGAAHLAA TTUDDAAG,jMU-GAAHLAA TTUDDAAG",
  "jRELAA,jPHAARKAA,jAHAD,jPUNCTUATION MUCAAD,vDOUBLE MUCAAD,aCYRILLIC SMALL LETTER ROUNDED VE",
  "wLONG-LEGGED DE,wNARROW O,wWIDE ES,wTALL TE,xHREE-LEGGED TE,xALL HARD SIGN,bbYAT,wUNBLENDED UK",
  "1C90aGEORGIAN MTAVRULI CAPITAL LETTER AN,bhBAN,bhGAN,bhDON,bhEN,bhVIN,bhZEN,bhTAN,bhIN,bhKAN",
  "bhLAS,bhMAN,bhNAR,bhON,bhPAR,bhZHAR,bhRAE,bhSAN,bhTAR,bhUN,bhPHAR,bhKHAR,bhGHAN,bhQAR,bhSHIN",
  "bhCHIN,biAN,bhJIL,bhCIL,biHAR,bhXAN,bhJHAN,bhHAE,biE,biIE,bhWE,bhHAR,biOE,bhFI,bhYN,bhELIFI",
  "bhTURNED GAN,bhAIN,1CBDbiEN,bhHARD SIGN,bhLABIAL SIGN,aSUNDANESE PUNCTUATION BINDU SURYA",
  "bcPANGLONG,bdURNAMA,bcCAKRA,bcLEU SATANGA,bcKA SATANGA,bcDA SATANGA,bcBA SATANGA",
  "1CD0aVEDIC TONE KARSHANA,lSHARA,lPRENKHA,gSIGN NIHSHVASA,lYAJURVEDIC MIDLINE SVARITA",
  "gTONE YAJURVEDIC AGGRAVATED INDEPENDENT SVARITA,wINDEPENDENT SVARITA",
  "wKATHAKA INDEPENDENT SVARITA,lCANDRA BELOW,lYAJURVEDIC KATHAKA INDEPENDENT SVARITA SCHROEDER",
  "lDOUBLE SVARITA,lTRIPLE SVARITA,lKATHAKA ANUDATTA,lDOT BELOW,lTWO DOTS BELOW,mHREE DOTS BELOW",
  "lRIGVEDIC KASHMIRI INDEPENDENT SVARITA,lATHARVAVEDIC INDEPENDENT SVARITA,gSIGN VISARGA SVARITA",
  "tUDATTA,lREVERSED VISARGA UDATTA,lVISARGA ANUDATTA,lREVERSED VISARGA ANUDATTA",
  "lVISARGA UDATTA WITH TAIL,tANUDATTA WITH TAIL,lANUSVARA ANTARGOMUKHA,uBAHIRGOMUKHA,uVAMAGOMUKHA",
  "bf WITH TAIL,lTIRYAK,lHEXIFORM LONG ANUSVARA,lLONG ANUSVARA,lRTHANG LONG ANUSVARA",
  "lANUSVARA UBHAYATO MUKHA,mRDHAVISARGA,lROTATED ARDHAVISARGA,gTONE CANDRA ABOVE",
  "gSIGN JIHVAMULIYA,lUPADHMANIYA,lATIKRAMA,gTONE RING ABOVE,lDOUBLE RING ABOVE",
  "gSIGN DOUBLE ANUSVARA ANTARGOMUKHA,1D00aLATIN LETTER SMALL CAPITAL A,bcE",
  "gSMALL LETTER TURNED AE,gLETTER SMALL CAPITAL BARRED B,bbC,bbD,bbETH,bc",
  "gSMALL LETTER TURNED OPEN E,baI,gLETTER SMALL CAPITAL J,bbK,bbL WITH STROKE,bbM,bbREVERSED N",
  "bbO,bcPEN O,gSMALL LETTER SIDEWAYS O,bdPEN O,bd WITH STROKE,tTURNED OE,gLETTER SMALL CAPITAL OU",
  "gSMALL LETTER TOP HALF O,tBOTTOM HALF O,gLETTER SMALL CAPITAL P,bbREVERSED R,bbTURNED R,bc,bbU",
  "gSMALL LETTER SIDEWAYS U,bcDIAERESIZED U,bcTURNED M,gLETTER SMALL CAPITAL V,bbW,bbZ,bbEZH",
  "nVOICED LARYNGEAL SPIRANT,nAIN,aGREEK LETTER SMALL CAPITAL GAMMA,bbLAMDA,bbPI,bbRHO,bbPSI",
  "aCYRILLIC LETTER SMALL CAPITAL EL,aMODIFIER LETTER CAPITAL A,zE,yB,zARRED B,yD,yE,yREVERSED E",
  "yG,yH,yI,yJ,yK,yL,yM,yN,yREVERSED N,yO,zU,yP,yR,yT,yU,yW,qSMALL A,wTURNED A,wALPHA,wTURNED AE",
  "wB,wD,wE,wSCHWA,wOPEN E,wTURNED OPEN E,wG,wTURNED I,wK,wM,wENG,wO,xPEN O,wTOP HALF O",
  "wBOTTOM HALF O,wP,wT,wU,wSIDEWAYS U,wTURNED M,wV,wAIN,wBETA,wGREEK GAMMA,wDELTA,wGREEK PHI,wCHI",
  "aLATIN SUBSCRIPT SMALL LETTER I,bdR,bdU,bdV,aGREEK SUBSCRIPT SMALL LETTER BETA,bdGAMMA,bdRHO",
  "bdPHI,bdCHI,aLATIN SMALL LETTER UE,tB WITH MIDDLE TILDE,tD WITH MIDDLE TILDE",
  "tF WITH MIDDLE TILDE,tM WITH MIDDLE TILDE,tN WITH MIDDLE TILDE,tP WITH MIDDLE TILDE",
  "tR WITH MIDDLE TILDE,baFISHHOOK AND MIDDLE TILDE,tS WITH MIDDLE TILDE,tT WITH MIDDLE TILDE",
  "tZ WITH MIDDLE TILDE,tTURNED G,aMODIFIER LETTER CYRILLIC EN,aLATIN SMALL LETTER INSULAR G",
  "tTH WITH STRIKETHROUGH,mCAPITAL LETTER I WITH STROKE,mLETTER IOTA WITH STROKE,tP WITH STROKE",
  "mCAPITAL LETTER U WITH STROKE,mLETTER UPSILON WITH STROKE,tB WITH PALATAL HOOK",
  "tD WITH PALATAL HOOK,tF WITH PALATAL HOOK,tG WITH PALATAL HOOK,tK WITH PALATAL HOOK",
  "tL WITH PALATAL HOOK,tM WITH PALATAL HOOK,tN WITH PALATAL HOOK,tP WITH PALATAL HOOK",
  "tR WITH PALATAL HOOK,tS WITH PALATAL HOOK,tESH WITH PALATAL HOOK,tV WITH PALATAL HOOK",
  "tX WITH PALATAL HOOK,tZ WITH PALATAL HOOK,tA WITH RETROFLEX HOOK,uLPHA WITH RETROFLEX HOOK",
  "tD WITH HOOK AND TAIL,tE WITH RETROFLEX HOOK,tOPEN E WITH RETROFLEX HOOK",
  "tREVERSED OPEN E WITH RETROFLEX HOOK,tSCHWA WITH RETROFLEX HOOK,tI WITH RETROFLEX HOOK",
  "tOPEN O WITH RETROFLEX HOOK,tESH WITH RETROFLEX HOOK,tU WITH RETROFLEX HOOK",
  "tEZH WITH RETROFLEX HOOK,aMODIFIER LETTER SMALL TURNED ALPHA,wC,x WITH CURL,wETH",
  "wREVERSED OPEN E,wF,wDOTLESS J WITH STROKE,wSCRIPT G,wTURNED H,wI WITH STROKE,xOTA,wCAPITAL I",
  "bf WITH STROKE,wJ WITH CROSSED-TAIL,wL WITH RETROFLEX HOOK,bdPALATAL HOOK,wCAPITAL L",
  "wM WITH HOOK,wTURNED M WITH LONG LEG,wN WITH LEFT HOOK,bdRETROFLEX HOOK,wCAPITAL N,wBARRED O",
  "wPHI,wS WITH HOOK,wESH,wT WITH PALATAL HOOK,wU BAR,xPSILON,wCAPITAL U,wV WITH HOOK,wTURNED V,wZ",
  "x WITH RETROFLEX HOOK,bdCURL,wEZH,wTHETA,aCOMBINING DOTTED GRAVE ACCENT,rACUTE ACCENT",
  "kSNAKE BELOW,lUSPENSION MARK,kMACRON-ACUTE,kGRAVE-MACRON,kMACRON-GRAVE,kACUTE-MACRON",
  "kGRAVE-ACUTE-GRAVE,kACUTE-GRAVE-ACUTE,kLATIN SMALL LETTER R BELOW,kBREVE-MACRON,kMACRON-BREVE",
  "kDOUBLE CIRCUMFLEX ABOVE,kOGONEK ABOVE,kZIGZAG BELOW,kIS BELOW,kUR ABOVE,lS ABOVE",
  "kLATIN SMALL LETTER FLATTENED OPEN A ABOVE,bdAE,beO,beV,bdC CEDILLA,bdINSULAR D,bdETH,bdG",
  "qLETTER SMALL CAPITAL G,qSMALL LETTER K,bdL,qLETTER SMALL CAPITAL L,blM,qSMALL LETTER N",
  "qLETTER SMALL CAPITAL N,blR,qSMALL LETTER R ROTUNDA,bdS,bdLONG S,bdZ,bdALPHA,bdB,beETA,bdSCHWA",
  "bdF,bdL WITH DOUBLE MIDDLE TILDE,bdO WITH LIGHT CENTRALIZATION STROKE,bdP,bdESH",
  "bdU WITH LIGHT CENTRALIZATION STROKE,bdW,bdA WITH DIAERESIS,bdO WITH DIAERESIS",
  "bdU WITH DIAERESIS,kUP TACK ABOVE,kKAVYKA ABOVE RIGHT,xLEFT,kDOT ABOVE LEFT",
  "kWIDE INVERTED BRIDGE BELOW,kDOT BELOW LEFT,lELETION MARK,lOUBLE INVERTED BREVE BELOW",
  "kALMOST EQUAL TO BELOW,kLEFT ARROWHEAD ABOVE,kRIGHT ARROWHEAD AND DOWN ARROWHEAD BELOW",
  "aLATIN CAPITAL LETTER A WITH RING BELOW,gSMALL LETTER A WITH RING BELOW",
  "gCAPITAL LETTER B WITH DOT ABOVE,gSMALL LETTER B WITH DOT ABOVE",
  "gCAPITAL LETTER B WITH DOT BELOW,gSMALL LETTER B WITH DOT BELOW",
  "gCAPITAL LETTER B WITH LINE BELOW,gSMALL LETTER B WITH LINE BELOW",
  "gCAPITAL LETTER C WITH CEDILLA AND ACUTE,gSMALL LETTER C WITH CEDILLA AND ACUTE",
  "gCAPITAL LETTER D WITH DOT ABOVE,gSMALL LETTER D WITH DOT ABOVE",
  "gCAPITAL LETTER D WITH DOT BELOW,gSMALL LETTER D WITH DOT BELOW",
  "gCAPITAL LETTER D WITH LINE BELOW,gSMALL LETTER D WITH LINE BELOW",
  "gCAPITAL LETTER D WITH CEDILLA,gSMALL LETTER D WITH CEDILLA",
  "gCAPITAL LETTER D WITH CIRCUMFLEX BELOW,gSMALL LETTER D WITH CIRCUMFLEX BELOW",
  "gCAPITAL LETTER E WITH MACRON AND GRAVE,gSMALL LETTER E WITH MACRON AND GRAVE",
  "gCAPITAL LETTER E WITH MACRON AND ACUTE,gSMALL LETTER E WITH MACRON AND ACUTE",
  "gCAPITAL LETTER E WITH CIRCUMFLEX BELOW,gSMALL LETTER E WITH CIRCUMFLEX BELOW",
  "gCAPITAL LETTER E WITH TILDE BELOW,gSMALL LETTER E WITH TILDE BELOW",
  "gCAPITAL LETTER E WITH CEDILLA AND BREVE,gSMALL LETTER E WITH CEDILLA AND BREVE",
  "gCAPITAL LETTER F WITH DOT ABOVE,gSMALL LETTER F WITH DOT ABOVE,gCAPITAL LETTER G WITH MACRON",
  "gSMALL LETTER G WITH MACRON,gCAPITAL LETTER H WITH DOT ABOVE,gSMALL LETTER H WITH DOT ABOVE",
  "gCAPITAL LETTER H WITH DOT BELOW,gSMALL LETTER H WITH DOT BELOW",
  "gCAPITAL LETTER H WITH DIAERESIS,gSMALL LETTER H WITH DIAERESIS,gCAPITAL LETTER H WITH CEDILLA",
  "gSMALL LETTER H WITH CEDILLA,gCAPITAL LETTER H WITH BREVE BELOW",
  "gSMALL LETTER H WITH BREVE BELOW,gCAPITAL LETTER I WITH TILDE BELOW",
  "gSMALL LETTER I WITH TILDE BELOW,gCAPITAL LETTER I WITH DIAERESIS AND ACUTE",
  "gSMALL LETTER I WITH DIAERESIS AND ACUTE,gCAPITAL LETTER K WITH ACUTE",
  "gSMALL LETTER K WITH ACUTE,gCAPITAL LETTER K WITH DOT BELOW,gSMALL LETTER K WITH DOT BELOW",
  "gCAPITAL LETTER K WITH LINE BELOW,gSMALL LETTER K WITH LINE BELOW",
  "gCAPITAL LETTER L WITH DOT BELOW,gSMALL LETTER L WITH DOT BELOW",
  "gCAPITAL LETTER L WITH DOT BELOW AND MACRON,gSMALL LETTER L WITH DOT BELOW AND MACRON",
  "gCAPITAL LETTER L WITH LINE BELOW,gSMALL LETTER L WITH LINE BELOW",
  "gCAPITAL LETTER L WITH CIRCUMFLEX BELOW,gSMALL LETTER L WITH CIRCUMFLEX BELOW",
  "gCAPITAL LETTER M WITH ACUTE,gSMALL LETTER M WITH ACUTE,gCAPITAL LETTER M WITH DOT ABOVE",
  "gSMALL LETTER M WITH DOT ABOVE,gCAPITAL LETTER M WITH DOT BELOW,gSMALL LETTER M WITH DOT BELOW",
  "gCAPITAL LETTER N WITH DOT ABOVE,gSMALL LETTER N WITH DOT ABOVE",
  "gCAPITAL LETTER N WITH DOT BELOW,gSMALL LETTER N WITH DOT BELOW",
  "gCAPITAL LETTER N WITH LINE BELOW,gSMALL LETTER N WITH LINE BELOW",
  "gCAPITAL LETTER N WITH CIRCUMFLEX BELOW,gSMALL LETTER N WITH CIRCUMFLEX BELOW",
  "gCAPITAL LETTER O WITH TILDE AND ACUTE,gSMALL LETTER O WITH TILDE AND ACUTE",
  "gCAPITAL LETTER O WITH TILDE AND DIAERESIS,gSMALL LETTER O WITH TILDE AND DIAERESIS",
  "gCAPITAL LETTER O WITH MACRON AND GRAVE,gSMALL LETTER O WITH MACRON AND GRAVE",
  "gCAPITAL LETTER O WITH MACRON AND ACUTE,gSMALL LETTER O WITH MACRON AND ACUTE",
  "gCAPITAL LETTER P WITH ACUTE,gSMALL LETTER P WITH ACUTE,gCAPITAL LETTER P WITH DOT ABOVE",
  "gSMALL LETTER P WITH DOT ABOVE,gCAPITAL LETTER R WITH DOT ABOVE,gSMALL LETTER R WITH DOT ABOVE",
  "gCAPITAL LETTER R WITH DOT BELOW,gSMALL LETTER R WITH DOT BELOW",
  "gCAPITAL LETTER R WITH DOT BELOW AND MACRON,gSMALL LETTER R WITH DOT BELOW AND MACRON",
  "gCAPITAL LETTER R WITH LINE BELOW,gSMALL LETTER R WITH LINE BELOW",
  "gCAPITAL LETTER S WITH DOT ABOVE,gSMALL LETTER S WITH DOT ABOVE",
  "gCAPITAL LETTER S WITH DOT BELOW,gSMALL LETTER S WITH DOT BELOW",
  "gCAPITAL LETTER S WITH ACUTE AND DOT ABOVE,gSMALL LETTER S WITH ACUTE AND DOT ABOVE",
  "gCAPITAL LETTER S WITH CARON AND DOT ABOVE,gSMALL LETTER S WITH CARON AND DOT ABOVE",
  "gCAPITAL LETTER S WITH DOT BELOW AND DOT ABOVE,gSMALL LETTER S WITH DOT BELOW AND DOT ABOVE",
  "gCAPITAL LETTER T WITH DOT ABOVE,gSMALL LETTER T WITH DOT ABOVE",
  "gCAPITAL LETTER T WITH DOT BELOW,gSMALL LETTER T WITH DOT BELOW",
  "gCAPITAL LETTER T WITH LINE BELOW,gSMALL LETTER T WITH LINE BELOW",
  "gCAPITAL LETTER T WITH CIRCUMFLEX BELOW,gSMALL LETTER T WITH CIRCUMFLEX BELOW",
  "gCAPITAL LETTER U WITH DIAERESIS BELOW,gSMALL LETTER U WITH DIAERESIS BELOW",
  "gCAPITAL LETTER U WITH TILDE BELOW,gSMALL LETTER U WITH TILDE BELOW",
  "gCAPITAL LETTER U WITH CIRCUMFLEX BELOW,gSMALL LETTER U WITH CIRCUMFLEX BELOW",
  "gCAPITAL LETTER U WITH TILDE AND ACUTE,gSMALL LETTER U WITH TILDE AND ACUTE",
  "gCAPITAL LETTER U WITH MACRON AND DIAERESIS,gSMALL LETTER U WITH MACRON AND DIAERESIS",
  "gCAPITAL LETTER V WITH TILDE,gSMALL LETTER V WITH TILDE,gCAPITAL LETTER V WITH DOT BELOW",
  "gSMALL LETTER V WITH DOT BELOW,gCAPITAL LETTER W WITH GRAVE,gSMALL LETTER W WITH GRAVE",
  "gCAPITAL LETTER W WITH ACUTE,gSMALL LETTER W WITH ACUTE,gCAPITAL LETTER W WITH DIAERESIS",
  "gSMALL LETTER W WITH DIAERESIS,gCAPITAL LETTER W WITH DOT ABOVE,gSMALL LETTER W WITH DOT ABOVE",
  "gCAPITAL LETTER W WITH DOT BELOW,gSMALL LETTER W WITH DOT BELOW",
  "gCAPITAL LETTER X WITH DOT ABOVE,gSMALL LETTER X WITH DOT ABOVE",
  "gCAPITAL LETTER X WITH DIAERESIS,gSMALL LETTER X WITH DIAERESIS",
  "gCAPITAL LETTER Y WITH DOT ABOVE,gSMALL LETTER Y WITH DOT ABOVE",
  "gCAPITAL LETTER Z WITH CIRCUMFLEX,gSMALL LETTER Z WITH CIRCUMFLEX",
  "gCAPITAL LETTER Z WITH DOT BELOW,gSMALL LETTER Z WITH DOT BELOW",
  "gCAPITAL LETTER Z WITH LINE BELOW,gSMALL LETTER Z WITH LINE BELOW,tH WITH LINE BELOW",
  "tT WITH DIAERESIS,tW WITH RING ABOVE,tY WITH RING ABOVE,tA WITH RIGHT HALF RING",
  "tLONG S WITH DOT ABOVE,bgIAGONAL STROKE,bfHIGH STROKE,gCAPITAL LETTER SHARP S",
  "gSMALL LETTER DELTA,gCAPITAL LETTER A WITH DOT BELOW,gSMALL LETTER A WITH DOT BELOW",
  "gCAPITAL LETTER A WITH HOOK ABOVE,gSMALL LETTER A WITH HOOK ABOVE",
  "gCAPITAL LETTER A WITH CIRCUMFLEX AND ACUTE,gSMALL LETTER A WITH CIRCUMFLEX AND ACUTE",
  "gCAPITAL LETTER A WITH CIRCUMFLEX AND GRAVE,gSMALL LETTER A WITH CIRCUMFLEX AND GRAVE",
  "gCAPITAL LETTER A WITH CIRCUMFLEX AND HOOK ABOVE,gSMALL LETTER A WITH CIRCUMFLEX AND HOOK ABOVE",
  "gCAPITAL LETTER A WITH CIRCUMFLEX AND TILDE,gSMALL LETTER A WITH CIRCUMFLEX AND TILDE",
  "gCAPITAL LETTER A WITH CIRCUMFLEX AND DOT BELOW,gSMALL LETTER A WITH CIRCUMFLEX AND DOT BELOW",
  "gCAPITAL LETTER A WITH BREVE AND ACUTE,gSMALL LETTER A WITH BREVE AND ACUTE",
  "gCAPITAL LETTER A WITH BREVE AND GRAVE,gSMALL LETTER A WITH BREVE AND GRAVE",
  "gCAPITAL LETTER A WITH BREVE AND HOOK ABOVE,gSMALL LETTER A WITH BREVE AND HOOK ABOVE",
  "gCAPITAL LETTER A WITH BREVE AND TILDE,gSMALL LETTER A WITH BREVE AND TILDE",
  "gCAPITAL LETTER A WITH BREVE AND DOT BELOW,gSMALL LETTER A WITH BREVE AND DOT BELOW",
  "gCAPITAL LETTER E WITH DOT BELOW,gSMALL LETTER E WITH DOT BELOW",
  "gCAPITAL LETTER E WITH HOOK ABOVE,gSMALL LETTER E WITH HOOK ABOVE,gCAPITAL LETTER E WITH TILDE",
  "gSMALL LETTER E WITH TILDE,gCAPITAL LETTER E WITH CIRCUMFLEX AND ACUTE",
  "gSMALL LETTER E WITH CIRCUMFLEX AND ACUTE,gCAPITAL LETTER E WITH CIRCUMFLEX AND GRAVE",
  "gSMALL LETTER E WITH CIRCUMFLEX AND GRAVE,gCAPITAL LETTER E WITH CIRCUMFLEX AND HOOK ABOVE",
  "gSMALL LETTER E WITH CIRCUMFLEX AND HOOK ABOVE,gCAPITAL LETTER E WITH CIRCUMFLEX AND TILDE",
  "gSMALL LETTER E WITH CIRCUMFLEX AND TILDE,gCAPITAL LETTER E WITH CIRCUMFLEX AND DOT BELOW",
  "gSMALL LETTER E WITH CIRCUMFLEX AND DOT BELOW,gCAPITAL LETTER I WITH HOOK ABOVE",
  "gSMALL LETTER I WITH HOOK ABOVE,gCAPITAL LETTER I WITH DOT BELOW,gSMALL LETTER I WITH DOT BELOW",
  "gCAPITAL LETTER O WITH DOT BELOW,gSMALL LETTER O WITH DOT BELOW",
  "gCAPITAL LETTER O WITH HOOK ABOVE,gSMALL LETTER O WITH HOOK ABOVE",
  "gCAPITAL LETTER O WITH CIRCUMFLEX AND ACUTE,gSMALL LETTER O WITH CIRCUMFLEX AND ACUTE",
  "gCAPITAL LETTER O WITH CIRCUMFLEX AND GRAVE,gSMALL LETTER O WITH CIRCUMFLEX AND GRAVE",
  "gCAPITAL LETTER O WITH CIRCUMFLEX AND HOOK ABOVE,gSMALL LETTER O WITH CIRCUMFLEX AND HOOK ABOVE",
  "gCAPITAL LETTER O WITH CIRCUMFLEX AND TILDE,gSMALL LETTER O WITH CIRCUMFLEX AND TILDE",
  "gCAPITAL LETTER O WITH CIRCUMFLEX AND DOT BELOW,gSMALL LETTER O WITH CIRCUMFLEX AND DOT BELOW",
  "gCAPITAL LETTER O WITH HORN AND ACUTE,gSMALL LETTER O WITH HORN AND ACUTE",
  "gCAPITAL LETTER O WITH HORN AND GRAVE,gSMALL LETTER O WITH HORN AND GRAVE",
  "gCAPITAL LETTER O WITH HORN AND HOOK ABOVE,gSMALL LETTER O WITH HORN AND HOOK ABOVE",
  "gCAPITAL LETTER O WITH HORN AND TILDE,gSMALL LETTER O WITH HORN AND TILDE",
  "gCAPITAL LETTER O WITH HORN AND DOT BELOW,gSMALL LETTER O WITH HORN AND DOT BELOW",
  "gCAPITAL LETTER U WITH DOT BELOW,gSMALL LETTER U WITH DOT BELOW",
  "gCAPITAL LETTER U WITH HOOK ABOVE,gSMALL LETTER U WITH HOOK ABOVE",
  "gCAPITAL LETTER U WITH HORN AND ACUTE,gSMALL LETTER U WITH HORN AND ACUTE",
  "gCAPITAL LETTER U WITH HORN AND GRAVE,gSMALL LETTER U WITH HORN AND GRAVE",
  "gCAPITAL LETTER U WITH HORN AND HOOK ABOVE,gSMALL LETTER U WITH HORN AND HOOK ABOVE",
  "gCAPITAL LETTER U WITH HORN AND TILDE,gSMALL LETTER U WITH HORN AND TILDE",
  "gCAPITAL LETTER U WITH HORN AND DOT BELOW,gSMALL LETTER U WITH HORN AND DOT BELOW",
  "gCAPITAL LETTER Y WITH GRAVE,gSMALL LETTER Y WITH GRAVE,gCAPITAL LETTER Y WITH DOT BELOW",
  "gSMALL LETTER Y WITH DOT BELOW,gCAPITAL LETTER Y WITH HOOK ABOVE",
  "gSMALL LETTER Y WITH HOOK ABOVE,gCAPITAL LETTER Y WITH TILDE,gSMALL LETTER Y WITH TILDE",
  "gCAPITAL LETTER MIDDLE-WELSH LL,gSMALL LETTER MIDDLE-WELSH LL,gCAPITAL LETTER MIDDLE-WELSH V",
  "gSMALL LETTER MIDDLE-WELSH V,gCAPITAL LETTER Y WITH LOOP,gSMALL LETTER Y WITH LOOP"]

end Docblock.Text.Names
