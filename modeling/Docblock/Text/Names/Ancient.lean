/-!
# Names of characters, 10000 to 10FFF

The packed names of the characters from 10000 to 10FFF: the ancient and the small scripts that
begin the second plane.
-/

namespace Docblock.Text.Names

/-- Packed names, in the order of their characters. -/
def ancient : List String := [
  "10000aLINEAR B SYLLABLE B008 A,u38 E,u28 I,u61 O,u10 U,u01 DA,u45 DE,u07 DI,u14 DO,u51 DU,v7 JA",
  "u46 JE,1000Du36 JO,u65 JU,u77 KA,u44 KE,u67 KI,u70 KO,u81 KU,v0 MA,u13 ME,u73 MI,u15 MO,u23 MU",
  "u06 NA,u24 NE,u30 NI,u52 NO,v5 NU,u03 PA,u72 PE,u39 PI,u11 PO,u50 PU,u16 QA,u78 QE,u21 QI",
  "u32 QO,10028u60 RA,u27 RE,u53 RI,u02 RO,u26 RU,u31 SA,u09 SE,u41 SI,u12 SO,u58 SU,v9 TA,u04 TE",
  "u37 TI,u05 TO,u69 TU,u54 WA,u75 WE,u40 WI,v2 WO,1003Cu17 ZA,u74 ZE,1003Fu20 ZO,v5 A2,u43 A3",
  "u85 AU,u71 DWE,u90 DWO,u48 NWA,u29 PU2,u62 PTE,u76 RA2,u33 RA3,u68 RO2,v6 TA2,u87 TWE,u91 TWO",
  "10050lMBOL B018,t9,s22,s34,s47,t9,s56,s63,t4,s79,s82,t3,t6,t9,10080jIDEOGRAM B100 MAN,v2 WOMAN",
  "v4 DEER,v5 EQUID,wF MARE,wM STALLION,v6F EWE,wM RAM,v7F SHE-GOAT,wM HE-GOAT,v8F SOW,wM BOAR",
  "v9F COW,wM BULL,u20 WHEAT,v1 BARLEY,v2 OLIVE,v3 SPICE,v5 CYPERUS,jMONOGRAM B127 KAPO,v8 KANAKO",
  "jIDEOGRAM B130 OIL,v1 WINE,v2,jMONOGRAM B133 AREPA,v5 MERI,jIDEOGRAM B140 BRONZE,v1 GOLD,v2",
  "v5 WOOL,v6,u50,v1 HORN,v2,v3,v4,jMONOGRAM B156 TURO2,jIDEOGRAM B157,v8,v9 CLOTH,u60,v1",
  "v2 GARMENT,v3 ARMOUR,v4,v5,v6,v7,v8,v9,u70,v1,v2,v3 MONTH,v4,v6 TREE,v7,v8,v9,u80,v1,v2,v3,v4",
  "v5,v9,u90,v1 HELMET,t220 FOOTSTOOL,v5 BATHTUB,u30 SPEAR,v1 ARROW,v2,v3 SWORD,v4,v6",
  "u40 WHEELED CHARIOT,v1 CHARIOT,v2 CHARIOT FRAME,v3 WHEEL,v5,v6,jMONOGRAM B247 DIPTE",
  "jIDEOGRAM B248,v9,u51,v2,v3,v4 DART,v5,v6,v7,v8,v9,sVESSEL B155,ba200,bc1,bc2,bc3,bc4,bc5,bc6",
  "bc7,bc8,bc9,bb10,bc1,bc2,bc3,bc4,bc5,bc6,bc7,bc8,bc9,bb21,bc2,bc6,bc7,bc8,bc9,bb50,ba305",
  "10100aAEGEAN WORD SEPARATOR LINE,wDOT,hCHECK MARK,10107hNUMBER ONE,oTWO,pHREE,oFOUR,pIVE,oSIX",
  "pEVEN,oEIGHT,oNINE,oTEN,pWENTY,pHIRTY,oFORTY,pIFTY,oSIXTY,pEVENTY,oEIGHTY,oNINETY,oONE HUNDRED",
  "oTWO HUNDRED,pHREE HUNDRED,oFOUR HUNDRED,pIVE HUNDRED,oSIX HUNDRED,pEVEN HUNDRED,oEIGHT HUNDRED",
  "oNINE HUNDRED,oONE THOUSAND,oTWO THOUSAND,pHREE THOUSAND,oFOUR THOUSAND,pIVE THOUSAND",
  "oSIX THOUSAND,pEVEN THOUSAND,oEIGHT THOUSAND,oNINE THOUSAND,oTEN THOUSAND,pWENTY THOUSAND",
  "pHIRTY THOUSAND,oFORTY THOUSAND,pIFTY THOUSAND,oSIXTY THOUSAND,pEVENTY THOUSAND",
  "oEIGHTY THOUSAND,oNINETY THOUSAND,10137hWEIGHT BASE UNIT,oFIRST SUBUNIT,oSECOND SUBUNIT",
  "oTHIRD SUBUNIT,oFOURTH SUBUNIT,hDRY MEASURE FIRST SUBUNIT,hLIQUID MEASURE FIRST SUBUNIT",
  "hMEASURE SECOND SUBUNIT,pTHIRD SUBUNIT,aGREEK ACROPHONIC ATTIC ONE QUARTER,bbHALF,bbDRACHMA",
  "xFIVE,zFTY,zVE HUNDRED,bcTHOUSAND,zFTY THOUSAND,zVE TALENTS,xTEN TALENTS,xFIFTY TALENTS",
  "xONE HUNDRED TALENTS,xFIVE HUNDRED TALENTS,xONE THOUSAND TALENTS,xFIVE THOUSAND TALENTS",
  "bcSTATERS,xTEN STATERS,xFIFTY STATERS,xONE HUNDRED STATERS,xFIVE HUNDRED STATERS",
  "xONE THOUSAND STATERS,xTEN THOUSAND STATERS,xFIFTY THOUSAND STATERS,xTEN MNAS",
  "rHERAEUM ONE PLETHRON,rTHESPIAN ONE,rHERMIONIAN ONE,rEPIDAUREAN TWO,rTHESPIAN TWO",
  "rCYRENAIC TWO DRACHMAS,rEPIDAUREAN TWO DRACHMAS,rTROEZENIAN FIVE,bcTEN,bf ALTERNATE FORM",
  "rHERMIONIAN TEN,rMESSENIAN TEN,rTHESPIAN TEN,bbHIRTY,sROEZENIAN FIFTY,bh ALTERNATE FORM",
  "rHERMIONIAN FIFTY,rTHESPIAN FIFTY,baONE HUNDRED,baTHREE HUNDRED,rEPIDAUREAN FIVE HUNDRED",
  "rTROEZENIAN FIVE HUNDRED,sHESPIAN FIVE HUNDRED,rCARYSTIAN FIVE HUNDRED,rNAXIAN FIVE HUNDRED",
  "rTHESPIAN ONE THOUSAND,baFIVE THOUSAND,rDELPHIC FIVE MNAS,rSTRATIAN FIFTY MNAS,gONE HALF SIGN",
  "t ALTERNATE FORM,gTWO THIRDS SIGN,hHREE QUARTERS SIGN,gYEAR SIGN,gTALENT SIGN,gDRACHMA SIGN",
  "gOBOL SIGN,gTWO OBOLS SIGN,hHREE OBOLS SIGN,gFOUR OBOLS SIGN,hIVE OBOLS SIGN,gMETRETES SIGN",
  "gKYATHOS BASE SIGN,gLITRA SIGN,gOUNKIA SIGN,gXESTES SIGN,gARTABE SIGN,iOURA SIGN,gGRAMMA SIGN",
  "gTRYBLION BASE SIGN,gZERO SIGN,gONE QUARTER SIGN,gSINUSOID SIGN,gINDICTION SIGN,aNOMISMA SIGN",
  "10190aROMAN SEXTANS SIGN,gUNCIA SIGN,gSEMUNCIA SIGN,iXTULA SIGN,gDIMIDIA SEXTULA SIGN",
  "gSILIQUA SIGN,gDENARIUS SIGN,gQUINARIUS SIGN,gSESTERTIUS SIGN,gDUPONDIUS SIGN,gAS SIGN",
  "gCENTURIAL SIGN,aASCIA SYMBOL,101A0aGREEK SYMBOL TAU RHO,101D0aPHAISTOS DISC SIGN PEDESTRIAN",
  "uLUMED HEAD,tTATTOOED HEAD,tCAPTIVE,uHILD,tWOMAN,tHELMET,tGAUNTLET,tTIARA,tARROW,tBOW,tSHIELD",
  "tCLUB,tMANACLES,vTTOCK,tSAW,tLID,tBOOMERANG,tCARPENTRY PLANE,tDOLIUM,tCOMB,tSLING,tCOLUMN",
  "tBEEHIVE,tSHIP,tHORN,uIDE,tBULLS LEG,tCAT,tRAM,tEAGLE,tDOVE,tTUNNY,tBEE,tPLANE TREE,tVINE",
  "tPAPYRUS,tROSETTE,tLILY,tOX BACK,tFLUTE,tGRATER,tSTRAINER,uMALL AXE,tWAVY BAND",
  "tCOMBINING OBLIQUE STROKE,10280aLYCIAN LETTER A,oE,oB,pH,oG,oD,oI,oW,oZ,oTH,oJ,oK,oQ,oL,oM,oN",
  "oMM,oNN,oU,oP,oKK,oR,oS,oT,pT,oAN,oEN,oH,oX,102A0aCARIAN LETTER A,oP2,oD,oL,oUUU,oR,oLD,oA2,oQ",
  "oB,oM,oO,oD2,oT,oSH,q2,p,oC-18,oU,oNN,oX,oN,oTT2,oP,oSS,oI,oE,oUUUU,oK,p2,oND,oUU,oG,p2,oST,q2",
  "oNG,oII,oC-39,oTT,oUUU2,oRR,oMB,q2,q3,q4,oLD2,oE2,oUUU3,102E0bOPTIC EPACT THOUSANDS MARK",
  "nDIGIT ONE,tTWO,uHREE,tFOUR,uIVE,tSIX,uEVEN,tEIGHT,tNINE,nNUMBER TEN,vWENTY,vHIRTY,uFORTY,vIFTY",
  "uSIXTY,vEVENTY,uEIGHTY,uNINETY,uONE HUNDRED,uTWO HUNDRED,vHREE HUNDRED,uFOUR HUNDRED",
  "vIVE HUNDRED,uSIX HUNDRED,vEVEN HUNDRED,uEIGHT HUNDRED,uNINE HUNDRED,10300aOLD ITALIC LETTER A",
  "sBE,sKE,sDE,sE,sVE,sZE,sHE,sTHE,sI,sKA,sEL,tM,tN,tSH,sO,sPE,sSHE,sKU,sER,tS,sTE,sU,sEKS,sPHE",
  "sKHE,sEF,tRS,sCHE,sII,sUU,sESS,lNUMERAL ONE,tFIVE,tTEN,tFIFTY,1032DlLETTER YE,sNORTHERN TSE",
  "sSOUTHERN TSE,aGOTHIC LETTER AHSA,oBAIRKAN,oGIBA,oDAGS,oAIHVUS,oQAIRTHRA,oIUJA,oHAGL,oTHIUTH",
  "oEIS,oKUSMA,oLAGUS,oMANNA,oNAUTHS,oJER,oURUS,oPAIRTHRA,oNINETY,oRAIDA,oSAUIL,oTEIWS,oWINJA",
  "oFAIHU,oIGGWS,oHWAIR,oOTHAL,oNINE HUNDRED,10350aOLD PERMIC LETTER AN,sBUR,sGAI,sDOI,sE,sZHOI",
  "sDZHOI,sZATA,sDZITA,sI,sKOKE,sLEI,sMENOE,sNENOE,sVOOI,sPEEI,sREI,sSII,sTAI,sU,sCHERY,sSHOOI",
  "uCHOOI,sYRY,tERU,sO,tO,sEF,sHA,sTSIU,sVER,sYER,vI,tAT,sIE,sYU,tA,sIA",
  "aCOMBINING OLD PERMIC LETTER AN,bcDOI,bcZATA,bcNENOE,bcSII,10380aUGARITIC LETTER ALPA,qBETA",
  "qGAMLA,qKHA,qDELTA,qHO,qWO,qZETA,qHOTA,qTET,qYOD,qKAF,qSHIN,qLAMDA,qMEM,qDHAL,qNUN,qZU,qSAMKA",
  "qAIN,qPU,qSADE,qQOPA,qRASHA,qTHANNA,qGHAIN,qTO,qI,qU,qSSU,1039FjWORD DIVIDER",
  "aOLD PERSIAN SIGN A,rI,rU,rKA,sU,rGA,sU,rXA,rCA,rJA,sI,rTA,sU,rDA,sI,sU,rTHA,rPA,rBA,rFA,rNA,sU",
  "rMA,sI,sU,rYA,rVA,sI,rRA,sU,rLA,rSA,rZA,rSHA,sSA,rHA,103C8rAURAMAZDAA,bb-2,bbHA,rXSHAAYATHIYA",
  "rDAHYAAUSH,ba-2,rBAGA,sUUMISH,mWORD DIVIDER,mNUMBER ONE,tTWO,uEN,uWENTY,tHUNDRED",
  "10400aDESERET CAPITAL LETTER LONG I,bcE,bcA,bdH,bcO,bdO,xSHORT I,bdE,bdA,beH,bdO,beO,xAY,xOW",
  "xWU,xYEE,xH,xPEE,xBEE,xTEE,xDEE,xCHEE,xJEE,xKAY,xGAY,xEF,xVEE,xETH,xTHEE,xES,xZEE,xESH,xZHEE",
  "xER,yL,yM,yN,zG,xOI,xEW,iSMALL LETTER LONG I,baE,baA,bbH,baO,bbO,vSHORT I,bbE,bbA,bcH,bbO,bcO",
  "vAY,vOW,vWU,vYEE,vH,vPEE,vBEE,vTEE,vDEE,vCHEE,vJEE,vKAY,vGAY,vEF,vVEE,vETH,vTHEE,vES,vZEE,vESH",
  "vZHEE,vER,wL,wM,wN,xG,vOI,vEW,aSHAVIAN LETTER PEEP,pTOT,pKICK,pFEE,pTHIGH,pSO,qURE,pCHURCH,pYEA",
  "pHUNG,pBIB,pDEAD,pGAG,pVOW,pTHEY,pZOO,pMEASURE,pJUDGE,pWOE,pHA-HA,pLOLL,pMIME,pIF,pEGG,pASH,qDO",
  "pON,pWOOL,pOUT,pAH,pROAR,pNUN,pEAT,pAGE,pICE,pUP,pOAK,qOZE,qIL,pAWE,qRE,pOR,pAIR,pERR,pARRAY",
  "pEAR,pIAN,pYEW,aOSMANYA LETTER ALEF,pBA,pTA,pJA,pXA,pKHA,pDEEL,pRA,pSA,qHIIN,pDHA,pCAYN,pGA,pFA",
  "pQAAF,pKAAF,pLAAN,pMIIN,pNUUN,pWAW,pHA,pYA,pA,pE,pI,pO,pU,pAA,pEE,pOO,104A0iDIGIT ZERO,oONE",
  "oTWO,pHREE,oFOUR,pIVE,oSIX,pEVEN,oEIGHT,oNINE,104B0cAGE CAPITAL LETTER A,wI,xN,wH,vBRA,vCHA",
  "vEHCHA,w,wIN,vHA,wYA,vI,vKA,vEHKA,vKYA,vLA,vMA,vNA,vO,wIN,vPA,vEHPA,vSA,wHA,vTA,vEHTA,vTSA",
  "vEHTSA,vTSHA,vDHA,vU,vWA,vKHA,vGHA,vZA,wHA,104D8gSMALL LETTER A,uI,vN,uH,tBRA,tCHA,tEHCHA,u,uIN",
  "tHA,uYA,tI,tKA,tEHKA,tKYA,tLA,tMA,tNA,tO,uIN,tPA,tEHPA,tSA,uHA,tTA,tEHTA,tTSA,tEHTSA,tTSHA,tDHA",
  "tU,tWA,tKHA,tGHA,tZA,uHA,10500aELBASAN LETTER A,pBE,pCE,qHE,pDE,pNDE,pDHE,pEI,q,pFE,pGE,qJE,pHE",
  "pI,pJE,pKE,pLE,qLE,pME,pNE,qA,qJE,pO,pPE,pQE,pRE,qRE,pSE,qHE,pTE,qHE,pU,pVE,pXE,pY,pZE,qHE,pGHE",
  "rAMMA,pKHE,10530aCAUCASIAN ALBANIAN LETTER ALT,baBET,baGIM,baDAT,baEB,baZARL,baEYN,baZHIL,baTAS",
  "baCHA,baYOWD,baZHA,baIRB,baSHA,baLAN,baINYA,baXEYN,baDYAN,baCAR,baJHOX,baKAR,baLYIT,baHEYT",
  "baQAY,baAOR,baCHOY,bcI,bbYAY,baMAQ,baQAR,baNOWC,baDZYAY,baSHAK,baJAYN,baON,baTYAY,baFAM,baDZAY",
  "baCHAT,baPEN,baGHEYS,baRAT,baSEYK,baVEYZ,baTIWR,baSHOY,baIWN,baCYAW,bbAYN,baYAYD,baPIWR,baKIW",
  "1056FtCITATION MARK,aVITHKUQI CAPITAL LETTER A,yBBE,zE,yCE,zHE,yDE,zHE,yEI,z,yFE,yGA,1057CyHA",
  "zHA,yI,zJE,yJE,yKA,yLA,zLA,yME,yNE,zJE,yO,yPE,yQA,yRE,1058CySE,zHE,yTE,zHE,yU,yVE,yXE,10594yY",
  "yZE,10597jSMALL LETTER A,wBBE,xE,wCE,xHE,wDE,xHE,wEI,x,wFE,wGA,105A3wHA,xHA,wI,xJE,wJE,wKA,wLA",
  "xLA,wME,wNE,xJE,wO,wPE,wQA,wRE,105B3wSE,xHE,wTE,xHE,wU,wVE,wXE,105BBwY,wZE",
  "10600aLINEAR A SIGN AB001,s2,s3,s4,s5,s6,s7,s8,s9,r10,s1,s3,s6,s7,r20,s1,tF,tM,s2,tF,tM,s3,tM",
  "s4,s6,s7,s8,p028B,pB029,r30,s1,s4,s7,s8,s9,r40,s1,s4,s5,s6,s7,s8,s9,r50,s1,s3,s4,s5,s6,s7,s8,s9",
  "r60,s1,s5,s6,s7,s9,r70,s3,s4,s6,s7,s8,s9,r80,s1,s2,s5,s6,s7,p100-102,pB118,r20,p120B,pB122,s3",
  "r31A,tB,p131C,pB164,r71,r80,s8,r91,p301,r2,r3,r4,r5,r6,r7,r8,r9A,sB,sC,q10,r1,r2,r3A,sB,sC,r4",
  "r5,r6,r7,r8,r9,q20,r1,r2,r3,r4,r5,r6,r7,r8,r9,q30,r1,r2,r3,r4,r5,r6,r7,r8,r9,q40,r1,r2,r3,r4,r5",
  "r6,r7,r8,r9,q50,r1,r2,r3,r4,r5,r6,r7,r8,r9,q60,r1,r2,r3,r4,r5,r6,r7,r8,r9,q70,r1,p400-VAS",
  "r1-VAS,r2-VAS,r3-VAS,r4-VAS,r5-VAS,r6-VAS,r7-VAS,r8-VAS,r9-VAS,q10-VAS,r1-VAS,r2-VAS,r3-VAS",
  "r4-VAS,r5-VAS,r6-VAS,r7-VAS,r8-VAS,p501,r2,r3,r4,r5,r6,r8,r9,q10,r1,r2,r3,r5,r6,q20,r1,r3,r4,r5",
  "r6,r7,r8,r9,q30,r1,r2,r4,r5,r6,r7,r8,r9,q40,r1,r2,r5,r7,r8,r9,q50,r1,r2,r3,r4,r5,r6,r7,r9,q63",
  "r4,r5,r6,r8,r9,q70,r1,r2,r3,r4,r5,r6,r7,r8,r9,q80,r1,r2,r3,r4,r5,r6,r7,r8,r9,q91,r2,r4,r5,r6,r8",
  "p600,r1,r2,r3,r4,r6,r8,r9,q10,r1,r2,r3,r4,r5,r6,r7,r8,r9,q20,r1,r2,r3,r4,r6,r7,r8,r9,q34,r7,r8",
  "q40,r2,r3,r4,r5,r6,r8,r9,q51,r2,r3,r4,r5,r6,r7,r8,r9,q60,r1,r2,r3,r4,10740p701 A,r2 B,r3 D,r4 E",
  "r5 F,r6 H,r7 J,r8 K,r9 L,s-2 L2,t3 L3,t4 L4,t6 L6,q10 W,r1 X,r2 Y,r3 OMEGA,r4 ABB,r5 BB,r7 DD",
  "q26 EYYY,q32 JE,10760p800,r1,r2,r3,r4,r5,r6,r7,10780aMODIFIER LETTER SMALL CAPITAL AA",
  "rUPERSCRIPT TRIANGULAR COLON,bcHALF TRIANGULAR COLON,rMALL AE,wCAPITAL B,wB WITH HOOK",
  "10787wDZ DIGRAPH,bg WITH RETROFLEX HOOK,bmCURL,xEZH DIGRAPH,x WITH TAIL,bdHOOK,bh AND TAIL",
  "wREVERSED E,wCLOSED REVERSED OPEN E,wFENG DIGRAPH,wRAMS HORN,wCAPITAL G,wG WITH HOOK",
  "wCAPITAL G WITH HOOK,wH WITH STROKE,wCAPITAL H,wHENG WITH HOOK,wDOTLESS J WITH STROKE AND HOOK",
  "wLS DIGRAPH,xZ DIGRAPH,x WITH BELT,wCAPITAL L WITH BELT,wL WITH RETROFLEX HOOK AND BELT,xEZH",
  "ba WITH RETROFLEX HOOK,wTURNED Y,be WITH BELT,wO WITH STROKE,wCAPITAL OE,xLOSED OMEGA,wQ",
  "wTURNED R WITH LONG LEG,bs AND RETROFLEX HOOK,wR WITH TAIL,bdFISHHOOK,wCAPITAL R",
  "wTC DIGRAPH WITH CURL,xS DIGRAPH,bg WITH RETROFLEX HOOK,xESH DIGRAPH,x WITH RETROFLEX HOOK",
  "wV WITH RIGHT HOOK,107B2wCAPITAL Y,qGLOTTAL STOP WITH STROKE,qREVERSED GLOTTAL STOP WITH STROKE",
  "qBILABIAL CLICK,qDENTAL CLICK,qLATERAL CLICK,qALVEOLAR CLICK",
  "qRETROFLEX CLICK WITH RETROFLEX HOOK,qSMALL S WITH CURL,10800aCYPRIOT SYLLABLE A,rE,rI,rO,rU",
  "rJA,10808sO,1080ArKA,sE,sI,sO,sU,rLA,sE,sI,sO,sU,rMA,sE,sI,sO,sU,rNA,sE,sI,sO,sU,rPA,sE,sI,sO",
  "sU,rRA,sE,sI,sO,sU,rSA,sE,sI,sO,sU,rTA,sE,sI,sO,sU,rWA,sE,sI,sO,10837rXA,sE,1083CrZA,1083FsO",
  "aIMPERIAL ARAMAIC LETTER ALEPH,yBETH,yGIMEL,yDALETH,yHE,yWAW,yZAYIN,yHETH,yTETH,yYODH,yKAPH",
  "yLAMEDH,yMEM,yNUN,ySAMEKH,yAYIN,yPE,ySADHE,yQOPH,yRESH,ySHIN,yTAW,10857rSECTION SIGN",
  "rNUMBER ONE,yTWO,zHREE,zEN,zWENTY,yONE HUNDRED,bcTHOUSAND,yTEN THOUSAND,aPALMYRENE LETTER ALEPH",
  "rBETH,rGIMEL,rDALETH,rHE,rWAW,rZAYIN,rHETH,rTETH,rYODH,rKAPH,rLAMEDH,rMEM,rFINAL NUN,rNUN",
  "rSAMEKH,rAYIN,rPE,rSADHE,rQOPH,rRESH,rSHIN,rTAW,mFT-POINTING FLEURON,kRIGHT-POINTING FLEURON",
  "kNUMBER ONE,rTWO,sHREE,rFOUR,sIVE,rTEN,sWENTY,aNABATAEAN LETTER FINAL ALEPH,rALEPH,rFINAL BETH",
  "rBETH,rGIMEL,rDALETH,rFINAL HE,rHE,rWAW,rZAYIN,rHETH,rTETH,rFINAL YODH,rYODH,rFINAL KAPH,rKAPH",
  "rFINAL LAMEDH,rLAMEDH,rFINAL MEM,rMEM,rFINAL NUN,rNUN,rSAMEKH,rAYIN,rPE,rSADHE,rQOPH,rRESH",
  "rFINAL SHIN,rSHIN,rTAW,108A7kNUMBER ONE,rTWO,sHREE,rFOUR,kCRUCIFORM NUMBER FOUR,kNUMBER FIVE",
  "rTEN,sWENTY,rONE HUNDRED,108E0aHATRAN LETTER ALEPH,oBETH,oGIMEL,oDALETH-RESH,oHE,oWAW,oZAYN",
  "oHETH,oTETH,oYODH,oKAPH,oLAMEDH,oMEM,oNUN,oSAMEKH,oAYN,oPE,oSADHE,oQOPH,108F4oSHIN,oTAW",
  "108FBhNUMBER ONE,oFIVE,oTEN,pWENTY,oONE HUNDRED,aPHOENICIAN LETTER ALF,sBET,sGAML,sDELT,sHE",
  "sWAU,sZAI,sHET,sTET,sYOD,sKAF,sLAMD,sMEM,sNUN,sSEMK,sAIN,sPE,sSADE,sQOF,sROSH,sSHIN,sTAU",
  "lNUMBER ONE,sTEN,tWENTY,sONE HUNDRED,sTWO,tHREE,1091FlWORD SEPARATOR,aLYDIAN LETTER A,oB,oG,oD",
  "oE,oV,oI,oY,oK,oL,oM,oN,oO,oR,oSS,oT,oU,oF,oQ,oS,oTT,oAN,oEN,oLY,oNN,oC,1093FhTRIANGULAR MARK",
  "10980aMEROITIC HIEROGLYPHIC LETTER A,bdE,bdI,bdO,bdYA,bdWA,bdBA,bf-2,bdPA,bdMA,bdNA,bf-2,beE",
  "bf-2,bdRA,bf-2,bdLA,bdKHA,bdHHA,bdSA,bf-2,beE,bdKA,bdQA,bdTA,bf-2,beE,bf-2,beO,bdDA",
  "wSYMBOL VIDJ,bh-2,jCURSIVE LETTER A,yE,yI,yO,yYA,yWA,yBA,yPA,yMA,yNA,zE,yRA,yLA,yKHA,yHHA,ySA",
  "yARCHAIC SA,ySE,yKA,yQA,yTA,zE,zO,yDA,109BCrFRACTION ELEVEN TWELFTHS,baONE HALF,rLOGOGRAM RMT",
  "baIMN,rNUMBER ONE,yTWO,zHREE,yFOUR,zIVE,ySIX,zEVEN,yEIGHT,yNINE,yTEN,zWENTY,zHIRTY,yFORTY,zIFTY",
  "ySIXTY,zEVENTY,109D2yONE HUNDRED,yTWO HUNDRED,zHREE HUNDRED,yFOUR HUNDRED,zIVE HUNDRED",
  "ySIX HUNDRED,zEVEN HUNDRED,yEIGHT HUNDRED,yNINE HUNDRED,yONE THOUSAND,yTWO THOUSAND",
  "zHREE THOUSAND,yFOUR THOUSAND,zIVE THOUSAND,ySIX THOUSAND,zEVEN THOUSAND,yEIGHT THOUSAND",
  "yNINE THOUSAND,yTEN THOUSAND,zWENTY THOUSAND,zHIRTY THOUSAND,yFORTY THOUSAND,zIFTY THOUSAND",
  "ySIXTY THOUSAND,zEVENTY THOUSAND,yEIGHTY THOUSAND,yNINETY THOUSAND,yONE HUNDRED THOUSAND",
  "yTWO HUNDRED THOUSAND,zHREE HUNDRED THOUSAND,yFOUR HUNDRED THOUSAND,zIVE HUNDRED THOUSAND",
  "ySIX HUNDRED THOUSAND,zEVEN HUNDRED THOUSAND,yEIGHT HUNDRED THOUSAND,yNINE HUNDRED THOUSAND",
  "rFRACTION ONE TWELFTH,baTWO TWELFTHS,bbHREE TWELFTHS,baFOUR TWELFTHS,bbIVE TWELFTHS",
  "baSIX TWELFTHS,bbEVEN TWELFTHS,baEIGHT TWELFTHS,baNINE TWELFTHS,baTEN TWELFTHS",
  "aKHAROSHTHI LETTER A,lVOWEL SIGN I,wU,wVOCALIC R,10A05wE,wO,10A0CrLENGTH MARK",
  "lSIGN DOUBLE RING BELOW,qANUSVARA,qVISARGA,lLETTER KA,tHA,sGA,tHA,10A15sCA,tHA,sJA,10A19sNYA",
  "sTTA,uHA,sDDA,uHA,sNNA,sTA,tHA,sDA,tHA,sNA,sPA,tHA,sBA,tHA,sMA,sYA,sRA,sLA,sVA,sSHA,tSA,tA,sZA",
  "sHA,sKKA,sTTTHA,vA,sVHA,10A38lSIGN BAR ABOVE,qCAUDA,qDOT BELOW,10A3FlVIRAMA,lDIGIT ONE,rTWO",
  "sHREE,rFOUR,lNUMBER TEN,tWENTY,sONE HUNDRED,wTHOUSAND,lFRACTION ONE HALF,10A50lPUNCTUATION DOT",
  "xSMALL CIRCLE,xCIRCLE,yRESCENT BAR,xMANGALAM,xLOTUS,xDANDA,yOUBLE DANDA,xLINES",
  "10A60aOLD SOUTH ARABIAN LETTER HE,zLAMEDH,zHETH,zMEM,zQOPH,zWAW,zSHIN,zRESH,zBETH,zTAW,zSAT",
  "zKAPH,zNUN,zKHETH,zSADHE,bbMEKH,zFE,zALEF,baYN,zDHADHE,zGIMEL,zDALETH,zGHAYN,zTETH,zZAYN",
  "zDHALETH,zYODH,zTHAW,bbETH,sNUMBER ONE,zFIFTY,vERIC INDICATOR,eNORTH ARABIAN LETTER HEH,zLAM",
  "zHAH,zMEEM,zQAF,zWAW,zES-2,zREH,zBEH,zTEH,zES-1,zKAF,zNOON,zKHAH,zSAD,zES-3,zFEH,zALEF,baIN",
  "zDAD,zGEEM,zDAL,zGHAIN,zTAH,zZAIN,zTHAL,zYEH,zTHEH,zZAH,sNUMBER ONE,zTEN,baWENTY",
  "10AC0aMANICHAEAN LETTER ALEPH,sBETH,tHETH,sGIMEL,tHIMEL,sDALETH,sHE,sWAW,lSIGN UD,lLETTER ZAYIN",
  "tHAYIN,sJAYIN,tHAYIN,sHETH,sTETH,sYODH,sKAPH,sXAPH,sKHAPH,sLAMEDH,sDHAMEDH,sTHAMEDH,sMEM,sNUN",
  "sSAMEKH,sAYIN,tAYIN,sPE,sFE,sSADHE,sQOPH,sXOPH,sQHOPH,sRESH,sSHIN,tSHIN,sTAW",
  "lABBREVIATION MARK ABOVE,bdBELOW,10AEBlNUMBER ONE,sFIVE,sTEN,tWENTY,sONE HUNDRED",
  "lPUNCTUATION STAR,xFLEURON,xDOUBLE DOT WITHIN DOT,zT WITHIN DOT,ba,xTWO DOTS,xLINE FILLER",
  "10B00aAVESTAN LETTER A,qA,qO,qAO,qN,qAN,qE,rE,pE,qE,pO,qO,pI,qI,pU,qU,pKE,pXE,qYE,qVE,pGE,qGE",
  "qHE,pCE,pJE,pTE,qHE,pDE,qHE,pTTE,pPE,pFE,pBE,qHE,pNGE,rYE,rVE,qE,qYE,qNE,pME,pHME,pYYE,qE,pVE",
  "pRE,pLE,pSE,pZE,pSHE,pZHE,pSHYE,qSHE,pHE,10B39iABBREVIATION MARK",
  "aTINY TWO DOTS OVER ONE DOT PUNCTUATION,aSMALL TWO DOTS OVER ONE DOT PUNCTUATION",
  "aLARGE TWO DOTS OVER ONE DOT PUNCTUATION,gONE DOT OVER TWO DOTS PUNCTUATION",
  "gTWO RINGS OVER ONE RING PUNCTUATION,gONE RING OVER TWO RINGS PUNCTUATION",
  "aINSCRIPTIONAL PARTHIAN LETTER ALEPH,beBETH,beGIMEL,beDALETH,beHE,beWAW,beZAYIN,beHETH,beTETH",
  "beYODH,beKAPH,beLAMEDH,beMEM,beNUN,beSAMEKH,beAYIN,bePE,beSADHE,beQOPH,beRESH,beSHIN,beTAW",
  "10B58xNUMBER ONE,beTWO,bfHREE,beFOUR,beTEN,bfWENTY,beONE HUNDRED,biTHOUSAND,qHLAVI LETTER ALEPH",
  "bdBETH,bdGIMEL,bdDALETH,bdHE,bdWAW-AYIN-RESH,bdZAYIN,bdHETH,bdTETH,bdYODH,bdKAPH,bdLAMEDH",
  "bdMEM-QOPH,bdNUN,bdSAMEKH,bdPE,bdSADHE,beHIN,bdTAW,10B78wNUMBER ONE,bdTWO,beHREE,bdFOUR,bdTEN",
  "beWENTY,bdONE HUNDRED,bhTHOUSAND,aPSALTER PAHLAVI LETTER ALEPH,xBETH,xGIMEL,xDALETH,xHE",
  "xWAW-AYIN-RESH,xZAYIN,xHETH,xYODH,xKAPH,xLAMEDH,xMEM-QOPH,xNUN,xSAMEKH,xPE,xSADHE,yHIN,xTAW",
  "10B99qSECTION MARK,qTURNED SECTION MARK,qFOUR DOTS WITH CROSS,bfDOT,10BA9qNUMBER ONE,xTWO,yHREE",
  "xFOUR,xTEN,yWENTY,xONE HUNDRED,10C00aOLD TURKIC LETTER ORKHON A,sYENISEI A,bbE,sORKHON I",
  "sYENISEI I,baE,sORKHON O,baE,sYENISEI OE,sORKHON AB,sYENISEI AB,sORKHON AEB,sYENISEI AEB",
  "sORKHON AG,sYENISEI AG,sORKHON AEG,sYENISEI AEG,sORKHON AD,sYENISEI AD,sORKHON AED,zEZ",
  "sYENISEI EZ,sORKHON AY,sYENISEI AY,sORKHON AEY,sYENISEI AEY,sORKHON AEK,sYENISEI AEK",
  "sORKHON OEK,sYENISEI OEK,sORKHON AL,sYENISEI AL,sORKHON AEL,zELT,baM,zAN,baEN,sYENISEI AEN",
  "sORKHON ENT,sYENISEI ENT,sORKHON ENC,sYENISEI ENC,sORKHON ENY,sYENISEI ENY,baANG,sORKHON ENG",
  "sYENISEI AENG,sORKHON EP,zOP,zIC,zEC,sYENISEI EC,sORKHON AQ,sYENISEI AQ,sORKHON IQ,sYENISEI IQ",
  "sORKHON OQ,sYENISEI OQ,sORKHON AR,sYENISEI AR,sORKHON AER,baS,baES,baSH,sYENISEI ASH",
  "sORKHON ESH,sYENISEI ESH,sORKHON AT,sYENISEI AT,sORKHON AET,sYENISEI AET,sORKHON OT,zBASH",
  "10C80eHUNGARIAN CAPITAL LETTER A,beA,bdEB,bdAMB,bdEC,beNC,beCS,beD,bdAND,bdE,bdCLOSE E,bdEE,beF",
  "beG,bfY,beH,bdI,beI,bdEJ,beK,bdAK,bdUNK,bdEL,bfY,beM,beN,bfY,bdO,beO,bdNIKOLSBURG OE",
  "bdRUDIMENTA OE,bdOEE,bdEP,beMP,beR,bdSHORT ER,bdES,bfZ,beT,beNT,beTY,beCH,bdU,beU",
  "bdNIKOLSBURG UE,bdRUDIMENTA UE,bdEV,beZ,bfS,beNT-SHAPED SIGN,bdUS,10CC0oSMALL LETTER A,bcA,bbEB",
  "bbAMB,bbEC,bcNC,bcCS,bcD,bbAND,bbE,bbCLOSE E,bbEE,bcF,bcG,bdY,bcH,bbI,bcI,bbEJ,bcK,bbAK,bbUNK",
  "bbEL,bdY,bcM,bcN,bdY,bbO,bcO,bbNIKOLSBURG OE,bbRUDIMENTA OE,bbOEE,bbEP,bcMP,bcR,bbSHORT ER,bbES",
  "bdZ,bcT,bcNT,bcTY,bcCH,bbU,bcU,bbNIKOLSBURG UE,bbRUDIMENTA UE,bbEV,bcZ,bdS,bcNT-SHAPED SIGN",
  "bbUS,10CFAoNUMBER ONE,vFIVE,vTEN,vFIFTY,vONE HUNDRED,zTHOUSAND,aHANIFI ROHINGYA LETTER A,xBA",
  "xPA,xTA,yTA,xJA,xCA,xHA,xKHA,xFA,xDA,yDA,xRA,yRA,xZA,xSA,yHA,xKA,xGA,xLA,xMA,xNA,xWA,xKINNA WA",
  "xYA,xKINNA YA,xNGA,yYA,xVA,qVOWEL A,wI,wU,wE,wO,qMARK SAKIN,vNA KHONNA,qSIGN HARBAHAY,vTAHALA",
  "xNA,xSSI,10D30qDIGIT ZERO,wONE,wTWO,xHREE,wFOUR,xIVE,wSIX,xEVEN,wEIGHT,wNINE",
  "10E60aRUMI DIGIT ONE,lTWO,mHREE,lFOUR,mIVE,lSIX,mEVEN,lEIGHT,lNINE,fNUMBER TEN,nWENTY,nHIRTY",
  "mFORTY,nIFTY,mSIXTY,nEVENTY,mEIGHTY,mNINETY,mONE HUNDRED,mTWO HUNDRED,nHREE HUNDRED",
  "mFOUR HUNDRED,nIVE HUNDRED,mSIX HUNDRED,nEVEN HUNDRED,mEIGHT HUNDRED,mNINE HUNDRED",
  "fFRACTION ONE HALF,sQUARTER,sTHIRD,oTWO THIRDS,10E80aYEZIDI LETTER ELIF,oBE,oPE,pHE,oTHE,oSE",
  "oCIM,pHIM,qHIM,oHHA,oXA,oDAL,oZAL,oRA,pHA,oZA,oJA,oSIN,pHIN,pAD,oDAD,oTA,oZE,oEYN,oXHEYN,oFA",
  "oVA,q ALTERNATE FORM,oQAF,oKAF,pHAF,oGAF,oLAM,oMIM,oNUN,oUM,oWAW,oOW,oEW,oHAY,oYOT,oET",
  "10EABhCOMBINING HAMZA MARK,rMADDA MARK,hHYPHENATION MARK,10EB0hLETTER LAM WITH DOT ABOVE",
  "oYOT WITH CIRCUMFLEX ABOVE,10F00aOLD SOGDIAN LETTER ALEPH,tFINAL ALEPH,tBETH,tFINAL BETH,tGIMEL",
  "tHE,tFINAL HE,tWAW,tZAYIN,tHETH,tYODH,tKAPH,tLAMEDH,tMEM,tNUN,tFINAL NUN,bc WITH VERTICAL TAIL",
  "tSAMEKH,tAYIN,uLTERNATE AYIN,tPE,tSADHE,tFINAL SADHE,be WITH VERTICAL TAIL,tRESH-AYIN-DALETH",
  "tSHIN,tTAW,tFINAL TAW,bc WITH VERTICAL TAIL,mNUMBER ONE,tTWO,uHREE,tFOUR,uIVE,tTEN,uWENTY",
  "uHIRTY,tONE HUNDRED,mFRACTION ONE HALF,mLIGATURE AYIN-DALETH,10F30aSOGDIAN LETTER ALEPH,pBETH",
  "pGIMEL,pHE,pWAW,pZAYIN,pHETH,pYODH,pKAPH,pLAMEDH,pMEM,pNUN,pSAMEKH,pAYIN,pPE,pSADHE,pRESH-AYIN",
  "pSHIN,pTAW,pFETH,pLESH,iINDEPENDENT SHIN,iCOMBINING DOT BELOW,sTWO DOTS BELOW,sDOT ABOVE",
  "sTWO DOTS ABOVE,sCURVE ABOVE,yBELOW,sHOOK ABOVE,xBELOW,sLONG HOOK BELOW,sRESH BELOW",
  "sSTROKE BELOW,iNUMBER ONE,pTEN,qWENTY,pONE HUNDRED,iPUNCTUATION TWO VERTICAL BARS,bl WITH DOTS",
  "uCIRCLE WITH DOT,uTWO CIRCLES WITH DOTS,uHALF CIRCLE WITH DOT,10F70aOLD UYGHUR LETTER ALEPH",
  "sBETH,sGIMEL-HETH,sWAW,sZAYIN,sFINAL HETH,sYODH,sKAPH,sLAMEDH,sMEM,sNUN,sSAMEKH,sPE,sSADHE",
  "sRESH,sSHIN,sTAW,sLESH,lCOMBINING DOT ABOVE,zBELOW,vTWO DOTS ABOVE,beBELOW,lPUNCTUATION BAR",
  "xTWO BARS,bbDOTS,xFOUR DOTS,10FB0aCHORASMIAN LETTER ALEPH,sSMALL ALEPH,sBETH,sGIMEL,sDALETH,sHE",
  "sWAW,sCURLED WAW,sZAYIN,sHETH,sYODH,sKAPH,sLAMEDH,sMEM,sNUN,sSAMEKH,sAYIN,sPE,sRESH,sSHIN,sTAW",
  "lNUMBER ONE,sTWO,tHREE,sFOUR,sTEN,tWENTY,sONE HUNDRED,10FE0aELYMAIC LETTER ALEPH,pBETH,pGIMEL",
  "pDALETH,pHE,pWAW,pZAYIN,pHETH,pTETH,pYODH,pKAPH,pLAMEDH,pMEM,pNUN,pSAMEKH,pAYIN,pPE,pSADHE",
  "pQOPH,pRESH,pSHIN,pTAW,jIGATURE ZAYIN-YODH"]

end Docblock.Text.Names
