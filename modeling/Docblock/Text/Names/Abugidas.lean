/-!
# Names of characters, 590 to 10FF

The packed names of the characters from 590 to 10FF: the scripts from Hebrew to Georgian.
-/

namespace Docblock.Text.Names

/-- Packed names, in the order of their characters. -/
def abugidas : List String := [
  "591aHEBREW ACCENT ETNAHTA,oSEGOL,pHALSHELET,oZAQEF QATAN,uGADOL,oTIPEHA,oREVIA,oZARQA,oPASHTA",
  "oYETIV,oTEVIR,oGERESH,u MUQDAM,rSHAYIM,oQARNEY PARA,oTELISHA GEDOLA,oPAZER,oATNAH HAFUKH,oMUNAH",
  "pAHAPAKH,pERKHA,u KEFULA,oDARGA,oQADMA,oTELISHA QETANA,oYERAH BEN YOMO,oOLE,oILUY,oDEHI,oZINOR",
  "hMARK MASORA CIRCLE,hPOINT SHEVA,nHATAF SEGOL,tPATAH,tQAMATS,oIRIQ,nTSERE,nSEGOL,nPATAH,nQAMATS",
  "nHOLAM,s HASER FOR VAV,nQUBUTS,nDAGESH OR MAPIQ,nMETEG,iUNCTUATION MAQAF,iOINT RAFE",
  "iUNCTUATION PASEQ,iOINT SHIN DOT,oIN DOT,iUNCTUATION SOF PASUQ,hMARK UPPER DOT,mLOWER DOT",
  "hPUNCTUATION NUN HAFUKHA,iOINT QAMATS QATAN,5D0hLETTER ALEF,oBET,oGIMEL,oDALET,oHE,oVAV,oZAYIN",
  "oHET,oTET,oYOD,oFINAL KAF,oKAF,oLAMED,oFINAL MEM,oMEM,oFINAL NUN,oNUN,oSAMEKH,oAYIN,oFINAL PE",
  "oPE,oFINAL TSADI,oTSADI,oQOF,oRESH,oSHIN,oTAV,5EFhYOD TRIANGLE,hLIGATURE YIDDISH DOUBLE VAV",
  "yVAV YOD,yDOUBLE YOD,hPUNCTUATION GERESH,wSHAYIM,600aARABIC NUMBER SIGN,hSIGN SANAH",
  "hFOOTNOTE MARKER,hSIGN SAFHA,oMVAT,hNUMBER MARK ABOVE,g-INDIC CUBE ROOT,nFOURTH ROOT,g RAY",
  "g-INDIC PER MILLE SIGN,rTEN THOUSAND SIGN,bFGHANI SIGN,bRABIC COMMA,hDATE SEPARATOR",
  "hPOETIC VERSE SIGN,hSIGN MISRA,mSALLALLAHOU ALAYHE WASSALLAM,mALAYHE ASSALLAM",
  "mRAHMATULLAH ALAYHE,oDI ALLAHOU ANHU,mTAKHALLUS,iMALL HIGH TAH,sLIGATURE ALEF WITH LAM WITH YEH",
  "sZAIN,nFATHA,nDAMMA,nKASRA,iEMICOLON,hLETTER MARK,hEND OF TEXT MARK",
  "hTRIPLE DOT PUNCTUATION MARK,hQUESTION MARK,hLETTER KASHMIRI YEH,oHAMZA,oALEF WITH MADDA ABOVE",
  "yHAMZA ABOVE,oWAW WITH HAMZA ABOVE,oALEF WITH HAMZA BELOW,oYEH WITH HAMZA ABOVE,oALEF,oBEH",
  "oTEH MARBUTA,r,pHEH,oJEEM,oHAH,oKHAH,oDAL,oTHAL,oREH,oZAIN,oSEEN,pHEEN,pAD,oDAD,oTAH,oZAH,oAIN",
  "oGHAIN,oKEHEH WITH TWO DOTS ABOVE,baHREE DOTS BELOW,oFARSI YEH WITH INVERTED V,bdTWO DOTS ABOVE",
  "beHREE DOTS ABOVE,hTATWEEL,hLETTER FEH,oQAF,oKAF,oLAM,oMEEM,oNOON,oHEH,oWAW,oALEF MAKSURA,oYEH",
  "hFATHATAN,hDAMMATAN,hKASRATAN,hFATHA,hDAMMA,hKASRA,hSHADDA,iUKUN,hMADDAH ABOVE,hHAMZA ABOVE",
  "nBELOW,hSUBSCRIPT ALEF,hINVERTED DAMMA,hMARK NOON GHUNNA,hZWARAKAY,hVOWEL SIGN SMALL V ABOVE",
  "sINVERTED SMALL V ABOVE,sDOT BELOW,hREVERSED DAMMA,hFATHA WITH TWO DOTS,hWAVY HAMZA BELOW",
  "g-INDIC DIGIT ZERO,tONE,tTWO,uHREE,tFOUR,uIVE,tSIX,uEVEN,tEIGHT,tNINE,g PERCENT SIGN",
  "hDECIMAL SEPARATOR,hTHOUSANDS SEPARATOR,hFIVE POINTED STAR,hLETTER DOTLESS BEH,wQAF",
  "oSUPERSCRIPT ALEF,oALEF WASLA,uITH WAVY HAMZA ABOVE,bjBELOW,oHIGH HAMZA,y ALEF,zWAW",
  "oU WITH HAMZA ABOVE,oHIGH HAMZA YEH,oTTEH,sEH,oBEEH,oTEH WITH RING,xTHREE DOTS ABOVE DOWNWARDS",
  "oPEH,oTEHEH,oBEHEH,oHAH WITH HAMZA ABOVE,xTWO DOTS VERTICAL ABOVE,oNYEH,oDYEH",
  "oHAH WITH THREE DOTS ABOVE,oTCHEH,tEH,oDDAL,pAL WITH RING,xDOT BELOW,bg AND SMALL TAH,qHAL",
  "pDAHAL,pUL,pAL WITH THREE DOTS ABOVE DOWNWARDS,xFOUR DOTS ABOVE,oRREH,pEH WITH SMALL V,xRING",
  "xDOT BELOW,xSMALL V BELOW,xDOT BELOW AND DOT ABOVE,xTWO DOTS ABOVE,oJEH",
  "oREH WITH FOUR DOTS ABOVE,oSEEN WITH DOT BELOW AND DOT ABOVE,yTHREE DOTS BELOW",
  "bo AND THREE DOTS ABOVE,pAD WITH TWO DOTS BELOW,yHREE DOTS ABOVE,oTAH WITH THREE DOTS ABOVE",
  "oAIN WITH THREE DOTS ABOVE,oDOTLESS FEH,oFEH WITH DOT MOVED BELOW,bbBELOW,oVEH",
  "oFEH WITH THREE DOTS BELOW,oPEHEH,oQAF WITH DOT ABOVE,xTHREE DOTS ABOVE,oKEHEH,oSWASH KAF",
  "oKAF WITH RING,xDOT ABOVE,oNG,oKAF WITH THREE DOTS BELOW,oGAF,r WITH RING,oNGOEH",
  "oGAF WITH TWO DOTS BELOW,pUEH,pAF WITH THREE DOTS ABOVE,oLAM WITH SMALL V,xDOT ABOVE",
  "xTHREE DOTS ABOVE,biBELOW,oNOON WITH DOT BELOW,tGHUNNA,oRNOON,oNOON WITH RING,yTHREE DOTS ABOVE",
  "oHEH DOACHASHMEE,oTCHEH WITH DOT ABOVE,oHEH WITH YEH ABOVE,sGOAL,w WITH HAMZA ABOVE",
  "oTEH MARBUTA GOAL,oWAW WITH RING,oKIRGHIZ OE,oOE,oU,oYU,oKIRGHIZ YU,oWAW WITH TWO DOTS ABOVE",
  "oVE,oFARSI YEH,oYEH WITH TAIL,xSMALL V,oWAW WITH DOT ABOVE,oE,oYEH WITH THREE DOTS BELOW",
  "sBARREE,y WITH HAMZA ABOVE,hFULL STOP,hLETTER AE",
  "hSMALL HIGH LIGATURE SAD WITH LAM WITH ALEF MAKSURA,bbQAF WITH LAM WITH ALEF MAKSURA",
  "sMEEM INITIAL FORM,sLAM ALEF,sJEEM,sTHREE DOTS,sSEEN,hEND OF AYAH,hSTART OF RUB EL HIZB",
  "iMALL HIGH ROUNDED ZERO,sUPRIGHT RECTANGULAR ZERO,sDOTLESS HEAD OF KHAH,sMEEM ISOLATED FORM",
  "nLOW SEEN,nHIGH MADDA,nWAW,nYEH,nHIGH YEH,sNOON,hPLACE OF SAJDAH,hEMPTY CENTRE LOW STOP",
  "uHIGH STOP,hROUNDED HIGH STOP WITH FILLED CENTRE,hSMALL LOW MEEM,hLETTER DAL WITH INVERTED V",
  "oREH WITH INVERTED V,aEXTENDED ARABIC-INDIC DIGIT ZERO,bcONE,bcTWO,bdHREE,bcFOUR,bdIVE,bcSIX",
  "bdEVEN,bcEIGHT,bcNINE,aARABIC LETTER SHEEN WITH DOT BELOW,oDAD WITH DOT BELOW",
  "oGHAIN WITH DOT BELOW,hSIGN SINDHI AMPERSAND,tPOSTPOSITION MEN,hLETTER HEH WITH INVERTED V",
  "aSYRIAC END OF PARAGRAPH,hSUPRALINEAR FULL STOP,jBLINEAR FULL STOP,jPRALINEAR COLON",
  "jBLINEAR COLON,hHORIZONTAL COLON,hCOLON SKEWED LEFT,uRIGHT,hSUPRALINEAR COLON SKEWED LEFT",
  "jBLINEAR COLON SKEWED RIGHT,hCONTRACTION,hHARKLEAN OBELUS,qMETOBELUS,qASTERISCUS",
  "70FhABBREVIATION MARK,hLETTER ALAPH,oSUPERSCRIPT ALAPH,oBETH,oGAMAL,t GARSHUNI,oDALATH",
  "pOTLESS DALATH RISH,oHE,oWAW,oZAIN,oHETH,oTETH,s GARSHUNI,oYUDH,s HE,oKAPH,oLAMADH,oMIM,oNUN",
  "oSEMKATH,oFINAL SEMKATH,oE,oPE,oREVERSED PE,oSADHE,oQAPH,oRISH,oSHIN,oTAW,oPERSIAN BHETH",
  "wGHAMAL,wDHALATH,hPTHAHA ABOVE,oBELOW,oDOTTED,hZQAPHA ABOVE,oBELOW,oDOTTED,hRBASA ABOVE,nBELOW",
  "hDOTTED ZLAMA HORIZONTAL,uANGULAR,hHBASA ABOVE,nBELOW,m-ESASA DOTTED,hESASA ABOVE,nBELOW,hRWAHA",
  "hFEMININE DOT,hQUSHSHAYA,hRUKKAKHA,hTWO VERTICAL DOTS ABOVE,zBELOW,iHREE DOTS ABOVE,sBELOW",
  "hOBLIQUE LINE ABOVE,uBELOW,hMUSIC,hBARREKH,74DhLETTER SOGDIAN ZHAIN,wKHAPH,wFE",
  "aARABIC LETTER BEH WITH THREE DOTS HORIZONTALLY BELOW,xDOT BELOW AND THREE DOTS ABOVE",
  "xTHREE DOTS POINTING UPWARDS BELOW,ce AND TWO DOTS ABOVE,yWO DOTS BELOW AND DOT ABOVE",
  "xINVERTED SMALL V BELOW,xSMALL V,oHAH WITH TWO DOTS ABOVE,yHREE DOTS POINTING UPWARDS BELOW",
  "oDAL WITH TWO DOTS VERTICALLY BELOW AND SMALL TAH,xINVERTED SMALL V BELOW,oREH WITH STROKE",
  "oSEEN WITH FOUR DOTS ABOVE,oAIN WITH TWO DOTS ABOVE,yHREE DOTS POINTING DOWNWARDS ABOVE",
  "yWO DOTS VERTICALLY ABOVE,oFEH WITH TWO DOTS BELOW,yHREE DOTS POINTING UPWARDS BELOW",
  "oKEHEH WITH DOT ABOVE,zTHREE DOTS ABOVE,bkPOINTING UPWARDS BELOW,oMEEM WITH DOT ABOVE,bcBELOW",
  "oNOON WITH TWO DOTS BELOW,ySMALL TAH,beV,oLAM WITH BAR,oREH WITH TWO DOTS VERTICALLY ABOVE",
  "xHAMZA ABOVE,oSEEN WITH TWO DOTS VERTICALLY ABOVE,oHAH WITH SMALL ARABIC LETTER TAH BELOW",
  "bvAND TWO DOTS,oSEEN WITH SMALL ARABIC LETTER TAH AND TWO DOTS",
  "oREH WITH SMALL ARABIC LETTER TAH AND TWO DOTS,oHAH WITH SMALL ARABIC LETTER TAH ABOVE",
  "oALEF WITH EXTENDED ARABIC-INDIC DIGIT TWO ABOVE,cbHREE ABOVE",
  "oFARSI YEH WITH EXTENDED ARABIC-INDIC DIGIT TWO ABOVE,cgHREE ABOVE,cfFOUR BELOW",
  "oWAW WITH EXTENDED ARABIC-INDIC DIGIT TWO ABOVE,caHREE ABOVE",
  "oYEH BARREE WITH EXTENDED ARABIC-INDIC DIGIT TWO ABOVE,chHREE ABOVE",
  "oHAH WITH EXTENDED ARABIC-INDIC DIGIT FOUR BELOW",
  "oSEEN WITH EXTENDED ARABIC-INDIC DIGIT FOUR ABOVE,yINVERTED V,oKAF WITH TWO DOTS ABOVE",
  "aTHAANA LETTER HAA,oSHAVIYANI,oNOONU,oRAA,oBAA,oLHAVIYANI,oKAAFU,oALIFU,oVAAVU,oMEEMU,oFAAFU",
  "oDHAALU,oTHAA,oLAAMU,oGAAFU,pNAVIYANI,oSEENU,oDAVIYANI,oZAVIYANI,oTAVIYANI,oYAA,oPAVIYANI",
  "oJAVIYANI,oCHAVIYANI,oTTAA,oHHAA,oKHAA,oTHAALU,oZAA,oSHEENU,pAADHU,oDAADHU,oTO,oZO,oAINU",
  "oGHAINU,oQAAFU,oWAAVU,hABAFILI,iABAAFILI,hIBIFILI,hEEBEEFILI,hUBUFILI,hOOBOOFILI,hEBEFILI",
  "iYBEYFILI,hOBOFILI,iABOAFILI,hSUKUN,hLETTER NAA,7C0aNKO DIGIT ZERO,kONE,kTWO,lHREE,kFOUR,lIVE",
  "kSIX,lEVEN,kEIGHT,kNINE,eLETTER A,lEE,lI,lE,lU,lOO,m,lDAGBASINNA,lN,lBA,lPA,lTA,lJA,lCHA,lDA",
  "lRA,mRA,lSA,lGBA,lFA,lKA,lLA,lNA WOLOSO,lMA,lNYA,mA,lHA,lWA,lYA,lNYA WOLOSO,lJONA JA,qCHA,qRA",
  "eCOMBINING SHORT HIGH TONE,uLOW TONE,uRISING TONE,oLONG DESCENDING TONE,tHIGH TONE,tLOW TONE",
  "tRISING TONE,oNASALIZATION MARK,oDOUBLE DOT ABOVE,eHIGH TONE APOSTROPHE,eLOW TONE APOSTROPHE",
  "eSYMBOL OO DENNEN,lGBAKURUNEN,eCOMMA,eEXCLAMATION MARK,eLAJANYALAN,7FDeDANTAYALAN,fOROME SIGN",
  "eTAMAN SIGN,aSAMARITAN LETTER ALAF,rBIT,rGAMAN,rDALAT,rIY,rBAA,rZEN,rIT,rTIT,rYUT,rKAAF,rLABAT",
  "rMIM,rNUN,rSINGAAT,rIN,rFI,rTSAADIY,rQUF,rRISH,rSHAN,rTAAF,kMARK IN,r-ALAF,pOCCLUSION,pDAGESH",
  "lODIFIER LETTER EPENTHETIC YUT,lARK EPENTHETIC YUT,kVOWEL SIGN LONG E,vE,vOVERLONG AA,vLONG AA",
  "vAA,vOVERLONG A,vLONG A,vA,kMODIFIER LETTER SHORT A,kVOWEL SIGN SHORT A,vLONG U,vU",
  "kMODIFIER LETTER I,kVOWEL SIGN LONG I,vI,vO,vSUKUN,kMARK NEQUDAA,830kPUNCTUATION NEQUDAA",
  "wAFSAAQ,xNGED,wBAU,wATMAAU,wSHIYYAALAA,kABBREVIATION MARK,kPUNCTUATION MELODIC QITSA,wZIQAA",
  "wQITSA,wZAEF,wTURU,wARKAANU,wSOF MASHFAAT,wANNAAU,840aMANDAIC LETTER HALQA,pAB,qG,qD,qH",
  "pUSHENNA,pAZ,pIT,pATT,qKSA,r,qL,qM,qN,qS,pIN,pAP,qSZ,qQ,qR,qSH,qT,pDUSHENNA,pKAD,pAIN",
  "iAFFRICATION MARK,iVOCALIZATION MARK,iGEMINATION MARK,85EiPUNCTUATION",
  "860aSYRIAC LETTER MALAYALAM NGA,yJA,yNYA,yTTA,yNNA,baNA,yBHA,yRA,yLLA,baLA,ySSA",
  "870aARABIC LETTER ALEF WITH ATTACHED FATHA,bhTOP RIGHT FATHA,yRIGHT MIDDLE STROKE",
  "yLEFT MIDDLE STROKE,yATTACHED KASRA,bhBOTTOM RIGHT KASRA,bhROUND DOT ABOVE,biIGHT ROUND DOT",
  "bhLEFT ROUND DOT,bhROUND DOT BELOW,yDOT ABOVE,yATTACHED TOP RIGHT FATHA AND DOT ABOVE",
  "yRIGHT MIDDLE STROKE AND DOT ABOVE,yATTACHED BOTTOM RIGHT KASRA AND DOT ABOVE",
  "bhTOP RIGHT FATHA AND LEFT RING,yRIGHT MIDDLE STROKE AND LEFT RING",
  "yATTACHED BOTTOM RIGHT KASRA AND LEFT RING,bhRIGHT HAMZA,bhLEFT HAMZA",
  "hTATWEEL WITH OVERSTRUCK HAMZA,bfWAW,uTWO DOTS BELOW,hLETTER THIN YEH,hBASELINE ROUND DOT",
  "hRAISED ROUND DOT,hLETTER NOON WITH INVERTED SMALL V,oHAH WITH INVERTED SMALL V BELOW",
  "oTAH WITH DOT BELOW,xTHREE DOTS BELOW,oKEHEH WITH TWO DOTS VERTICALLY BELOW,hVERTICAL TAIL",
  "890hPOUND MARK ABOVE,iIASTRE MARK ABOVE,898hSMALL HIGH WORD AL-JUZ,nLOW WORD ISHMAAM,xMAALA",
  "wTASHEEL,hMADDA WAAJIB,hSUPERSCRIPT ALEF MOKHASSAS,hDOUBLED MADDA,hHALF MADDA OVER MADDA",
  "hLETTER BEH WITH SMALL V BELOW,xHAMZA ABOVE,oJEEM WITH TWO DOTS ABOVE,oTAH WITH TWO DOTS ABOVE",
  "oFEH WITH DOT BELOW AND THREE DOTS ABOVE,oQAF WITH DOT BELOW,oLAM WITH DOUBLE BAR",
  "oMEEM WITH THREE DOTS ABOVE,oYEH WITH TWO DOTS BELOW AND HAMZA ABOVE,bqDOT ABOVE,oREH WITH LOOP",
  "oWAW WITH DOT WITHIN,oROHINGYA YEH,oLOW ALEF,oDAL WITH THREE DOTS BELOW",
  "oSAD WITH THREE DOTS BELOW,oGAF WITH INVERTED STROKE,oSTRAIGHT WAW,oZAIN WITH INVERTED V ABOVE",
  "oAIN WITH THREE DOTS BELOW,oKAF WITH DOT BELOW,oQAF WITH DOT BELOW AND NO DOTS ABOVE",
  "oBEH WITH SMALL MEEM ABOVE,oPEH WITH SMALL MEEM ABOVE,oTEH WITH SMALL TEH ABOVE",
  "oREH WITH SMALL NOON ABOVE,oYEH WITH TWO DOTS BELOW AND SMALL NOON ABOVE,oAFRICAN FEH,wQAF",
  "wNOON,oPEH WITH SMALL V,oTEH WITH SMALL V,pTEH WITH SMALL V,pCHEH WITH SMALL V",
  "oKEHEH WITH SMALL V,oGHAIN WITH THREE DOTS ABOVE,oAFRICAN QAF WITH THREE DOTS ABOVE",
  "oJEEM WITH THREE DOTS ABOVE,bjBELOW,oLAM WITH SMALL ARABIC LETTER TAH ABOVE,oGRAF",
  "hSMALL FARSI YEH,nHIGH FARSI YEH,sYEH BARREE WITH TWO DOTS BELOW,sWORD SAH,sZAH",
  "hLARGE ROUND DOT ABOVE,xBELOW,hSUKUN BELOW,hLARGE CIRCLE BELOW,nROUND DOT INSIDE CIRCLE BELOW",
  "hSMALL LOW WAW,nHIGH WORD AR-RUB,sSAD,sAIN,sQAF,sNOON WITH KASRA,nLOW NOON WITH KASRA",
  "nHIGH WORD ATH-THALATHA,yS-SAJDA,yN-NISF,xSAKTA,xQIF,xWAQFA,sFOOTNOTE MARKER,sSIGN SAFHA",
  "hDISPUTED END OF AYAH,hTURNED DAMMA BELOW,hCURLY FATHA,nDAMMA,nKASRA,nFATHATAN,nDAMMATAN",
  "nKASRATAN,hTONE ONE DOT ABOVE,mTWO DOTS ABOVE,mLOOP ABOVE,mONE DOT BELOW,mTWO DOTS BELOW",
  "mLOOP BELOW,hOPEN FATHATAN,mDAMMATAN,mKASRATAN,hSMALL HIGH WAW,hFATHA WITH RING,sDOT ABOVE",
  "hKASRA WITH DOT BELOW,hLEFT ARROWHEAD ABOVE,hRIGHT ARROWHEAD ABOVE,hLEFT ARROWHEAD BELOW",
  "hRIGHT ARROWHEAD BELOW,hDOUBLE RIGHT ARROWHEAD ABOVE,bj WITH DOT",
  "hRIGHT ARROWHEAD ABOVE WITH DOT,hDAMMA WITH DOT,hMARK SIDEWAYS NOON GHUNNA",
  "aDEVANAGARI SIGN INVERTED CANDRABINDU,qCANDRABINDU,qANUSVARA,qVISARGA,lLETTER SHORT A,sA,tA,sI",
  "tI,sU,tU,sVOCALIC R,baL,sCANDRA E,sSHORT E,sE,sAI,sCANDRA O,sSHORT O,sO,sAU,sKA,tHA,sGA,tHA",
  "sNGA,sCA,tHA,sJA,tHA,sNYA,sTTA,uHA,sDDA,uHA,sNNA,sTA,tHA,sDA,tHA,sNA,tNNA,sPA,tHA,sBA,tHA,sMA",
  "sYA,sRA,tRA,sLA,tLA,uLA,sVA,sSHA,tSA,tA,sHA,lVOWEL SIGN OE,xOE,lSIGN NUKTA,qAVAGRAHA",
  "lVOWEL SIGN AA,wI,xI,wU,xU,wVOCALIC R,bfR,wCANDRA E,wSHORT E,wE,wAI,wCANDRA O,wSHORT O,wO,wAU",
  "lSIGN VIRAMA,lVOWEL SIGN PRISHTHAMATRA E,wAW,lOM,lSTRESS SIGN UDATTA,xANUDATTA,lGRAVE ACCENT",
  "lACUTE ACCENT,lVOWEL SIGN CANDRA LONG E,wUE,xUE,lLETTER QA,sKHHA,sGHHA,sZA,sDDDHA,sRHA,sFA,sYYA",
  "sVOCALIC RR,baLL,lVOWEL SIGN VOCALIC L,bfL,lDANDA,mOUBLE DANDA,mIGIT ZERO,rONE,rTWO,sHREE,rFOUR",
  "sIVE,rSIX,sEVEN,rEIGHT,rNINE,lABBREVIATION SIGN,lSIGN HIGH SPACING DOT,lLETTER CANDRA A,sOE,tOE",
  "sAW,sUE,tUE,sMARWARI DDA,sZHA,sHEAVY YA,sGGA,sJJA,sGLOTTAL STOP,sDDDA,sBBA,aBENGALI ANJI",
  "iSIGN CANDRABINDU,nANUSVARA,nVISARGA,985iLETTER A,qA,pI,qI,pU,qU,pVOCALIC R,xL,98FpE,pAI,993pO",
  "pAU,pKA,qHA,pGA,qHA,pNGA,pCA,qHA,pJA,qHA,pNYA,pTTA,rHA,pDDA,rHA,pNNA,pTA,qHA,pDA,qHA,pNA,9AApPA",
  "qHA,pBA,qHA,pMA,pYA,pRA,9B2pLA,9B6pSHA,qSA,qA,pHA,9BCiSIGN NUKTA,nAVAGRAHA,iVOWEL SIGN AA,tI,uI",
  "tU,uU,tVOCALIC R,bcR,9C7tE,tAI,9CBtO,tAU,iSIGN VIRAMA,iLETTER KHANDA TA,9D7iAU LENGTH MARK",
  "9DCiLETTER RRA,qHA,9DFpYYA,pVOCALIC RR,xLL,iVOWEL SIGN VOCALIC L,bcL,9E6iDIGIT ZERO,oONE,oTWO",
  "pHREE,oFOUR,pIVE,oSIX,pEVEN,oEIGHT,oNINE,iLETTER RA WITH MIDDLE DIAGONAL,xLOWER DIAGONAL",
  "iRUPEE MARK,oSIGN,iCURRENCY NUMERATOR ONE,bbTWO,bcHREE,bbFOUR,bbONE LESS THAN THE DENOMINATOR",
  "rDENOMINATOR SIXTEEN,iISSHAR,iGANDA MARK,iLETTER VEDIC ANUSVARA,iABBREVIATION SIGN,iSANDHI MARK",
  "A01aGURMUKHI SIGN ADAK BINDI,oBINDI,oVISARGA,A05jLETTER A,rA,qI,rI,qU,rU,A0FqEE,qAI,A13qOO,qAU",
  "qKA,rHA,qGA,rHA,qNGA,qCA,rHA,qJA,rHA,qNYA,qTTA,sHA,qDDA,sHA,qNNA,qTA,rHA,qDA,rHA,qNA,A2AqPA,rHA",
  "qBA,rHA,qMA,qYA,qRA,A32qLA,rLA,A35qVA,qSHA,A38rA,qHA,A3CjSIGN NUKTA,A3EjVOWEL SIGN AA,uI,vI,uU",
  "vU,A47uEE,uAI,A4BuOO,uAU,jSIGN VIRAMA,A51oUDAAT,A59jLETTER KHHA,qGHHA,qZA,qRRA,A5EqFA",
  "A66jDIGIT ZERO,pONE,pTWO,qHREE,pFOUR,qIVE,pSIX,qEVEN,pEIGHT,pNINE,jTIPPI,jADDAK,jIRI,jURA",
  "jEK ONKAR,jSIGN YAKASH,jABBREVIATION SIGN,A81cJARATI SIGN CANDRABINDU,oANUSVARA,oVISARGA",
  "A85jLETTER A,rA,qI,rI,qU,rU,qVOCALIC R,yL,jVOWEL CANDRA E,A8FjLETTER E,qAI,jVOWEL CANDRA O",
  "A93jLETTER O,qAU,qKA,rHA,qGA,rHA,qNGA,qCA,rHA,qJA,rHA,qNYA,qTTA,sHA,qDDA,sHA,qNNA,qTA,rHA,qDA",
  "rHA,qNA,AAAqPA,rHA,qBA,rHA,qMA,qYA,qRA,AB2qLA,rLA,AB5qVA,qSHA,rSA,rA,qHA,ABCjSIGN NUKTA",
  "oAVAGRAHA,jVOWEL SIGN AA,uI,vI,uU,vU,uVOCALIC R,bdR,uCANDRA E,AC7uE,uAI,uCANDRA O,ACBuO,uAU",
  "jSIGN VIRAMA,AD0jOM,AE0jLETTER VOCALIC RR,yLL,jVOWEL SIGN VOCALIC L,bdL,AE6jDIGIT ZERO,pONE",
  "pTWO,qHREE,pFOUR,qIVE,pSIX,qEVEN,pEIGHT,pNINE,jABBREVIATION SIGN,jRUPEE SIGN,AF9jLETTER ZHA",
  "jSIGN SUKUN,pHADDA,oMADDAH,oTHREE-DOT NUKTA ABOVE,oCIRCLE NUKTA ABOVE,oTWO-CIRCLE NUKTA ABOVE",
  "B01aORIYA SIGN CANDRABINDU,lANUSVARA,lVISARGA,B05gLETTER A,oA,nI,oI,nU,oU,nVOCALIC R,vL,B0FnE",
  "nAI,B13nO,nAU,nKA,oHA,nGA,oHA,nNGA,nCA,oHA,nJA,oHA,nNYA,nTTA,pHA,nDDA,pHA,nNNA,nTA,oHA,nDA,oHA",
  "nNA,B2AnPA,oHA,nBA,oHA,nMA,nYA,nRA,B32nLA,oLA,B35nVA,nSHA,oSA,oA,nHA,B3CgSIGN NUKTA,lAVAGRAHA",
  "gVOWEL SIGN AA,rI,sI,rU,sU,rVOCALIC R,baR,B47rE,rAI,B4BrO,rAU,gSIGN VIRAMA,B55lOVERLINE",
  "gAI LENGTH MARK,hU LENGTH MARK,B5CgLETTER RRA,oHA,B5FnYYA,nVOCALIC RR,vLL,gVOWEL SIGN VOCALIC L",
  "baL,B66gDIGIT ZERO,mONE,mTWO,nHREE,mFOUR,nIVE,mSIX,nEVEN,mEIGHT,mNINE,gISSHAR,gLETTER WA",
  "gFRACTION ONE QUARTER,tHALF,pTHREE QUARTERS,pONE SIXTEENTH,tEIGHTH,pTHREE SIXTEENTHS",
  "B82aTAMIL SIGN ANUSVARA,lVISARGA,B85gLETTER A,oA,nI,oI,nU,oU,B8EnE,oE,nAI,B92nO,oO,nAU,nKA",
  "B99nNGA,nCA,B9CnJA,B9EnNYA,nTTA,BA3nNNA,nTA,BA8nNA,oNNA,nPA,BAEnMA,nYA,nRA,oRA,nLA,oLA,pLA,nVA",
  "nSHA,oSA,oA,nHA,BBEgVOWEL SIGN AA,rI,sI,rU,sU,BC6rE,sE,rAI,BCArO,sO,rAU,gSIGN VIRAMA,BD0gOM",
  "BD7gAU LENGTH MARK,BE6gDIGIT ZERO,mONE,mTWO,nHREE,mFOUR,nIVE,mSIX,nEVEN,mEIGHT,mNINE",
  "gNUMBER TEN,nONE HUNDRED,rTHOUSAND,gDAY SIGN,gMONTH SIGN,gYEAR SIGN,gDEBIT SIGN,gCREDIT SIGN",
  "gAS ABOVE SIGN,gRUPEE SIGN,gNUMBER SIGN,C00bELUGU SIGN COMBINING CANDRABINDU ABOVE,nANDRABINDU",
  "mANUSVARA,mVISARGA,mCOMBINING ANUSVARA ABOVE,hLETTER A,pA,oI,pI,oU,pU,oVOCALIC R,wL,C0EoE,pE",
  "oAI,C12oO,pO,oAU,oKA,pHA,oGA,pHA,oNGA,oCA,pHA,oJA,pHA,oNYA,oTTA,qHA,oDDA,qHA,oNNA,oTA,pHA,oDA",
  "pHA,oNA,C2AoPA,pHA,oBA,pHA,oMA,oYA,oRA,pRA,oLA,pLA,qLA,oVA,oSHA,pSA,pA,oHA,C3ChSIGN NUKTA",
  "mAVAGRAHA,hVOWEL SIGN AA,sI,tI,sU,tU,sVOCALIC R,bbR,C46sE,tE,sAI,C4AsO,tO,sAU,hSIGN VIRAMA",
  "C55hLENGTH MARK,hAI LENGTH MARK,C58hLETTER TSA,oDZA,oRRRA,C5DoNAKAARA POLLU,C60oVOCALIC RR,wLL",
  "hVOWEL SIGN VOCALIC L,bbL,C66hDIGIT ZERO,nONE,nTWO,oHREE,nFOUR,oIVE,nSIX,oEVEN,nEIGHT,nNINE",
  "C77hSIGN SIDDHAM,hFRACTION DIGIT ZERO FOR ODD POWERS OF FOUR,wONE FOR ODD POWERS OF FOUR",
  "wTWO FOR ODD POWERS OF FOUR,xHREE FOR ODD POWERS OF FOUR,wONE FOR EVEN POWERS OF FOUR",
  "wTWO FOR EVEN POWERS OF FOUR,xHREE FOR EVEN POWERS OF FOUR,hSIGN TUUMU",
  "aKANNADA SIGN SPACING CANDRABINDU,nCANDRABINDU,nANUSVARA,nVISARGA,nSIDDHAM,iLETTER A,qA,pI,qI",
  "pU,qU,pVOCALIC R,xL,C8EpE,qE,pAI,C92pO,qO,pAU,pKA,qHA,pGA,qHA,pNGA,pCA,qHA,pJA,qHA,pNYA,pTTA",
  "rHA,pDDA,rHA,pNNA,pTA,qHA,pDA,qHA,pNA,CAApPA,qHA,pBA,qHA,pMA,pYA,pRA,qRA,pLA,qLA,CB5pVA,pSHA",
  "qSA,qA,pHA,CBCiSIGN NUKTA,nAVAGRAHA,iVOWEL SIGN AA,tI,uI,tU,uU,tVOCALIC R,bcR,CC6tE,uE,tAI",
  "CCAtO,uO,tAU,iSIGN VIRAMA,CD5iLENGTH MARK,iAI LENGTH MARK,CDDiLETTER NAKAARA POLLU,pFA",
  "CE0pVOCALIC RR,xLL,iVOWEL SIGN VOCALIC L,bcL,CE6iDIGIT ZERO,oONE,oTWO,pHREE,oFOUR,pIVE,oSIX",
  "pEVEN,oEIGHT,oNINE,CF1iSIGN JIHVAMULIYA,nUPADHMANIYA",
  "D00aMALAYALAM SIGN COMBINING ANUSVARA ABOVE,qANDRABINDU,pANUSVARA,pVISARGA",
  "kLETTER VEDIC ANUSVARA,rA,sA,rI,sI,rU,sU,rVOCALIC R,zL,D0ErE,sE,rAI,D12rO,sO,rAU,rKA,sHA,rGA",
  "sHA,rNGA,rCA,sHA,rJA,sHA,rNYA,rTTA,tHA,rDDA,tHA,rNNA,rTA,sHA,rDA,sHA,rNA,sNNA,rPA,sHA,rBA,sHA",
  "rMA,rYA,rRA,sRA,rLA,sLA,tLA,rVA,rSHA,sSA,sA,rHA,rTTTA,kSIGN VERTICAL BAR VIRAMA",
  "pCIRCULAR VIRAMA,pAVAGRAHA,kVOWEL SIGN AA,vI,wI,vU,wU,vVOCALIC R,beR,D46vE,wE,vAI,D4AvO,wO,vAU",
  "kSIGN VIRAMA,kLETTER DOT REPH,kSIGN PARA,D54kLETTER CHILLU M,yY,yLLL,kAU LENGTH MARK",
  "kFRACTION ONE ONE-HUNDRED-AND-SIXTIETH,xFORTIETH,tTHREE EIGHTIETHS,tONE TWENTIETH,yENTH",
  "tTHREE TWENTIETHS,tONE FIFTH,kLETTER ARCHAIC II,rVOCALIC RR,zLL,kVOWEL SIGN VOCALIC L,beL",
  "D66kDIGIT ZERO,qONE,qTWO,rHREE,qFOUR,rIVE,qSIX,rEVEN,qEIGHT,qNINE,kNUMBER TEN,rONE HUNDRED",
  "vTHOUSAND,kFRACTION ONE QUARTER,xHALF,tTHREE QUARTERS,tONE SIXTEENTH,xEIGHTH,tTHREE SIXTEENTHS",
  "kDATE MARK,kLETTER CHILLU NN,z,yRR,yL,zL,yK,D81aSINHALA SIGN CANDRABINDU,nANUSVARAYA,nVISARGAYA",
  "D85iLETTER AYANNA,qAYANNA,qEYANNA,rEYANNA,pIYANNA,qIYANNA,pUYANNA,qUYANNA,pIRUYANNA,sUYANNA",
  "qLUYANNA,sUYANNA,pEYANNA,qEYANNA,pAIYANNA,pOYANNA,qOYANNA,pAUYANNA,D9AqLPAPRAANA KAYANNA",
  "pMAHAAPRAANA KAYANNA,pALPAPRAANA GAYANNA,pMAHAAPRAANA GAYANNA,pKANTAJA NAASIKYAYA",
  "pSANYAKA GAYANNA,pALPAPRAANA CAYANNA,pMAHAAPRAANA CAYANNA,pALPAPRAANA JAYANNA",
  "pMAHAAPRAANA JAYANNA,pTAALUJA NAASIKYAYA,xSANYOOGA NAAKSIKYAYA,pSANYAKA JAYANNA",
  "pALPAPRAANA TTAYANNA,pMAHAAPRAANA TTAYANNA,pALPAPRAANA DDAYANNA,pMAHAAPRAANA DDAYANNA",
  "qUURDHAJA NAYANNA,pSANYAKA DDAYANNA,pALPAPRAANA TAYANNA,pMAHAAPRAANA TAYANNA",
  "pALPAPRAANA DAYANNA,pMAHAAPRAANA DAYANNA,pDANTAJA NAYANNA,DB3pSANYAKA DAYANNA",
  "pALPAPRAANA PAYANNA,pMAHAAPRAANA PAYANNA,pALPAPRAANA BAYANNA,pMAHAAPRAANA BAYANNA,rYANNA",
  "pAMBA BAYANNA,pYAYANNA,pRAYANNA,DBDpDANTAJA LAYANNA,DC0pVAYANNA,pTAALUJA SAYANNA",
  "pMUURDHAJA SAYANNA,pDANTAJA SAYANNA,pHAYANNA,pMUURDHAJA LAYANNA,pFAYANNA,DCAiSIGN AL-LAKUNA",
  "DCFiVOWEL SIGN AELA-PILLA,tKETTI AEDA-PILLA,tDIGA AEDA-PILLA,tKETTI IS-PILLA,tDIGA IS-PILLA",
  "tKETTI PAA-PILLA,DD6tDIGA PAA-PILLA,DD8tGAETTA-PILLA,tKOMBUVA,tDIGA KOMBUVA,tKOMBU DEKA",
  "yVA HAA AELA-PILLA,bfDIGA AELA-PILLA,bfGAYANUKITTA,tGAYANUKITTA,DE6iLITH DIGIT ZERO,tONE,tTWO",
  "uHREE,tFOUR,uIVE,tSIX,uEVEN,tEIGHT,tNINE,DF2iVOWEL SIGN DIGA GAETTA-PILLA,baYANUKITTA",
  "iPUNCTUATION KUNDDALIYA,E01aTHAI CHARACTER KO KAI,qHO KHAI,vUAT,vWAI,vON,tRAKHANG,pNGO NGU",
  "pCHO CHAN,vING,vANG,pSO SO,pCHO CHOE,pYO YING,pDO CHADA,pTO PATAK,qHO THAN,tNANGMONTHO,tPHUTHAO",
  "pNO NEN,pDO DEK,pTO TAO,qHO THUNG,vAHAN,vONG,pNO NU,pBO BAIMAI,pPO PLA,qHO PHUNG,pFO FA",
  "pPHO PHAN,pFO FAN,pPHO SAMPHAO,pMO MA,pYO YAK,pRO RUA,qU,pLO LING,qU,pWO WAEN,pSO SALA,sRUSI",
  "sSUA,pHO HIP,pLO CHULA,pO ANG,pHO NOKHUK,pPAIYANNOI,pSARA A,pMAI HAN-AKAT,pSARA AA,vM,uI,vI,uUE",
  "wE,v,vU,pPHINTHU,E3FgURRENCY SYMBOL BAHT,gHARACTER SARA E,uAE,uO,uAI MAIMUAN,bbALAI",
  "pLAKKHANGYAO,pMAIYAMOK,sTAIKHU,s EK,tTHO,uRI,tCHATTAWA,pTHANTHAKHAT,pNIKHAHIT,pYAMAKKAN",
  "pFONGMAN,fDIGIT ZERO,lONE,lTWO,mHREE,lFOUR,mIVE,lSIX,mEVEN,lEIGHT,lNINE,fCHARACTER ANGKHANKHU",
  "pKHOMUT,E81aLAO LETTER KO,mHO SUNG,E84pTAM,E86lPALI GHA,lNGO,lCO,lPALI CHA,lSO TAM,E8ClPALI JHA",
  "lNYO,lPALI NYA,qTTA,sHA,qDDA,sHA,qNNA,lDO,lTO,mHO SUNG,pTAM,lPALI DHA,lNO,lBO,lPO,mHO SUNG",
  "lFO TAM,lPHO TAM,lFO SUNG,lPALI BHA,lMO,lYO,lLO LING,EA5pOOT,EA7lWO,lSANSKRIT SHA,vSA,mO SUNG",
  "lHO SUNG,lPALI LLA,lO,lHO TAM,eELLIPSIS,eVOWEL SIGN A,pMAI KAN,pAA,qM,pI,qI,pY,qY,pU,qU",
  "eSIGN PALI VIRAMA,eVOWEL SIGN MAI KON,eSEMIVOWEL SIGN LO,tNYO,EC0eVOWEL SIGN E,qI,pO,pAY,qI",
  "EC6eKO LA,EC8eTONE MAI EK,nTHO,oI,nCATAWA,eCANCELLATION MARK,eNIGGAHITA,ED0eDIGIT ZERO,kONE",
  "kTWO,lHREE,kFOUR,lIVE,kSIX,lEVEN,kEIGHT,kNINE,EDCeHO NO,hMO,eLETTER KHMU GO,qNYO",
  "F00aTIBETAN SYLLABLE OM,iMARK GTER YIG MGO TRUNCATED A,ba-UM RNAM BCAD MA,beGTER TSHEG MA",
  "nINITIAL YIG MGO MDUN MA,nCLOSING YIG MGO SGAB MA,oARET YIG MGO PHUR SHAD MA",
  "nYIG MGO TSHEG SHAD MA,nSBRUL SHAD,nBSKUR YIG MGO,oKA- SHOG YIG MGO,nINTERSYLLABIC TSHEG",
  "nDELIMITER TSHEG BSTAR,nSHAD,nNYIS SHAD,nTSHEG SHAD,nNYIS TSHEG SHAD,nRIN CHEN SPUNGS SHAD",
  "oGYA GRAM SHAD,nCARET -DZUD RTAGS ME LONG CAN,nGTER TSHEG,iLOGOTYPE SIGN CHAD RTAGS,wLHAG RTAGS",
  "iASTROLOGICAL SIGN SGRA GCAN -CHAR RTAGS,ba-KHYUD PA,baSDONG TSHUGS,iSIGN RDEL DKAR GCIG,yNYIS",
  "ySUM,sNAG GCIG,xNYIS,sDKAR RDEL NAG,iDIGIT ZERO,oONE,oTWO,pHREE,oFOUR,pIVE,oSIX,pEVEN,oEIGHT",
  "oNINE,oHALF ONE,tTWO,uHREE,tFOUR,uIVE,tSIX,uEVEN,tEIGHT,tNINE,tZERO,iMARK BSDUS RTAGS",
  "nNGAS BZUNG NYI ZLA,nCARET -DZUD RTAGS BZHI MIG CAN,nNGAS BZUNG SGOR RTAGS,nCHE MGO,nTSA -PHRU",
  "nGUG RTAGS GYON,zAS,nANG KHANG GYON,zAS,iSIGN YAR TSHES,nMAR TSHES,iLETTER KA,qHA,pGA,qHA,pNGA",
  "pCA,qHA,pJA,F49pNYA,pTTA,rHA,pDDA,rHA,pNNA,pTA,qHA,pDA,qHA,pNA,pPA,qHA,pBA,qHA,pMA,pTSA,rHA",
  "pDZA,rHA,pWA,pZHA,qA,p-A,pYA,pRA,pLA,pSHA,qSA,qA,pHA,pA,pKSSA,pFIXED-FORM RA,pKKA,pRRA",
  "F71iVOWEL SIGN AA,tI,uI,tU,uU,tVOCALIC R,bcR,bbL,bcL,tE,uE,tO,uO,iSIGN RJES SU NGA RO,oNAM BCAD",
  "iVOWEL SIGN REVERSED I,bdI,iSIGN NYI ZLA NAA DA,nSNA LDAN,iMARK HALANTA,nPALUTA,iSIGN LCI RTAGS",
  "nYANG RTAGS,nLCE TSA CAN,nMCHU CAN,nGRU CAN RGYINGS,rMED RGYINGS,nINVERTED MCHU CAN",
  "jUBJOINED SIGN LCE TSA CAN,xMCHU CAN,xINVERTED MCHU CAN,sLETTER KA,baHA,zGA,baHA,zNGA,zCA,baHA",
  "zJA,F99zNYA,zTTA,bbHA,zDDA,bbHA,zNNA,zTA,baHA,zDA,baHA,zNA,zPA,baHA,zBA,baHA,zMA,zTSA,bbHA,zDZA",
  "bbHA,zWA,zZHA,baA,z-A,zYA,zRA,zLA,zSHA,baSA,baA,zHA,zA,zKSSA,zFIXED-FORM WA,bkYA,bkRA",
  "FBEiKU RU KHA,r BZHI MIG CAN,iCANTILLATION SIGN HEAVY BEAT,baLIGHT BEAT,baCANG TE-U",
  "baSBUB -CHAL,iSYMBOL DRIL BU,pRDO RJE,pPADMA GDAN,pRDO RJE RGYA GRAM,pPHUR PA,pNOR BU",
  "v NYIS -KHYIL,wGSUM -KHYIL,wBZHI -KHYIL,FCEjIGN RDEL NAG RDEL DKAR,wGSUM",
  "iMARK BSKA- SHOG GI MGO RGYAN,nMNYAM YIG GI MGO RGYAN,nNYIS TSHEG",
  "nINITIAL BRDA RNYING YIG MGO MDUN MA,nCLOSING BRDA RNYING YIG MGO SGAB MA",
  "aRIGHT-FACING SVASTI SIGN,aLEFT-FACING SVASTI SIGN,aRIGHT-FACING SVASTI SIGN WITH DOTS",
  "aLEFT-FACING SVASTI SIGN WITH DOTS,aTIBETAN MARK LEADING MCHAN RTAGS,nTRAILING MCHAN RTAGS",
  "1000aMYANMAR LETTER KA,qHA,pGA,qHA,pNGA,pCA,qHA,pJA,qHA,pNYA,qNYA,pTTA,rHA,pDDA,rHA,pNNA,pTA",
  "qHA,pDA,qHA,pNA,pPA,qHA,pBA,qHA,pMA,pYA,pRA,pLA,pWA,pSA,pHA,pLLA,pA,pSHAN A,pI,qI,pU,qU,pE",
  "pMON E,pO,pAU,iVOWEL SIGN TALL AA,tAA,tI,uI,tU,uU,tE,tAI,tMON II,xO,tE ABOVE,iSIGN ANUSVARA",
  "nDOT BELOW,nVISARGA,pRAMA,nASAT,iCONSONANT SIGN MEDIAL YA,beRA,beWA,beHA,iLETTER GREAT SA",
  "iDIGIT ZERO,oONE,oTWO,pHREE,oFOUR,pIVE,oSIX,pEVEN,oEIGHT,oNINE,iSIGN LITTLE SECTION,nSECTION",
  "jYMBOL LOCATIVE,pCOMPLETED,pAFOREMENTIONED,pGENITIVE,iLETTER SHA,qSA,pVOCALIC R,yR,xL,yL",
  "iVOWEL SIGN VOCALIC R,bcR,bbL,bcL,iLETTER MON NGA,tJHA,tBBA,vE,iCONSONANT SIGN MON MEDIAL NA",
  "biMA,biLA,iLETTER SGAW KAREN SHA,iVOWEL SIGN SGAW KAREN EU,iTONE MARK SGAW KAREN HATHI,bdKE PHO",
  "iLETTER WESTERN PWO KAREN THA,bhPWA,iVOWEL SIGN WESTERN PWO KAREN EU,blUE",
  "iSIGN WESTERN PWO KAREN TONE-1,bk2,bk3,bk4,bk5,iLETTER EASTERN PWO KAREN NNA,bhYWA,bhGHWA",
  "iVOWEL SIGN GEBA KAREN I,tKAYAH OE,zU,zEE,iLETTER SHAN KA,vHA,uGA,uCA,uZA,uNYA,uDA,uNA,uPHA,uFA",
  "uBA,uTHA,uHA,iCONSONANT SIGN SHAN MEDIAL WA,iVOWEL SIGN SHAN AA,yE,z ABOVE,yFINAL Y",
  "iSIGN SHAN TONE-2,x3,x5,x6,sCOUNCIL TONE-2,bf3,baEMPHATIC TONE,iLETTER RUMAI PALAUNG FA",
  "iSIGN RUMAI PALAUNG TONE-5,jHAN DIGIT ZERO,tONE,tTWO,uHREE,tFOUR,uIVE,tSIX,uEVEN,tEIGHT,tNINE",
  "jIGN KHAMTI TONE-1,z3,iVOWEL SIGN AITON A,baI,iSYMBOL SHAN ONE,uEXCLAMATION",
  "aGEORGIAN CAPITAL LETTER AN,yBAN,yGAN,yDON,yEN,yVIN,yZEN,yTAN,yIN,yKAN,yLAS,yMAN,yNAR,yON,yPAR",
  "yZHAR,yRAE,ySAN,yTAR,yUN,yPHAR,yKHAR,yGHAN,yQAR,ySHIN,yCHIN,zAN,yJIL,yCIL,zHAR,yXAN,yJHAN,yHAE",
  "zE,zIE,yWE,yHAR,zOE,10C7yYN,10CDyAEN,10D0jLETTER AN,qBAN,qGAN,qDON,qEN,qVIN,qZEN,qTAN,qIN,qKAN",
  "qLAS,qMAN,qNAR,qON,qPAR,qZHAR,qRAE,qSAN,qTAR,qUN,qPHAR,qKHAR,qGHAN,qQAR,qSHIN,qCHIN,rAN,qJIL",
  "qCIL,rHAR,qXAN,qJHAN,qHAE,rE,rIE,qWE,qHAR,rOE,qFI,qYN,qELIFI,qTURNED GAN,qAIN",
  "jPARAGRAPH SEPARATOR,aMODIFIER LETTER GEORGIAN NAR,aGEORGIAN LETTER AEN,qHARD SIGN,qLABIAL SIGN"]

end Docblock.Text.Names
