/-!
# Names of characters, 1B000 to 1D7FF

The packed names of the characters from 1B000 to 1D7FF: old kana, shorthand, music and
mathematics.
-/

namespace Docblock.Text.Names

/-- Packed names, in the order of their characters. -/
def notations : List String := [
  "1B000aKATAKANA LETTER ARCHAIC E,aHIRAGANA LETTER ARCHAIC YE,bENTAIGANA LETTER A-1,u2,u3,uWO",
  "sI-1,u2,u3,u4,sU-1,u2,u3,u4,u5,sE-2,u3,u4,u5,u6,sO-1,u2,u3,sKA-1,v2,v3,v4,v5,v6,v7,v8,v9,v10,w1",
  "vKE,tI-1,v2,v3,v4,v5,v6,v7,v8,tU-1,v2,v3,v4,v5,v6,v7,tE-1,v2,v3,v4,v5,v6,tO-1,v2,v3,vKI,sSA-1",
  "v2,v3,v4,v5,v6,v7,v8,tI-1,v2,v3,v4,v5,v6,tU-1,v2,v3,v4,v5,v6,v7,v8,tE-1,v2,v3,v4,v5,tO-1,v2,v3",
  "v4,v5,v6,v7,sTA-1,v2,v3,v4,tI-1,v2,v3,v4,v5,v6,v7,tU-1,v2,v3,v4,vTO,tE-1,v2,v3,v4,v5,v6,v7,v8",
  "v9,tO-1,v2,v3,v4,v5,v6,vRA,sNA-1,v2,v3,v4,v5,v6,v7,v8,v9,tI-1,v2,v3,v4,v5,v6,v7,vTE,tU-1,v2,v3",
  "tE-1,v2,v3,v4,v5,v6,vKO,tO-1,v2,v3,v4,v5,sHA-1,v2,v3,v4,v5,v6,v7,v8,v9,v10,w1,tI-1,v2,v3,v4,v5",
  "v6,v7,tU-1,v2,v3,tE-1,v2,v3,v4,v5,v6,v7,tO-1,v2,v3,v4,v5,v6,v7,v8,sMA-1,v2,v3,v4,v5,v6,v7,tI-1",
  "v2,v3,v4,v5,v6,v7,tU-1,v2,v3,v4,tE-1,v2,vMA,tO-1,v2,v3,v4,v5,v6,sYA-1,v2,v3,v4,v5,vYO,tU-1,v2",
  "v3,v4,tO-1,v2,v3,v4,v5,v6,sRA-1,v2,v3,v4,tI-1,v2,v3,v4,v5,v6,v7,tU-1,v2,v3,v4,v5,v6,tE-1,v2,v3",
  "v4,tO-1,v2,v3,v4,v5,v6,sWA-1,v2,v3,v4,v5,tI-1,v2,v3,v4,v5,tE-1,v2,v3,v4,tO-1,v2,v3,v4,v5,v6,v7",
  "sN-MU-MO-1,ba2,bIRAGANA LETTER ARCHAIC WU,aKATAKANA LETTER ARCHAIC YI,zE,yWU",
  "1B150aHIRAGANA LETTER SMALL WI,xE,xO,1B164aKATAKANA LETTER SMALL WI,xE,xO,wN",
  "1BC00aDUPLOYAN LETTER H,qX,qP,qT,qF,qK,qL,qB,qD,qV,qG,qR,qP N,qD S,qF N,qK M,qR S,qTH,qSLOAN DH",
  "qDH,qKK,qSLOAN J,qHL,qLH,qRH,qM,qN,qJ,qS,qM N,qN M,qJ M,qS J,qM WITH DOT,qN WITH DOT",
  "qJ WITH DOT,baS INSIDE AND ABOVE,qS WITH DOT,ba BELOW,qM S,qN S,qJ S,qS S,qM N S,qN M S,qJ M S",
  "qS J S,qJ S WITH DOT,sN,t S,qS T,t R,sP,t R,qT S,sR S,qW,rH,r R,qS N,sM,qK R S,qG R S,qS K,t R",
  "qA,qSLOAN OW,qOA,r,qAOU,qI,qE,qIE,qSHORT I,qUI,qEE,qSLOAN EH,qROMANIAN I,qSLOAN EE,qLONG I,qYE",
  "qU,qEU,qXW,qU N,qLONG U,qROMANIAN U,qUH,qSLOAN U,qOOH,rW,rU,qWA,rO,rI,rEI,rOW,qNASAL U,wO,wI,wA",
  "qPERNIN AN,yM,qSLOAN EN,wAN,wON,qVOCALIC M,1BC70jAFFIX LEFT HORIZONTAL SECANT",
  "pMID HORIZONTAL SECANT,pRIGHT HORIZONTAL SECANT,pLOW VERTICAL SECANT,pMID VERTICAL SECANT",
  "pHIGH VERTICAL SECANT,pATTACHED SECANT,yLEFT-TO-RIGHT SECANT,yTANGENT,baIL,yE HOOK,yI HOOK",
  "yTANGENT HOOK,1BC80pHIGH ACUTE,uTIGHT ACUTE,uGRAVE,uLONG GRAVE,uDOT,uCIRCLE,uLINE,uWAVE",
  "uVERTICAL,1BC90pLOW ACUTE,tTIGHT ACUTE,tGRAVE,tLONG GRAVE,tDOT,tCIRCLE,tLINE,tWAVE,tVERTICAL",
  "tARROW,1BC9CjSIGN O WITH CROSS,jTHICK LETTER SELECTOR,jDOUBLE MARK",
  "jPUNCTUATION CHINOOK FULL STOP,aSHORTHAND FORMAT LETTER OVERLAP,rCONTINUING OVERLAP,rDOWN STEP",
  "rUP STEP,1CF00aZNAMENNY COMBINING MARK GORAZDO NIZKO S KRYZHEM ON LEFT,yNIZKO S KRYZHEM ON LEFT",
  "yTSATA ON LEFT,yGORAZDO NIZKO ON LEFT,yNIZKO ON LEFT,ySREDNE ON LEFT,yMALO POVYSHE ON LEFT",
  "yPOVYSHE ON LEFT,yVYSOKO ON LEFT,yMALO POVYSHE S KHOKHLOM ON LEFT,yPOVYSHE S KHOKHLOM ON LEFT",
  "yVYSOKO S KHOKHLOM ON LEFT,yGORAZDO NIZKO S KRYZHEM ON RIGHT,yNIZKO S KRYZHEM ON RIGHT",
  "yTSATA ON RIGHT,yGORAZDO NIZKO ON RIGHT,yNIZKO ON RIGHT,ySREDNE ON RIGHT,yMALO POVYSHE ON RIGHT",
  "yPOVYSHE ON RIGHT,yVYSOKO ON RIGHT,yMALO POVYSHE S KHOKHLOM ON RIGHT",
  "yPOVYSHE S KHOKHLOM ON RIGHT,yVYSOKO S KHOKHLOM ON RIGHT,yTSATA S KRYZHEM",
  "yMALO POVYSHE S KRYZHEM,ySTRANNO MALO POVYSHE,yPOVYSHE S KRYZHEM,bhTRANNO,yVYSOKO S KRYZHEM",
  "yMALO POVYSHE STRANNO,yGORAZDO VYSOKO,yZELO,yON,yRAVNO,yTIKHAYA,yBORZAYA,yUDARKA,yPODVERTKA",
  "yLOMKA,yKUPNAYA,zACHKA,yZEVOK,ySKOBA,yRAZSEKA,yKRYZH ON LEFT,1CF30tTONAL RANGE MARK MRACHNO",
  "bkSVETLO,bkTRESVETLO,tMARK ZADERZHKA,yDEMESTVENNY ZADERZHKA,yOTSECHKA,yPODCHASHIE",
  "bi WITH VERTICAL STROKE,yCHASHKA,bf POLNAYA,yOBLACHKO,ySOROCHYA NOZHKA,yTOCHKA,yDVOETOCHIE",
  "tATTACHING VERTICAL OMET,tMARK CURVED OMET,yKRYZH,tLOWER TONAL RANGE INDICATOR",
  "jPRIZNAK MODIFIER LEVEL-2,bg3,baDIRECTION FLIP,baKRYZH,baROG,1CF50jNEUME KRYUK,u TIKHY",
  "pPARAKLIT,pDVA V CHELNU,pKLYUCH,pZANOZHEK,pSTOPITSA,x S OCHKOM,pPEREVODKA,y NEPOSTOYANNAYA",
  "pSTOPITSA WITH SOROCHYA NOZHKA,pCHELYUSTKA,pPALKA,pZAPYATAYA,pGOLUBCHIK BORZY,zTIKHY,zMRACHNY",
  "zSVETLY,zTRESVETLY,pVRAKHIYA PROSTAYA,yMRACHNAYA,ySVETLAYA,yTRESVETLAYA,yKLYUCHEVAYA PROSTAYA",
  "bkMRACHNAYA,bkSVETLAYA,bkTRESVETLAYA,pDOUBLE ZAPYATAYA,pREVERSED CHELYUSTKA,pDERBITSA,pKHAMILO",
  "pCHASHKA,pPODCHASHIE,pSKAMEYTSA MRACHNAYA,zSVETLAYA,zTRESVETLAYA,baIKHAYA,pDEMESTVENNY KLYUCH",
  "pSKAMEYTSA KLYUCHEVAYA SVETLAYA,bgNEPOSTOYANNAYA,bgVAYA TIKHAYA,zDVOECHELNAYA PROSTAYA",
  "bmSVETLAYA,bmNEPOSTOYANNAYA,bmKLYUCHEVAYA,qLOZHITIE,y S ZAPYATOY,zZAKRYTOE,zS KRYZHEM,pKRYZH",
  "pROG,pFITA,pKOBYLA,pZMEYTSA,pSTATYA,v S ZAPYATOY,yKRYZHEM,yZAPYATOY I KRYZHEM",
  "yKRYZHEM I ZAPYATOY,wZAKRYTAYA,bf S ZAPYATOY,wS ROGOM,yDVUMYA ZAPYATYMI,yZAPYATOY I PODCHASHIEM",
  "pPOLKULIZMY,pSTATYA NEPOSTOYANNAYA,rRELA PROSTAYA,wMRACHNOTIKHAYA,wKRYZHEVAYA,wPOLUPOVODNAYA",
  "yVODNAYA,wNEPOSTOYANNAYA,wKLYUCHEPOVODNAYA,bdNEPOSTOYANNAYA,wTIKHAYA PUTNAYA,wDVOECHELNAYA",
  "bfOKRYZHEVAYA,bgPOVODNAYA,bfAYA KLYUCHEVAYA,bfOPOVODNAYA KLYUCHEVAYA",
  "wGROMNAYA WITH SINGLE ZAPYATAYA,baOPOVODNAYA WITH SINGLE ZAPYATAYA,baNAYA,baOPOVODNAYA",
  "bk WITH DOUBLE ZAPYATAYA,bbKRYZHEVAYA,bl POVODNAYA,pMECHIK,v POVODNY,wKLYUCHEVOY,bdPOVODNY",
  "bdNEPOSTOYANNY,pSTRELA TRYASOGLASNAYA,bcPOVODNAYA,bcSTRELNAYA,pOSOKA,u SVETLAYA,vTRESVETLAYA",
  "vKRYUKOVAYA SVETLAYA,wLYUCHEVAYA SVETLAYA,bhNEPOSTOYANNAYA,pSTRELA KRYUKOVAYA,bg POVODNAYA",
  "bhGROMNAYA WITH SINGLE ZAPYATAYA,blOPOVODNAYA WITH SINGLE ZAPYATAYA,blNAYA,blOPOVODNAYA",
  "bv WITH DOUBLE ZAPYATAYA,bmKRYZHEVAYA,bw POVODNAYA,bhTRYASKA,pKUFISMA,pOBLAKO,pDUDA,pNEMKA",
  "pPAUK,1D000aBYZANTINE MUSICAL SYMBOL PSILI,zDASEIA,zPERISPOMENI,zOXEIA EKFONITIKON,bfDIPLI",
  "zVAREIA EKFONITIKON,bgDIPLI,zKATHISTI,zSYRMATIKI,zPARAKLITIKI,zYPOKRISIS,bi DIPLI,zKREMASTI",
  "zAPESO EKFONITIKON,zEXO EKFONITIKON,zTELEIA,zKENTIMATA,zAPOSTROFOS,bj DIPLI,zSYNEVMA,zTHITA",
  "zOLIGON ARCHAION,zGORGON ARCHAION,zPSILON,zCHAMILON,zVATHY,zISON ARCHAION,zKENTIMA ARCHAION",
  "bgTA ARCHAION,zSAXIMATA,zPARICHON,zSTAVROS APODEXIA,zOXEIAI ARCHAION,zVAREIAI ARCHAION",
  "zAPODERMA ARCHAION,bcTHEMA,zKLASMA,zREVMA,zPIASMA ARCHAION,zTINAGMA,zANATRICHISMA,zSEISMA",
  "baYNAGMA ARCHAION,bhMETA STAVROU,zOYRANISMA ARCHAION,zTHEMA,zLEMOI,zDYO,zTRIA,baESSERA",
  "zKRATIMATA,zAPESO EXO NEO,zFTHORA ARCHAION,zIMIFTHORA,zTROMIKON ARCHAION,zKATAVA TROMIKON",
  "zPELASTON,baSIFISTON,zKONTEVMA,zCHOREVMA ARCHAION,zRAPISMA,zPARAKALESMA ARCHAION",
  "beLITIKI ARCHAION,zICHADIN,zNANA,zPETASMA,zKONTEVMA ALLO,zTROMIKON ALLO,zSTRAGGISMATA",
  "zGRONTHISMATA,zISON NEO,zOLIGON NEO,baXEIA NEO,zPETASTI,zKOUFISMA,zPETASTOKOUFISMA",
  "zKRATIMOKOUFISMA,zPELASTON NEO,zKENTIMATA NEO ANO,bg NEO ANO,zYPSILI,zAPOSTROFOS NEO",
  "biI SYNDESMOS NEO,zYPORROI,zKRATIMOYPORROON,zELAFRON,zCHAMILI,zMIKRON ISON,zVAREIA NEO",
  "zPIASMA NEO,baSIFISTON NEO,zOMALON,zANTIKENOMA,zLYGISMA,zPARAKLITIKI NEO,beALESMA NEO",
  "zETERON PARAKALESMA,zKYLISMA,zANTIKENOKYLISMA,zTROMIKON NEO,zEKSTREPTON,zSYNAGMA NEO,bbRMA",
  "zCHOREVMA NEO,zEPEGERMA,zSEISMA NEO,zXIRON KLASMA,zTROMIKOPSIFISTON,zPSIFISTOLYGISMA",
  "zTROMIKOLYGISMA,bgPARAKALESMA,zPSIFISTOPARAKALESMA,zTROMIKOSYNAGMA,zPSIFISTOSYNAGMA",
  "zGORGOSYNTHETON,zARGOSYNTHETON,zETERON ARGOSYNTHETON,zOYRANISMA NEO,zTHEMATISMOS ESO,bmXO",
  "be APLOUN,bcS KAI APOTHES,zKATAVASMA,zENDOFONON,zYFEN KATO,beANO,zSTAVROS,zKLASMA ANO",
  "zDIPLI ARCHAION,zKRATIMA ARCHAION,biLLO,bhNEO,zAPODERMA NEO,bbLI,zDIPLI,zTRIPLI,baETRAPLI",
  "zKORONIS,zLEIMMA ENOS CHRONOU,bgDYO CHRONON,bgTRION CHRONON,bhESSARON CHRONON,bgIMISEOS CHRONOU",
  "zGORGON NEO ANO,bgPARESTIGMENON ARISTERA,buDEXIA,zDIGORGON,bh PARESTIGMENON ARISTERA KATO,cfANO",
  "bwDEXIA,zTRIGORGON,zARGON,zIMIDIARGON,zDIARGON,zAGOGI POLI ARGI,bfARGOTERI,biI,bfMETRIA,bhSI",
  "bfGORGI,bjOTERI,bfPOLI GORGI,zMARTYRIA PROTOS ICHOS,biALLI PROTOS ICHOS,biDEYTEROS ICHOS",
  "biALLI DEYTEROS ICHOS,biTRITOS ICHOS,blFONIAS,bjETARTOS ICHOS,brLEGETOS ICHOS,biLEGETOS ICHOS",
  "biPLAGIOS ICHOS,zISAKIA TELOUS ICHIMATOS,zAPOSTROFOI TELOUS ICHIMATOS,zFANEROSIS TETRAFONIAS",
  "bjMONOFONIAS,bjDIFONIAS,zMARTYRIA VARYS ICHOS,biPROTOVARYS ICHOS,bjLAGIOS TETARTOS ICHOS",
  "zGORTHMIKON N APLOUN,bmDIPLOUN,zENARXIS KAI FTHORA VOU,zIMIFONON,bdTHORON",
  "zFTHORA ARCHAION DEYTEROU ICHOU,bgDIATONIKI PA,bqNANA,bgNAOS ICHOS,bgDIATONIKI DI",
  "bgSKLIRON DIATONON DI,bgDIATONIKI KE,bqZO,bqNI KATO,btANO,bgMALAKON CHROMA DIFONIAS",
  "bvMONOFONIAS,baHTORA SKLIRON CHROMA VASIS,baTHORA SKLIRON CHROMA SYNAFI,bgNENANO,zCHROA ZYGOS",
  "bfKLITON,bfSPATHI,zFTHORA I YFESIS TETARTIMORION,bgENARMONIOS ANTIFONIA,zYFESIS TRITIMORION",
  "zDIESIS TRITIMORION,bhETARTIMORION,bgAPLI DYO DODEKATA,bgMONOGRAMMOS TESSERA DODEKATA",
  "bgDIGRAMMOS EX DODEKATA,bgTRIGRAMMOS OKTO DODEKATA,zYFESIS APLI DYO DODEKATA",
  "bgMONOGRAMMOS TESSERA DODEKATA,bgDIGRAMMOS EX DODEKATA,bgTRIGRAMMOS OKTO DODEKATA",
  "zGENIKI DIESIS,bgYFESIS,zDIASTOLI APLI MIKRI,boEGALI,biDIPLI,biTHESEOS,zSIMANSIS THESEOS",
  "bp DISIMOU,bqTRISIMOU,brETRASIMOU,biARSEOS,bo DISIMOU,bpTRISIMOU,bqETRASIMOU,zDIGRAMMA GG",
  "bbFTOGGOS OU,zSTIGMA,zARKTIKO PA,bhVOU,bhGA,bhDI,bhKE,bhZO,bhNI,zKENTIMATA NEO MESO,bg NEO MESO",
  "bgTA NEO KATO,bg NEO KATO,baLASMA KATO,zGORGON NEO KATO,1D100aMUSICAL SYMBOL SINGLE BARLINE",
  "pDOUBLE BARLINE,pFINAL BARLINE,pREVERSE FINAL BARLINE,pDASHED BARLINE,pSHORT BARLINE",
  "pLEFT REPEAT SIGN,pRIGHT REPEAT SIGN,qEPEAT DOTS,pDAL SEGNO,r CAPO,pSEGNO,pCODA",
  "pREPEATED FIGURE-1,bf2,bf3,pFERMATA,w BELOW,pBREATH MARK,pCAESURA,pBRACE,tKET,pONE-LINE STAFF",
  "pTWO-LINE STAFF,qHREE-LINE STAFF,pFOUR-LINE STAFF,qIVE-LINE STAFF,pSIX-LINE STAFF",
  "tSTRING FRETBOARD,pFOUR-STRING FRETBOARD,pG CLEF,v OTTAVA ALTA,bdBASSA,pC CLEF,pF CLEF",
  "v OTTAVA ALTA,bdBASSA,pDRUM CLEF-1,z2,1D129pMULTIPLE MEASURE REST,pDOUBLE SHARP,wFLAT,pFLAT UP",
  "uDOWN,pNATURAL UP,xDOWN,pSHARP UP,vDOWN,pQUARTER TONE SHARP,bcFLAT,pCOMMON TIME,qUT TIME",
  "pOTTAVA ALTA,wBASSA,pQUINDICESIMA ALTA,bcBASSA,pMULTI REST,pWHOLE REST,pHALF REST,pQUARTER REST",
  "pEIGHTH REST,pSIXTEENTH REST,pTHIRTY-SECOND REST,pSIXTY-FOURTH REST",
  "pONE HUNDRED TWENTY-EIGHTH REST,pX NOTEHEAD,pPLUS NOTEHEAD,pCIRCLE X NOTEHEAD",
  "pSQUARE NOTEHEAD WHITE,bfBLACK,pTRIANGLE NOTEHEAD UP WHITE,bkBLACK,bhLEFT WHITE,bmBLACK",
  "bhRIGHT WHITE,bnBLACK,bhDOWN WHITE,bmBLACK,bhUP RIGHT WHITE,bqBLACK,pMOON NOTEHEAD WHITE",
  "bdBLACK,pTRIANGLE-ROUND NOTEHEAD DOWN WHITE,bsBLACK,pPARENTHESIS NOTEHEAD,pVOID NOTEHEAD",
  "pNOTEHEAD BLACK,qULL NOTEHEAD,pCLUSTER NOTEHEAD WHITE,bgBLACK,pBREVE,pWHOLE NOTE,pHALF NOTE",
  "pQUARTER NOTE,pEIGHTH NOTE,pSIXTEENTH NOTE,pTHIRTY-SECOND NOTE,pSIXTY-FOURTH NOTE",
  "pONE HUNDRED TWENTY-EIGHTH NOTE,pCOMBINING STEM,baPRECHGESANG STEM,zTREMOLO-1,bh2,bh3",
  "pFINGERED TREMOLO-1,bg2,bg3,pCOMBINING AUGMENTATION DOT,zFLAG-1,be2,be3,be4,be5,pBEGIN BEAM",
  "pEND BEAM,pBEGIN TIE,pEND TIE,pBEGIN SLUR,pEND SLUR,pBEGIN PHRASE,pEND PHRASE,pCOMBINING ACCENT",
  "zSTACCATO,zTENUTO,zSTACCATISSIMO,zMARCATO,bg-STACCATO,zACCENT-STACCATO,zLOURE,pARPEGGIATO UP",
  "baDOWN,pCOMBINING DOIT,zRIP,zFLIP,zSMEAR,zBEND,zDOUBLE TONGUE,zTRIPLE TONGUE,pRINFORZANDO",
  "pSUBITO,pZ,pPIANO,pMEZZO,pFORTE,pCRESCENDO,pDECRESCENDO,pGRACE NOTE SLASH,baNO SLASH,pTR,qURN",
  "pINVERTED TURN,pTURN SLASH,uUP,pORNAMENT STROKE-1,bf2,bf3,bf4,bf5,bf6,bf7,bf8,bf9,bf10,bg1",
  "pHAUPTSTIMME,pNEBENSTIMME,pEND OF STIMME,pDEGREE SLASH,pCOMBINING DOWN BOW,zUP BOW,zHARMONIC",
  "zSNAP PIZZICATO,pPEDAL MARK,vUP MARK,pHALF PEDAL MARK,pGLISSANDO UP,zDOWN,pWITH FINGERNAILS",
  "pDAMP,t ALL,pMAXIMA,pLONGA,pBREVIS,pSEMIBREVIS WHITE,baBLACK,pMINIMA,v BLACK,pSEMIMINIMA WHITE",
  "baBLACK,pFUSA WHITE,uBLACK,pLONGA PERFECTA REST,vIMPERFECTA REST,pBREVIS REST,pSEMIBREVIS REST",
  "pMINIMA REST,pSEMIMINIMA REST,pTEMPUS PERFECTUM CUM PROLATIONE PERFECTA,bvIMPERFECTA",
  "bvPERFECTA DIMINUTION-1,wIMPERFECTUM CUM PROLATIONE PERFECTA,bxIMPERFECTA,ch DIMINUTION-1,ct2",
  "ct3,pCROIX,pGREGORIAN C CLEF,zF CLEF,pSQUARE B,pVIRGA,pPODATUS,pCLIVIS,pSCANDICUS,pCLIMACUS",
  "pTORCULUS,pPORRECTUS,y FLEXUS,pSCANDICUS FLEXUS,pTORCULUS RESUPINUS,pPES SUBPUNCTIS",
  "pKIEVAN C CLEF,wEND OF PIECE,wFINAL NOTE,wRECITATIVE MARK,wWHOLE NOTE,wHALF NOTE",
  "wQUARTER NOTE STEM DOWN,boUP,wEIGHTH NOTE STEM DOWN,bnUP,wFLAT SIGN,pSORI,pKORON",
  "1D200aGREEK VOCAL NOTATION SYMBOL-1,bc2,bc3,bc4,bc5,bc6,bc7,bc8,bc9,bc10,bd1,bd2,bd3,bd4,bd5",
  "bd6,bd7,bd8,bd9,bc20,bd1,bd2,bd3,bd4,bc50,bd1,bd2,bd3,bd4,gINSTRUMENTAL NOTATION SYMBOL-1,bj2",
  "bj4,bj5,bj7,bj8,bj11,bk2,bk3,bk4,bk7,bk8,bk9,bj23,bk4,bk5,bk6,bk7,bk9,bj30,bk2,bk6,bk7,bk8,bk9",
  "bj40,bk2,bk3,bk5,bk7,bk8,bk9,bj50,bk1,bk2,bk3,bk4,aCOMBINING GREEK MUSICAL TRISEME,zETRASEME",
  "yPENTASEME,aGREEK MUSICAL LEIMMA,1D2E0aMAYAN NUMERAL ZERO,oONE,oTWO,pHREE,oFOUR,pIVE,oSIX,pEVEN",
  "oEIGHT,oNINE,oTEN,oELEVEN,oTWELVE,pHIRTEEN,oFOURTEEN,pIFTEEN,oSIXTEEN,pEVENTEEN,oEIGHTEEN",
  "oNINETEEN,1D300bONOGRAM FOR EARTH,aDIGRAM FOR HEAVENLY EARTH,mUMAN EARTH,lEARTHLY HEAVEN,uUMAN",
  "q,aTETRAGRAM FOR CENTRE,oFULL CIRCLE,oMIRED,oBARRIER,oKEEPING SMALL,oCONTRARIETY,oASCENT",
  "oOPPOSITION,oBRANCHING OUT,oDEFECTIVENESS OR DISTORTION,pIVERGENCE,oYOUTHFULNESS,oINCREASE",
  "oPENETRATION,oREACH,oCONTACT,oHOLDING BACK,oWAITING,oFOLLOWING,oADVANCE,oRELEASE,qSISTANCE",
  "oEASE,oJOY,oCONTENTION,oENDEAVOUR,oDUTIES,oCHANGE,oDECISIVENESS,oBOLD RESOLUTION,oPACKING",
  "oLEGION,oCLOSENESS,oKINSHIP,oGATHERING,oSTRENGTH,oPURITY,oFULLNESS,oRESIDENCE,oLAW OR MODEL",
  "oRESPONSE,oGOING TO MEET,oENCOUNTERS,oSTOVE,oGREATNESS,oENLARGEMENT,oPATTERN,oRITUAL,oFLIGHT",
  "oVASTNESS OR WASTING,oCONSTANCY,oMEASURE,oETERNITY,oUNITY,oDIMINISHMENT,oCLOSED MOUTH",
  "oGUARDEDNESS,pATHERING IN,oMASSING,oACCUMULATION,oEMBELLISHMENT,oDOUBT,oWATCH,oSINKING,oINNER",
  "oDEPARTURE,pARKENING,pIMMING,oEXHAUSTION,oSEVERANCE,pTOPPAGE,oHARDNESS,oCOMPLETION,pLOSURE",
  "oFAILURE,oAGGRAVATION,oCOMPLIANCE,oON THE VERGE,oDIFFICULTIES,oLABOURING,oFOSTERING",
  "1D360aCOUNTING ROD UNIT DIGIT ONE,yTWO,zHREE,yFOUR,zIVE,ySIX,zEVEN,yEIGHT,yNINE,nTENS DIGIT ONE",
  "yTWO,zHREE,yFOUR,zIVE,ySIX,zEVEN,yEIGHT,yNINE,aIDEOGRAPHIC TALLY MARK ONE,xTWO,yHREE,xFOUR,yIVE",
  "aTALLY MARK ONE,lFIVE,1D400aMATHEMATICAL BOLD CAPITAL A,baB,baC,baD,baE,baF,baG,baH,baI,baJ,baK",
  "baL,baM,baN,baO,baP,baQ,baR,baS,baT,baU,baV,baW,baX,baY,baZ,sSMALL A,yB,yC,yD,yE,yF,yG,yH,yI,yJ",
  "yK,yL,yM,yN,yO,yP,yQ,yR,yS,yT,yU,yV,yW,yX,yY,yZ,nITALIC CAPITAL A,bcB,bcC,bcD,bcE,bcF,bcG,bcH",
  "bcI,bcJ,bcK,bcL,bcM,bcN,bcO,bcP,bcQ,bcR,bcS,bcT,bcU,bcV,bcW,bcX,bcY,bcZ,uSMALL A,baB,baC,baD",
  "baE,baF,baG,1D456baI,baJ,baK,baL,baM,baN,baO,baP,baQ,baR,baS,baT,baU,baV,baW,baX,baY,baZ",
  "nBOLD ITALIC CAPITAL A,bhB,bhC,bhD,bhE,bhF,bhG,bhH,bhI,bhJ,bhK,bhL,bhM,bhN,bhO,bhP,bhQ,bhR,bhS",
  "bhT,bhU,bhV,bhW,bhX,bhY,bhZ,zSMALL A,bfB,bfC,bfD,bfE,bfF,bfG,bfH,bfI,bfJ,bfK,bfL,bfM,bfN,bfO",
  "bfP,bfQ,bfR,bfS,bfT,bfU,bfV,bfW,bfX,bfY,bfZ,nSCRIPT CAPITAL A,1D49EbcC,bcD,1D4A2bcG,1D4A5bcJ",
  "bcK,1D4A9bcN,bcO,bcP,bcQ,1D4AEbcS,bcT,bcU,bcV,bcW,bcX,bcY,bcZ,uSMALL A,baB,baC,baD,1D4BBbaF",
  "1D4BDbaH,baI,baJ,baK,baL,baM,baN,1D4C5baP,baQ,baR,baS,baT,baU,baV,baW,baX,baY,baZ",
  "nBOLD SCRIPT CAPITAL A,bhB,bhC,bhD,bhE,bhF,bhG,bhH,bhI,bhJ,bhK,bhL,bhM,bhN,bhO,bhP,bhQ,bhR,bhS",
  "bhT,bhU,bhV,bhW,bhX,bhY,bhZ,zSMALL A,bfB,bfC,bfD,bfE,bfF,bfG,bfH,bfI,bfJ,bfK,bfL,bfM,bfN,bfO",
  "bfP,bfQ,bfR,bfS,bfT,bfU,bfV,bfW,bfX,bfY,bfZ,nFRAKTUR CAPITAL A,bdB,1D507bdD,bdE,bdF,bdG",
  "1D50DbdJ,bdK,bdL,bdM,bdN,bdO,bdP,bdQ,1D516bdS,bdT,bdU,bdV,bdW,bdX,bdY,1D51EvSMALL A,bbB,bbC,bbD",
  "bbE,bbF,bbG,bbH,bbI,bbJ,bbK,bbL,bbM,bbN,bbO,bbP,bbQ,bbR,bbS,bbT,bbU,bbV,bbW,bbX,bbY,bbZ",
  "nDOUBLE-STRUCK CAPITAL A,bjB,1D53BbjD,bjE,bjF,bjG,1D540bjI,bjJ,bjK,bjL,bjM,1D546bjO,1D54AbjS",
  "bjT,bjU,bjV,bjW,bjX,bjY,1D552bbSMALL A,bhB,bhC,bhD,bhE,bhF,bhG,bhH,bhI,bhJ,bhK,bhL,bhM,bhN,bhO",
  "bhP,bhQ,bhR,bhS,bhT,bhU,bhV,bhW,bhX,bhY,bhZ,nBOLD FRAKTUR CAPITAL A,biB,biC,biD,biE,biF,biG,biH",
  "biI,biJ,biK,biL,biM,biN,biO,biP,biQ,biR,biS,biT,biU,biV,biW,biX,biY,biZ,baSMALL A,bgB,bgC,bgD",
  "bgE,bgF,bgG,bgH,bgI,bgJ,bgK,bgL,bgM,bgN,bgO,bgP,bgQ,bgR,bgS,bgT,bgU,bgV,bgW,bgX,bgY,bgZ",
  "nSANS-SERIF CAPITAL A,bgB,bgC,bgD,bgE,bgF,bgG,bgH,bgI,bgJ,bgK,bgL,bgM,bgN,bgO,bgP,bgQ,bgR,bgS",
  "bgT,bgU,bgV,bgW,bgX,bgY,bgZ,ySMALL A,beB,beC,beD,beE,beF,beG,beH,beI,beJ,beK,beL,beM,beN,beO",
  "beP,beQ,beR,beS,beT,beU,beV,beW,beX,beY,beZ,yBOLD CAPITAL A,blB,blC,blD,blE,blF,blG,blH,blI,blJ",
  "blK,blL,blM,blN,blO,blP,blQ,blR,blS,blT,blU,blV,blW,blX,blY,blZ,bdSMALL A,bjB,bjC,bjD,bjE,bjF",
  "bjG,bjH,bjI,bjJ,bjK,bjL,bjM,bjN,bjO,bjP,bjQ,bjR,bjS,bjT,bjU,bjV,bjW,bjX,bjY,bjZ",
  "yITALIC CAPITAL A,bnB,bnC,bnD,bnE,bnF,bnG,bnH,bnI,bnJ,bnK,bnL,bnM,bnN,bnO,bnP,bnQ,bnR,bnS,bnT",
  "bnU,bnV,bnW,bnX,bnY,bnZ,bfSMALL A,blB,blC,blD,blE,blF,blG,blH,blI,blJ,blK,blL,blM,blN,blO,blP",
  "blQ,blR,blS,blT,blU,blV,blW,blX,blY,blZ,yBOLD ITALIC CAPITAL A,bsB,bsC,bsD,bsE,bsF,bsG,bsH,bsI",
  "bsJ,bsK,bsL,bsM,bsN,bsO,bsP,bsQ,bsR,bsS,bsT,bsU,bsV,bsW,bsX,bsY,bsZ,bkSMALL A,bqB,bqC,bqD,bqE",
  "bqF,bqG,bqH,bqI,bqJ,bqK,bqL,bqM,bqN,bqO,bqP,bqQ,bqR,bqS,bqT,bqU,bqV,bqW,bqX,bqY,bqZ",
  "nMONOSPACE CAPITAL A,bfB,bfC,bfD,bfE,bfF,bfG,bfH,bfI,bfJ,bfK,bfL,bfM,bfN,bfO,bfP,bfQ,bfR,bfS",
  "bfT,bfU,bfV,bfW,bfX,bfY,bfZ,xSMALL A,bdB,bdC,bdD,bdE,bdF,bdG,bdH,bdI,bdJ,bdK,bdL,bdM,bdN,bdO",
  "bdP,bdQ,bdR,bdS,bdT,bdU,bdV,bdW,bdX,bdY,bdZ,nITALIC SMALL DOTLESS I,biJ",
  "1D6A8nBOLD CAPITAL ALPHA,baBETA,baGAMMA,baDELTA,baEPSILON,baZETA,baETA,baTHETA,baIOTA,baKAPPA",
  "baLAMDA,baMU,baNU,baXI,baOMICRON,baPI,baRHO,baTHETA SYMBOL,baSIGMA,baTAU,baUPSILON,baPHI,baCHI",
  "baPSI,baOMEGA,sNABLA,sSMALL ALPHA,yBETA,yGAMMA,yDELTA,yEPSILON,yZETA,yETA,yTHETA,yIOTA,yKAPPA",
  "yLAMDA,yMU,yNU,yXI,yOMICRON,yPI,yRHO,yFINAL SIGMA,ySIGMA,yTAU,yUPSILON,yPHI,yCHI,yPSI,yOMEGA",
  "sPARTIAL DIFFERENTIAL,sEPSILON SYMBOL,sTHETA SYMBOL,sKAPPA SYMBOL,sPHI SYMBOL,sRHO SYMBOL",
  "sPI SYMBOL,nITALIC CAPITAL ALPHA,bcBETA,bcGAMMA,bcDELTA,bcEPSILON,bcZETA,bcETA,bcTHETA,bcIOTA",
  "bcKAPPA,bcLAMDA,bcMU,bcNU,bcXI,bcOMICRON,bcPI,bcRHO,bcTHETA SYMBOL,bcSIGMA,bcTAU,bcUPSILON",
  "bcPHI,bcCHI,bcPSI,bcOMEGA,uNABLA,uSMALL ALPHA,baBETA,baGAMMA,baDELTA,baEPSILON,baZETA,baETA",
  "baTHETA,baIOTA,baKAPPA,baLAMDA,baMU,baNU,baXI,baOMICRON,baPI,baRHO,baFINAL SIGMA,baSIGMA,baTAU",
  "baUPSILON,baPHI,baCHI,baPSI,baOMEGA,uPARTIAL DIFFERENTIAL,uEPSILON SYMBOL,uTHETA SYMBOL",
  "uKAPPA SYMBOL,uPHI SYMBOL,uRHO SYMBOL,uPI SYMBOL,nBOLD ITALIC CAPITAL ALPHA,bhBETA,bhGAMMA",
  "bhDELTA,bhEPSILON,bhZETA,bhETA,bhTHETA,bhIOTA,bhKAPPA,bhLAMDA,bhMU,bhNU,bhXI,bhOMICRON,bhPI",
  "bhRHO,bhTHETA SYMBOL,bhSIGMA,bhTAU,bhUPSILON,bhPHI,bhCHI,bhPSI,bhOMEGA,zNABLA,zSMALL ALPHA",
  "bfBETA,bfGAMMA,bfDELTA,bfEPSILON,bfZETA,bfETA,bfTHETA,bfIOTA,bfKAPPA,bfLAMDA,bfMU,bfNU,bfXI",
  "bfOMICRON,bfPI,bfRHO,bfFINAL SIGMA,bfSIGMA,bfTAU,bfUPSILON,bfPHI,bfCHI,bfPSI,bfOMEGA",
  "zPARTIAL DIFFERENTIAL,zEPSILON SYMBOL,zTHETA SYMBOL,zKAPPA SYMBOL,zPHI SYMBOL,zRHO SYMBOL",
  "zPI SYMBOL,nSANS-SERIF BOLD CAPITAL ALPHA,blBETA,blGAMMA,blDELTA,blEPSILON,blZETA,blETA,blTHETA",
  "blIOTA,blKAPPA,blLAMDA,blMU,blNU,blXI,blOMICRON,blPI,blRHO,blTHETA SYMBOL,blSIGMA,blTAU",
  "blUPSILON,blPHI,blCHI,blPSI,blOMEGA,bdNABLA,bdSMALL ALPHA,bjBETA,bjGAMMA,bjDELTA,bjEPSILON",
  "bjZETA,bjETA,bjTHETA,bjIOTA,bjKAPPA,bjLAMDA,bjMU,bjNU,bjXI,bjOMICRON,bjPI,bjRHO,bjFINAL SIGMA",
  "bjSIGMA,bjTAU,bjUPSILON,bjPHI,bjCHI,bjPSI,bjOMEGA,bdPARTIAL DIFFERENTIAL,bdEPSILON SYMBOL",
  "bdTHETA SYMBOL,bdKAPPA SYMBOL,bdPHI SYMBOL,bdRHO SYMBOL,bdPI SYMBOL,bdITALIC CAPITAL ALPHA",
  "bsBETA,bsGAMMA,bsDELTA,bsEPSILON,bsZETA,bsETA,bsTHETA,bsIOTA,bsKAPPA,bsLAMDA,bsMU,bsNU,bsXI",
  "bsOMICRON,bsPI,bsRHO,bsTHETA SYMBOL,bsSIGMA,bsTAU,bsUPSILON,bsPHI,bsCHI,bsPSI,bsOMEGA,bkNABLA",
  "bkSMALL ALPHA,bqBETA,bqGAMMA,bqDELTA,bqEPSILON,bqZETA,bqETA,bqTHETA,bqIOTA,bqKAPPA,bqLAMDA,bqMU",
  "bqNU,bqXI,bqOMICRON,bqPI,bqRHO,bqFINAL SIGMA,bqSIGMA,bqTAU,bqUPSILON,bqPHI,bqCHI,bqPSI,bqOMEGA",
  "bkPARTIAL DIFFERENTIAL,bkEPSILON SYMBOL,bkTHETA SYMBOL,bkKAPPA SYMBOL,bkPHI SYMBOL,bkRHO SYMBOL",
  "bkPI SYMBOL,nBOLD CAPITAL DIGAMMA,sSMALL DIGAMMA,1D7CEsDIGIT ZERO,yONE,yTWO,zHREE,yFOUR,zIVE",
  "ySIX,zEVEN,yEIGHT,yNINE,nDOUBLE-STRUCK DIGIT ZERO,bhONE,bhTWO,biHREE,bhFOUR,biIVE,bhSIX,biEVEN",
  "bhEIGHT,bhNINE,nSANS-SERIF DIGIT ZERO,beONE,beTWO,bfHREE,beFOUR,bfIVE,beSIX,bfEVEN,beEIGHT",
  "beNINE,yBOLD DIGIT ZERO,bjONE,bjTWO,bkHREE,bjFOUR,bkIVE,bjSIX,bkEVEN,bjEIGHT,bjNINE",
  "nMONOSPACE DIGIT ZERO,bdONE,bdTWO,beHREE,bdFOUR,beIVE,bdSIX,beEVEN,bdEIGHT,bdNINE"]

end Docblock.Text.Names
