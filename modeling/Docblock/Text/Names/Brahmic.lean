/-!
# Names of characters, 11000 to 143FF

The packed names of the characters from 11000 to 143FF: the younger Brahmic scripts, and the
wedges and hieroglyphs.
-/

namespace Docblock.Text.Names

/-- Packed names, in the order of their characters. -/
def brahmic : List String := [
  "11000aBRAHMI SIGN CANDRABINDU,mANUSVARA,mVISARGA,mJIHVAMULIYA,mUPADHMANIYA,hLETTER A,pA,oI,pI",
  "oU,pU,oVOCALIC R,xR,wL,xL,oE,oAI,oO,oAU,oKA,pHA,oGA,pHA,oNGA,oCA,pHA,oJA,pHA,oNYA,oTTA,qHA,oDDA",
  "qHA,oNNA,oTA,pHA,oDA,pHA,oNA,oPA,pHA,oBA,pHA,oMA,oYA,oRA,oLA,oVA,oSHA,pSA,pA,oHA,oLLA",
  "oOLD TAMIL LLLA,yRRA,yNNNA,hVOWEL SIGN AA,sBHATTIPROLU AA,sI,tI,sU,tU,sVOCALIC R,bbR,baL,bbL,sE",
  "sAI,sO,sAU,iIRAMA,hDANDA,iOUBLE DANDA,hPUNCTUATION DOT,vUBLE DOT,tLINE,tCRESCENT BAR,tLOTUS",
  "11052hNUMBER ONE,oTWO,pHREE,oFOUR,pIVE,oSIX,pEVEN,oEIGHT,oNINE,oTEN,pWENTY,pHIRTY,oFORTY,pIFTY",
  "oSIXTY,pEVENTY,oEIGHTY,oNINETY,oONE HUNDRED,sTHOUSAND,hDIGIT ZERO,nONE,nTWO,oHREE,nFOUR,oIVE",
  "nSIX,oEVEN,nEIGHT,nNINE,hSIGN OLD TAMIL VIRAMA,hLETTER OLD TAMIL SHORT E,beO",
  "hVOWEL SIGN OLD TAMIL SHORT E,biO,hLETTER OLD TAMIL LLA,1107FhNUMBER JOINER",
  "aKAITHI SIGN CANDRABINDU,mANUSVARA,mVISARGA,hLETTER A,pA,oI,pI,oU,pU,oE,oAI,oO,oAU,oKA,pHA,oGA",
  "pHA,oNGA,oCA,pHA,oJA,pHA,oNYA,oTTA,qHA,oDDA,qDHA,qHA,oRHA,oNNA,oTA,pHA,oDA,pHA,oNA,oPA,pHA,oBA",
  "pHA,oMA,oYA,oRA,oLA,oVA,oSHA,pSA,pA,oHA,hVOWEL SIGN AA,sI,tI,sU,tU,sE,sAI,sO,sAU,hSIGN VIRAMA",
  "mNUKTA,hABBREVIATION SIGN,hENUMERATION SIGN,hNUMBER SIGN,hSECTION MARK,hDOUBLE SECTION MARK",
  "iANDA,iOUBLE DANDA,hVOWEL SIGN VOCALIC R,110CDhNUMBER SIGN ABOVE,110D0aSORA SOMPENG LETTER SAH",
  "uTAH,uBAH,uCAH,uDAH,uGAH,uMAH,uNGAH,uLAH,uNAH,uVAH,uPAH,uYAH,uRAH,uHAH,uKAH,uJAH,uNYAH,uAH,uEEH",
  "uIH,uUH,uOH,uEH,uMAE,110F0nDIGIT ZERO,tONE,tTWO,uHREE,tFOUR,uIVE,tSIX,uEVEN,tEIGHT,tNINE",
  "11100aCHAKMA SIGN CANDRABINDU,mANUSVARA,mVISARGA,hLETTER AA,oI,oU,oE,oKAA,pHAA,oGAA,pHAA,oNGAA",
  "oCAA,pHAA,oJAA,pHAA,oNYAA,oTTAA,qHAA,oDDAA,qHAA,oNNAA,oTAA,pHAA,oDAA,pHAA,oNAA,oPAA,pHAA,oBAA",
  "pHAA,oMAA,oYYAA,pAA,oRAA,oLAA,oWAA,oSAA,oHAA,hVOWEL SIGN A,sI,tI,sU,tU,sE,sAI,sO,sAU,sOI",
  "hO MARK,hAU MARK,hVIRAMA,hMAAYYAA,11136hDIGIT ZERO,nONE,nTWO,oHREE,nFOUR,oIVE,nSIX,oEVEN,nEIGHT",
  "nNINE,hSECTION MARK,hDANDA,iOUBLE DANDA,hQUESTION MARK,hLETTER LHAA,hVOWEL SIGN AA,sEI",
  "hLETTER VAA,11150aMAHAJANI LETTER A,qI,qU,qE,qO,qKA,rHA,qGA,rHA,qCA,rHA,qJA,rHA,qNYA,qTTA,sHA",
  "qDDA,sHA,qNNA,qTA,rHA,qDA,rHA,qNA,qPA,rHA,qBA,rHA,qMA,qRA,qLA,qVA,qSA,qHA,qRRA,jSIGN NUKTA",
  "jABBREVIATION SIGN,jSECTION MARK,jLIGATURE SHRI,11180aSHARADA SIGN CANDRABINDU,nANUSVARA",
  "nVISARGA,iLETTER A,qA,pI,qI,pU,qU,pVOCALIC R,yR,xL,yL,pE,pAI,pO,pAU,pKA,qHA,pGA,qHA,pNGA,pCA",
  "qHA,pJA,qHA,pNYA,pTTA,rHA,pDDA,rHA,pNNA,pTA,qHA,pDA,qHA,pNA,pPA,qHA,pBA,qHA,pMA,pYA,pRA,pLA,qLA",
  "pVA,pSHA,qSA,qA,pHA,iVOWEL SIGN AA,tI,uI,tU,uU,tVOCALIC R,bcR,bbL,bcL,tE,tAI,tO,tAU",
  "iSIGN VIRAMA,nAVAGRAHA,nJIHVAMULIYA,nUPADHMANIYA,iOM,iDANDA,jOUBLE DANDA,iABBREVIATION SIGN",
  "iSEPARATOR,jANDHI MARK,jIGN NUKTA,iVOWEL MODIFIER MARK,iEXTRA SHORT VOWEL MARK,iSUTRA MARK",
  "iVOWEL SIGN PRISHTHAMATRA E,iSIGN INVERTED CANDRABINDU,iDIGIT ZERO,oONE,oTWO,pHREE,oFOUR,pIVE",
  "oSIX,pEVEN,oEIGHT,oNINE,iEKAM,iSIGN SIDDHAM,iHEADSTROKE,iCONTINUATION SIGN,iSECTION MARK-1,v2",
  "111E1bINHALA ARCHAIC DIGIT ONE,wTWO,xHREE,wFOUR,xIVE,wSIX,xEVEN,wEIGHT,wNINE,qNUMBER TEN,yWENTY",
  "yHIRTY,xFORTY,yIFTY,xSIXTY,yEVENTY,xEIGHTY,xNINETY,xONE HUNDRED,bbTHOUSAND",
  "11200aKHOJKI LETTER A,pA,oI,oU,oE,oAI,oO,oAU,oKA,pHA,oGA,pGA,pHA,oNGA,oCA,pHA,oJA,pJA,11213oNYA",
  "oTTA,qHA,oDDA,qHA,oNNA,oTA,pHA,oDA,pDDA,pHA,oNA,oPA,pHA,oBA,pBA,pHA,oMA,oYA,oRA,oLA,oVA,oSA,oHA",
  "oLLA,hVOWEL SIGN AA,sI,tI,sU,sE,sAI,sO,sAU,hSIGN ANUSVARA,mVIRAMA,mNUKTA,mSHADDA,hDANDA",
  "iOUBLE DANDA,hWORD SEPARATOR,hSECTION MARK,hDOUBLE SECTION MARK,hABBREVIATION SIGN,hSIGN SUKUN",
  "11280aMULTANI LETTER A,pI,pU,pE,pKA,qHA,pGA,11288qHA,1128ApCA,qHA,pJA,qJA,1128FpNYA,pTTA,rHA",
  "pDDA,rDA,rHA,pNNA,pTA,qHA,pDA,qHA,pNA,pPA,qHA,pBA,1129FqHA,pMA,pYA,pRA,pLA,pVA,pSA,pHA,pRRA,qHA",
  "iSECTION MARK,112B0aKHUDAWADI LETTER A,sA,rI,sI,rU,sU,rE,rAI,rO,rAU,rKA,sHA,rGA,sGA,sHA,rNGA",
  "rCA,sHA,rJA,sJA,sHA,rNYA,rTTA,tHA,rDDA,tDA,rRRA,rDDHA,rNNA,rTA,sHA,rDA,sHA,rNA,rPA,sHA,rBA,sBA",
  "sHA,rMA,rYA,rRA,rLA,rVA,rSHA,sA,rHA,kSIGN ANUSVARA,kVOWEL SIGN AA,vI,wI,vU,wU,vE,vAI,vO,vAU",
  "kSIGN NUKTA,pVIRAMA,112F0kDIGIT ZERO,qONE,qTWO,rHREE,qFOUR,rIVE,qSIX,rEVEN,qEIGHT,qNINE",
  "11300aGRANTHA SIGN COMBINING ANUSVARA ABOVE,oANDRABINDU,nANUSVARA,nVISARGA,11305iLETTER A,qA,pI",
  "qI,pU,qU,pVOCALIC R,xL,1130FpEE,pAI,11313pOO,pAU,pKA,qHA,pGA,qHA,pNGA,pCA,qHA,pJA,qHA,pNYA,pTTA",
  "rHA,pDDA,rHA,pNNA,pTA,qHA,pDA,qHA,pNA,1132ApPA,qHA,pBA,qHA,pMA,pYA,pRA,11332pLA,qLA,11335pVA",
  "pSHA,qSA,qA,pHA,1133BaCOMBINING BINDU BELOW,aGRANTHA SIGN NUKTA,nAVAGRAHA,iVOWEL SIGN AA,tI,uI",
  "tU,uU,tVOCALIC R,bcR,11347tEE,tAI,1134BtOO,tAU,iSIGN VIRAMA,11350iOM,11357iAU LENGTH MARK",
  "1135DiSIGN PLUTA,iLETTER VEDIC ANUSVARA,vDOUBLE ANUSVARA,qOCALIC RR,xLL,iVOWEL SIGN VOCALIC L",
  "bcL,11366aCOMBINING GRANTHA DIGIT ZERO,yONE,yTWO,zHREE,yFOUR,zIVE,ySIX,11370sLETTER A,zKA,zNA",
  "zVI,zPA,11400aNEWA LETTER A,nA,mI,nI,mU,nU,mVOCALIC R,vR,uL,vL,mE,mAI,mO,mAU,mKA,nHA,mGA,nHA",
  "mNGA,oHA,mCA,nHA,mJA,nHA,mNYA,oHA,mTTA,oHA,mDDA,oHA,mNNA,mTA,nHA,mDA,nHA,mNA,nHA,mPA,nHA,mBA",
  "nHA,mMA,nHA,mYA,mRA,nHA,mLA,nHA,mWA,mSHA,nSA,nA,mHA,fVOWEL SIGN AA,qI,rI,qU,rU,qVOCALIC R,zR,yL",
  "zL,qE,qAI,qO,qAU,fSIGN VIRAMA,kCANDRABINDU,kANUSVARA,kVISARGA,kNUKTA,kAVAGRAHA,kFINAL ANUSVARA",
  "fOM,fSIDDHI,fDANDA,gOUBLE DANDA,fCOMMA,fGAP FILLER,fABBREVIATION SIGN,fDIGIT ZERO,lONE,lTWO",
  "mHREE,lFOUR,mIVE,lSIX,mEVEN,lEIGHT,lNINE,gOUBLE COMMA,fPLACEHOLDER MARK,1145DfINSERTION SIGN",
  "fSANDHI MARK,fLETTER VEDIC ANUSVARA,fSIGN JIHVAMULIYA,kUPADHMANIYA,11480aTIRHUTA ANJI,iLETTER A",
  "qA,pI,qI,pU,qU,pVOCALIC R,yR,xL,yL,pE,pAI,pO,pAU,pKA,qHA,pGA,qHA,pNGA,pCA,qHA,pJA,qHA,pNYA,pTTA",
  "rHA,pDDA,rHA,pNNA,pTA,qHA,pDA,qHA,pNA,pPA,qHA,pBA,qHA,pMA,pYA,pRA,pLA,pVA,pSHA,qSA,qA,pHA",
  "iVOWEL SIGN AA,tI,uI,tU,uU,tVOCALIC R,bcR,bbL,bcL,tE,tSHORT E,tAI,tO,tSHORT O,tAU",
  "iSIGN CANDRABINDU,nANUSVARA,nVISARGA,pRAMA,nNUKTA,nAVAGRAHA,iGVANG,iABBREVIATION SIGN,iOM",
  "114D0iDIGIT ZERO,oONE,oTWO,pHREE,oFOUR,pIVE,oSIX,pEVEN,oEIGHT,oNINE,11580aSIDDHAM LETTER A,qA",
  "pI,qI,pU,qU,pVOCALIC R,yR,xL,yL,pE,pAI,pO,pAU,pKA,qHA,pGA,qHA,pNGA,pCA,qHA,pJA,qHA,pNYA,pTTA",
  "rHA,pDDA,rHA,pNNA,pTA,qHA,pDA,qHA,pNA,pPA,qHA,pBA,qHA,pMA,pYA,pRA,pLA,pVA,pSHA,qSA,qA,pHA",
  "iVOWEL SIGN AA,tI,uI,tU,uU,tVOCALIC R,bcR,115B8tE,tAI,tO,tAU,iSIGN CANDRABINDU,nANUSVARA",
  "nVISARGA,pRAMA,nNUKTA,nSIDDHAM,iDANDA,jOUBLE DANDA,iSEPARATOR DOT,sBAR,iREPETITION MARK-1,y2,y3",
  "iEND OF TEXT MARK,iSECTION MARK WITH TRIDENT AND U-SHAPED ORNAMENTS,bmDOTTED CRESCENTS",
  "baRAYS AND DOTTED CRESCENTS,bqDOUBLE CRESCENTS,bqTRIPLE CRESCENTS,vDOUBLE RING,bg WITH RAYS",
  "vWITH DOUBLE CRESCENTS,baTRIPLE CRESCENTS,baQUADRUPLE CRESCENTS,baSEPTUPLE CRESCENTS",
  "baCIRCLES AND RAYS,bmTWO ENCLOSURES,bmFOUR ENCLOSURES,iLETTER THREE-CIRCLE ALTERNATE I",
  "qWO-CIRCLE ALTERNATE I,blI,pALTERNATE U,iVOWEL SIGN ALTERNATE U,beU,11600aMODI LETTER A,nA,mI",
  "nI,mU,nU,mVOCALIC R,vR,uL,vL,mE,mAI,mO,mAU,mKA,nHA,mGA,nHA,mNGA,mCA,nHA,mJA,nHA,mNYA,mTTA,oHA",
  "mDDA,oHA,mNNA,mTA,nHA,mDA,nHA,mNA,mPA,nHA,mBA,nHA,mMA,mYA,mRA,mLA,mVA,mSHA,nSA,nA,mHA,mLLA",
  "fVOWEL SIGN AA,qI,rI,qU,rU,qVOCALIC R,zR,yL,zL,qE,qAI,qO,qAU,fSIGN ANUSVARA,kVISARGA,mRAMA",
  "kARDHACANDRA,fDANDA,gOUBLE DANDA,fABBREVIATION SIGN,fSIGN HUVA,11650fDIGIT ZERO,lONE,lTWO,mHREE",
  "lFOUR,mIVE,lSIX,mEVEN,lEIGHT,lNINE,11660cNGOLIAN BIRGA WITH ORNAMENT,kROTATED BIRGA",
  "kDOUBLE BIRGA WITH ORNAMENT,kTRIPLE BIRGA WITH ORNAMENT,kBIRGA WITH DOUBLE ORNAMENT",
  "kROTATED BIRGA WITH ORNAMENT,bdDOUBLE ORNAMENT,kINVERTED BIRGA,y WITH DOUBLE ORNAMENT",
  "kSWIRL BIRGA,v WITH ORNAMENT,bbDOUBLE ORNAMENT,kTURNED SWIRL BIRGA WITH DOUBLE ORNAMENT",
  "11680aTAKRI LETTER A,oA,nI,oI,nU,oU,nE,nAI,nO,nAU,nKA,oHA,nGA,oHA,nNGA,nCA,oHA,nJA,oHA,nNYA",
  "nTTA,pHA,nDDA,pHA,nNNA,nTA,oHA,nDA,oHA,nNA,nPA,oHA,nBA,oHA,nMA,nYA,nRA,nLA,nVA,nSHA,oA,nHA,nRRA",
  "gSIGN ANUSVARA,lVISARGA,gVOWEL SIGN AA,rI,sI,rU,sU,rE,rAI,rO,rAU,gSIGN VIRAMA,lNUKTA",
  "gLETTER ARCHAIC KHA,gABBREVIATION SIGN,116C0gDIGIT ZERO,mONE,mTWO,nHREE,mFOUR,nIVE,mSIX,nEVEN",
  "mEIGHT,mNINE,11700aAHOM LETTER KA,nHA,mNGA,nA,mTA,mALTERNATE TA,mPA,nHA,mBA,mMA,mJA,mCHA,mTHA",
  "mRA,mLA,mSA,mNYA,mHA,mA,mDA,nHA,mGA,mALTERNATE GA,mGHA,mBHA,mJHA,mALTERNATE BA",
  "1171DfCONSONANT SIGN MEDIAL LA,bbRA,bbLIGATING RA,fVOWEL SIGN A,rA,qI,rI,qU,rU,qE,qAW,qO,qAI,rM",
  "fSIGN KILLER,11730fDIGIT ZERO,lONE,lTWO,mHREE,lFOUR,mIVE,lSIX,mEVEN,lEIGHT,lNINE,fNUMBER TEN",
  "nWENTY,fSIGN SMALL SECTION,lECTION,kRULAI,gYMBOL VI,fLETTER CA,mTTA,oHA,mDDA,oHA,mNNA,mLLA",
  "11800aDOGRA LETTER A,oA,nI,oI,nU,oU,nE,nAI,nO,nAU,nKA,oHA,nGA,oHA,nNGA,nCA,oHA,nJA,oHA,nNYA",
  "nTTA,pHA,nDDA,pHA,nNNA,nTA,oHA,nDA,oHA,nNA,nPA,oHA,nBA,oHA,nMA,nYA,nRA,nLA,nVA,nSHA,oSA,oA,nHA",
  "nRRA,gVOWEL SIGN AA,rI,sI,rU,sU,rVOCALIC R,baR,rE,rAI,rO,rAU,gSIGN ANUSVARA,lVISARGA,nRAMA",
  "lNUKTA,gABBREVIATION SIGN,118A0aWARANG CITI CAPITAL LETTER NGAA,bbA,bbWI,bbYU,bcA,bcO,bbII,bbUU",
  "bbE,bbO,bbANG,bbGA,bbKO,bbENY,bbYUJ,bbUC,bbENN,bbODD,bbTTE,bbNUNG,bbDA,bbAT,bcM,bbBU,bbPU",
  "bbHIYO,bcOLO,bdRR,bcAR,bbSSUU,bcII,bbVIYO,mSMALL LETTER NGAA,zA,zWI,zYU,baA,baO,zII,zUU,zE,zO",
  "zANG,zGA,zKO,zENY,zYUJ,zUC,zENN,zODD,zTTE,zNUNG,zDA,zAT,baM,zBU,zPU,zHIYO,baOLO,bbRR,baAR,zSSUU",
  "baII,zVIYO,mDIGIT ZERO,sONE,sTWO,tHREE,sFOUR,tIVE,sSIX,tEVEN,sEIGHT,sNINE,mNUMBER TEN,uWENTY",
  "uHIRTY,tFORTY,uIFTY,tSIXTY,uEVENTY,tEIGHTY,tNINETY,118FFmOM,aDIVES AKURU LETTER A,uA,tI,uI,tU",
  "uU,tE,11909tO,1190CtKA,uHA,tGA,uHA,tNGA,tCA,uHA,tJA,11915tNYA,tTTA,11918tDDA,vHA,tNNA,tTA,uHA",
  "tDA,uHA,tNA,tPA,uHA,tBA,uHA,tMA,tYA,uYA,tRA,tLA,tVA,tSHA,uSA,uA,tHA,tLLA,tZA,mVOWEL SIGN AA,xI",
  "yI,xU,yU,xE,11937xAI,xO,1193BmSIGN ANUSVARA,rCANDRABINDU,rHALANTA,mVIRAMA,mPREFIXED NASAL SIGN",
  "mMEDIAL YA,mINITIAL RA,mMEDIAL RA,mSIGN NUKTA,mDOUBLE DANDA,mGAP FILLER,mEND OF TEXT MARK",
  "11950mDIGIT ZERO,sONE,sTWO,tHREE,sFOUR,tIVE,sSIX,tEVEN,sEIGHT,sNINE,119A0aNANDINAGARI LETTER A",
  "uA,tI,uI,tU,uU,tVOCALIC R,bcR,119AAtE,tAI,tO,tAU,tKA,uHA,tGA,uHA,tNGA,tCA,uHA,tJA,uHA,tNYA,tTTA",
  "vHA,tDDA,vHA,tNNA,tTA,uHA,tDA,uHA,tNA,tPA,uHA,tBA,uHA,tMA,tYA,tRA,tLA,tVA,tSHA,uSA,uA,tHA,tLLA",
  "tRRA,mVOWEL SIGN AA,xI,yI,xU,yU,xVOCALIC R,bgR,119DAxE,xAI,xO,xAU,mSIGN ANUSVARA,rVISARGA,tRAMA",
  "rAVAGRAHA,rSIDDHAM,mHEADSTROKE,mVOWEL SIGN PRISHTHAMATRA E,11A00aZANABAZAR SQUARE LETTER A",
  "rVOWEL SIGN I,bcUE,bd,bcE,bcOE,bd,bcAI,bdU,bcREVERSED I,xLENGTH MARK,rLETTER KA,zHA,yGA,zHA",
  "yNGA,yCA,zHA,yJA,yNYA,yTTA,baHA,yDDA,baHA,yNNA,yTA,zHA,yDA,zHA,yNA,yPA,zHA,yBA,zHA,yMA,yTSA",
  "baHA,yDZA,baHA,yZHA,zA,y-A,yYA,yRA,yLA,yVA,ySHA,zSA,zA,yHA,yKSSA,rFINAL CONSONANT MARK",
  "rSIGN VIRAMA,wCANDRABINDU,bh WITH ORNAMENT,bc WITH ORNAMENT,wANUSVARA,wVISARGA",
  "rCLUSTER-INITIAL LETTER RA,zFINAL LETTER YA,bmRA,bmLA,bmVA,rINITIAL HEAD MARK",
  "rCLOSING HEAD MARK,rMARK TSHEG,wSHAD,wDOUBLE SHAD,wLONG TSHEG,rINITIAL DOUBLE-LINED HEAD MARK",
  "rCLOSING DOUBLE-LINED HEAD MARK,rSUBJOINER,11A50aSOYOMBO LETTER A,iVOWEL SIGN I,tUE,u,tE,tO,uE",
  "tAI,uU,tVOCALIC R,bbL,oLENGTH MARK,iLETTER KA,qHA,pGA,qHA,pNGA,pCA,qHA,pJA,qHA,pNYA,pTTA,rHA",
  "pDDA,rHA,pNNA,pTA,qHA,pDA,qHA,pNA,pPA,qHA,pBA,qHA,pMA,pTSA,rHA,pDZA,pZHA,qA,p-A,pYA,pRA,pLA,pVA",
  "pSHA,qSA,qA,pHA,pKSSA,iSIGN JIHVAMULIYA,nUPADHMANIYA,iCLUSTER-INITIAL LETTER RA,bfLA,bfSHA,bgA",
  "iFINAL CONSONANT SIGN G,bdK,bdNG,bdD,bdN,bdB,bdM,bdR,bdL,bdSH,be,bd-A,iSIGN ANUSVARA,nVISARGA",
  "iGEMINATION MARK,iSUBJOINER,iMARK TSHEG,nSHAD,nDOUBLE SHAD,nPLUTA",
  "iHEAD MARK WITH MOON AND SUN AND TRIPLE FLAME,boFLAME,bj,iTERMINAL MARK-1,w2",
  "11AB0aCANADIAN SYLLABICS NATTILIK HI,beI,bdO,beO,bdA,beA,bcSHRI,bgI,bfO,bgO,bfA,bgA,tSPE,vI,vO",
  "vA,aPAU CIN HAU LETTER PA,tKA,tLA,tMA,tDA,tZA,tVA,tNGA,tHA,tGA,tKHA,tSA,tBA,tCA,tTA,uHA,tNA",
  "tPHA,tRA,tFA,tCHA,tA,tE,tI,tO,tU,uA,tIA,tFINAL P,zK,zT,zM,zN,zL,zW,zNG,zY,mRISING TONE LONG,x",
  "mSANDHI GLOTTAL STOP,mRISING TONE LONG FINAL,yFINAL,mSANDHI GLOTTAL STOP FINAL,tTONE LONG,x",
  "x LONG FINAL,yFINAL,mMID-LEVEL TONE,mGLOTTAL STOP VARIANT,mMID-LEVEL TONE LONG FINAL,bbFINAL",
  "mLOW-FALLING TONE LONG,bc,mGLOTTAL STOP,mLOW-FALLING TONE LONG FINAL,bdFINAL",
  "mGLOTTAL STOP FINAL,11C00aBHAIKSUKI LETTER A,sA,rI,sI,rU,sU,rVOCALIC R,baR,zL,11C0ArE,rAI,rO",
  "rAU,rKA,sHA,rGA,sHA,rNGA,rCA,sHA,rJA,sHA,rNYA,rTTA,tHA,rDDA,tHA,rNNA,rTA,sHA,rDA,sHA,rNA,rPA",
  "sHA,rBA,sHA,rMA,rYA,rRA,rLA,rVA,rSHA,sSA,sA,rHA,kVOWEL SIGN AA,vI,wI,vU,wU,vVOCALIC R,beR,bdL",
  "11C38vE,vAI,vO,vAU,kSIGN CANDRABINDU,pANUSVARA,pVISARGA,rRAMA,pAVAGRAHA,kDANDA,lOUBLE DANDA",
  "kWORD SEPARATOR,kGAP FILLER-1,v2,11C50kDIGIT ZERO,qONE,qTWO,rHREE,qFOUR,rIVE,qSIX,rEVEN,qEIGHT",
  "qNINE,kNUMBER ONE,rTWO,sHREE,rFOUR,sIVE,rSIX,sEVEN,rEIGHT,rNINE,rTEN,sWENTY,sHIRTY,rFORTY,sIFTY",
  "rSIXTY,sEVENTY,rEIGHTY,rNINETY,kHUNDREDS UNIT MARK,11C70aMARCHEN HEAD MARK,iMARK SHAD",
  "iLETTER KA,qHA,pGA,pNGA,pCA,qHA,pJA,pNYA,pTA,qHA,pDA,pNA,pPA,qHA,pBA,pMA,pTSA,rHA,pDZA,pWA,pZHA",
  "qA,p-A,pYA,pRA,pLA,pSHA,qA,pHA,pA,11C92iSUBJOINED LETTER KA,baHA,zGA,zNGA,zCA,baHA,zJA,zNYA,zTA",
  "baHA,zDA,zNA,zPA,baHA,zBA,zMA,zTSA,bbHA,zDZA,zWA,zZHA,baA,11CA9zYA,zRA,zLA,zSHA,baA,zHA,zA",
  "iVOWEL SIGN AA,tI,tU,tE,tO,iSIGN ANUSVARA,nCANDRABINDU,11D00cSARAM GONDI LETTER A,wA,vI,wI,vU",
  "wU,vE,11D08vAI,vO,11D0BvAU,vKA,wHA,vGA,wHA,vNGA,vCA,wHA,vJA,wHA,vNYA,vTTA,xHA,vDDA,xHA,vNNA,vTA",
  "wHA,vDA,wHA,vNA,vPA,wHA,vBA,wHA,vMA,vYA,vRA,vLA,vVA,vSHA,wSA,wA,vHA,vLLA,vKSSA,vJNYA,vTRA",
  "oVOWEL SIGN AA,zI,baI,zU,baU,zVOCALIC R,11D3AzE,11D3CzAI,zO,11D3FzAU,oSIGN ANUSVARA,tVISARGA",
  "tNUKTA,tCANDRA,tHALANTA,oVIRAMA,oREPHA,pA-KARA,11D50oDIGIT ZERO,uONE,uTWO,vHREE,uFOUR,vIVE,uSIX",
  "vEVEN,uEIGHT,uNINE,11D60aGUNJALA GONDI LETTER A,wA,vI,wI,vU,wU,11D67vEE,vAI,11D6AvOO,vAU,vYA",
  "vVA,vBA,wHA,vMA,vKA,wHA,vTA,wHA,vLA,vGA,wHA,vDA,wHA,vNA,vCA,wHA,vTTA,xHA,vLLA,vJA,wHA,vDDA,xHA",
  "vNGA,vPA,wHA,vHA,vRA,vSA,oVOWEL SIGN AA,zI,baI,zU,baU,11D90zEE,zAI,11D93zOO,zAU,oSIGN ANUSVARA",
  "tVISARGA,oVIRAMA,oOM,11DA0oDIGIT ZERO,uONE,uTWO,vHREE,uFOUR,vIVE,uSIX,vEVEN,uEIGHT,uNINE",
  "11EE0aMAKASAR LETTER KA,pGA,pNGA,pPA,pBA,pMA,pTA,pDA,pNA,pCA,pJA,pNYA,pYA,pRA,pLA,pVA,pSA,pA",
  "iANGKA,iVOWEL SIGN I,tU,tE,tO,iPASSIMBANG,iEND OF SECTION,11FB0aLISU LETTER YHA",
  "11FC0aTAMIL FRACTION ONE THREE-HUNDRED-AND-TWENTIETH,tONE-HUNDRED-AND-SIXTIETH,tEIGHTIETH",
  "tSIXTY-FOURTH,tFORTIETH,tTHIRTY-SECOND,pTHREE EIGHTIETHS,vSIXTY-FOURTHS,pONE TWENTIETH",
  "tSIXTEENTH-1,bd2,tTENTH,tEIGHTH,pTHREE TWENTIETHS,vSIXTEENTHS,pONE FIFTH,tQUARTER,tHALF-1,y2",
  "pTHREE QUARTERS,pDOWNSCALING FACTOR KIIZH,gSIGN NEL,lCEVITU,lAAZHAAKKU,lUZHAKKU,lMUUVUZHAKKU",
  "lKURUNI,lPATHAKKU,lMUKKURUNI,lKAACU,lPANAM,mON,lVARAAKAN,lPAARAM,lKUZHI,lVELI",
  "gWET CULTIVATION SIGN,gDRY CULTIVATION SIGN,gLAND SIGN,gSALT PAN SIGN,gTRADITIONAL CREDIT SIGN",
  "sNUMBER SIGN,gCURRENT SIGN,gAND ODD SIGN,gSPENT SIGN,gTOTAL SIGN,gIN POSSESSION SIGN",
  "gSTARTING FROM SIGN,hIGN MUTHALIYA,lVAKAIYARAA,11FFFgPUNCTUATION END OF TEXT,aCUNEIFORM SIGN A",
  "q TIMES A,xBAD,xGAN2 TENU,xHA,xIGI,xLAGAR GUNU,xMUSH,xSAG,q2,qB,r TIMES ASH2,yDUN3 GUNU,yGAL",
  "baN2 TENU,yHA,yIGI GUNU,zMIN,yLAGAB,ySHESH,yU PLUS U PLUS U,sGUNU,r2,s TIMES BALAG,zGAN2 TENU",
  "zME PLUS EN,zSHA3,zTAK4,qD,qK,r TIMES ERIN2,ySHITA PLUS GISH,qL,r TIMES AL,yDIM2,yGISH,yHA",
  "yKAD3,zI,ySHE,yUSH,rAN,rEPH,qMAR,t TIMES SHE,qN,r OVER AN,sTHREE TIMES",
  "sPLUS NAGA OPPOSING AN PLUS NAGA,bcSQUARED,rSHE,qPIN,qRAD,t TIMES KUR,rKAB,qSAL2,rH,s ZIDA TENU",
  "tKABA TENU,tOVER ASH TUG2 OVER TUG2 TUG2 OVER TUG2 PAP,bcOVER ASH",
  "bk CROSSING ASH OVER ASH OVER ASH,s2,sGAB,pBA,rD,rG3,rHAR2,rL,s OVER BAL,sAG,rR,sA2,qI",
  "r TIMES A,yGAR,yIGI GUNU,qU,r OVER BU AB,baUN,sCROSSING BU,rLUG,u OVER BULUG,rR,s2,pDA,rG",
  "s KISIM5 TIMES A PLUS MASH,bhMAR,bgBALAG,bhI,bgGA,bi PLUS MASH,bhI,biR2,bhUD,bgHA,bgIR",
  "bi PLUS LU,bgKAK,bgLA,bhU,bi PLUS MASH2,biM,bgNE,bgPAP PLUS PAP,bgSI,bgTAK4,bgU2 PLUS GIR2,bhSH",
  "rM,rR,sA3,t4,qI,rB,rM,s TIMES SHE,s2,rN,s KASKAL U GUNU DISH,rSH,qU,r OVER DU,sGUNU,sSHESHIG,rB",
  "s TIMES ESH2,s2,rG,sUD,rH,rN,s3,t GUNU,y GUNU,s4,rR2,pE,q TIMES PAP,rOVER E NUN OVER NUN,q2",
  "r TIMES A PLUS HA PLUS DA,yGAR,yMI,ySAL,zHE,yU,qDIN,qGIR,qL,qN,r TIMES GAN2,bc TENU,yME",
  "sCROSSING EN,sOPPOSING EN,sSQUARED,qREN,rIN2,qSH2,qZEN,t TIMES A,bb PLUS LAL,bk TIMES LAL,bbN",
  "baBAD,baDUN3 GUNU,bj GUNU,baHA,bc GUNU,baIGI GUNU,baKASKAL,bg SQUARED,bbU3,baLA,bcL TIMES LAL",
  "bbI,bbU,baU2,bbD,pGA,r GUNU,r2,s TIMES A PLUS DA PLUS HA,bgHA,bgIGI,baB2 TENU PLUS TAB,baN,baSH",
  "bc2 PLUS GAL,zBAD,bbR PLUS RA,baUR,bc PLUS RA,zDA,baI,bbM TIMES SHE,baUB,zEL,bb PLUS LA,baN",
  "bb TIMES GAN2 TENU,zGAN2 TENU,bbR,baI,bb4,bc PLUS A,bbR2 PLUS SU,zHA PLUS LU PLUS ESH2,bbL",
  "bc PLUS LA,baI PLUS LI,baUB2,zIGI GUNU,baSH PLUS HU PLUS ASH,zKAK,bbSKAL,baID,bc PLUS LAL",
  "baU3 PLUS AN,zLA,zME PLUS EN,baI,zNUN,bc OVER NUN,zPA,zSAL,bbR,baHE,bc PLUS TUR,bbID,baUM,zTAK4",
  "zU,baD,bb PLUS DU,tOVER GA2,rBA,t CROSSING GABA,rD,s OVER GAD GAR OVER GAR,rL",
  "s GAD OVER GAD GAR OVER GAR,sAM,rM,rN,s2,t TENU,uOVER GAN2,uCROSSING GAN2,rR,s3,rSHAN,qESHTIN",
  "w TIMES KUR,qI,r TIMES E,yU,sCROSSING GI,r4,s OVER GI4,tCROSSING GI4,rDIM,rR2,t GUNU,s3",
  "t TIMES A PLUS IGI,baGAN2 TENU,baIGI,baLU PLUS IGI,baPA,rSAL,sH,t CROSSING GISH,uTIMES BAD",
  "baTAK4,vENU,qU,r CROSSING GU,r2,s TIMES KAK,bc TIMES IGI GUNU,zNUN,zSAL PLUS TUG2,tGUNU,rD",
  "s TIMES A PLUS KUR,zKUR,tOVER GUD LUGAL,rL,rM,s TIMES SHE,rR,s7,sUN,tSH,pHA,r TENU,sGUNU,rL,qI",
  "r TIMES ASH,bb2,yBAD,yDISH,yGAD,yKIN,yNUN,ySHE,yU,qU,rB2,t TIMES AN,baHAL,baKASKAL,baLISH,baUD",
  "rL2,pI,q A,qB,qDIM,t OVER IDIM BUR,beSQUARED,qG,rI,s DIB,tRI",
  "tOVER IGI SHIR OVER SHIR UD OVER UD,tGUNU,qL,r TIMES GAN2 TENU,r2,qM,r TIMES TAK4,sCROSSING IM",
  "sOPPOSING IM,sSQUARED,rIN,qN,qR,qSH,pKA,r TIMES A,zD,ba PLUS KU3,zSH2,yBAD,baLAG,baR,zI,yERIN2",
  "zSH2,yGA,baL,baN2 TENU,baR,bb PLUS SHA3 PLUS A,zI,baR2,baSH PLUS SAR,bdCROSSING GISH,zU,baR7",
  "yIGI,zM,yKAK,zI,baD,yLI,zU,yME,ba PLUS DU,bgGI,bgTE,zI,ba PLUS NUNUZ,yNE,zUN,yPI,yRU,ySA,baR",
  "zHA,baE,baID,baU,zIG,zUHUR,yTAR,yU,z2,zD,zMUM TIMES PA,zSH,yZI,r2,s CROSSING KA2,rB,rD2,s3,s4",
  "s5,t OVER KAD5,rK,s TIMES IGI GUNU,rL,s TIMES BAD,tCROSSING KAL,rM2,s4,rSKAL",
  "v LAGAB TIMES U OVER LAGAB TIMES U,wOVER KASKAL LAGAB TIMES U OVER LAGAB TIMES U,qESH2,qI",
  "r TIMES BAD,yU,zD,rD,rN,rSAL,sH,sIM5,v OVER KISIM5,qU",
  "r OVER HI TIMES ASH2 KU OVER HI TIMES ASH2,r3,r4,s VARIANT FORM,r7,rL,s GUNU,rN,rR",
  "s OPPOSING KUR,rSHU2,qWU318,pLA,rGAB,u TIMES A,bc PLUS DA PLUS HA,biGAR,biLAL,bcL,bcN",
  "bcSH ZIDA TENU,bbBAD,bcI,bbDAR,bbEN,bbGA,bdR,bcUD,be PLUS GUD,bbHA,bdL,bcI TIMES NUN,bbIGI GUNU",
  "bcM,bd PLUS HA,bjLU,bbKI,bdN,bcU3,bdL,be PLUS HI PLUS A,bbLAGAB,bcISH,bcU,bdL,bbME,bd PLUS EN",
  "bcUSH,bbNE,bbSHE PLUS SUM,bdITA PLUS GISH PLUS ERIN2,brTENU,bdU2,bf PLUS SHU2,bcUM,bbTAG,bdK4",
  "bcE PLUS A PLUS SU PLUS NA,bbU,bc PLUS A,biU PLUS U,bc2 PLUS ASH,bcD,bcSH,vSQUARED,tR",
  "u TIMES SHE,be PLUS SUM,vGUNU,z OVER LAGAR GUNU SHE,rHSHU,rL,s TIMES LAL,rM,s TIMES KUR",
  "bc PLUS RU,qI,rL,rMMU2,rSH,qU,r TIMES BAD,r2,s TIMES AL,zBAD,zESH2,bd TENU,zGAN2 TENU",
  "zHI TIMES BAD,zIM,zKAD2,bc3,bd PLUS ASH,baI,zLA PLUS ASH,bbGAB,zME PLUS EN,zNE,baU,zSI PLUS ASH",
  "bbK2 PLUS BU,zTUG2,uENU,tCROSSING LU2,tOPPOSING LU2,tSQUARED,uHESHIG,r3,rGAL,u OVER LUGAL",
  "wPPOSING LUGAL,vSHESHIG,rH,rL,rM,s OVER LUM,bb GAR OVER GAR,pMA,r TIMES TAK4,sGUNU,r2,rH,rR,rSH",
  "t2,qE,rS,qI,rN,qU,r OVER MU,rG,s GUNU,rNSUB,rRGU2,rSH,t TIMES A,baKUR,baZA,uOVER MUSH",
  "bd TIMES A PLUS NA,uCROSSING MUSH,t3,u TIMES A,bc PLUS DI,bbDI,vGUNU,pNA,r2,rGA,t INVERTED",
  "uTIMES SHU TENU,uOPPOSING NAGA,tR,rM NUTILLU,s,s2,qE,r TIMES A,yUD,sSHESHIG,qI,r TIMES E,r2,rM",
  "s TIMES GAN2 TENU,bbR PLUS GAN2 TENU,rNDA2,v TIMES AN,bdSH,bf PLUS ASH,bcGUD",
  "bcME PLUS GAN2 TENU,bcNE,bdUN,bcSHE,bf PLUS A AN,bmSH,bo PLUS ASH,bcU2 PLUS ASH,bdSH,rSAG,qU",
  "r11,rN,s LAGAR TIMES GAR,bfMASH,bfSAL,bi OVER NUN LAGAR TIMES SAL,bfUSH,tTENU,tOVER NUN",
  "tCROSSING NUN,bf LAGAR OVER LAGAR,sUZ,u AB2 TIMES ASHGAB,bfBI,bfDUG,bfGUD,bfIGI GUNU,bfKAD3",
  "bfLA,bfNE,bfSILA3,bfU2,vKISIM5 TIMES BI,bk U,pPA,rD,rN,rP,qESH2,qI,r TIMES A,zB,yBI,zU,yE,yI,zB",
  "yU,z2,sCROSSING PI,rRIG,u TIMES KAL,bbUD,bbZA,vOPPOSING PIRIG,pRA,rB,qI,qU,pSA,rG NUTILLU,s",
  "s TIMES A,zDU,bbB,zHA,zKAK,baUR,zLUM,zMI,zNUN,zSAL,baHID,zTAB,zU2,baB,baM,baR,baSH,tOVER SAG",
  "tGUNU,rL,s LAGAB TIMES ASH2,rNGA2,rR,qHA,s3,t TIMES A,baBAD,baGISH,baNE,baSHU2,baTUR,baU",
  "bb PLUS A,s6,sB6,sR2,rE,s HU,tOVER SHE GAD OVER GAD GAR OVER GAR,bcTAB OVER TAB GAR OVER GAR",
  "sG9,sN,sSH,u2,uLAM,rID,t TIMES A,baIM,sM,t TIMES A,baBAL,bbULUG,baDIN,baGAR,baIGI,bd GUNU",
  "baKUSHU2,baLUL,baMUG,baSAL,sNIG,sR,t TENU,uOVER SHIR BUR OVER BUR,sTA,rU,s OVER INVERTED SHU,s2",
  "sBUR,qI,r GUNU,rG,s4,t OVER SIG4 SHU2,rK2,rLA3,qU,r OVER SU,rD,s2,rHUR,rM,sASH,rR,s9,pTA",
  "r ASTERISK,sTIMES HI,yMI,sGUNU,rB,s OVER TAB NI OVER NI DISH OVER DISH,tSQUARED,rG,s TIMES BI",
  "zGUD,zSHE,bbU,zTUG2,zUD,rK4,rR,qE,r GUNU,qI,r TENU,rL,rR,s TIMES TAK4,tOVER TIR",
  "bb GAD OVER GAD GAR OVER GAR,qU,rG2,rK,rM,rR,s OVER TUR ZA OVER ZA,pU,q GUD,rU U",
  "rOVER U PA OVER PA GAR OVER GAR,ySUR OVER SUR,yU REVERSED OVER U REVERSED,q2,qB,qD,r KUSHU2",
  "sTIMES BAD,yMI,yU PLUS U PLUS U,bn GUNU,sGUNU,sSHESHIG,z TIMES BAD,rUG,qM,r TIMES LAGAB",
  "yME PLUS DA,ySHA3,yU,rBIN,rUM,t TIMES KASKAL,baPA,qN,r GUNU,qR,r CROSSING UR,sSHESHIG,r2",
  "s TIMES A PLUS HA,bgNA,baL,zHA,zNUN,zU2,bb PLUS ASH,bhBI,r4,rI,s3,rU,s TIMES A,baSHGAB,zBAR",
  "zDUN,zGA,bbL,bbN2 TENU,bbR,baU,zHA,zIGI,baM,baSH,zKI,zLUM,zMIN,zPA,zSHE,baIG4,zTU,zU PLUS GUD",
  "baD,baRUDA,sDA,u TIMES U,qSH,s TIMES A,zKU,bbR,zTAK4,sX,s2,sUMX,qTUKI,qZ3,s TIMES KASKAL,rU,pZA",
  "r TENU,sSQUARED TIMES KUR,rG,rMX,qE2,qI,r OVER ZI,r3,rB,s KABA TENU,rG,rZ2,qU,r5,s TIMES A,rBUR",
  "rM,pKAP ELAMITE,pAB TIMES NUN,r2 TIMES A,qMAR TIMES KUG,pDAG KISIM5 TIMES U2 PLUS MASH,s3",
  "qISH PLUS SHU,qUB TIMES SHE,pEZEN TIMES GUD,baSHE,pGA2 TIMES AN PLUS KAK PLUS A,baSH2,qE22,qIG",
  "pHUSH,pKA TIMES ANSHE,zSH3,yGISH,zUD,yHI TIMES ASH2,yLUM,yPA,ySHUL,yTU,yUR2,pLAGAB TIMES GI",
  "qU2 SHESHIG TIMES BAD,tTIMES ESH2 PLUS LAL,zSHU,pMESH,qUSH3 TIMES ZA,pNA4,qIN,s9,sDA2 TIMES BAL",
  "bcGI,qU11 ROTATED NINETY DEGREES,pPESH2 ASTERISK,qIR2,pSAG TIMES IGI GUNU,pTI2,pUM TIMES ME,q U",
  "12400kNUMERIC SIGN TWO ASH,yHREE ASH,xFOUR ASH,yIVE ASH,xSIX ASH,yEVEN ASH,xEIGHT ASH,xNINE ASH",
  "xTHREE DISH,xFOUR DISH,yIVE DISH,xSIX DISH,yEVEN DISH,xEIGHT DISH,xNINE DISH,xFOUR U,yIVE U",
  "xSIX U,yEVEN U,xEIGHT U,xNINE U,xONE GESH2,xTWO GESH2,yHREE GESH2,xFOUR GESH2,yIVE GESH2",
  "xSIX GESH2,yEVEN GESH2,xEIGHT GESH2,xNINE GESH2,xONE GESHU,xTWO GESHU,yHREE GESHU,xFOUR GESHU",
  "yIVE GESHU,xTWO SHAR2,yHREE SHAR2,bi VARIANT FORM,xFOUR SHAR2,yIVE SHAR2,xSIX SHAR2,yEVEN SHAR2",
  "xEIGHT SHAR2,xNINE SHAR2,xONE SHARU,xTWO SHARU,yHREE SHARU,bi VARIANT FORM,xFOUR SHARU",
  "yIVE SHARU,xSHAR2 TIMES GAL PLUS DISH,bsMIN,xONE BURU,xTWO BURU,yHREE BURU,bh VARIANT FORM",
  "xFOUR BURU,yIVE BURU,xTHREE VARIANT FORM ESH16,bt21,xFOUR VARIANT FORM LIMMU,bu4,bu A,bvB",
  "xSIX VARIANT FORM ASH9,yEVEN VARIANT FORM IMIN3,bu A,bvB,xEIGHT VARIANT FORM USSU,bu3",
  "xNINE VARIANT FORM ILIMMU,bv3,bv4,bv A,xTWO ASH TENU,yHREE ASH TENU,xFOUR ASH TENU",
  "yIVE ASH TENU,xSIX ASH TENU,xONE BAN2,xTWO BAN2,yHREE BAN2,xFOUR BAN2,bg VARIANT FORM,yIVE BAN2",
  "bg VARIANT FORM,xNIGIDAMIN,bdESH,xONE ESHE3,xTWO ESHE3,xONE THIRD DISH,xTWO THIRDS DISH",
  "xFIVE SIXTHS DISH,xONE THIRD VARIANT FORM A,xTWO THIRDS VARIANT FORM A,xONE EIGHTH ASH",
  "bbQUARTER ASH,yLD ASSYRIAN ONE SIXTH,boQUARTER,yNE QUARTER GUR,bbHALF GUR,xELAMITE ONE THIRD",
  "bfTWO THIRDS,bfFORTY,bgIFTY,xFOUR U VARIANT FORM,yIVE U VARIANT FORM,xSIX U VARIANT FORM",
  "yEVEN U VARIANT FORM,xEIGHT U VARIANT FORM,xNINE U VARIANT FORM",
  "12470kPUNCTUATION SIGN OLD ASSYRIAN WORD DIVIDER,bbVERTICAL COLON,bbDIAGONAL COLON,bkTRICOLON",
  "bkQUADCOLON,12480kSIGN AB TIMES NUN TENU,ySHU2,qD TIMES ESH2,pBAD TIMES DISH TENU",
  "rHAR2 TIMES AB2,bcNI,bcZA,qU OVER BU TIMES NA2,pDA TIMES TAK4,rG TIMES KUR,qIM TIMES IGI,zU U U",
  "s2 TIMES UD,qUG TIMES ANSHE,baSH,bc AT LEFT,zDIN,baUN,zERIN2,zGA,baI,bbR2 GUNU,bbSH,zHA,baI",
  "zIGI GUNU,zKASKAL,baUR,bbSHU2,bf PLUS KASKAL,zLAK-020,bbM,bc TIMES KUR,baUH PLUS GISH,zMASH",
  "baES,baI,zNI,zPI,zSHE,baI GUNU,pE2 TIMES KUR,yPAP,qRIN2 X,qSH2 CROSSING ESH2",
  "qZEN SHESHIG TIMES ASH,biHI,biIGI GUNU,biLA,bkL,biME,bkS,biSU,uTIMES SU,pGA2 TIMES BAHAR2",
  "zDIM GUNU,baUG TIMES IGI GUNU,bjKASKAL,zEREN,zGA,bbR PLUS DI,biNE,zHA PLUS A",
  "zKUSHU2 PLUS KASKAL,zLAM,bc TIMES KUR,baUH,zMUSH,zNE,bb PLUS E2,bhGI,zSHIM,zZIZ2",
  "rBA ROTATED NINETY DEGREES,qESHTIN TIMES U,qISH TIMES GISH CROSSING GISH,qU2 TIMES IGI GUNU",
  "rD PLUS GISH TIMES TAK4,pHA TENU GUNU,qI TIMES ASH OVER HI TIMES ASH,pKA TIMES BU,yKA,yU U U,zR",
  "pLAGAB TIMES ZU OVER ZU,rK-003,u21,v5,u30,u50,v1,u62,u79 OVER LAK-079 GUNU,u80,v1 OVER LAK-081",
  "u92,t130,u42,t210,v9,u20,v5,v8,u38,u65,v6,t343,v7,v8,u83,v4,u90,t441,v9,w TIMES GU,bdIGI",
  "bdPAP PLUS LU3,bmPAP PLUS LU3,bdU2 PLUS BA,u50,v7,u70,u83,u90,v2,v3,v5,t550,t608,u17",
  "w TIMES ASH,bdBAD,bdDUN3 GUNU GUNU,bdKU3,bdLA,bdTAR,beE,bdU2,beD,beRUDA,u36,u48,w TIMES DUB",
  "bdGA,bdIGI,bg GUNU,bdNI,bdPAP PLUS PAP PLUS LU3,bdSHESH PLUS KI,bdUD,beRUDA,t724,u49",
  "qU2 GUNU TIMES ASH,tTIMES DISH,zHAL,zPAP,bc PLUS PAP PLUS LU3,zTAK4,pMI PLUS ZA7",
  "qUSH OVER MUSH TIMES GA,bkKAK,pNINDA2 TIMES DIM GUNU,bcGISH,bdUL,bcHI,bcKESH2,bcLAK-050,bcMASH",
  "bcPAP PLUS PAP,bcU,bd PLUS U,bdRUDA,pSAG GUNU TIMES HA,tTIMES EN,zSHE AT LEFT,zTAK4,qHA6 TENU",
  "rE OVER SHE,tPLUS HUB2,yNAM2,ySAR,rU2 PLUS DUG TIMES NI,zE2 TIMES AN,qI TIMES TAK4",
  "pTAK4 PLUS SAG,qUM TIMES GAN2 TENU,zTHREE DISH,pUR2 INVERTED,tTIMES UD,rU TIMES DARA3,zLAK-668",
  "baU3,pZA7,qU OVER ZU PLUS SAR,r5 TIMES THREE DISH TENU,12F90bYPRO-MINOAN SIGN CM001,w2,w4,w5,w6",
  "w7,w8,w9,v10,w1,w2,xB,w3,w5,w7,w9,v21,w3,w4,w5,w6,w7,w8,w9,v30,w3,w4,w5,w6,w7,w8,w9,v40,w1,w4",
  "w6,w7,w9,v50,w1,w2,w3,w4,w5,w6,w8,w9,v60,w1,w2,w3,w4,w6,w7,w8,w9,v70,w1,w2,w3,w4,w5,xB,w6,w8,w9",
  "v80,w1,w2,w3,w4,w5,w6,w7,w8,w9,v90,w1,w2,w4,w5,w6,w7,w8,w9,u100,w1,w2,w3,w4,w5,w7,w8,w9,v10,w2",
  "w4,u301,w2,13000aEGYPTIAN HIEROGLYPH A001,x2,x3,x4,x5,yA,x6,yA,yB,x7,x8,x9,w10,x1,x2,x3,x4,yA",
  "x5,x6,x7,yA,x8,x9,w20,x1,x2,x3,x4,x5,x6,x7,x8,x9,w30,x1,x2,yA,x3,x4,x5,x6,x7,x8,x9,w40,yA,x1,x2",
  "yA,x3,yA,x4,x5,yA,x6,x7,x8,x9,w50,x1,x2,x3,x4,x5,x6,x7,x8,x9,w60,x1,x2,x3,x4,x5,x6,x7,x8,x9,w70",
  "uB001,x2,x3,x4,x5,yA,x6,x7,x8,x9,uC001,x2,yA,yB,yC,x3,x4,x5,x6,x7,x8,x9,w10,yA,x1,x2,x3,x4,x5",
  "x6,x7,x8,x9,w20,x1,x2,x3,x4,uD001,x2,x3,x4,x5,x6,x7,x8,yA,x9,w10,x1,x2,x3,x4,x5,x6,x7,x8,x9,w20",
  "x1,x2,x3,x4,x5,x6,x7,yA,x8,x9,w30,x1,yA,x2,x3,x4,yA,x5,x6,x7,x8,x9,w40,x1,x2,x3,x4,x5,x6,yA,x7",
  "x8,yA,x9,w50,yA,yB,yC,yD,yE,yF,yG,yH,yI,x1,x2,yA,x3,x4,yA,x5,x6,x7,x8,x9,w60,x1,x2,x3,x4,x5,x6",
  "x7,yA,yB,yC,yD,yE,yF,yG,yH,uE001,x2,x3,x4,x5,x6,x7,x8,yA,x9,yA,w10,x1,x2,x3,x4,x5,x6,yA,x7,yA",
  "x8,x9,w20,yA,x1,x2,x3,x4,x5,x6,x7,x8,yA,x9,w30,x1,x2,x3,x4,yA,x6,x7,x8,uF001,yA,x2,x3,x4,x5,x6",
  "x7,x8,x9,w10,x1,x2,x3,yA,x4,x5,x6,x7,x8,x9,w20,x1,yA,x2,x3,x4,x5,x6,x7,x8,x9,w30,x1,yA,x2,x3,x4",
  "x5,x6,x7,yA,x8,yA,x9,w40,x1,x2,x3,x4,x5,yA,x6,yA,x7,yA,x8,x9,w50,x1,yA,yB,yC,x2,x3,uG001,x2,x3",
  "x4,x5,x6,yA,x7,yA,yB,x8,x9,w10,x1,yA,x2,x3,x4,x5,x6,x7,x8,x9,w20,yA,x1,x2,x3,x4,x5,x6,yA,x7,x8",
  "x9,w30,x1,x2,x3,x4,x5,x6,yA,x7,yA,x8,x9,w40,x1,x2,x3,yA,x4,x5,yA,x6,x7,x8,x9,w50,x1,x2,x3,x4",
  "uH001,x2,x3,x4,x5,x6,yA,x7,x8,uI001,x2,x3,x4,x5,yA,x6,x7,x8,x9,yA,w10,yA,x1,yA,x2,x3,x4,x5",
  "uK001,x2,x3,x4,x5,x6,x7,x8,uL001,x2,yA,x3,x4,x5,x6,yA,x7,x8,uM001,yA,yB,x2,x3,yA,x4,x5,x6,x7,x8",
  "x9,w10,yA,x1,x2,yA,yB,yC,yD,yE,yF,yG,yH,x3,x4,x5,yA,x6,yA,x7,yA,x8,x9,w20,x1,x2,yA,x3,x4,yA,x5",
  "x6,x7,x8,yA,x9,w30,x1,yA,x2,x3,yA,yB,x4,x5,x6,x7,x8,x9,w40,yA,x1,x2,x3,x4,uN001,x2,x3,x4,x5,x6",
  "x7,x8,x9,w10,x1,x2,x3,x4,x5,x6,x7,x8,yA,yB,x9,w20,x1,x2,x3,x4,x5,yA,x6,x7,x8,x9,w30,x1,x2,x3,yA",
  "x4,yA,x5,yA,x6,x7,yA,x8,x9,w40,x1,x2,vL001,y2,y3,y4,y5,zA,y6,y7,y8,y9,x10,y1,y2,y3,y4,y5,y6,y7",
  "zA,y8,y9,x20,vU001,y2,y3,y4,y5,y6,y7,y8,y9,x10,zA,y1,zA,y2,y3,y4,y5,y6,y7,y8,zA,y9,x20,y1,y2,zA",
  "uO001,yA,x2,x3,x4,x5,yA,x6,yA,yB,yC,yD,yE,yF,x7,x8,x9,w10,yA,yB,yC,x1,x2,x3,x4,x5,x6,x7,x8,x9",
  "yA,w20,yA,x1,x2,x3,x4,yA,x5,yA,x6,x7,x8,x9,yA,w30,yA,x1,x2,x3,yA,x4,x5,x6,yA,yB,yC,yD,x7,x8,x9",
  "w40,x1,x2,x3,x4,x5,x6,x7,x8,x9,w50,yA,yB,x1,uP001,yA,x2,x3,yA,x4,x5,x6,x7,x8,x9,w10,x1,uQ001,x2",
  "x3,x4,x5,x6,x7,uR001,x2,yA,x3,yA,yB,x4,x5,x6,x7,x8,x9,w10,yA,x1,x2,x3,x4,x5,x6,yA,x7,x8,x9,w20",
  "x1,x2,x3,x4,x5,x6,x7,x8,x9,uS001,x2,yA,x3,x4,x5,x6,yA,x7,x8,x9,w10,x1,x2,x3,x4,yA,yB,x5,x6,x7",
  "yA,x8,x9,w20,x1,x2,x3,x4,x5,x6,yA,yB,x7,x8,x9,w30,x1,x2,x3,x4,x5,yA,x6,x7,x8,x9,w40,x1,x2,x3,x4",
  "x5,x6,uT001,x2,x3,yA,x4,x5,x6,x7,yA,x8,yA,x9,yA,w10,x1,yA,x2,x3,x4,x5,x6,yA,x7,x8,x9,w20,x1,x2",
  "x3,x4,x5,x6,x7,x8,x9,w30,x1,x2,yA,x3,yA,x4,x5,x6,uU001,x2,x3,x4,x5,x6,yA,yB,x7,x8,x9,w10,x1,x2",
  "x3,x4,x5,x6,x7,x8,x9,w20,x1,x2,x3,yA,x4,x5,x6,x7,x8,x9,yA,w30,x1,x2,yA,x3,x4,x5,x6,x7,x8,x9,w40",
  "x1,x2,uV001,yA,yB,yC,yD,yE,yF,yG,yH,yI,x2,yA,x3,x4,x5,x6,x7,yA,yB,x8,x9,w10,x1,yA,yB,yC,x2,yA",
  "yB,x3,x4,x5,x6,x7,x8,x9,w20,yA,yB,yC,yD,yE,yF,yG,yH,yI,yJ,yK,yL,x1,x2,x3,yA,x4,x5,x6,x7,x8,yA",
  "x9,yA,w30,yA,x1,yA,x2,x3,yA,x4,x5,x6,x7,yA,x8,x9,w40,yA,uW001,x2,x3,yA,x4,x5,x6,x7,x8,x9,yA,w10",
  "yA,x1,x2,x3,x4,yA,x5,x6,x7,yA,x8,yA,x9,w20,x1,x2,x3,x4,yA,x5,uX001,x2,x3,x4,yA,yB,x5,x6,yA,x7",
  "x8,yA,uY001,yA,x2,x3,x4,x5,x6,x7,x8,uZ001,x2,yA,yB,yC,yD,x3,yA,yB,x4,yA,x5,yA,x6,x7,x8,x9,w10",
  "x1,x2,x3,x4,x5,yA,yB,yC,yD,yE,yF,yG,yH,yI,x6,yA,yB,yC,yD,yE,yF,yG,yH,uAA001,y2,y3,y4,y5,y6,y7",
  "zA,zB,y8,y9,x10,y1,y2,y3,y4,y5,y6,y7,y8,y9,x20,y1,y2,y3,y4,y5,y6,y7,y8,y9,x30,y1,y2",
  "13430uVERTICAL JOINER,uHORIZONTAL JOINER,uINSERT AT TOP START,beBOTTOM START,beTOP END",
  "beBOTTOM END,uOVERLAY MIDDLE,uBEGIN SEGMENT,uEND SEGMENT"]

end Docblock.Text.Names
