/-!
# Other names of characters

The packed further names that some characters have: controls, variation selectors, and characters
whose first name was wrong.
-/

namespace Docblock.Text.Names

/-- Packed names, in the order of their characters. -/
def aliases : List String := [
  "0aNUL,0dL,aSOH,1bTART OF HEADING,jTEXT,2cX,aEND OF TEXT,3bTX,bND OF TRANSMISSION,4bOT,bNQ",
  "5dUIRY,aACK,6dNOWLEDGE,bLERT,7aBEL,bACKSPACE,8bS,aCHARACTER TABULATION,9aHORIZONTAL TABULATION",
  "9bT,9aTAB,aEND OF LINE,AbOL,AaLF,AbINE FEED,AaNEW LINE,AbL,aLINE TABULATION",
  "BaVERTICAL TABULATION,BbT,aFF,CbORM FEED,aCARRIAGE RETURN,DbR,aLOCKING-SHIFT ONE,EaSHIFT OUT",
  "EbO,aLOCKING-SHIFT ZERO,FaSHIFT IN,FbI,aDATA LINK ESCAPE,10bLE,bC1,11bEVICE CONTROL ONE,bC2",
  "12bEVICE CONTROL TWO,bC3,13bEVICE CONTROL THREE,bC4,14bEVICE CONTROL FOUR,aNAK",
  "15bEGATIVE ACKNOWLEDGE,aSYN,16dCHRONOUS IDLE,aEND OF TRANSMISSION BLOCK,17bTB,aCAN,18dCEL",
  "aEND OF MEDIUM,19bOM,aSUB,1AdSTITUTE,aESC,1BdAPE,aFILE SEPARATOR,1CbS",
  "1CaINFORMATION SEPARATOR FOUR,aGROUP SEPARATOR,1DbS,1DaINFORMATION SEPARATOR THREE,xWO",
  "1EaRECORD SEPARATOR,1EbS,aINFORMATION SEPARATOR ONE,1FaUNIT SEPARATOR,1FbS,aSP,7FaDEL,7FdETE",
  "aPAD,80dDING CHARACTER,aHIGH OCTET PRESET,81bOP,aBPH,82bREAK PERMITTED HERE,aNBH",
  "83bO BREAK HERE,aIND,84dEX,aNEL,85cXT LINE,aSSA,86bTART OF SELECTED AREA,aEND OF SELECTED AREA",
  "87bSA,aCHARACTER TABULATION SET,88aHORIZONTAL TABULATION SET,88bTS",
  "aCHARACTER TABULATION WITH JUSTIFICATION,89aHORIZONTAL TABULATION WITH JUSTIFICATION,89bTJ",
  "aLINE TABULATION SET,8AaVERTICAL TABULATION SET,8AbTS,aPARTIAL LINE DOWN,8BnFORWARD,8BbLD",
  "bARTIAL LINE BACKWARD,8CnUP,8CbLU,aREVERSE INDEX,8DiLINE FEED,8DbI,aSINGLE SHIFT TWO",
  "8Eg-SHIFT-2,8EbS2,bINGLE SHIFT THREE,8Fg-SHIFT-3,8FbS3,aDCS,90bEVICE CONTROL STRING",
  "aPRIVATE USE ONE,91l-1,91bU1,bRIVATE USE TWO,92l-2,92bU2,aSET TRANSMIT STATE,93bTS",
  "aCANCEL CHARACTER,94bCH,aMESSAGE WAITING,95bW,aSPA,96bTART OF GUARDED AREA,96jPROTECTED AREA",
  "aEND OF GUARDED AREA,97hPROTECTED AREA,97bPA,aSOS,98bTART OF STRING,bGC",
  "99bINGLE GRAPHIC CHARACTER INTRODUCER,bCI,9AbINGLE CHARACTER INTRODUCER",
  "aCONTROL SEQUENCE INTRODUCER,9BbSI,aST,9CcRING TERMINATOR,aOPERATING SYSTEM COMMAND,9DbSC,aPM",
  "9EbRIVACY MESSAGE,aAPC,9FcPLICATION PROGRAM COMMAND,aNBSP,ADaSHY,1A2aLATIN CAPITAL LETTER GHA",
  "gSMALL LETTER GHA,34FaCGJ,61CaALM,709aSYRIAC SUBLINEAR COLON SKEWED LEFT",
  "CDEaKANNADA LETTER LLLA,E9DaLAO LETTER FO FON,E9FpAY,EA3lRO,EA5lLO",
  "FD0aTIBETAN MARK BKA- SHOG GI MGO RGYAN,11ECaHANGUL JONGSEONG YESIEUNG-KIYEOK,baSSANGKIYEOK",
  "rSSANGYESIEUNG,rYESIEUNG-KHIEUKH,180BaFVS1,d2,d3,aMVS,aFVS4,200BaZWSP,cNJ,cJ,aLRM,aRLM,202AaLRE",
  "aRLE,aPDF,aLRO,aRLO,aNNBSP,205FaMMSP,aWJ,2066aLRI,aRLI,aFSI,aPDI",
  "2118aWEIERSTRASS ELLIPTIC FUNCTION,2448aMICR ON US SYMBOL,fDASH SYMBOL",
  "2B7AaLEFTWARDS TRIANGLE-HEADED ARROW WITH DOUBLE VERTICAL STROKE",
  "2B7CaRIGHTWARDS TRIANGLE-HEADED ARROW WITH DOUBLE VERTICAL STROKE",
  "A015aYI SYLLABLE ITERATION MARK,AA6EaMYANMAR LETTER KHAMTI LLA,FE00aVS1,c2,c3,c4,c5,c6,c7,c8,c9",
  "c10,d1,d2,d3,d4,d5,d6,FE18aPRESENTATION FORM FOR VERTICAL RIGHT WHITE LENTICULAR BRACKET",
  "FEFFaBOM,FEFFbYTE ORDER MARK,FEFFaZWNBSP,122D4aCUNEIFORM SIGN NU11 TENU,uOVER NU11 BUR OVER BUR",
  "16E56aMEDEFAIDRIN CAPITAL LETTER H,bbNG,16E76mSMALL LETTER H,zNG,1B001aHENTAIGANA LETTER E-1",
  "1D0C5aBYZANTINE MUSICAL SYMBOL FTHORA SKLIRON CHROMA VASIS,E0100aVS17,d8,d9,c20,d1,d2,d3,d4,d5",
  "d6,d7,d8,d9,c30,d1,d2,d3,d4,d5,d6,d7,d8,d9,c40,d1,d2,d3,d4,d5,d6,d7,d8,d9,c50,d1,d2,d3,d4,d5,d6",
  "d7,d8,d9,c60,d1,d2,d3,d4,d5,d6,d7,d8,d9,c70,d1,d2,d3,d4,d5,d6,d7,d8,d9,c80,d1,d2,d3,d4,d5,d6,d7",
  "d8,d9,c90,d1,d2,d3,d4,d5,d6,d7,d8,d9,c100,e1,e2,e3,e4,e5,e6,e7,e8,e9,d10,e1,e2,e3,e4,e5,e6,e7",
  "e8,e9,d20,e1,e2,e3,e4,e5,e6,e7,e8,e9,d30,e1,e2,e3,e4,e5,e6,e7,e8,e9,d40,e1,e2,e3,e4,e5,e6,e7,e8",
  "e9,d50,e1,e2,e3,e4,e5,e6,e7,e8,e9,d60,e1,e2,e3,e4,e5,e6,e7,e8,e9,d70,e1,e2,e3,e4,e5,e6,e7,e8,e9",
  "d80,e1,e2,e3,e4,e5,e6,e7,e8,e9,d90,e1,e2,e3,e4,e5,e6,e7,e8,e9,c200,e1,e2,e3,e4,e5,e6,e7,e8,e9",
  "d10,e1,e2,e3,e4,e5,e6,e7,e8,e9,d20,e1,e2,e3,e4,e5,e6,e7,e8,e9,d30,e1,e2,e3,e4,e5,e6,e7,e8,e9",
  "d40,e1,e2,e3,e4,e5,e6,e7,e8,e9,d50,e1,e2,e3,e4,e5,e6"]

end Docblock.Text.Names
