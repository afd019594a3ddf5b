import CommandScript.Unicode.Table

/-!
# Scripts

Each character belongs to one script. Some are used in several, or in another than their own; these
are listed apart.

## Main definitions

* `CommandScript.Unicode.ofScript` — the characters of a script.
* `CommandScript.Unicode.usedIn` — the characters that are used in a script.
* `CommandScript.Unicode.scriptNames` — the names of the scripts.
-/

namespace CommandScript.Unicode

/-- The scripts of all code points, by code, each with the length of its run. -/
def scripts : Runs String := .read id [
    "Zyyy65Latn26Zyyy6Latn26Zyyy47Latn1Zyyy15Latn1Zyyy5Latn23Zyyy1Latn31Zyyy1Latn449Zyyy39Latn5",
    "Zyyy5Bopo2Zyyy20Zinh112Grek4Zyyy1Grek3Zzzz2Grek4Zyyy1Grek1Zzzz4Grek1Zyyy1Grek1Zyyy1Grek3",
    "Zzzz1Grek1Zzzz1Grek20Zzzz1Grek63Copt14Grek16Cyrl133Zinh2Cyrl169Zzzz1Armn38Zzzz2Armn50Zzzz2",
    "Armn3Zzzz1Hebr55Zzzz8Hebr27Zzzz4Hebr6Zzzz11Arab5Zyyy1Arab6Zyyy1Arab14Zyyy1Arab3Zyyy1Arab32",
    "Zyyy1Arab10Zinh11Arab26Zinh1Arab108Zyyy1Arab34Syrc14Zzzz1Syrc60Zzzz2Syrc3Arab48Thaa50Zzzz14",
    "Nkoo59Zzzz2Nkoo3Samr46Zzzz2Samr15Zzzz1Mand28Zzzz2Mand1Zzzz1Syrc11Zzzz5Arab31Zzzz1Arab2Zzzz5",
    "Arab75Zyyy1Arab29Deva81Zinh4Deva15Zyyy2Deva26Beng4Zzzz1Beng8Zzzz2Beng2Zzzz2Beng22Zzzz1Beng7",
    "Zzzz1Beng1Zzzz3Beng4Zzzz2Beng9Zzzz2Beng2Zzzz2Beng4Zzzz8Beng1Zzzz4Beng2Zzzz1Beng5Zzzz2Beng25",
    "Zzzz2Guru3Zzzz1Guru6Zzzz4Guru2Zzzz2Guru22Zzzz1Guru7Zzzz1Guru2Zzzz1Guru2Zzzz1Guru2Zzzz2Guru1",
    "Zzzz1Guru5Zzzz4Guru2Zzzz2Guru3Zzzz3Guru1Zzzz7Guru4Zzzz1Guru1Zzzz7Guru17Zzzz10Gujr3Zzzz1Gujr9",
    "Zzzz1Gujr3Zzzz1Gujr22Zzzz1Gujr7Zzzz1Gujr2Zzzz1Gujr5Zzzz2Gujr10Zzzz1Gujr3Zzzz1Gujr3Zzzz2Gujr1",
    "Zzzz15Gujr4Zzzz2Gujr12Zzzz7Gujr7Zzzz1Orya3Zzzz1Orya8Zzzz2Orya2Zzzz2Orya22Zzzz1Orya7Zzzz1",
    "Orya2Zzzz1Orya5Zzzz2Orya9Zzzz2Orya2Zzzz2Orya3Zzzz7Orya3Zzzz4Orya2Zzzz1Orya5Zzzz2Orya18Zzzz10",
    "Taml2Zzzz1Taml6Zzzz3Taml3Zzzz1Taml4Zzzz3Taml2Zzzz1Taml1Zzzz1Taml2Zzzz3Taml2Zzzz3Taml3Zzzz3",
    "Taml12Zzzz4Taml5Zzzz3Taml3Zzzz1Taml4Zzzz2Taml1Zzzz6Taml1Zzzz14Taml21Zzzz5Telu13Zzzz1Telu3",
    "Zzzz1Telu23Zzzz1Telu16Zzzz2Telu9Zzzz1Telu3Zzzz1Telu4Zzzz7Telu2Zzzz1Telu3Zzzz2Telu1Zzzz2Telu4",
    "Zzzz2Telu10Zzzz7Telu9Knda13Zzzz1Knda3Zzzz1Knda23Zzzz1Knda10Zzzz1Knda5Zzzz2Knda9Zzzz1Knda3",
    "Zzzz1Knda4Zzzz7Knda2Zzzz6Knda2Zzzz1Knda4Zzzz2Knda10Zzzz1Knda3Zzzz12Mlym13Zzzz1Mlym3Zzzz1",
    "Mlym51Zzzz1Mlym3Zzzz1Mlym6Zzzz4Mlym16Zzzz2Mlym26Zzzz1Sinh3Zzzz1Sinh18Zzzz3Sinh24Zzzz1Sinh9",
    "Zzzz1Sinh1Zzzz2Sinh7Zzzz3Sinh1Zzzz4Sinh6Zzzz1Sinh1Zzzz1Sinh8Zzzz6Sinh10Zzzz2Sinh3Zzzz12",
    "Thai58Zzzz4Zyyy1Thai28Zzzz37Laoo2Zzzz1Laoo1Zzzz1Laoo5Zzzz1Laoo24Zzzz1Laoo1Zzzz1Laoo23Zzzz2",
    "Laoo5Zzzz1Laoo1Zzzz1Laoo7Zzzz1Laoo10Zzzz2Laoo4Zzzz32Tibt72Zzzz1Tibt36Zzzz4Tibt39Zzzz1Tibt36",
    "Zzzz1Tibt15Zzzz1Tibt7Zyyy4Tibt2Zzzz37Mymr160Geor38Zzzz1Geor1Zzzz5Geor1Zzzz2Geor43Zyyy1Geor4",
    "Hang256Ethi73Zzzz1Ethi4Zzzz2Ethi7Zzzz1Ethi1Zzzz1Ethi4Zzzz2Ethi41Zzzz1Ethi4Zzzz2Ethi33Zzzz1",
    "Ethi4Zzzz2Ethi7Zzzz1Ethi1Zzzz1Ethi4Zzzz2Ethi15Zzzz1Ethi57Zzzz1Ethi4Zzzz2Ethi67Zzzz2Ethi32",
    "Zzzz3Ethi26Zzzz6Cher86Zzzz2Cher6Zzzz2Cans640Ogam29Zzzz3Runr75Zyyy3Runr11Zzzz7Tglg22Zzzz9",
    "Tglg1Hano21Zyyy2Zzzz9Buhd20Zzzz12Tagb13Zzzz1Tagb3Zzzz1Tagb2Zzzz12Khmr94Zzzz2Khmr10Zzzz6",
    "Khmr10Zzzz6Mong2Zyyy2Mong1Zyyy1Mong20Zzzz6Mong89Zzzz7Mong43Zzzz5Cans70Zzzz10Limb31Zzzz1",
    "Limb12Zzzz4Limb12Zzzz4Limb1Zzzz3Limb12Tale30Zzzz2Tale5Zzzz11Talu44Zzzz4Talu26Zzzz6Talu11",
    "Zzzz3Talu2Khmr32Bugi28Zzzz2Bugi2Lana63Zzzz1Lana29Zzzz2Lana11Zzzz6Lana10Zzzz6Lana14Zzzz2",
    "Zinh31Zzzz49Bali77Zzzz1Bali50Sund64Batk52Zzzz8Batk4Lepc56Zzzz3Lepc15Zzzz3Lepc3Olck48Cyrl11",
    "Zzzz5Geor43Zzzz2Geor3Sund8Zzzz8Zinh3Zyyy1Zinh13Zyyy1Zinh7Zyyy4Zinh1Zyyy6Zinh1Zyyy3Zinh2Zyyy1",
    "Zzzz5Latn38Grek5Cyrl1Latn49Grek5Latn4Grek5Latn13Cyrl1Latn70Grek1Zinh64Latn256Grek22Zzzz2",
    "Grek6Zzzz2Grek38Zzzz2Grek6Zzzz2Grek8Zzzz1Grek1Zzzz1Grek1Zzzz1Grek1Zzzz1Grek31Zzzz2Grek53",
    "Zzzz1Grek15Zzzz1Grek14Zzzz2Grek6Zzzz1Grek19Zzzz2Grek3Zzzz1Grek9Zzzz1Zyyy12Zinh2Zyyy87Zzzz1",
    "Zyyy11Latn1Zzzz2Zyyy11Latn1Zyyy15Zzzz1Latn13Zzzz3Zyyy33Zzzz15Zinh33Zzzz15Zyyy38Grek1Zyyy3",
    "Latn2Zyyy6Latn1Zyyy27Latn1Zyyy17Latn41Zyyy3Zzzz4Zyyy666Zzzz22Zyyy11Zzzz21Zyyy928Brai256",
    "Zyyy628Zzzz2Zyyy32Zzzz1Zyyy105Glag96Latn32Copt116Zzzz5Copt7Geor38Zzzz1Geor1Zzzz5Geor1Zzzz2",
    "Tfng56Zzzz7Tfng2Zzzz14Tfng1Ethi23Zzzz9Ethi7Zzzz1Ethi7Zzzz1Ethi7Zzzz1Ethi7Zzzz1Ethi7Zzzz1",
    "Ethi7Zzzz1Ethi7Zzzz1Ethi7Zzzz1Cyrl32Zyyy94Zzzz34Hani26Zzzz1Hani89Zzzz12Hani214Zzzz26Zyyy21",
    "Hani1Zyyy1Hani1Zyyy25Hani9Zinh4Hang2Zyyy8Hani4Zyyy4Zzzz1Hira86Zzzz2Zinh2Zyyy2Hira3Zyyy1",
    "Kana90Zyyy2Kana3Zzzz5Bopo43Zzzz1Hang94Zzzz1Zyyy16Bopo32Zyyy38Zzzz9Zyyy1Kana16Hang31Zzzz1",
    "Zyyy64Hang31Zyyy81Kana47Zyyy1Kana88Zyyy168Hani6592Zyyy64Hani20992Yiii1165Zzzz3Yiii55Zzzz9",
    "Lisu48Vaii300Zzzz20Cyrl96Bamu88Zzzz8Zyyy34Latn102Zyyy3Latn67Zzzz2Latn2Zzzz1Latn1Zzzz1Latn8",
    "Zzzz21Latn14Sylo45Zzzz3Zyyy10Zzzz6Phag56Zzzz8Saur70Zzzz8Saur12Zzzz6Deva32Kali46Zyyy1Kali1",
    "Rjng36Zzzz11Rjng1Hang29Zzzz3Java78Zzzz1Zyyy1Java10Zzzz4Java2Mymr31Zzzz1Cham55Zzzz9Cham14",
    "Zzzz2Cham10Zzzz2Cham4Mymr32Tavt67Zzzz24Tavt5Mtei23Zzzz10Ethi6Zzzz2Ethi6Zzzz2Ethi6Zzzz9Ethi7",
    "Zzzz1Ethi7Zzzz1Latn43Zyyy1Latn9Grek1Latn4Zyyy2Zzzz4Cher80Mtei46Zzzz2Mtei10Zzzz6Hang11172",
    "Zzzz12Hang23Zzzz4Hang49Zzzz8452Hani366Zzzz2Hani106Zzzz38Latn7Zzzz12Armn5Zzzz5Hebr26Zzzz1",
    "Hebr5Zzzz1Hebr1Zzzz1Hebr2Zzzz1Hebr2Zzzz1Hebr10Arab115Zzzz16Arab363Zyyy2Arab80Zzzz2Arab54",
    "Zzzz7Arab1Zzzz32Arab16Zinh16Zyyy10Zzzz6Zinh14Cyrl2Zyyy35Zzzz1Zyyy19Zzzz1Zyyy4Zzzz4Arab5Zzzz1",
    "Arab135Zzzz2Zyyy1Zzzz1Zyyy32Latn26Zyyy6Latn26Zyyy11Kana10Zyyy1Kana45Zyyy2Hang31Zzzz3Hang6",
    "Zzzz2Hang6Zzzz2Hang6Zzzz2Hang3Zzzz3Zyyy7Zzzz1Zyyy7Zzzz10Zyyy5Zzzz2Linb12Zzzz1Linb26Zzzz1",
    "Linb19Zzzz1Linb2Zzzz1Linb15Zzzz2Linb14Zzzz34Linb123Zzzz5Zyyy3Zzzz4Zyyy45Zzzz3Zyyy9Grek79",
    "Zzzz1Zyyy13Zzzz3Grek1Zzzz47Zyyy45Zinh1Zzzz130Lyci29Zzzz3Cari49Zzzz15Zinh1Zyyy27Zzzz4Ital36",
    "Zzzz9Ital3Goth27Zzzz5Perm43Zzzz5Ugar30Zzzz1Ugar1Xpeo36Zzzz4Xpeo14Zzzz42Dsrt80Shaw48Osma30",
    "Zzzz2Osma10Zzzz6Osge36Zzzz4Osge36Zzzz4Elba40Zzzz8Aghb52Zzzz11Aghb1Vith11Zzzz1Vith15Zzzz1",
    "Vith7Zzzz1Vith2Zzzz1Vith11Zzzz1Vith15Zzzz1Vith7Zzzz1Vith2Zzzz3Todr52Zzzz12Lina311Zzzz9Lina22",
    "Zzzz10Lina8Zzzz24Latn6Zzzz1Latn42Zzzz1Latn9Zzzz69Cprt6Zzzz2Cprt1Zzzz1Cprt44Zzzz1Cprt2Zzzz3",
    "Cprt1Zzzz2Cprt1Armi22Zzzz1Armi9Palm32Nbat31Zzzz8Nbat9Zzzz48Hatr19Zzzz1Hatr2Zzzz5Hatr5Phnx28",
    "Zzzz3Phnx1Lydi26Zzzz5Lydi1Zzzz64Mero32Merc24Zzzz4Merc20Zzzz2Merc46Khar4Zzzz1Khar2Zzzz5Khar8",
    "Zzzz1Khar3Zzzz1Khar29Zzzz2Khar3Zzzz4Khar10Zzzz7Khar9Zzzz7Sarb32Narb32Zzzz32Mani39Zzzz4Mani12",
    "Zzzz9Avst54Zzzz3Avst7Prti22Zzzz2Prti8Phli19Zzzz5Phli8Phlp18Zzzz7Phlp4Zzzz12Phlp7Zzzz80Orkh73",
    "Zzzz55Hung51Zzzz13Hung51Zzzz7Hung6Rohg40Zzzz8Rohg10Zzzz6Gara38Zzzz3Gara29Zzzz8Gara2Zzzz208",
    "Arab31Zzzz1Yezi42Zzzz1Yezi3Zzzz2Yezi2Zzzz16Arab3Zzzz55Arab4Sogo40Zzzz8Sogd42Zzzz22Ougr26",
    "Zzzz38Chrs28Zzzz20Elym23Zzzz9Brah78Zzzz4Brah36Zzzz9Brah1Kthi67Zzzz10Kthi1Zzzz2Sora25Zzzz7",
    "Sora10Zzzz6Cakm53Zzzz1Cakm18Zzzz8Mahj39Zzzz9Shrd96Zzzz1Sinh20Zzzz11Khoj18Zzzz1Khoj47Zzzz62",
    "Mult7Zzzz1Mult1Zzzz1Mult4Zzzz1Mult15Zzzz1Mult11Zzzz6Sind59Zzzz5Sind10Zzzz6Gran4Zzzz1Gran8",
    "Zzzz2Gran2Zzzz2Gran22Zzzz1Gran7Zzzz1Gran2Zzzz1Gran5Zzzz1Zinh1Gran9Zzzz2Gran2Zzzz2Gran3Zzzz2",
    "Gran1Zzzz6Gran1Zzzz5Gran7Zzzz2Gran7Zzzz3Gran5Zzzz11Tutg10Zzzz1Tutg1Zzzz2Tutg1Zzzz1Tutg38",
    "Zzzz1Tutg10Zzzz1Tutg1Zzzz2Tutg1Zzzz1Tutg4Zzzz1Tutg10Zzzz1Tutg2Zzzz8Tutg2Zzzz29Newa92Zzzz1",
    "Newa5Zzzz30Tirh72Zzzz8Tirh10Zzzz166Sidd54Zzzz2Sidd38Zzzz34Modi69Zzzz11Modi10Zzzz6Mong13",
    "Zzzz19Takr58Zzzz6Takr10Zzzz6Mymr20Zzzz28Ahom27Zzzz2Ahom15Zzzz4Ahom23Zzzz185Dogr60Zzzz100",
    "Wara83Zzzz12Wara1Diak7Zzzz2Diak1Zzzz2Diak8Zzzz1Diak2Zzzz1Diak30Zzzz1Diak2Zzzz2Diak12Zzzz9",
    "Diak10Zzzz70Nand8Zzzz2Nand46Zzzz2Nand11Zzzz27Zanb72Zzzz8Soyo83Zzzz13Cans16Pauc57Zzzz7Deva10",
    "Zzzz182Sunu34Zzzz14Sunu10Zzzz6Bhks9Zzzz1Bhks45Zzzz1Bhks14Zzzz10Bhks29Zzzz3Marc32Zzzz2Marc22",
    "Zzzz1Marc14Zzzz73Gonm7Zzzz1Gonm2Zzzz1Gonm44Zzzz3Gonm1Zzzz1Gonm2Zzzz1Gonm9Zzzz8Gonm10Zzzz6",
    "Gong6Zzzz1Gong2Zzzz1Gong37Zzzz1Gong2Zzzz1Gong6Zzzz7Gong10Zzzz310Maka25Zzzz7Kawi17Zzzz1Kawi41",
    "Zzzz3Kawi29Zzzz85Lisu1Zzzz15Taml50Zzzz13Taml1Xsux922Zzzz102Xsux111Zzzz1Xsux5Zzzz11Xsux196",
    "Zzzz2636Cpmn99Zzzz13Egyp1110Zzzz10Egyp3995Zzzz5Hluw583Zzzz6841Gukh58Zzzz1734Bamu569Zzzz7",
    "Mroo31Zzzz1Mroo10Zzzz4Mroo2Tnsa79Zzzz1Tnsa10Zzzz6Bass30Zzzz2Bass6Zzzz10Hmng70Zzzz10Hmng10",
    "Zzzz1Hmng7Zzzz1Hmng21Zzzz5Hmng19Zzzz432Krai58Zzzz198Medf91Zzzz101Plrd75Zzzz4Plrd57Zzzz7",
    "Plrd17Zzzz64Tang1Nshu1Hani2Kits1Zzzz11Hani2Zzzz14Tang6136Zzzz8Tang768Kits470Zzzz41Kits1Tang9",
    "Zzzz8935Kana4Zzzz1Kana7Zzzz1Kana2Zzzz1Kana1Hira287Kana3Zzzz15Hira1Zzzz29Hira3Zzzz2Kana1",
    "Zzzz14Kana4Zzzz8Nshu396Zzzz2308Dupl107Zzzz5Dupl13Zzzz3Dupl9Zzzz7Dupl10Zzzz2Dupl4Zyyy4",
    "Zzzz3932Zyyy250Zzzz6Zyyy436Zzzz76Zinh46Zzzz2Zinh23Zzzz9Zyyy116Zzzz60Zyyy246Zzzz10Zyyy39Zzzz2",
    "Zyyy62Zinh3Zyyy17Zinh8Zyyy2Zinh7Zyyy30Zinh4Zyyy61Zzzz21Grek70Zzzz122Zyyy20Zzzz12Zyyy20Zzzz12",
    "Zyyy87Zzzz9Zyyy25Zzzz135Zyyy85Zzzz1Zyyy71Zzzz1Zyyy2Zzzz2Zyyy1Zzzz2Zyyy2Zzzz2Zyyy4Zzzz1Zyyy12",
    "Zzzz1Zyyy1Zzzz1Zyyy7Zzzz1Zyyy65Zzzz1Zyyy4Zzzz2Zyyy8Zzzz1Zyyy7Zzzz1Zyyy28Zzzz1Zyyy4Zzzz1Zyyy5",
    "Zzzz1Zyyy1Zzzz3Zyyy7Zzzz1Zyyy340Zzzz2Zyyy292Zzzz2Zyyy50Sgnw652Zzzz15Sgnw5Zzzz1Sgnw15Zzzz1104",
    "Latn31Zzzz6Latn6Zzzz213Glag7Zzzz1Glag17Zzzz2Glag7Zzzz1Glag2Zzzz1Glag5Zzzz5Cyrl62Zzzz33Cyrl1",
    "Zzzz112Hmnp45Zzzz3Hmnp14Zzzz2Hmnp10Zzzz4Hmnp2Zzzz320Toto31Zzzz17Wcho58Zzzz5Wcho1Zzzz464",
    "Nagm42Zzzz214Onao43Zzzz4Onao1Zzzz480Ethi7Zzzz1Ethi4Zzzz1Ethi2Zzzz1Ethi15Zzzz1Mend197Zzzz2",
    "Mend16Zzzz41Adlm76Zzzz4Adlm10Zzzz4Adlm2Zzzz785Zyyy68Zzzz76Zyyy61Zzzz194Arab4Zzzz1Arab27Zzzz1",
    "Arab2Zzzz1Arab1Zzzz2Arab1Zzzz1Arab10Zzzz1Arab4Zzzz1Arab1Zzzz1Arab1Zzzz6Arab1Zzzz4Arab1Zzzz1",
    "Arab1Zzzz1Arab1Zzzz1Arab3Zzzz1Arab2Zzzz1Arab1Zzzz2Arab1Zzzz1Arab1Zzzz1Arab1Zzzz1Arab1Zzzz1",
    "Arab1Zzzz1Arab2Zzzz1Arab1Zzzz2Arab4Zzzz1Arab7Zzzz1Arab4Zzzz1Arab4Zzzz1Arab1Zzzz1Arab10Zzzz1",
    "Arab17Zzzz5Arab3Zzzz1Arab5Zzzz1Arab17Zzzz52Arab2Zzzz270Zyyy44Zzzz4Zyyy100Zzzz12Zyyy15Zzzz2",
    "Zyyy15Zzzz1Zyyy15Zzzz1Zyyy37Zzzz10Zyyy174Zzzz56Zyyy26Hira1Zyyy2Zzzz13Zyyy44Zzzz4Zyyy9Zzzz7",
    "Zyyy2Zzzz14Zyyy6Zzzz154Zyyy984Zzzz4Zyyy17Zzzz3Zyyy13Zzzz3Zyyy119Zzzz4Zyyy95Zzzz6Zyyy12Zzzz4",
    "Zyyy1Zzzz15Zyyy12Zzzz4Zyyy56Zzzz8Zyyy10Zzzz6Zyyy40Zzzz8Zyyy30Zzzz2Zyyy12Zzzz4Zyyy2Zzzz62",
    "Zyyy340Zzzz12Zyyy14Zzzz2Zyyy13Zzzz3Zyyy10Zzzz5Zyyy56Zzzz7Zyyy15Zzzz2Zyyy11Zzzz6Zyyy9Zzzz7",
    "Zyyy147Zzzz1Zyyy102Zzzz1030Hani42720Zzzz32Hani4154Zzzz6Hani222Zzzz2Hani5762Zzzz14Hani7473",
    "Zzzz15Hani622Zzzz2466Hani542Zzzz1506Hani4939Zzzz5Hani4192Zzzz711761Zyyy1Zzzz30Zyyy96Zzzz128",
    "Zinh240Zzzz196112"]

/-- The characters of the script with a code. -/
def ofScript (code : String) : CharSet := scripts.filter (· == code)

/-- Characters, and the scripts that they are used in. -/
structure ScriptUse where
  /-- The characters. -/
  chars : CharSet
  /-- The codes of the scripts. -/
  codes : List String
deriving Repr

/-- The use that a word such as `1cf7:Beng` spells. -/
def ScriptUse.read (word : String) : Option ScriptUse :=
  match word.splitOn ":" with
  | [range, codes] => some ⟨readSet [range], codes.splitOn ","⟩
  | _ => none

/-- The characters that are used in other scripts than their own alone. -/
def scriptUses : List ScriptUse :=
  List.flatMap (fun line => (line.splitOn " ").filterMap ScriptUse.read) [
    "b7:Avst,Cari,Copt,Dupl,Elba,Geor,Glag,Gong,Goth,Grek,Hani,Latn,Lydi,Mahj,Perm,Shaw",
    "2bc:Beng,Cyrl,Deva,Latn,Lisu,Thai,Toto 2c7:Bopo,Latn 2c9-2cb:Bopo,Latn 2cd:Latn,Lisu",
    "2d7:Latn,Thai 2d9:Bopo,Latn 300:Cher,Copt,Cyrl,Grek,Latn,Perm,Sunu,Tale",
    "301:Cher,Cyrl,Grek,Latn,Osge,Sunu,Tale,Todr 302:Cher,Cyrl,Latn,Tfng",
    "303:Glag,Latn,Sunu,Syrc,Thai 304:Aghb,Cher,Copt,Cyrl,Goth,Grek,Latn,Osge,Syrc,Tfng,Todr",
    "305:Copt,Elba,Glag,Goth,Kana,Latn 306:Cyrl,Grek,Latn,Perm",
    "307:Copt,Dupl,Hebr,Latn,Perm,Syrc,Tale,Tfng,Todr",
    "308:Armn,Cyrl,Dupl,Goth,Grek,Hebr,Latn,Perm,Syrc,Tale 309:Latn,Tfng 30a:Dupl,Latn,Syrc",
    "30b:Cher,Cyrl,Latn,Osge 30c:Cher,Latn,Tale 30d:Latn,Sunu 30e:Ethi,Latn 310:Latn,Sunu",
    "311:Cyrl,Latn,Todr 313:Grek,Latn,Perm,Todr 320:Latn,Syrc 323:Cher,Dupl,Kana,Latn,Syrc",
    "324:Cher,Dupl,Latn,Syrc 325:Latn,Syrc 32d:Latn,Sunu,Syrc 32e:Latn,Syrc 330:Cher,Latn,Syrc",
    "331:Aghb,Cher,Goth,Latn,Sunu,Thai 342:Grek 345:Grek 358:Latn,Osge 35e:Aghb,Latn,Todr",
    "363-36f:Latn 374-375:Copt,Grek 483:Cyrl,Perm 484:Cyrl,Glag 485-486:Cyrl,Latn 487:Cyrl,Glag",
    "589:Armn,Geor,Glag 60c:Arab,Gara,Nkoo,Rohg,Syrc,Thaa,Yezi",
    "61b:Arab,Gara,Nkoo,Rohg,Syrc,Thaa,Yezi 61c:Arab,Syrc,Thaa",
    "61f:Adlm,Arab,Gara,Nkoo,Rohg,Syrc,Thaa,Yezi 640:Adlm,Arab,Mand,Mani,Ougr,Phlp,Rohg,Sogd,Syrc",
    "64b-655:Arab,Syrc 660-669:Arab,Thaa,Yezi 670:Arab,Syrc 6d4:Arab,Rohg",
    "951:Beng,Deva,Gran,Gujr,Guru,Knda,Latn,Mlym,Orya,Shrd,Taml,Telu,Tirh",
    "952:Beng,Deva,Gran,Gujr,Guru,Knda,Latn,Mlym,Orya,Taml,Telu,Tirh",
    "964:Beng,Deva,Dogr,Gong,Gonm,Gran,Gujr,Guru,Knda,Mahj,Mlym,Nand,Onao,Orya,Sind,Sinh,Sylo," ++
      "Takr,Taml,Telu,Tirh",
    "965:Beng,Deva,Dogr,Gong,Gonm,Gran,Gujr,Gukh,Guru,Knda,Limb,Mahj,Mlym,Nand,Onao,Orya,Sind," ++
      "Sinh,Sylo,Takr,Taml,Telu,Tirh",
    "966-96f:Deva,Dogr,Kthi,Mahj 9e6-9ef:Beng,Cakm,Sylo a66-a6f:Guru,Mult ae6-aef:Gujr,Khoj",
    "be6-bf3:Gran,Taml ce6-cef:Knda,Nand,Tutg 1040-1049:Cakm,Mymr,Tale 10fb:Geor,Glag,Latn",
    "16eb-16ed:Runr 1735-1736:Buhd,Hano,Tagb,Tglg 1802-1803:Mong,Phag 1805:Mong,Phag",
    "1cd0:Beng,Deva,Gran,Knda 1cd1:Deva 1cd2:Beng,Deva,Gran,Knda 1cd3:Deva,Gran,Knda 1cd4:Deva",
    "1cd5-1cd6:Beng,Deva 1cd7:Deva,Shrd 1cd8:Beng,Deva 1cd9:Deva,Shrd",
    "1cda:Deva,Knda,Mlym,Orya,Taml,Telu 1cdb:Deva 1cdc-1cdd:Deva,Shrd 1cde-1cdf:Deva",
    "1ce0:Deva,Shrd 1ce1:Beng,Deva 1ce2-1ce8:Deva 1ce9:Deva,Nand 1cea:Beng,Deva 1ceb-1cec:Deva",
    "1ced:Beng,Deva 1cee-1cf1:Deva 1cf2:Beng,Deva,Gran,Knda,Mlym,Nand,Orya,Sinh,Telu,Tirh,Tutg",
    "1cf3:Deva,Gran 1cf4:Deva,Gran,Knda,Tutg 1cf5-1cf6:Beng,Deva 1cf7:Beng 1cf8-1cf9:Deva,Gran",
    "1cfa:Nand 1dc0-1dc1:Grek 1df8:Cyrl,Latn,Syrc 1dfa:Syrc 202f:Latn,Mong,Phag 204f:Adlm,Arab",
    "205a:Cari,Geor,Glag,Hung,Lyci,Orkh 205d:Cari,Grek,Hung,Mero 20f0:Deva,Gran,Latn",
    "2e17:Copt,Latn 2e30:Avst,Orkh 2e31:Avst,Cari,Geor,Hung,Kthi,Lydi,Samr 2e3c:Dupl",
    "2e41:Adlm,Arab,Hung 2e43:Cyrl,Glag 2ff0-2fff:Hani,Tang",
    "3001:Bopo,Hang,Hani,Hira,Kana,Mong,Yiii 3002:Bopo,Hang,Hani,Hira,Kana,Mong,Phag,Yiii",
    "3003:Bopo,Hang,Hani,Hira,Kana 3006:Hani 3008-3009:Bopo,Hang,Hani,Hira,Kana,Mong,Tibt,Yiii",
    "300a-300b:Bopo,Hang,Hani,Hira,Kana,Lisu,Mong,Tibt,Yiii",
    "300c-3011:Bopo,Hang,Hani,Hira,Kana,Yiii 3013:Bopo,Hang,Hani,Hira,Kana",
    "3014-301b:Bopo,Hang,Hani,Hira,Kana,Yiii 301c-301f:Bopo,Hang,Hani,Hira,Kana",
    "302a-302d:Bopo,Hani 3030:Bopo,Hang,Hani,Hira,Kana 3031-3035:Hira,Kana",
    "3037:Bopo,Hang,Hani,Hira,Kana 303c-303d:Hani,Hira,Kana 303e-303f:Hani 3099-309c:Hira,Kana",
    "30a0:Hira,Kana 30fb:Bopo,Hang,Hani,Hira,Kana,Yiii 30fc:Hira,Kana 3190-319f:Hani",
    "31c0-31e5:Hani 31ef:Hani,Tang 3220-3247:Hani 3280-32b0:Hani 32c0-32cb:Hani 32ff:Hani",
    "3358-3370:Hani 337b-337f:Hani 33e0-33fe:Hani a66f:Cyrl,Glag a700-a707:Hani,Latn",
    "a830-a832:Deva,Dogr,Gujr,Guru,Khoj,Knda,Kthi,Mahj,Mlym,Modi,Nand,Shrd,Sind,Takr,Tirh,Tutg",
    "a833-a835:Deva,Dogr,Gujr,Guru,Khoj,Knda,Kthi,Mahj,Modi,Nand,Shrd,Sind,Takr,Tirh,Tutg",
    "a836-a837:Deva,Dogr,Gujr,Guru,Khoj,Kthi,Mahj,Modi,Sind,Takr,Tirh",
    "a838:Deva,Dogr,Gujr,Guru,Khoj,Kthi,Mahj,Modi,Shrd,Sind,Takr,Tirh",
    "a839:Deva,Dogr,Gujr,Guru,Khoj,Kthi,Mahj,Modi,Sind,Takr,Tirh a8f1:Beng,Deva,Tutg",
    "a8f3:Deva,Taml a92e:Kali,Latn,Mymr a9cf:Bugi,Java fd3e-fd3f:Arab,Nkoo fdf2:Arab,Thaa",
    "fdfd:Arab,Thaa fe45-fe46:Bopo,Hang,Hani,Hira,Kana ff61-ff65:Bopo,Hang,Hani,Hira,Kana,Yiii",
    "ff70:Hira,Kana ff9e-ff9f:Hira,Kana 10100-10101:Cpmn,Cprt,Linb 10102:Cprt,Linb",
    "10107-10133:Cprt,Lina,Linb 10137-1013f:Cprt,Linb 102e0-102fb:Arab,Copt 10af2:Mani,Ougr",
    "11301:Gran,Taml 11303:Gran,Taml 1133b-1133c:Gran,Taml 11fd0-11fd1:Gran,Taml 11fd3:Gran,Taml",
    "1bca0-1bca3:Dupl 1d360-1d371:Hani 1f250-1f251:Hani"]

/-- The characters that are used in the script with a code. -/
def usedIn (code : String) : CharSet :=
  let all (uses : List ScriptUse) : CharSet := .unionAll (uses.map ScriptUse.chars)
  (ofScript code \ all scriptUses) ∪ all (scriptUses.filter (·.codes.contains code))

/-- The code and the names of each script. -/
def scriptNames : List (List String) :=
  List.flatMap (fun line => (line.splitOn " ").map (·.splitOn "=")) [
    "Adlm=Adlam Aghb=Caucasian_Albanian Ahom=Ahom Arab=Arabic Armi=Imperial_Aramaic Armn=Armenian",
    "Avst=Avestan Bali=Balinese Bamu=Bamum Bass=Bassa_Vah Batk=Batak Beng=Bengali Bhks=Bhaiksuki",
    "Bopo=Bopomofo Brah=Brahmi Brai=Braille Bugi=Buginese Buhd=Buhid Cakm=Chakma",
    "Cans=Canadian_Aboriginal Cari=Carian Cham=Cham Cher=Cherokee Chrs=Chorasmian",
    "Copt=Coptic=Qaac Cpmn=Cypro_Minoan Cprt=Cypriot Cyrl=Cyrillic Deva=Devanagari",
    "Diak=Dives_Akuru Dogr=Dogra Dsrt=Deseret Dupl=Duployan Egyp=Egyptian_Hieroglyphs",
    "Elba=Elbasan Elym=Elymaic Ethi=Ethiopic Gara=Garay Geor=Georgian Glag=Glagolitic",
    "Gong=Gunjala_Gondi Gonm=Masaram_Gondi Goth=Gothic Gran=Grantha Grek=Greek Gujr=Gujarati",
    "Gukh=Gurung_Khema Guru=Gurmukhi Hang=Hangul Hani=Han Hano=Hanunoo Hatr=Hatran Hebr=Hebrew",
    "Hira=Hiragana Hluw=Anatolian_Hieroglyphs Hmng=Pahawh_Hmong Hmnp=Nyiakeng_Puachue_Hmong",
    "Hung=Old_Hungarian Ital=Old_Italic Java=Javanese Kali=Kayah_Li Kana=Katakana Kawi=Kawi",
    "Khar=Kharoshthi Khmr=Khmer Khoj=Khojki Kits=Khitan_Small_Script Knda=Kannada Krai=Kirat_Rai",
    "Kthi=Kaithi Lana=Tai_Tham Laoo=Lao Latn=Latin Lepc=Lepcha Limb=Limbu Lina=Linear_A",
    "Linb=Linear_B Lisu=Lisu Lyci=Lycian Lydi=Lydian Mahj=Mahajani Maka=Makasar Mand=Mandaic",
    "Mani=Manichaean Marc=Marchen Medf=Medefaidrin Mend=Mende_Kikakui Merc=Meroitic_Cursive",
    "Mero=Meroitic_Hieroglyphs Mlym=Malayalam Modi=Modi Mong=Mongolian Mroo=Mro Mtei=Meetei_Mayek",
    "Mult=Multani Mymr=Myanmar Nagm=Nag_Mundari Nand=Nandinagari Narb=Old_North_Arabian",
    "Nbat=Nabataean Newa=Newa Nkoo=Nko Nshu=Nushu Ogam=Ogham Olck=Ol_Chiki Onao=Ol_Onal",
    "Orkh=Old_Turkic Orya=Oriya Osge=Osage Osma=Osmanya Ougr=Old_Uyghur Palm=Palmyrene",
    "Pauc=Pau_Cin_Hau Perm=Old_Permic Phag=Phags_Pa Phli=Inscriptional_Pahlavi",
    "Phlp=Psalter_Pahlavi Phnx=Phoenician Plrd=Miao Prti=Inscriptional_Parthian Rjng=Rejang",
    "Rohg=Hanifi_Rohingya Runr=Runic Samr=Samaritan Sarb=Old_South_Arabian Saur=Saurashtra",
    "Sgnw=SignWriting Shaw=Shavian Shrd=Sharada Sidd=Siddham Sind=Khudawadi Sinh=Sinhala",
    "Sogd=Sogdian Sogo=Old_Sogdian Sora=Sora_Sompeng Soyo=Soyombo Sund=Sundanese Sunu=Sunuwar",
    "Sylo=Syloti_Nagri Syrc=Syriac Tagb=Tagbanwa Takr=Takri Tale=Tai_Le Talu=New_Tai_Lue",
    "Taml=Tamil Tang=Tangut Tavt=Tai_Viet Telu=Telugu Tfng=Tifinagh Tglg=Tagalog Thaa=Thaana",
    "Thai=Thai Tibt=Tibetan Tirh=Tirhuta Tnsa=Tangsa Todr=Todhri Toto=Toto Tutg=Tulu_Tigalari",
    "Ugar=Ugaritic Vaii=Vai Vith=Vithkuqi Wara=Warang_Citi Wcho=Wancho Xpeo=Old_Persian",
    "Xsux=Cuneiform Yezi=Yezidi Yiii=Yi Zanb=Zanabazar_Square Zinh=Inherited=Qaai Zyyy=Common"]

end CommandScript.Unicode
