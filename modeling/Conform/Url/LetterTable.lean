import Conform.Text.CaseTable

namespace Conform.Url.Domain

def plainRuns : List Text.CaseRun := [
  ⟨0xAA, 0xAA, 1, -73⟩, ⟨0xB2, 0xB3, 1, -128⟩, ⟨0xB5, 0xB5, 1, 775⟩, ⟨0xB9, 0xB9, 1, -136⟩, ⟨0xBA, 0xBA, 1, -75⟩,
  ⟨0x17F, 0x17F, 1, -268⟩, ⟨0x2B0, 0x2B0, 1, -584⟩, ⟨0x2B1, 0x2B1, 1, -75⟩, ⟨0x2B2, 0x2B2, 1, -584⟩,
  ⟨0x2B3, 0x2B3, 1, -577⟩, ⟨0x2B4, 0x2B4, 1, -59⟩, ⟨0x2B5, 0x2B5, 1, -58⟩, ⟨0x2B6, 0x2B6, 1, -53⟩,
  ⟨0x2B7, 0x2B7, 1, -576⟩, ⟨0x2B8, 0x2B8, 1, -575⟩, ⟨0x2E0, 0x2E0, 1, -125⟩, ⟨0x2E1, 0x2E1, 1, -629⟩,
  ⟨0x2E2, 0x2E2, 1, -623⟩, ⟨0x2E3, 0x2E3, 1, -619⟩, ⟨0x2E4, 0x2E4, 1, -79⟩, ⟨0x340, 0x341, 1, -64⟩,
  ⟨0x343, 0x343, 1, -48⟩, ⟨0x345, 0x345, 1, 116⟩, ⟨0x374, 0x374, 1, -187⟩, ⟨0x37E, 0x37E, 1, -835⟩,
  ⟨0x387, 0x387, 1, -720⟩, ⟨0x3D0, 0x3D0, 1, -30⟩, ⟨0x3D1, 0x3D1, 1, -25⟩, ⟨0x3D2, 0x3D2, 1, -13⟩,
  ⟨0x3D3, 0x3D3, 1, -6⟩, ⟨0x3D4, 0x3D4, 1, -9⟩, ⟨0x3D5, 0x3D5, 1, -15⟩, ⟨0x3D6, 0x3D6, 1, -22⟩,
  ⟨0x3F0, 0x3F0, 1, -54⟩, ⟨0x3F1, 0x3F1, 1, -48⟩, ⟨0x3F2, 0x3F2, 1, -47⟩, ⟨0x3F5, 0x3F5, 1, -64⟩,
  ⟨0x3F9, 0x3F9, 1, -54⟩, ⟨0xF0C, 0xF0C, 1, -1⟩, ⟨0x10FC, 0x10FC, 1, -32⟩, ⟨0x13A0, 0x13F5, 1, 0⟩,
  ⟨0x13F8, 0x13FD, 1, -8⟩, ⟨0x1C80, 0x1C80, 1, -6222⟩, ⟨0x1C81, 0x1C81, 1, -6221⟩, ⟨0x1C82, 0x1C82, 1, -6212⟩,
  ⟨0x1C83, 0x1C84, 1, -6210⟩, ⟨0x1C85, 0x1C85, 1, -6211⟩, ⟨0x1C86, 0x1C86, 1, -6204⟩, ⟨0x1C87, 0x1C87, 1, -6180⟩,
  ⟨0x1C88, 0x1C88, 1, 35267⟩, ⟨0x1D2C, 0x1D2C, 1, -7371⟩, ⟨0x1D2D, 0x1D2D, 1, -7239⟩, ⟨0x1D2E, 0x1D30, 2, -7372⟩,
  ⟨0x1D31, 0x1D31, 1, -7372⟩, ⟨0x1D32, 0x1D32, 1, -6997⟩, ⟨0x1D33, 0x1D3A, 1, -7372⟩, ⟨0x1D3C, 0x1D3C, 1, -7373⟩,
  ⟨0x1D3D, 0x1D3D, 1, -6938⟩, ⟨0x1D3E, 0x1D3E, 1, -7374⟩, ⟨0x1D3F, 0x1D3F, 1, -7373⟩, ⟨0x1D40, 0x1D41, 1, -7372⟩,
  ⟨0x1D42, 0x1D42, 1, -7371⟩, ⟨0x1D43, 0x1D43, 1, -7394⟩, ⟨0x1D44, 0x1D45, 1, -6900⟩, ⟨0x1D46, 0x1D46, 1, -68⟩,
  ⟨0x1D47, 0x1D47, 1, -7397⟩, ⟨0x1D48, 0x1D49, 1, -7396⟩, ⟨0x1D4A, 0x1D4A, 1, -6897⟩, ⟨0x1D4B, 0x1D4C, 1, -6896⟩,
  ⟨0x1D4D, 0x1D4D, 1, -7398⟩, ⟨0x1D4F, 0x1D4F, 1, -7396⟩, ⟨0x1D50, 0x1D50, 1, -7395⟩, ⟨0x1D51, 0x1D51, 1, -7174⟩,
  ⟨0x1D52, 0x1D52, 1, -7395⟩, ⟨0x1D53, 0x1D53, 1, -6911⟩, ⟨0x1D54, 0x1D55, 1, -62⟩, ⟨0x1D56, 0x1D56, 1, -7398⟩,
  ⟨0x1D57, 0x1D58, 1, -7395⟩, ⟨0x1D59, 0x1D59, 1, -60⟩, ⟨0x1D5A, 0x1D5A, 1, -6891⟩, ⟨0x1D5B, 0x1D5B, 1, -7397⟩,
  ⟨0x1D5C, 0x1D5C, 1, -55⟩, ⟨0x1D5D, 0x1D5F, 1, -6571⟩, ⟨0x1D60, 0x1D61, 1, -6554⟩, ⟨0x1D62, 0x1D62, 1, -7417⟩,
  ⟨0x1D63, 0x1D63, 1, -7409⟩, ⟨0x1D64, 0x1D65, 1, -7407⟩, ⟨0x1D66, 0x1D67, 1, -6580⟩, ⟨0x1D68, 0x1D68, 1, -6567⟩,
  ⟨0x1D69, 0x1D6A, 1, -6563⟩, ⟨0x1D78, 0x1D78, 1, -6459⟩, ⟨0x1D9B, 0x1D9B, 1, -6985⟩, ⟨0x1D9C, 0x1D9C, 1, -7481⟩,
  ⟨0x1D9D, 0x1D9D, 1, -6984⟩, ⟨0x1D9E, 0x1D9E, 1, -7342⟩, ⟨0x1D9F, 0x1D9F, 1, -6979⟩, ⟨0x1DA0, 0x1DA0, 1, -7482⟩,
  ⟨0x1DA1, 0x1DA1, 1, -6978⟩, ⟨0x1DA2, 0x1DA2, 1, -6977⟩, ⟨0x1DA3, 0x1DA3, 1, -6974⟩, ⟨0x1DA4, 0x1DA6, 1, -6972⟩,
  ⟨0x1DA7, 0x1DA7, 1, -44⟩, ⟨0x1DA8, 0x1DA8, 1, -6923⟩, ⟨0x1DA9, 0x1DA9, 1, -6972⟩, ⟨0x1DAA, 0x1DAA, 1, -37⟩,
  ⟨0x1DAB, 0x1DAB, 1, -6924⟩, ⟨0x1DAC, 0x1DAC, 1, -6971⟩, ⟨0x1DAD, 0x1DAD, 1, -6973⟩, ⟨0x1DAE, 0x1DB1, 1, -6972⟩,
  ⟨0x1DB2, 0x1DB2, 1, -6970⟩, ⟨0x1DB3, 0x1DB4, 1, -6961⟩, ⟨0x1DB5, 0x1DB5, 1, -7178⟩, ⟨0x1DB6, 0x1DB7, 1, -6957⟩,
  ⟨0x1DB8, 0x1DB8, 1, -156⟩, ⟨0x1DB9, 0x1DBA, 1, -6958⟩, ⟨0x1DBB, 0x1DBB, 1, -7489⟩, ⟨0x1DBC, 0x1DBE, 1, -6956⟩,
  ⟨0x1DBF, 0x1DBF, 1, -6663⟩, ⟨0x1E9B, 0x1E9B, 1, -58⟩, ⟨0x1F71, 0x1F71, 1, -7109⟩, ⟨0x1F73, 0x1F73, 1, -7110⟩,
  ⟨0x1F75, 0x1F75, 1, -7111⟩, ⟨0x1F77, 0x1F77, 1, -7112⟩, ⟨0x1F79, 0x1F79, 1, -7085⟩, ⟨0x1F7B, 0x1F7B, 1, -7086⟩,
  ⟨0x1F7D, 0x1F7D, 1, -7087⟩, ⟨0x1FBB, 0x1FBB, 1, -7183⟩, ⟨0x1FBE, 0x1FBE, 1, -7173⟩, ⟨0x1FC9, 0x1FC9, 1, -7196⟩,
  ⟨0x1FCB, 0x1FCB, 1, -7197⟩, ⟨0x1FD3, 0x1FD3, 1, -7235⟩, ⟨0x1FDB, 0x1FDB, 1, -7212⟩, ⟨0x1FE3, 0x1FE3, 1, -7219⟩,
  ⟨0x1FEB, 0x1FEB, 1, -7198⟩, ⟨0x1FEF, 0x1FEF, 1, -8079⟩, ⟨0x1FF9, 0x1FFB, 2, -7213⟩, ⟨0x2011, 0x2011, 1, -1⟩,
  ⟨0x2024, 0x2024, 1, -8182⟩, ⟨0x2070, 0x2070, 1, -8256⟩, ⟨0x2071, 0x2071, 1, -8200⟩, ⟨0x2074, 0x2079, 1, -8256⟩,
  ⟨0x207A, 0x207A, 1, -8271⟩, ⟨0x207B, 0x207B, 1, 407⟩, ⟨0x207C, 0x207C, 1, -8255⟩, ⟨0x207D, 0x207E, 1, -8277⟩,
  ⟨0x207F, 0x207F, 1, -8209⟩, ⟨0x2080, 0x2089, 1, -8272⟩, ⟨0x208A, 0x208A, 1, -8287⟩, ⟨0x208B, 0x208B, 1, 391⟩,
  ⟨0x208C, 0x208C, 1, -8271⟩, ⟨0x208D, 0x208E, 1, -8293⟩, ⟨0x2090, 0x2090, 1, -8239⟩, ⟨0x2091, 0x2091, 1, -8236⟩,
  ⟨0x2092, 0x2092, 1, -8227⟩, ⟨0x2093, 0x2093, 1, -8219⟩, ⟨0x2094, 0x2094, 1, -7739⟩, ⟨0x2095, 0x2095, 1, -8237⟩,
  ⟨0x2096, 0x2099, 1, -8235⟩, ⟨0x209A, 0x209A, 1, -8234⟩, ⟨0x209B, 0x209C, 1, -8232⟩, ⟨0x2102, 0x2102, 1, -8351⟩,
  ⟨0x2107, 0x2107, 1, -7852⟩, ⟨0x210A, 0x210B, 1, -8355⟩, ⟨0x210C, 0x210C, 1, -8356⟩, ⟨0x210D, 0x210D, 1, -8357⟩,
  ⟨0x210E, 0x210E, 1, -8358⟩, ⟨0x210F, 0x210F, 1, -8168⟩, ⟨0x2110, 0x2110, 1, -8359⟩, ⟨0x2111, 0x2111, 1, -8360⟩,
  ⟨0x2112, 0x2112, 1, -8358⟩, ⟨0x2113, 0x2115, 2, -8359⟩, ⟨0x2119, 0x211B, 1, -8361⟩, ⟨0x211C, 0x211C, 1, -8362⟩,
  ⟨0x211D, 0x211D, 1, -8363⟩, ⟨0x2124, 0x2124, 1, -8362⟩, ⟨0x2128, 0x2128, 1, -8366⟩, ⟨0x212C, 0x212D, 1, -8394⟩,
  ⟨0x212F, 0x212F, 1, -8394⟩, ⟨0x2130, 0x2131, 1, -8395⟩, ⟨0x2133, 0x2133, 1, -8390⟩, ⟨0x2134, 0x2134, 1, -8389⟩,
  ⟨0x2135, 0x2138, 1, -7013⟩, ⟨0x2139, 0x2139, 1, -8400⟩, ⟨0x213C, 0x213C, 1, -7548⟩, ⟨0x213D, 0x213D, 1, -7562⟩,
  ⟨0x213E, 0x213E, 1, -7563⟩, ⟨0x213F, 0x213F, 1, -7551⟩, ⟨0x2140, 0x2140, 1, 209⟩, ⟨0x2145, 0x2145, 1, -8417⟩,
  ⟨0x2146, 0x2147, 1, -8418⟩, ⟨0x2148, 0x2149, 1, -8415⟩, ⟨0x2160, 0x2160, 1, -8439⟩, ⟨0x2164, 0x2164, 1, -8430⟩,
  ⟨0x2169, 0x2169, 1, -8433⟩, ⟨0x216C, 0x216C, 1, -8448⟩, ⟨0x216D, 0x216E, 1, -8458⟩, ⟨0x216F, 0x216F, 1, -8450⟩,
  ⟨0x2170, 0x2170, 1, -8455⟩, ⟨0x2174, 0x2174, 1, -8446⟩, ⟨0x2179, 0x2179, 1, -8449⟩, ⟨0x217C, 0x217C, 1, -8464⟩,
  ⟨0x217D, 0x217E, 1, -8474⟩, ⟨0x217F, 0x217F, 1, -8466⟩, ⟨0x2329, 0x232A, 1, 3295⟩, ⟨0x2460, 0x2468, 1, -9263⟩,
  ⟨0x24B6, 0x24CF, 1, -9301⟩, ⟨0x24D0, 0x24E9, 1, -9327⟩, ⟨0x24EA, 0x24EA, 1, -9402⟩, ⟨0xFF01, 0xFF20, 1, -65248⟩,
  ⟨0xFF21, 0xFF3A, 1, -65216⟩, ⟨0xFF3B, 0xFF5E, 1, -65248⟩]

-- A mark, the letters that take it, and what each becomes.
def compositions : List (Char × String × String) := [
  ('\u0300', "aeiouünеиēōwâăêôơưyἀἁἐἑἠἡἰἱὀὁὐὑὠὡαεηιουω᾿ϊ῾ϋ¨",
    "àèìòùǜǹѐѝḕṑẁầằềồờừỳἂἃἒἓἢἣἲἳὂὃὒὓὢὣὰὲὴὶὸὺὼ῍ῒ῝ῢ῭"),
  ('\u0301', "aeiouyclnrszügåæø¨ϊαεηιϋουωϒгкçēïkmõōpũwâăêôơưἀἁἐἑἠἡἰἱὀὁὐὑὠὡ᾿῾",
    "áéíóúýćĺńŕśźǘǵǻǽǿ΅ΐάέήίΰόύώϓѓќḉḗḯḱḿṍṓṕṹẃấắếốớứἄἅἔἕἤἥἴἵὄὅὔὕὤὥ῎῞"),
  ('\u0302', "aeioucghjswyzạẹọ",
    "âêîôûĉĝĥĵŝŵŷẑậệộ"),
  ('\u0303', "anoiuvâăeêôơưy",
    "ãñõĩũṽẫẵẽễỗỡữỹ"),
  ('\u0304', "aeiouüäȧæǫöõȯyиуgḷṛαιυ",
    "āēīōūǖǟǡǣǭȫȭȱȳӣӯḡḹṝᾱῑῡ"),
  ('\u0306', "aegiouиужаеȩạαιυ",
    "ăĕğĭŏŭйўӂӑӗḝặᾰῐῠ"),
  ('\u0307', "cegzaobdfhmnprsśšṣtwxyſ",
    "ċėġżȧȯḃḋḟḣṁṅṗṙṡṥṧṩṫẇẋẏẛ"),
  ('\u0308', "aeiouyιυϒеіаәжзиоөэучыhõūwxt",
    "äëïöüÿϊϋϔёїӓӛӝӟӥӧӫӭӱӵӹḧṏṻẅẍẗ"),
  ('\u0309', "aâăeêioôơuưy",
    "ảẩẳẻểỉỏổởủửỷ"),
  ('\u030a', "auwy",
    "åůẘẙ"),
  ('\u030b', "ouу",
    "őűӳ"),
  ('\u030c', "cdelnrstzaiouügkʒjh",
    "čďěľňřšťžǎǐǒǔǚǧǩǯǰȟ"),
  ('\u030f', "aeioruѵ",
    "ȁȅȉȍȑȕѷ"),
  ('\u0311', "aeioru",
    "ȃȇȋȏȓȗ"),
  ('\u0313', "αεηιουωρ",
    "ἀἐἠἰὀὐὠῤ"),
  ('\u0314', "αεηιουωρ",
    "ἁἑἡἱὁὑὡῥ"),
  ('\u031b', "ou",
    "ơư"),
  ('\u0323', "bdhklmnrstvwzaeioơuưy",
    "ḅḍḥḳḷṃṇṛṣṭṿẉẓạẹịọợụựỵ"),
  ('\u0324', "u",
    "ṳ"),
  ('\u0325', "a",
    "ḁ"),
  ('\u0326', "st",
    "șț"),
  ('\u0327', "cgklnrstedh",
    "çģķļņŗşţȩḑḩ"),
  ('\u0328', "aeiuo",
    "ąęįųǫ"),
  ('\u032d', "delntu",
    "ḓḙḽṋṱṷ"),
  ('\u032e', "h",
    "ḫ"),
  ('\u0330', "eiu",
    "ḛḭṵ"),
  ('\u0331', "bdklnrtzh",
    "ḇḏḵḻṉṟṯẕẖ"),
  ('\u0338', "←→↔⇐⇔⇒∃∈∋∣∥∼≃≅≈=≡≍<>≤≥≲≳≶≷≺≻⊂⊃⊆⊇⊢⊨⊩⊫≼≽⊑⊒⊲⊳⊴⊵",
    "↚↛↮⇍⇎⇏∄∉∌∤∦≁≄≇≉≠≢≭≮≯≰≱≴≵≸≹⊀⊁⊄⊅⊈⊉⊬⊭⊮⊯⋠⋡⋢⋣⋪⋫⋬⋭"),
  ('\u0342', "ἀἁἠἡἰἱὐὑὠὡα¨η᾿ιϊ῾υϋω",
    "ἆἇἦἧἶἷὖὗὦὧᾶ῁ῆ῏ῖῗ῟ῦῧῶ"),
  ('\u0345', "ἀἁἂἃἄἅἆἇἠἡἢἣἤἥἦἧὠὡὢὣὤὥὦὧὰαάᾶὴηήῆὼωώῶ",
    "ᾀᾁᾂᾃᾄᾅᾆᾇᾐᾑᾒᾓᾔᾕᾖᾗᾠᾡᾢᾣᾤᾥᾦᾧᾲᾳᾴᾷῂῃῄῇῲῳῴῷ"),
  ('\u0653', "ا",
    "آ"),
  ('\u0654', "اويەہے",
    "أؤئۀۂۓ"),
  ('\u0655', "ا",
    "إ"),
  ('\u093c', "नरळ",
    "ऩऱऴ"),
  ('\u09be', "\u09c7",
    "\u09cb"),
  ('\u09d7', "\u09c7",
    "\u09cc"),
  ('\u0b3e', "\u0b47",
    "\u0b4b"),
  ('\u0b56', "\u0b47",
    "\u0b48"),
  ('\u0b57', "\u0b47",
    "\u0b4c"),
  ('\u0bbe', "\u0bc6\u0bc7",
    "\u0bca\u0bcb"),
  ('\u0bd7', "ஒ\u0bc6",
    "ஔ\u0bcc"),
  ('\u0c56', "\u0c46",
    "\u0c48"),
  ('\u0cc2', "\u0cc6",
    "\u0cca"),
  ('\u0cd5', "\u0cbf\u0cc6\u0cca",
    "\u0cc0\u0cc7\u0ccb"),
  ('\u0cd6', "\u0cc6",
    "\u0cc8"),
  ('\u0d3e', "\u0d46\u0d47",
    "\u0d4a\u0d4b"),
  ('\u0d57', "\u0d46",
    "\u0d4c"),
  ('\u0dca', "\u0dd9\u0ddc",
    "\u0dda\u0ddd"),
  ('\u0dcf', "\u0dd9",
    "\u0ddc"),
  ('\u0ddf', "\u0dd9",
    "\u0dde"),
  ('\u102e', "ဥ",
    "ဦ"),
  ('\u1b35', "ᬅᬇᬉᬋᬍᬑ\u1b3a\u1b3c\u1b3e\u1b3f\u1b42",
    "ᬆᬈᬊᬌᬎᬒ\u1b3b\u1b3d\u1b40\u1b41\u1b43"),
  ('\u3099', "かきくけこさしすせそたちつてとはひふへほうゝカキクケコサシスセソタチツテトハヒフヘホウワヰヱヲヽ",
    "がぎぐげござじずぜぞだぢづでどばびぶべぼゔゞガギグゲゴザジズゼゾダヂヅデドバビブベボヴヷヸヹヺヾ"),
  ('\u309a', "はひふへほハヒフヘホ",
    "ぱぴぷぺぽパピプペポ")]

end Conform.Url.Domain
