import ShaderSketch.Idna.Mapping

/-!
# Direction of labels

The rule for names with characters written from right to left: every label keeps one direction.

## Main definitions

* `Idna.Direction` : the directional classes that the rule tells apart
* `Idna.direction` : the class of a character
* `Idna.mixesDirections` : whether a name needs the rule
* `Idna.keepsDirection` : the rule for one label
-/

namespace ShaderSketch.Idna

/-- Directional classes: letters from left to right and from right to left, Arabic letters, Arabic
and European numbers, separators and terminators of numbers, neutral characters, marks, and those
that no label may hold. -/
inductive Direction
  | left | right | arabicLetter | arabicNumber | europeanNumber | europeanSeparator
  | europeanTerminator | commonSeparator | boundaryNeutral | otherNeutral | mark | excluded
  deriving Repr, DecidableEq

/-- Ranges of the classes other than `left`, numbered in the order of `Direction`. -/
def directions : List Run := Run.ofText
    "0-8=8 9-d=b e-1b=8 1c-20=b 21-22=9 23-25=6 26-2a=9 2b=5 2c=7 2d=5 2e-2f=7 30-39=4 3a=7
    3b-40=9 5b-60=9 7b-7e=9 7f-84=8 85=b 86-9f=8 a0=7 a1=9 a2-a5=6 a6-a9=9 ab-ac=9 ad=8 ae-af=9
    b0-b1=6 b2-b3=4 b4=9 b6-b8=9 b9=4 bb-bf=9 d7=9 f7=9 2b9-2ba=9 2c2-2cf=9 2d2-2df=9 2e5-2ed=9
    2ef-2ff=9 300-36f=a 374-375=9 37e=9 384-385=9 387=9 3f6=9 483-489=a 58a=9 58d-58e=9 58f=6
    590=1 591-5bd=a 5be=1 5bf=a 5c0=1 5c1-5c2=a 5c3=1 5c4-5c5=a 5c6=1 5c7=a 5c8-5ff=1 600-605=3
    606-607=9 608=2 609-60a=6 60b=2 60c=7 60d=2 60e-60f=9 610-61a=a 61b-64a=2 64b-65f=a
    660-669=3 66a=6 66b-66c=3 66d-66f=2 670=a 671-6d5=2 6d6-6dc=a 6dd=3 6de=9 6df-6e4=a
    6e5-6e6=2 6e7-6e8=a 6e9=9 6ea-6ed=a 6ee-6ef=2 6f0-6f9=4 6fa-710=2 711=a 712-72f=2 730-74a=a
    74b-7a5=2 7a6-7b0=a 7b1-7bf=2 7c0-7ea=1 7eb-7f3=a 7f4-7f5=1 7f6-7f9=9 7fa-7fc=1 7fd=a
    7fe-815=1 816-819=a 81a=1 81b-823=a 824=1 825-827=a 828=1 829-82d=a 82e-858=1 859-85b=a
    85c-85f=1 860-88f=2 890-891=3 892-897=2 898-89f=a 8a0-8c9=2 8ca-8e1=a 8e2=3 8e3-902=a 93a=a
    93c=a 941-948=a 94d=a 951-957=a 962-963=a 981=a 9bc=a 9c1-9c4=a 9cd=a 9e2-9e3=a 9f2-9f3=6
    9fb=6 9fe=a a01-a02=a a3c=a a41-a42=a a47-a48=a a4b-a4d=a a51=a a70-a71=a a75=a a81-a82=a
    abc=a ac1-ac5=a ac7-ac8=a acd=a ae2-ae3=a af1=6 afa-aff=a b01=a b3c=a b3f=a b41-b44=a b4d=a
    b55-b56=a b62-b63=a b82=a bc0=a bcd=a bf3-bf8=9 bf9=6 bfa=9 c00=a c04=a c3c=a c3e-c40=a
    c46-c48=a c4a-c4d=a c55-c56=a c62-c63=a c78-c7e=9 c81=a cbc=a ccc-ccd=a ce2-ce3=a d00-d01=a
    d3b-d3c=a d41-d44=a d4d=a d62-d63=a d81=a dca=a dd2-dd4=a dd6=a e31=a e34-e3a=a e3f=6
    e47-e4e=a eb1=a eb4-ebc=a ec8-ece=a f18-f19=a f35=a f37=a f39=a f3a-f3d=9 f71-f7e=a
    f80-f84=a f86-f87=a f8d-f97=a f99-fbc=a fc6=a 102d-1030=a 1032-1037=a 1039-103a=a
    103d-103e=a 1058-1059=a 105e-1060=a 1071-1074=a 1082=a 1085-1086=a 108d=a 109d=a 135d-135f=a
    1390-1399=9 1400=9 1680=b 169b-169c=9 1712-1714=a 1732-1733=a 1752-1753=a 1772-1773=a
    17b4-17b5=a 17b7-17bd=a 17c6=a 17c9-17d3=a 17db=6 17dd=a 17f0-17f9=9 1800-180a=9 180b-180d=a
    180e=8 180f=a 1885-1886=a 18a9=a 1920-1922=a 1927-1928=a 1932=a 1939-193b=a 1940=9
    1944-1945=9 19de-19ff=9 1a17-1a18=a 1a1b=a 1a56=a 1a58-1a5e=a 1a60=a 1a62=a 1a65-1a6c=a
    1a73-1a7c=a 1a7f=a 1ab0-1ace=a 1b00-1b03=a 1b34=a 1b36-1b3a=a 1b3c=a 1b42=a 1b6b-1b73=a
    1b80-1b81=a 1ba2-1ba5=a 1ba8-1ba9=a 1bab-1bad=a 1be6=a 1be8-1be9=a 1bed=a 1bef-1bf1=a
    1c2c-1c33=a 1c36-1c37=a 1cd0-1cd2=a 1cd4-1ce0=a 1ce2-1ce8=a 1ced=a 1cf4=a 1cf8-1cf9=a
    1dc0-1dff=a 1fbd=9 1fbf-1fc1=9 1fcd-1fcf=9 1fdd-1fdf=9 1fed-1fef=9 1ffd-1ffe=9 2000-200a=b
    200b-200d=8 200f=1 2010-2027=9 2028-202e=b 202f=7 2030-2034=6 2035-2043=9 2044=7 2045-205e=9
    205f=b 2060-2065=8 2066-2069=b 206a-206f=8 2070=4 2074-2079=4 207a-207b=5 207c-207e=9
    2080-2089=4 208a-208b=5 208c-208e=9 20a0-20cf=6 20d0-20f0=a 2100-2101=9 2103-2106=9
    2108-2109=9 2114=9 2116-2118=9 211e-2123=9 2125=9 2127=9 2129=9 212e=6 213a-213b=9
    2140-2144=9 214a-214d=9 2150-215f=9 2189-218b=9 2190-2211=9 2212=5 2213=6 2214-2335=9
    237b-2394=9 2396-2426=9 2440-244a=9 2460-2487=9 2488-249b=4 24ea-26ab=9 26ad-27ff=9
    2900-2b73=9 2b76-2b95=9 2b97-2bff=9 2ce5-2cea=9 2cef-2cf1=a 2cf9-2cff=9 2d7f=a 2de0-2dff=a
    2e00-2e5d=9 2e80-2e99=9 2e9b-2ef3=9 2f00-2fd5=9 2ff0-2ffb=9 3000=b 3001-3004=9 3008-3020=9
    302a-302d=a 3030=9 3036-3037=9 303d-303f=9 3099-309a=a 309b-309c=9 30a0=9 30fb=9 31c0-31e3=9
    321d-321e=9 3250-325f=9 327c-327e=9 32b1-32bf=9 32cc-32cf=9 3377-337a=9 33de-33df=9 33ff=9
    4dc0-4dff=9 a490-a4c6=9 a60d-a60f=9 a66f-a672=a a673=9 a674-a67d=a a67e-a67f=9 a69e-a69f=a
    a6f0-a6f1=a a700-a721=9 a788=9 a802=a a806=a a80b=a a825-a826=a a828-a82b=9 a82c=a
    a838-a839=6 a874-a877=9 a8c4-a8c5=a a8e0-a8f1=a a8ff=a a926-a92d=a a947-a951=a a980-a982=a
    a9b3=a a9b6-a9b9=a a9bc-a9bd=a a9e5=a aa29-aa2e=a aa31-aa32=a aa35-aa36=a aa43=a aa4c=a
    aa7c=a aab0=a aab2-aab4=a aab7-aab8=a aabe-aabf=a aac1=a aaec-aaed=a aaf6=a ab6a-ab6b=9
    abe5=a abe8=a abed=a fb1d=1 fb1e=a fb1f-fb28=1 fb29=5 fb2a-fb4f=1 fb50-fd3d=2 fd3e-fd4f=9
    fd50-fdce=2 fdcf=9 fdd0-fdef=8 fdf0-fdfc=2 fdfd-fdff=9 fe00-fe0f=a fe10-fe19=9 fe20-fe2f=a
    fe30-fe4f=9 fe50=7 fe51=9 fe52=7 fe54=9 fe55=7 fe56-fe5e=9 fe5f=6 fe60-fe61=9 fe62-fe63=5
    fe64-fe66=9 fe68=9 fe69-fe6a=6 fe6b=9 fe70-fefe=2 feff=8 ff01-ff02=9 ff03-ff05=6 ff06-ff0a=9
    ff0b=5 ff0c=7 ff0d=5 ff0e-ff0f=7 ff10-ff19=4 ff1a=7 ff1b-ff20=9 ff3b-ff40=9 ff5b-ff65=9
    ffe0-ffe1=6 ffe2-ffe4=9 ffe5-ffe6=6 ffe8-ffee=9 fff0-fff8=8 fff9-fffd=9 fffe-ffff=8 10101=9
    10140-1018c=9 10190-1019c=9 101a0=9 101fd=a 102e0=a 102e1-102fb=4 10376-1037a=a
    10800-1091e=1 1091f=9 10920-10a00=1 10a01-10a03=a 10a04=1 10a05-10a06=a 10a07-10a0b=1
    10a0c-10a0f=a 10a10-10a37=1 10a38-10a3a=a 10a3b-10a3e=1 10a3f=a 10a40-10ae4=1 10ae5-10ae6=a
    10ae7-10b38=1 10b39-10b3f=9 10b40-10cff=1 10d00-10d23=2 10d24-10d27=a 10d28-10d2f=2
    10d30-10d39=3 10d3a-10d3f=2 10d40-10e5f=1 10e60-10e7e=3 10e7f-10eaa=1 10eab-10eac=a
    10ead-10ebf=1 10ec0-10efc=2 10efd-10eff=a 10f00-10f2f=1 10f30-10f45=2 10f46-10f50=a
    10f51-10f6f=2 10f70-10f81=1 10f82-10f85=a 10f86-10fff=1 11001=a 11038-11046=a 11052-11065=9
    11070=a 11073-11074=a 1107f-11081=a 110b3-110b6=a 110b9-110ba=a 110c2=a 11100-11102=a
    11127-1112b=a 1112d-11134=a 11173=a 11180-11181=a 111b6-111be=a 111c9-111cc=a 111cf=a
    1122f-11231=a 11234=a 11236-11237=a 1123e=a 11241=a 112df=a 112e3-112ea=a 11300-11301=a
    1133b-1133c=a 11340=a 11366-1136c=a 11370-11374=a 11438-1143f=a 11442-11444=a 11446=a
    1145e=a 114b3-114b8=a 114ba=a 114bf-114c0=a 114c2-114c3=a 115b2-115b5=a 115bc-115bd=a
    115bf-115c0=a 115dc-115dd=a 11633-1163a=a 1163d=a 1163f-11640=a 11660-1166c=9 116ab=a
    116ad=a 116b0-116b5=a 116b7=a 1171d-1171f=a 11722-11725=a 11727-1172b=a 1182f-11837=a
    11839-1183a=a 1193b-1193c=a 1193e=a 11943=a 119d4-119d7=a 119da-119db=a 119e0=a
    11a01-11a06=a 11a09-11a0a=a 11a33-11a38=a 11a3b-11a3e=a 11a47=a 11a51-11a56=a 11a59-11a5b=a
    11a8a-11a96=a 11a98-11a99=a 11c30-11c36=a 11c38-11c3d=a 11c92-11ca7=a 11caa-11cb0=a
    11cb2-11cb3=a 11cb5-11cb6=a 11d31-11d36=a 11d3a=a 11d3c-11d3d=a 11d3f-11d45=a 11d47=a
    11d90-11d91=a 11d95=a 11d97=a 11ef3-11ef4=a 11f00-11f01=a 11f36-11f3a=a 11f40=a 11f42=a
    11fd5-11fdc=9 11fdd-11fe0=6 11fe1-11ff1=9 13440=a 13447-13455=a 16af0-16af4=a 16b30-16b36=a
    16f4f=a 16f8f-16f92=a 16fe2=9 16fe4=a 1bc9d-1bc9e=a 1bca0-1bca3=8 1cf00-1cf2d=a
    1cf30-1cf46=a 1d167-1d169=a 1d173-1d17a=8 1d17b-1d182=a 1d185-1d18b=a 1d1aa-1d1ad=a
    1d1e9-1d1ea=9 1d200-1d241=9 1d242-1d244=a 1d245=9 1d300-1d356=9 1d6db=9 1d715=9 1d74f=9
    1d789=9 1d7c3=9 1d7ce-1d7ff=4 1da00-1da36=a 1da3b-1da6c=a 1da75=a 1da84=a 1da9b-1da9f=a
    1daa1-1daaf=a 1e000-1e006=a 1e008-1e018=a 1e01b-1e021=a 1e023-1e024=a 1e026-1e02a=a 1e08f=a
    1e130-1e136=a 1e2ae=a 1e2ec-1e2ef=a 1e2ff=6 1e4ec-1e4ef=a 1e800-1e8cf=1 1e8d0-1e8d6=a
    1e8d7-1e943=1 1e944-1e94a=a 1e94b-1ec6f=1 1ec70-1ecbf=2 1ecc0-1ecff=1 1ed00-1ed4f=2
    1ed50-1edff=1 1ee00-1eeef=2 1eef0-1eef1=9 1eef2-1eeff=2 1ef00-1efff=1 1f000-1f02b=9
    1f030-1f093=9 1f0a0-1f0ae=9 1f0b1-1f0bf=9 1f0c1-1f0cf=9 1f0d1-1f0f5=9 1f100-1f10a=4
    1f10b-1f10f=9 1f12f=9 1f16a-1f16f=9 1f1ad=9 1f260-1f265=9 1f300-1f6d7=9 1f6dc-1f6ec=9
    1f6f0-1f6fc=9 1f700-1f776=9 1f77b-1f7d9=9 1f7e0-1f7eb=9 1f7f0=9 1f800-1f80b=9 1f810-1f847=9
    1f850-1f859=9 1f860-1f887=9 1f890-1f8ad=9 1f8b0-1f8b1=9 1f900-1fa53=9 1fa60-1fa6d=9
    1fa70-1fa7c=9 1fa80-1fa88=9 1fa90-1fabd=9 1fabf-1fac5=9 1face-1fadb=9 1fae0-1fae8=9
    1faf0-1faf8=9 1fb00-1fb92=9 1fb94-1fbca=9 1fbf0-1fbf9=4 1fffe-1ffff=8 2fffe-2ffff=8
    3fffe-3ffff=8 4fffe-4ffff=8 5fffe-5ffff=8 6fffe-6ffff=8 7fffe-7ffff=8 8fffe-8ffff=8
    9fffe-9ffff=8 afffe-affff=8 bfffe-bffff=8 cfffe-cffff=8 dfffe-e00ff=8 e0100-e01ef=a
    e01f0-e0fff=8 efffe-effff=8 ffffe-fffff=8 10fffe-10ffff=8"

/-- The class with a number of the table. -/
def Direction.ofNumber : Nat → Direction
  | 1 => .right
  | 2 => .arabicLetter
  | 3 => .arabicNumber
  | 4 => .europeanNumber
  | 5 => .europeanSeparator
  | 6 => .europeanTerminator
  | 7 => .commonSeparator
  | 8 => .boundaryNeutral
  | 9 => .otherNeutral
  | 10 => .mark
  | 11 => .excluded
  | _ => .left

/-- The class of a character. -/
def direction (c : Char) : Direction :=
  .ofNumber (((directions.findSome? (·.replacement? c.toNat)).bind List.head?).getD 0)

/-- Whether a character makes a name need the rule. -/
def Direction.isRightward : Direction → Bool
  | .right | .arabicLetter | .arabicNumber => true
  | _ => false

/-- Whether some character of a name makes it need the rule. -/
def mixesDirections (name : List Char) : Bool :=
  name.any fun c => 0x590 ≤ c.toNat && (direction c).isRightward

/-- Whether a class may stand in a label from right to left. -/
def Direction.inRight : Direction → Bool
  | .right | .arabicLetter | .arabicNumber | .europeanNumber | .europeanSeparator
  | .commonSeparator | .europeanTerminator | .otherNeutral | .boundaryNeutral | .mark => true
  | _ => false

/-- Whether a class may stand in a label from left to right. -/
def Direction.inLeft : Direction → Bool
  | .left | .europeanNumber | .europeanSeparator | .commonSeparator | .europeanTerminator
  | .otherNeutral | .boundaryNeutral | .mark => true
  | _ => false

/-- The rule for one label. -/
def keepsDirection (label : List Char) : Bool :=
  let ds := label.map direction
  let last? := (ds.reverse.dropWhile (· = .mark)).head?
  match ds, last? with
  | [], _ => true
  | first :: _, last? =>
    match first with
    | .right | .arabicLetter =>
      ds.all Direction.inRight
        && (match last? with
          | some .right | some .arabicLetter | some .europeanNumber | some .arabicNumber => true
          | _ => false)
        && !(ds.contains .europeanNumber && ds.contains .arabicNumber)
    | .left =>
      ds.all Direction.inLeft
        && (match last? with
          | some .left | some .europeanNumber => true
          | _ => false)
    | _ => false

end ShaderSketch.Idna
