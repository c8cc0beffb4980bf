import Soap.Text.CodeTable

/-!
# Marks

A mark is a character that is written with the one before it: over, under or through it (a
nonspacing mark), or beside it. The table is that of Unicode 17.
-/

namespace Soap.Text

/-- How a mark is written. -/
inductive Mark where
  | nonspacing
  | spacing
deriving DecidableEq, Repr

/-- The marks: `n` stands for nonspacing, `s` for spacing. -/
def markRows : List String :=
  ["300-36fn 483-489n 591-5bdn 5bfn 5c1-5c2n 5c4-5c5n 5c7n 610-61an 64b-65fn 670n 6d6-6dcn",
    "6df-6e4n 6e7-6e8n 6ea-6edn 711n 730-74an 7a6-7b0n 7eb-7f3n 7fdn 816-819n 81b-823n 825-827n",
    "829-82dn 859-85bn 897-89fn 8ca-8e1n 8e3-902n 903s 93an 93bs 93cn 93e-940s 941-948n 949-94cs",
    "94dn 94e-94fs 951-957n 962-963n 981n 982-983s 9bcn 9be-9c0s 9c1-9c4n 9c7-9c8s 9cb-9ccs 9cdn",
    "9d7s 9e2-9e3n 9fen a01-a02n a03s a3cn a3e-a40s a41-a42n a47-a48n a4b-a4dn a51n a70-a71n a75n",
    "a81-a82n a83s abcn abe-ac0s ac1-ac5n ac7-ac8n ac9s acb-accs acdn ae2-ae3n afa-affn b01n",
    "b02-b03s b3cn b3es b3fn b40s b41-b44n b47-b48s b4b-b4cs b4dn b55-b56n b57s b62-b63n b82n",
    "bbe-bbfs bc0n bc1-bc2s bc6-bc8s bca-bccs bcdn bd7s c00n c01-c03s c04n c3cn c3e-c40n c41-c44s",
    "c46-c48n c4a-c4dn c55-c56n c62-c63n c81n c82-c83s cbcn cbes cbfn cc0-cc4s cc6n cc7-cc8s",
    "cca-ccbs ccc-ccdn cd5-cd6s ce2-ce3n cf3s d00-d01n d02-d03s d3b-d3cn d3e-d40s d41-d44n d46-d48s",
    "d4a-d4cs d4dn d57s d62-d63n d81n d82-d83s dcan dcf-dd1s dd2-dd4n dd6n dd8-ddfs df2-df3s e31n",
    "e34-e3an e47-e4en eb1n eb4-ebcn ec8-ecen f18-f19n f35n f37n f39n f3e-f3fs f71-f7en f7fs",
    "f80-f84n f86-f87n f8d-f97n f99-fbcn fc6n 102b-102cs 102d-1030n 1031s 1032-1037n 1038s",
    "1039-103an 103b-103cs 103d-103en 1056-1057s 1058-1059n 105e-1060n 1062-1064s 1067-106ds",
    "1071-1074n 1082n 1083-1084s 1085-1086n 1087-108cs 108dn 108fs 109a-109cs 109dn 135d-135fn",
    "1712-1714n 1715s 1732-1733n 1734s 1752-1753n 1772-1773n 17b4-17b5n 17b6s 17b7-17bdn 17be-17c5s",
    "17c6n 17c7-17c8s 17c9-17d3n 17ddn 180b-180dn 180fn 1885-1886n 18a9n 1920-1922n 1923-1926s",
    "1927-1928n 1929-192bs 1930-1931s 1932n 1933-1938s 1939-193bn 1a17-1a18n 1a19-1a1as 1a1bn 1a55s",
    "1a56n 1a57s 1a58-1a5en 1a60n 1a61s 1a62n 1a63-1a64s 1a65-1a6cn 1a6d-1a72s 1a73-1a7cn 1a7fn",
    "1ab0-1addn 1ae0-1aebn 1b00-1b03n 1b04s 1b34n 1b35s 1b36-1b3an 1b3bs 1b3cn 1b3d-1b41s 1b42n",
    "1b43-1b44s 1b6b-1b73n 1b80-1b81n 1b82s 1ba1s 1ba2-1ba5n 1ba6-1ba7s 1ba8-1ba9n 1baas 1bab-1badn",
    "1be6n 1be7s 1be8-1be9n 1bea-1becs 1bedn 1bees 1bef-1bf1n 1bf2-1bf3s 1c24-1c2bs 1c2c-1c33n",
    "1c34-1c35s 1c36-1c37n 1cd0-1cd2n 1cd4-1ce0n 1ce1s 1ce2-1ce8n 1cedn 1cf4n 1cf7s 1cf8-1cf9n",
    "1dc0-1dffn 20d0-20f0n 2cef-2cf1n 2d7fn 2de0-2dffn 302a-302dn 302e-302fs 3099-309an a66f-a672n",
    "a674-a67dn a69e-a69fn a6f0-a6f1n a802n a806n a80bn a823-a824s a825-a826n a827s a82cn",
    "a880-a881s a8b4-a8c3s a8c4-a8c5n a8e0-a8f1n a8ffn a926-a92dn a947-a951n a952-a953s a980-a982n",
    "a983s a9b3n a9b4-a9b5s a9b6-a9b9n a9ba-a9bbs a9bc-a9bdn a9be-a9c0s a9e5n aa29-aa2en aa2f-aa30s",
    "aa31-aa32n aa33-aa34s aa35-aa36n aa43n aa4cn aa4ds aa7bs aa7cn aa7ds aab0n aab2-aab4n",
    "aab7-aab8n aabe-aabfn aac1n aaebs aaec-aaedn aaee-aaefs aaf5s aaf6n abe3-abe4s abe5n",
    "abe6-abe7s abe8n abe9-abeas abecs abedn fb1en fe00-fe0fn fe20-fe2fn 101fdn 102e0n 10376-1037an",
    "10a01-10a03n 10a05-10a06n 10a0c-10a0fn 10a38-10a3an 10a3fn 10ae5-10ae6n 10d24-10d27n",
    "10d69-10d6dn 10eab-10eacn 10efa-10effn 10f46-10f50n 10f82-10f85n 11000s 11001n 11002s",
    "11038-11046n 11070n 11073-11074n 1107f-11081n 11082s 110b0-110b2s 110b3-110b6n 110b7-110b8s",
    "110b9-110ban 110c2n 11100-11102n 11127-1112bn 1112cs 1112d-11134n 11145-11146s 11173n",
    "11180-11181n 11182s 111b3-111b5s 111b6-111ben 111bf-111c0s 111c9-111ccn 111ces 111cfn",
    "1122c-1122es 1122f-11231n 11232-11233s 11234n 11235s 11236-11237n 1123en 11241n 112dfn",
    "112e0-112e2s 112e3-112ean 11300-11301n 11302-11303s 1133b-1133cn 1133e-1133fs 11340n",
    "11341-11344s 11347-11348s 1134b-1134ds 11357s 11362-11363s 11366-1136cn 11370-11374n",
    "113b8-113bas 113bb-113c0n 113c2s 113c5s 113c7-113cas 113cc-113cds 113cen 113cfs 113d0n 113d2n",
    "113e1-113e2n 11435-11437s 11438-1143fn 11440-11441s 11442-11444n 11445s 11446n 1145en",
    "114b0-114b2s 114b3-114b8n 114b9s 114ban 114bb-114bes 114bf-114c0n 114c1s 114c2-114c3n",
    "115af-115b1s 115b2-115b5n 115b8-115bbs 115bc-115bdn 115bes 115bf-115c0n 115dc-115ddn",
    "11630-11632s 11633-1163an 1163b-1163cs 1163dn 1163es 1163f-11640n 116abn 116acs 116adn",
    "116ae-116afs 116b0-116b5n 116b6s 116b7n 1171d-1171fn 11720-11721s 11722-11725n 11726s",
    "11727-1172bn 1182c-1182es 1182f-11837n 11838s 11839-1183an 11930-11935s 11937-11938s",
    "1193b-1193cn 1193ds 1193en 11940s 11942s 11943n 119d1-119d3s 119d4-119d7n 119da-119dbn",
    "119dc-119dfs 119e0n 119e4s 11a01-11a0an 11a33-11a38n 11a39s 11a3b-11a3en 11a47n 11a51-11a56n",
    "11a57-11a58s 11a59-11a5bn 11a8a-11a96n 11a97s 11a98-11a99n 11b60n 11b61s 11b62-11b64n 11b65s",
    "11b66n 11b67s 11c2fs 11c30-11c36n 11c38-11c3dn 11c3es 11c3fn 11c92-11ca7n 11ca9s 11caa-11cb0n",
    "11cb1s 11cb2-11cb3n 11cb4s 11cb5-11cb6n 11d31-11d36n 11d3an 11d3c-11d3dn 11d3f-11d45n 11d47n",
    "11d8a-11d8es 11d90-11d91n 11d93-11d94s 11d95n 11d96s 11d97n 11ef3-11ef4n 11ef5-11ef6s",
    "11f00-11f01n 11f03s 11f34-11f35s 11f36-11f3an 11f3e-11f3fs 11f40n 11f41s 11f42n 11f5an 13440n",
    "13447-13455n 1611e-16129n 1612a-1612cs 1612d-1612fn 16af0-16af4n 16b30-16b36n 16f4fn",
    "16f51-16f87s 16f8f-16f92n 16fe4n 16ff0-16ff1s 1bc9d-1bc9en 1cf00-1cf2dn 1cf30-1cf46n",
    "1d165-1d166s 1d167-1d169n 1d16d-1d172s 1d17b-1d182n 1d185-1d18bn 1d1aa-1d1adn 1d242-1d244n",
    "1da00-1da36n 1da3b-1da6cn 1da75n 1da84n 1da9b-1da9fn 1daa1-1daafn 1e000-1e006n 1e008-1e018n",
    "1e01b-1e021n 1e023-1e024n 1e026-1e02an 1e08fn 1e130-1e136n 1e2aen 1e2ec-1e2efn 1e4ec-1e4efn",
    "1e5ee-1e5efn 1e6e3n 1e6e6n 1e6ee-1e6efn 1e6f5n 1e8d0-1e8d6n 1e944-1e94an e0100-e01efn"]

def markTable : CodeTable Mark :=
  .read (fun tag => if tag = ['n'] then some .nonspacing else if tag = ['s'] then some .spacing else none)
    markRows

/-- What kind of mark `c` is, if it is one. The first is U+0300. -/
def mark? (c : Char) : Option Mark := if c.toNat < 0x300 then none else markTable.lookup? c

def isMark (c : Char) : Bool := (mark? c).isSome

/-- Is `c` a mark that takes no room of its own? -/
def isNonspacing (c : Char) : Bool := mark? c == some .nonspacing

end Soap.Text
