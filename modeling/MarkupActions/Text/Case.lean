import MarkupActions.Text.Category

/-! Letters that differ only in case. Each has a base, which is the first of the letters that differ
from it in case alone; most bases are capitals. -/

namespace MarkupActions.Text

/-- Rows of a distance and, after a colon, the letters that are so far from their base. -/
def caseRows : List String :=
  ["1:101-12f/2,133-137/2,13a-148/2,14b-177/2,17a-17e/2,183,185,188",
   "1:18c,192,199,1a1-1a5/2,1a8,1ad,1b0,1b4,1b6,1b9,1bd,1c5,1c8,1cb",
   "1:1ce-1dc/2,1df-1ef/2,1f2,1f5,1f9-21f/2,223-233/2,23c,242",
   "1:247-24f/2,371,373,377,3d9-3ef/2,3f8,3fb,461-481/2,48b-4bf/2",
   "1:4c2-4ce/2,4d1-52f/2,1c8a,1e01-1e95/2,1ea1-1eff/2,2184,2c61",
   "1:2c68-2c6c/2,2c73,2c76,2c81-2ce3/2,2cec,2cee,2cf3,a641-a649/2",
   "1:a64d-a66d/2,a681-a69b/2,a723-a72f/2,a733-a76f/2,a77a,a77c",
   "1:a77f-a787/2,a78c,a791,a793,a797-a7a9/2,a7b5-a7c3/2,a7c8,a7ca 1:a7cd-a7db/2,a7f6,fb06",
   "2:1c6,1c9,1cc,1f3 7:3f9,1fec 8:3d7,13f8-13fd,1f08-1f0f,1f18-1f1d,1f28-1f2f,1f38-1f3f",
   "8:1f48-1f4d,1f59-1f5f/2,1f68-1f6f,1f88-1f8f,1f98-1f9f,1fa8-1faf",
   "8:1fb8-1fb9,1fd8-1fd9,1fe8-1fe9 9:1fbc,1fcc,1ffc f:4cf 10:2170-217f 1a:24d0-24e9",
   "1b:16ebb-16ed3 1c:214e 1f:3c2 20:61-7a,e0-f6,f8-fe,3b1-3b8,3ba-3bb,3bd-3c1,3c3-3cb,430-44f",
   "20:ff41-ff5a,10d70-10d85,118c0-118df,16e60-16e7f 22:1e922-1e943 25:3ad-3af 26:3ac",
   "27:10597-105a1,105a3-105b1,105b3-105b9,105bb-105bc 28:10428-1044f,104d8-104fb 2f:3d5",
   "30:561-586,2c30-2c5f,a7c4 36:3d6 38:1f7 39:3d1 3b:1e9b 3e:3d0 3f:3cd-3ce 40:3cc,10cc0-10cf2",
   "45:289 47:28c 4a:1fba-1fbb 4f:1dd 50:3f1,450-45f 54:399 56:3f0,1fc8-1fcb 5c:3f4 60:3f5 61:1f6",
   "64:1fda-1fdb 70:1fea-1feb 74:3b9,3f3 79:178 7e:1ffa-1ffb 80:1ff8-1ff9 82:220,3fd-3ff a3:23d",
   "c3:243 ca:259 cb:25b cd:256-257,260 ce:254 cf:263 d1:268 d2:253 d3:269,26f d5:272 d6:275",
   "d9:28a-28b da:280,283,288 db:292 12c:17f 2e7:39c 307:3bc 3a0:ab53 bc0:1c90-1cba,1cbd-1cbf",
   "ee6:2c63 1825:1c87 185c:1c86 1862:1c83-1c84 1863:1c85 1864:1c82 186d:1c81 186e:1c80 1c33:1fe3",
   "1c43:1fd3 1c60:2d00-2d25,2d27,2d2d 1c79:1fbe 1d7d:2126 1dbf:1e9e 2066:212b 20df:212a",
   "29e7:2c64 29f7:2c62 29fd:2c6e 2a1c:2c6d 2a1e:2c70 2a1f:2c6f 2a28:2c66 2a2b:2c65",
   "2a3f:2c7e-2c7f 89c2:a64a 89c3:a64b 8a04:a77d 8a38:a7c6 97d0:ab70-abbf a512:a7b0 a515:a7b2",
   "a528:a78d a52a:a7b1 a541:a7ad a543:a7c5 a544:a7aa,a7ae a54b:a7ac a54f:a7ab a567:a7cb",
   "a641:a7dc"]

/-- The distances with the letters that are so far from their base. -/
def caseTable : List (Nat × List Run) :=
  caseRows.flatMap fun line => (splitOn ' ' line.toList).map fun row =>
    let entries := (row.dropWhile (· ≠ ':')).drop 1
    (Run.hexCode (row.takeWhile (· ≠ ':')), (splitOn ',' entries).map Run.ofEntry)

/-- The code of the base of a letter; of any other character, its own code. -/
def caseBase (c : Char) : Nat :=
  match caseTable.find? fun (_, runs) => isIn runs c with
  | some (distance, _) => c.toNat - distance
  | none => c.toNat

/-- All characters that differ from one in case alone, and itself. -/
def caseVariants (c : Char) : List Char :=
  let base := caseBase c
  Char.ofNat base :: (caseTable.filterMap fun (distance, runs) =>
    let d := Char.ofNat (base + distance)
    if isIn runs d then some d else none)

end MarkupActions.Text
