import PegGrammar.Unicode.Property

/-!
Lower case and case folding. Most characters have one lower-case character; the capital I with a
dot has two, and a capital sigma at the end of a word becomes the final sigma. Folding is one
character for one: two characters are case variants of each other when they fold to the same one,
so being a variant is an equivalence, and `caseVariants` lists a whole class of it.
-/

namespace PegGrammar.Unicode

/-- Characters whose lower-case forms run in step with them. -/
structure CaseRun where
  first : Nat
  count : Nat
  stride : Nat
  target : Nat

def caseRuns : List CaseRun :=
  let rec go : List Nat → List CaseRun
    | first :: count :: stride :: target :: ns => ⟨first, count, stride, target⟩ :: go ns
    | _ => []
  go ([
    "65 26 1 97 192 23 1 224 216 7 1 248 256 24 2 257 306 3 2 307 313 8 2 314 330 23 2 331 376",
    "1 1 255 377 3 2 378 385 1 1 595 386 2 2 387 390 1 1 596 391 1 1 392 393 2 1 598 395 1 1",
    "396 398 1 1 477 399 1 1 601 400 1 1 603 401 1 1 402 403 1 1 608 404 1 1 611 406 1 1 617",
    "407 1 1 616 408 1 1 409 412 1 1 623 413 1 1 626 415 1 1 629 416 3 2 417 422 1 1 640 423 1",
    "1 424 425 1 1 643 428 1 1 429 430 1 1 648 431 1 1 432 433 2 1 650 435 2 2 436 439 1 1 658",
    "440 1 1 441 444 1 1 445 452 1 1 454 453 1 1 454 455 1 1 457 456 1 1 457 458 1 1 460 459 9",
    "2 460 478 9 2 479 497 1 1 499 498 2 2 499 502 1 1 405 503 1 1 447 504 20 2 505 544 1 1 414",
    "546 9 2 547 570 1 1 11365 571 1 1 572 573 1 1 410 574 1 1 11366 577 1 1 578 579 1 1 384",
    "580 1 1 649 581 1 1 652 582 5 2 583 880 2 2 881 886 1 1 887 895 1 1 1011 902 1 1 940 904 3",
    "1 941 908 1 1 972 910 2 1 973 913 17 1 945 931 9 1 963 975 1 1 983 984 12 2 985 1012 1 1",
    "952 1015 1 1 1016 1017 1 1 1010 1018 1 1 1019 1021 3 1 891 1024 16 1 1104 1040 32 1 1072",
    "1120 17 2 1121 1162 27 2 1163 1216 1 1 1231 1217 7 2 1218 1232 48 2 1233 1329 38 1 1377",
    "4256 38 1 11520 4295 1 1 11559 4301 1 1 11565 5024 80 1 43888 5104 6 1 5112 7305 1 1 7306",
    "7312 43 1 4304 7357 3 1 4349 7680 75 2 7681 7838 1 1 223 7840 48 2 7841 7944 8 1 7936 7960",
    "6 1 7952 7976 8 1 7968 7992 8 1 7984 8008 6 1 8000 8025 4 2 8017 8040 8 1 8032 8072 8 1",
    "8064 8088 8 1 8080 8104 8 1 8096 8120 2 1 8112 8122 2 1 8048 8124 1 1 8115 8136 4 1 8050",
    "8140 1 1 8131 8152 2 1 8144 8154 2 1 8054 8168 2 1 8160 8170 2 1 8058 8172 1 1 8165 8184 2",
    "1 8056 8186 2 1 8060 8188 1 1 8179 8486 1 1 969 8490 1 1 107 8491 1 1 229 8498 1 1 8526",
    "8544 16 1 8560 8579 1 1 8580 9398 26 1 9424 11264 48 1 11312 11360 1 1 11361 11362 1 1 619",
    "11363 1 1 7549 11364 1 1 637 11367 3 2 11368 11373 1 1 593 11374 1 1 625 11375 1 1 592",
    "11376 1 1 594 11378 1 1 11379 11381 1 1 11382 11390 2 1 575 11392 50 2 11393 11499 2 2",
    "11500 11506 1 1 11507 42560 23 2 42561 42624 14 2 42625 42786 7 2 42787 42802 31 2 42803",
    "42873 2 2 42874 42877 1 1 7545 42878 5 2 42879 42891 1 1 42892 42893 1 1 613 42896 2 2",
    "42897 42902 10 2 42903 42922 1 1 614 42923 1 1 604 42924 1 1 609 42925 1 1 620 42926 1 1",
    "618 42928 1 1 670 42929 1 1 647 42930 1 1 669 42931 1 1 43859 42932 8 2 42933 42948 1 1",
    "42900 42949 1 1 642 42950 1 1 7566 42951 2 2 42952 42955 1 1 612 42956 1 1 42957 42960 1 1",
    "42961 42966 3 2 42967 42972 1 1 411 42997 1 1 42998 65313 26 1 65345 66560 40 1 66600",
    "66736 36 1 66776 66928 11 1 66967 66940 15 1 66979 66956 7 1 66995 66964 2 1 67003 68736",
    "51 1 68800 68944 22 1 68976 71840 32 1 71872 93760 32 1 93792 125184 34 1 125218"].flatMap fun line => CodeSet.numbers line.toList)

def CaseRun.lower? (r : CaseRun) (n : Nat) : Option Nat :=
  if r.first ≤ n ∧ n < r.first + r.count * r.stride ∧ (n - r.first) % r.stride = 0 then
    some (r.target + (n - r.first))
  else none

def lowerChar (c : Char) : List Char :=
  if c = '\u0130' then ['i', '\u0307']
  else if c.toNat < 128 then [c.toLower]
  else
    match caseRuns.findSome? (·.lower? c.toNat) with
    | some n => [Char.ofNat n]
    | none => [c]

def cased : Property := (row? binaryProperties "cased").getD []

def caseIgnorable : Property := (row? binaryProperties "caseignorable").getD []

def nextIsCased (cs : List Char) : Bool :=
  ((cs.dropWhile caseIgnorable.holds).head?.map cased.holds).getD false

/-- The lower-case form of a text; `before` is what stands before it, latest first. -/
def lowerAfter (before : List Char) : List Char → List Char
  | [] => []
  | c :: cs =>
    let lower :=
      if c = 'Σ' then if nextIsCased before && !nextIsCased cs then ['ς'] else ['σ']
      else lowerChar c
    lower ++ lowerAfter (c :: before) cs

def lowercase (text : String) : String := String.ofList (lowerAfter [] text.toList)

def foldedLowercase : List (Nat × Nat) :=
  [(181, 956), (383, 115), (837, 953), (962, 963), (976, 946), (977, 952), (981, 966), (982, 960),
    (1008, 954), (1009, 961), (1013, 949), (7296, 1074), (7297, 1076), (7298, 1086), (7299, 1089),
    (7300, 1090), (7301, 1090), (7302, 1098), (7303, 1123), (7304, 42571), (7835, 7777),
    (8126, 953), (8147, 912), (8163, 944), (64262, 64261)]

def foldRuns : List CaseRun := caseRuns ++ foldedLowercase.map fun p => ⟨p.1, 1, 1, p.2⟩

def CaseRun.upper? (r : CaseRun) (n : Nat) : Option Nat :=
  if r.target ≤ n ∧ n < r.target + r.count * r.stride ∧ (n - r.target) % r.stride = 0 then
    some (r.first + (n - r.target))
  else none

def foldChar (c : Char) : Char :=
  match foldRuns.findSome? (·.lower? c.toNat) with
  | some n => Char.ofNat n
  | none => c

def caseVariants (c : Char) : List Char :=
  let folded := foldChar c
  folded :: (foldRuns.filterMap (·.upper? folded.toNat)).map Char.ofNat

end PegGrammar.Unicode
