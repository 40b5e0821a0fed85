import PushBench.Text.Lowercase

/-!
# Letter case

Characters that differ in case only share a key: their lowercase form, apart from a few lowercase
letters that are variants of others.
-/

namespace PushBench

/-- Characters whose key is not their lowercase form, with the key. -/
def keyExceptions : List (Nat × Nat) :=
  [(181, 956), (383, 115), (837, 953), (962, 963), (976, 946), (977, 952), (981, 966), (982, 960),
    (1008, 954), (1009, 961), (1013, 949), (7296, 1074), (7297, 1076), (7298, 1086), (7299, 1089),
    (7300, 1090), (7301, 1090), (7302, 1098), (7303, 1123), (7304, 42571), (7835, 7777),
    (8126, 953), (8147, 912), (8163, 944), (64261, 64262)]

/-- The key that a code point shares with its case variants. -/
def caseKey (code : Nat) : Nat :=
  match keyExceptions.lookup code with
  | some key => key
  | none => (lowerChar (Char.ofNat code)).toNat

/-- The code points of a run whose lowercase form is `key`. -/
def CaseRun.preimage (key : Nat) (run : CaseRun) : Option Nat :=
  let code := ((key : Int) - run.shift).toNat
  if run.contains code then some code else none

/-- All code points that differ from a code point in case only, and the code point itself. -/
def caseVariants (code : Nat) : List Nat :=
  let key := caseKey code
  key :: (keyExceptions.filter (·.2 == key)).map Prod.fst ++
    caseRuns.filterMap (CaseRun.preimage key)

end PushBench
