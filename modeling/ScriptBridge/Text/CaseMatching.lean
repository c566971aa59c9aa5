import ScriptBridge.Text.Case

/-!
Characters that are the same but for case.
-/

namespace ScriptBridge.Text

/-- Lower case letters that share their upper case with others, and those others. -/
def sharedCapitals : List (Nat × List Nat) :=
  [(105, [305]), (115, [383]), (181, [956]), (305, [105]), (383, [115]), (837, [953, 8126]),
   (912, [8147]), (944, [8163]), (946, [976]), (949, [1013]), (952, [977]), (953, [837, 8126]),
   (954, [1008]), (956, [181]), (960, [982]), (961, [1009]), (962, [963]), (963, [962]),
   (966, [981]), (976, [946]), (977, [952]), (981, [966]), (982, [960]), (1008, [954]),
   (1009, [961]), (1013, [949]), (1074, [7296]), (1076, [7297]), (1086, [7298]), (1089, [7299]),
   (1090, [7300, 7301]), (1098, [7302]), (1123, [7303]), (7296, [1074]), (7297, [1076]),
   (7298, [1086]), (7299, [1089]), (7300, [1090, 7301]), (7301, [1090, 7300]), (7302, [1098]),
   (7303, [1123]), (7304, [42571]), (7777, [7835]), (7835, [7777]), (8126, [837, 953]),
   (8147, [912]), (8163, [944]), (42571, [7304]), (64261, [64262]), (64262, [64261])]

/-- The lower case letters that count as a lower case letter, itself first. -/
def caseClass (c : Char) : List Char :=
  c :: ((sharedCapitals.lookup c.toNat).getD []).map Char.ofNat

/-- The characters whose lower case is a given one. -/
def raised (c : Char) : List Char :=
  let shifted := loweringRuns.filterMap fun entry =>
    let code := (c.toNat : Int) - entry.shift
    if 0 ≤ code && entry.run.contains code.toNat then some (Char.ofNat code.toNat) else none
  (if lowerChar c == c then [c] else []) ++ (if c == 'i' then ['\u0130'] else []) ++ shifted

/-- The characters that match a character when case is ignored. -/
def caseVariants (c : Char) : List Char :=
  (caseClass (lowerChar c)).flatMap raised

end ScriptBridge.Text
