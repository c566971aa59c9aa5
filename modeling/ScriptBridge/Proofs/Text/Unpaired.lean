import Mathlib.Data.List.Lex
import ScriptBridge.Text.Unpaired

/-!
# Texts with unpaired surrogates

The code points that represent unpaired surrogates stand for no characters, and surrogates are none. So a
text is told by the code points it is ordered by.
-/

namespace ScriptBridge.Text

variable {c d : Char}

theorem isUnpaired_iff :
    isUnpaired c = true ↔
      0xd800 + surrogateShift ≤ c.toNat ∧ c.toNat < 0xe000 + surrogateShift := by
  have hshift : surrogateShift = 0xd0000 := rfl
  simp only [isUnpaired, isHighSurrogate, isLowSurrogate, Bool.or_eq_true, Bool.and_eq_true,
    decide_eq_true_eq]
  omega

/-- No character is a surrogate. -/
theorem toNat_lt_or_le (c : Char) : c.toNat < 0xd800 ∨ 0xe000 ≤ c.toNat := by
  have hvalid : c.toNat.isValidChar := c.valid
  unfold Nat.isValidChar at hvalid
  omega

theorem codePoint_injective (heq : codePoint c = codePoint d) : c = d := by
  have hc := toNat_lt_or_le c
  have hd := toNat_lt_or_le d
  have hnat : c.toNat = d.toNat := by
    unfold codePoint at heq
    split at heq <;> split at heq <;> rename_i hcUnpaired hdUnpaired <;>
      rw [isUnpaired_iff] at hcUnpaired hdUnpaired <;> omega
  exact Char.ext (UInt32.toNat_inj.1 hnat)

theorem codePoints_injective {text other : String} (heq : codePoints text = codePoints other) :
    text = other :=
  String.toList_injective (List.map_injective_iff.2 (fun _ _ => codePoint_injective) heq)

/-- Texts in the order of their code points, each once. -/
def Ascending (texts : List String) : Prop :=
  texts.Pairwise fun a b => codePoints a < codePoints b

theorem Ascending.nodup {texts : List String} (hascending : Ascending texts) : texts.Nodup :=
  hascending.imp fun hlt heq => hlt.ne (congrArg codePoints heq)

end ScriptBridge.Text
