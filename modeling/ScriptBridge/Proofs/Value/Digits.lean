import Mathlib.Algebra.Order.Ring.Nat
import Mathlib.Data.List.TakeWhile
import ScriptBridge.Proofs.Outcome
import ScriptBridge.Value.Reader

/-!
# Numbers that can be shown

A whole number with too many digits is not shown in a message or a key. None is read from a text, so
whatever is read can be shown.
-/

namespace ScriptBridge

theorem IntegerLiteral.isShort_of_lt {n : Int} {digits : Nat} (hdigits : digits ≤ digitLimit)
    (hlt : n.natAbs < 10 ^ digits) : IsShort n := by
  have hpow : ∀ limit, digits ≤ limit → n.natAbs < Nat.pow 10 limit := fun limit hle =>
    hlt.trans_le (Nat.pow_le_pow_right (by decide) hle)
  exact hpow digitLimit hdigits

namespace Value

/-- No whole number in the value has too many digits to be shown. -/
inductive Short : Value → Prop
  | null : Short .null
  | bool (b : Bool) : Short (.bool b)
  | int {n : Int} : IntegerLiteral.IsShort n → Short (.int n)
  | double (x : Binary64) : Short (.double x)
  | text (s : String) : Short (.text s)
  | list {items : List Value} : (∀ item ∈ items, Short item) → Short (.list items)
  | record {fields : List (String × Value)} : (∀ field ∈ fields, Short field.2) →
    Short (.record fields)

/-! ### What is read -/

namespace Reader

variable {fuel : Nat} {chars rest : List Char} {v : Value}

theorem foldl_digits_lt {digits : List Char} (hdigits : ∀ c ∈ digits, c.isDigit = true) (n : Nat) :
    digits.foldl (fun n c => 10 * n + (c.toNat - '0'.toNat)) n < (n + 1) * 10 ^ digits.length := by
  induction digits generalizing n with
  | nil => simp
  | cons c digits ih =>
    obtain ⟨hc, hrest⟩ := List.forall_mem_cons.1 hdigits
    have hdigit : c.toNat - '0'.toNat < 10 := by
      have hzero : '0'.toNat = 48 := rfl
      simp only [Char.isDigit, Bool.and_eq_true, decide_eq_true_eq, UInt32.le_iff_toNat_le] at hc
      have hnat : c.toNat ≤ 57 := hc.2
      omega
    rw [List.foldl_cons, List.length_cons, Nat.pow_succ]
    calc _ < (10 * n + (c.toNat - '0'.toNat) + 1) * 10 ^ digits.length := ih hrest _
      _ ≤ 10 * (n + 1) * 10 ^ digits.length := Nat.mul_le_mul_right _ (by omega)
      _ = (n + 1) * (10 ^ digits.length * 10) := by rw [Nat.mul_comm 10, Nat.mul_assoc, Nat.mul_comm 10]

theorem digitsNumber_lt {digits : List Char} (hdigits : ∀ c ∈ digits, c.isDigit = true) :
    digitsNumber digits < 10 ^ digits.length := by
  simpa [digitsNumber] using foldl_digits_lt hdigits 0

theorem short_of_number {negative : Bool} (hread : number negative chars = .ok (v, rest)) : v.Short := by
  unfold number at hread
  extract_lets whole at hread
  have hwhole : ∀ c ∈ whole, c.isDigit = true := by
    unfold whole
    split
    · exact List.forall_mem_singleton.2 rfl
    · exact fun c hc => List.mem_takeWhile_imp hc
  clear_value whole
  dsimp only at hread
  split at hread
  · cases hread
  · split at hread
    · split at hread
      · cases hread
      · rename_i hlimit
        cases hread
        refine .int (IntegerLiteral.isShort_of_lt (Nat.le_of_not_lt hlimit) ?_)
        have hsize : ((digitsNumber whole : Nat) : Int).natAbs < 10 ^ whole.length :=
          digitsNumber_lt hwhole
        cases negative
        · exact hsize
        · rwa [← Int.natAbs_neg] at hsize
    · cases hread
      exact .double _

theorem short_of_namedValue? (hread : namedValue? chars = some (v, rest)) : v.Short := by
  obtain ⟨⟨name, known⟩, hknown, hread⟩ := List.exists_of_findSome?_eq_some hread
  obtain ⟨after, -, hread⟩ := Option.map_eq_some_iff.1 hread
  cases hread
  have hall : ∀ entry ∈ named, entry.2.Short := by
    simp only [named, List.forall_mem_cons]
    exact ⟨.null, .bool true, .bool false, .double _, .double _, .double _, fun _ hmem => nomatch hmem⟩
  exact hall _ hknown

theorem short_putField {fields : List (String × Value)} (hfields : ∀ field ∈ fields, field.2.Short)
    (key : String) (hitem : v.Short) : ∀ field ∈ putField fields key v, field.2.Short := by
  intro field hfield
  unfold putField at hfield
  split at hfield
  · obtain ⟨earlier, hearlier, rfl⟩ := List.mem_map.1 hfield
    split
    · exact hitem
    · exact hfields earlier hearlier
  · rcases List.mem_append.1 hfield with hfield | hfield
    · exact hfields field hfield
    · rw [List.mem_singleton.1 hfield]
      exact hitem

/-- What is read with some fuel can be shown. -/
structure ReadsShort (fuel : Nat) : Prop where
  value : ∀ {chars v rest}, Reader.value fuel chars = .ok (v, rest) → v.Short
  items : ∀ {chars elements rest}, Reader.items fuel chars = .ok (elements, rest) →
    ∀ element ∈ elements, element.Short
  fields : ∀ {read chars entries rest}, (∀ entry ∈ read, entry.2.Short) →
    Reader.fields fuel read chars = .ok (entries, rest) → ∀ entry ∈ entries, entry.2.Short

theorem ReadsShort.value_succ (hreads : ReadsShort fuel)
    (hread : Reader.value (fuel + 1) chars = .ok (v, rest)) : v.Short := by
  unfold Reader.value at hread
  split at hread
  · obtain ⟨_, -, hread⟩ := Outcome.bind_eq_ok_iff.1 hread
    cases hread
    exact .text _
  · split at hread
    · cases hread
      exact .list fun _ hmem => nomatch hmem
    · obtain ⟨_, helements, hread⟩ := Outcome.bind_eq_ok_iff.1 hread
      cases hread
      exact .list (hreads.items helements)
  · split at hread
    · cases hread
      exact .record fun _ hmem => nomatch hmem
    · obtain ⟨_, hentries, hread⟩ := Outcome.bind_eq_ok_iff.1 hread
      cases hread
      exact .record (hreads.fields (List.forall_mem_nil _) hentries)
  · split at hread
    · rename_i hnamed
      cases hread
      exact short_of_namedValue? hnamed
    · split at hread
      · exact short_of_number hread
      · exact short_of_number hread

theorem ReadsShort.items_succ (hreads : ReadsShort fuel) {elements : List Value}
    (hread : Reader.items (fuel + 1) chars = .ok (elements, rest)) :
    ∀ element ∈ elements, element.Short := by
  unfold Reader.items at hread
  obtain ⟨_, hfirst, hread⟩ := Outcome.bind_eq_ok_iff.1 hread
  dsimp only at hread
  split at hread
  · obtain ⟨_, hothers, hread⟩ := Outcome.bind_eq_ok_iff.1 hread
    cases hread
    exact List.forall_mem_cons.2 ⟨hreads.value hfirst, hreads.items hothers⟩
  · cases hread
    exact List.forall_mem_singleton.2 (hreads.value hfirst)
  · cases hread

theorem ReadsShort.fields_succ (hreads : ReadsShort fuel) {read entries : List (String × Value)}
    (hshort : ∀ entry ∈ read, entry.2.Short)
    (hread : Reader.fields (fuel + 1) read chars = .ok (entries, rest)) :
    ∀ entry ∈ entries, entry.2.Short := by
  unfold Reader.fields at hread
  split at hread
  · obtain ⟨_, -, hread⟩ := Outcome.bind_eq_ok_iff.1 hread
    dsimp only at hread
    split at hread
    · obtain ⟨_, hitem, hread⟩ := Outcome.bind_eq_ok_iff.1 hread
      have hput := fun key => short_putField hshort key (hreads.value hitem)
      split at hread
      · exact hreads.fields (hput _) hread
      · cases hread
        exact hput _
      · cases hread
    · cases hread
  · cases hread

theorem readsShort (fuel : Nat) : ReadsShort fuel := by
  induction fuel with
  | zero =>
    refine ⟨fun hread => ?_, fun hread => ?_, fun _ hread => ?_⟩
    · cases hread
    · cases hread
    · cases hread
  | succ fuel ih => exact ⟨ih.value_succ, ih.items_succ, ih.fields_succ⟩

end Reader

/-- What is read from a text can be shown. -/
theorem short_of_read {text : String} {v : Value} (hread : Value.read text = .ok v) : v.Short := by
  obtain ⟨⟨result, rest⟩, hvalue, hread⟩ := Outcome.bind_eq_ok_iff.1 hread
  dsimp only at hread
  split at hread
  · cases hread
    exact (Reader.readsShort _).value hvalue
  · cases hread

end Value

end ScriptBridge
