import CypherGate.Database
import CypherGate.Request.Row
import CypherGate.Proofs.NumberedEntities
import CypherGate.Proofs.Rounding
import CypherGate.Proofs.WritableTrees
/-!
# Integers on the wire

The wire protocol has integers of 64 bits only: a database behind it returns no others and fails a query
whose parameters have others. Such integers can be written, and so can every count that is read from what
can be written.
-/
namespace CypherGate

open Text

/-- An integer of the wire protocol. -/
def IsWord (n : Int) : Prop := -2 ^ 63 ≤ n ∧ n < 2 ^ 63

instance (n : Int) : Decidable (IsWord n) := inferInstanceAs (Decidable (_ ∧ _))

theorem lt_of_lt_two_pow {n k : Nat} (small : n < 2 ^ k) (le : k ≤ maxDigits) : n < 10 ^ maxDigits :=
  calc n < 2 ^ k := small
    _ ≤ 10 ^ k := Nat.pow_le_pow_left (by decide) k
    _ ≤ 10 ^ maxDigits := Nat.pow_le_pow_right (by decide) le

theorem IsWord.short {n : Int} (h : IsWord n) : Short n := by
  obtain ⟨low, high⟩ := h
  have small : n.natAbs < 2 ^ 64 := by omega
  exact lt_of_lt_two_pow small (by decide)

theorem Value.Within.writable {v : Value} (h : v.Within IsWord) : v.Writable := h.mono fun _ => IsWord.short

theorem Tree.Within.writable {t : Tree} (h : t.Within IsWord) : t.Writable := h.mono fun _ => IsWord.short

structure Summary.OnWire (summary : Summary) : Prop where
  available : summary.availableAfter.Within IsWord
  consumed : summary.consumedAfter.Within IsWord
  counters : ∀ counters ∈ summary.counters, ∀ e ∈ counters, e.2.Within IsWord

structure Reply.OnWire (reply : Reply) : Prop where
  rows : ∀ row ∈ reply.rows, ∀ cell ∈ row, cell.2.Within IsWord
  size : IsWord reply.rows.length
  summary : ∀ summary ∈ reply.summary, summary.OnWire

/-- A database behind the wire protocol, whose integers have 64 bits. The client fails a query whose
parameters have any other integer, and can read no other from a reply. -/
structure Database.OnWire (database : Database) : Prop where
  parameters : ∀ query parameters, (database.reply query parameters).fault = none →
    ∀ p ∈ parameters, p.2.Within IsWord
  reply : ∀ query parameters, (database.reply query parameters).fault = none →
    (database.reply query parameters).OnWire

theorem readInteger_short {α : Alphabet} (digits : ∀ c d, α.digit? c = some d → d < 10) {s : List Char}
    {n : Int} (h : readInteger α s = .ok n) : Short n := by
  unfold readInteger at h
  dsimp only at h
  split at h
  · cases h
  split at h
  · cases h
  next short =>
    split at h
    · cases h
    · obtain rfl := Except.ok.inj h
      refine short_digitsValue (fun d hd => ?_) (Nat.not_lt.mp short) _
      obtain ⟨c, -, digit⟩ := List.mem_filterMap.mp hd
      exact digits c d digit

theorem Binary64.units_lt {n k : Nat} (inside : n < 2047 * 2 ^ 52) (wide : 2098 ≤ k) : units n < 2 ^ k := by
  have room : ∀ {m}, m ≤ 2098 → 2 ^ m ≤ 2 ^ k :=
    fun le => Nat.pow_le_pow_right (by decide) (le.trans wide)
  have remainder : n % 2 ^ 52 < 2 ^ 52 := Nat.mod_lt _ (by decide)
  unfold units
  dsimp only
  split
  next small => exact small.trans_le (room (by decide))
  next =>
    calc (2 ^ 52 + n % 2 ^ 52) * 2 ^ (n / 2 ^ 52 - 1)
      _ < 2 ^ 53 * 2 ^ (n / 2 ^ 52 - 1) := by
        refine Nat.mul_lt_mul_of_pos_right ?_ (Nat.two_pow_pos _)
        omega
      _ = 2 ^ (53 + (n / 2 ^ 52 - 1)) := (pow_add 2 53 _).symm
      _ ≤ 2 ^ k := room (by omega)

theorem short_integerPart (negative : Bool) (n : Fin magnitudeCount) :
    Short (applySign negative (Binary64.integerPart n)) := by
  have small : Binary64.integerPart n < 2 ^ maxDigits :=
    (Nat.div_le_self _ _).trans_lt (Binary64.units_lt n.isLt (by decide))
  have short := lt_of_lt_two_pow small le_rfl
  cases negative <;> simpa [Short, applySign] using short

theorem Tree.toCount_short {t : Tree} {n : Int} (writable : t.Writable) (h : t.toCount = .ok n) :
    Short n := by
  have word : ∀ m, IsWord m → .ok m = (.ok n : Except DataError Int) → Short n := by
    rintro m small ⟨⟩
    exact small.short
  unfold toCount at h
  split at h
  next b => cases b <;> exact word _ (by decide) h
  next m =>
    obtain rfl := Except.ok.inj h
    exact within_int.mp writable
  next => cases h
  next => cases h
  next negative m =>
    obtain rfl := Except.ok.inj h
    exact short_integerPart negative m
  next s => exact readInteger_short (fun _ _ => decimalValue?_lt) (ok_of_mapError h)
  next bytes =>
    refine readInteger_short (fun c d digit => ?_) (ok_of_mapError h)
    exact decimalValue?_lt (decimalValue?_of_asciiDigit? digit)
  next => cases h

end CypherGate
