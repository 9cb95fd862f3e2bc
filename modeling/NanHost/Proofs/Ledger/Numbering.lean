import NanHost.Proofs.Ledger.Filing

/-!
# Numbering — as long as they last, each number is handed out once

The search for a number starts behind the one that was handed out last. Until the numbers have been
used up once, none behind it is on file, so the search ends where it starts, and the commands are
numbered one, two, three. An answer that comes too late then meets no other command under its number.

## What is proved

`Serial` says that so many commands were filed, and that they have the numbers up to there. The
number of the next one is known (`Serial.id_newRecord`), and records that are filed, taken off again
or leave keep the series (`Serial.file`, `Serial.refile`, `Serial.keep`).
-/

namespace NanHost

namespace Ledger

variable {ledger : Ledger} {filings : Nat} {record : TransactionRecord}

/-- So far `filings` commands were filed, and no number above is on file. -/
structure Serial (ledger : Ledger) (filings : Nat) : Prop where
  /-- The search for a number starts behind the last one. -/
  next : ledger.nextId = UInt16.ofNat (filings + 1)
  below : ∀ {id record}, ledger.get? id = some record → id.raw.toNat ≤ filings

namespace Serial

theorem new (capacity timeoutMs : UInt64) : (Ledger.new capacity timeoutMs).Serial 0 where
  next := rfl
  below onFile := by simp at onFile

/-- The number behind the last one. -/
theorem toNat_next (serial : ledger.Serial filings) (room : filings < idCount) :
    ledger.nextId.toNat = filings + 1 := by
  rw [serial.next, UInt16.toNat_ofNat']
  exact Nat.mod_eq_of_lt (by unfold idCount at room; omega)

/-- **The next command gets the next number.** -/
theorem id_newRecord (serial : ledger.Serial filings) (room : filings < idCount)
    (kind : CommandKind) (context : PendingContext) (origin : Origin) (now : Timestamp) :
    (ledger.newRecord kind context origin now).id.raw.toNat = filings + 1 := by
  have next := serial.toNat_next room
  have free : ledger.isFree ledger.nextId = true := by
    refine (ledger.isFree_iff _).mpr ⟨fun zero => ?_, Option.eq_none_iff_forall_ne_some.mpr ?_⟩
    · rw [zero] at next
      exact absurd next (Nat.succ_ne_zero filings).symm
    · intro record onFile
      have below := serial.below onFile
      dsimp only at below
      omega
  show (ledger.searchFree (idCount + 1) ledger.nextId).toNat = filings + 1
  rw [searchFree, if_pos free, next]

/-- A record that is filed lengthens the series. -/
theorem file (serial : ledger.Serial filings) (number : record.id.raw.toNat = filings + 1) :
    (ledger.file record).Serial (filings + 1) where
  next := by
    show record.id.raw + 1 = _
    rw [← UInt16.toNat_inj, UInt16.toNat_add, number, UInt16.toNat_ofNat']
    rfl
  below {id other} onFile := by
    rcases cases_file onFile with ⟨rfl, _⟩ | before
    · exact Nat.le_of_eq number
    · exact Nat.le_succ_of_le (serial.below before)

/-- Records that leave do not shorten it. -/
theorem of_fewer {rest : Ledger} (serial : ledger.Serial filings) (next : rest.nextId = ledger.nextId)
    (fewer : ∀ {id record}, rest.get? id = some record → ledger.get? id = some record) :
    rest.Serial filings where
  next := next.trans serial.next
  below onFile := serial.below (fewer onFile)

theorem keep (serial : ledger.Serial filings) (condition : TransactionRecord → Bool) :
    (ledger.keep condition).Serial filings :=
  serial.of_fewer rfl fun onFile => by
    rw [get?_keep, Option.filter_eq_some_iff] at onFile
    exact onFile.1

/-- A record that is filed and taken off again has used its number up. -/
theorem refile (serial : ledger.Serial filings) (number : record.id.raw.toNat = filings + 1) :
    ((ledger.file record).rollback record.id).Serial (filings + 1) :=
  (serial.file number).of_fewer rfl fun onFile => by
    rw [get?_rollback] at onFile
    split at onFile
    · cases onFile
    · exact onFile

end Serial

end Ledger

end NanHost
