import Kore.Foundation.Paging
import Kore.Cache.Strings

/-! Listing the keys of a database, and `SCAN`, whose cursor is an index into the sorted
list of the keys that match. The pattern is kept as the set of texts that it matches. -/

namespace Kore.Cache
open Foundation

namespace ByteOrder

/-- Keys are compared byte by byte. -/
scoped instance bytewise : LinearOrder UInt8 where
  le_refl _ := UInt8.le_refl _
  le_trans _ _ _ := UInt8.le_trans
  le_antisymm _ _ := UInt8.le_antisymm
  le_total := UInt8.le_total
  lt_iff_le_not_ge first second := by simp only [UInt8.le_iff_toNat_le, UInt8.lt_iff_toNat_lt]; omega
  toDecidableLE := inferInstance

end ByteOrder

namespace Keyspace
open ByteOrder
variable {F : Type}

def isLive (now : Nat) (keyspace : Keyspace F) (key : Bytes) : Bool := (keyspace.lookup key).any fun slot => !slot.isExpired now

def keys (now : Nat) (matching : Bytes → Bool) (keyspace : Keyspace F) : Keyspace F × List Bytes :=
  let matched := ((Finmap.keys keyspace).filter fun key => matching key = true).sort
  (matched.foldl (fun keyspace key => keyspace.purgeIfExpired now key) keyspace, matched.filter (keyspace.isLive now))

def scan (now : Nat) (matching : Bytes → Bool) (cursor count : Nat) (keyspace : Keyspace F) : Keyspace F × Nat × List Bytes :=
  let (purged, keys) := keyspace.keys now matching
  (purged, Paging.page keys cursor count)

end Keyspace
end Kore.Cache
