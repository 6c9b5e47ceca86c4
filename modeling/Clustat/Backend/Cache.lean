/-
# The rows of the backend

`crates/client-backend/src/cache.rs`: the backend keeps a row for every server it
has heard of, under the key `{ip}-{port}` of its address.  A row has a connection
id, the text `conn-` and a number of at least three digits, which a query can
select it by.  Rows come from discovery (`build_cache`), from the snapshot of a
query (`upsert_snapshot`), and from a server that has been lost (`mark_stale`).
-/

import Mathlib.Algebra.Order.Ring.Nat
import Clustat.Common.Snapshot
import Clustat.Lib.Table

namespace Clustat
namespace Backend

/-- `IpAddr`. -/
inductive IpAddr
  | v4 (octets : UInt32)
  | v6 (segments : BitVec 128)
  deriving DecidableEq

/-- `SocketAddr`. -/
inductive SocketAddr
  | v4 (ip : UInt32) (port : UInt16)
  | v6 (ip : BitVec 128) (port : UInt16) (flowinfo scopeId : UInt32)
  deriving DecidableEq

/-- `SocketAddr::ip`. -/
def SocketAddr.ip : SocketAddr → IpAddr
  | .v4 ip _ => .v4 ip
  | .v6 ip .. => .v6 ip

/-- `SocketAddr::port`. -/
def SocketAddr.port : SocketAddr → UInt16
  | .v4 _ port => port
  | .v6 _ port .. => port

/-- The key `{ip}-{port}` of a row.  Addresses are printed without a dash and
distinct ones differently, so that the pair stands for the text. -/
abbrev CacheKey := IpAddr × UInt16

/-- The key of an address. -/
def SocketAddr.cacheKey (addr : SocketAddr) : CacheKey := (addr.ip, addr.port)

/-- The id `conn-{:03}`. -/
def connectionId (n : ℕ) : String :=
  "conn-" ++ String.ofList ((Nat.toDigits 10 n).leftpad 3 '0')

/-- Distinct numbers make distinct ids: the padding is of zeros. -/
theorem connectionId_injective : Function.Injective connectionId := by
  intro a b h
  have hlist := congrArg String.toList h
  simp only [connectionId, String.toList_append, String.toList_ofList] at hlist
  have hpad := List.append_cancel_left hlist
  have hread : ∀ n : ℕ, Nat.ofDigitChars 10 ((Nat.toDigits 10 n).leftpad 3 '0') 0 = n := by
    intro n
    rw [List.leftpad, Nat.ofDigitChars_append, Nat.ofDigitChars_replicate_zero, Nat.mul_zero,
      Nat.ofDigitChars_toDigits (by decide) (by decide)]
  rw [← hread a, ← hread b, hpad]

/-- `DiscoveredNode` of `discovery.rs`. -/
structure DiscoveredNode where
  hostname : String
  addr : SocketAddr
  tsMs : Int64
  deriving DecidableEq

/-- `ConnectionCacheEntry`. -/
structure ConnectionCacheEntry where
  connectionId : String
  hostname : String
  num : UInt8 := 0
  serverGres : List UInt8 := []
  recordTimestamp : Int64
  addr : SocketAddr
  lastSnapshot : Option ServerGresSnapshot := none
  lastError : Option String := none
  lastQueryLatencyUs : Option UInt64 := none
  deriving DecidableEq

/-- `CacheMap`. -/
abbrev CacheMap := Table CacheKey ConnectionCacheEntry

/-- The count of resources of a row. -/
def gresNum {α : Type} (gres : List α) : UInt8 := UInt8.ofNat (min gres.length 255)

/-- `ConnectionCacheEntry::from_snapshot`. -/
def ConnectionCacheEntry.fromSnapshot (connectionId : String) (addr : SocketAddr)
    (snapshot : ServerGresSnapshot) (lastQueryLatencyUs : Option UInt64) (nowMs : Int64) :
    ConnectionCacheEntry where
  connectionId
  hostname := snapshot.hostname
  num := gresNum snapshot.gres
  recordTimestamp := nowMs
  addr
  lastSnapshot := some snapshot
  lastQueryLatencyUs

/-- The row of a node that has been discovered and not connected to. -/
def ConnectionCacheEntry.discovered (connectionId : String) (node : DiscoveredNode) :
    ConnectionCacheEntry where
  connectionId
  hostname := node.hostname
  recordTimestamp := node.tsMs
  addr := node.addr

/-- `build_cache`: the last node of a key stays. -/
def buildCache (discovered : List DiscoveredNode) : CacheMap :=
  discovered.zipIdx.foldl
    (fun rows (node, idx) =>
      rows.insert node.addr.cacheKey (.discovered (connectionId (idx + 1)) node)) ∅

/-- `upsert_snapshot`. -/
def upsertSnapshot (rows : CacheMap) (connectionId : String) (addr : SocketAddr)
    (snapshot : ServerGresSnapshot) (lastQueryLatencyUs : Option UInt64) (nowMs : Int64) :
    CacheMap :=
  rows.insert addr.cacheKey (.fromSnapshot connectionId addr snapshot lastQueryLatencyUs nowMs)

/-- `mark_stale`. -/
def markStale (rows : CacheMap) (connectionId : String) (addr : SocketAddr)
    (hostname error : String) (nowMs : Int64) : CacheMap :=
  rows.insert addr.cacheKey
    { connectionId, hostname, recordTimestamp := nowMs, addr, lastError := some error }

/-- Every row is under the key of its address. -/
def Keyed (rows : CacheMap) : Prop :=
  ∀ key entry, rows.lookup key = some entry → entry.addr.cacheKey = key

end Backend
end Clustat
