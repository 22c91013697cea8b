import StreamHost.Kernel
import StreamHost.Lib.Machine
import StreamHost.Lib.OrdMap
import StreamHost.Lib.Saturating

/-! The size-bounded content store with modeled retention eviction. A `usize` is
a 64-bit word. -/

namespace StreamHost
open Std

/-- The stable key of a stored frame. -/
structure StoreKey where
  symbol : Symbol
deriving DecidableEq, Repr

namespace StoreKey

def new (symbol : Symbol) : StoreKey := ⟨symbol⟩

def named (name : String) : StoreKey := ⟨.qualified "stream/content" name⟩

instance : Ord StoreKey := ⟨compareOn symbol⟩

instance : TransOrd StoreKey := inferInstanceAs (TransCmp (compareOn symbol))

instance : LawfulEqOrd StoreKey where
  eq_of_compare {first second} same := by
    have sameSymbol : first.symbol = second.symbol := Std.compare_eq_iff_eq.mp same
    cases first; cases second
    exact congrArg _ sameSymbol

end StoreKey

structure ContentFrame where
  key : StoreKey
  session : Symbol
  receiptSeq : UInt64
  insertedTick : UInt64
  sizeBytes : UInt64
  value : Expr

structure RetentionWindow where
  session : Symbol
  receiptSeq : UInt64
  retainMs : UInt64
deriving DecidableEq, Repr

structure StoreEvicted where
  key : StoreKey
  reason : Symbol
deriving DecidableEq, Repr

def sizeBoundReason : Symbol := .qualified "stream/content-evict" "size-bound"

def retentionReason : Symbol := .qualified "stream/content-evict" "retention"

def replacedReason : Symbol := .qualified "stream/content-evict" "replaced"

def elapsedMs (nowTick thenTick : UInt64) (adaptHz : UInt16) : UInt64 :=
  let elapsedTicks := nowTick.saturatingSub thenTick
  elapsedTicks.saturatingMul 1000 / (max adaptHz 1).toUInt64

structure BoundedContentStore where
  maxBytes : UInt64
  usedBytes : UInt64
  entries : ExtTreeMap StoreKey ContentFrame
  order : List StoreKey
  keyed : ∀ (key : StoreKey) (frame : ContentFrame), entries[key]? = some frame → frame.key = key

namespace BoundedContentStore

def emptyStore (maxBytes : UInt64) : BoundedContentStore :=
  { maxBytes, usedBytes := 0, entries := ∅, order := [], keyed := by simp }

def new (maxBytes : UInt64) : Result BoundedContentStore :=
  if maxBytes = 0 then .error (.eval "content store bound must be greater than zero") else .ok (emptyStore maxBytes)

/-- The store after `frame` was taken out from under `key`. -/
def without (key : StoreKey) (frame : ContentFrame) (store : BoundedContentStore) : BoundedContentStore where
  maxBytes := store.maxBytes
  usedBytes := store.usedBytes.saturatingSub frame.sizeBytes
  entries := store.entries.erase key
  order := store.order.filter (· ≠ key)
  keyed := by
    intro other kept
    rw [OrdMap.getElem?_erase]
    split
    · exact nofun
    · exact store.keyed other kept

def removeExisting (key : StoreKey) (store : BoundedContentStore) : Option ContentFrame × BoundedContentStore :=
  match store.entries[key]? with
  | none => (none, store)
  | some frame => (some frame, store.without key frame)

/-- The loop of `evictOldest` over the keys it pops from the front of the order. -/
def evictFirst (reason : Symbol) (store : BoundedContentStore) :
    List StoreKey → Option StoreEvicted × BoundedContentStore
  | [] => (none, { store with order := [] })
  | key :: rest =>
    match removeExisting key { store with order := rest } with
    | (some _, next) => (some ⟨key, reason⟩, next)
    | (none, next) => evictFirst reason next rest

def evictOldest (reason : Symbol) (store : BoundedContentStore) : Option StoreEvicted × BoundedContentStore :=
  evictFirst reason store store.order

theorem removeExisting_order_le (key : StoreKey) (store : BoundedContentStore) :
    (store.removeExisting key).2.order.length ≤ store.order.length := by
  unfold removeExisting
  split
  · exact Nat.le_refl _
  · exact List.length_filter_le _ _

theorem evictFirst_shortens {reason : Symbol} {store next : BoundedContentStore} {keys : List StoreKey}
    {item : StoreEvicted} (evicted : evictFirst reason store keys = (some item, next)) :
    next.order.length < keys.length := by
  induction keys generalizing store with
  | nil => cases evicted
  | cons key rest ih =>
    have bound := removeExisting_order_le key { store with order := rest }
    rw [evictFirst] at evicted
    split at evicted
    · rename_i removed
      cases evicted
      rw [removed] at bound
      exact Nat.lt_succ_of_le bound
    · exact Nat.lt_succ_of_lt (ih evicted)

/-- The eviction loop of `insert`, with the evicted items in the order of removal. -/
def makeRoom (sizeBytes : UInt64) (store : BoundedContentStore) : List StoreEvicted × BoundedContentStore :=
  if store.maxBytes < store.usedBytes.saturatingAdd sizeBytes then
    match _ : store.evictOldest sizeBoundReason with
    | (some item, next) => (makeRoom sizeBytes next).map (item :: ·) id
    | (none, next) => ([], next)
  else ([], store)
termination_by store.order.length
decreasing_by exact evictFirst_shortens ‹_›

def withFrame (frame : ContentFrame) (store : BoundedContentStore) : BoundedContentStore where
  maxBytes := store.maxBytes
  usedBytes := store.usedBytes.saturatingAdd frame.sizeBytes
  order := store.order ++ [frame.key]
  entries := store.entries.insert frame.key frame
  keyed := by
    intro key found
    rw [OrdMap.getElem?_insert]
    split
    · rintro ⟨rfl⟩; assumption
    · exact store.keyed key found

def insert (frame : ContentFrame) (store : BoundedContentStore) :
    Result (List StoreEvicted) × BoundedContentStore :=
  if store.maxBytes < frame.sizeBytes then
    (.error (.eval s!"content frame {frame.sizeBytes} bytes exceeds store bound {store.maxBytes}"), store)
  else
    let (existing, kept) := store.removeExisting frame.key
    let replaced := if existing.isSome then [⟨frame.key, replacedReason⟩] else []
    let (evicted, roomy) := kept.makeRoom frame.sizeBytes
    (.ok (replaced ++ evicted), roomy.withFrame frame)

/-- The window assigned to a frame: the first of its session and receipt. -/
def firstWindow (windows : List RetentionWindow) (frame : ContentFrame) : Option RetentionWindow :=
  windows.find? fun window => window.session = frame.session ∧ window.receiptSeq = frame.receiptSeq

def expired (nowTick : UInt64) (adaptHz : UInt16) (windows : List RetentionWindow) (frame : ContentFrame) : Bool :=
  (firstWindow windows frame).all fun window => window.retainMs < elapsedMs nowTick frame.insertedTick adaptHz

def removeAll (reason : Symbol) (store : BoundedContentStore) : List StoreKey → List StoreEvicted × BoundedContentStore
  | [] => ([], store)
  | key :: rest =>
    match store.removeExisting key with
    | (some _, next) => (removeAll reason next rest).map (⟨key, reason⟩ :: ·) id
    | (none, next) => removeAll reason next rest

def sweepRetention (nowTick : UInt64) (adaptHz : UInt16) (windows : List RetentionWindow)
    (store : BoundedContentStore) : List StoreEvicted × BoundedContentStore :=
  let frames := store.entries.toList.map Prod.snd
  removeAll retentionReason store ((frames.filter (expired nowTick adaptHz windows)).map ContentFrame.key)

def contains (key : StoreKey) (store : BoundedContentStore) : Bool := store.entries.contains key

end BoundedContentStore

inductive StoreCall where
  | insert (frame : ContentFrame)
  | sweepRetention (nowTick : UInt64) (adaptHz : UInt16) (windows : List RetentionWindow)

inductive StoreAnswer where
  | inserted (result : Result (List StoreEvicted))
  | swept (evicted : List StoreEvicted)

def BoundedContentStore.machine : Machine BoundedContentStore StoreCall StoreAnswer where
  step store call := match call with
    | .insert frame => (store.insert frame).map .inserted id
    | .sweepRetention nowTick adaptHz windows => (store.sweepRetention nowTick adaptHz windows).map .swept id

end StreamHost
