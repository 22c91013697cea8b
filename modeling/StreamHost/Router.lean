import StreamHost.Kernel
import StreamHost.Lib.OrdMap

/-! Audio placement sites and the router that registers them by key, each row
with the provider that owns it. -/

namespace StreamHost
open Std

structure AudioSiteKey where
  symbol : Symbol
deriving DecidableEq, Repr

namespace AudioSiteKey

def new (name : String) : AudioSiteKey := ⟨.new name⟩

instance : Ord AudioSiteKey := ⟨compareOn symbol⟩

instance : TransOrd AudioSiteKey := inferInstanceAs (TransCmp (compareOn symbol))

instance : LawfulEqOrd AudioSiteKey where
  eq_of_compare {first second} same := by
    have sameSymbol : first.symbol = second.symbol := Std.compare_eq_iff_eq.mp same
    cases first; cases second
    exact congrArg _ sameSymbol

end AudioSiteKey

structure AudioDeviceCard where
  key : AudioSiteKey
  displayName : String
  channelsOut : UInt16
  channelsIn : UInt16
  sampleRates : List UInt32
  hardwareRequired : Bool
deriving DecidableEq, Repr

def AudioDeviceCard.modeled (key : AudioSiteKey) (name : String) : AudioDeviceCard where
  key := key
  displayName := name
  channelsOut := 2
  channelsIn := 2
  sampleRates := [44100, 48000]
  hardwareRequired := false

/-- At least the requested outputs, and one of the preferred rates. -/
def AudioDeviceCard.satisfies (minChannelsOut : UInt16) (preferredRates : List UInt32) (card : AudioDeviceCard) : Bool :=
  card.channelsOut ≥ minChannelsOut && preferredRates.any (card.sampleRates.contains ·)

/-- The descriptive half of the `AudioSite` trait. -/
class AudioSite (Site : Type) where
  key : Site → AudioSiteKey
  card : Site → AudioDeviceCard

structure ModeledAudioSite where
  deviceCard : AudioDeviceCard
deriving DecidableEq, Repr

instance : AudioSite ModeledAudioSite where
  key site := site.deviceCard.key
  card := ModeledAudioSite.deviceCard

structure RegisteredAudioSite (Site : Type) where
  owner : Symbol
  site : Site
deriving DecidableEq, Repr

/-- Every row is registered under its own site's key. -/
structure AudioRouter (Site : Type) [AudioSite Site] where
  sites : ExtTreeMap AudioSiteKey (RegisteredAudioSite Site)
  keyed : ∀ (key : AudioSiteKey) (row : RegisteredAudioSite Site), sites[key]? = some row → AudioSite.key row.site = key

namespace AudioRouter
variable {Site : Type} [AudioSite Site]

def new : AudioRouter Site := ⟨∅, by simp⟩

def put (owner : Symbol) (site : Site) (router : AudioRouter Site) : AudioRouter Site where
  sites := router.sites.insert (AudioSite.key site) ⟨owner, site⟩
  keyed := by
    intro key row
    rw [OrdMap.getElem?_insert]
    split
    · rintro ⟨rfl⟩; assumption
    · exact router.keyed key row

def registerOwned (owner : Symbol) (site : Site) (router : AudioRouter Site) : Result Unit × AudioRouter Site :=
  if router.sites.contains (AudioSite.key site) then
    (.error (.eval s!"audio site {(AudioSite.key site).symbol} is already registered"), router)
  else (.ok (), router.put owner site)

/-- Replaces only a row of the same owner. -/
def reloadOwned (owner : Symbol) (site : Site) (router : AudioRouter Site) : Result Unit × AudioRouter Site :=
  match router.sites[AudioSite.key site]? with
  | some existing =>
    if existing.owner ≠ owner then
      (.error (.eval s!"audio site {(AudioSite.key site).symbol} is already owned by {existing.owner}"), router)
    else (.ok (), router.put owner site)
  | none => (.ok (), router.put owner site)

/-- The router without the rows of `owner`. -/
def withoutOwner (owner : Symbol) (router : AudioRouter Site) : AudioRouter Site where
  sites := router.sites.filter fun _ row => row.owner ≠ owner
  keyed := by
    intro key row
    rw [ExtTreeMap.getElem?_filter', Option.filter_eq_some_iff]
    exact fun kept => router.keyed key row kept.1

/-- The answer is the number of removed rows. -/
def unregisterOwner (owner : Symbol) (router : AudioRouter Site) : Nat × AudioRouter Site :=
  (router.sites.size - (router.withoutOwner owner).sites.size, router.withoutOwner owner)

/-- The rows in one order in which the map may list them. It is a hash map, so any order is one. -/
def RegisteredSites (router : AudioRouter Site) : Type :=
  { rows : List (RegisteredAudioSite Site) // rows.Perm router.sites.values }

/-- The rows in the order of their keys. -/
def byKey (router : AudioRouter Site) : router.RegisteredSites := ⟨router.sites.values, .refl _⟩

def sitesByCapability {router : AudioRouter Site} (registered : router.RegisteredSites) (minChannelsOut : UInt16)
    (preferredRates : List UInt32) : List AudioSiteKey :=
  let keys := (registered.val.filter fun row =>
    (AudioSite.card row.site).satisfies minChannelsOut preferredRates).map fun row => AudioSite.key row.site
  keys.mergeSort fun left right => (compare left.symbol.asQualifiedStr right.symbol.asQualifiedStr).isLE

end AudioRouter

end StreamHost
