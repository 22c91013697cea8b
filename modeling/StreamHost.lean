import StreamHost.Proofs.ProviderAuthority
import StreamHost.ProviderHost
import StreamHost.GlassesPlacement
import StreamHost.Proofs.BrowseCards
import StreamHost.Cards
import StreamHost.Proofs.OpenedAuthority
import StreamHost.OpenedSession
import StreamHost.Proofs.WatchRoutes
import StreamHost.Proofs.ManifestAuthority
import StreamHost.Manifest
import StreamHost.Proofs.OpenedStreams
import StreamHost.Cassette
import StreamHost.Proofs.HaloOpening
import StreamHost.Proofs.PlacementOpens
import StreamHost.Proofs.ConsentedStore
import StreamHost.Proofs.StoreLedger
import StreamHost.Proofs.WornConsent
import StreamHost.Proofs.VitureStream
import StreamHost.Proofs.SessionJournal
import StreamHost.Proofs.TypedPolling
import StreamHost.Wristbridge.Bringup
import StreamHost.DeviceSample
import StreamHost.Proofs.GlanceText
import StreamHost.Proofs.HaloStream
import StreamHost.Proofs.LuaDecoding
import StreamHost.Proofs.EffectReversal
import StreamHost.Proofs.VitureGrammar
import StreamHost.Proofs.LanDelay
import StreamHost.Proofs.BackendNames
import StreamHost.Proofs.CandidateRegex
import StreamHost.Proofs.RouterListings
import StreamHost.Proofs.CanonicalRows
import StreamHost.Proofs.ButtonCodec
import StreamHost.Proofs.ImportedRows
import StreamHost.Proofs.RowSeparators
import StreamHost.Proofs.ImportLayout
import StreamHost.Proofs.SweepComposition
import StreamHost.Proofs.HaloLanes
import StreamHost.Proofs.PriorityOrder
import StreamHost.Proofs.GlyphDiff
import StreamHost.Proofs.CommandReaders
import StreamHost.Proofs.LiveSiteRelease
import StreamHost.Proofs.OldestFirst
import StreamHost.Proofs.FrameConvergence
import StreamHost.Proofs.PacketReceipts
import StreamHost.Proofs.StoppedGlasses
import StreamHost.Proofs.CatalogOpens
import StreamHost.Proofs.CheckedOpens
import StreamHost.Proofs.DriverShutdown
import StreamHost.Lib.Saturating
import StreamHost.MusicEffects
import StreamHost.Lib.BoundedQueue
import StreamHost.Proofs.RingRefinement
import StreamHost.Proofs.RetentionSweep
import StreamHost.Proofs.StoreAccount
import StreamHost.Proofs.CameraConsent
import StreamHost.Proofs.SiteOwnership
import StreamHost.Proofs.WornEventWire
import StreamHost.Proofs.KeyedSessions
import StreamHost.Proofs.EffectAccounting
import StreamHost.Proofs.EffectReceipts
