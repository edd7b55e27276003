import Cafce.Correctness.Commands
import Cafce.Correctness.Configuration
import Cafce.Correctness.Containment
import Cafce.Correctness.KeyAmbiguity
import Cafce.Correctness.KeyLines
import Cafce.Correctness.ObjectKeys
import Cafce.Correctness.ProbeProtocol
import Cafce.Correctness.Relocation
import Cafce.Correctness.Secrets
import Cafce.Correctness.PatternResolution
import Cafce.Correctness.PartialView
import Cafce.Correctness.BaseSpelling
import Cafce.Correctness.HashOrder
import Cafce.Correctness.FileSpellings
import Cafce.Correctness.ClientCredentials
import Cafce.Correctness.Endpoint
import Cafce.Correctness.AddressSpellings
import Cafce.Correctness.ObjectPrefixes
import Cafce.Correctness.Reexpansion
import Cafce.Library.EncodedText
import Cafce.Correctness.ByteSlices
import Cafce.Correctness.AddressingStyle
import Cafce.Correctness.Effects
import Cafce.Correctness.Replay
import Cafce.Correctness.StoreProbe
import Cafce.Correctness.Sessions
import Cafce.Correctness.Segments
import Cafce.Correctness.SharedBucket
import Cafce.Correctness.OpenedFiles
import Cafce.Correctness.ScriptedProbe
import Cafce.Correctness.ConcurrentRuns
import Cafce.Correctness.SecretFlow
import Cafce.Correctness.PinnedKeys
import Cafce.Correctness.UndecodablePaths
import Cafce.Correctness.PrefixNamespaces
