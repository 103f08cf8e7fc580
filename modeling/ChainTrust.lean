import ChainTrust.Directory
import ChainTrust.Main
import ChainTrust.Proofs.HostNames
import ChainTrust.Proofs.Repetition
import ChainTrust.Proofs.Requests
import ChainTrust.Proofs.Waivers
import ChainTrust.Proofs.Framing
import ChainTrust.Proofs.TimestampSources
import ChainTrust.Proofs.Recognition
import ChainTrust.Proofs.Classification
import ChainTrust.Proofs.Accessors
import ChainTrust.Proofs.Bounds
import ChainTrust.Proofs.TimestampForms
import ChainTrust.Proofs.SignedData
import ChainTrust.Proofs.PathLength
import ChainTrust.Proofs.NameConstraints
import ChainTrust.Proofs.Allowlisting
import ChainTrust.Proofs.Containment
import ChainTrust.Proofs.Narrowing
import ChainTrust.Proofs.Retention
import ChainTrust.Proofs.Overreach
import ChainTrust.Proofs.Anchoring
import ChainTrust.Proofs.KeyUses
import ChainTrust.Proofs.Lifetime
import ChainTrust.Proofs.Respelling
import ChainTrust.Proofs.HostForms
import ChainTrust.Proofs.Unusable
import ChainTrust.Proofs.Installation
import ChainTrust.Proofs.CriticalExtensions
import ChainTrust.Proofs.Precertificates
import ChainTrust.Proofs.Reencoding
import ChainTrust.Proofs.HexDigits
import ChainTrust.Proofs.Thresholds
import ChainTrust.Proofs.KeySizes
import ChainTrust.Proofs.NameEquality
import ChainTrust.Proofs.PolicyRoundTrip
