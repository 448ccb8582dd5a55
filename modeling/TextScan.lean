import TextScan.Main
import TextScan.Manifest
import TextScan.Proofs.Arithmetic.Patterns
import TextScan.Proofs.Arithmetic.Tokenize
import TextScan.Proofs.Cache
import TextScan.Proofs.Cache.Recency
import TextScan.Proofs.Engine.Language
import TextScan.Proofs.Engine.Locality
import TextScan.Proofs.Pattern.Language
import TextScan.Proofs.Scanner.Boundaries
import TextScan.Proofs.Scanner.Bounds
import TextScan.Proofs.Scanner.Failure
import TextScan.Proofs.Scanner.Families
import TextScan.Proofs.Scanner.Faults
import TextScan.Proofs.Scanner.Register
import TextScan.Proofs.Scanner.Search
import TextScan.Proofs.Scanner.Tiling
import TextScan.Proofs.Scanner.Translation
import TextScan.Proofs.Session.Configuration
import TextScan.Proofs.Session.Construction
import TextScan.Proofs.Session.Isolation
import TextScan.Proofs.Session.Sharing
import TextScan.Session
import TextScan.Timestamp
import TextScan.Proofs.Scanner.Tracking
import TextScan.Proofs.Arithmetic.Spacing
import TextScan.Proofs.Pattern.Groups
import TextScan.Proofs.Pattern.Captures
import TextScan.Proofs.Scanner.Groups
import TextScan.Proofs.Scanner.Reading
import TextScan.Proofs.Scanner.Keys
