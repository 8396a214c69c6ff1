import ConnectorProfiles.Claims.Json
import ConnectorProfiles.Proofs.Extractor.Presentation
import ConnectorProfiles.Proofs.Extractor.Reread
import ConnectorProfiles.Proofs.Extractor.Positions
import ConnectorProfiles.Settings.Load
import ConnectorProfiles.Wiring
import ConnectorProfiles.Proofs.Extractor.Changes
import ConnectorProfiles.Proofs.Registry.History
import ConnectorProfiles.Proofs.Dispatch.Answers
import ConnectorProfiles.Proofs.Extractor.Resolution
import ConnectorProfiles.Proofs.Wiring.Declared
import ConnectorProfiles.Proofs.Wiring.Agreement
import ConnectorProfiles.Proofs.Wiring.Loaded
import ConnectorProfiles.Proofs.Claims.Direct
import ConnectorProfiles.Proofs.Settings.Decoding
import ConnectorProfiles.Proofs.Settings.FirstBroken
import ConnectorProfiles.Proofs.Settings.WrittenBack
import ConnectorProfiles.Proofs.Settings.Notations
import ConnectorProfiles.Proofs.Dispatch.Policy
import ConnectorProfiles.Proofs.Registry.Versions
import ConnectorProfiles.Proofs.Registry.Hiding
import ConnectorProfiles.Proofs.Wiring.Trace
import ConnectorProfiles.Proofs.Extractor.Listings
import ConnectorProfiles.Proofs.Participants.Registrations
