import ServiceCall.Balancer.Interface
import ServiceCall.Balancer.Strategy
import ServiceCall.Config.Basic

/-!
A load balancer over a fixed list of servers. Servers out of rotation are not offered, and each
report of an attempt goes to the first entry of the server it names.
-/

namespace ServiceCall

/-- A named list of servers with their statistics, and the strategy that picks among them. -/
structure Pool where
  name : String
  trackers : List Tracker
  strategy : Strategy

namespace Pool

/-- A pool of live servers without any history. -/
def ofServers (name : String) (servers : List Server) (strategy : Strategy) : Pool :=
  { name, trackers := servers.map Tracker.ofServer, strategy }

/-- Reads the server entries of a client, or refuses the first that is no server. -/
def parseServers (client : String) : List String → Except CallError (List Server)
  | [] => .ok []
  | entry :: rest => do
    let server ← (Server.parse entry).mapError fun problem =>
      CallError.configuration (.invalidServer entry client problem)
    let servers ← parseServers client rest
    .ok (server :: servers)

/-- The pool of a client's configured servers, under its configured strategy. -/
def ofConfig (draws : Nat → Nat) (config : ClientConfig) : Except CallError Pool := do
  let servers ← parseServers config.clientName config.servers
  let strategy ← Strategy.ofName draws config.strategy
  .ok (ofServers config.clientName servers strategy)

/-- Changes the first tracker of a server. -/
def updateFirst (server : Server) (change : Tracker → Tracker) : List Tracker → List Tracker
  | [] => []
  | tracker :: rest =>
    if tracker.server = server then change tracker :: rest
    else tracker :: updateFirst server change rest

/-- The pool with the first tracker of a server changed. -/
def update (pool : Pool) (server : Server) (change : Tracker → Tracker) : Pool :=
  { pool with trackers := updateFirst server change pool.trackers }

/-- The live servers in their configured order. -/
def reachable (pool : Pool) : List Server :=
  (pool.trackers.filter (·.alive)).map (·.server)

/-- The number of servers, live or not. -/
def size (pool : Pool) : Nat :=
  pool.trackers.length

/-- Picks a live server; the strategy is not asked when there is none. -/
def choose (pool : Pool) : Option Server × Pool :=
  match pool.strategy.pick pool.reachable.length with
  | .ok (index, strategy) => (pool.reachable[index]?, { pool with strategy })
  | .error _ => (none, pool)

/-- Takes a server out of rotation. -/
def markDown (pool : Pool) (server : Server) : Pool :=
  pool.update server fun tracker => { tracker with alive := false }

/-- Puts a server back into rotation. -/
def markUp (pool : Pool) (server : Server) : Pool :=
  pool.update server fun tracker => { tracker with alive := true }

/-- Notes that an attempt at a server started. -/
def recordStart (pool : Pool) (server : Server) : Pool :=
  pool.update server Tracker.start

/-- Reports the outcome of an attempt at a server. -/
def recordResult (pool : Pool) (server : Server) (elapsed : Duration) (success : Bool) : Pool :=
  pool.update server (·.finish elapsed success)

/-- Ends an attempt that did not reach a server. -/
def recordRelease (pool : Pool) (server : Server) : Pool :=
  pool.update server Tracker.release

/-- A snapshot of the statistics, one entry for each server in configured order. -/
def stats (pool : Pool) : Except Fatal (List ServerStats) :=
  pool.trackers.mapM Tracker.stats

/-- A pool as the balancer of calls. -/
def balancer : Balancer Pool where
  choose _ pool := pool.choose
  markDown server pool := pool.markDown server
  reachable pool := pool.reachable
  recordStart server pool := pool.recordStart server
  recordResult server elapsed success pool := pool.recordResult server elapsed success
  recordRelease server pool := pool.recordRelease server
  stats pool := pool.stats

end Pool

end ServiceCall
