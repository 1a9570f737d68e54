import ServiceCall.Server.Tracker

/-!
What a call asks of a load balancer. Every operation takes the state of the balancer and gives the
next one, and those a balancer has no use for leave it as it is.
-/

namespace ServiceCall

/-- The operations of a load balancer over states of some type. -/
structure Balancer (σ : Type) where
  /-- Picks a live server, or none when nothing is reachable. -/
  choose : Option String → σ → Option Server × σ
  /-- Takes a server out of rotation. -/
  markDown : Server → σ → σ := fun _ state => state
  /-- The servers considered alive. -/
  reachable : σ → List Server
  /-- Notes that an attempt at a server started. -/
  recordStart : Server → σ → σ := fun _ state => state
  /-- Reports how long an attempt took and whether it succeeded. -/
  recordResult : Server → Duration → Bool → σ → σ := fun _ _ _ state => state
  /-- Ends an attempt that failed before anything reached the server. -/
  recordRelease : Server → σ → σ := fun _ state => state
  /-- A snapshot of the statistics, one entry for each known server. -/
  stats : σ → Except Fatal (List ServerStats) := fun _ => .ok []

namespace Balancer

/-- A balancer that always offers the same server, or never any, and keeps no statistics. -/
def fixed (server : Option Server) : Balancer Unit where
  choose _ state := (server, state)
  reachable _ := server.toList

end Balancer

end ServiceCall
