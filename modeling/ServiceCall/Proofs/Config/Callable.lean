import ServiceCall.Proofs.Call.Binding
import ServiceCall.Proofs.Config.Construction
import ServiceCall.Proofs.Url.Host

/-!
Which servers of a configuration can be called. Every web URL can be aimed at a server, or none can;
host names, IPv4 addresses and IPv6 addresses in brackets make servers that can be called, and empty
brackets make one that cannot.
-/

namespace ServiceCall

namespace Server

/-- Whether a server can be called: its host is one that web URLs can have. -/
def IsCallable (server : Server) : Prop :=
  ∃ host, Url.Host.parseWeb (bracketedHost server.host).toList = .ok host

/-- A host without a colon is written as it is. -/
theorem bracketedHost_of_no_colon {host : String} (plain : ':' ∉ host.toList) :
    bracketedHost host = host := by
  -- Brackets are put around hosts with a colon only.
  rw [bracketedHost, if_neg (by simpa using plain)]

/-- A server whose host is a host name can be called. -/
theorem isCallable_of_name {server : Server} (named : Url.Host.isName server.host.toList = true) :
    server.IsCallable := by
  have usual : ∀ c ∈ server.host.toList, Url.Host.isNameChar c = true := by
    simp only [Url.Host.isName, Bool.and_eq_true, List.all_eq_true] at named
    exact named.1.1
  -- A colon is no character of host names, so the name is not put in brackets.
  have plain : ':' ∉ server.host.toList := fun found => absurd (usual ':' found) (by decide)
  rw [IsCallable, bracketedHost_of_no_colon plain]
  exact ⟨_, Url.Host.parseWeb_name named⟩

/-- A server whose host is an IPv4 address can be called. -/
theorem isCallable_of_ipv4 {server : Server} {address : UInt32}
    (written : server.host = Url.Ipv4.text address) : server.IsCallable := by
  -- Neither digits nor dots are put in brackets.
  have plain : ':' ∉ server.host.toList := by
    rw [written]
    intro found
    exact absurd (Url.Host.plain_of_mem_ipv4 found).1 (by decide)
  rw [IsCallable, bracketedHost_of_no_colon plain, written]
  exact ⟨_, Url.Host.parseWeb_ipv4 address⟩

/-- A server whose host is an IPv6 address can be called. -/
theorem isCallable_of_ipv6 {server : Server} {pieces : List Nat}
    (read : Url.Ipv6.parse server.host.toList = .ok pieces) : server.IsCallable := by
  -- Every IPv6 address has a colon, which is what brackets are put around a host for.
  have colon := Url.Ipv6.colon_mem_of_parse read
  have bracketed : (bracketedHost server.host).toList = '[' :: server.host.toList ++ [']'] := by
    rw [bracketedHost, if_pos (by simpa using colon)]
    simp [String.toList_append]
  rw [IsCallable, bracketed]
  exact ⟨_, Url.Host.parseWeb_ipv6 read⟩

/-- A server without a host cannot be called. -/
theorem not_isCallable_of_empty {server : Server} (empty : server.host = "") :
    ¬server.IsCallable := by
  -- Without a colon the empty host stays empty, which is the one fault of web hosts it has.
  have refused : Url.Host.parseWeb (bracketedHost "").toList = .error .emptyHost := by
    decide +kernel
  rintro ⟨host, read⟩
  rw [empty, refused] at read
  cases read

/-- A bracketed entry is read as a server without a host exactly if its brackets are empty. -/
theorem parseBracketed_host {entry rest : List Char} {server : Server}
    (parsed : parseBracketed entry rest = .ok server) :
    server.host = "" ↔ ∃ tail, rest = ']' :: tail := by
  -- The host is what stands before the first closing bracket.
  have cut : ∃ host tail, Text.splitFirst? ']' rest = some (host, tail) ∧
      server.host = String.ofList host := by
    unfold parseBracketed at parsed
    split at parsed
    · cases parsed
    · rename_i host found
      obtain rfl := Except.ok.inj parsed
      exact ⟨host, [], found, rfl⟩
    · rename_i host port found
      obtain ⟨number, -, rfl⟩ := map_ok_iff.mp parsed
      exact ⟨host, _, found, rfl⟩
    · cases parsed
  obtain ⟨host, tail, found, named⟩ := cut
  obtain ⟨joined, absent⟩ := Text.splitFirst?_eq_some found
  rw [named, String.ofList_eq_empty_iff]
  constructor
  · rintro rfl
    exact ⟨tail, joined⟩
  · rintro ⟨other, starts⟩
    cases host with
    | nil => rfl
    | cons first host =>
      -- The host would start with the bracket that it was cut off at.
      rw [joined] at starts
      exact absurd (List.cons.inj starts).1 fun same => absent (same ▸ List.mem_cons_self)

/-- An entry without brackets is never read as a server without a host. -/
theorem parsePlain_host {entry : List Char} {server : Server} (filled : entry ≠ [])
    (parsed : parsePlain entry = .ok server) : server.host ≠ "" := by
  unfold parsePlain at parsed
  split at parsed
  · -- Without a colon the whole entry is the host.
    obtain rfl := Except.ok.inj parsed
    simpa using filled
  · -- With one the host stands before it, and it is checked to be there.
    split at parsed
    · cases parsed
    · split at parsed
      · cases parsed
      · rename_i present
        obtain ⟨number, -, rfl⟩ := map_ok_iff.mp parsed
        simpa using present

/-- Only an entry that starts with empty brackets is read as a server without a host. -/
theorem host_eq_empty_iff {entry : String} {server : Server} (parsed : parse entry = .ok server) :
    server.host = "" ↔ ∃ rest, Text.trim entry.toList = '[' :: ']' :: rest := by
  unfold parse at parsed
  split at parsed
  · cases parsed
  · rename_i rest trimmed
    -- The entry starts with a bracket, so the next character decides.
    rw [parseBracketed_host parsed, trimmed]
    simp
  · rename_i trimmed unbracketed
    -- The entry starts with no bracket, and its host is not empty.
    refine iff_of_false (parsePlain_host trimmed parsed) ?_
    rintro ⟨rest, starts⟩
    exact unbracketed _ starts

end Server

/-- The schemes of web pages are schemes of calls. -/
theorem mem_callSchemes {scheme : String} (web : scheme ∈ ["http", "https"]) :
    scheme ∈ callSchemes :=
  List.mem_append_left ["ws", "wss"] web

/--
A server of a configuration that was read can be called with every web URL or with none, and then
each of them fails for good with the same fault. It can be called if its host is a host name or an
IP address, and not if it has no host, which only an entry that starts with empty brackets leads to.
-/
theorem Config.parse_aims {environment : Environment} {text : String} {config : Config}
    (parsed : Config.parse environment text = .ok config) (name : String)
    (introspector : Introspector) {entry : String}
    (listed : entry ∈ (config.client name).servers) :
    ∃ server, Server.parse entry = .ok server ∧
      (server.IsCallable → ∀ {address : String} {uri : Url}, Url.parse address = .ok uri →
        uri.scheme ∈ ["http", "https"] →
        ∃ bound, bindUri (config.client name) introspector server uri = .ok bound) ∧
      (¬server.IsCallable → ∃ problem, ∀ {address : String} {uri : Url},
        Url.parse address = .ok uri → uri.scheme ∈ ["http", "https"] →
        ∃ error, bindUri (config.client name) introspector server uri = .error error ∧
          error = .invalidUri (.unbindable uri.text server.hostPort problem) ∧
          error.isRetriable = false) ∧
      (Url.Host.isName server.host.toList = true ∨
        (∃ address, server.host = Url.Ipv4.text address) ∨
        (∃ pieces, Url.Ipv6.parse server.host.toList = .ok pieces) → server.IsCallable) ∧
      (server.host = "" → ¬server.IsCallable) ∧
      (server.host = "" ↔ ∃ rest, Text.trim entry.toList = '[' :: ']' :: rest) := by
  obtain ⟨server, read⟩ := (client_sound (validate_of_parse parsed) name).servers entry listed
  refine ⟨server, read, ?_, ?_, ?_, Server.not_isCallable_of_empty, Server.host_eq_empty_iff read⟩
  · -- Of all that is bound to a URL only the host can be refused, and it is that of the server.
    rintro ⟨host, web⟩ address uri written scheme
    rw [bindUri_web (mem_callSchemes scheme)
      (Url.parse_segments written (kindOf_of_mem_callSchemes (mem_callSchemes scheme))), web]
    exact ⟨_, rfl⟩
  · -- The fault is found in the host, before anything of the URL matters.
    intro uncallable
    cases web : Url.Host.parseWeb (Server.bracketedHost server.host).toList with
    | ok host => exact absurd ⟨host, web⟩ uncallable
    | error problem =>
      refine ⟨problem, fun {address uri} written scheme => ⟨_, ?_, rfl, rfl⟩⟩
      rw [bindUri_web (mem_callSchemes scheme)
        (Url.parse_segments written (kindOf_of_mem_callSchemes (mem_callSchemes scheme))), web]
  · -- Each of the three kinds of hosts is read back from how it is written.
    rintro (named | ⟨address, written⟩ | ⟨pieces, numbered⟩)
    · exact Server.isCallable_of_name named
    · exact Server.isCallable_of_ipv4 written
    · exact Server.isCallable_of_ipv6 numbered

/-- A web URL can be aimed at a server that a configuration names by an IPv6 address. -/
theorem Config.parse_aims_ipv6 :
    let text := "[clients.items]\nservers = [\"items.internal\", \"[::1]:9000\"]"
    let config : Config :=
      { clients := [("items", { servers := ["items.internal", "[::1]:9000"] })] }
    let server : Server := { host := "::1", port := 9000 }
    let uri : Url :=
      { scheme := "http", host := some (.domain "items"), path := .segments ["list"] }
    Config.parse (fun _ => none) text = .ok config ∧
      "[::1]:9000" ∈ (config.client "items").servers ∧ Server.parse "[::1]:9000" = .ok server ∧
      ∃ bound, bindUri (config.client "items") (.ofPorts [443]) server uri = .ok bound := by
  -- The configuration, the entry and the address are read by evaluation.
  intro text config server uri
  have parsed : Config.parse (fun _ => none) text = .ok config :=
    ok_of_toOption (by decide +kernel)
  have listed : "[::1]:9000" ∈ (config.client "items").servers := by decide
  have read : Server.parse "[::1]:9000" = .ok server := by decide +kernel
  have written : Url.parse "http://items/list" = .ok uri := by decide +kernel
  have numbered : Url.Ipv6.parse server.host.toList = .ok [0, 0, 0, 0, 0, 0, 0, 1] := by
    decide +kernel
  obtain ⟨same, again, aims, -, callable, -⟩ :=
    Config.parse_aims parsed "items" (.ofPorts [443]) listed
  obtain rfl := Except.ok.inj (read.symm.trans again)
  exact ⟨parsed, listed, read, aims (callable (.inr (.inr ⟨_, numbered⟩))) written (by decide)⟩

/-- A configuration is read although one of its servers has no host, and no web URL can be aimed at
that server. -/
theorem Config.parse_accepts_empty_brackets :
    let text := "[clients.items]\nservers = [\"[]\"]"
    let config : Config := { clients := [("items", { servers := ["[]"] })] }
    let server : Server := { host := "", port := 80 }
    let uri : Url :=
      { scheme := "http", host := some (.domain "items"), path := .segments ["list"] }
    Config.parse (fun _ => none) text = .ok config ∧ "[]" ∈ (config.client "items").servers ∧
      Server.parse "[]" = .ok server ∧ Url.parse "http://items/list" = .ok uri ∧
      bindUri (config.client "items") (.ofPorts [443]) server uri =
        .error (.invalidUri (.unbindable "http://items/list" ":80" .emptyHost)) := by
  -- Nothing is refused before the URL is aimed at the server.
  intro text config server uri
  have parsed : Config.parse (fun _ => none) text = .ok config :=
    ok_of_toOption (by decide +kernel)
  exact ⟨parsed, by decide, by decide +kernel, by decide +kernel, by decide +kernel⟩

end ServiceCall
