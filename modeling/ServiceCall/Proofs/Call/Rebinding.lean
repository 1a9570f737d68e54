import ServiceCall.Proofs.Call.Binding

/-!
A URI aimed at one server after another. The second binding forgets all of the first one but the
secure scheme that it may have led to.
-/

namespace ServiceCall

variable {config : ClientConfig} {introspector : Introspector} {server : Server} {bound : Url}

/-- Only a URI with a path in segments can be aimed at a server. -/
theorem bindUri_segments {uri : Url}
    (aimed : bindUri config introspector server uri = .ok bound) :
    ∃ names, uri.path = .segments names := by
  cases path : uri.path with
  | segments names => exact ⟨names, rfl⟩
  | flat text =>
    -- A path without structure leaves no place for a host, whatever the scheme becomes.
    obtain ⟨port, upgraded⟩ := upgradeScheme_eq config introspector server uri
    have refused : (upgradeScheme config introspector server uri).setHost
        (Server.bracketedHost server.host) = .error .noHostToSet := by
      rw [upgraded, Url.setHost, path]
    simp only [bindUri, refused] at aimed
    cases aimed

/-- What is left of a URI when it is aimed at a server: all but its scheme, host and port. -/
theorem bindUri_ok_iff (uri : Url) (web : uri.scheme ∈ callSchemes)
    (rooted : ∃ names, uri.path = .segments names) :
    bindUri config introspector server uri = .ok bound ↔
      ∃ host, Url.Host.parseWeb (Server.bracketedHost server.host).toList = .ok host ∧
        bound =
          { uri with
            scheme := aimedScheme (config.isSecureServer introspector server) uri.scheme
            host := some host
            port :=
              Url.writtenPort
                (aimedScheme (config.isSecureServer introspector server) uri.scheme)
                server.port } := by
  -- The binding fails with the host, or gives this one URI.
  rw [bindUri_web web rooted]
  cases Url.Host.parseWeb (Server.bracketedHost server.host).toList with
  | error problem => simp
  | ok host =>
    simp only [Except.ok.injEq, exists_eq_left']
    exact eq_comm

/-- A binding does not look at the host and the port that a URI has. -/
theorem bindUri_of_elsewhere (uri : Url) (web : uri.scheme ∈ callSchemes)
    (rooted : ∃ names, uri.path = .segments names) (host : Option Url.Host)
    (port : Option UInt16) :
    bindUri config introspector server { uri with host, port } = .ok bound ↔
      bindUri config introspector server uri = .ok bound := by
  -- On both sides the bound URI is told without the host and the port.
  rw [bindUri_ok_iff { uri with host, port } web rooted, bindUri_ok_iff uri web rooted]

/-- A server asks for the scheme once, and for no other one after that. -/
theorem aimedScheme_idem (secure : Bool) (scheme : String) :
    aimedScheme secure (aimedScheme secure scheme) = aimedScheme secure scheme := by
  -- The two secure schemes are upgraded no further.
  unfold aimedScheme
  by_cases http : secure = true ∧ scheme = "http"
  · simp [http]
  · by_cases ws : secure = true ∧ scheme = "ws"
    · simp [ws]
    · simp [http, ws]

/-- The secure form of a scheme is another scheme. -/
theorem ne_of_secureScheme? {scheme secure : String}
    (upgrade : secureScheme? scheme = some secure) : secure ≠ scheme := by
  -- Each of the two upgrades adds a letter.
  unfold secureScheme? at upgrade
  split at upgrade
  · obtain rfl := Option.some.inj upgrade
    simp_all
  · split at upgrade
    · obtain rfl := Option.some.inj upgrade
      simp_all
    · cases upgrade

/-- An upgrade that leaves the scheme as it is leaves the whole URI. -/
theorem upgradeScheme_eq_self {uri : Url}
    (kept : (upgradeScheme config introspector server uri).scheme = uri.scheme) :
    upgradeScheme config introspector server uri = uri := by
  -- An upgrade always writes another scheme, so there was none.
  unfold upgradeScheme at kept ⊢
  split at kept
  · rename_i secure upgrade
    split at kept
    · exact absurd kept (ne_of_secureScheme? upgrade)
    · rename_i plain
      rw [if_neg plain]
  · rfl

/-- A bound URI is the upgraded one with another host and port. -/
theorem bound_eq_upgraded {uri : Url} (web : uri.scheme ∈ callSchemes)
    (aimed : bindUri config introspector server uri = .ok bound) :
    bound = { upgradeScheme config introspector server uri with
      host := bound.host, port := bound.port } := by
  -- The two have the same scheme, and the upgrade changes nothing else but the port.
  obtain ⟨host, -, rfl⟩ := (bindUri_ok_iff uri web (bindUri_segments aimed)).mp aimed
  obtain ⟨port, upgraded⟩ := upgradeScheme_eq config introspector server uri
  rw [upgraded]

/--
A URI that was aimed at one server and is then aimed at a second one becomes what the second binding
makes of the upgraded URI alone. To aim it at the same server again changes nothing, and a first
server that leads to no upgrade leaves no trace.
-/
theorem bindUri_forgets {uri : Url} {first : Server}
    (web : uri.scheme ∈ ["http", "https", "ws", "wss"])
    (aimed : bindUri config introspector first uri = .ok bound) (second : Server) :
    (∀ again, bindUri config introspector second bound = .ok again ↔
      bindUri config introspector second (upgradeScheme config introspector first uri) =
        .ok again) ∧
      bindUri config introspector first bound = .ok bound ∧
      (bound.scheme = uri.scheme → ∀ again, bindUri config introspector second bound = .ok again ↔
        bindUri config introspector second uri = .ok again) := by
  have rooted := bindUri_segments aimed
  obtain ⟨port, upgraded⟩ := upgradeScheme_eq config introspector first uri
  have secure := aimedScheme_mem web (config.isSecureServer introspector first)
  -- The first binding differs from the upgrade in what the second one replaces.
  have forgets : ∀ again, bindUri config introspector second bound = .ok again ↔
      bindUri config introspector second (upgradeScheme config introspector first uri) =
        .ok again := by
    intro again
    rw [bound_eq_upgraded web aimed]
    apply bindUri_of_elsewhere
    · rw [upgraded]
      exact secure
    · rw [upgraded]
      exact rooted
  refine ⟨forgets, ?_, ?_⟩
  · obtain ⟨host, read, rfl⟩ := (bindUri_ok_iff uri web rooted).mp aimed
    -- The scheme is asked for a second time, and the host and the port are written again.
    refine (bindUri_ok_iff _ ?_ ?_).mpr ⟨host, read, ?_⟩
    · exact secure
    · exact rooted
    · simp only [aimedScheme_idem]
  · intro kept again
    -- The bound URI has the scheme of the upgraded one.
    have unchanged : upgradeScheme config introspector first uri = uri := by
      apply upgradeScheme_eq_self
      rw [← kept, bound_eq_upgraded web aimed]
    rw [forgets again, unchanged]

/--
A URI aimed at a secure server and then at a plain one stays secure, and has the host and the port
of the second server; the first one's port, which was left out, does not come back.
-/
theorem bindUri_forgets_upgrade :
    let uri : Url :=
      { scheme := "http", username := "ann", host := some (.domain "items"), port := some 8080
        path := .segments ["list"] }
    let bound : Url :=
      { uri with scheme := "https", host := some (.ipv6 [0, 0, 0, 0, 0, 0, 0, 1]), port := none }
    let again : Url := { uri with scheme := "https", host := some (.ipv4 1), port := some 80 }
    let first : Server := { host := "::1", port := 443 }
    let second : Server := { host := "0.0.0.1", port := 80 }
    uri.scheme ∈ ["http", "https", "ws", "wss"] ∧
      bindUri (.ofName "a") (.ofPorts [443]) first uri = .ok bound ∧
      bindUri (.ofName "a") (.ofPorts [443]) second bound = .ok again := by
  intro uri bound again first second
  have web : uri.scheme ∈ ["http", "https", "ws", "wss"] := by decide
  have aimed : bindUri (.ofName "a") (.ofPorts [443]) first uri = .ok bound :=
    ok_of_toOption (by decide +kernel)
  -- The second server is no secure one, so the upgraded scheme is kept.
  have upgraded : bindUri (.ofName "a") (.ofPorts [443]) second
      (upgradeScheme (.ofName "a") (.ofPorts [443]) first uri) = .ok again :=
    ok_of_toOption (by decide +kernel)
  exact ⟨web, aimed, ((bindUri_forgets web aimed second).1 again).mpr upgraded⟩

end ServiceCall
