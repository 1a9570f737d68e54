import ServiceCall.Call.Binding
import ServiceCall.Proofs.Url.Parser

/-! A logical URI aimed at a server: when this fails, and what becomes of every part of the URI. -/

namespace ServiceCall

/-- Aiming a URI at a server fails with a fault of the URI and in no other way. -/
theorem bindUri_error {config : ClientConfig} {introspector : Introspector} {server : Server}
    {uri : Url} {error : CallError}
    (failed : bindUri config introspector server uri = .error error) :
    ∃ fault, error = .invalidUri fault := by
  -- Both steps that can fail name their fault.
  simp only [bindUri] at failed
  split at failed
  · exact ⟨_, (Except.error.inj failed).symm⟩
  · split at failed
    · exact ⟨_, (Except.error.inj failed).symm⟩
    · cases failed

/-- The schemes of calls: the plain ones and their secure forms. -/
def callSchemes : List String :=
  ["http", "https", "ws", "wss"]

/-- The schemes of calls are web schemes. -/
theorem kindOf_of_mem_callSchemes {scheme : String} (web : scheme ∈ callSchemes) :
    Url.kindOf scheme = .web := by
  -- Each of the four schemes is looked up in the table of kinds.
  simp only [callSchemes, List.mem_cons, List.not_mem_nil, or_false] at web
  rcases web with rfl | rfl | rfl | rfl <;> rfl

/-- The scheme of a URI that is aimed at a server, by whether the server is secure. -/
def aimedScheme (secure : Bool) (scheme : String) : String :=
  if secure = true ∧ scheme = "http" then "https"
  else if secure = true ∧ scheme = "ws" then "wss"
  else scheme

/-- An upgrade leaves the schemes of calls among themselves. -/
theorem aimedScheme_mem {scheme : String} (web : scheme ∈ callSchemes) (secure : Bool) :
    aimedScheme secure scheme ∈ callSchemes := by
  -- Both upgrades lead to a scheme of the list.
  unfold aimedScheme
  split
  · simp [callSchemes]
  · split
    · simp [callSchemes]
    · -- Without an upgrade, the scheme is the one that was written.
      exact web

/-- A scheme upgrade changes the scheme and at most the written port besides. -/
theorem upgradeScheme_eq (config : ClientConfig) (introspector : Introspector) (server : Server)
    (uri : Url) :
    ∃ port, upgradeScheme config introspector server uri =
      { uri with
        scheme := aimedScheme (config.isSecureServer introspector server) uri.scheme
        port } := by
  -- The two plain schemes are told apart from all others, and then the server decides.
  unfold upgradeScheme secureScheme? aimedScheme
  cases config.isSecureServer introspector server with
  | false =>
    -- For a server that is not secure, the URI is left as it is.
    refine ⟨uri.port, ?_⟩
    simp only [Bool.false_eq_true, if_false, false_and]
    split <;> rfl
  | true =>
    by_cases http : uri.scheme = "http"
    · -- Only an upgrade looks at the port, which may be that of the new scheme.
      exact ⟨_, by simp only [http, if_true, true_and]; rfl⟩
    · -- Apart from the plain web scheme, only that of plain sockets is upgraded, in the same way.
      by_cases ws : uri.scheme = "ws"
      · exact ⟨_, by simp only [ws, if_true, true_and]; rfl⟩
      · exact ⟨uri.port, by simp only [http, ws, if_false, and_false]⟩

/-- A URI of a call is aimed at a server whose host is a web host, and at no other. -/
theorem bindUri_web {uri : Url} (web : uri.scheme ∈ callSchemes)
    (rooted : ∃ names, uri.path = .segments names) (config : ClientConfig)
    (introspector : Introspector) (server : Server) :
    bindUri config introspector server uri =
      match Url.Host.parseWeb (Server.bracketedHost server.host).toList with
      | .error problem => .error (.invalidUri (.unbindable uri.text server.hostPort problem))
      | .ok host => .ok
        { uri with
          scheme := aimedScheme (config.isSecureServer introspector server) uri.scheme
          host := some host
          port := Url.writtenPort
            (aimedScheme (config.isSecureServer introspector server) uri.scheme) server.port } := by
  have kind := kindOf_of_mem_callSchemes
    (aimedScheme_mem web (config.isSecureServer introspector server))
  -- What the upgrade makes of the port does not matter, since the port is replaced.
  obtain ⟨port, upgraded⟩ := upgradeScheme_eq config introspector server uri
  generalize aimedScheme (config.isSecureServer introspector server) uri.scheme = scheme
    at kind upgraded ⊢
  rw [bindUri, upgraded]
  -- The host is read under the upgraded scheme, and the port is then written under it.
  have hosted := Url.setHost_web { uri with scheme, port } kind rooted
    (Server.bracketedHost server.host)
  cases read : Url.Host.parseWeb (Server.bracketedHost server.host).toList with
  | error problem =>
    -- A host that cannot be read is the only fault.
    rw [read] at hosted
    simp only [hosted, Except.map]
  | ok host =>
    -- A web host that was read is not empty, so that a port can stand after it.
    rw [read] at hosted
    have placed := Url.setPort?_web { uri with scheme, host := some host, port } kind rfl
      (Url.Host.parseWeb_ne_empty read) server.port
    simp only [hosted, Except.map, placed]

/-- Whether a server is secure for a client that takes servers of some ports for secure. -/
theorem isSecureServer_ofPorts (config : ClientConfig) (securePorts : List UInt16)
    (server : Server) :
    config.isSecureServer (.ofPorts securePorts) server =
      config.isSecure.getD (decide (server.port ∈ securePorts) ||
        (server.metadata.get? "secure").any fun value =>
          value.toList.map Char.toLower = "true".toList) := by
  -- The published word is compared by the key of its letters.
  have published : Introspector.publishesSecure server.metadata =
      (server.metadata.get? "secure").any fun value =>
        value.toList.map Char.toLower = "true".toList := by
    unfold Introspector.publishesSecure Introspector.secureKey
    cases server.metadata.get? "secure" with
    | none => rfl
    | some value =>
      rw [Option.any_some, Bool.eq_iff_iff, Text.sameIgnoringCase_iff]
      simp [Text.caseKey]
  -- A port in the list and a published word count alike.
  simp [ClientConfig.isSecureServer, Introspector.ofPorts, published]

/--
Aiming a web URI that was read from text fails exactly if the host of the server, in brackets if it
has a colon in it, is no web host. Otherwise a plain scheme becomes secure if the server is, the
host is that of the server, its port is written unless the scheme stands for it, and nothing else
changes.
-/
theorem bindUri_of_parsed {text : String} {uri : Url} (parsed : Url.parse text = .ok uri)
    (web : uri.scheme ∈ ["http", "https", "ws", "wss"]) (config : ClientConfig)
    (securePorts : List UInt16) (server : Server) :
    let written := if ':' ∈ server.host.toList then "[" ++ server.host ++ "]" else server.host
    let secure := config.isSecure.getD (decide (server.port ∈ securePorts) ||
      (server.metadata.get? "secure").any fun value =>
        value.toList.map Char.toLower = "true".toList)
    match Url.Host.parseWeb written.toList with
    | .error problem => bindUri config (.ofPorts securePorts) server uri =
        .error (.invalidUri (.unbindable uri.text server.hostPort problem))
    | .ok host => ∃ bound, bindUri config (.ofPorts securePorts) server uri = .ok bound ∧
        bound.scheme = (if secure = true ∧ uri.scheme = "http" then "https"
          else if secure = true ∧ uri.scheme = "ws" then "wss" else uri.scheme) ∧
        bound.host = some host ∧ bound.knownPort? = some server.port ∧
        bound.port = (if Url.defaultPort? bound.scheme = some server.port then none
          else some server.port) ∧
        bound.username = uri.username ∧ bound.password = uri.password ∧
        bound.path = uri.path ∧ bound.query = uri.query ∧ bound.fragment = uri.fragment ∧
        bound.authority = "//" ++ uri.credentials ++ host.text ++
          (if Url.defaultPort? bound.scheme = some server.port then ""
            else ":" ++ toString server.port.toNat) := by
  intro written secure
  -- A web URI that was read has a path in segments, so that its host can be replaced.
  have rooted := Url.parse_segments parsed (kindOf_of_mem_callSchemes web)
  have aimed := bindUri_web web rooted config (.ofPorts securePorts) server
  have same : Server.bracketedHost server.host = written := by
    simp [Server.bracketedHost, written]
  rw [isSecureServer_ofPorts, same] at aimed
  generalize Url.Host.parseWeb written.toList = read at aimed
  cases read with
  | error problem => exact aimed
  | ok host =>
    exact ⟨_, aimed, rfl, rfl, Url.knownPort?_of_writtenPort rfl, rfl, rfl, rfl, rfl, rfl, rfl,
      Url.authority_of_writtenPort rfl rfl⟩

/-- A plain URI with a port is upgraded for a secure server, whose own port is left out. -/
theorem bindUri_of_parsed_upgrade :
    let uri : Url :=
      { scheme := "http", username := "ann", password := "pw"
        host := some (.ipv6 [0, 0, 0, 0, 0, 0, 0, 2]), port := some 443
        path := .segments ["items"], query := some "page=2", fragment := some "top" }
    Url.parse "http://ann:pw@[::2]:443/items?page=2#top" = .ok uri ∧
      uri.scheme ∈ ["http", "https", "ws", "wss"] ∧
      ∃ bound, bindUri (.ofName "a") (.ofPorts [443]) { host := "::1", port := 443 } uri =
          .ok bound ∧
        bound.scheme = "https" ∧ bound.host = some (.ipv6 [0, 0, 0, 0, 0, 0, 0, 1]) ∧
        bound.port = none ∧ bound.authority = "//ann:pw@[::1]" := by
  intro uri
  -- The words are read by evaluation, and the law says what becomes of them.
  have parsed : Url.parse "http://ann:pw@[::2]:443/items?page=2#top" = .ok uri := rfl
  have web : uri.scheme ∈ ["http", "https", "ws", "wss"] := by decide
  have read : Url.Host.parseWeb (if ':' ∈ "::1".toList then "[" ++ "::1" ++ "]" else "::1").toList =
      .ok (.ipv6 [0, 0, 0, 0, 0, 0, 0, 1]) := rfl
  have aimed := bindUri_of_parsed parsed web (.ofName "a") [443] { host := "::1", port := 443 }
  simp only [read] at aimed
  obtain ⟨bound, aims, scheme, host, _, port, _, _, _, _, _, authority⟩ := aimed
  have secure : bound.scheme = "https" := by
    rw [scheme]
    decide
  -- The port of the server is the one that the secure scheme stands for.
  have left : Url.defaultPort? bound.scheme = some 443 := by
    rw [secure]
    decide
  refine ⟨parsed, web, bound, aims, secure, host, ?_, ?_⟩
  · rw [port, if_pos left]
  · rw [authority, if_pos left]
    decide

end ServiceCall
