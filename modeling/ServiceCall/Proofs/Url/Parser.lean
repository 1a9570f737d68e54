import ServiceCall.Proofs.Sequencing
import ServiceCall.Url.Change

/-! What is known of a URL that was read: its scheme, its path, and its host if it has one. -/

namespace ServiceCall.Url

/-- A web host is never empty. -/
theorem Host.parseWeb_ne_empty {written : List Char} {host : Host}
    (read : Host.parseWeb written = .ok host) : host ≠ .empty := by
  -- Each of the three kinds of web hosts is wrapped as what it is.
  unfold Host.parseWeb at read
  split at read
  · unfold Host.parseBracketed at read
    split at read
    · obtain ⟨pieces, _, rfl⟩ := map_ok_iff.mp read
      simp
    · cases read
  · obtain ⟨name, _, known⟩ := bind_ok_iff.mp read
    split at known
    · cases known
    · split at known
      · obtain ⟨address, _, rfl⟩ := map_ok_iff.mp known
        simp
      · obtain rfl := Except.ok.inj known
        simp

/-- What follows the two slashes of a URL becomes a URL of the same scheme, its path in segments. -/
theorem parseAuthority_shape {scheme : String} {text : List Char} {url : Url}
    (read : parseAuthority scheme text = .ok url) :
    url.scheme = scheme ∧ ∃ names, url.path = .segments names := by
  -- With credentials or without, the last step puts the parts together.
  simp only [parseAuthority] at read
  split at read
  all_goals
    split at read
    · cases read
    · obtain ⟨placed, _, known⟩ := bind_ok_iff.mp read
      split at known
      · cases known
      · obtain rfl := Except.ok.inj known
        exact ⟨rfl, _, rfl⟩

/-- A URL whose scheme is neither web nor file keeps its scheme. -/
theorem parseOther_scheme {scheme : String} {text : List Char} {url : Url}
    (read : parseOther scheme text = .ok url) : url.scheme = scheme := by
  -- With an authority or without, the scheme is the one that was given.
  unfold parseOther at read
  split at read
  · exact (parseAuthority_shape read).1
  · obtain rfl := Except.ok.inj read
    rfl
  · obtain rfl := Except.ok.inj read
    rfl

/-- A file URL has the scheme of files. -/
theorem parseFile_scheme {text : List Char} {url : Url} (read : parseFile text = .ok url) :
    url.scheme = "file" := by
  -- Every way to read one ends in the same last step.
  unfold parseFile at read
  split at read
  · split at read
    · split at read
      rename_i written after cut
      split at read
      · obtain rfl := Except.ok.inj read
        rfl
      · obtain ⟨host, _, rfl⟩ := map_ok_iff.mp read
        rfl
    · obtain rfl := Except.ok.inj read
      rfl
  · obtain rfl := Except.ok.inj read
    rfl

/-- A web URL has a path in segments, however it was written. -/
theorem parse_segments {text : String} {url : Url} (read : parse text = .ok url)
    (web : kindOf url.scheme = .web) : ∃ names, url.path = .segments names := by
  -- The scheme decides which of the three readers is used, and the other two keep theirs.
  unfold parse at read
  split at read
  · cases read
  · rename_i name rest _
    simp only at read
    split at read
    · exact (parseAuthority_shape read).2
    · rw [parseFile_scheme read] at web
      cases web
    · rename_i other
      rw [parseOther_scheme read, other] at web
      cases web

/-- A web URL takes its host from a text by the rules of web hosts. -/
theorem setHost_web (url : Url) (web : kindOf url.scheme = .web)
    (rooted : ∃ names, url.path = .segments names) (host : String) :
    url.setHost host =
      (Host.parseWeb host.toList).map fun host => { url with host := some host } := by
  -- Only a path in segments stands behind a host.
  obtain ⟨names, path⟩ := rooted
  simp [setHost, path, web, SchemeKind.isSpecial]

/-- A web URL with a host can have any port. -/
theorem setPort?_web (url : Url) (web : kindOf url.scheme = .web) {host : Host}
    (placed : url.host = some host) (nonempty : host ≠ .empty) (port : UInt16) :
    url.setPort? port = some { url with port := writtenPort url.scheme port } := by
  -- Files are of another kind than the web.
  have other : url.scheme ≠ "file" := by
    intro file
    rw [file] at web
    cases web
  -- The host has a text unless it is empty.
  have known : url.hostText?.isSome = true := by
    cases host with
    | empty => exact absurd rfl nonempty
    | domain name => simp [hostText?, placed]
    | ipv4 address => simp [hostText?, placed]
    | ipv6 pieces => simp [hostText?, placed]
  simp [setPort?, canHavePort, known, other]

/-- A port that is written, or left out for its scheme, is the one to connect to. -/
theorem knownPort?_of_writtenPort {url : Url} {port : UInt16}
    (written : url.port = writtenPort url.scheme port) : url.knownPort? = some port := by
  -- It is left out only where the scheme stands for it.
  rw [knownPort?, written, writtenPort]
  split
  · assumption
  · rfl

/-- The authority of a URL with a host ends in its port, unless the scheme stands for the port. -/
theorem authority_of_writtenPort {url : Url} {host : Host} {port : UInt16}
    (placed : url.host = some host) (written : url.port = writtenPort url.scheme port) :
    url.authority = "//" ++ url.credentials ++ host.text ++
      (if defaultPort? url.scheme = some port then "" else ":" ++ toString port.toNat) := by
  -- The port that is left out is the one that the scheme stands for.
  rw [authority, placed, written, writtenPort]
  by_cases left : defaultPort? url.scheme = some port
  · simp [left]
  · simp [left]

end ServiceCall.Url
