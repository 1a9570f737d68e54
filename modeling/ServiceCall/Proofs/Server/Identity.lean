import ServiceCall.Proofs.Server.Entry
import ServiceCall.Proofs.Url.Address

/-!
The text that identifies a server, read as an entry again. It denotes the server that it was printed
for exactly if it shows the host as it is, which fails for some hosts that only brackets can hold.
-/

namespace ServiceCall.Server

/--
The identity of a server shows its host: in brackets, if the host has a colon, and else from its
first character on, which is no bracket and not blank.
-/
def ShowsHost (server : Server) : Prop :=
  ':' ∈ server.host.toList ∨
    ∃ first rest, server.host.toList = first :: rest ∧ first ≠ '[' ∧ Text.isBlank first = false

/-- A host with a colon stands in brackets before the port. -/
theorem toList_hostPort_of_colon {server : Server} (colon : ':' ∈ server.host.toList) :
    server.hostPort.toList =
      '[' :: (server.host.toList ++ ']' :: ':' :: (toString server.port.toNat).toList) := by
  simp [hostPort, bracketedHost, colon, String.toList_append]

/-- A host without a colon stands before the port as it is. -/
theorem toList_hostPort_of_no_colon {server : Server} (plain : ':' ∉ server.host.toList) :
    server.hostPort.toList = server.host.toList ++ ':' :: (toString server.port.toNat).toList := by
  simp [hostPort, bracketedHost, plain, String.toList_append]

/-- Digits are not blank. -/
theorem isBlank_of_isDigit {c : Char} (digit : c.isDigit = true) : Text.isBlank c = false := by
  -- The digits lie after the space and before the blank characters beyond ASCII.
  obtain ⟨least, most⟩ := Char.isDigit_iff_toNat.mp digit
  have zero : '0'.toNat = 48 := rfl
  have nine : '9'.toNat = 57 := rfl
  simp only [Text.isBlank, Bool.or_eq_false_iff, Bool.and_eq_false_iff, decide_eq_false_iff_not,
    beq_eq_false_iff_ne]
  omega

/-- The identity of a server ends in a digit of its port. -/
theorem isBlank_of_last_hostPort {server : Server} {c : Char}
    (last : server.hostPort.toList.getLast? = some c) : Text.isBlank c = false := by
  -- The text of the port is never empty, so the last character is one of it.
  have ends : ∃ before, server.hostPort.toList =
      before ++ (toString server.port.toNat).toList := by
    by_cases colon : ':' ∈ server.host.toList
    · exact ⟨'[' :: (server.host.toList ++ [']', ':']), by simp [toList_hostPort_of_colon colon]⟩
    · exact ⟨server.host.toList ++ [':'], by simp [toList_hostPort_of_no_colon colon]⟩
  obtain ⟨before, whole⟩ := ends
  rw [Nat.toString_eq_ofList_toDigits, String.toList_ofList] at whole
  rw [whole, List.getLast?_append_of_ne_nil _ Nat.toDigits_ne_nil] at last
  exact isBlank_of_isDigit
    (Nat.isDigit_of_mem_toDigits (by decide) (by decide) (List.mem_of_getLast? last))

/-- An entry gives a server all that it has, and a host with a colon has no closing bracket. -/
theorem Entry.host {text : List Char} {server : Server} (known : Entry text server) :
    server = { host := server.host, port := server.port } ∧
      (':' ∈ server.host.toList → ']' ∉ server.host.toList) := by
  -- The cases are those of the grammar; only a bracketed host may have a colon.
  cases known with
  | bracketed closed => exact ⟨rfl, fun _ => by simpa using closed⟩
  | bracketedPort closed written => exact ⟨rfl, fun _ => by simpa using closed⟩
  | bare filled unbracketed single => exact ⟨rfl, fun colon => absurd (by simpa using colon) single⟩
  | withPort filled unbracketed single written =>
    exact ⟨rfl, fun colon => absurd (by simpa using colon) single⟩

/-- An entry that starts with a bracket has the closing one after the host and not in it. -/
theorem Entry.closed {text : List Char} {server : Server} (known : Entry text server)
    (bracketed : text.head? = some '[') : ']' ∈ text ∧ ']' ∉ server.host.toList := by
  -- Only the two bracketed entries start with a bracket.
  cases known with
  | bracketed closed => exact ⟨by simp, by simpa using closed⟩
  | bracketedPort closed written => exact ⟨by simp, by simpa using closed⟩
  | bare filled unbracketed single => exact absurd bracketed unbracketed
  | withPort filled unbracketed single written =>
    exact absurd bracketed (head?_append_ne filled unbracketed)

/-- An entry without a bracket at its start starts with the host. -/
theorem Entry.showsHost {text : List Char} {server : Server} (known : Entry text server)
    (unbracketed : text.head? ≠ some '[')
    (first : ∀ c, text.head? = some c → Text.isBlank c = false) : server.ShowsHost := by
  -- The entries without brackets start with their host, which is not empty.
  have starts : ∃ rest, server.host.toList ≠ [] ∧ text = server.host.toList ++ rest := by
    cases known with
    | bracketed closed => exact absurd rfl unbracketed
    | bracketedPort closed written => exact absurd rfl unbracketed
    | bare filled => exact ⟨[], by simpa using filled, by simp⟩
    | @withPort host port _ filled => exact ⟨':' :: port, by simpa using filled, by simp⟩
  obtain ⟨rest, filled, whole⟩ := starts
  obtain ⟨c, others, host⟩ := List.exists_cons_of_ne_nil filled
  have begins : text.head? = some c := by rw [whole, host]; rfl
  refine .inr ⟨c, others, host, ?_, first c begins⟩
  rintro rfl
  exact unbracketed begins

/-- An identity that is read as its own server shows the host. -/
theorem showsHost_of_parse {server : Server} (parsed : parse server.hostPort = .ok server) :
    server.ShowsHost := by
  by_cases colon : ':' ∈ server.host.toList
  · exact .inl colon
  · have trimmed := Text.trimmed_trim server.hostPort.toList
    have known := (parse_eq_ok_iff rfl).mp parsed
    by_cases bracketed : (Text.trim server.hostPort.toList).head? = some '['
    · -- The closing bracket could stand in the host only, where the entry has none.
      obtain ⟨found, absent⟩ := known.closed bracketed
      have printed := trimmed.subset found
      rw [toList_hostPort_of_no_colon colon] at printed
      rcases List.mem_append.mp printed with inHost | inRest
      · exact absurd inHost absent
      · rcases List.mem_cons.mp inRest with sign | inPort
        · exact absurd sign (by decide)
        · exact absurd inPort (writesPort_toString server.port).plain.2
    · exact known.showsHost bracketed trimmed.first

/-- The identity of a server that shows the host is an entry for this server. -/
theorem parse_of_showsHost {text : List Char} {server : Server} (known : Entry text server)
    (shown : server.ShowsHost) : parse server.hostPort = .ok server := by
  obtain ⟨unadorned, closed⟩ := known.host
  have written := writesPort_toString server.port
  -- Nothing is trimmed: the first character is a bracket or that of the host.
  have entry : Entry server.hostPort.toList server ∧
      ∀ c, server.hostPort.toList.head? = some c → Text.isBlank c = false := by
    by_cases colon : ':' ∈ server.host.toList
    · -- With a colon, the host stands in brackets again.
      have bracketed := Entry.bracketedPort (closed colon) written
      rw [String.ofList_toList, ← unadorned] at bracketed
      rw [toList_hostPort_of_colon colon]
      refine ⟨bracketed, ?_⟩
      rintro c ⟨⟩
      decide
    · -- Without one, the host stands as it is, and its first character is not trimmed.
      obtain ⟨first, rest, host, unbracketed, filled⟩ := shown.resolve_left colon
      have plain : Entry (server.host.toList ++ ':' :: (toString server.port.toNat).toList)
          { host := String.ofList server.host.toList, port := server.port } :=
        .withPort (by simp [host]) (by simpa [host] using unbracketed) colon written
      rw [String.ofList_toList, ← unadorned] at plain
      rw [toList_hostPort_of_no_colon colon]
      refine ⟨plain, ?_⟩
      rw [host]
      rintro c ⟨⟩
      exact filled
  refine parse_of_entry (Text.trim_eq_of_trimmed (Text.Trimmed.refl entry.2 ?_)) entry.1
  exact fun c => isBlank_of_last_hostPort

/--
The identity of a server that was read from an entry is read as the same server exactly if it shows
the host. It does for every entry without brackets, and for every IPv6 address.
-/
theorem parse_hostPort {entry : String} {server : Server} (parsed : parse entry = .ok server) :
    (parse server.hostPort = .ok server ↔ server.ShowsHost) ∧
      ((∀ rest, Text.trim entry.toList ≠ '[' :: rest) → parse server.hostPort = .ok server) ∧
      (∀ pieces, Url.Ipv6.parse server.host.toList = .ok pieces →
        parse server.hostPort = .ok server) := by
  have known := (parse_eq_ok_iff rfl).mp parsed
  refine ⟨⟨showsHost_of_parse, parse_of_showsHost known⟩, ?_, ?_⟩
  · -- The entry itself shows its host, since nothing encloses it.
    intro unbracketed
    have other : (Text.trim entry.toList).head? ≠ some '[' := by
      intro bracketed
      obtain ⟨rest, starts⟩ := List.head?_eq_some_iff.mp bracketed
      exact unbracketed rest starts
    exact parse_of_showsHost known (known.showsHost other (Text.trimmed_trim _).first)
  · -- An IPv6 address is printed in brackets, for it has a colon.
    intro pieces read
    exact parse_of_showsHost known (.inl (Url.Ipv6.colon_mem_of_parse read))

/-- An IPv6 address on the default port is read from its identity, which names the port. -/
theorem parse_hostPort_ipv6 :
    let server : Server := { host := "::1", port := 80 }
    parse " [::1]" = .ok server ∧ server.hostPort = "[::1]:80" ∧
      parse server.hostPort = .ok server := by
  -- The brackets are printed again, and the port is no longer left out.
  intro server
  have parsed : parse " [::1]" = .ok server := by decide +kernel
  have read : Url.Ipv6.parse server.host.toList = .ok [0, 0, 0, 0, 0, 0, 0, 1] := by
    decide +kernel
  exact ⟨parsed, by decide, (parse_hostPort parsed).2.2 _ read⟩

/--
Empty brackets are read as a server without a host, and its identity is refused; a host with a space
in front is read from brackets, and its identity is read as another server.
-/
theorem parse_hostPort_of_brackets :
    let hostless : Server := { host := "", port := 80 }
    let spaced : Server := { host := " a", port := 80 }
    parse "[]" = .ok hostless ∧ hostless.hostPort = ":80" ∧
      parse hostless.hostPort = .error (.missingHost ":80") ∧
      parse "[ a]" = .ok spaced ∧ parse spaced.hostPort = .ok { host := "a", port := 80 } := by
  decide +kernel

end ServiceCall.Server
