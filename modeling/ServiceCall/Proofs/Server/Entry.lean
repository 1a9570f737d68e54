import ServiceCall.Proofs.Sequencing
import ServiceCall.Proofs.Text.Trim
import ServiceCall.Server

/-!
The grammar of server entries. Every text without blank characters at its ends either is an entry,
which configures one server, or has one fault; and an entry is read by exactly this grammar.
-/

namespace ServiceCall.Server

/-- How a port is written: ASCII digits, after a plus sign or without one, that give its value. -/
def WritesPort (text : List Char) (port : UInt16) : Prop :=
  ∃ digits, (text = digits ∨ text = '+' :: digits) ∧ digits ≠ [] ∧
    (∀ c ∈ digits, c.isDigit = true) ∧ Nat.ofDigitChars 10 digits 0 = port.toNat

/-- A text has a value exactly if it has digits and nothing else. -/
theorem digitsValue?_eq_some_iff {digits : List Char} {value : Nat} :
    digitsValue? digits = some value ↔ digits ≠ [] ∧ (∀ c ∈ digits, c.isDigit = true) ∧
      Nat.ofDigitChars 10 digits 0 = value := by
  -- The value so far is multiplied by ten from the other side.
  have steps : (fun (value : Nat) (c : Char) => value * 10 + (c.toNat - '0'.toNat)) =
      fun value c => 10 * value + (c.toNat - '0'.toNat) := by
    funext value c
    rw [Nat.mul_comm]
  cases digits with
  | nil => simp [digitsValue?]
  | cons c rest =>
    simp only [digitsValue?, steps, Nat.ofDigitChars, ← List.all_eq_true]
    split
    · rename_i all
      simp [all]
    · rename_i other
      simp [other]

/-- The digits of a text follow its plus sign, if it starts with one. -/
def HasDigits (text digits : List Char) : Prop :=
  text = '+' :: digits ∨ text = digits ∧ digits.head? ≠ some '+'

/-- Every text has digits in this sense, which need not be any. -/
theorem exists_hasDigits (text : List Char) : ∃ digits, HasDigits text digits := by
  -- A plus sign in front is taken off, if there is one.
  by_cases signed : text.head? = some '+'
  · obtain ⟨digits, rfl⟩ := List.head?_eq_some_iff.mp signed
    exact ⟨digits, .inl rfl⟩
  · exact ⟨text, .inr ⟨rfl, signed⟩⟩

/-- A text writes a port exactly if its digits have the value of the port. -/
theorem writesPort_iff {text digits : List Char} (has : HasDigits text digits) {port : UInt16} :
    WritesPort text port ↔ digitsValue? digits = some port.toNat := by
  rw [digitsValue?_eq_some_iff]
  constructor
  · rintro ⟨others, signed, filled, each, value⟩
    -- A plus sign is no digit, so there is no choice of the digits.
    have apart : others.head? ≠ some '+' := by
      intro starts
      exact absurd (each '+' (List.mem_of_head? starts)) (by decide)
    have same : others = digits := by
      rcases signed with rfl | rfl <;> rcases has with eq | ⟨eq, other⟩
      · exact absurd (by rw [eq]; rfl) apart
      · exact eq
      · exact (List.cons.inj eq).2
      · exact absurd (by rw [← eq]; rfl) other
    exact same ▸ ⟨filled, each, value⟩
  · -- The digits that the text has are those that write the port.
    rintro ⟨filled, each, value⟩
    exact ⟨digits, has.symm.imp_left And.left, filled, each, value⟩

/-- A port is read from the digits of a text. -/
theorem parsePort_eq {text digits : List Char} (has : HasDigits text digits) :
    parsePort text = match digitsValue? digits with
      | some value =>
        if value < 65536 then .ok (UInt16.ofNat value)
        else .error (.invalidPort (String.ofList text))
      | none => .error (.invalidPort (String.ofList text)) := by
  rcases has with rfl | ⟨rfl, unsigned⟩
  · -- The sign is taken off before the digits are read.
    rfl
  · -- Without a sign, the whole text is read.
    unfold parsePort
    split
    · exact absurd rfl unsigned
    · rfl

/-- A port is read from the texts that write it and from no others. -/
theorem parsePort_eq_ok_iff {text : List Char} {port : UInt16} :
    parsePort text = .ok port ↔ WritesPort text port := by
  obtain ⟨digits, has⟩ := exists_hasDigits text
  rw [writesPort_iff has, parsePort_eq has]
  cases digitsValue? digits with
  | none => simp
  | some value =>
    have small : port.toNat < 65536 := port.toNat_lt
    by_cases fits : value < 65536
    · -- Within the bound, the number and the port stand for each other.
      simp only [fits, if_true, Except.ok.injEq, Option.some.injEq]
      constructor
      · rintro rfl
        exact (UInt16.toNat_ofNat_of_lt fits).symm
      · rintro rfl
        exact UInt16.ofNat_toNat
    · -- A value beyond the last port is that of no port.
      have other : value ≠ port.toNat := fun same => fits (same ▸ small)
      simp [fits, other]

/-- A text that writes no port is refused and shown. -/
theorem parsePort_of_not_writesPort {text : List Char} (unwritten : ∀ port, ¬WritesPort text port) :
    parsePort text = .error (.invalidPort (String.ofList text)) := by
  obtain ⟨digits, has⟩ := exists_hasDigits text
  cases read : parsePort text with
  | ok port => exact absurd (parsePort_eq_ok_iff.mp read) (unwritten port)
  | error problem =>
    -- Both ways to refuse a port show the same text.
    rw [parsePort_eq has] at read
    split at read
    · split at read
      · cases read
      · exact read.symm
    · exact read.symm

/-- The text of a port writes it. -/
theorem writesPort_toString (port : UInt16) : WritesPort (toString port.toNat).toList port := by
  -- The digits of a number in base ten have its value.
  rw [Nat.toString_eq_ofList_toDigits, String.toList_ofList]
  exact ⟨_, .inl rfl, Nat.toDigits_ne_nil,
    fun c => Nat.isDigit_of_mem_toDigits (by decide) (by decide),
    Nat.ofDigitChars_toDigits (by decide) (by decide)⟩

/-- A text that writes a port has digits and at most a plus sign besides. -/
theorem WritesPort.isDigit_or_plus {text : List Char} {port : UInt16}
    (written : WritesPort text port) {c : Char} (member : c ∈ text) :
    c.isDigit = true ∨ c = '+' := by
  -- The text is its digits, or a sign in front of them.
  obtain ⟨digits, rfl | rfl, -, each, -⟩ := written
  · exact .inl (each c member)
  · rcases List.mem_cons.mp member with sign | digit
    · exact .inr sign
    · exact .inl (each c digit)

/-- A text that writes a port has neither colons nor brackets. -/
theorem WritesPort.plain {text : List Char} {port : UInt16} (written : WritesPort text port) :
    ':' ∉ text ∧ ']' ∉ text :=
  ⟨fun found => absurd (written.isDigit_or_plus found) (by decide),
    fun found => absurd (written.isDigit_or_plus found) (by decide)⟩

/-- The entries of servers, each with the server that it configures. -/
inductive Entry : List Char → Server → Prop
  | bracketed {host : List Char} (closed : ']' ∉ host) :
    Entry ('[' :: (host ++ [']'])) { host := String.ofList host, port := 80 }
  | bracketedPort {host text : List Char} {port : UInt16} (closed : ']' ∉ host)
    (written : WritesPort text port) :
    Entry ('[' :: (host ++ ']' :: ':' :: text)) { host := String.ofList host, port }
  | bare {host : List Char} (filled : host ≠ []) (unbracketed : host.head? ≠ some '[')
    (single : ':' ∉ host) :
    Entry host { host := String.ofList host, port := 80 }
  | withPort {host text : List Char} {port : UInt16} (filled : host ≠ [])
    (unbracketed : host.head? ≠ some '[') (single : ':' ∉ host) (written : WritesPort text port) :
    Entry (host ++ ':' :: text) { host := String.ofList host, port }

/-- An entry says nothing of a server but its host and its port. -/
theorem Entry.unadorned {text : List Char} {server : Server} (known : Entry text server) :
    server.zone = none ∧ server.metadata = .empty := by
  cases known <;> exact ⟨rfl, rfl⟩

/-- The texts that are no entries, each with its fault. -/
inductive Faulty : List Char → ServerProblem → Prop
  | empty : Faulty [] .empty
  | unterminated {rest : List Char} (unclosed : ']' ∉ rest) :
    Faulty ('[' :: rest) (.unterminatedBracket (String.ofList ('[' :: rest)))
  | trailing {host tail : List Char} (closed : ']' ∉ host) (filled : tail ≠ [])
    (unported : tail.head? ≠ some ':') :
    Faulty ('[' :: (host ++ ']' :: tail)) (.textAfterBracket (String.ofList tail))
  | bracketedPort {host text : List Char} (closed : ']' ∉ host)
    (unwritten : ∀ port, ¬WritesPort text port) :
    Faulty ('[' :: (host ++ ']' :: ':' :: text)) (.invalidPort (String.ofList text))
  | unbracketed {host text : List Char} (unbracketed : host.head? ≠ some '[') (several : ':' ∈ host)
    (last : ':' ∉ text) :
    Faulty (host ++ ':' :: text) (.unbracketedIpv6 (String.ofList (host ++ ':' :: text)))
  | missingHost {text : List Char} (last : ':' ∉ text) :
    Faulty (':' :: text) (.missingHost (String.ofList (':' :: text)))
  | port {host text : List Char} (filled : host ≠ []) (unbracketed : host.head? ≠ some '[')
    (single : ':' ∉ host) (last : ':' ∉ text) (unwritten : ∀ port, ¬WritesPort text port) :
    Faulty (host ++ ':' :: text) (.invalidPort (String.ofList text))

/-- A text starts as its first part does, if there is one. -/
theorem head?_append_ne {host rest : List Char} {c : Char} (filled : host ≠ [])
    (other : host.head? ≠ some c) : (host ++ rest).head? ≠ some c := by
  rwa [List.head?_append_of_ne_nil _ filled]

/-- An entry that starts with a bracket is read after it. -/
theorem parse_bracketed {text : String} {rest : List Char}
    (trimmed : Text.trim text.toList = '[' :: rest) :
    parse text = parseBracketed ('[' :: rest) rest := by
  simp only [parse, trimmed]

/-- Any other entry is read as a whole, unless there is nothing of it. -/
theorem parse_plain {text : String} {entry : List Char} (trimmed : Text.trim text.toList = entry)
    (filled : entry ≠ []) (unbracketed : entry.head? ≠ some '[') :
    parse text = parsePlain entry := by
  -- The other two ways to read a text are excluded by its first character.
  rw [parse, trimmed]
  split
  · exact absurd rfl filled
  · exact absurd rfl unbracketed
  · rfl

/-- An entry is read as the server that it configures. -/
theorem parse_of_entry {text : String} {entry : List Char} {server : Server}
    (trimmed : Text.trim text.toList = entry) (known : Entry entry server) :
    parse text = .ok server := by
  -- The cut that the reading makes is the one that the entry was put together with.
  cases known with
  | bracketed closed =>
    rw [parse_bracketed trimmed, parseBracketed, Text.splitFirst?_append closed]
    rfl
  | bracketedPort closed written =>
    rw [parse_bracketed trimmed, parseBracketed, Text.splitFirst?_append closed]
    simp only [parsePort_eq_ok_iff.mpr written, Except.map]
  | bare filled unbracketed single =>
    rw [parse_plain trimmed filled unbracketed, parsePlain, Text.splitLast?_eq_none.mpr single]
    rfl
  | withPort filled unbracketed single written =>
    rw [parse_plain trimmed (by simp) (head?_append_ne filled unbracketed), parsePlain,
      Text.splitLast?_append _ written.plain.1]
    simp [single, filled, parsePort_eq_ok_iff.mpr written, Except.map]

/-- A text that is no entry is refused for its fault. -/
theorem parse_of_faulty {text : String} {entry : List Char} {problem : ServerProblem}
    (trimmed : Text.trim text.toList = entry) (fault : Faulty entry problem) :
    parse text = .error problem := by
  cases fault with
  | empty => simp only [parse, trimmed]
  | unterminated unclosed =>
    rw [parse_bracketed trimmed, parseBracketed, Text.splitFirst?_eq_none.mpr unclosed]
  | trailing closed filled unported =>
    rw [parse_bracketed trimmed, parseBracketed, Text.splitFirst?_append closed]
    -- What follows the bracket is neither nothing nor a port.
    split
    · rename_i none_left
      cases none_left
    · rename_i same
      simp only [Option.some.injEq, Prod.mk.injEq] at same
      exact absurd same.2 filled
    · rename_i same
      simp only [Option.some.injEq, Prod.mk.injEq] at same
      exact absurd (by rw [same.2]; rfl) unported
    · rename_i same
      simp only [Option.some.injEq, Prod.mk.injEq] at same
      rw [same.2]
  | bracketedPort closed unwritten =>
    rw [parse_bracketed trimmed, parseBracketed, Text.splitFirst?_append closed]
    simp only [parsePort_of_not_writesPort unwritten, Except.map]
  | unbracketed unbracketed several last =>
    rw [parse_plain trimmed (by simp) (head?_append_ne (List.ne_nil_of_mem several) unbracketed),
      parsePlain, Text.splitLast?_append _ last]
    simp [several]
  | @missingHost rest last =>
    have cut : Text.splitLast? ':' (':' :: rest) = some ([], rest) :=
      Text.splitLast?_append [] last
    rw [parse_plain trimmed (by simp) (by simp), parsePlain, cut]
    simp
  | port filled unbracketed single last unwritten =>
    rw [parse_plain trimmed (by simp) (head?_append_ne filled unbracketed), parsePlain,
      Text.splitLast?_append _ last]
    simp [single, filled, parsePort_of_not_writesPort unwritten, Except.map]

/-- Every text is an entry or has a fault. -/
theorem entry_or_faulty (text : List Char) :
    (∃ server, Entry text server) ∨ ∃ problem, Faulty text problem := by
  -- The cases are those of the reading: brackets, colons, and then the port.
  by_cases bracketed : text.head? = some '['
  · obtain ⟨rest, rfl⟩ := List.head?_eq_some_iff.mp bracketed
    by_cases closed : ']' ∈ rest
    · -- The host ends at the first closing bracket, and a port may follow it.
      obtain ⟨host, tail, rfl, absent⟩ := List.eq_append_cons_of_mem closed
      cases tail with
      | nil => exact .inl ⟨_, .bracketed absent⟩
      | cons c after =>
        by_cases ported : c = ':'
        · subst ported
          by_cases written : ∃ port, WritesPort after port
          · obtain ⟨port, writes⟩ := written
            exact .inl ⟨_, .bracketedPort absent writes⟩
          · exact .inr ⟨_, .bracketedPort absent (not_exists.mp written)⟩
        · exact .inr ⟨_, .trailing absent (by simp) (by simpa using ported)⟩
    · exact .inr ⟨_, .unterminated closed⟩
  · cases cut : Text.splitLast? ':' text with
    | none =>
      -- Without a colon there is a host or nothing.
      by_cases filled : text = []
      · exact .inr ⟨.empty, filled ▸ .empty⟩
      · exact .inl ⟨_, .bare filled bracketed (Text.splitLast?_eq_none.mp cut)⟩
    | some parts =>
      obtain ⟨host, after⟩ := parts
      obtain ⟨rfl, last⟩ := Text.splitLast?_eq_some cut
      by_cases filled : host = []
      · subst filled
        exact .inr ⟨_, .missingHost last⟩
      · have unbracketed : host.head? ≠ some '[' := by
          rwa [List.head?_append_of_ne_nil _ filled] at bracketed
        by_cases several : ':' ∈ host
        · exact .inr ⟨_, .unbracketed unbracketed several last⟩
        · by_cases written : ∃ port, WritesPort after port
          · obtain ⟨port, writes⟩ := written
            exact .inl ⟨_, .withPort filled unbracketed several writes⟩
          · exact .inr ⟨_, .port filled unbracketed several last (not_exists.mp written)⟩

/-- A server is read from the entries that configure it and from no other texts. -/
theorem parse_eq_ok_iff {text : String} {entry : List Char}
    (trimmed : Text.trim text.toList = entry) {server : Server} :
    parse text = .ok server ↔ Entry entry server := by
  -- A text that is read has no fault, so it is an entry, and for one server only.
  refine ⟨fun parsed => ?_, parse_of_entry trimmed⟩
  rcases entry_or_faulty entry with ⟨other, known⟩ | ⟨problem, fault⟩
  · obtain rfl := Except.ok.inj (parsed.symm.trans (parse_of_entry trimmed known))
    exact known
  · cases parsed.symm.trans (parse_of_faulty trimmed fault)

/-- A text is refused exactly for its fault. -/
theorem parse_eq_error_iff {text : String} {entry : List Char}
    (trimmed : Text.trim text.toList = entry) {problem : ServerProblem} :
    parse text = .error problem ↔ Faulty entry problem := by
  -- A text that is refused is no entry, so it has a fault, and only one.
  refine ⟨fun refused => ?_, parse_of_faulty trimmed⟩
  rcases entry_or_faulty entry with ⟨server, known⟩ | ⟨other, fault⟩
  · cases refused.symm.trans (parse_of_entry trimmed known)
  · obtain rfl := Except.error.inj (refused.symm.trans (parse_of_faulty trimmed fault))
    exact fault

/--
Reading a server entry follows the grammar: of the text without the blank characters around it, a
server is read exactly if the text is an entry for this server, which has no zone and no facts. Any
other text is refused, for the fault that it has.
-/
theorem parse_follows_grammar (text : String) :
    ∃ entry, Text.Trimmed text.toList entry ∧
      (∀ server, parse text = .ok server ↔ Entry entry server) ∧
      (∀ server, parse text = .ok server → server.zone = none ∧ server.metadata = .empty) ∧
      (∀ problem, parse text = .error problem ↔ Faulty entry problem) ∧
      ((∀ server, ¬Entry entry server) → ∃ problem, parse text = .error problem) := by
  refine ⟨Text.trim text.toList, Text.trimmed_trim _, fun server => parse_eq_ok_iff rfl, ?_,
    fun problem => parse_eq_error_iff rfl, ?_⟩
  · exact fun server parsed => ((parse_eq_ok_iff rfl).mp parsed).unadorned
  · -- What is not read is refused.
    intro foreign
    cases read : parse text with
    | ok server => exact absurd ((parse_eq_ok_iff rfl).mp read) (foreign server)
    | error problem => exact ⟨problem, rfl⟩

end ServiceCall.Server
