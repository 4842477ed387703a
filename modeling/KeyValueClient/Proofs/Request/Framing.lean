import KeyValueClient.Proofs.Request.Tokens
import KeyValueClient.Request.Reader

/-!
# Requests cannot be forged

A server that reads requests one after the other finds exactly the requests that were
written, whatever their arguments hold and whichever encoding each of them uses, and stops
at what follows them.

Main results:

- Theorem `Request.tokens_inlineHead`: the tokens of a line are told apart.
- Theorems `Request.read?_counted` and `Request.read?_shaped`: one request is read back in
  either layout.
- Theorem `Request.readMany?_appendAll`: so are many, each in its own encoding.
-/

namespace KeyValueClient.Request

/-! ## Names -/

/-- The name of a command is made of capital letters. -/
theorem name_letters (command : Command) :
    Bytes.ofText command.name ≠ [] ∧
      ∀ b ∈ Bytes.ofText command.name, 65 ≤ b.toNat ∧ b.toNat ≤ 90 := by
  have h : ∀ command ∈ Command.all, Bytes.ofText command.name ≠ [] ∧
      ∀ b ∈ Bytes.ofText command.name, 65 ≤ b.toNat ∧ b.toNat ≤ 90 := by
    decide +kernel
  exact h command (Command.mem_all command)

theorem isKey_name (command : Command) : IsKey (Bytes.ofText command.name) := by
  rcases name_letters command with ⟨hsome, hletters⟩
  refine ⟨hsome, ?_, ?_, ?_⟩ <;>
    exact fun hmem => absurd (hletters _ hmem) (by decide)

theorem findCommand?_name (command : Command) :
    findCommand? (Bytes.ofText command.name) = some command := by
  simp [findCommand?, Bytes.toText?_ofText, Command.ofName?_name]

/-! ## Lines -/

/-- A line without spaces is one token. -/
theorem tokens_token {token : Bytes} (h : Bytes.space ∉ token) : tokens token = [token] := by
  induction token with
  | nil => rfl
  | cons b rest ih =>
    rw [List.mem_cons, not_or] at h
    rw [tokens, if_neg (Ne.symm h.1), ih h.2]

/-- A token ends at the first space. -/
theorem tokens_append {token : Bytes} (h : Bytes.space ∉ token) (rest : Bytes) :
    tokens (token ++ Bytes.space :: rest) = token :: tokens rest := by
  induction token with
  | nil => simp [tokens]
  | cons b token ih =>
    rw [List.mem_cons, not_or] at h
    rw [List.cons_append, tokens, if_neg (Ne.symm h.1), ih h.2]

/-- The tokens of a line are told apart. -/
theorem tokens_flatMap {first : Bytes} {others : List Bytes} (hfirst : IsKey first)
    (hothers : ∀ token ∈ others, IsKey token) :
    tokens (first ++ others.flatMap (Bytes.space :: ·)) = first :: others := by
  induction others generalizing first with
  | nil => simpa using tokens_token hfirst.2.1
  | cons second others ih =>
    have hsecond := hothers second List.mem_cons_self
    have hrest := ih hsecond fun token hmem => hothers token (List.mem_cons_of_mem _ hmem)
    rw [List.flatMap_cons, List.cons_append, tokens_append hfirst.2.1, hrest]

theorem tokens_inlineHead {command : Command} {arguments : List Bytes}
    (h : ∀ token ∈ arguments, IsKey token) :
    tokens (inlineHead command arguments) = Bytes.ofText command.name :: arguments :=
  tokens_flatMap (isKey_name command) h

/-- A line of tokens holds no carriage return. -/
theorem cr_not_mem_inlineHead {command : Command} {arguments : List Bytes}
    (h : ∀ token ∈ arguments, IsKey token) :
    ∀ b ∈ inlineHead command arguments, b ≠ Bytes.cr := by
  rintro b hb rfl
  rcases List.mem_append.1 hb with hname | hrest
  · exact (isKey_name command).2.2.1 hname
  · rcases List.mem_flatMap.1 hrest with ⟨token, htoken, hmem⟩
    rcases List.mem_cons.1 hmem with hspace | hmem
    · exact absurd hspace (by decide)
    · exact (h token htoken).2.2.1 hmem

/-- A line of tokens begins with a letter, so it is not the head of a list. -/
theorem exists_letter (command : Command) (arguments : List Bytes) :
    ∃ letter line, inlineHead command arguments = letter :: line ∧
      letter ≠ Marker.list.toByte := by
  rcases name_letters command with ⟨hsome, hletters⟩
  rcases List.exists_cons_of_ne_nil hsome with ⟨letter, rest, hname⟩
  refine ⟨letter, rest ++ arguments.flatMap (Bytes.space :: ·), by simp [inlineHead, hname], ?_⟩
  rintro rfl
  exact absurd (hletters Marker.list.toByte (by simp [hname])) (by decide)

/-- A line of tokens is read as a request that stands on a line. -/
theorem read?_line {command : Command} {arguments : List Bytes}
    (h : ∀ token ∈ arguments, IsKey token) (rest : Bytes) :
    read? (inlineHead command arguments ++ Bytes.crlf ++ rest) =
      readShaped? (inlineHead command arguments) rest := by
  rcases exists_letter command arguments with ⟨letter, line, hline, hletter⟩
  rw [read?, takeLine?_line (cr_not_mem_inlineHead h)]
  simp [hline, hletter]

/-! ## Requests -/

/-- A request in the counted layout is read back with what follows it. -/
theorem read?_counted (r : Request) (rest : Bytes) :
    read? (r.counted ++ rest) = some (r, rest) := by
  have hline : ∀ b ∈ Marker.list.toByte :: Decimal.ofInt ((r.arguments.length + 1 : Nat) : Int),
      b ≠ Bytes.cr := by
    intro b hb
    rcases List.mem_cons.1 hb with rfl | hb
    · decide
    · exact cr_not_mem_ofInt _ b hb
  have hvalues := takeMany?_bulk (Bytes.ofText r.command.name :: r.arguments) rest
  have hshape : r.counted ++ rest =
      Marker.list.toByte :: Decimal.ofInt ((r.arguments.length + 1 : Nat) : Int) ++ Bytes.crlf
        ++ ((Bytes.ofText r.command.name :: r.arguments).flatMap Wire.bulk ++ rest) := by
    simp [counted, Wire.line, List.append_assoc]
  rw [hshape, read?, takeLine?_line hline]
  simp only [Option.bind_eq_bind, Option.bind_some, if_true, readCounted?, readCount?_ofInt]
  rw [← List.length_cons, hvalues]
  simp [findCommand?_name]

/-- A request that carries a value is read back with what follows it. -/
theorem read?_withValue {command : Command} {arguments : List Bytes}
    (h : ∀ token ∈ arguments, IsKey token)
    (hcarries : command.requestShape.carriesValue = true) (value rest : Bytes) :
    read? (withValue command arguments value ++ rest) =
      some (⟨command, arguments ++ [value]⟩, rest) := by
  let length := Decimal.ofInt value.length
  have hlength : IsKey length := by
    rw [isKey_iff_isPlain]
    refine ⟨?_, isPlain_of_spells (Decimal.spells_ofInt _)⟩
    simp only [length, ofInt_natCast]
    exact Decimal.ofNat_ne_nil _
  have htokens : ∀ token ∈ arguments ++ [length], IsKey token := by
    intro token hmem
    rcases List.mem_append.1 hmem with hmem | hmem
    · exact h token hmem
    · rwa [List.mem_singleton.1 hmem]
  have hshape : withValue command arguments value ++ rest =
      inlineHead command (arguments ++ [length]) ++ Bytes.crlf
        ++ (value ++ Bytes.crlf ++ rest) := by
    simp [withValue, inlineHead, length, List.append_assoc]
  rw [hshape, read?_line htokens, readShaped?, tokens_inlineHead htokens]
  simp [findCommand?_name, hcarries, length, readCount?_ofInt, takePayload?_append,
    -List.append_assoc]

/-- An acceptable request in the layout of its shape is read back with what follows it. -/
theorem read?_shaped {r : Request} (h : r.IsAcceptable) (rest : Bytes) :
    read? (r.shaped ++ rest) = some (r, rest) := by
  rcases r with ⟨command, arguments⟩
  rcases h with ⟨layout, hfits, rfl⟩
  rw [shaped_eq hfits rfl]
  cases layout with
  | line tokens =>
    obtain ⟨-, hcarries, htokens⟩ := hfits.line
    rw [Layout.wire, read?_line htokens, readShaped?, tokens_inlineHead htokens]
    simp [findCommand?_name, hcarries, Layout.arguments]
  | withValue tokens value =>
    obtain ⟨-, hcarries, htokens⟩ := hfits.withValue
    exact read?_withValue htokens hcarries value rest
  | counted arguments => exact read?_counted ⟨command, arguments⟩ rest

theorem read?_wire {r : Request} (h : r.IsAcceptable) (encoding : Encoding) (rest : Bytes) :
    read? (r.wire encoding ++ rest) = some (r, rest) := by
  cases encoding with
  | shaped => exact read?_shaped h rest
  | counted => exact read?_counted r rest

/-! ## Many requests -/

/-- Check some requests and write them after what a buffer already holds, each in its own
encoding, up to the first that is refused. -/
def appendAll : List (Encoding × Request) → Bytes → Result Unit × Bytes
  | [], buffer => (.ok (), buffer)
  | (encoding, r) :: rest, buffer =>
    match r.appendTo buffer encoding with
    | (.ok (), buffer) => appendAll rest buffer
    | (.error e, buffer) => (.error e, buffer)

/-- Requests that pass their checks add their bytes in order. -/
theorem appendAll_ok {entries : List (Encoding × Request)}
    (h : ∀ entry ∈ entries, entry.2.check = .ok ()) (buffer : Bytes) :
    appendAll entries buffer =
      (.ok (), buffer ++ entries.flatMap fun entry => entry.2.wire entry.1) := by
  induction entries generalizing buffer with
  | nil => simp [appendAll]
  | cons entry rest ih =>
    rcases entry with ⟨encoding, r⟩
    have hcheck := h (encoding, r) List.mem_cons_self
    have hrest := ih fun entry hmem => h entry (List.mem_cons_of_mem _ hmem)
    rw [appendAll, appendTo_ok hcheck]
    dsimp only
    rw [hrest, List.flatMap_cons, List.append_assoc]

/-- Requests that pass their checks, each written in its own encoding, are read back one
after the other with their arguments, and what follows them is left. -/
theorem readMany?_appendAll (entries : List (Encoding × Request))
    (hcheck : ∀ entry ∈ entries, entry.2.check = .ok ()) (buffer tail : Bytes) :
    ∃ bytes, appendAll entries buffer = (.ok (), buffer ++ bytes) ∧
      readMany? entries.length (bytes ++ tail) = some (entries.map Prod.snd, tail) := by
  refine ⟨_, appendAll_ok hcheck buffer, ?_⟩
  apply takeMany?_flatMap
  intro entry hmem rest
  exact read?_wire (isAcceptable_of_check (hcheck entry hmem)) entry.1 rest

/-- A value that looks like another request, a score with an exponent, and pairs with an
empty value, in both encodings. -/
theorem readMany?_appendAll_disguised :
    let entries : List (Encoding × Request) :=
      [(.shaped, ⟨.set, [Bytes.ofText "k", Bytes.ofText "v\r\n*1\r\n$8\r\nFLUSHALL\r\n"]⟩),
        (.counted, ⟨.get, [Bytes.ofText "k"]⟩),
        (.shaped, ⟨.zAdd, [Bytes.ofText "z", Bytes.ofText "-.5e+1", Bytes.ofText "a b"]⟩),
        (.shaped, ⟨.mSet, [Bytes.ofText "k", []]⟩)]
    (∀ entry ∈ entries, entry.2.check = .ok ()) ∧
      ∃ bytes, appendAll entries [] = (.ok (), [] ++ bytes) ∧
        readMany? entries.length (bytes ++ Bytes.ofText "PING\r\n") =
          some (entries.map Prod.snd, Bytes.ofText "PING\r\n") := by
  intro entries
  have hcheck : ∀ entry ∈ entries, entry.2.check = .ok () := by
    intro entry hmem
    simp only [entries, List.mem_cons, List.not_mem_nil, or_false] at hmem
    rcases hmem with rfl | rfl | rfl | rfl <;> rfl
  exact ⟨hcheck, readMany?_appendAll entries hcheck [] _⟩

end KeyValueClient.Request
