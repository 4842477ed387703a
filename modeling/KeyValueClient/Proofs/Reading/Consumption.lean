import KeyValueClient.Proofs.Reading.Composed
import KeyValueClient.Proofs.Reading.Rules
import KeyValueClient.Reply.Limits

/-!
# What readings consume

A reading that succeeds has taken some bytes off the front of the flat stream and left the
rest.  Two predicates say how the bytes and the result belong together.  A reading accepts
a byte string as a result if it gives that result whenever these bytes are in front, and
takes just them.  A reading yields pairs of a certain kind if whatever it gives forms such
a pair with the bytes it took.  Both follow the composition of the reading.

Main results:

- Theorems `Reading.accepts_header` and `Reading.yields_header`: a header is a line whose
  body holds no line feed and fits the line limit.
- Theorems `Reading.Accepts.bind` and `Reading.Yields.bind`: the rules of composition.
- Theorem `Outcome.read_ok_iff`: a reply is a header and what it calls for, or the end of the
  stream behind a command that ends the connection.
-/

namespace KeyValueClient

/-! ## Flat reads that succeed -/

namespace FlatStream

variable {s s' : FlatStream} {n limit : Nat} {body bytes : Bytes}

/-- A number of bytes that was read came off the front. -/
theorem of_readExact (h : s.readExact n = .ok bytes s') :
    s = s'.after bytes ∧ bytes.length = n := by
  rcases exists_eq_after s with ⟨front, hs, hfront⟩
  rw [hs] at h ⊢
  cases (readExact_iff hfront).1 h with
  | handed split enough => exact ⟨by rw [after_after, ← split], enough⟩

/-- A line that was read came off the front with its terminator. -/
theorem of_readLine (h : s.readLine limit = .ok body s') :
    s = s'.after (body ++ Bytes.crlf) ∧ Bytes.lf ∉ body ∧ body.length + 2 ≤ limit := by
  rcases exists_eq_after s with ⟨front, hs, hfront⟩
  rw [hs] at h ⊢
  cases (readLine_iff hfront).1 h with
  | handed split first fits => exact ⟨by rw [after_after, ← split], first, fits⟩

/-- A line that falls short by all its bytes has met the end of the stream in front. -/
theorem of_readLine_silent (h : s.readLine limit = .error (.endOfStream n 0) s') :
    s.nth 0 = .ended ∧ s' = s.drop 1 := by
  rcases exists_eq_after s with ⟨front, hs, hfront⟩
  generalize (leading s.items).1 = bytes at hs
  subst hs
  have hrule := (readLine_iff hfront).1 h
  -- Of the cases of the rule only the last one reports an end of the stream.
  generalize hmet : EStateM.Result.error (Error.endOfStream n 0) s' = outcome at hrule
  cases hrule with
  | short unended short =>
    injection hmet with hreport hs'
    cases hnth : front.nth 0 with
    | byte b => exact absurd hnth (hfront b)
    | failed cause =>
      rw [hnth] at hreport
      contradiction
    | ended =>
      rw [hnth] at hreport
      injection hreport with _ hnone
      rw [eq_comm, List.length_eq_zero_iff] at hnone
      subst hnone
      exact ⟨hnth, hs'⟩
  | _ => injections

end FlatStream

/-! ## The reads of a channel -/

namespace Reading

variable {α β : Type} {limit : Nat}

/-- Whenever these bytes are in front, the reading takes just them and gives this
result. -/
def Accepts (limit : Nat) (x : Reading α) (b : Bytes) (a : α) : Prop :=
  ∀ (ch : Channel) (s : FlatStream), ch.lineLimit = limit → ch.flat = s.after b →
    ∃ ch', x ch = .ok a ch' ∧ ch'.flat = s ∧ ch'.lineLimit = limit

/-- Whatever the reading gives, it has taken bytes that belong to it. -/
def Yields (limit : Nat) (x : Reading α) (P : α → Bytes → Prop) : Prop :=
  ∀ (ch ch' : Channel) (a : α), ch.lineLimit = limit → x ch = .ok a ch' →
    ∃ b, ch.flat = ch'.flat.after b ∧ ch'.lineLimit = limit ∧ P a b

/-! ### Rules of composition -/

theorem accepts_pure (limit : Nat) (a : α) : Accepts limit (pure a) [] a := by
  intro ch s hlimit hflat
  exact ⟨ch, rfl, hflat, hlimit⟩

/-- One reading after another takes their bytes in a row. -/
theorem Accepts.bind {x : Reading α} {f : α → Reading β} {first second : Bytes} {a : α} {c : β}
    (hx : Accepts limit x first a) (hf : Accepts limit (f a) second c) :
    Accepts limit (x >>= f) (first ++ second) c := by
  intro ch s hlimit hflat
  rw [← FlatStream.after_after] at hflat
  rcases hx ch _ hlimit hflat with ⟨mid, hmid, hrest, hlimit'⟩
  rcases hf mid s hlimit' hrest with ⟨ch', hch', hs, hlimit''⟩
  refine ⟨ch', ?_, hs, hlimit''⟩
  change EStateM.bind x f ch = _
  rw [EStateM.bind, hmid]
  exact hch'

/-- A second reading may take nothing. -/
theorem Accepts.bind_nil {x : Reading α} {f : α → Reading β} {b : Bytes} {a : α} {c : β}
    (hx : Accepts limit x b a) (hf : Accepts limit (f a) [] c) :
    Accepts limit (x >>= f) b c := by
  have hbind := hx.bind hf
  rwa [List.append_nil] at hbind

/-- What is made of a result takes no more bytes. -/
theorem Accepts.map {x : Reading α} {b : Bytes} {a : α} (hx : Accepts limit x b a) (g : α → β) :
    Accepts limit (x >>= fun a => pure (g a)) b (g a) :=
  hx.bind_nil (accepts_pure limit (g a))

theorem yields_pure {P : α → Bytes → Prop} {a : α} (h : P a []) : Yields limit (pure a) P := by
  intro ch ch' a' hlimit hread
  injection hread with ha hch
  subst ha hch
  exact ⟨[], rfl, hlimit, h⟩

theorem yields_refuse {P : α → Bytes → Prop} (cause : ProtocolError) :
    Yields limit (refuse cause) P := by
  intro ch ch' a hlimit hread
  injection hread

/-- What a composition took belongs to its result if this follows from what its two parts
took. -/
theorem Yields.bind {x : Reading α} {f : α → Reading β} {P : α → Bytes → Prop}
    {Q : β → Bytes → Prop} (hx : Yields limit x P)
    (hf : ∀ a first, P a first → Yields limit (f a) fun c second => Q c (first ++ second)) :
    Yields limit (x >>= f) Q := by
  intro ch ch' c hlimit hread
  change EStateM.bind x f ch = _ at hread
  unfold EStateM.bind at hread
  cases hfirst : x ch with
  | error e mid =>
    rw [hfirst] at hread
    contradiction
  | ok a mid =>
    rw [hfirst] at hread
    rcases hx ch mid a hlimit hfirst with ⟨first, hch, hmid, hP⟩
    rcases hf a first hP mid ch' c hmid hread with ⟨second, hrest, hlimit', hQ⟩
    refine ⟨first ++ second, ?_, hlimit', hQ⟩
    rw [hch, hrest, FlatStream.after_after]

/-- What is made of a result belongs to the same bytes. -/
theorem Yields.map {x : Reading α} {P : α → Bytes → Prop} {Q : β → Bytes → Prop} {g : α → β}
    (hx : Yields limit x P) (h : ∀ a b, P a b → Q (g a) b) :
    Yields limit (x >>= fun a => pure (g a)) Q := by
  refine hx.bind fun a first hP => yields_pure ?_
  rw [List.append_nil]
  exact h a first hP

/-- A first reading that takes nothing leaves all to the second. -/
theorem Yields.bind_bare {x : Reading α} {f : α → Reading β} {R : α → Prop}
    {Q : β → Bytes → Prop} (hx : Yields limit x fun a b => b = [] ∧ R a)
    (hf : ∀ a, R a → Yields limit (f a) Q) : Yields limit (x >>= f) Q := by
  refine hx.bind fun a first ⟨hnone, hR⟩ => ?_
  subst hnone
  exact hf a hR

theorem Yields.mono {x : Reading α} {P Q : α → Bytes → Prop} (hx : Yields limit x P)
    (h : ∀ a b, P a b → Q a b) : Yields limit x Q := by
  intro ch ch' a hlimit hread
  rcases hx ch ch' a hlimit hread with ⟨b, hflat, hlimit', hP⟩
  exact ⟨b, hflat, hlimit', h a b hP⟩

/-! ### Lines and numbers of bytes -/

/-- Bytes in front are accepted as themselves. -/
theorem accepts_exact {bytes : Bytes} {n : Nat} (hlength : bytes.length = n) :
    Accepts limit (exact n) bytes bytes := by
  intro ch s hlimit hflat
  have hshows := ch.shows_readExact n
  rw [hflat, FlatStream.readExact_handed s (List.append_nil bytes).symm hlength] at hshows
  rw [← hlimit]
  exact hshows.of_ok

theorem yields_exact (limit n : Nat) :
    Yields limit (exact n) fun bytes b => b = bytes ∧ bytes.length = n := by
  rintro ch ch' bytes rfl hread
  have hshows := ch.shows_readExact n
  change ch.readExact n = _ at hread
  rw [hread] at hshows
  rcases hshows.ok_flat with ⟨hflat, hlimit⟩
  rcases FlatStream.of_readExact hflat with ⟨hfront, hlength⟩
  exact ⟨bytes, hfront, hlimit, rfl, hlength⟩

/-- A line is accepted as its body. -/
theorem accepts_line {body : Bytes} (hlf : Bytes.lf ∉ body) (hfits : body.length + 2 ≤ limit) :
    Accepts limit line (body ++ Bytes.crlf) body := by
  rintro ch s rfl hflat
  have hshows := ch.shows_readLine
  rw [hflat, FlatStream.readLine_handed s (List.append_nil _).symm hlf hfits] at hshows
  exact hshows.of_ok

theorem yields_line (limit : Nat) :
    Yields limit line fun body b =>
      b = body ++ Bytes.crlf ∧ Bytes.lf ∉ body ∧ body.length + 2 ≤ limit := by
  rintro ch ch' body rfl hread
  have hshows := ch.shows_readLine
  change ch.readLine = _ at hread
  rw [hread] at hshows
  rcases hshows.ok_flat with ⟨hflat, hlimit⟩
  rcases FlatStream.of_readLine hflat with ⟨hfront, hopen, hfits⟩
  exact ⟨body ++ Bytes.crlf, hfront, hlimit, rfl, hopen, hfits⟩

/-- A line is accepted as its marker and its body. -/
theorem accepts_header {marker : Marker} {body : Bytes} (hknown : ∀ byte, marker ≠ .other byte)
    (hlf : Bytes.lf ∉ body) (hfits : FitsLine limit body) :
    Accepts limit header (Wire.line marker body) (marker, body) := by
  have hmarker : marker.toByte ≠ Bytes.lf := by
    cases marker with
    | other byte => exact absurd rfl (hknown byte)
    | _ => decide
  have hopen : Bytes.lf ∉ marker.toByte :: body := by
    simp [hmarker.symm, hlf]
  have hroom : (marker.toByte :: body).length + 2 ≤ limit := hfits
  have hheader : Accepts limit header (marker.toByte :: body ++ Bytes.crlf)
      (Marker.ofByte marker.toByte, body) :=
    (accepts_line hopen hroom).bind_nil (accepts_pure limit _)
  rwa [Marker.ofByte_toByte hknown] at hheader

/-- A header is a line whose body holds no line feed and fits the line limit. -/
theorem yields_header (limit : Nat) :
    Yields limit header fun first b =>
      b = Wire.line first.1 first.2 ∧ Bytes.lf ∉ first.2 ∧ FitsLine limit first.2 := by
  refine (yields_line limit).bind ?_
  rintro bytes b ⟨rfl, hopen, hfits⟩
  cases bytes with
  | nil => exact yields_refuse _
  | cons byte body =>
    refine yields_pure ⟨?_, fun hmem => hopen (List.mem_cons_of_mem _ hmem), hfits⟩
    rw [List.append_nil, Wire.line, Marker.toByte_ofByte]

/-- A header that falls short by all its bytes has met the end of the stream in front. -/
theorem header_silent {ch ch' : Channel} {n : Nat}
    (h : header ch = .error (.endOfStream n 0) ch') :
    ch.flat.nth 0 = .ended ∧ ch'.flat = ch.flat.drop 1 := by
  change EStateM.bind line _ ch = _ at h
  unfold EStateM.bind at h
  have hshows := ch.shows_readLine
  cases hline : ch.readLine with
  | error e mid =>
    rw [line, hline] at h
    rw [hline] at hshows
    injection h with he hch
    subst he hch
    exact FlatStream.of_readLine_silent hshows.error_flat
  | ok bytes mid =>
    rw [line, hline] at h
    cases bytes with
    | nil => injections
    | cons first body => contradiction

end Reading

/-! ## Whole replies -/

/-- A close is silent if it is met before the first byte of an answer to a terminal
command. -/
theorem Error.isSilentClose_iff {command : Command} {e : Error} :
    e.isSilentClose command = true ↔
      ∃ n, e = .endOfStream n 0 ∧ command.isTerminal = true := by
  unfold Error.isSilentClose
  split <;> simp_all

/-- A reply is its header and what the header calls for, or the silent close of the stream
behind a terminal command. -/
theorem Outcome.read_ok_iff {command : Command} {ch ch' : Channel} {o : Outcome} :
    Outcome.read command ch = .ok o ch' ↔
      (Reading.header >>= fun first => Reading.outcome command first.1 first.2) ch = .ok o ch' ∨
      ∃ n, Reading.header ch = .error (.endOfStream n 0) ch' ∧ command.isTerminal = true ∧
        o = .terminal := by
  change _ ↔ EStateM.bind Reading.header _ ch = _ ∨ _
  unfold Outcome.read EStateM.bind
  cases hheader : Reading.header ch with
  | ok first mid => simp
  | error e mid =>
    dsimp only
    split_ifs with hclose
    · rcases Error.isSilentClose_iff.1 hclose with ⟨n, rfl, hterminal⟩
      simp [hterminal, and_comm, eq_comm]
    · rw [Error.isSilentClose_iff] at hclose
      simp_all

end KeyValueClient
