import KeyValueClient.Request.Wire

/-!
# Requests as the server reads them

A server reads a line.  Behind the marker of a list stands the number of bulk values
that make up the request; any other line is split at its spaces, and if the command
carries a value, the last token is the length of the bytes that follow.  Commands are
looked up in the catalog.

Main results:

- Theorem `Request.takeLine?_line`: a line is read up to its terminator.
- Theorem `Request.takeBulk?_bulk`: a bulk value is read back with what follows it.
- Theorem `Request.takeMany?_flatMap`: pieces that are read back one by one are read
  back together.
-/

namespace KeyValueClient.Request

/-! ## Pieces -/

/-- The bytes before the first terminator, and those after it. -/
def takeLine? : Bytes → Option (Bytes × Bytes)
  | a :: b :: rest =>
    if a = Bytes.cr ∧ b = Bytes.lf then some ([], rest)
    else (takeLine? (b :: rest)).map fun (line, rest) => (a :: line, rest)
  | _ => none

/-- So many bytes and a terminator. -/
def takePayload? (n : Nat) (b : Bytes) : Option (Bytes × Bytes) :=
  let after := b.drop n
  if after.take Bytes.crlf.length = Bytes.crlf then
    some (b.take n, after.drop Bytes.crlf.length)
  else none

/-- The tokens of a line, between single spaces. -/
def tokens : Bytes → List Bytes
  | [] => [[]]
  | b :: rest =>
    if b = Bytes.space then [] :: tokens rest
    else match tokens rest with
      | [] => [[b]]
      | token :: others => (b :: token) :: others

/-- A length or count: digits, and nothing else. -/
def readCount? (b : Bytes) : Option Nat :=
  if b.isEmpty || !b.all Decimal.isDigit then none else some (Decimal.value b)

/-- A bulk value behind its length line. -/
def takeBulk? (b : Bytes) : Option (Bytes × Bytes) := do
  let (line, rest) ← takeLine? b
  match line with
  | [] => none
  | marker :: length =>
    if marker = Marker.bulk.toByte then takePayload? (← readCount? length) rest else none

/-- So many pieces of one kind, one after the other. -/
def takeMany? {α : Type} (take? : Bytes → Option (α × Bytes)) :
    Nat → Bytes → Option (List α × Bytes)
  | 0, b => some ([], b)
  | n + 1, b => do
    let (piece, rest) ← take? b
    let (pieces, rest) ← takeMany? take? n rest
    return (piece :: pieces, rest)

/-- The command whose name is a token. -/
def findCommand? (token : Bytes) : Option Command :=
  (Bytes.toText? token).bind Command.ofName?

/-! ## Whole requests -/

/-- A request that is a counted list of bulk values. -/
def readCounted? (count rest : Bytes) : Option (Request × Bytes) := do
  let (values, rest) ← takeMany? takeBulk? (← readCount? count) rest
  match values with
  | [] => none
  | name :: arguments => return (⟨← findCommand? name, arguments⟩, rest)

/-- A request that stands on a line, perhaps with a value behind it. -/
def readShaped? (line rest : Bytes) : Option (Request × Bytes) := do
  match tokens line with
  | [] => none
  | name :: arguments =>
    let command ← findCommand? name
    if command.requestShape.carriesValue then
      let (value, rest) ← takePayload? (← readCount? (← arguments.getLast?)) rest
      return (⟨command, arguments.dropLast ++ [value]⟩, rest)
    else return (⟨command, arguments⟩, rest)

/-- One request, and the bytes after it. -/
def read? (b : Bytes) : Option (Request × Bytes) := do
  let (line, rest) ← takeLine? b
  match line with
  | [] => none
  | marker :: body =>
    if marker = Marker.list.toByte then readCounted? body rest else readShaped? line rest

/-- So many requests, and the bytes after them. -/
def readMany? : Nat → Bytes → Option (List Request × Bytes) :=
  takeMany? read?

/-! ## Laws -/

/-- A line is read up to its terminator. -/
theorem takeLine?_line {line : Bytes} (h : ∀ b ∈ line, b ≠ Bytes.cr) (rest : Bytes) :
    takeLine? (line ++ Bytes.crlf ++ rest) = some (line, rest) := by
  induction line with
  | nil => simp [Bytes.crlf, takeLine?]
  | cons a line ih =>
    have ha : a ≠ Bytes.cr := h a List.mem_cons_self
    have hline := ih fun b hb => h b (List.mem_cons_of_mem a hb)
    obtain ⟨b, after, hafter⟩ : ∃ b after, line ++ Bytes.crlf ++ rest = b :: after := by
      cases line <;> simp [Bytes.crlf]
    rw [List.cons_append, List.cons_append, hafter, takeLine?]
    rw [hafter] at hline
    simp [ha, hline]

theorem takePayload?_append (data rest : Bytes) :
    takePayload? data.length (data ++ Bytes.crlf ++ rest) = some (data, rest) := by
  simp [takePayload?, List.append_assoc]

theorem ofInt_natCast (n : Nat) : Decimal.ofInt n = Decimal.ofNat n := by
  rw [Decimal.ofInt_eq, if_neg (by omega), Int.natAbs_natCast]

theorem readCount?_ofInt (n : Nat) : readCount? (Decimal.ofInt n) = some n := by
  have hdigits : (Decimal.ofNat n).all Decimal.isDigit = true :=
    List.all_eq_true.2 fun _ hd => Decimal.isDigit_of_mem_ofNat hd
  simp [readCount?, ofInt_natCast, Decimal.ofNat_ne_nil, hdigits]

theorem cr_not_mem_ofInt (n : Nat) : ∀ b ∈ Decimal.ofInt n, b ≠ Bytes.cr := by
  rw [ofInt_natCast]
  rintro b hb rfl
  exact absurd (Decimal.isDigit_of_mem_ofNat hb) (by decide)

/-- A bulk value is read back with what follows it. -/
theorem takeBulk?_bulk (data rest : Bytes) :
    takeBulk? (Wire.bulk data ++ rest) = some (data, rest) := by
  have hlength : ∀ b ∈ Marker.bulk.toByte :: Decimal.ofInt data.length, b ≠ Bytes.cr := by
    intro b hb
    rcases List.mem_cons.1 hb with rfl | hb
    · decide
    · exact cr_not_mem_ofInt data.length b hb
  have hline := takeLine?_line hlength (data ++ Bytes.crlf ++ rest)
  have hshape : Wire.bulk data ++ rest =
      Marker.bulk.toByte :: Decimal.ofInt data.length ++ Bytes.crlf
        ++ (data ++ Bytes.crlf ++ rest) := by
    simp [Wire.bulk, Wire.line, List.append_assoc]
  rw [hshape, takeBulk?, hline]
  simpa [readCount?_ofInt, List.append_assoc] using takePayload?_append data rest

/-- Pieces that are read back one by one are read back together. -/
theorem takeMany?_flatMap {α β : Type} {take? : Bytes → Option (α × Bytes)} {write : β → Bytes}
    {meaning : β → α} {pieces : List β}
    (h : ∀ piece ∈ pieces, ∀ rest, take? (write piece ++ rest) = some (meaning piece, rest))
    (rest : Bytes) :
    takeMany? take? pieces.length (pieces.flatMap write ++ rest) =
      some (pieces.map meaning, rest) := by
  induction pieces with
  | nil => rfl
  | cons piece others ih =>
    have hpiece := h piece List.mem_cons_self
    have hothers := ih fun other hother => h other (List.mem_cons_of_mem piece hother)
    simp [takeMany?, List.append_assoc, hpiece, hothers]

/-- A list of bulk values is read back with what follows it. -/
theorem takeMany?_bulk (values : List Bytes) (rest : Bytes) :
    takeMany? takeBulk? values.length (values.flatMap Wire.bulk ++ rest) =
      some (values, rest) := by
  have hvalues : ∀ value ∈ values, ∀ rest,
      takeBulk? (Wire.bulk value ++ rest) = some (id value, rest) :=
    fun value _ rest => takeBulk?_bulk value rest
  rw [takeMany?_flatMap hvalues, List.map_id]

end KeyValueClient.Request
